import MmsHttp.Exchange.Redirect
import MmsHttp.Proofs.Url.Reference

namespace MmsHttp.Redirect

open Fault Url

theorem foreign_readableHost (url : Url) : Foreign url.readableHost := by
  unfold Url.readableHost
  split
  · split
    · exact Foreign.ok _
    case h_2 e _ => cases e <;> exact Foreign.error rfl
  · exact Foreign.ok _

/-- The URL of a location with the host that it takes over. A relative one takes none over
here. -/
inductive Hosts (here named : Url) : Url → Prop where
  | relative (hscheme : named.scheme = "") : Hosts here named named
  | own (hscheme : named.scheme ≠ "") (host : String) (hread : named.readableHost = .ok host)
      (hhost : host ≠ "") : Hosts here named named
  | inherits (hscheme : named.scheme ≠ "") (hread : named.readableHost = .ok "") (host : String)
      (hhere : here.readableHost = .ok host) (hosted : Url)
      (hwith : named.withHost host = .ok hosted) : Hosts here named hosted

/-- The URL that it stands for when it is read where it was found. -/
inductive Resolves (here hosted : Url) : Url → Prop where
  | absolute (habsolute : hosted.isAbsolute = true) : Resolves here hosted hosted
  | relative (habsolute : hosted.isAbsolute = false) (resolved : Url)
      (hresolve : Url.resolve here hosted = .ok resolved) : Resolves here hosted resolved

/-- The same URL with the fragment that carries over. -/
inductive Marks (here resolved : Url) : Url → Prop where
  | own (hmark : here.plainFragment = "" ∨ resolved.plainFragment ≠ "") :
      Marks here resolved resolved
  | carries (hhere : here.plainFragment ≠ "") (hmark : resolved.plainFragment = "")
      (target : Url) (hwith : resolved.withFragment here.plainFragment = .ok target) :
      Marks here resolved target

/-- A location leads from one URL to another. -/
def LeadsTo (here : Url) (location : String) (target : Url) : Prop :=
  ∃ named hosted resolved, Url.parse location = .ok named ∧ Hosts here named hosted ∧
    Resolves here hosted resolved ∧ Marks here resolved target

-- The three steps from the URL that a location is, each as a computation that can fail.

private def hostedFrom (here named : Url) : Except Fault Url :=
  if named.scheme == "" then .ok named else inheritHost here named

private def resolvedFrom (here hosted : Url) : Except Fault Url :=
  if hosted.isAbsolute then .ok hosted else Url.resolve here hosted

private def markedFrom (here resolved : Url) : Except Fault Url :=
  if here.plainFragment != "" && resolved.plainFragment == "" then
    orFault (resolved.withFragment here.plainFragment)
  else .ok resolved

theorem url_of_parse_error {here : Url} {location : String} {e : Url.Error}
    (hparse : Url.parse location = .error e) : url here location = .error .remoteProtocol := by
  unfold url
  rw [hparse]
  rfl

private theorem url_of_parse_ok {here named : Url} {location : String}
    (hparse : Url.parse location = .ok named) :
    url here location =
      hostedFrom here named >>= fun hosted =>
        resolvedFrom here hosted >>= fun resolved => markedFrom here resolved := by
  have hthird (resolved : Url) :
      (if (here.plainFragment != "" && resolved.plainFragment == "") = true then
        orFault (resolved.withFragment here.plainFragment)
      else pure resolved) = markedFrom here resolved := rfl
  have hsecond (hosted : Url) :
      (if hosted.isAbsolute = true then markedFrom here hosted
      else here.resolve hosted >>= fun resolved => markedFrom here resolved) =
        resolvedFrom here hosted >>= fun resolved => markedFrom here resolved := by
    unfold resolvedFrom
    split <;> rfl
  unfold url
  simp only [hparse, hthird, hsecond, pure_bind]
  unfold hostedFrom
  split <;> rfl

private theorem hostedFrom_eq_ok_iff {here named hosted : Url} :
    hostedFrom here named = .ok hosted ↔ Hosts here named hosted := by
  unfold hostedFrom inheritHost
  constructor
  · intro h
    split at h
    case isTrue hscheme =>
      obtain rfl := Except.ok.inj h
      exact .relative (by simpa using hscheme)
    case isFalse hscheme =>
      replace hscheme : named.scheme ≠ "" := by simpa using hscheme
      obtain ⟨host, hread, h⟩ := bind_eq_ok_iff.mp h
      split at h
      case isTrue hempty =>
        obtain ⟨hostHere, hhere, h⟩ := bind_eq_ok_iff.mp h
        obtain rfl : host = "" := by simpa using hempty
        exact .inherits hscheme hread hostHere hhere hosted (orFault_eq_ok_iff.mp h)
      case isFalse hempty =>
        obtain rfl := Except.ok.inj h
        exact .own hscheme host hread (by simpa using hempty)
  · intro h
    cases h with
    | relative hscheme => simp [hscheme]
    | own hscheme host hread hhost =>
        simp [hscheme, hread, hhost, bind, Except.bind, pure, Except.pure]
    | inherits hscheme hread host hhere hosted hwith =>
        simp [hscheme, hread, hhere, hwith, orFault, bind, Except.bind]

private theorem resolvedFrom_eq_ok_iff {here hosted resolved : Url} :
    resolvedFrom here hosted = .ok resolved ↔ Resolves here hosted resolved := by
  unfold resolvedFrom
  constructor
  · intro h
    split at h
    case isTrue habsolute =>
      obtain rfl := Except.ok.inj h
      exact .absolute habsolute
    case isFalse habsolute =>
      exact .relative (by simpa using habsolute) resolved h
  · intro h
    cases h with
    | absolute habsolute => simp [habsolute]
    | relative habsolute resolved hresolve => simp [habsolute, hresolve]

private theorem markedFrom_eq_ok_iff {here resolved target : Url} :
    markedFrom here resolved = .ok target ↔ Marks here resolved target := by
  unfold markedFrom
  constructor
  · intro h
    split at h
    case isTrue hcarries =>
      have hcarries : here.plainFragment ≠ "" ∧ resolved.plainFragment = "" := by
        simpa using hcarries
      exact .carries hcarries.1 hcarries.2 target (orFault_eq_ok_iff.mp h)
    case isFalse hown =>
      obtain rfl := Except.ok.inj h
      apply Marks.own
      by_cases hhere : here.plainFragment = ""
      · exact Or.inl hhere
      · exact Or.inr fun hmark => hown (by simp [hhere, hmark])
  · intro h
    cases h with
    | own hmark => rcases hmark with hmark | hmark <;> simp [hmark]
    | carries hhere hmark target hwith => simp [hhere, hmark, hwith, orFault]

theorem url_eq_ok_iff {here target : Url} {location : String} :
    url here location = .ok target ↔ LeadsTo here location target := by
  constructor
  · intro h
    cases hparse : Url.parse location with
    | error e =>
        rw [url_of_parse_error hparse] at h
        cases h
    | ok named =>
        rw [url_of_parse_ok hparse] at h
        obtain ⟨hosted, hhosted, h⟩ := bind_eq_ok_iff.mp h
        obtain ⟨resolved, hresolved, h⟩ := bind_eq_ok_iff.mp h
        exact ⟨named, hosted, resolved, hparse, hostedFrom_eq_ok_iff.mp hhosted,
          resolvedFrom_eq_ok_iff.mp hresolved, markedFrom_eq_ok_iff.mp h⟩
  · rintro ⟨named, hosted, resolved, hparse, hhosted, hresolved, hmarked⟩
    rw [url_of_parse_ok hparse, hostedFrom_eq_ok_iff.mpr hhosted]
    have hsecond := resolvedFrom_eq_ok_iff.mpr hresolved
    have hthird := markedFrom_eq_ok_iff.mpr hmarked
    exact bind_eq_ok_iff.mpr ⟨hosted, rfl, bind_eq_ok_iff.mpr ⟨resolved, hsecond, hthird⟩⟩

private theorem foreign_hostedFrom (here named : Url) : Foreign (hostedFrom here named) := by
  unfold hostedFrom inheritHost
  split
  · exact Foreign.ok named
  · apply (foreign_readableHost named).bind
    intro host _
    split
    · exact (foreign_readableHost here).bind fun _ _ => foreign_orFault _
    · exact Foreign.ok named

/-- Whatever stops a location that is a URL is no failure of the exchange. -/
theorem foreign_url_of_parse_ok {here named : Url} {location : String}
    (hparse : Url.parse location = .ok named) : Foreign (url here location) := by
  rw [url_of_parse_ok hparse]
  apply (foreign_hostedFrom here named).bind
  intro hosted _
  apply Foreign.bind
  · unfold resolvedFrom
    split
    · exact Foreign.ok hosted
    · exact foreign_resolve here hosted
  · intro resolved _
    unfold markedFrom
    split
    · exact foreign_orFault _
    · exact Foreign.ok resolved

end MmsHttp.Redirect
