import MmsHttp.Cookie
import MmsHttp.Proofs.Text.Split
import MmsHttp.Proofs.Url.Reference

/-!
What stops cookies from being taken from a response or sent with a request. At an address of HTTP
with a host this can only be the authority, whatever the headers and the clock.
-/

namespace MmsHttp

open Fault Text

/-- A URL that has a scheme and a host begins with the scheme and two slashes. -/
theorem Url.isPrefix_text {url : Url} (hscheme : url.scheme ≠ "") (hhost : url.host ≠ "") :
    url.scheme.toList ++ "://".toList <+: url.text.toList := by
  have hserver : url.hostAndPort ≠ "" := by
    unfold hostAndPort
    dsimp only
    split <;> split <;> simp only [ne_eq, String.append_eq_empty_iff, hhost, toString] <;> simp
  have hauthority : url.authority ≠ "" := by
    unfold authority
    split
    · exact hserver
    · simp only [ne_eq, String.append_eq_empty_iff, hserver, and_false, not_false_eq_true]
  unfold text
  dsimp only
  rw [if_neg (by simpa using hscheme), if_neg (by simpa using hauthority)]
  simp only [String.toList_append, List.append_assoc]
  exact (List.prefix_append_right_inj _).mpr ⟨_, rfl⟩

namespace Cookie

section Foreign

theorem foreign_placeOf (cs : List Char) : Foreign (placeOf cs) := by
  intro fault h
  unfold placeOf at h
  dsimp only at h
  split at h
  · cases h
    rfl
  · split at h
    case h_1 hauthority =>
      cases h
      exact Url.foreign_of_authorityFault? hauthority
    case h_2 => cases h

theorem Place.foreign_port (place : Place) : Foreign place.port := by
  unfold port port?
  cases place.authority with
  | none => exact Foreign.error rfl
  | some authority =>
      dsimp only
      split <;> exact Foreign.ok _

theorem foreign_passing {test : Cookie → Except Fault Bool}
    (htest : ∀ cookie, Foreign (test cookie)) (cookies : List Cookie) :
    Foreign (passing test cookies) := by
  induction cookies with
  | nil => exact Foreign.ok []
  | cons cookie rest ih =>
      apply (htest cookie).bind
      intro passes _
      exact ih.bind fun _ _ => Foreign.ok _

theorem foreign_accepts (place : Place) (cookie : Cookie) : Foreign (accepts place cookie) := by
  unfold accepts
  split
  · exact Foreign.ok false
  · split
    · exact place.foreign_port.map _
    · exact Foreign.ok true

theorem foreign_goesTo (now : Int) (place : Place) (cookie : Cookie) :
    Foreign (goesTo now place cookie) := by
  unfold goesTo
  extract_lets
  split
  · exact Foreign.ok false
  · split
    · exact Foreign.ok _
    · exact Foreign.ok _
    · exact place.foreign_port.map _

theorem foreign_change (present : Instant) (url : Url) (headers : List Header) :
    Foreign (change present url headers) := by
  apply (foreign_placeOf _).bind
  intro place _
  dsimp only
  split
  · exact Foreign.ok _
  · exact (foreign_passing (foreign_accepts place) _).bind fun _ _ => Foreign.ok _

theorem foreign_header? (present : Instant) (jar : Jar) (url : Url) :
    Foreign (header? present jar url) := by
  apply (foreign_placeOf _).bind
  intro place _
  apply (foreign_passing (foreign_goesTo present.seconds place) _).bind
  intro cookies _
  dsimp only
  split <;> exact Foreign.ok _

end Foreign

theorem passing_eq_ok {test : Cookie → Except Fault Bool}
    (htest : ∀ cookie, ∃ passes, test cookie = .ok passes) (cookies : List Cookie) :
    ∃ some, passing test cookies = .ok some := by
  induction cookies with
  | nil => exact ⟨[], rfl⟩
  | cons cookie rest ih =>
      obtain ⟨passes, hpasses⟩ := htest cookie
      obtain ⟨some, hsome⟩ := ih
      exact ⟨_, bind_eq_ok_iff.mpr ⟨passes, hpasses, bind_eq_ok_iff.mpr ⟨some, hsome, rfl⟩⟩⟩

/-- A place with an authority can be asked for its port. -/
theorem Place.port_eq_ok {place : Place} {authority : List Char}
    (h : place.authority = some authority) : ∃ port, place.port = .ok port := by
  unfold port port?
  rw [h]
  dsimp only
  split <;> exact ⟨_, rfl⟩

theorem accepts_eq_ok {place : Place} {authority : List Char}
    (h : place.authority = some authority) (cookie : Cookie) :
    ∃ kept, accepts place cookie = .ok kept := by
  unfold accepts
  split
  · exact ⟨false, rfl⟩
  · split
    · obtain ⟨port, hport⟩ := Place.port_eq_ok h
      rw [hport]
      exact ⟨_, rfl⟩
    · exact ⟨true, rfl⟩

/-- The end of an address does not reach back over what the address begins with. -/
theorem isPrefix_splitFragment {beginning cs : List Char} (hbeginning : '#' ∉ beginning)
    (hcs : beginning <+: cs) : beginning <+: (splitFragment cs).1 := by
  have hfront {front after : List Char} (hcut : cutLast (· == '#') cs = (some front, after)) :
      beginning <+: front :=
    isPrefix_of_cutLast hcut (forall_beq_eq_false_iff.mpr hbeginning) hcs
  unfold splitFragment
  split
  case h_1 hcut => exact hfront hcut
  case h_2 hcut => exact hfront hcut
  case h_3 => exact hcs

theorem splitKind?_append {kind rest : List Char} (hsome : kind ≠ [])
    (hkind : kind.all fun c => c != '/' && c != ':') :
    splitKind? (kind ++ ':' :: rest) = some (kind, rest) := by
  unfold splitKind?
  have hword : (kind ++ ':' :: rest).takeWhile (fun c => c != '/' && c != ':') = kind := by
    rw [List.takeWhile_append_of_pos (List.all_eq_true.mp hkind)]
    simp
  dsimp only
  rw [hword, List.drop_left]
  simp [hsome]

section Supported

variable {url : Url} (hscheme : url.scheme ∈ Url.supportedSchemes) (hhost : url.host ≠ "")

include hscheme hhost

/-- An address of HTTP with a host says of what kind it is, and two slashes come next. -/
private theorem splitKind?_of_supported :
    unwrapped url.text.toList = url.text.toList ∧
      ∃ rest, splitKind? (splitFragment url.text.toList).1 =
        some (url.scheme.toList, '/' :: '/' :: rest) := by
  have hschemes : url.scheme = "http" ∨ url.scheme = "https" := by
    simpa [Url.supportedSchemes] using hscheme
  have hbegins := Url.isPrefix_text (by rcases hschemes with h | h <;> simp [h]) hhost
  have hmark : '#' ∉ url.scheme.toList ++ "://".toList := by
    rcases hschemes with h | h <;> rw [h] <;> decide
  constructor
  · obtain ⟨rest, hrest⟩ := hbegins
    unfold unwrapped
    rw [← hrest]
    rcases hschemes with h | h <;> rw [h] <;> rfl
  · obtain ⟨rest, hrest⟩ := isPrefix_splitFragment hmark hbegins
    refine ⟨rest, ?_⟩
    rw [← hrest, List.append_assoc]
    exact splitKind?_append (by rcases hschemes with h | h <;> simp [h])
      (by rcases hschemes with h | h <;> rw [h] <;> decide)

/-- Such an address leads to a place, which has an authority, unless its own cannot be taken
apart. -/
theorem placeOf_of_supported :
    (∃ fault, Url.authorityFault? (Url.Reference.split [] url.text.toList).authority = some fault ∧
      placeOf url.text.toList = .error fault) ∨
    (Url.authorityFault? (Url.Reference.split [] url.text.toList).authority = none ∧
      ∃ place authority, placeOf url.text.toList = .ok place ∧
        place.authority = some authority) := by
  obtain ⟨hbare, rest, hkind⟩ := splitKind?_of_supported hscheme hhost
  unfold placeOf
  dsimp only
  rw [hbare, hkind]
  dsimp only
  cases Url.authorityFault? (Url.Reference.split [] url.text.toList).authority with
  | some fault => exact Or.inl ⟨fault, rfl, rfl⟩
  | none => exact Or.inr ⟨rfl, _, _, rfl, rfl⟩

/-- Cookies can be taken from a response from such an address unless its authority cannot be
taken apart. -/
theorem change_eq_error_iff {present : Instant} {headers : List Header} {fault : Fault} :
    change present url headers = .error fault ↔
      Url.authorityFault? (Url.Reference.split [] url.text.toList).authority = some fault := by
  unfold change
  rcases placeOf_of_supported hscheme hhost with
    ⟨other, hother, hplace⟩ | ⟨hnone, place, authority, hplace, hauthority⟩
  · rw [hplace, hother]
    simp [bind, Except.bind]
  · rw [hplace, hnone]
    refine ⟨fun h => ?_, nofun⟩
    dsimp only [bind, Except.bind] at h
    split at h
    · cases h
    · obtain ⟨kept, hkept⟩ := passing_eq_ok (accepts_eq_ok hauthority) _
      rw [hkept] at h
      cases h

end Supported

end Cookie

end MmsHttp
