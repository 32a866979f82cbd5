import MmsHttp.Proofs.Executor.HostName
import MmsHttp.Proofs.Executor.Outward
import MmsHttp.Proofs.Idna.Uniform
import MmsHttp.Proofs.Url.Host

/-!
The names that calls look up. A call checks the host in the form that people read; what is looked
up is the form for the wire. Encoding a name keeps the limits by itself, so the two agree unless
the host is written in the encoded form already.
-/

namespace MmsHttp.Executor

open HostName Idna Text

/-- A host that is written in the encoded form already, and that is too long in this form: as a
whole, or in a label that is encoded. -/
structure Overlong (written host : List Char) : Prop where
  ascii : written.all isAscii = true
  encoded : IsEncoded written
  long : 253 < (undotted host).length ∨
    ∃ label ∈ (undotted host).splitOn '.', IsEncoded label ∧ 63 < label.length

theorem Overlong.not_within {written host : List Char} (h : Overlong written host) :
    ¬ Within (undotted host) := by
  intro hwithin
  rcases h.long with hlong | ⟨label, hlabel, -, hlong⟩
  · exact absurd hwithin.length (Nat.not_le_of_lt hlong)
  · exact absurd (hwithin.label label hlabel) (Nat.not_le_of_lt hlong)

variable {text : String} {url : Url}

/-- A host that is not taken for an encoded one is checked as it is. -/
theorem within_of_plain (hcallable : url.Callable text) (hcolon : ':' ∉ url.host.toList)
    (hplain : ¬ encodedPrefix <+: url.host.toList) : Within (undotted url.host.toList) := by
  obtain ⟨host, hread, -, hvalid⟩ := hcallable.host
  have hnot : startsWith encodedPrefix url.host.toList = false := by
    rw [startsWith, ← Bool.not_eq_true, List.isPrefixOf_iff_prefix]
    exact hplain
  rw [Url.readableHost, hnot] at hread
  obtain rfl := Except.ok.inj hread
  exact ((isValidHost_iff hcolon).mp hvalid).toWithin

/-- In a host that is taken for an encoded one the labels that are not encoded keep the limit. -/
theorem length_of_plain_label (hcallable : url.Callable text)
    (hascii : ∀ c ∈ url.host.toList, c.toNat < 128) (hencoded : encodedPrefix <+: url.host.toList) :
    ∀ label ∈ (undotted url.host.toList).splitOn '.', ¬ IsEncoded label → label.length ≤ 63 := by
  obtain ⟨host, hread, -, hvalid⟩ := hcallable.host
  rw [Url.readableHost, startsWith, if_pos (List.isPrefixOf_iff_prefix.mpr hencoded)] at hread
  split at hread
  case h_2 => cases hread
  case h_1 codes hdecode =>
    obtain rfl := Except.ok.inj hread
    obtain ⟨hcolon, hreads⟩ := reads_decodeName hascii hdecode
    have hbounded := (isValidHost_iff (by simpa using hcolon)).mp hvalid
    rw [String.toList_ofList] at hbounded
    have hshort : ∀ label ∈ (codes.map Char.ofNat).splitOn '.', label.length ≤ 63 := by
      rw [splitOn_eq]
      refine List.forall_mem_append.mpr ⟨hbounded.label, fun label hlabel => ?_⟩
      rw [List.eq_of_mem_replicate hlabel]
      exact Nat.zero_le 63
    intro label hlabel hplain
    obtain ⟨read, hmem, hlength⟩ :=
      exists_of_forall₂_of_mem hreads label (mem_splitOn_of_undotted hlabel)
    rw [← hlength hplain]
    exact hshort read hmem

/-- A host in ASCII goes out as it is written but for escapes, so it is taken for an encoded one
only if it is written so. -/
theorem within_iff_of_ascii {written host : List Char} (hascii : written.all isAscii = true)
    (hhost : host = Url.escape Url.inHost (written.map lowerAscii))
    (hplain : ':' ∉ host → ¬ encodedPrefix <+: host → Within (undotted host))
    (hlabels : (∀ c ∈ host, c.toNat < 128) → encodedPrefix <+: host →
      ∀ label ∈ (undotted host).splitOn '.', ¬ IsEncoded label → label.length ≤ 63) :
    (Url.isIpv6 host = true ∨ Within (undotted host)) ↔ ¬ Overlong written host := by
  have hchars : ∀ c ∈ host, c.toNat < 128 ∧ c ≠ ':' := hhost ▸ Url.mem_escape_inHost
  have hcolon : ':' ∉ host := fun h => (hchars ':' h).2 rfl
  constructor
  · rintro (haddress | hwithin) hlong
    · exact hcolon (Url.colon_mem_of_isIpv6 haddress)
    · exact hlong.not_within hwithin
  · intro hnot
    refine Or.inr ?_
    by_cases hencoded : encodedPrefix <+: host
    · have hwritten : IsEncoded written :=
        Url.prefix_of_prefix_escape (by decide) (hhost ▸ hencoded)
      have hshort := hlabels (fun c hc => (hchars c hc).1) hencoded
      constructor
      · by_contra hlong
        exact hnot ⟨hascii, hwritten, Or.inl (Nat.lt_of_not_le hlong)⟩
      · intro label hlabel
        by_cases hlabelled : IsEncoded label
        · by_contra hlong
          exact hnot ⟨hascii, hwritten, Or.inr ⟨label, hlabel, hlabelled, Nat.lt_of_not_le hlong⟩⟩
        · exact hshort label hlabel hlabelled
    · exact hplain hcolon hencoded

/-- The limits hold on the wire for every callable URL but one that is written too long. -/
theorem within_iff_of_callable (hcallable : url.Callable text) :
    (Url.isIpv6 url.host.toList = true ∨ Within (undotted url.host.toList)) ↔
      ¬ Overlong (Url.divide text.toList).host url.host.toList := by
  have hplain := within_of_plain hcallable
  have hlabels := length_of_plain_label hcallable
  have hwires := Url.wires_of_parse hcallable.parse
  generalize url.host.toList = host, (Url.divide text.toList).host = written at *
  have hwithin (h : Within (undotted host)) :
      (Url.isIpv6 host = true ∨ Within (undotted host)) ↔ ¬ Overlong written host :=
    iff_of_true (Or.inr h) fun hlong => hlong.not_within h
  cases hwires with
  | nothing => exact hwithin ⟨by decide, by decide⟩
  | quad hquad =>
      have hchars := Url.mem_of_isIpv4 hquad
      refine hwithin (hplain (Url.colon_not_mem_of_isIpv4 hquad) fun hencoded => ?_)
      exact absurd (hchars 'x' (hencoded.subset List.mem_cons_self)) (by decide)
  | address _ hinside hopening =>
      refine iff_of_true (Or.inl hinside) fun hlong => ?_
      obtain ⟨rest, hrest⟩ := hlong.encoded
      obtain ⟨more, rfl⟩ := List.head?_eq_some_iff.mp hopening
      exact absurd (List.cons.inj hrest).1 (by decide)
  | ascii hascii => exact within_iff_of_ascii hascii rfl hplain hlabels
  | name _ hname => exact hwithin (within_encodeName hname)

/-- The host of the first request that a call sends keeps the limits on the wire, unless it is
written in the encoded form and is too long in it. An IPv6 address has none to keep. -/
theorem looked_up_within_limits_iff {executor : Executor} {call : Call} {script : Script}
    {first : Outgoing} {rest : List Outgoing}
    (hsent : (executor.execute Script.channel call script).world.sent =
      script.sent ++ first :: rest) :
    let written := (Url.divide call.transaction.url.toList).host
    let host := first.url.host.toList
    (Url.isIpv6 host = true ∨ Within (undotted host)) ↔ ¬ Overlong written host := by
  intro written host
  have hsends : (executor.execute Script.channel call script).world.sent ≠ script.sent := by
    simp [hsent]
  obtain ⟨url, own, hgoes⟩ := exists_goesOut_of_sent hsends
  obtain ⟨more, hown⟩ := hgoes.sent_first script
  obtain rfl : first = own := (List.cons.inj (List.append_cancel_left (hsent.symm.trans hown))).1
  have hurl : first.url = url := (sound_opening hgoes.admits hgoes.opening).2
  rw [← hurl] at hgoes
  exact within_iff_of_callable hgoes.admits.callable

/-- A name with capitals and the dot for the root. -/
theorem looked_up_within_limits_with_root :
    let executor : Executor := { locale := "en_US" }
    let call : Call := { transaction := { method := "GET", url := "http://MMS.example./m" } }
    ∃ first, (executor.execute Script.channel call { replies := [] }).world.sent = [first] ∧
      first.url.host = "mms.example." ∧
      ((Url.isIpv6 first.url.host.toList = true ∨ Within (undotted first.url.host.toList)) ↔
        ¬ Overlong "MMS.example.".toList first.url.host.toList) ∧
      Within "mms.example".toList := by
  intro executor call
  have hhosts : (executor.execute Script.channel call { replies := [] }).world.sent.map
      (fun request => request.url.host) = ["mms.example."] := by decide +kernel
  obtain ⟨first, hsent, hhost⟩ := List.map_eq_singleton_iff.mp hhosts
  have hwritten : (Url.divide call.transaction.url.toList).host = "MMS.example.".toList := by
    decide +kernel
  have hiff := looked_up_within_limits_iff hsent
  rw [hwritten] at hiff
  have hplain : ¬ Overlong "MMS.example.".toList first.url.host.toList :=
    fun hlong => absurd hlong.encoded (by unfold IsEncoded; decide)
  refine ⟨first, hsent, hhost, hiff, ?_⟩
  rcases hiff.mpr hplain with haddress | hwithin
  · rw [hhost] at haddress
    exact absurd haddress (by decide +kernel)
  · rw [hhost] at hwithin
    exact hwithin

/-- Sixty letters for which an encoded label needs sixty-six: they are counted as they are read, and
the longer label is looked up. -/
theorem looks_up_overlong_label :
    let label := "xn--zcaaaaaaaaaaaaaaaaaaaaaaaaaaaaaaaaaaaaaaaaaaaaaaaaaaaaaaaaaaaa"
    let executor : Executor := { locale := "en_US" }
    let call : Call := { transaction := { method := "GET", url := "http://" ++ label ++ "/" } }
    ∃ first rest, (executor.execute Script.channel call { replies := [] }).world.sent =
        first :: rest ∧
      first.url.host = label ∧ Url.isIpv6 label.toList = false ∧
      ¬ Within (undotted label.toList) := by
  intro label executor call
  let url : Url := ⟨"http", "", label, none, "/", none, none⟩
  let deltas : List Char := 'z' :: 'c' :: List.replicate 60 'a'
  have hparse : Url.parse call.transaction.url = .ok url := by decide +kernel
  have hread : url.readableHost = .ok (String.ofList (List.replicate 60 'ß')) := by
    have hlabel : label.toList = encodedPrefix ++ deltas := by decide +kernel
    have hletters : ∀ c ∈ deltas, c.isLower = true :=
      List.forall_iff_forall_mem.mp (by decide +kernel)
    have hsharp : Punycode.decode? deltas = some (List.replicate 60 0xDF) := by decide +kernel
    have hdecode : decodeName label.toList = .ok (List.replicate 60 0xDF) := by
      rw [hlabel]
      exact decodeName_of_decoded hletters (by decide) hsharp
        (simple_sharp.checkLabel_replicate (by decide) (by decide)) (by decide)
    have hstarts : startsWith encodedPrefix label.toList = true := by decide +kernel
    simp only [Url.readableHost, url, hstarts, if_true, hdecode, List.map_replicate]
  have hcallable : url.Callable call.transaction.url :=
    { parse := hparse
      scheme := by decide
      host := ⟨_, hread, by decide +kernel, by decide +kernel⟩ }
  have hadmits : executor.Admits call url :=
    { usable := (inputRefusal?_eq_none_iff _).mp (by decide +kernel)
      callable := hcallable
      sendable := (requestFailure?_eq_none_iff _).mp (by decide +kernel) }
  have hfits : Outgoing.HostFits url := by
    rw [Outgoing.HostFits]
    decide +kernel
  obtain ⟨first, hopening⟩ := (opening_isOk_iff hadmits).mpr ⟨by decide +kernel, Or.inr hfits⟩
  have hgoes : executor.GoesOut call url first := ⟨hadmits, hopening⟩
  obtain ⟨rest, hsent⟩ := hgoes.sent_first { replies := [] }
  have hhost : first.url.host = label := by rw [(sound_opening hadmits hopening).2]
  have hlong : ¬ Within (undotted label.toList) := by
    intro hwithin
    exact absurd (hwithin.label label.toList (by decide +kernel)) (by decide +kernel)
  exact ⟨first, rest, hsent, hhost, by decide +kernel, hlong⟩

end MmsHttp.Executor
