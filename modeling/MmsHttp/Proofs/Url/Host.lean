import MmsHttp.Proofs.Fault
import MmsHttp.Proofs.Text.Ascii
import MmsHttp.Proofs.Text.Split
import MmsHttp.Url.Basic

namespace MmsHttp.Url

open Fault Text

section Escape

variable {safe : Char → Bool} {cs : List Char}

theorem isSome_hexDigit?_hexCapital {n : Nat} (h : n < 16) :
    (hexDigit? (hexCapital n)).isSome = true := by
  have hall : ∀ n : Fin 16, (hexDigit? (hexCapital n)).isSome = true := by decide
  exact hall ⟨n, h⟩

/-- What holds of the mark of an escape and of hexadecimal digits holds of all that stands for
a byte. -/
theorem forall_mem_escapeByte {P : Char → Prop} (hmark : P '%')
    (hdigit : ∀ c, (hexDigit? c).isSome = true → P c) (b : UInt8) : ∀ c ∈ escapeByte b, P c := by
  have hlow : b.toNat / 16 < 16 := Nat.div_lt_of_lt_mul b.toNat_lt
  have hhigh : b.toNat % 16 < 16 := Nat.mod_lt _ (by decide)
  simp only [escapeByte, List.forall_mem_cons]
  exact ⟨hmark, hdigit _ (isSome_hexDigit?_hexCapital hlow),
    hdigit _ (isSome_hexDigit?_hexCapital hhigh), nofun⟩

/-- What holds of safe characters, of the mark of an escape and of hexadecimal digits holds of
all that is written. -/
theorem forall_mem_escape {P : Char → Prop}
    (hsafe : ∀ c, (isUnreserved c || safe c) = true → P c) (hmark : P '%')
    (hdigit : ∀ c, (hexDigit? c).isSome = true → P c) : ∀ c ∈ escape safe cs, P c := by
  have hchar (c : Char) : ∀ d ∈ escapeChar safe c, P d := by
    unfold escapeChar
    split
    case isTrue h => simpa using hsafe c h
    case isFalse =>
      rw [List.forall_mem_flatMap]
      exact fun b _ => forall_mem_escapeByte hmark hdigit b
  fun_induction escape safe cs with
  | case1 => nofun
  | case2 a b rest hdigits ih =>
      obtain ⟨ha, hb⟩ := Bool.and_eq_true_iff.mp hdigits
      simp only [List.forall_mem_cons]
      exact ⟨hmark, hdigit a ha, hdigit b hb, ih⟩
  | case3 a b rest hdigits ih => exact List.forall_mem_append.mpr ⟨hchar '%', ih⟩
  | case4 c rest hnot ih => exact List.forall_mem_append.mpr ⟨hchar c, ih⟩

theorem escapeChar_cases (safe : Char → Bool) (c : Char) :
    escapeChar safe c = [c] ∨ ∃ rest, escapeChar safe c = '%' :: rest := by
  have hbytes : ∃ b more, utf8Char c = b :: more := by
    unfold utf8Char
    dsimp only
    repeat' split
    all_goals exact ⟨_, _, rfl⟩
  obtain ⟨b, more, hbytes⟩ := hbytes
  unfold escapeChar
  split
  · exact Or.inl rfl
  · exact Or.inr ⟨_, by rw [hbytes]; rfl⟩

/-- The text of a host is in ASCII and has no colon. -/
theorem mem_escape_inHost :
    ∀ c ∈ escape inHost cs, c.toNat < 128 ∧ c ≠ ':' := by
  have hrange {low high c : Char} (hhigh : high.toNat < 128) (h : low ≤ c ∧ c ≤ high) :
      c.toNat < 128 :=
    Nat.lt_of_le_of_lt h.2 hhigh
  have hmarks {marks : List Char} (hmarks : marks.all isAscii = true) {c : Char}
      (h : marks.contains c = true) : c.toNat < 128 := by
    simpa [isAscii] using List.all_eq_true.mp hmarks c (List.contains_iff_mem.mp h)
  refine forall_mem_escape (fun c h => ⟨?_, ?_⟩) (by decide) (fun c h => ⟨?_, ?_⟩)
  · simp only [isUnreserved, inHost, Bool.or_eq_true, Bool.and_eq_true, decide_eq_true_eq] at h
    rcases h with (((h | h) | h) | h) | h
    · exact hrange (by decide) h
    · exact hrange (by decide) h
    · exact hrange (by decide) h
    · exact hmarks (by decide) h
    · exact hmarks (by decide) h
  · rintro rfl
    exact absurd h (by decide)
  · unfold hexDigit? at h
    split at h
    case isTrue hc => exact hrange (by decide) hc
    case isFalse =>
      split at h
      case isTrue hc => exact hrange (by decide) hc
      case isFalse =>
        split at h
        case isTrue hc => exact hrange (by decide) hc
        case isFalse => cases h
  · rintro rfl
    exact absurd h (by decide)

theorem eq_nil_of_prefix_mark {before rest : List Char} (hplain : '%' ∉ before)
    (h : before <+: '%' :: rest) : before = [] := by
  rcases List.prefix_cons_iff.mp h with rfl | ⟨more, rfl, -⟩
  · rfl
  · exact absurd List.mem_cons_self hplain

/-- A beginning without escapes is written as it is. -/
theorem prefix_of_prefix_escape {before : List Char} (hplain : '%' ∉ before)
    (h : before <+: escape safe cs) : before <+: cs := by
  fun_induction escape safe cs generalizing before with
  | case1 => exact h
  | case2 a b rest hdigits ih =>
      rw [eq_nil_of_prefix_mark hplain h]
      exact List.nil_prefix
  | case3 a b rest hdigits ih =>
      rcases escapeChar_cases safe '%' with hchar | ⟨more, hchar⟩ <;>
        rw [hchar, List.cons_append] at h <;>
        rw [eq_nil_of_prefix_mark hplain h] <;>
        exact List.nil_prefix
  | case4 c rest hnot ih =>
      rcases escapeChar_cases safe c with hchar | ⟨more, hchar⟩ <;>
        rw [hchar, List.cons_append] at h
      · rcases List.prefix_cons_iff.mp h with rfl | ⟨more, rfl, hmore⟩
        · exact List.nil_prefix
        · have hrest : '%' ∉ more := fun hmem => hplain (List.mem_cons_of_mem _ hmem)
          exact List.cons_prefix_cons.mpr ⟨rfl, ih hrest hmore⟩
      · rw [eq_nil_of_prefix_mark hplain h]
        exact List.nil_prefix

end Escape

section Address

variable {cs : List Char}

theorem mem_of_isIpv4 (h : isIpv4 cs = true) : ∀ c ∈ cs, c = '.' ∨ isAsciiDigit c = true := by
  obtain ⟨-, hparts⟩ : _ ∧ (splitBy (· == '.') cs).all isOctet = true := by
    simpa [isIpv4] using h
  intro c hc
  rcases separator_or_mem_splitBy (p := (· == '.')) c hc with hdot | ⟨part, hpart, hmem⟩
  · exact Or.inl (by simpa using hdot)
  · have hoctet := List.all_eq_true.mp hparts part hpart
    simp only [isOctet, Bool.and_eq_true] at hoctet
    exact Or.inr (List.all_eq_true.mp hoctet.1.1.1.2 c hmem)

theorem colon_not_mem_of_isIpv4 (h : isIpv4 cs = true) : ':' ∉ cs :=
  fun hcolon => absurd (mem_of_isIpv4 h ':' hcolon) (by decide)

theorem colon_mem_of_isIpv6 (h : isIpv6 cs = true) : ':' ∈ cs := by
  rcases hcut : cut (· == '%') cs with ⟨address, zone⟩
  have hpart : ∀ c ∈ address, c ∈ cs := by
    cases zone with
    | none =>
        obtain ⟨rfl, -⟩ := cut_eq_none hcut
        exact fun _ => id
    | some zone =>
        obtain ⟨c, -, -, rfl⟩ := cut_eq_some hcut
        exact fun _ => List.mem_append_left _
  refine hpart ':' ?_
  by_contra hnone
  -- An address without colons is one group only.
  have hparts : splitBy (· == ':') address = [address] := by
    have hjoined := splitBy_joinWith (c := ':') (List.cons_ne_nil address [])
      (List.forall_mem_singleton.mpr hnone)
    simpa [joinWith] using hjoined
  unfold isIpv6 at h
  rw [hcut] at h
  simp [hparts] at h

end Address

/-- What the host of a URL comes to on the wire. -/
inductive Wires (written : List Char) : List Char → Prop where
  | nothing : Wires written []
  | quad (hquad : isIpv4 written = true) : Wires written written
  | address (inside : List Char) (hinside : isIpv6 inside = true)
      (hopening : written.head? = some '[') : Wires written inside
  | ascii (hascii : written.all isAscii = true) :
      Wires written (escape inHost (written.map lowerAscii))
  | name (name : List Char) (hname : Idna.encodeName (lower written) = .ok name) :
      Wires written name

theorem wires_of_wireHost {written host : List Char} (h : wireHost written = .ok host) :
    Wires written host := by
  unfold wireHost at h
  split at h
  · obtain rfl := Except.ok.inj h
    exact .nothing
  · split at h
    · split at h
      case isTrue hquad =>
        obtain rfl := Except.ok.inj h
        exact .quad hquad
      case isFalse => cases h
    · split at h
      case isTrue hbrackets =>
        dsimp only at h
        split at h
        case isTrue hinside =>
          obtain rfl := Except.ok.inj h
          simp only [Bool.and_eq_true, beq_iff_eq] at hbrackets
          exact .address _ hinside hbrackets.1.1
        case isFalse => cases h
      case isFalse =>
        split at h
        case isTrue hascii =>
          obtain rfl := Except.ok.inj h
          exact .ascii hascii
        case isFalse =>
          split at h
          case h_1 name hname =>
            obtain rfl := Except.ok.inj h
            exact .name name hname
          case h_2 => cases h

/-- The host of a URL is what the written one comes to on the wire. -/
theorem wires_of_parse {text : String} {url : Url} (hparse : parse text = .ok url) :
    Wires (divide text.toList).host url.host.toList := by
  unfold parse at hparse
  dsimp only at hparse
  split at hparse
  · cases hparse
  · split at hparse
    · cases hparse
    · obtain ⟨host, hhost, hparse⟩ := bind_eq_ok_iff.mp hparse
      obtain ⟨_, _, hparse⟩ := bind_eq_ok_iff.mp hparse
      obtain ⟨_, _, hparse⟩ := bind_eq_ok_iff.mp hparse
      obtain rfl := Except.ok.inj hparse
      simpa using wires_of_wireHost hhost

end MmsHttp.Url
