import Mathlib.Data.List.Forall2
import MmsHttp.Idna.Name
import MmsHttp.Proofs.Fault
import MmsHttp.Proofs.Text.Ascii
import MmsHttp.Proofs.Url.HostName

/-!
How long the labels of a host name are in its two forms. The form for the wire keeps the limits,
and reading a name keeps the length of every label that is not encoded. A readable label has
neither a dot nor a colon in it.
-/

namespace MmsHttp.Idna

open Fault HostName Text

/-- A label, or a name that begins with one, in the encoded form. Letters may have any case. -/
def IsEncoded (label : List Char) : Prop :=
  encodedPrefix <+: label.map lowerAscii

theorem forall₂_of_mapM_eq_ok {ε α β : Type} {f : α → Except ε β} {xs : List α} {ys : List β}
    (h : xs.mapM f = .ok ys) : List.Forall₂ (fun x y => f x = .ok y) xs ys := by
  induction xs generalizing ys with
  | nil =>
      obtain rfl := Except.ok.inj h
      exact .nil
  | cons x rest ih =>
      rw [List.mapM_cons] at h
      obtain ⟨y, hy, h⟩ := bind_eq_ok_iff.mp h
      obtain ⟨more, hmore, h⟩ := bind_eq_ok_iff.mp h
      obtain rfl := Except.ok.inj h
      exact .cons hy (ih hmore)

theorem forall_of_mapM_eq_ok {ε α β : Type} {f : α → Except ε β} {P : β → Prop}
    (hf : ∀ {x y}, f x = .ok y → P y) {xs : List α} {ys : List β} (h : xs.mapM f = .ok ys) :
    ∀ y ∈ ys, P y := by
  replace h := forall₂_of_mapM_eq_ok h
  induction h with
  | nil => nofun
  | cons hy _ ih => exact List.forall_mem_cons.mpr ⟨hf hy, ih⟩

theorem length_wire {label encoded : List Char} (h : wire label = .ok encoded) :
    encoded.length ≤ 63 := by
  simp only [wire] at h
  split at h
  all_goals
    obtain ⟨_, _, h⟩ := bind_eq_ok_iff.mp h
    obtain ⟨hlength, h⟩ := ite_throw_eq_ok_iff.mp h
    obtain rfl := Except.ok.inj h
    exact Nat.le_of_not_lt hlength

/-- The labels of a name with an empty one behind them for the root, if it is named. -/
def rooted {α : Type} (root : Bool) (labels : List (List α)) : List (List α) :=
  if root then labels ++ [[]] else labels

theorem forall_mem_rooted {α : Type} {P : List α → Prop} (hroot : P []) {root : Bool}
    {labels : List (List α)} (h : ∀ label ∈ labels, P label) :
    ∀ label ∈ rooted root labels, P label := by
  cases root with
  | false => exact h
  | true => exact List.forall_mem_append.mpr ⟨h, List.forall_mem_singleton.mpr hroot⟩

theorem length_undotted_joinWith_rooted {root : Bool} {labels : List (List Char)}
    (h : (joinWith ['.'] (rooted root labels)).length ≤ if root then 254 else 253) :
    (undotted (joinWith ['.'] (rooted root labels))).length ≤ 253 := by
  cases root with
  | false => exact (length_undotted_le _).trans h
  | true =>
      rw [rooted, if_pos rfl, if_pos rfl] at h
      rw [rooted, if_pos rfl]
      by_cases hsome : labels = []
      · rw [hsome]
        decide
      · rw [joinWith_concat hsome, List.append_nil] at h ⊢
        rw [List.length_append, List.length_singleton] at h
        rw [undotted_concat]
        exact (length_undotted_le _).trans (Nat.le_of_succ_le_succ h)

theorem within_encodeName {name text : List Char} (h : encodeName name = .ok text) :
    Within (undotted text) := by
  simp only [encodeName, bind_eq_ok_iff, ite_throw_eq_ok_iff] at h
  obtain ⟨-, -, labels, hlabels, hlength, h⟩ := h
  obtain rfl := Except.ok.inj h
  have hshort := forall_of_mapM_eq_ok length_wire hlabels
  refine ⟨length_undotted_joinWith_rooted (Nat.le_of_not_lt hlength), ?_⟩
  have hrooted : ∀ label ∈ rooted (labelsAndRoot name).2 labels, label.length ≤ 63 :=
    forall_mem_rooted (Nat.zero_le 63) hshort
  have hpieces := length_le_of_mem_splitBy_joinWith (p := (· == '.')) (beq_self_eq_true '.') hrooted
  rw [splitBy_eq_splitOn] at hpieces
  exact fun label hlabel => hpieces label (mem_splitOn_of_undotted hlabel)

/-- A code point that a label may hold, at least in some contexts. -/
def MayStand (code : Nat) : Prop :=
  (alwaysValid.find? code).isSome = true ∨ code = 0x200C ∨ code = 0x200D ∨ needsContext code = true

theorem mayStand_of_checkCharacters {label before after : List Nat}
    (h : checkCharacters label before after = .ok ()) : ∀ code ∈ after, MayStand code := by
  induction after generalizing before with
  | nil => nofun
  | cons code after ih =>
      simp only [checkCharacters] at h
      rw [List.forall_mem_cons]
      split at h
      case isTrue hvalid => exact ⟨Or.inl hvalid, ih h⟩
      case isFalse =>
        split at h
        case isTrue hjoiner =>
          split at h
          case isTrue =>
            have hjoiner : code = 0x200C ∨ code = 0x200D := by simpa using hjoiner
            exact ⟨Or.inr (hjoiner.imp_right Or.inl), ih h⟩
          case isFalse => cases h
        case isFalse =>
          split at h
          case isTrue hcontext =>
            split at h
            case isTrue => exact ⟨Or.inr (Or.inr (Or.inr hcontext)), ih h⟩
            case isFalse => cases h
          case isFalse => cases h

set_option maxRecDepth 100000 in
/-- Neither a dot nor a colon is among the characters of labels. -/
theorem alwaysValid_marks :
    alwaysValid.find? 46 = none ∧ alwaysValid.find? 58 = none := by
  simp only [← Option.isNone_iff_eq_none]
  rw [alwaysValid, CodeTable.ofLines]
  simp only [List.flatMap_cons, List.flatMap_nil]
  repeat rw [String.toList_ofList]
  decide +kernel

theorem MayStand.ne {code : Nat} (h : MayStand code) : code ≠ 46 ∧ code ≠ 58 := by
  constructor
  · rintro rfl
    simp [MayStand, alwaysValid_marks.1, needsContext] at h
  · rintro rfl
    simp [MayStand, alwaysValid_marks.2, needsContext] at h

theorem checkLabel_eq_ok_iff {label : List Nat} :
    checkLabel label = .ok () ↔
      label ≠ [] ∧ label.length ≤ 254 ∧ isComposed label = true ∧ checkHyphens label = .ok () ∧
        (∀ code, label.head? = some code → (marks.find? code).isSome = false) ∧
        checkCharacters label [] label = .ok () ∧ checkDirections label = .ok () := by
  have hany (first : Option Nat) (p : Nat → Bool) :
      ¬ first.any p = true ↔ ∀ code, first = some code → p code = false := by
    cases first <;> simp
  simp only [checkLabel, bind_eq_ok_iff, ite_throw_eq_ok_iff, List.isEmpty_iff, Nat.not_lt,
    Bool.not_eq_true', Bool.not_eq_false, hany]
  exact ⟨fun ⟨hsome, hshort, hcomposed, (), hhyphens, hhead, (), hrest⟩ =>
      ⟨hsome, hshort, hcomposed, hhyphens, hhead, hrest⟩,
    fun ⟨hsome, hshort, hcomposed, hhyphens, hhead, hrest⟩ =>
      ⟨hsome, hshort, hcomposed, (), hhyphens, hhead, (), hrest⟩⟩

theorem mayStand_of_checkLabel {label : List Nat} (h : checkLabel label = .ok ()) :
    ∀ code ∈ label, MayStand code :=
  mayStand_of_checkCharacters (checkLabel_eq_ok_iff.mp h).2.2.2.2.2.1

/-- The readable form of a label is one that was checked. A label that is not encoded keeps its
length. -/
theorem readable_eq_ok {label : List Char} {codes : List Nat} (h : readable label = .ok codes) :
    (∀ code ∈ codes, MayStand code) ∧ (¬ IsEncoded label → codes.length = label.length) := by
  unfold readable at h
  split at h
  case isTrue =>
    dsimp only at h
    split at h
    case isTrue hencoded =>
      split at h
      · cases h
      · split at h
        · cases h
        · split at h
          · cases h
          · obtain ⟨⟨_, hchecked⟩, rfl⟩ := map_const_eq_ok_iff.mp h
            exact ⟨mayStand_of_checkLabel hchecked,
              fun hnot => absurd (List.isPrefixOf_iff_prefix.mp hencoded) hnot⟩
    case isFalse =>
      obtain ⟨⟨_, hchecked⟩, rfl⟩ := map_const_eq_ok_iff.mp h
      exact ⟨mayStand_of_checkLabel hchecked, fun _ => by simp⟩
  case isFalse =>
    obtain ⟨⟨_, hchecked⟩, rfl⟩ := map_const_eq_ok_iff.mp h
    exact ⟨mayStand_of_checkLabel hchecked, fun _ => by simp⟩

/-- What a label may become in the readable form of a name. -/
def Reads (label read : List Char) : Prop :=
  ¬ IsEncoded label → read.length = label.length

theorem splitBy_isDot (name : List Char) :
    splitBy isDot name = rooted (labelsAndRoot name).2 (labelsAndRoot name).1 := by
  unfold labelsAndRoot rooted
  dsimp only
  split
  case isTrue hroot =>
    rw [if_pos rfl]
    exact (List.dropLast_append_getLast? [] (by simpa using hroot)).symm
  case isFalse => rfl

theorem splitBy_isDot_of_ascii {name : List Char} (hascii : ∀ c ∈ name, c.toNat < 128) :
    splitBy isDot name = name.splitOn '.' := by
  have hdots : ∀ c ∈ name, isDot c = (c == '.') := by
    intro c hc
    have hlow := hascii c hc
    have hwide : ∀ n, 128 ≤ n → (c.toNat == n) = false := fun n hn => by simp; omega
    simp [isDot, hwide]
  rw [splitBy_congr hdots, splitBy_eq_splitOn]

theorem exists_of_forall₂_of_mem {α β : Type} {R : α → β → Prop} {xs : List α} {ys : List β}
    (h : List.Forall₂ R xs ys) : ∀ x ∈ xs, ∃ y ∈ ys, R x y := by
  induction h with
  | nil => nofun
  | cons hxy _ ih =>
      rw [List.forall_mem_cons]
      refine ⟨⟨_, List.mem_cons_self, hxy⟩, fun x hx => ?_⟩
      obtain ⟨y, hy, hsome⟩ := ih x hx
      exact ⟨y, List.mem_cons_of_mem _ hy, hsome⟩

theorem forall₂_rooted {α β : Type} {R : List α → List β → Prop} (hroot : R [] []) (root : Bool)
    {xs : List (List α)} {ys : List (List β)} (h : List.Forall₂ R xs ys) :
    List.Forall₂ R (rooted root xs) (rooted root ys) := by
  cases root with
  | false => exact h
  | true => exact List.rel_append h (.cons hroot .nil)

/-- A code point that stands for no character is taken for the one with code zero. -/
theorem eq_toNat_of_ofNat {code : Nat} {c : Char} (hc : Char.ofNat code = c) (hsome : c.toNat ≠ 0) :
    code = c.toNat := by
  subst hc
  by_cases hvalid : code.isValidChar
  · have hchar : Char.ofNat code = Char.ofNatAux code hvalid := dif_pos hvalid
    exact (congrArg Char.toNat hchar).symm
  · have hzero : Char.ofNat code = '\x00' := dif_neg hvalid
    exact absurd (congrArg Char.toNat hzero) hsome

theorem MayStand.char_ne {code : Nat} (h : MayStand code) :
    Char.ofNat code ≠ '.' ∧ Char.ofNat code ≠ ':' :=
  ⟨fun hc => h.ne.1 (eq_toNat_of_ofNat hc (by decide)),
    fun hc => h.ne.2 (eq_toNat_of_ofNat hc (by decide))⟩

/-- A name in ASCII is read label by label, and no colon comes in. -/
theorem reads_decodeName {name : List Char} {codes : List Nat}
    (hascii : ∀ c ∈ name, c.toNat < 128) (h : decodeName name = .ok codes) :
    let text := codes.map Char.ofNat
    ':' ∉ text ∧ List.Forall₂ Reads (name.splitOn '.') (text.splitOn '.') := by
  intro text
  simp only [decodeName, bind_eq_ok_iff, ite_throw_eq_ok_iff] at h
  obtain ⟨-, -, decoded, hdecoded, h⟩ := h
  obtain rfl := Except.ok.inj h
  let root := (labelsAndRoot name).2
  let pieces := (rooted root decoded).map (List.map Char.ofNat)
  have htext : text = joinWith ['.'] pieces := map_joinWith Char.ofNat [46] (rooted root decoded)
  have hstand : ∀ codes ∈ rooted root decoded, ∀ code ∈ codes, MayStand code :=
    forall_mem_rooted nofun (forall_of_mapM_eq_ok (fun h => (readable_eq_ok h).1) hdecoded)
  have hpieces : ∀ piece ∈ pieces, '.' ∉ piece ∧ ':' ∉ piece := by
    intro piece hpiece
    obtain ⟨codes, hcodes, rfl⟩ := List.mem_map.mp hpiece
    simp only [List.mem_map, not_exists, not_and]
    exact ⟨fun code hcode => (hstand codes hcodes code hcode).char_ne.1,
      fun code hcode => (hstand codes hcodes code hcode).char_ne.2⟩
  have hreads : List.Forall₂ Reads (name.splitOn '.') pieces := by
    rw [← splitBy_isDot_of_ascii hascii, splitBy_isDot]
    refine List.forall₂_map_right_iff.mpr (forall₂_rooted (fun _ => rfl) root ?_)
    refine (forall₂_of_mapM_eq_ok hdecoded).imp fun label codes hread hplain => ?_
    rw [List.length_map]
    exact (readable_eq_ok hread).2 hplain
  have hsome : pieces ≠ [] := by
    intro hnone
    rw [hnone] at hreads
    exact List.splitOnP_ne_nil _ _ (List.forall₂_nil_right_iff.mp hreads)
  have hsplit : text.splitOn '.' = pieces := by
    rw [← splitBy_eq_splitOn, htext]
    exact splitBy_joinWith hsome fun piece hpiece => (hpieces piece hpiece).1
  constructor
  · intro hcolon
    rcases separator_or_mem_splitBy (p := (· == '.')) ':' hcolon with hdot | ⟨piece, hpiece, hmem⟩
    · exact absurd hdot (by decide)
    · rw [splitBy_eq_splitOn, hsplit] at hpiece
      exact (hpieces piece hpiece).2 hmem
  · rwa [hsplit]

/-- A small letter stands for itself and does not end a label. -/
theorem plain_of_isLower {c : Char} (h : c.isLower = true) :
    c.toNat < 128 ∧ lowerAscii c = c ∧ isDot c = false := by
  have halphanum : ((c.isUpper || c.isLower) || c.isDigit) = true := by
    rw [h, Bool.or_true, Bool.true_or]
  have hplain : c.isLower = true → lowerAscii c = c ∧ isDot c = false :=
    forall_alphanum (P := fun c => c.isLower = true → lowerAscii c = c ∧ isDot c = false)
      (by decide) halphanum
  exact ⟨toNat_lt_of_isAlphanum halphanum, hplain h⟩

section Encoded

variable {deltas : List Char} {codes : List Nat} (hdeltas : ∀ c ∈ deltas, c.isLower = true)
  (hsome : deltas ≠ []) (hdecode : Punycode.decode? deltas = some codes)
  (hcheck : checkLabel codes = .ok ())

include hdeltas hsome hdecode hcheck

/-- A label in the encoded form is read as what it encodes. -/
theorem readable_of_decoded : readable (encodedPrefix ++ deltas) = .ok codes := by
  have hall : (encodedPrefix ++ deltas).all (·.toNat < 128) = true := by
    rw [List.all_append, Bool.and_eq_true]
    exact ⟨by decide, by simpa using fun c hc => (plain_of_isLower (hdeltas c hc)).1⟩
  have hlower : (encodedPrefix ++ deltas).map lowerAscii = encodedPrefix ++ deltas := by
    have hsame : deltas.map lowerAscii = deltas.map id :=
      List.map_congr_left fun c hc => (plain_of_isLower (hdeltas c hc)).2.1
    rw [List.map_append, hsame, List.map_id]
    rfl
  have hprefix : encodedPrefix.isPrefixOf (encodedPrefix ++ deltas) = true :=
    List.isPrefixOf_iff_prefix.mpr (List.prefix_append _ _)
  have hdrop : (encodedPrefix ++ deltas).drop 4 = deltas := rfl
  have hfilled : deltas.isEmpty = false := by simpa using hsome
  have hend : (deltas.getLast? == some '-') = false := by
    rw [beq_eq_false_iff_ne]
    exact fun hlast => absurd (hdeltas '-' (List.mem_of_getLast? hlast)) (by decide)
  simp only [readable, hall, if_true, hlower, hprefix, hdrop, hfilled, hend, hdecode, hcheck]
  rfl

/-- A name of one label in the encoded form is read as what it encodes. -/
theorem decodeName_of_decoded (hlength : deltas.length ≤ 250) :
    decodeName (encodedPrefix ++ deltas) = .ok codes := by
  have hread := readable_of_decoded hdeltas hsome hdecode hcheck
  have hdots : ∀ c ∈ encodedPrefix ++ deltas, isDot c = false := by
    have hprefix : encodedPrefix.all (fun c => !isDot c) = true := by decide
    refine List.forall_mem_append.mpr ⟨by simpa using hprefix, fun c hc => ?_⟩
    exact (plain_of_isLower (hdeltas c hc)).2.2
  have hshort : ¬ 254 < (encodedPrefix ++ deltas).length := by
    rw [List.length_append]
    exact Nat.not_lt.mpr (Nat.add_le_add_left hlength 4)
  have hfilled : encodedPrefix ++ deltas ≠ [] := nofun
  generalize encodedPrefix ++ deltas = label at *
  have hsplit : splitBy isDot label = [label] := by
    rw [splitBy_eq_splitOnP]
    exact List.splitOnP_eq_singleton (by simpa using hdots)
  have hparts : labelsAndRoot label = ([label], false) := by
    simp [labelsAndRoot, hsplit, hfilled]
  simp [decodeName, hshort, hfilled, hparts, hread, pure, Except.pure, bind, Except.bind]

end Encoded

end MmsHttp.Idna
