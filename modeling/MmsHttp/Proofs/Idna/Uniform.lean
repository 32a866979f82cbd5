import MmsHttp.Proofs.Idna.Name
import MmsHttp.Proofs.Text.CodeTable

namespace MmsHttp.Idna

open Fault Text

/-- A letter from left to right that may stand anywhere and is never composed with itself. -/
structure Simple (code : Nat) : Prop where
  valid : (alwaysValid.find? code).isSome = true
  kept : (neverComposed.find? code).isNone = true
  whole : takeApart 4 code = [code]
  letter : markClass code = 0
  unmarked : (marks.find? code).isSome = false
  apart : compose? code code = none
  leftToRight : direction code = "L"
  named : code ≠ 45

section Simple

variable {code : Nat} (hsimple : Simple code)

include hsimple

theorem Simple.insertMark_replicate (n : Nat) :
    insertMark code (List.replicate n code) = List.replicate (n + 1) code := by
  cases n with
  | zero => rfl
  | succ n => simp [List.replicate_succ, insertMark, hsimple.letter]

theorem Simple.orderMarks_replicate (n : Nat) :
    orderMarks (List.replicate n code) = List.replicate n code := by
  have hfold : (List.replicate n code).foldl (fun done code => insertMark code done) [] =
      List.replicate n code := by
    induction n with
    | zero => rfl
    | succ n ih =>
        rw [List.replicate_succ', List.foldl_append, ih]
        exact (hsimple.insertMark_replicate n).trans List.replicate_succ'
  rw [orderMarks, hfold, List.reverse_replicate]

theorem Simple.foldl_add_replicate (n : Nat) :
    (List.replicate (n + 1) code).foldl Composing.add ⟨[], none, [], 0⟩ =
      ⟨List.replicate n code, some code, [], 0⟩ := by
  induction n with
  | zero => simp [Composing.add, hsimple.letter]
  | succ n ih =>
      rw [List.replicate_succ', List.foldl_append, ih]
      simp [Composing.add, hsimple.letter, hsimple.apart, List.replicate_succ]

theorem Simple.isComposed_replicate (n : Nat) : isComposed (List.replicate n code) = true := by
  have happart : (List.replicate n code).flatMap (takeApart 4) = List.replicate n code := by
    simp [List.flatMap_replicate, hsimple.whole]
  have hcomposed : composed (List.replicate n code) = List.replicate n code := by
    cases n with
    | zero => rfl
    | succ n =>
        rw [composed, hsimple.foldl_add_replicate]
        simp [List.replicate_succ']
  unfold isComposed
  rw [happart, hsimple.orderMarks_replicate, hcomposed]
  simp [hsimple.kept]

theorem Simple.checkCharacters_replicate (label before : List Nat) (n : Nat) :
    checkCharacters label before (List.replicate n code) = .ok () := by
  induction n generalizing before with
  | zero => rfl
  | succ n ih =>
      rw [List.replicate_succ, checkCharacters, if_pos hsimple.valid]
      exact ih _

theorem Simple.checkHyphens_replicate (n : Nat) :
    checkHyphens (List.replicate n code) = .ok () := by
  have hends : ∀ c ∈ List.replicate n code, c ≠ 45 :=
    fun c hc => List.eq_of_mem_replicate hc ▸ hsimple.named
  have hinner : ((List.replicate n code).drop 2).take 2 ≠ [45, 45] := by
    intro hinner
    have hmem : 45 ∈ ((List.replicate n code).drop 2).take 2 := hinner ▸ List.mem_cons_self
    exact hends 45 (List.mem_of_mem_drop (List.mem_of_mem_take hmem)) rfl
  have hfirst : (List.replicate n code).head? ≠ some 45 :=
    fun h => hends 45 (List.mem_of_mem_head? h) rfl
  have hlast : (List.replicate n code).getLast? ≠ some 45 :=
    fun h => hends 45 (List.mem_of_mem_getLast? h) rfl
  simp only [checkHyphens, beq_iff_eq, hinner, if_false, Bool.or_eq_true, hfirst, hlast, or_self]

theorem Simple.checkDirections_replicate (n : Nat) :
    checkDirections (List.replicate n code) = .ok () := by
  simp [checkDirections, hsimple.leftToRight]

theorem Simple.checkLabel_replicate {n : Nat} (hsome : 0 < n) (hshort : n ≤ 254) :
    checkLabel (List.replicate n code) = .ok () := by
  have hfirst : ∀ first, (List.replicate n code).head? = some first →
      (marks.find? first).isSome = false := by
    intro first hfirst
    rw [List.eq_of_mem_replicate (List.mem_of_mem_head? hfirst)]
    exact hsimple.unmarked
  rw [checkLabel_eq_ok_iff, List.length_replicate]
  exact ⟨by simpa using Nat.ne_of_gt hsome, hshort, hsimple.isComposed_replicate n,
    hsimple.checkHyphens_replicate n, hfirst, hsimple.checkCharacters_replicate _ _ n,
    hsimple.checkDirections_replicate n⟩

end Simple

theorem toList_value_readRun (word : List Char) :
    (CodeTable.readRun word).value.toList = (cut (· == '=') word).2.getD [] := by
  simp [CodeTable.readRun]

set_option maxRecDepth 100000 in
/-- No composed character begins with a sharp s. -/
theorem compositions_sharp :
    ∀ run ∈ compositions.runs, hexValue (run.value.toList.takeWhile (· != '.')) ≠ 0xDF := by
  rw [compositions, CodeTable.ofLines]
  simp only [List.flatMap_cons, List.flatMap_nil, List.mem_toArray, List.forall_mem_map,
    toList_value_readRun]
  repeat rw [String.toList_ofList]
  decide +kernel

set_option maxRecDepth 100000 in
theorem tables_sharp :
    (alwaysValid.find? 0xDF).isSome = true ∧ (neverComposed.find? 0xDF).isNone = true ∧
      (compositions.find? 0xDF).isNone = true ∧ (markClasses.find? 0xDF).isNone = true ∧
      (marks.find? 0xDF).isSome = false ∧ (directions.find? 0xDF).isNone = true := by
  rw [alwaysValid, neverComposed, compositions, markClasses, marks, directions]
  refine ⟨?_, ?_, ?_, ?_, ?_, ?_⟩
  all_goals
    simp only [CodeTable.ofLines, List.flatMap_cons, List.flatMap_nil]
    repeat rw [String.toList_ofList]
    decide +kernel

/-- A letter with which no composed character begins is not composed. -/
theorem compose?_eq_none {code : Nat} (hlow : code < 0x1100)
    (hnone : ∀ run ∈ compositions.runs,
      hexValue (run.value.toList.takeWhile (· != '.')) ≠ code) (next : Nat) :
    compose? code next = none := by
  rw [compose?, if_neg (by omega), if_neg (by omega), Option.map_eq_none_iff, List.find?_eq_none]
  intro parts hparts hfound
  obtain ⟨run, -, hrun⟩ := List.mem_filterMap.mp hparts
  obtain ⟨⟨a, b⟩, hab, rfl⟩ := Option.map_eq_some_iff.mp hrun
  obtain ⟨own, hown, hvalue⟩ := Option.map_eq_some_iff.mp hab
  simp only [Bool.and_eq_true, beq_iff_eq] at hfound
  exact hnone own (CodeTable.mem_of_find? hown).1 ((Prod.mk.inj hvalue).1.trans hfound.1)

/-- A letter below the Korean ones that no table but that of valid characters knows. -/
theorem simple_of_tables {code : Nat} (hlow : code < 0x1100) (hnamed : code ≠ 45)
    (hvalid : (alwaysValid.find? code).isSome = true)
    (hkept : (neverComposed.find? code).isNone = true)
    (hwhole : (compositions.find? code).isNone = true)
    (hletter : (markClasses.find? code).isNone = true)
    (hunmarked : (marks.find? code).isSome = false)
    (hdirection : (directions.find? code).isNone = true)
    (hapart : ∀ run ∈ compositions.runs,
      hexValue (run.value.toList.takeWhile (· != '.')) ≠ code) : Simple code where
  valid := hvalid
  kept := hkept
  whole := by
    have hsyllable : syllableParts? code = none := if_neg (by omega)
    rw [takeApart, hsyllable, parts?, Option.isNone_iff_eq_none.mp hwhole]
    rfl
  letter := by
    rw [markClass, CodeTable.value?, Option.isNone_iff_eq_none.mp hletter]
    rfl
  unmarked := hunmarked
  apart := compose?_eq_none hlow hapart code
  leftToRight := by
    rw [direction, CodeTable.value?, Option.isNone_iff_eq_none.mp hdirection]
    rfl
  named := hnamed

/-- The sharp s. -/
theorem simple_sharp : Simple 0xDF := by
  obtain ⟨hvalid, hkept, hwhole, hletter, hunmarked, hdirection⟩ := tables_sharp
  exact simple_of_tables (by decide) (by decide) hvalid hkept hwhole hletter hunmarked hdirection
    compositions_sharp

end MmsHttp.Idna
