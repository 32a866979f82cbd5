import MmsHttp.Carrier
import MmsHttp.Proofs.Text.Blank

namespace MmsHttp.Carrier

open Text

def BlanksAround (text inner : List Char) : Prop :=
  ∃ before after, (∀ c ∈ before ++ after, isBlank c = true) ∧ text = before ++ (inner ++ after)

/-- All that matters of a calling code: it has neither blanks nor plus signs in it. Digits of any
script will do. -/
def IsCallingCode (code : List Char) : Prop :=
  ∀ c ∈ code, isBlank c = false ∧ c ≠ '+'

/-- A number as a macro gives it; an empty one is not given. -/
def given? (number : List Char) : Option String :=
  if number = [] then none else some (String.ofList number)

/-- What a carrier gives as the subscriber's number in national form. -/
structure GivesNational (carrier : Carrier) : Prop where
  /-- An international number without its sign and its own calling code, however often what
  follows begins with the code again. -/
  own : ∀ code national signs, IsCallingCode code → IsTrimmed national →
    BlanksAround carrier.line1Number.toList ('+' :: (code ++ national)) →
    BlanksAround carrier.countryCallingCode.toList (List.replicate signs '+' ++ code) →
    carrier.lookup "LINE1NOCOUNTRYCODE" = given? national
  /-- An international number without its sign only, if there is no code or another one. -/
  foreign : ∀ code digits signs, trim carrier.line1Number.toList = '+' :: digits →
    trim carrier.countryCallingCode.toList = List.replicate signs '+' ++ code →
    code.head? ≠ some '+' → (code = [] ∨ ¬ code <+: digits) →
    carrier.lookup "LINE1NOCOUNTRYCODE" = given? digits
  /-- Any other number as it is, even if it begins with the code. -/
  domestic : (trim carrier.line1Number.toList).head? ≠ some '+' →
    carrier.lookup "LINE1NOCOUNTRYCODE" = given? (trim carrier.line1Number.toList)

theorem after?_eq_some_iff {beginning cs rest : List Char} :
    after? beginning cs = some rest ↔ cs = beginning ++ rest := by
  induction beginning generalizing cs with
  | nil => simp [after?]
  | cons b beginning ih =>
      cases cs with
      | nil => simp [after?]
      | cons c cs =>
          rw [after?, Option.ite_none_right_eq_some, beq_iff_eq, ih, List.cons_append,
            List.cons.injEq, eq_comm (a := b)]

theorem after?_eq_none_iff {beginning cs : List Char} :
    after? beginning cs = none ↔ ¬ beginning <+: cs := by
  rw [Option.eq_none_iff_forall_ne_some]
  simp only [ne_eq, after?_eq_some_iff, List.IsPrefix, not_exists, eq_comm (a := cs)]

theorem BlanksAround.trim_eq {text inner : List Char} (h : BlanksAround text inner)
    (hinner : IsTrimmed inner) : trim text = inner := by
  obtain ⟨before, after, hblank, rfl⟩ := h
  rw [List.forall_mem_append] at hblank
  exact trim_append_append hblank.1 hinner hblank.2

theorem callingDigits_eq {text code : List Char} {signs : Nat}
    (htext : trim text = List.replicate signs '+' ++ code) (hcode : code.head? ≠ some '+') :
    callingDigits text = code := by
  have hsigns : ∀ c ∈ List.replicate signs '+', (c == '+') = true :=
    List.forall_mem_replicate.mpr (.inr rfl)
  rw [callingDigits, htext, List.dropWhile_append_of_pos hsigns]
  cases code with
  | nil => rfl
  | cons c code => exact List.dropWhile_cons_of_neg (by simpa using hcode)

section NationalForm

variable {number code : List Char}

theorem nationalForm_own {national : List Char}
    (hnumber : trim number = '+' :: (callingDigits code ++ national)) :
    nationalForm number code = national := by
  have hafter : after? (callingDigits code) (callingDigits code ++ national) = some national :=
    after?_eq_some_iff.mpr rfl
  rw [nationalForm, hnumber]
  simp [hafter]

theorem nationalForm_foreign {digits : List Char} (hnumber : trim number = '+' :: digits)
    (hcode : callingDigits code = [] ∨ ¬ callingDigits code <+: digits) :
    nationalForm number code = digits := by
  rcases hcode with hnone | hother
  · apply nationalForm_own
    rw [hnone, hnumber]
    rfl
  · rw [nationalForm, hnumber]
    simp [after?_eq_none_iff.mpr hother]

theorem nationalForm_domestic (hnumber : (trim number).head? ≠ some '+') :
    nationalForm number code = trim number := by
  unfold nationalForm
  split
  case h_1 digits hplus => exact absurd (by rw [hplus]; rfl) hnumber
  case h_2 => rfl

end NationalForm

theorem lookup_national (carrier : Carrier) :
    carrier.lookup "LINE1NOCOUNTRYCODE" =
      given? (nationalForm carrier.line1Number.toList carrier.countryCallingCode.toList) := by
  simp [lookup, nonempty?, given?]

/-- However number and calling code are listed, the code goes at most once, with the plus sign in
front of it, and nothing else goes but the blanks at the ends. -/
theorem givesNational (carrier : Carrier) : carrier.GivesNational := by
  constructor
  case own =>
    intro code national signs hcode hnational hnumber hlisted
    have hplus : ∀ c ∈ ['+'], isBlank c = false := List.forall_mem_singleton.mpr rfl
    have hsigns : ∀ c ∈ List.replicate signs '+', isBlank c = false :=
      List.forall_mem_replicate.mpr (.inr rfl)
    have hplain : IsTrimmed code := isTrimmed_of_unblank fun c hc => (hcode c hc).1
    have hdigits : callingDigits carrier.countryCallingCode.toList = code := by
      apply callingDigits_eq (hlisted.trim_eq ((isTrimmed_of_unblank hsigns).append hplain))
      intro hfirst
      exact (hcode '+' (List.mem_of_head? hfirst)).2 rfl
    have htrim := hnumber.trim_eq
      ((isTrimmed_of_unblank hplus).append (hplain.append hnational))
    rw [lookup_national, nationalForm_own]
    rw [htrim, hdigits]
  case foreign =>
    intro code digits signs hnumber hlisted hhead hcode
    rw [lookup_national, nationalForm_foreign hnumber]
    rwa [callingDigits_eq hlisted hhead]
  case domestic =>
    intro hnumber
    rw [lookup_national, nationalForm_domestic hnumber]

/-- A number that goes on with its calling code keeps the second one. -/
theorem givesNational_repeated_code :
    let carrier : Carrier := { line1Number := "\t+49492 ", countryCallingCode := " ++49\n" }
    IsCallingCode ['4', '9'] ∧ IsTrimmed ['4', '9', '2'] ∧
      BlanksAround carrier.line1Number.toList ('+' :: (['4', '9'] ++ ['4', '9', '2'])) ∧
      BlanksAround carrier.countryCallingCode.toList (List.replicate 2 '+' ++ ['4', '9']) ∧
      carrier.lookup "LINE1NOCOUNTRYCODE" = some "492" := by
  intro carrier
  have hcode : IsCallingCode ['4', '9'] :=
    List.forall_mem_cons.mpr ⟨by decide, List.forall_mem_singleton.mpr (by decide)⟩
  have hnational : IsTrimmed ['4', '9', '2'] := by decide
  have hnumber : BlanksAround carrier.line1Number.toList
      ('+' :: (['4', '9'] ++ ['4', '9', '2'])) :=
    ⟨['\t'], [' '], List.forall_mem_cons.mpr ⟨rfl, List.forall_mem_singleton.mpr rfl⟩,
      by decide⟩
  have hlisted : BlanksAround carrier.countryCallingCode.toList
      (List.replicate 2 '+' ++ ['4', '9']) :=
    ⟨[' '], ['\n'], List.forall_mem_cons.mpr ⟨rfl, List.forall_mem_singleton.mpr rfl⟩,
      by decide⟩
  exact ⟨hcode, hnational, hnumber, hlisted,
    (givesNational carrier).own _ _ 2 hcode hnational hnumber hlisted⟩

end MmsHttp.Carrier
