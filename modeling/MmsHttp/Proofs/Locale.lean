import Mathlib
import MmsHttp.Locale
import MmsHttp.Proofs.Text.Ascii
import MmsHttp.Proofs.Text.Blank
import MmsHttp.Proofs.Text.Digit
import MmsHttp.Proofs.Text.Split

/-!
Spellings of locales. A locale can be spelled in many ways: in any letter case, with hyphens or
underscores, with a script and further subtags, with blanks around it and with an encoding or a
modifier behind it. What a request prefers depends on the language and the region only.
-/

namespace MmsHttp.Locale

open Text

/-- A subtag and the separator in front of it. -/
structure Subtag where
  separator : Char
  text : List Char
  separates : separator = '-' ∨ separator = '_'
  inner : ∀ c ∈ text, c ≠ '-' ∧ c ≠ '_' ∧ c ≠ '.' ∧ c ≠ '@'

namespace Subtag

def IsScript (subtag : Subtag) : Prop :=
  subtag.text.length = 4 ∧ ∀ c ∈ subtag.text, c.isAlpha = true

def IsRegion (subtag : Subtag) : Prop :=
  (subtag.text.length = 2 ∧ ∀ c ∈ subtag.text, c.isAlpha = true) ∨
    (subtag.text.length = 3 ∧ ∀ c ∈ subtag.text, c.isDigit = true)

instance : DecidablePred IsScript := fun subtag =>
  decidable_of_iff (subtag.text.length = 4 ∧ subtag.text.all Char.isAlpha = true)
    (and_congr_right' List.all_eq_true)

instance : DecidablePred IsRegion := fun subtag =>
  decidable_of_iff ((subtag.text.length = 2 ∧ subtag.text.all Char.isAlpha = true) ∨
      (subtag.text.length = 3 ∧ subtag.text.all Char.isDigit = true))
    (or_congr (and_congr_right' List.all_eq_true) (and_congr_right' List.all_eq_true))

def written (subtag : Subtag) : List Char :=
  subtag.separator :: subtag.text

end Subtag

/-- A locale as it may be spelled. Without a region the first further subtag must not look like
one, nor like a script if there is none, and blanks behind the last subtag are not part of it. -/
structure Spelling where
  before : List Char
  language : List Char
  script : Option Subtag
  region : Option Subtag
  further : List Subtag
  after : List Char
  suffix : List Char
  blank : ∀ c ∈ before ++ after, isBlank c = true
  named : language ≠ []
  letters : ∀ c ∈ language, c.isAlpha = true
  isScript : ∀ subtag ∈ script, subtag.IsScript
  isRegion : ∀ subtag ∈ region, subtag.IsRegion
  plain : region = none → ∀ subtag ∈ further.head?,
    ¬ subtag.IsRegion ∧ (script = none → ¬ subtag.IsScript)
  compact : ∀ subtag ∈ further.getLast?, ∀ c ∈ subtag.text.getLast?, isBlank c = false
  cutOff : suffix = [] ∨ suffix.head? = some '.' ∨ suffix.head? = some '@'

namespace Spelling

def subtags (s : Spelling) : List Subtag :=
  s.script.toList ++ s.region.toList ++ s.further

def body (s : Spelling) : List Char :=
  s.language ++ s.subtags.flatMap Subtag.written

def text (s : Spelling) : String :=
  String.ofList (s.before ++ (s.body ++ s.after) ++ s.suffix)

/-- Codes of languages that were given up, with those in use today. -/
def obsolete : List (String × String) :=
  [("iw", "he"), ("in", "id"), ("ji", "yi")]

def currentLanguage (s : Spelling) : String :=
  let language := String.ofList (s.language.map Char.toLower)
  (obsolete.lookup language).getD language

def capitalRegion (s : Spelling) : Option String :=
  s.region.map fun subtag => String.ofList (subtag.text.map Char.toUpper)

/-- The locale as a request names it. -/
def tag (s : Spelling) : String :=
  s.currentLanguage ++ (s.capitalRegion.map ("-" ++ ·)).getD ""

/-- Two spellings of one locale. -/
structure Same (s other : Spelling) : Prop where
  language : s.language.map Char.toLower = other.language.map Char.toLower
  region : s.capitalRegion = other.capitalRegion

end Spelling

section Characters

variable {c : Char}

theorem isAlphanum_of_isAlpha (h : c.isAlpha = true) : c.isAlphanum = true := by
  simp [Char.isAlphanum, h]

theorem isAlphanum_of_isDigit (h : c.isDigit = true) : c.isAlphanum = true := by
  simp [Char.isAlphanum, h]

theorem isBlank_of_isAlphanum (h : c.isAlphanum = true) : isBlank c = false :=
  forall_alphanum (P := fun c => isBlank c = false) (by decide) h

theorem inner_of_isAlphanum (h : c.isAlphanum = true) :
    c ≠ '-' ∧ c ≠ '_' ∧ c ≠ '.' ∧ c ≠ '@' :=
  forall_alphanum (P := fun c => c ≠ '-' ∧ c ≠ '_' ∧ c ≠ '.' ∧ c ≠ '@') (by decide) h

theorem upperAscii_of_isAlphanum (h : c.isAlphanum = true) : upperAscii c = c.toUpper :=
  forall_alphanum (P := fun c => upperAscii c = c.toUpper) (by decide) h

/-- Small letters are formed from letters one by one. -/
theorem lowerChar_of_isAlphanum (h : c.isAlphanum = true) :
    lowerChar c = c.toLower ∧ (c == 'Σ') = false ∧ (c == 'İ') = false := by
  have hsmall := toNat_lt_of_isAlphanum h
  rw [lowerChar, if_pos hsmall]
  exact forall_ascii
    (P := fun c => lowerAscii c = c.toLower ∧ (c == 'Σ') = false ∧ (c == 'İ') = false)
    (by decide) hsmall

theorem isAlpha_toLower (h : c.isAlpha = true) :
    c.toLower.isAlpha = true ∧ c.toLower.toLower = c.toLower :=
  forall_alphanum (P := fun c => c.isAlpha = true →
    c.toLower.isAlpha = true ∧ c.toLower.toLower = c.toLower) (by decide)
    (isAlphanum_of_isAlpha h) h

theorem kind_toUpper (h : c.isAlphanum = true) :
    c.toUpper.isAlpha = c.isAlpha ∧ c.toUpper.isDigit = c.isDigit ∧ c.toUpper.toUpper = c.toUpper :=
  forall_alphanum (P := fun c => c.toUpper.isAlpha = c.isAlpha ∧ c.toUpper.isDigit = c.isDigit ∧
    c.toUpper.toUpper = c.toUpper) (by decide) h

theorem isLetter_eq_isAlpha (c : Char) : isLetter c = c.isAlpha := by
  simp [isLetter, Char.isAlpha, Char.isUpper, Char.isLower, Char.le_def, Bool.or_comm]

theorem lower_of_letters {cs : List Char} (h : ∀ c ∈ cs, c.isAlpha = true) :
    lower cs = cs.map Char.toLower := by
  suffices hfrom : ∀ before, lowerFrom before cs = cs.map Char.toLower from hfrom []
  induction cs with
  | nil => exact fun before => rfl
  | cons c cs ih =>
      intro before
      rw [List.forall_mem_cons] at h
      obtain ⟨hlower, hsigma, hdotted⟩ := lowerChar_of_isAlphanum (isAlphanum_of_isAlpha h.1)
      rw [lowerFrom, hsigma, hdotted, hlower, ih h.2]
      rfl

end Characters

namespace Subtag

theorem isScript_iff (subtag : Subtag) :
    Locale.isScript subtag.text = true ↔ subtag.IsScript := by
  simp [Locale.isScript, IsScript, isLetter_eq_isAlpha]

theorem isRegion_iff (subtag : Subtag) :
    Locale.isRegion subtag.text = true ↔ subtag.IsRegion := by
  have hdigit (c : Char) : (decide ('0' ≤ c) && decide (c ≤ '9')) = c.isDigit :=
    isAsciiDigit_eq_isDigit c
  simp only [Locale.isRegion, IsRegion, isLetter_eq_isAlpha, hdigit, Bool.or_eq_true,
    Bool.and_eq_true, beq_iff_eq, List.all_eq_true]

variable {subtag : Subtag}

theorem IsRegion.not_isScript (h : subtag.IsRegion) : ¬ subtag.IsScript := by
  rintro ⟨hfour, -⟩
  rcases h with ⟨htwo, -⟩ | ⟨hthree, -⟩ <;> omega

theorem IsRegion.isAlphanum (h : subtag.IsRegion) : ∀ c ∈ subtag.text, c.isAlphanum = true := by
  rcases h with ⟨-, hletters⟩ | ⟨-, hdigits⟩
  · exact fun c hc => isAlphanum_of_isAlpha (hletters c hc)
  · exact fun c hc => isAlphanum_of_isDigit (hdigits c hc)

/-- A region in capitals behind a hyphen. -/
def capital (subtag : Subtag) (h : subtag.IsRegion) : Subtag where
  separator := '-'
  text := subtag.text.map Char.toUpper
  separates := Or.inl rfl
  inner := List.forall_mem_map.mpr fun c hc => by
    have hupper := kind_toUpper (h.isAlphanum c hc)
    have hsame : c.toUpper.isAlphanum = c.isAlphanum := by
      simp only [Char.isAlphanum, hupper]
    exact inner_of_isAlphanum (hsame.trans (h.isAlphanum c hc))

theorem isRegion_capital (h : subtag.IsRegion) : (subtag.capital h).IsRegion := by
  have hupper (c : Char) (hc : c ∈ subtag.text) := kind_toUpper (h.isAlphanum c hc)
  have hsame : (subtag.capital h).text = subtag.text.map Char.toUpper := rfl
  rw [IsRegion, hsame, List.length_map, List.forall_mem_map, List.forall_mem_map]
  rcases h with ⟨hlength, hletters⟩ | ⟨hlength, hdigits⟩
  · exact Or.inl ⟨hlength, fun c hc => (hupper c hc).1.trans (hletters c hc)⟩
  · exact Or.inr ⟨hlength, fun c hc => (hupper c hc).2.1.trans (hdigits c hc)⟩

theorem capital_again (h : subtag.IsRegion) :
    (subtag.capital h).text.map Char.toUpper = subtag.text.map Char.toUpper := by
  have hsame : (subtag.capital h).text = subtag.text.map Char.toUpper := rfl
  rw [hsame, List.map_map]
  exact List.map_congr_left fun c hc => (kind_toUpper (h.isAlphanum c hc)).2.2

theorem isSeparator_separator (subtag : Subtag) : isSeparator subtag.separator = true := by
  rcases subtag.separates with h | h <;> rw [h] <;> rfl

end Subtag

namespace Spelling

theorem isSeparator_of_letters {s : Spelling} : ∀ c ∈ s.language, isSeparator c = false := by
  intro c hc
  have hinner := inner_of_isAlphanum (isAlphanum_of_isAlpha (s.letters c hc))
  simp [isSeparator, hinner]

theorem splitBy_written {cs : List Char} (hcs : ∀ c ∈ cs, isSeparator c = false)
    (subtags : List Subtag) :
    splitBy isSeparator (cs ++ subtags.flatMap Subtag.written) = cs :: subtags.map Subtag.text := by
  rw [splitBy_eq_splitOnP]
  induction subtags generalizing cs with
  | nil =>
      rw [List.flatMap_nil, List.append_nil, List.map_nil]
      exact List.splitOnP_eq_singleton hcs
  | cons subtag subtags ih =>
      have htext : ∀ c ∈ subtag.text, isSeparator c = false := by
        intro c hc
        have hinner := subtag.inner c hc
        simp [isSeparator, hinner]
      rw [List.flatMap_cons, Subtag.written, List.cons_append, List.map_cons, ← ih htext]
      exact List.splitOnP_append_cons_of_forall_mem hcs _ subtag.isSeparator_separator _

theorem takeWhile_append_suffix {cs suffix : List Char} (hcs : ∀ c ∈ cs, c ≠ '.' ∧ c ≠ '@')
    (hsuffix : suffix = [] ∨ suffix.head? = some '.' ∨ suffix.head? = some '@') :
    ((cs ++ suffix).takeWhile (· != '.')).takeWhile (· != '@') = cs := by
  have hdots : ∀ c ∈ cs, (c != '.') = true := fun c hc => by simpa using (hcs c hc).1
  have hats : ∀ c ∈ cs, (c != '@') = true := fun c hc => by simpa using (hcs c hc).2
  have hkept : cs.takeWhile (· != '@') = cs := List.takeWhile_eq_self_iff.mpr hats
  rw [List.takeWhile_append_of_pos hdots]
  rcases suffix with _ | ⟨c, rest⟩
  · simpa using hkept
  · have hfirst : c = '.' ∨ c = '@' := by simpa using hsuffix
    rcases hfirst with rfl | rfl
    · simpa using hkept
    · rw [List.takeWhile_cons_of_pos (by decide), List.takeWhile_append_of_pos hats]
      simp

variable (s : Spelling)

theorem mem_body {c : Char} (hc : c ∈ s.body) : c ≠ '.' ∧ c ≠ '@' := by
  rcases List.mem_append.mp hc with hlanguage | hrest
  · exact (inner_of_isAlphanum (isAlphanum_of_isAlpha (s.letters c hlanguage))).2.2
  · obtain ⟨subtag, -, hwritten⟩ := List.mem_flatMap.mp hrest
    rcases List.mem_cons.mp hwritten with rfl | htext
    · rcases subtag.separates with h | h <;> rw [h] <;> decide
    · exact (subtag.inner c htext).2.2

theorem getLast?_subtags {subtag : Subtag} (hlast : s.subtags.getLast? = some subtag) :
    s.further.getLast? = some subtag ∨ s.region = some subtag ∨ s.script = some subtag := by
  rw [subtags, List.getLast?_append, List.getLast?_append, Option.or_eq_some_iff,
    Option.or_eq_some_iff] at hlast
  rcases hlast with hfurther | ⟨-, hregion | ⟨-, hscript⟩⟩
  · exact Or.inl hfurther
  · exact Or.inr (Or.inl (by simpa using List.mem_of_getLast? hregion))
  · exact Or.inr (Or.inr (by simpa using List.mem_of_getLast? hscript))

theorem unblank_of_last {subtag : Subtag} (hlast : s.subtags.getLast? = some subtag) :
    ∀ c ∈ subtag.written.getLast?, isBlank c = false := by
  have htext : ∀ c ∈ subtag.text.getLast?, isBlank c = false := by
    intro c hc
    have hmem := List.mem_of_getLast? hc
    rcases s.getLast?_subtags hlast with hfurther | hregion | hscript
    · exact s.compact subtag hfurther c hc
    · exact isBlank_of_isAlphanum ((s.isRegion subtag hregion).isAlphanum c hmem)
    · exact isBlank_of_isAlphanum (isAlphanum_of_isAlpha ((s.isScript subtag hscript).2 c hmem))
  intro c hc
  rw [Subtag.written, List.getLast?_cons, Option.mem_some_iff] at hc
  cases hend : subtag.text.getLast? with
  | none =>
      rw [hend, Option.getD_none] at hc
      rcases subtag.separates with h | h <;> rw [← hc, h] <;> decide
  | some d =>
      rw [hend, Option.getD_some] at hc
      exact hc ▸ htext d hend

/-- Letters come first, and the last subtag does not end with a blank. -/
theorem isTrimmed_body : IsTrimmed s.body := by
  have hunblank : ∀ c ∈ s.language, isBlank c = false := fun c hc =>
    isBlank_of_isAlphanum (isAlphanum_of_isAlpha (s.letters c hc))
  constructor
  case first =>
    intro c hc
    rw [body, List.head?_append, List.head?_eq_some_head s.named, Option.some_or] at hc
    exact hunblank c (Option.some.inj hc ▸ List.head_mem s.named)
  case last =>
    intro c hc
    rcases List.eq_nil_or_concat s.subtags with hnone | ⟨earlier, subtag, hsome⟩
    · rw [body, hnone, List.flatMap_nil, List.append_nil] at hc
      exact hunblank c (List.mem_of_getLast? hc)
    · have hlast : s.subtags.getLast? = some subtag := by simp [hsome]
      have hwritten : subtag.written ≠ [] := List.cons_ne_nil _ _
      rw [body, hsome, List.concat_eq_append, List.flatMap_append, List.flatMap_singleton,
        ← List.append_assoc, List.getLast?_append, List.getLast?_eq_some_getLast hwritten,
        Option.some_or, ← List.getLast?_eq_some_getLast hwritten] at hc
      exact s.unblank_of_last hlast c hc

theorem base_text : base s.text.toList = s.body := by
  have hblank : ∀ c, isBlank c = true → c ≠ '.' ∧ c ≠ '@' := by
    rintro c hc
    constructor <;> rintro rfl <;> exact absurd hc (by decide)
  have hbefore : ∀ c ∈ s.before, isBlank c = true := fun c hc =>
    s.blank c (List.mem_append_left _ hc)
  have hafter : ∀ c ∈ s.after, isBlank c = true := fun c hc =>
    s.blank c (List.mem_append_right _ hc)
  rw [text, String.toList_ofList, base, takeWhile_append_suffix _ s.cutOff]
  · exact trim_append_append hbefore s.isTrimmed_body hafter
  · simp only [List.forall_mem_append]
    exact ⟨fun c hc => hblank c (hbefore c hc), fun c => s.mem_body,
      fun c hc => hblank c (hafter c hc)⟩

theorem splitBy_base :
    splitBy isSeparator (base s.text.toList) = s.language :: s.subtags.map Subtag.text := by
  rw [base_text]
  exact splitBy_written isSeparator_of_letters s.subtags

/-- The region is found behind the language or behind the script. -/
theorem regionOf_subtags :
    regionOf (s.subtags.map Subtag.text) =
      (s.region.map fun subtag => subtag.text.map Char.toUpper).getD [] := by
  have hcapital {subtag : Subtag} (h : subtag.IsRegion) :
      subtag.text.map upperAscii = subtag.text.map Char.toUpper :=
    List.map_congr_left fun c hc => upperAscii_of_isAlphanum (h.isAlphanum c hc)
  have hscript : ∀ subtag ∈ s.script, Locale.isScript subtag.text = true := fun subtag hsome =>
    subtag.isScript_iff.mpr (s.isScript subtag hsome)
  cases hregion : s.region with
  | some region =>
      have hformed := s.isRegion region hregion
      have hthere : Locale.isRegion region.text = true := region.isRegion_iff.mpr hformed
      have hnot : Locale.isScript region.text = false := by
        rw [← Bool.not_eq_true, region.isScript_iff]
        exact hformed.not_isScript
      cases hfirst : s.script with
      | some script =>
          simp [subtags, regionOf, hregion, hfirst, hscript script hfirst, hthere, hcapital hformed]
      | none => simp [subtags, regionOf, hregion, hfirst, hnot, hthere, hcapital hformed]
  | none =>
      -- No region: whatever comes next is taken neither for one nor for a script before it.
      cases hfurther : s.further with
      | nil =>
          cases hfirst : s.script with
          | some script =>
              simp [subtags, regionOf, hregion, hfirst, hfurther, hscript script hfirst]
          | none => simp [subtags, regionOf, hregion, hfirst, hfurther]
      | cons first rest =>
          obtain ⟨hplain, hbare⟩ := s.plain hregion first (by simp [hfurther])
          rw [← first.isRegion_iff, Bool.not_eq_true] at hplain
          rw [← first.isScript_iff, Bool.not_eq_true] at hbare
          cases hfirst : s.script with
          | some script =>
              simp [subtags, regionOf, hregion, hfirst, hfurther, hscript script hfirst, hplain]
          | none => simp [subtags, regionOf, hregion, hfirst, hfurther, hplain, hbare hfirst]

theorem currentCode_eq (language : List Char) :
    String.ofList (currentCode language) =
      (obsolete.lookup (String.ofList language)).getD (String.ofList language) := by
  have hsame (code : String) : (String.ofList language == code) = (language == code.toList) := by
    rw [Bool.eq_iff_iff, beq_iff_eq, beq_iff_eq, ← String.toList_inj, String.toList_ofList]
  have hcodes : "iw".toList = ['i', 'w'] ∧ "in".toList = ['i', 'n'] ∧ "ji".toList = ['j', 'i'] := by
    decide
  simp only [obsolete, List.lookup, hsame, hcodes, currentCode]
  cases language == ['i', 'w'] with
  | true => rfl
  | false =>
      cases language == ['i', 'n'] with
      | true => rfl
      | false => cases language == ['j', 'i'] <;> rfl

/-- A code that is not given up stays, and any other one is replaced by one of today's. -/
theorem currentCode_cases (language : List Char) :
    currentCode language = language ∨
      currentCode language ∈ [['h', 'e'], ['i', 'd'], ['y', 'i']] := by
  unfold currentCode
  split
  · simp
  · split
    · simp
    · split <;> simp

theorem currentCode_ne_nil {language : List Char} (h : language ≠ []) :
    currentCode language ≠ [] := by
  rcases currentCode_cases language with hsame | hcode
  · rwa [hsame]
  · exact ne_of_mem_of_not_mem hcode (by decide)

theorem letters_currentCode {language : List Char} (h : ∀ c ∈ language, c.isAlpha = true) :
    ∀ c ∈ currentCode language, c.isAlpha = true := by
  rcases currentCode_cases language with hsame | hcode
  · rwa [hsame]
  · have hcodes : ∀ code ∈ [['h', 'e'], ['i', 'd'], ['y', 'i']], code.all Char.isAlpha = true := by
      decide
    exact List.all_eq_true.mp (hcodes _ hcode)

theorem currentCode_currentCode (language : List Char) :
    currentCode (currentCode language) = currentCode language := by
  rcases currentCode_cases language with hsame | hcode
  · rw [hsame, hsame]
  · have hcodes : ∀ code ∈ [['h', 'e'], ['i', 'd'], ['y', 'i']], currentCode code = code := by
      decide
    exact hcodes _ hcode

theorem split_text :
    split s.text.toList = (s.language.map Char.toLower,
      (s.region.map fun subtag => subtag.text.map Char.toUpper).getD []) := by
  rw [split, splitBy_base]
  simp only [lower_of_letters s.letters, regionOf_subtags]

/-- What a request prefers is the tag of the locale, however that is spelled. -/
theorem preference_text : String.ofList (preference s.text.toList) = s.tag := by
  have hlanguage : (currentCode (s.language.map Char.toLower)).isEmpty = false := by
    simpa using currentCode_ne_nil (by simpa using s.named)
  unfold preference
  simp only [split_text, hlanguage, Bool.false_eq_true, if_false]
  cases hregion : s.region with
  | none => simp [tag, capitalRegion, hregion, currentLanguage, ← currentCode_eq]
  | some region =>
      have hsome : (region.text.map Char.toUpper).isEmpty = false := by
        rcases s.isRegion region hregion with ⟨hlength, -⟩ | ⟨hlength, -⟩ <;>
          cases htext : region.text <;> simp_all
      simp [tag, capitalRegion, hregion, hsome, currentLanguage, ← currentCode_eq]

theorem currentLanguage_eq :
    s.currentLanguage = String.ofList (currentCode (s.language.map Char.toLower)) :=
  (currentCode_eq _).symm

theorem letters_map_toLower : ∀ c ∈ s.language.map Char.toLower, c.isAlpha = true :=
  List.forall_mem_map.mpr fun c hc => (isAlpha_toLower (s.letters c hc)).1

/-- A current code of small letters is not changed any more. -/
theorem currentCode_again :
    currentCode ((currentCode (s.language.map Char.toLower)).map Char.toLower) =
      currentCode (s.language.map Char.toLower) := by
  have hsmall : (currentCode (s.language.map Char.toLower)).map Char.toLower =
      currentCode (s.language.map Char.toLower) := by
    rcases currentCode_cases (s.language.map Char.toLower) with hsame | hcode
    · rw [hsame, List.map_map]
      exact List.map_congr_left fun c hc => (isAlpha_toLower (s.letters c hc)).2
    · have hcodes : ∀ code ∈ [['h', 'e'], ['i', 'd'], ['y', 'i']],
          code.map Char.toLower = code := by decide
      exact hcodes _ hcode
  rw [hsmall, currentCode_currentCode]

/-- The tag of a locale is one of its spellings, and it stands for itself. -/
theorem exists_spelling_of_tag : ∃ plain : Spelling, plain.text = s.tag ∧ plain.tag = s.tag := by
  let plain (region : Option Subtag) (hregion : ∀ subtag ∈ region, subtag.IsRegion) : Spelling :=
    { before := []
      language := currentCode (s.language.map Char.toLower)
      script := none
      region
      further := []
      after := []
      suffix := []
      blank := nofun
      named := currentCode_ne_nil (by simpa using s.named)
      letters := letters_currentCode s.letters_map_toLower
      isScript := nofun
      isRegion := hregion
      plain := fun _ => nofun
      compact := nofun
      cutOff := Or.inl rfl }
  have hlanguage (region hregion) : (plain region hregion).currentLanguage = s.currentLanguage := by
    rw [currentLanguage_eq, currentLanguage_eq]
    exact congrArg String.ofList s.currentCode_again
  cases hregion : s.region with
  | none =>
      refine ⟨plain none nofun, ?_, ?_⟩
      · simp [text, body, subtags, plain, tag, capitalRegion, hregion, currentLanguage_eq]
      · rw [tag, tag, hlanguage, capitalRegion, capitalRegion, hregion]
  | some region =>
      have hformed := s.isRegion region hregion
      have hcapital : ∀ subtag ∈ some (region.capital hformed), subtag.IsRegion := by
        simpa using Subtag.isRegion_capital hformed
      refine ⟨plain (some (region.capital hformed)) hcapital, ?_, ?_⟩
      · simp [text, body, subtags, plain, tag, capitalRegion, hregion, currentLanguage_eq,
          Subtag.written, Subtag.capital]
      · rw [tag, tag, hlanguage, capitalRegion, capitalRegion, hregion]
        simp [plain, Subtag.capital_again hformed]

/-- The languages that a value lists, without the blanks between them. -/
def listed (value : String) : List String :=
  (value.toList.splitOn ',').map fun piece => String.ofList (trim piece)

theorem isAlphanum_of_mem_tag {c : Char} (hc : c ∈ s.tag.toList) :
    c.isAlphanum = true ∨ c = '-' := by
  rw [tag, String.toList_append, List.mem_append, currentLanguage_eq, String.toList_ofList] at hc
  rcases hc with hlanguage | hrest
  · exact Or.inl (isAlphanum_of_isAlpha (letters_currentCode s.letters_map_toLower c hlanguage))
  · cases hregion : s.region with
    | none => simp [capitalRegion, hregion] at hrest
    | some region =>
        have hformed := s.isRegion region hregion
        have hcapital := (Subtag.isRegion_capital hformed).isAlphanum
        have hmem : c = '-' ∨ c ∈ (region.capital hformed).text := by
          simpa [capitalRegion, hregion, Subtag.capital] using hrest
        exact hmem.symm.imp_left (hcapital c)

theorem tag_ne_empty : s.tag ≠ "" := by
  intro hempty
  have hnil := congrArg String.toList hempty
  rw [tag, currentLanguage_eq, String.toList_append, String.toList_ofList] at hnil
  exact currentCode_ne_nil (by simpa using s.named) (List.append_eq_nil_iff.mp hnil).1

theorem acceptLanguage_text :
    acceptLanguage s.text = if s.tag = "en-US" then "en-US" else s.tag ++ ", en-US" := by
  unfold acceptLanguage
  simp only [preference_text, beq_iff_eq, fallback, if_neg s.tag_ne_empty]
  split
  · rfl
  · rw [String.append_assoc]
    rfl

/-- A tag has no comma and no blank in it, so it is listed as it is. -/
theorem listed_acceptLanguage :
    listed (acceptLanguage s.text) = if s.tag = "en-US" then ["en-US"] else [s.tag, "en-US"] := by
  have hcomma : ',' ∉ s.tag.toList := by
    intro hmem
    rcases s.isAlphanum_of_mem_tag hmem with h | h <;> exact absurd h (by decide)
  have hunblank : ∀ c ∈ s.tag.toList, isBlank c = false := by
    intro c hc
    rcases s.isAlphanum_of_mem_tag hc with h | rfl
    · exact isBlank_of_isAlphanum h
    · decide
  have htrimmed : IsTrimmed s.tag.toList :=
    ⟨fun c hc => hunblank c (List.mem_of_head? hc),
      fun c hc => hunblank c (List.mem_of_getLast? hc)⟩
  have htag : trim s.tag.toList = s.tag.toList := by
    have hnone : ∀ c ∈ ([] : List Char), isBlank c = true := nofun
    simpa using trim_append_append hnone htrimmed hnone
  rw [acceptLanguage_text]
  split
  · decide
  · have hvalue : (s.tag ++ ", en-US").toList = s.tag.toList ++ ',' :: " en-US".toList := by
      simp
    rw [listed, hvalue, List.splitOn_append_cons_self_of_not_mem hcomma, List.map_cons, htag,
      String.ofList_toList]
    exact congrArg (s.tag :: ·) (by decide)

/-- The value for a spelled locale is its tag and then US English, which is listed once. All
spellings of one locale have the same value, and its tag is one of them. -/
theorem acceptLanguage_spelled :
    acceptLanguage s.text = (if s.tag = "en-US" then "en-US" else s.tag ++ ", en-US") ∧
      (∀ other : Spelling, s.Same other → acceptLanguage other.text = acceptLanguage s.text) ∧
      acceptLanguage s.tag = acceptLanguage s.text ∧
      (listed (acceptLanguage s.text)).count "en-US" = 1 := by
  refine ⟨s.acceptLanguage_text, fun other hsame => ?_, ?_, ?_⟩
  · have htag : other.tag = s.tag := by
      rw [tag, tag, currentLanguage, currentLanguage, hsame.language, hsame.region]
    rw [acceptLanguage_text, acceptLanguage_text, htag]
  · obtain ⟨plain, htext, htag⟩ := s.exists_spelling_of_tag
    rw [← htext, acceptLanguage_text, acceptLanguage_text, htag]
  · rw [listed_acceptLanguage]
    split
    · decide
    · simp [*]

/-- An old code, a script, a variant, blanks and an encoding make no difference. -/
theorem acceptLanguage_spelled_hebrew :
    let s : Spelling :=
      { before := [' '], language := ['I', 'w'], after := [], suffix := ".UTF-8".toList
        script := some ⟨'_', ['h', 'e', 'b', 'r'], by decide, by simp⟩
        region := some ⟨'-', ['i', 'l'], by decide, by simp⟩
        further := [⟨'_', ['x'], by decide, by simp⟩]
        blank := List.all_eq_true.mp (by decide), named := by decide
        letters := List.all_eq_true.mp (by decide), isScript := by decide, isRegion := by decide
        plain := by decide, compact := by simp; decide, cutOff := by decide }
    let other : Spelling :=
      { before := [], language := ['i', 'w'], after := ['\t'], suffix := []
        script := none
        region := some ⟨'-', ['I', 'L'], by decide, by simp⟩
        further := []
        blank := List.all_eq_true.mp (by decide), named := by decide
        letters := List.all_eq_true.mp (by decide), isScript := by decide, isRegion := by decide
        plain := by decide, compact := by decide, cutOff := by decide }
    s.text = " Iw_hebr-il_x.UTF-8" ∧ other.text = "iw-IL\t" ∧ s.Same other ∧
      acceptLanguage s.text = "he-IL, en-US" ∧ acceptLanguage other.text = acceptLanguage s.text ∧
      acceptLanguage "he-IL" = acceptLanguage s.text ∧
      (listed (acceptLanguage s.text)).count "en-US" = 1 := by
  intro s other
  have hsame : s.Same other := ⟨by decide, by decide⟩
  obtain ⟨hvalue, hother, htag, honce⟩ := s.acceptLanguage_spelled
  exact ⟨by decide, by decide, hsame, hvalue, hother other hsame, htag, honce⟩

end Spelling

end MmsHttp.Locale
