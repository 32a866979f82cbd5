import MmsHttp.Text.Blank

namespace MmsHttp.Text

/-- A text that neither begins nor ends with a blank. -/
structure IsTrimmed (cs : List Char) : Prop where
  first : ∀ c, cs.head? = some c → isBlank c = false
  last : ∀ c, cs.getLast? = some c → isBlank c = false

theorem isTrimmed_nil : IsTrimmed [] :=
  ⟨nofun, nofun⟩

theorem isTrimmed_iff (cs : List Char) :
    IsTrimmed cs ↔ (¬ ∃ c, cs.head? = some c ∧ isBlank c = true) ∧
      ¬ ∃ c, cs.getLast? = some c ∧ isBlank c = true := by
  simp only [not_exists, not_and, Bool.not_eq_true]
  exact ⟨fun h => ⟨h.first, h.last⟩, fun h => ⟨h.1, h.2⟩⟩

instance : DecidablePred IsTrimmed := fun cs =>
  decidable_of_iff (cs.head?.any isBlank = false ∧ cs.getLast?.any isBlank = false) <| by
    simp only [isTrimmed_iff, ← Option.any_eq_true, Bool.not_eq_true]

theorem isTrimmed_of_unblank {cs : List Char} (h : ∀ c ∈ cs, isBlank c = false) : IsTrimmed cs :=
  ⟨fun c hc => h c (List.mem_of_head? hc), fun c hc => h c (List.mem_of_getLast? hc)⟩

theorem IsTrimmed.append {cs more : List Char} (hcs : IsTrimmed cs) (hmore : IsTrimmed more) :
    IsTrimmed (cs ++ more) := by
  constructor
  case first =>
    intro c hc
    rw [List.head?_append, Option.or_eq_some_iff] at hc
    rcases hc with hfirst | ⟨-, hfirst⟩
    · exact hcs.first c hfirst
    · exact hmore.first c hfirst
  case last =>
    intro c hc
    rw [List.getLast?_append, Option.or_eq_some_iff] at hc
    rcases hc with hlast | ⟨-, hlast⟩
    · exact hmore.last c hlast
    · exact hcs.last c hlast

theorem not_blank_of_head?_trimStart {cs : List Char} {c : Char}
    (h : (trimStart cs).head? = some c) : isBlank c = false := by
  have hstops := List.head?_dropWhile_not isBlank cs
  rwa [← trimStart, h] at hstops

theorem isPrefix_trimEnd (cs : List Char) : trimEnd cs <+: cs := by
  have hsuffix : trimStart cs.reverse <:+ cs.reverse := List.dropWhile_suffix isBlank
  simpa [trimEnd] using List.reverse_prefix.mpr hsuffix

theorem trim_sublist (cs : List Char) : (trim cs).Sublist cs :=
  (isPrefix_trimEnd _).sublist.trans (List.dropWhile_sublist isBlank)

theorem isTrimmed_trim (cs : List Char) : IsTrimmed (trim cs) := by
  constructor
  case first =>
    intro c hc
    obtain ⟨rest, hrest⟩ := isPrefix_trimEnd (trimStart cs)
    have hstart : (trimStart cs).head? = some c := by
      rw [← hrest, List.head?_append, ← trim, hc]
      rfl
    exact not_blank_of_head?_trimStart hstart
  case last =>
    intro c hc
    rw [trim, trimEnd, List.getLast?_reverse] at hc
    exact not_blank_of_head?_trimStart hc

theorem trimStart_append {before cs : List Char} (hbefore : ∀ c ∈ before, isBlank c = true)
    (hfirst : ∀ c, cs.head? = some c → isBlank c = false) : trimStart (before ++ cs) = cs := by
  rw [trimStart, List.dropWhile_append_of_pos hbefore]
  cases cs with
  | nil => rfl
  | cons c rest => exact List.dropWhile_cons_of_neg (by simp [hfirst c rfl])

theorem trim_of_blank {cs : List Char} (hcs : ∀ c ∈ cs, isBlank c = true) : trim cs = [] := by
  have hstart : trimStart (cs ++ []) = [] := trimStart_append hcs nofun
  rw [List.append_nil] at hstart
  rw [trim, hstart]
  rfl

/-- Trimming takes away the blanks that are put around a trimmed text, and no more. -/
theorem trim_append_append {before cs after : List Char} (hbefore : ∀ c ∈ before, isBlank c = true)
    (hcs : IsTrimmed cs) (hafter : ∀ c ∈ after, isBlank c = true) :
    trim (before ++ (cs ++ after)) = cs := by
  by_cases hempty : cs = []
  · subst hempty
    exact trim_of_blank (List.forall_mem_append.mpr ⟨hbefore, hafter⟩)
  · have hfirst : ∀ c, (cs ++ after).head? = some c → isBlank c = false := by
      have hhead := List.head?_eq_some_head hempty
      rw [List.head?_append, hhead, Option.some_or, ← hhead]
      exact hcs.first
    have hlast : ∀ c, cs.reverse.head? = some c → isBlank c = false := by
      rw [List.head?_reverse]
      exact hcs.last
    have hbehind : ∀ c ∈ after.reverse, isBlank c = true := by simpa using hafter
    rw [trim, trimStart_append hbefore hfirst, trimEnd, List.reverse_append,
      trimStart_append hbehind hlast, List.reverse_reverse]

end MmsHttp.Text
