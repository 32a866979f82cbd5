import Mathlib.Data.List.TakeWhile
import MmsHttp.Text.Split

namespace MmsHttp.Text

variable {α : Type} {p : α → Bool}

theorem not_mem_of_forall {cs : List α} (h : ∀ c ∈ cs, p c = true) {c : α} (hc : p c = false) :
    c ∉ cs := by
  intro hmem
  rw [h c hmem] at hc
  cases hc

theorem forall_beq_eq_false_iff [BEq α] [LawfulBEq α] {mark : α} {cs : List α} :
    (∀ c ∈ cs, (c == mark) = false) ↔ mark ∉ cs := by
  simp only [beq_eq_false_iff_ne]
  exact ⟨fun h hmem => h mark hmem rfl, fun h c hc => ne_of_mem_of_not_mem hc h⟩

theorem cut_append_cons {before after : List α} {c : α} (hbefore : ∀ b ∈ before, p b = false)
    (hc : p c = true) : cut p (before ++ c :: after) = (before, some after) := by
  have hpass : ∀ b ∈ before, (!p b) = true := by simpa using hbefore
  have hstop : (!p c) = false := by simp [hc]
  rw [cut, List.dropWhile_append_of_pos hpass, List.takeWhile_append_of_pos hpass,
    List.dropWhile_cons, List.takeWhile_cons, hstop]
  simp

theorem cut_eq_some {cs before after : List α} (h : cut p cs = (before, some after)) :
    ∃ c, p c = true ∧ (∀ b ∈ before, p b = false) ∧ cs = before ++ c :: after := by
  unfold cut at h
  split at h
  case h_1 => cases h
  case h_2 c rest hrest =>
    obtain ⟨rfl, hsame⟩ := Prod.mk.inj h
    obtain rfl := Option.some.inj hsame
    refine ⟨c, ?_, ?_, ?_⟩
    · have hstop := List.head?_dropWhile_not (!p ·) cs
      rw [hrest] at hstop
      simpa using hstop
    · intro b hb
      simpa using List.mem_takeWhile_imp hb
    · rw [← hrest]
      exact (List.takeWhile_append_dropWhile).symm

theorem cut_eq_none {cs before : List α} (h : cut p cs = (before, none)) :
    before = cs ∧ ∀ c ∈ cs, p c = false := by
  unfold cut at h
  split at h
  case h_1 hrest =>
    refine ⟨(Prod.mk.inj h).1.symm, ?_⟩
    simpa [List.dropWhile_eq_nil_iff] using hrest
  case h_2 => cases h

theorem cut_of_forall {cs : List α} (h : ∀ c ∈ cs, p c = false) : cut p cs = (cs, none) := by
  have hrest : cs.dropWhile (!p ·) = [] := by simpa [List.dropWhile_eq_nil_iff] using h
  rw [cut, hrest]

/-- What a text was cut into at its last separator, if it was cut. -/
theorem cutLast_eq_some {cs front after : List α} (h : cutLast p cs = (some front, after)) :
    ∃ c, p c = true ∧ (∀ b ∈ after, p b = false) ∧ cs = front ++ c :: after := by
  unfold cutLast at h
  split at h
  case h_1 => cases h
  case h_2 reversed before hcut =>
    obtain ⟨hfront, rfl⟩ := Prod.mk.inj h
    obtain rfl := Option.some.inj hfront
    obtain ⟨c, hc, hafter, hreverse⟩ := cut_eq_some hcut
    refine ⟨c, hc, by simpa using hafter, ?_⟩
    simpa using congrArg List.reverse hreverse

theorem cutLast_eq_none {cs after : List α} (h : cutLast p cs = (none, after)) :
    after = cs ∧ ∀ c ∈ cs, p c = false := by
  unfold cutLast at h
  split at h
  case h_1 reversed hcut =>
    obtain ⟨-, rfl⟩ := Prod.mk.inj h
    obtain ⟨rfl, hnone⟩ := cut_eq_none hcut
    exact ⟨List.reverse_reverse cs, by simpa using hnone⟩
  case h_2 => cases h

/-- What a text has behind its last separator, and what stands in front of that. -/
theorem cutLast_eq (p : α → Bool) (cs : List α) :
    ∃ front, cs = front ++ (cutLast p cs).2 ∧ (∀ c ∈ (cutLast p cs).2, p c = false) ∧
      (front = [] ∨ ∃ before c, front = before ++ [c] ∧ p c = true) := by
  rcases hcut : cutLast p cs with ⟨_ | before, after⟩
  · obtain ⟨rfl, hnone⟩ := cutLast_eq_none hcut
    exact ⟨[], rfl, hnone, Or.inl rfl⟩
  · obtain ⟨c, hc, hafter, hcs⟩ := cutLast_eq_some hcut
    exact ⟨before ++ [c], by simpa using hcs, hafter, Or.inr ⟨before, c, rfl, hc⟩⟩

/-- What a text begins with stands in front of its last separator if it has none itself. -/
theorem isPrefix_of_cutLast {cs front after beginning : List α}
    (h : cutLast p cs = (some front, after)) (hbeginning : ∀ c ∈ beginning, p c = false)
    (hcs : beginning <+: cs) : beginning <+: front := by
  obtain ⟨c, hc, -, rfl⟩ := cutLast_eq_some h
  rcases List.prefix_or_prefix_of_prefix hcs (List.prefix_append front (c :: after)) with h | h
  · exact h
  · obtain ⟨_ | ⟨d, more⟩, rfl⟩ := h
    · simp
    · obtain ⟨rfl, -⟩ := List.cons_prefix_cons.mp ((List.prefix_append_right_inj front).mp hcs)
      simp [hbeginning d] at hc

theorem cutLast_of_forall {cs : List α} (h : ∀ c ∈ cs, p c = false) :
    cutLast p cs = (none, cs) := by
  rw [cutLast, cut_of_forall (by simpa using h)]
  simp

/-- A text has one last separator only. -/
theorem append_cons_inj_of_last {c : α} {front before rest after : List α} (hrest : c ∉ rest)
    (hafter : c ∉ after) (h : front ++ c :: rest = before ++ c :: after) :
    front = before ∧ rest = after := by
  rcases List.append_eq_append_iff.mp h with ⟨between, rfl, hbetween⟩ | ⟨between, rfl, hbetween⟩ <;>
    rcases between with _ | ⟨d, between⟩ <;> simp_all

theorem splitBy_eq_splitOnP (p : α → Bool) (cs : List α) : splitBy p cs = cs.splitOnP p := by
  induction cs with
  | nil => rfl
  | cons c cs ih =>
      rw [splitBy, ih, List.splitOnP_cons_eq_if_modifyHead]
      split
      · rfl
      · obtain ⟨piece, pieces, hsome⟩ := List.exists_cons_of_ne_nil (List.splitOnP_ne_nil p cs)
        rw [hsome]
        rfl

theorem splitBy_eq_splitOn [BEq α] (mark : α) (cs : List α) :
    splitBy (· == mark) cs = cs.splitOn mark :=
  splitBy_eq_splitOnP _ cs

/-- Only what separates in the text itself matters. -/
theorem splitBy_congr {q : α → Bool} {cs : List α} (h : ∀ c ∈ cs, p c = q c) :
    splitBy p cs = splitBy q cs := by
  induction cs with
  | nil => rfl
  | cons c cs ih =>
      rw [List.forall_mem_cons] at h
      rw [splitBy, splitBy, h.1, ih h.2]

theorem splitBy_append_cons {c : α} (hc : p c = true) (before after : List α) :
    splitBy p (before ++ c :: after) = splitBy p before ++ splitBy p after := by
  simp only [splitBy_eq_splitOnP]
  exact List.splitOnP_append_cons before after hc

theorem not_separator_of_mem_splitBy {cs : List α} :
    ∀ piece ∈ splitBy p cs, ∀ c ∈ piece, p c = false := by
  induction cs with
  | nil => simp [splitBy]
  | cons c cs ih =>
      rw [splitBy]
      split
      case isTrue => simpa using ih
      case isFalse hc =>
        have hfirst : p c = false := by simpa using hc
        split
        case h_1 => simpa using hfirst
        case h_2 piece pieces hpieces =>
          rw [hpieces, List.forall_mem_cons] at ih
          rw [List.forall_mem_cons, List.forall_mem_cons]
          exact ⟨⟨hfirst, ih.1⟩, ih.2⟩

/-- Every character of a text is a separator or stands in one of the pieces. -/
theorem separator_or_mem_splitBy {cs : List α} :
    ∀ c ∈ cs, p c = true ∨ ∃ piece ∈ splitBy p cs, c ∈ piece := by
  induction cs with
  | nil => nofun
  | cons c cs ih =>
      rw [splitBy]
      split
      case isTrue hc => simpa [hc] using ih
      case isFalse hc =>
        split
        case h_1 hpieces => simp_all
        case h_2 piece pieces hpieces =>
          rw [hpieces] at ih
          intro d hd
          rcases List.mem_cons.mp hd with rfl | hd
          · exact Or.inr ⟨_, List.mem_cons_self, List.mem_cons_self⟩
          · rcases ih d hd with hsep | ⟨other, hother, hmem⟩
            · exact Or.inl hsep
            · rcases List.mem_cons.mp hother with rfl | hother
              · exact Or.inr ⟨_, List.mem_cons_self, List.mem_cons_of_mem _ hmem⟩
              · exact Or.inr ⟨_, List.mem_cons_of_mem _ hother, hmem⟩

theorem length_le_of_mem_splitBy {cs : List α} :
    ∀ piece ∈ splitBy p cs, piece.length ≤ cs.length := by
  induction cs with
  | nil => simp [splitBy]
  | cons c cs ih =>
      rw [splitBy]
      split
      case isTrue =>
        rw [List.forall_mem_cons]
        exact ⟨Nat.zero_le _, fun piece hpiece => Nat.le_succ_of_le (ih piece hpiece)⟩
      case isFalse =>
        split
        case h_1 => simp
        case h_2 piece pieces hpieces =>
          rw [hpieces, List.forall_mem_cons] at ih
          rw [List.forall_mem_cons]
          exact ⟨Nat.succ_le_succ ih.1, fun other hother => Nat.le_succ_of_le (ih.2 other hother)⟩

theorem joinWith_concat {separator last : List α} {texts : List (List α)} (hsome : texts ≠ []) :
    joinWith separator (texts ++ [last]) = joinWith separator texts ++ separator ++ last := by
  induction texts with
  | nil => exact absurd rfl hsome
  | cons first rest ih =>
      cases rest with
      | nil => simp [joinWith]
      | cons second rest =>
          have hrest := ih (List.cons_ne_nil second rest)
          simp only [joinWith, List.cons_append, List.intercalate_cons_cons] at hrest ⊢
          rw [hrest]
          simp only [List.append_assoc]

theorem map_joinWith {β : Type} (f : α → β) (separator : List α) (texts : List (List α)) :
    (joinWith separator texts).map f = joinWith (separator.map f) (texts.map (List.map f)) := by
  induction texts with
  | nil => rfl
  | cons first rest ih =>
      cases rest with
      | nil => simp [joinWith]
      | cons second rest =>
          simp only [joinWith, List.map_cons, List.intercalate_cons_cons, List.map_append] at ih ⊢
          rw [ih]

/-- Joining texts makes no piece that is longer than all of them. -/
theorem length_le_of_mem_splitBy_joinWith {c : α} (hc : p c = true) {n : Nat}
    {texts : List (List α)} (htexts : ∀ text ∈ texts, text.length ≤ n) :
    ∀ piece ∈ splitBy p (joinWith [c] texts), piece.length ≤ n := by
  induction texts with
  | nil => simp [joinWith, splitBy]
  | cons first rest ih =>
      rw [List.forall_mem_cons] at htexts
      have hfirst : ∀ piece ∈ splitBy p first, piece.length ≤ n :=
        fun piece hpiece => (length_le_of_mem_splitBy piece hpiece).trans htexts.1
      cases rest with
      | nil => simpa [joinWith] using hfirst
      | cons second rest =>
          rw [joinWith, List.intercalate_cons_cons, List.append_assoc, List.singleton_append,
            splitBy_append_cons hc]
          exact List.forall_mem_append.mpr ⟨hfirst, ih htexts.2⟩

/-- Pieces that have no separator in them come back from the joined text. -/
theorem splitBy_joinWith [BEq α] [LawfulBEq α] {c : α} {pieces : List (List α)}
    (hsome : pieces ≠ []) (hpieces : ∀ piece ∈ pieces, c ∉ piece) :
    splitBy (· == c) (joinWith [c] pieces) = pieces := by
  rw [splitBy_eq_splitOnP]
  exact List.splitOn_intercalate c hpieces hsome

end MmsHttp.Text
