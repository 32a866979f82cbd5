import MmsHttp.Proofs.Macro

/-!
What expanding leaves behind. No token begins in a literal part in front of a token, and then none
begins there with anything else in that token's place. So if no value brings hashes of its own,
nothing is left to expand.
-/

namespace MmsHttp.Macro

open Text

/-- A text in which no token begins anywhere. -/
def IsBare (cs : List Char) : Prop :=
  ∀ i, ¬ Begins (cs.drop i)

theorem isBare_cons_iff (c : Char) (cs : List Char) :
    IsBare (c :: cs) ↔ ¬ Begins (c :: cs) ∧ IsBare cs := by
  constructor
  · exact fun h => ⟨h 0, fun i => h (i + 1)⟩
  · rintro ⟨hfirst, hrest⟩ (_ | i)
    · exact hfirst
    · exact hrest i

theorem Begins.head {cs : List Char} (h : Begins cs) : cs.head? = some '#' := by
  obtain ⟨name, after, -, rfl⟩ := h
  rfl

/-- Text without hashes in front of a bare one leaves it bare. -/
theorem IsBare.prepend {cs : List Char} (hcs : IsBare cs) {value : List Char}
    (hvalue : '#' ∉ value) : IsBare (value ++ cs) := by
  induction value with
  | nil => exact hcs
  | cons c value ih =>
      rw [List.mem_cons, not_or] at hvalue
      refine (isBare_cons_iff c _).mpr ⟨?_, ih hvalue.2⟩
      intro hbegins
      exact hvalue.1 (Option.some.inj hbegins.head).symm

theorem IsName.unblank {name : List Char} (hname : IsName name) :
    ∀ c ∈ '#' :: '#' :: (name ++ ['#', '#']), isBlank c = false := by
  have hhash : isBlank '#' = false := by decide
  have hclosing : ∀ c ∈ ['#', '#'], isBlank c = false := by simp [hhash]
  have hrest := List.forall_mem_append.mpr ⟨hname.2, hclosing⟩
  exact List.forall_mem_cons.mpr ⟨hhash, List.forall_mem_cons.mpr ⟨hhash, hrest⟩⟩

/-- A text that breaks off inside a token still begins one if another token follows, whose closing
hashes close it. -/
theorem begins_of_broken_off {text more inner rest : List Char} (hsome : text ≠ [])
    (hunblank : ∀ c ∈ text, isBlank c = false) (hopens : text ++ more = '#' :: '#' :: inner)
    (hrest : Begins rest) : Begins (text ++ rest) := by
  obtain ⟨name, after, hname, rfl⟩ := hrest
  rcases text with _ | ⟨a, _ | ⟨b, begun⟩⟩
  · exact absurd rfl hsome
  · obtain rfl : a = '#' := (List.cons.inj hopens).1
    refine ⟨'#' :: name, after, ⟨List.cons_ne_nil _ _, ?_⟩, rfl⟩
    exact List.forall_mem_cons.mpr ⟨by decide, hname.2⟩
  · obtain ⟨rfl, rfl, -⟩ : a = '#' ∧ b = '#' ∧ begun ++ more = inner := by simpa using hopens
    refine ⟨begun ++ '#' :: '#' :: name, after, ⟨by simp, ?_⟩, by simp [tokenText]⟩
    intro c hc
    rcases List.mem_append.mp hc with hc | hc
    · exact hunblank c (List.mem_cons_of_mem _ (List.mem_cons_of_mem _ hc))
    · exact hname.unblank c (List.mem_append_left ['#', '#'] hc)

/-- A token that begins in a text, whatever it runs on into, begins there as well if another token
follows. -/
theorem Begins.of_append {text other rest : List Char} (hsome : text ≠ [])
    (hbegins : Begins (text ++ other)) (hrest : Begins rest) : Begins (text ++ rest) := by
  obtain ⟨name, after, hname, htext⟩ := hbegins
  have hwhole : text ++ other = '#' :: '#' :: (name ++ ['#', '#']) ++ after := by
    simpa [tokenText] using htext
  rcases List.append_eq_append_iff.mp hwhole with ⟨more, htoken, _⟩ | ⟨more, hinside, _⟩
  · -- The text breaks off inside the token.
    refine begins_of_broken_off hsome ?_ htoken.symm hrest
    intro c hc
    exact hname.unblank c (htoken ▸ List.mem_append_left more hc)
  · exact ⟨name, more ++ rest, hname, by simp [hinside, tokenText]⟩

/-- A literal part in front of a token stays bare in front of any bare text. -/
theorem IsBare.prepend_literal {literal rest other : List Char} (hother : IsBare other)
    (hrest : Begins rest)
    (hleftmost : ∀ i < literal.length, ¬ Begins ((literal ++ rest).drop i)) :
    IsBare (literal ++ other) := by
  induction literal with
  | nil => exact hother
  | cons c literal ih =>
      refine (isBare_cons_iff c _).mpr ⟨?_, ih fun i hi => hleftmost (i + 1) (Nat.succ_lt_succ hi)⟩
      intro hbegins
      exact hleftmost 0 (Nat.zero_lt_succ _)
        (Begins.of_append (List.cons_ne_nil c literal) hbegins hrest)

/-- Texts without hashes in the places of all tokens leave a bare text. -/
theorem Splits.isBare_joined {cs last : List Char} {segments : List Segment}
    (hsplits : Splits cs segments last) {token : List Char → List Char}
    (htoken : ∀ segment ∈ segments, '#' ∉ token segment.name) :
    IsBare (joined token segments last) := by
  induction hsplits with
  | last hnone => exact hnone
  | @token cs literal rest name after last segments htext hleftmost hshortest _ ih =>
      rw [List.forall_mem_cons] at htoken
      have hbehind : IsBare (token name ++ joined token segments last) :=
        (ih htoken.2).prepend htoken.1
      have hjoined : joined token (⟨literal, name⟩ :: segments) last =
          literal ++ (token name ++ joined token segments last) := by
        simp [joined]
      rw [hjoined]
      exact hbehind.prepend_literal hshortest.begins (htext ▸ hleftmost)

/-- A bare text is its own only part. -/
theorem IsBare.gathered_pieces {cs : List Char} (hcs : IsBare cs) :
    gathered (pieces cs) = ([], cs) := by
  obtain ⟨hsegments, hlast⟩ := (splits_gathered cs).unique (.last hcs)
  exact Prod.ext hsegments hlast

theorem isBare_iff_gathered (cs : List Char) :
    IsBare cs ↔ (gathered (pieces cs)).1.isEmpty = true := by
  constructor
  · intro hcs
    rw [hcs.gathered_pieces]
    rfl
  · intro hnone
    have hsplits := splits_gathered cs
    rw [List.isEmpty_iff.mp hnone] at hsplits
    generalize (gathered (pieces cs)).2 = last at hsplits
    cases hsplits with
    | last hbare => exact hbare

instance : DecidablePred IsBare :=
  fun cs => decidable_of_iff _ (isBare_iff_gathered cs).symm

/-- Nothing in a bare text is expanded or reported. -/
theorem IsBare.unchanged {cs : List Char} (hcs : IsBare cs) (table : Table) :
    expand table cs = cs ∧ unknown table cs = [] := by
  constructor
  · rw [expand, values_eq_joined, hcs.gathered_pieces]
    rfl
  · rw [unknown, unknown_eq_filter, hcs.gathered_pieces]
    rfl

/-- With a table whose values have no hashes, expanding leaves a text without tokens: expanding
it once more, with any table, changes nothing and warns of nothing. -/
theorem expand_projects (table : Table)
    (hvalues : ∀ name value, table name = some value → '#' ∉ value.toList) (cs : List Char) :
    IsBare (expand table cs) ∧
      ∀ (other : Table) (bound : Fields), expand other (expand table cs) = expand table cs ∧
        (unknown other (expand table cs)).map (Request.unknownMacro bound) = [] := by
  have hbare : IsBare (expand table cs) := by
    rw [expand, values_eq_joined]
    refine (splits_gathered cs).isBare_joined ?_
    intro segment _
    cases hvalue : table (String.ofList segment.name) with
    | none => simp
    | some value => exact hvalues _ value hvalue
  refine ⟨hbare, ?_⟩
  intro other bound
  obtain ⟨hsame, hnone⟩ := hbare.unchanged other
  exact ⟨hsame, by rw [hnone]; rfl⟩

/-- The hashes that a blank or the end of the text keeps from opening a token stay, and do not meet
where a token has gone. -/
theorem expand_projects_leftover_hashes :
    let table : Table := fun name => if name = "A" then some "1" else none
    let other : Table := fun _ => some "##A##"
    (∀ name value, table name = some value → '#' ∉ value.toList) ∧
      expand table "## ##A#####B###".toList = "## 1#".toList ∧
      IsBare "## 1#".toList ∧ expand other "## 1#".toList = "## 1#".toList ∧
      (unknown other "## 1#".toList).map (Request.unknownMacro []) = [] := by
  intro table other
  have hvalues : ∀ name value, table name = some value → '#' ∉ value.toList := by
    intro name value hvalue
    obtain ⟨-, rfl⟩ : name = "A" ∧ "1" = value := by simpa [table] using hvalue
    decide
  have hexpanded : expand table "## ##A#####B###".toList = "## 1#".toList := by decide +kernel
  obtain ⟨hbare, hagain⟩ := expand_projects table hvalues "## ##A#####B###".toList
  rw [hexpanded] at hbare hagain
  exact ⟨hvalues, hexpanded, hbare, hagain other []⟩

/-- Values with hashes can make a token. -/
example : expand (fun _ => some "#") "##A####A##B##A####A##".toList = "##B##".toList := by
  decide +kernel

end MmsHttp.Macro
