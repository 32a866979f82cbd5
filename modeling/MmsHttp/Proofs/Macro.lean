import MmsHttp.Request

/-!
What macros mean, said without a scanner. A text splits in exactly one way into literal parts
and tokens, each token beginning as far left and ending as early as it can; expanding the text
puts values in the places of the tokens and leaves the literal parts alone.
-/

namespace MmsHttp.Macro

open Text

/-- A name that can stand between the hashes of a token. -/
def IsName (name : List Char) : Prop :=
  name ≠ [] ∧ ∀ c ∈ name, isBlank c = false

/-- A token as it is written, and what follows it. -/
def tokenText (name after : List Char) : List Char :=
  '#' :: '#' :: (name ++ '#' :: '#' :: after)

/-- A text at whose beginning a token can start. -/
def Begins (cs : List Char) : Prop :=
  ∃ name after, IsName name ∧ cs = tokenText name after

/-- The shortest token at the beginning of a text. -/
structure Shortest (cs name after : List Char) : Prop where
  isName : IsName name
  text : cs = tokenText name after
  least : ∀ other rest, IsName other → cs = tokenText other rest → name.length ≤ other.length

/-- A literal part of a text and the name in the token behind it. -/
structure Segment where
  literal : List Char
  name : List Char

/-- A text split into segments and the literal part behind the last token. -/
inductive Splits : List Char → List Segment → List Char → Prop where
  | last {cs : List Char} (hnone : ∀ i, ¬ Begins (cs.drop i)) : Splits cs [] cs
  | token {cs literal rest name after last : List Char} {segments : List Segment}
      (htext : cs = literal ++ rest)
      (hleftmost : ∀ i < literal.length, ¬ Begins (cs.drop i))
      (hshortest : Shortest rest name after)
      (hafter : Splits after segments last) :
      Splits cs (⟨literal, name⟩ :: segments) last

/-- A split text put together again, with something in the place of every token. -/
def joined (token : List Char → List Char) (segments : List Segment) (last : List Char) :
    List Char :=
  segments.flatMap (fun segment => segment.literal ++ token segment.name) ++ last

theorem afterHashes_eq_some_iff {cs rest : List Char} :
    afterHashes cs = some rest ↔ cs = '#' :: '#' :: rest := by
  constructor
  · intro h
    match cs, h with
    | a :: b :: after, h =>
        simp only [afterHashes] at h
        split at h
        case isTrue hhashes =>
          obtain ⟨ha, hb⟩ : a = '#' ∧ b = '#' := by simpa using hhashes
          rw [ha, hb, Option.some.inj h]
        case isFalse => cases h
  · rintro rfl
    rfl

theorem closeToken_sound {cs name after : List Char} (h : closeToken cs = some (name, after)) :
    IsName name ∧ cs = name ++ '#' :: '#' :: after := by
  induction cs generalizing name with
  | nil => simp [closeToken] at h
  | cons c rest ih =>
      rw [closeToken] at h
      split at h
      case isTrue => cases h
      case isFalse hblank =>
        have hc : isBlank c = false := by simpa using hblank
        split at h
        case h_1 found hclosed =>
          obtain ⟨rfl, rfl⟩ := Prod.mk.inj (Option.some.inj h)
          exact ⟨by simpa [IsName] using hc, congrArg (c :: ·) (afterHashes_eq_some_iff.mp hclosed)⟩
        case h_2 =>
          obtain ⟨⟨more, found⟩, hmore, hsame⟩ := Option.map_eq_some_iff.mp h
          obtain ⟨rfl, rfl⟩ := Prod.mk.inj hsame
          obtain ⟨⟨_, hunblank⟩, hrest⟩ := ih hmore
          refine ⟨⟨List.cons_ne_nil _ _, ?_⟩, congrArg (c :: ·) hrest⟩
          intro d hd
          rcases List.mem_cons.mp hd with rfl | hd
          · exact hc
          · exact hunblank d hd

theorem closeToken_least {other : List Char} (hother : IsName other) (rest : List Char) :
    ∃ name after, closeToken (other ++ '#' :: '#' :: rest) = some (name, after) ∧
      name.length ≤ other.length := by
  obtain ⟨hsome, hunblank⟩ := hother
  induction other with
  | nil => exact absurd rfl hsome
  | cons c more ih =>
      have hc : isBlank c = false := hunblank c List.mem_cons_self
      rw [List.cons_append, closeToken]
      simp only [hc, Bool.false_eq_true, if_false]
      cases hclosed : afterHashes (more ++ '#' :: '#' :: rest) with
      | some after => exact ⟨[c], after, rfl, by simp⟩
      | none =>
          have hmore : more ≠ [] := by
            rintro rfl
            simp [afterHashes] at hclosed
          obtain ⟨name, after, hfound, hlength⟩ :=
            ih hmore fun d hd => hunblank d (List.mem_cons_of_mem _ hd)
          exact ⟨c :: name, after, by simp [hfound], by simpa using hlength⟩

theorem token?_tokenText (name after : List Char) :
    token? (tokenText name after) = closeToken (name ++ '#' :: '#' :: after) :=
  rfl

/-- The scanner finds the shortest token at the beginning of a text. -/
theorem shortest_of_token? {cs name after : List Char} (h : token? cs = some (name, after)) :
    Shortest cs name after := by
  obtain ⟨rest, hopened, hclosed⟩ := Option.bind_eq_some_iff.mp h
  obtain ⟨hname, rfl⟩ := closeToken_sound hclosed
  obtain rfl := afterHashes_eq_some_iff.mp hopened
  refine ⟨hname, rfl, ?_⟩
  intro other rest hother htext
  obtain ⟨found, behind, hfound, hlength⟩ := closeToken_least hother rest
  rw [htext, token?_tokenText, hfound] at h
  obtain ⟨rfl, -⟩ := Prod.mk.inj (Option.some.inj h)
  exact hlength

theorem not_begins_of_token? {cs : List Char} (h : token? cs = none) : ¬ Begins cs := by
  rintro ⟨name, after, hname, rfl⟩
  obtain ⟨found, behind, hfound, -⟩ := closeToken_least hname after
  rw [token?_tokenText, hfound] at h
  cases h

/-- Two shortest tokens at the beginning of one text are the same. -/
theorem Shortest.unique {cs name after other rest : List Char} (hname : Shortest cs name after)
    (hother : Shortest cs other rest) : name = other ∧ after = rest := by
  have hlength : name.length = other.length :=
    Nat.le_antisymm (hname.least other rest hother.isName hother.text)
      (hother.least name after hname.isName hname.text)
  have htext := hname.text.symm.trans hother.text
  simp only [tokenText, List.cons.injEq, true_and] at htext
  obtain ⟨rfl, hbehind⟩ := List.append_inj htext hlength
  exact ⟨rfl, by simpa using hbehind⟩

theorem Shortest.begins {cs name after : List Char} (hshortest : Shortest cs name after) :
    Begins cs :=
  ⟨name, after, hshortest.isName, hshortest.text⟩

/-- No token of a split begins before the first one of another split. -/
theorem length_le_of_leftmost {cs literal rest other : List Char} (htext : cs = literal ++ rest)
    (hbegins : Begins rest) (hleftmost : ∀ i < other.length, ¬ Begins (cs.drop i)) :
    other.length ≤ literal.length := by
  apply Nat.le_of_not_lt
  intro hless
  apply hleftmost literal.length hless
  rwa [htext, List.drop_left]

theorem Splits.unique {cs last final : List Char} {segments others : List Segment}
    (hsplits : Splits cs segments last) (hother : Splits cs others final) :
    segments = others ∧ last = final := by
  induction hsplits generalizing others final with
  | last hnone =>
      cases hother with
      | last => exact ⟨rfl, rfl⟩
      | token htext _ hshortest _ =>
          exact absurd (by rw [htext, List.drop_left]; exact hshortest.begins) (hnone _)
  | token htext hleftmost hshortest _ ih =>
      cases hother with
      | last hnone => exact absurd (by rw [htext, List.drop_left]; exact hshortest.begins) (hnone _)
      | token htext' hleftmost' hshortest' hafter' =>
          have hlength := Nat.le_antisymm
            (length_le_of_leftmost htext' hshortest'.begins hleftmost)
            (length_le_of_leftmost htext hshortest.begins hleftmost')
          obtain ⟨rfl, rfl⟩ := List.append_inj (htext.symm.trans htext') hlength
          obtain ⟨rfl, rfl⟩ := hshortest.unique hshortest'
          obtain ⟨rfl, rfl⟩ := ih hafter'
          exact ⟨rfl, rfl⟩

theorem Splits.text {cs last : List Char} {segments : List Segment}
    (hsplits : Splits cs segments last) :
    cs = joined (fun name => '#' :: '#' :: (name ++ ['#', '#'])) segments last := by
  induction hsplits with
  | last => rfl
  | token htext _ hshortest _ ih =>
      rw [htext, hshortest.text, ih]
      simp [joined, tokenText]

/-- Pieces gathered into segments. -/
def gathered : List Piece → List Segment × List Char
  | [] => ([], [])
  | .token name :: rest => (⟨[], name⟩ :: (gathered rest).1, (gathered rest).2)
  | .plain c :: rest =>
    match gathered rest with
    | ([], last) => ([], c :: last)
    | (⟨literal, name⟩ :: segments, last) => (⟨c :: literal, name⟩ :: segments, last)

/-- A character at which no token starts lengthens the first literal part. -/
theorem splits_plain {c : Char} {rest : List Char} {pieces : List Piece}
    (hnone : ¬ Begins (c :: rest)) (hrest : Splits rest (gathered pieces).1 (gathered pieces).2) :
    Splits (c :: rest) (gathered (.plain c :: pieces)).1 (gathered (.plain c :: pieces)).2 := by
  rw [gathered]
  generalize gathered pieces = split at hrest ⊢
  obtain ⟨segments, last⟩ := split
  cases hrest with
  | last hlast =>
      refine .last ?_
      rintro (_ | i)
      · exact hnone
      · exact hlast i
  | token htext hleftmost hshortest hafter =>
      refine .token (congrArg (c :: ·) htext) ?_ hshortest hafter
      rintro (_ | i) hi
      · exact hnone
      · exact hleftmost i (Nat.lt_of_succ_lt_succ hi)

theorem splits_gathered (cs : List Char) :
    Splits cs (gathered (pieces cs)).1 (gathered (pieces cs)).2 := by
  fun_induction pieces cs with
  | case1 cs name after hfound _ ih =>
      exact .token (List.nil_append cs).symm (by simp) (shortest_of_token? hfound) ih
  | case2 hfound =>
      exact .last fun i => by simpa using not_begins_of_token? hfound
  | case3 c rest hfound ih => exact splits_plain (not_begins_of_token? hfound) ih

variable (table : Table)

theorem values_eq_joined (pieces : List Piece) :
    pieces.flatMap (Piece.value table) =
      joined (fun name => ((table (String.ofList name)).getD "").toList)
        (gathered pieces).1 (gathered pieces).2 := by
  induction pieces with
  | nil => rfl
  | cons piece rest ih =>
      rw [List.flatMap_cons, ih]
      cases piece with
      | token name => simp [gathered, joined, Piece.value]
      | plain c =>
          rw [gathered]
          obtain ⟨_ | ⟨⟨literal, name⟩, segments⟩, last⟩ := gathered rest
          · rfl
          · simp [joined, Piece.value]

theorem unknown_eq_filter (pieces : List Piece) :
    pieces.filterMap (Piece.unknown? table) =
      ((gathered pieces).1.map (String.ofList ·.name)).filter (table · == none) := by
  induction pieces with
  | nil => rfl
  | cons piece rest ih =>
      rw [List.filterMap_cons, ih]
      cases piece with
      | token name =>
          cases hvalue : table (String.ofList name) <;>
            simp [gathered, Piece.unknown?, hvalue]
      | plain c =>
          rw [gathered]
          obtain ⟨_ | ⟨⟨literal, name⟩, segments⟩, last⟩ := gathered rest
          · rfl
          · rfl

/-- Every text splits in exactly one way. Its expansion is the split text with the value of
every name, or nothing for an unknown one, in the place of the token; and the warnings are one
for each token with an unknown name, from left to right. -/
theorem expands_by_split (bound : Fields) (cs : List Char) :
    ∃ segments last,
      (∀ others final, Splits cs others final ↔ others = segments ∧ final = last) ∧
      cs = joined (fun name => '#' :: '#' :: (name ++ ['#', '#'])) segments last ∧
      expand table cs =
        joined (fun name => ((table (String.ofList name)).getD "").toList) segments last ∧
      (unknown table cs).map (Request.unknownMacro bound) =
        ((segments.map (String.ofList ·.name)).filter (table · == none)).map
          fun name => ⟨.warning, "HTTP: invalid macro " ++ name, bound⟩ := by
  have hsplits := splits_gathered cs
  refine ⟨(gathered (pieces cs)).1, (gathered (pieces cs)).2, ?_, hsplits.text,
    values_eq_joined table _, ?_⟩
  · intro others final
    constructor
    · exact fun hother => hother.unique hsplits
    · rintro ⟨rfl, rfl⟩
      exact hsplits
  · rw [unknown, unknown_eq_filter]
    rfl

/-- Of five hashes the middle one is a name, and of six the last one is left over. -/
example : expand (fun _ => some "v") "a#####b######".toList = "avbv#".toList := by
  decide +kernel

end MmsHttp.Macro
