import Mathlib.Data.List.DropRight
import MmsHttp.Proofs.Text.Split

/-!
Host names within the limits of the domain name system. A name may be closed by one dot, which
stands for the root; more dots at its end leave empty labels there.
-/

namespace MmsHttp

namespace HostName

/-- A name whose length and labels keep the limits. -/
structure Within (name : List Char) : Prop where
  length : name.length ≤ 253
  label : ∀ label ∈ name.splitOn '.', label.length ≤ 63

/-- A name within the limits that has no empty label. -/
structure Bounded (name : List Char) : Prop extends Within name where
  filled : ∀ label ∈ name.splitOn '.', label ≠ []

def rootless (host : List Char) : List Char :=
  if host.getLast? = some '.' then host.dropLast else host

def undotted (host : List Char) : List Char :=
  host.rdropWhile (· == '.')

def dots (host : List Char) : Nat :=
  (host.rtakeWhile (· == '.')).length

instance : DecidablePred Bounded := fun name =>
  decidable_of_iff (name.length ≤ 253 ∧ ∀ label ∈ name.splitOn '.', label.length ≤ 63 ∧ label ≠ [])
    ⟨fun h => ⟨⟨h.1, fun label hlabel => (h.2 label hlabel).1⟩,
        fun label hlabel => (h.2 label hlabel).2⟩,
      fun h => ⟨h.length, fun label hlabel => ⟨h.label label hlabel, h.filled label hlabel⟩⟩⟩

theorem undotted_append_dots (host : List Char) :
    undotted host ++ List.replicate (dots host) '.' = host := by
  have hdots : host.rtakeWhile (· == '.') = List.replicate (dots host) '.' :=
    List.eq_replicate_iff.mpr ⟨rfl, fun c hc => by simpa using List.mem_rtakeWhile_imp hc⟩
  rw [undotted, ← hdots]
  exact List.rdropWhile_append_rtakeWhile

theorem splitOn_append_dots (name : List Char) (n : Nat) :
    (name ++ List.replicate n '.').splitOn '.' = name.splitOn '.' ++ List.replicate n [] := by
  induction n with
  | zero => simp
  | succ n ih =>
      rw [List.replicate_succ', ← List.append_assoc, List.replicate_succ',
        ← List.append_assoc, ← ih]
      exact List.splitOnP_append_cons _ [] (by simp)

/-- The labels of a host: those in front of the dots at its end, and an empty one for each dot. -/
theorem splitOn_eq (host : List Char) :
    host.splitOn '.' = (undotted host).splitOn '.' ++ List.replicate (dots host) [] := by
  rw [← splitOn_append_dots, undotted_append_dots]

theorem mem_splitOn_of_undotted {host label : List Char}
    (h : label ∈ (undotted host).splitOn '.') : label ∈ host.splitOn '.' := by
  rw [splitOn_eq]
  exact List.mem_append_left _ h

theorem length_undotted_le (host : List Char) : (undotted host).length ≤ host.length :=
  (List.rdropWhile_prefix _ host).length_le

/-- A closing dot does not count. -/
theorem undotted_concat (name : List Char) : undotted (name ++ ['.']) = undotted name :=
  List.rdropWhile_concat_pos _ _ _ (by simp)

theorem undotted_of_append {name host : List Char} {n : Nat} (hlast : name.getLast? ≠ some '.')
    (hhost : host = name ++ List.replicate n '.') : name = undotted host ∧ n = dots host := by
  have hname : undotted host = name := by
    have hdots : ∀ c ∈ List.replicate n '.', (c == '.') = true := by simp
    rw [hhost, undotted, List.rdropWhile, List.reverse_append, List.reverse_replicate,
      List.dropWhile_append_of_pos hdots]
    cases hreverse : name.reverse with
    | nil => exact (List.reverse_eq_nil_iff.mp hreverse).symm
    | cons c before =>
        have hc : ¬ (c == '.') = true := by
          rw [← List.head?_reverse, hreverse] at hlast
          simpa using hlast
        rw [List.dropWhile_cons_of_neg (p := (· == '.')) hc, ← hreverse, List.reverse_reverse]
  refine ⟨hname.symm, ?_⟩
  have hlength := congrArg List.length (undotted_append_dots host)
  rw [hname] at hlength
  simp only [hhost, List.length_append, List.length_replicate] at hlength ⊢
  omega

variable {host : List Char}

theorem Bounded.getLast?_ne {name : List Char} (h : Bounded name) : name.getLast? ≠ some '.' := by
  intro hlast
  obtain ⟨before, rfl⟩ := List.getLast?_eq_some_iff.mp hlast
  have hlabels := splitOn_append_dots before 1
  rw [List.replicate_one] at hlabels
  exact h.filled [] (by simp [hlabels]) rfl

/-- A host is a bounded name with dots behind it in one way at most. -/
theorem exists_bounded_iff {p : Nat → Prop} :
    (∃ name n, p n ∧ Bounded name ∧ host = name ++ List.replicate n '.') ↔
      p (dots host) ∧ Bounded (undotted host) := by
  constructor
  · rintro ⟨name, n, hn, hname, hhost⟩
    obtain ⟨rfl, rfl⟩ := undotted_of_append hname.getLast?_ne hhost
    exact ⟨hn, hname⟩
  · rintro ⟨hn, hname⟩
    exact ⟨_, _, hn, hname, (undotted_append_dots host).symm⟩

theorem bounded_rootless_iff :
    Bounded (rootless host) ↔ dots host ≤ 1 ∧ Bounded (undotted host) := by
  rw [← exists_bounded_iff (p := (· ≤ 1))]
  constructor
  · intro h
    unfold rootless at h
    split at h
    case isTrue hlast =>
      obtain ⟨name, rfl⟩ := List.getLast?_eq_some_iff.mp hlast
      rw [List.dropLast_concat] at h
      exact ⟨name, 1, le_rfl, h, rfl⟩
    case isFalse => exact ⟨host, 0, Nat.zero_le 1, h, by simp⟩
  · rintro ⟨name, n, hn, hname, rfl⟩
    obtain rfl | rfl : n = 0 ∨ n = 1 := by omega
    · rw [List.replicate_zero, List.append_nil, rootless, if_neg hname.getLast?_ne]
      exact hname
    · simpa [rootless] using hname

end HostName

end MmsHttp
