import MmsHttp.Executor
import MmsHttp.Proofs.Url.HostName

namespace MmsHttp

open Text

namespace Executor

open HostName

/-- A host without colons is let through if it is a bounded name once all dots at its end are
taken away. -/
theorem isValidHost_iff {host : String} (hcolon : ':' ∉ host.toList) :
    isValidHost host = true ↔ Bounded (undotted host.toList) := by
  have hnone : host.toList.contains ':' = false := by simpa using hcolon
  unfold isValidHost
  simp only [hnone, Bool.false_eq_true, if_false, Bool.and_eq_true, decide_eq_true_eq,
    List.all_eq_true, Bool.not_eq_true', List.isEmpty_eq_false_iff]
  rw [splitBy_eq_splitOnP]
  exact ⟨fun h => ⟨⟨h.1, fun label hlabel => (h.2 label hlabel).2⟩,
      fun label hlabel => (h.2 label hlabel).1⟩,
    fun h => ⟨h.length, fun label hlabel => ⟨h.filled label hlabel, h.label label hlabel⟩⟩⟩

/-- A host without colons is let through exactly when it is a bounded name with any number of dots
behind it. That is what a resolver takes, which allows one dot for the root, for every host but a
bounded name with two dots or more. -/
theorem resolvable_iff_not_overdotted {host : String} (hcolon : ':' ∉ host.toList) :
    (isValidHost host = true ↔
      ∃ name n, Bounded name ∧ host.toList = name ++ List.replicate n '.') ∧
    ((isValidHost host = true ↔ Bounded (rootless host.toList)) ↔
      ¬ ∃ name n, 2 ≤ n ∧ Bounded name ∧ host.toList = name ++ List.replicate n '.') := by
  have hany : (∃ name n, Bounded name ∧ host.toList = name ++ List.replicate n '.') ↔
      Bounded (undotted host.toList) := by
    simpa only [true_and] using exists_bounded_iff (p := fun _ => True)
  rw [isValidHost_iff hcolon, hany, exists_bounded_iff, bounded_rootless_iff]
  refine ⟨Iff.rfl, ?_⟩
  by_cases hname : Bounded (undotted host.toList)
  · simp only [hname, and_true, true_iff]
    omega
  · simp [hname]

/-- One dot for the root is taken away, and the name in front of it keeps the limits. -/
theorem resolvable_with_root :
    ':' ∉ "mms.example.".toList ∧
      (isValidHost "mms.example." = true ↔ Bounded (rootless "mms.example.".toList)) := by
  have hcolon : ':' ∉ "mms.example.".toList := by decide
  refine ⟨hcolon, (resolvable_iff_not_overdotted hcolon).2.mpr ?_⟩
  rw [exists_bounded_iff]
  exact fun h => absurd h.1 (by decide +kernel)

/-- A second dot at the end is let through, although it leaves an empty label there. -/
theorem admits_doubled_root :
    let host := "mms.example.."
    (∀ c ∈ host.toList, c.toNat < 128) ∧ ':' ∉ host.toList ∧ isValidHost host = true ∧
      [] ∈ (rootless host.toList).splitOn '.' ∧ ¬ Bounded (rootless host.toList) := by
  intro host
  have hempty : [] ∈ (rootless host.toList).splitOn '.' := by decide
  exact ⟨List.forall_iff_forall_mem.mp (by decide), by decide, by decide, hempty,
    fun h => h.filled [] hempty rfl⟩

end Executor

end MmsHttp
