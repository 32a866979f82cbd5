import MmsHttp.Proofs.Session.Custody

/-!
Sessions over whole courses of openings, acquisitions, calls and closings. After the last
closing the session is shut, whatever went wrong; every pool that was made has been asked to
close once, unless a step on the way left it to nobody.
-/

namespace MmsHttp

open Wire

namespace Session

variable {closing : Pool → Option Fault} {history : List Step} {life : Life}

theorem perform_before (life : Life) (operation : Operation) :
    (life.perform operation).before = life ∧ (life.perform operation).operation = operation := by
  unfold Life.perform
  split
  · exact ⟨rfl, rfl⟩
  · split <;> exact ⟨rfl, rfl⟩
  · split <;> exact ⟨rfl, rfl⟩
  · exact ⟨rfl, rfl⟩

theorem Accounts.of_mem (haccounts : Accounts closing history life) {operations : List Operation}
    {step : Step} (hmem : step ∈ life.course operations) :
    ∃ earlier, Accounts closing earlier step.before ∧
      step = step.before.perform step.operation := by
  induction operations generalizing history life with
  | nil => cases hmem
  | cons operation rest ih =>
      rcases List.mem_cons.mp hmem with rfl | hmem
      · obtain ⟨hbefore, hoperation⟩ := perform_before life operation
        rw [hbefore, hoperation]
        exact ⟨history, haccounts, rfl⟩
      · exact ih (haccounts.of_perform operation) hmem

/-- What a closing puts on record: the first of its pools that cannot be closed. -/
theorem Accounts.events_closing (haccounts : Accounts closing history life) :
    (life.perform .closing).events =
      ((life.held.findSome? closing).map fun fault => closeFailed fault.text).toList := by
  change life.session.closed.1 = _
  rcases haccounts.whole with hopen | ⟨hclosed, -⟩
  · rw [(closed_of_registry hopen).1, Life.held_of_registry hopen, haccounts.fails]
  · rw [closed_of_nothing hclosed, Life.held_of_nothing hclosed]
    rfl

/-- What holds once a session has been closed, whatever was done with it before. -/
structure Settled (closing : Pool → Option Fault) (steps : List Step) (last : Life) : Prop where
  executor : last.session.executor? = .error (notInitialized "executor")
  registry : last.session.routeCount? = .error (notInitialized "connection_pool")
  quiet : ∀ step ∈ steps, step.operation = .closing → step.fault = none ∧ step.events =
    ((step.before.held.findSome? closing).map fun fault => closeFailed fault.text).toList
  atMostOnce : ∀ number, last.session.pools.closed.count number ≤ 1
  closed : ∀ number, number ∈ last.session.pools.closed ↔
    number < last.next ∧ ∀ step ∈ steps, number ∉ step.abandoned
  complete : (∀ number < last.next, last.session.pools.closed.count number = 1) ↔
    ∀ step ∈ steps, step.abandoned = []
  failing : ∀ step ∈ steps, step.before.session.closing = closing

section Shut

variable (haccounts : Accounts closing history life) (hheld : life.held = [])

include haccounts hheld in
/-- When nothing is held any more, every number that is used up stands for a pool that was
closed or left to nobody. -/
theorem Accounts.count_closed (number : Nat) :
    life.session.pools.closed.count number + (history.flatMap (·.abandoned)).count number =
      (List.range life.next).count number := by
  have hplaced := haccounts.placed number
  rw [hheld, List.map_nil, List.count_nil] at hplaced
  omega

include haccounts hheld in
theorem Accounts.count_closed_le (number : Nat) :
    life.session.pools.closed.count number ≤ 1 := by
  have hplaced := haccounts.count_closed hheld number
  have hlimit : (List.range life.next).count number ≤ 1 :=
    List.nodup_iff_count_le_one.mp List.nodup_range number
  omega

include haccounts hheld in
/-- The pools that were closed are those that no step has left to nobody. -/
theorem Accounts.mem_closed_iff (number : Nat) :
    number ∈ life.session.pools.closed ↔
      number < life.next ∧ ∀ step ∈ history, number ∉ step.abandoned := by
  have hplaced := haccounts.count_closed hheld number
  have hlimit : (List.range life.next).count number ≤ 1 :=
    List.nodup_iff_count_le_one.mp List.nodup_range number
  have hused : 0 < (List.range life.next).count number ↔ number < life.next := by
    rw [List.count_pos_iff, List.mem_range]
  have habandoned : (history.flatMap (·.abandoned)).count number = 0 ↔
      ∀ step ∈ history, number ∉ step.abandoned := by
    simp [List.count_eq_zero]
  rw [← List.count_pos_iff, ← habandoned]
  omega

include haccounts hheld in
theorem Accounts.all_closed_iff :
    (∀ number < life.next, life.session.pools.closed.count number = 1) ↔
      ∀ step ∈ history, step.abandoned = [] := by
  constructor
  · intro hall step hmem
    apply List.eq_nil_iff_forall_not_mem.mpr
    intro number hnumber
    -- A number that was left to nobody is used up, so it would have been closed as well.
    have hplaced := haccounts.count_closed hheld number
    have habandoned : 0 < (history.flatMap (·.abandoned)).count number :=
      List.count_pos_iff.mpr (List.mem_flatMap.mpr ⟨step, hmem, hnumber⟩)
    have hused : number < life.next := by
      apply List.mem_range.mp
      apply List.count_pos_iff.mp
      omega
    have hclosed : number ∈ life.session.pools.closed := by
      apply List.count_pos_iff.mp
      rw [hall number hused]
      exact Nat.one_pos
    exact ((haccounts.mem_closed_iff hheld number).mp hclosed).2 step hmem hnumber
  · intro hnone number hnumber
    have hclosed : number ∈ life.session.pools.closed := by
      apply (haccounts.mem_closed_iff hheld number).mpr
      exact ⟨hnumber, fun step hmem => by simp [hnone step hmem]⟩
    have hpositive := List.count_pos_iff.mpr hclosed
    have hlimit := haccounts.count_closed_le hheld number
    omega

end Shut

theorem reached_closing (life : Life) (operations : List Operation) :
    life.reached (operations ++ [.closing]) =
      ((life.reached operations).perform .closing).after := by
  simp [Life.reached]

/-- However often a session is opened and closed, whatever is acquired and executed in between
and whichever pools cannot be closed: when it has been closed it has neither executor nor
registry, no closing has let a fault through, no pool was asked to close twice, and the pools
that were not asked at all are those that a step has left to nobody. -/
theorem settled_of_closing (settings : Settings) (processLocale : Option String)
    (network : Wire.Network) (closing : Pool → Option Fault) (operations : List Operation) :
    let start := Life.new settings processLocale network closing
    Settled closing (start.course (operations ++ [.closing]))
      (start.reached (operations ++ [.closing])) := by
  intro start
  have hstart : Accounts closing [] start := accounts_new settings processLocale network closing
  have hended := hstart.of_course (operations ++ [.closing])
  rw [List.nil_append] at hended
  have hheld : (start.reached (operations ++ [.closing])).held = [] := by
    rw [reached_closing]
    rfl
  constructor
  case executor => rw [reached_closing]; rfl
  case registry => rw [reached_closing]; rfl
  case quiet =>
    intro step hmem hclosing
    obtain ⟨earlier, hbefore, hstep⟩ := hstart.of_mem hmem
    rw [hclosing] at hstep
    rw [← hbefore.events_closing, ← hstep]
    exact ⟨congrArg Step.fault hstep, rfl⟩
  case atMostOnce => exact hended.count_closed_le hheld
  case closed => exact hended.mem_closed_iff hheld
  case complete => exact hended.all_closed_iff hheld
  case failing =>
    intro step hmem
    obtain ⟨earlier, hbefore, -⟩ := hstart.of_mem hmem
    exact hbefore.fails

/-- Pools are left open: that of a registry which another opening replaces, and one behind a
pool that cannot be closed. -/
theorem pools_left_open :
    let settings : Settings := ((Settings.takeAll fun _ => none).run []).1
    let fails (pool : Pool) : Option Fault :=
      if pool.number = 0 then some ⟨.outside "OSError", "socket already gone"⟩ else none
    let start (closing : Pool → Option Fault) : Life :=
      .new settings none { directory := [], peers := [] } closing
    let plain : Route := ⟨none, "system", none⟩
    let secure : Route := ⟨none, "system", some "default"⟩
    let reopened := (start fun _ => none).reached
      [.opening, .acquisition 0 plain, .opening, .closing]
    let broken := (start fails).reached
      [.opening, .acquisition 0 plain, .acquisition 0 secure, .closing]
    (reopened.next = 1 ∧ reopened.session.pools.closed = []) ∧
      broken.next = 2 ∧ broken.session.pools.closed = [0] := by
  decide +kernel

end Session

end MmsHttp
