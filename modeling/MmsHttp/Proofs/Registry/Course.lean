import MmsHttp.Proofs.Registry

/-!
Registries over whole courses of operations. Two acquisitions share a pool exactly if they
are for one route and the registry was not closed between them, the routes that are counted
are those acquired since the last closing, and the log has one record for every pool that
is made.
-/

namespace MmsHttp.Registry

/-- The routes of the acquisitions that have succeeded since the last closing, in a course
whose earliest step comes first. -/
def routesInUse (steps : List Step) : List Route :=
  (steps.reverse.takeWhile (!·.isClosing)).filterMap fun step => step.acquired?.map Prod.fst

/-- A step that hands out a pool which no earlier one has handed out. -/
def Makes (earlier : List Step) (step : Step) (route : Route) (pool : Pool) : Prop :=
  step.acquired? = some (route, pool) ∧
    ∀ prior ∈ earlier, ∀ entry, prior.acquired? = some entry → entry.2.number ≠ pool.number

/-- What an operation can come to. -/
def Operation.Allows : Operation → Incident → Prop
  | .acquire route, .acquired own _ => own = route
  | .acquire route, .failed own _ => own = route
  | .giveBack borrowed, .givenBack own => own = borrowed
  | .close, .closed => True
  | _, _ => False

/-- What holds of the steps that operations leave with a registry of these limits, the
earliest one first. -/
structure Orderly (limits : PoolLimits) (operations : List Operation) (steps : List Step) :
    Prop where
  answered : List.Forall₂ (fun operation step => operation.Allows step.incident) operations steps
  chained : List.IsChain (fun first second => second.before = first.after) steps
  shared : ∀ earlier first between second later route other pool another,
    steps = earlier ++ first :: (between ++ second :: later) →
    first.acquired? = some (route, pool) → second.acquired? = some (other, another) →
    (pool.number = another.number ↔
      route = other ∧ ∀ step ∈ between, step.incident ≠ .closed) ∧
    (pool.number = another.number → pool = another)
  counted : ∀ earlier step later, steps = earlier ++ step :: later →
    step.after.routeCount = (routesInUse (earlier ++ [step])).toFinset.card
  served : ∀ step ∈ steps, ∀ route pool, step.acquired? = some (route, pool) →
    Serves limits route pool
  recorded : ∀ earlier step later, steps = earlier ++ step :: later →
    (∀ route pool, Makes earlier step route pool →
      step.events = [newPoolEvent route step.after.routeCount]) ∧
    ((∀ route pool, ¬ Makes earlier step route pool) → step.events = [])
  failed : ∀ step ∈ steps, ∀ route fault, step.incident = .failed route fault →
    step.after = step.before ∧ route.proxy.mapM Proxy.endpoint = .error fault
  borrowed : ∀ step ∈ steps, ∀ pool, step.incident = .givenBack pool → step.after = step.before

variable {limits : PoolLimits} {history : List Step} {registry : Registry}

theorem Goes.before_eq {operation : Operation} {step : Step}
    (hgoes : registry.Goes operation step) : step.before = registry := by
  cases hgoes <;> rfl

theorem Goes.allows {operation : Operation} {step : Step}
    (hgoes : registry.Goes operation step) : operation.Allows step.incident := by
  cases hgoes <;> trivial

theorem answered_course (registry : Registry) (operations : List Operation) :
    List.Forall₂ (fun operation step => operation.Allows step.incident) operations
      (registry.course operations) := by
  induction operations generalizing registry with
  | nil => exact .nil
  | cons operation rest ih => exact .cons (goes_perform registry operation).allows (ih _)

theorem chained_course (registry : Registry) (operations : List Operation) :
    List.IsChain (fun first second => second.before = first.after)
      (registry.course operations) := by
  induction operations generalizing registry with
  | nil => exact .nil
  | cons operation rest ih =>
      cases rest with
      | nil => exact .singleton _
      | cons next more =>
          exact List.isChain_cons_cons.mpr ⟨(goes_perform _ next).before_eq, ih _⟩

theorem Accounts.of_course (haccounts : Accounts limits history registry)
    {operations : List Operation} {earlier later : List Step} {step : Step}
    (hsteps : registry.course operations = earlier ++ step :: later) :
    Accounts limits (earlier.reverse ++ history) step.before ∧
      ∃ operation, step.before.Goes operation step := by
  induction operations generalizing registry history earlier with
  | nil => simp [course] at hsteps
  | cons operation rest ih =>
      have hgoes := goes_perform registry operation
      rw [course] at hsteps
      cases earlier with
      | nil =>
          obtain ⟨rfl, -⟩ := List.cons.inj hsteps
          rw [hgoes.before_eq]
          exact ⟨haccounts, operation, hgoes⟩
      | cons first earlier =>
          obtain ⟨rfl, hrest⟩ := List.cons.inj hsteps
          have hfound := ih (haccounts.of_goes hgoes) hrest
          simpa using hfound

/-- What an acquisition hands out is in the registry after it. -/
theorem Goes.mem_routes {operation : Operation} {step : Step}
    (hgoes : registry.Goes operation step) {entry : Route × Pool}
    (hentry : step.acquired? = some entry) : entry ∈ step.after.routes := by
  cases hgoes with
  | shares route pool hfound =>
      obtain rfl := Option.some.inj hentry
      exact hfound
  | makes route pool hnew hpool =>
      obtain rfl := Option.some.inj hentry
      exact List.mem_append_right _ (List.mem_singleton_self _)
  | fails => cases hentry
  | givesBack => cases hentry
  | closes => cases hentry

theorem acquired?_of_isClosing {step : Step} (h : step.isClosing = true) :
    step.acquired? = none := by
  have hclosed : step.incident = .closed := by simpa [Step.isClosing] using h
  simp [Step.acquired?, hclosed]

/-- An earlier step is among those since the last closing, unless a later one has closed. -/
theorem mem_sinceClosing_of_open {between older : List Step} {first : Step}
    {entry : Route × Pool} (hentry : first.acquired? = some entry)
    (hopen : ∀ step ∈ between, step.incident ≠ .closed) :
    first ∈ sinceClosing (between ++ first :: older) := by
  have hfirst : first.isClosing = false := by
    by_contra hclosing
    rw [acquired?_of_isClosing (by simpa using hclosing)] at hentry
    cases hentry
  rw [sinceClosing, List.takeWhile_append_of_pos (by simpa [Step.isClosing] using hopen)]
  simp [hfirst]

theorem mem_untilClosing_of_closed {between older : List Step} {first closing : Step}
    (hmem : closing ∈ between) (hclosed : closing.incident = .closed) :
    first ∈ untilClosing (between ++ first :: older) := by
  induction between with
  | nil => cases hmem
  | cons newest rest ih =>
      rw [List.cons_append]
      cases hnewest : newest.isClosing with
      | true => simp [untilClosing, hnewest]
      | false =>
          rw [untilClosing_cons hnewest]
          rcases List.mem_cons.mp hmem with rfl | hmem
          · simp [Step.isClosing, hclosed] at hnewest
          · exact ih hmem

/-- Two acquisitions give one pool exactly if they are for one route and nothing was closed
between them. -/
theorem shared_iff {between older : List Step} {first second : Step} {route other : Route}
    {pool another : Pool}
    (haccounts : Accounts limits (second :: (between ++ first :: older)) registry)
    (hfirst : first.acquired? = some (route, pool))
    (hsecond : (other, another) ∈ registry.routes)
    (hopen : second.isClosing = false) :
    (pool.number = another.number ↔
      route = other ∧ ∀ step ∈ between, step.incident ≠ .closed) ∧
    (pool.number = another.number → pool = another) := by
  by_cases hbetween : ∀ step ∈ between, step.incident ≠ .closed
  · -- The first pool is still in the registry, where routes and numbers both tell pools apart.
    have hlisted : (route, pool) ∈ registry.routes := by
      apply (haccounts.listed route pool).mpr
      refine ⟨first, ?_, hfirst⟩
      rw [sinceClosing_cons hopen]
      exact List.mem_cons_of_mem _ (mem_sinceClosing_of_open hfirst hbetween)
    have hsame (hnumber : pool.number = another.number) : (route, pool) = (other, another) :=
      haccounts.told _ hlisted _ hsecond hnumber
    refine ⟨⟨fun hnumber => ⟨(Prod.mk.inj (hsame hnumber)).1, hbetween⟩, ?_⟩,
      fun hnumber => (Prod.mk.inj (hsame hnumber)).2⟩
    rintro ⟨rfl, -⟩
    have hentry := List.inj_on_of_nodup_map haccounts.distinct hlisted hsecond rfl
    rw [(Prod.mk.inj hentry).2]
  · obtain ⟨closing, hmem, hclosed⟩ : ∃ step ∈ between, step.incident = .closed := by
      simpa using hbetween
    have hpast : first ∈ untilClosing (second :: (between ++ first :: older)) := by
      rw [untilClosing_cons hopen]
      exact mem_untilClosing_of_closed hmem hclosed
    have hdiffer : pool.number ≠ another.number :=
      haccounts.forgotten first hpast (route, pool) hfirst (other, another) hsecond
    exact ⟨⟨fun hnumber => absurd hnumber hdiffer, fun h => absurd h.2 hbetween⟩,
      fun hnumber => absurd hnumber hdiffer⟩

/-- A step leaves a record exactly if it makes a pool. -/
theorem recorded_of_goes {earlier : List Step} {operation : Operation} {step : Step}
    (haccounts : Accounts limits earlier.reverse registry)
    (hgoes : registry.Goes operation step) :
    (∀ route pool, Makes earlier step route pool →
      step.events = [newPoolEvent route step.after.routeCount]) ∧
    ((∀ route pool, ¬ Makes earlier step route pool) → step.events = []) := by
  cases hgoes with
  | shares route pool hfound =>
      refine ⟨?_, fun _ => rfl⟩
      rintro other another ⟨hentry, hunused⟩
      obtain ⟨rfl, rfl⟩ := Prod.mk.inj (Option.some.inj hentry)
      obtain ⟨prior, hprior, hgiven⟩ := (haccounts.listed route pool).mp hfound
      have hmem := List.mem_reverse.mp ((List.takeWhile_sublist _).mem hprior)
      exact absurd rfl (hunused prior hmem _ hgiven)
  | makes route pool hnew hpool =>
      constructor
      · rintro other another ⟨hentry, -⟩
        obtain ⟨rfl, rfl⟩ := Prod.mk.inj (Option.some.inj hentry)
        simp [routeCount]
      · intro hnone
        refine absurd ⟨rfl, ?_⟩ (hnone route pool)
        intro prior hprior entry hentry
        rw [(newPool_eq_ok hpool).1]
        exact (haccounts.given prior (List.mem_reverse.mpr hprior) entry hentry).ne
  | fails => simp [Makes, Step.acquired?]
  | givesBack => simp [Makes, Step.acquired?]
  | closes => simp [Makes, Step.acquired?]

/-- Whatever is done with a registry that begins without routes, its steps are orderly. -/
theorem orderly_course (limits : PoolLimits) (next : Nat) (operations : List Operation) :
    Orderly limits operations (course { limits, next } operations) := by
  have hstep {earlier later : List Step} {step : Step}
      (hsteps : course { limits, next } operations = earlier ++ step :: later) :
      Accounts limits earlier.reverse step.before ∧
        ∃ operation, step.before.Goes operation step := by
    simpa using (accounts_nil limits next).of_course hsteps
  constructor
  case answered => exact answered_course _ operations
  case chained => exact chained_course _ operations
  case shared =>
    intro earlier first between second later route other pool another hsteps hfirst hsecond
    have hsplit : course { limits, next } operations =
        (earlier ++ first :: between) ++ second :: later := by simp [hsteps]
    obtain ⟨haccounts, operation, hgoes⟩ := hstep hsplit
    have hafter := haccounts.of_goes hgoes
    have hopen : second.isClosing = false := by
      by_contra hclosing
      rw [acquired?_of_isClosing (by simpa using hclosing)] at hsecond
      cases hsecond
    simp only [List.reverse_append, List.reverse_cons, List.append_assoc,
      List.singleton_append] at hafter
    have hshared := shared_iff hafter hfirst (hgoes.mem_routes hsecond) hopen
    simpa using hshared
  case counted =>
    intro earlier step later hsteps
    obtain ⟨haccounts, operation, hgoes⟩ := hstep hsteps
    rw [(haccounts.of_goes hgoes).routeCount_eq, routesInUse, List.reverse_append,
      List.reverse_singleton, List.singleton_append, sinceClosing]
  case served =>
    intro step hmem route pool hentry
    obtain ⟨earlier, later, hsteps⟩ := List.append_of_mem hmem
    obtain ⟨haccounts, operation, hgoes⟩ := hstep hsteps
    exact (haccounts.of_goes hgoes).served _ (hgoes.mem_routes hentry)
  case recorded =>
    intro earlier step later hsteps
    obtain ⟨haccounts, operation, hgoes⟩ := hstep hsteps
    exact recorded_of_goes haccounts hgoes
  case failed =>
    intro step hmem route fault hincident
    obtain ⟨earlier, later, hsteps⟩ := List.append_of_mem hmem
    obtain ⟨_, operation, hgoes⟩ := hstep hsteps
    generalize step.before = before at hgoes ⊢
    cases hgoes with
    | fails own fault hfault => cases hincident; exact ⟨rfl, hfault⟩
    | _ => cases hincident
  case borrowed =>
    intro step hmem pool hincident
    obtain ⟨earlier, later, hsteps⟩ := List.append_of_mem hmem
    obtain ⟨_, operation, hgoes⟩ := hstep hsteps
    generalize step.before = before at hgoes ⊢
    cases hgoes with
    | givesBack => rfl
    | _ => cases hincident

end MmsHttp.Registry
