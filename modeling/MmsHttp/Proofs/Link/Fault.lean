import MmsHttp.Link.Dial
import MmsHttp.Link.Response

/-!
How the faults of a link become those of an exchange. A fault is reported under the class
that stands for the nearest of its ancestors that has one, with its own text; faults of
dialling that are about names and addresses always have one.
-/

namespace MmsHttp

namespace LinkClass

/-- The class of the exchange that stands for the nearest ancestor that any of them stands
for. A class counts as its own nearest ancestor. -/
def NearestIs (cls : LinkClass) (found : FaultClass) : Prop :=
  ∃ nearer ancestor further, cls.lineage = nearer ++ ancestor :: further ∧
    ancestor.counterpart? = some found ∧ ∀ other ∈ nearer, other.counterpart? = none

theorem reportedAs?_eq_some_iff {cls : LinkClass} {found : FaultClass} :
    cls.reportedAs? = some found ↔ cls.NearestIs found :=
  List.findSome?_eq_some_iff

theorem reportedAs?_eq_none_iff {cls : LinkClass} :
    cls.reportedAs? = none ↔ ∀ ancestor ∈ cls.lineage, ancestor.counterpart? = none :=
  List.findSome?_eq_none_iff

/-- A class with any ancestor that is known to the exchange has a nearest one. -/
theorem exists_nearestIs {cls : LinkClass} {ancestor : LinkKind} (hmem : ancestor ∈ cls.lineage)
    (hknown : ancestor.counterpart?.isSome = true) : ∃ found, cls.NearestIs found := by
  cases hfound : cls.reportedAs? with
  | some found => exact ⟨found, reportedAs?_eq_some_iff.mp hfound⟩
  | none =>
      rw [reportedAs?_eq_none_iff.mp hfound ancestor hmem] at hknown
      cases hknown

theorem NearestIs.isExchangeFailure {cls : LinkClass} {found : FaultClass}
    (hnearest : cls.NearestIs found) : found.isExchangeFailure = true := by
  obtain ⟨_, ancestor, _, _, hfound, _⟩ := hnearest
  cases ancestor with
  | outside name => cases hfound
  | _ =>
      obtain rfl := Option.some.inj hfound
      rfl

end LinkClass

namespace LinkFault

theorem reported_of_nearestIs {fault : LinkFault} {found : FaultClass}
    (hnearest : fault.cls.NearestIs found) : fault.reported = ⟨found, fault.text⟩ := by
  rw [reported, LinkClass.reportedAs?_eq_some_iff.mpr hnearest, Option.getD_some]

@[simp] theorem fault_report (request : Outgoing) (fault : LinkFault) :
    (fault.report request).fault = fault.reported := by
  unfold report reported
  cases fault.cls.reportedAs? <;> rfl

end LinkFault

namespace Dial

/-- Faults of dialling that the exchange has to get to know: the resolver fails with a fault
of the system or of encoding or of a class below these, or finds no address, or the attempt that
ends the search fails with a fault of a known kind or of a class below one. -/
inductive Expected (answer : Answer) (fault : LinkFault) : Prop where
  | unresolvable (found : LinkFault) (hanswer : answer = .error found)
      (hkind : LinkKind.system ∈ found.cls.lineage ∨ LinkKind.encoding ∈ found.cls.lineage)
  | nowhere (hanswer : answer = .ok [])
  | attempted (addresses : List String) (hanswer : answer = .ok addresses) (ancestor : LinkKind)
      (hmem : ancestor ∈ fault.cls.lineage) (hknown : ancestor.counterpart?.isSome = true)

/-- A host that does not resolve, or has no addresses, is unreachable. -/
theorem nearestIs_connectError (text : String) :
    (LinkFault.unreachable text).cls.NearestIs .connectError :=
  ⟨[], .connectError, [.networkError], rfl, rfl, nofun⟩

theorem Expected.exists_nearestIs {σ γ : Type} {attempt : String → σ → Except LinkFault γ × σ}
    {host : String} {answer : Answer} {world : σ} {fault : LinkFault}
    (hexpected : Expected answer fault)
    (hdial : (dial attempt host answer world).1 = .error fault) :
    ∃ found, fault.cls.NearestIs found := by
  cases hexpected with
  | unresolvable found hanswer hkind =>
      have hown : (found.cls.descendsFrom .system || found.cls.descendsFrom .encoding) = true := by
        simpa [LinkClass.descendsFrom] using hkind
      rw [hanswer, dial, unresolved, if_pos hown] at hdial
      obtain rfl := Except.error.inj hdial
      exact ⟨_, nearestIs_connectError _⟩
  | nowhere hanswer =>
      rw [hanswer, dial, tryEach] at hdial
      obtain rfl := Except.error.inj hdial
      exact ⟨_, nearestIs_connectError _⟩
  | attempted addresses hanswer ancestor hmem hknown =>
      exact LinkClass.exists_nearestIs hmem hknown

end Dial

end MmsHttp
