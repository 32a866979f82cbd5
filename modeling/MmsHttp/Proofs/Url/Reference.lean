import Mathlib.Data.Option.Basic
import MmsHttp.Proofs.Fault
import MmsHttp.Url.Reference

namespace MmsHttp.Url

open Fault

theorem orFault_eq_ok_iff {read : Except Error Url} {url : Url} :
    orFault read = .ok url ↔ read = .ok url := by
  cases read <;> simp [orFault]

theorem foreign_orFault (read : Except Error Url) : Foreign (orFault read) := by
  cases read with
  | error e => exact Foreign.error rfl
  | ok url => exact Foreign.ok url

theorem foreign_of_bracketFault? {authority : List Char} {fault : Fault}
    (h : bracketFault? authority = some fault) : fault.cls.isExchangeFailure = false := by
  unfold bracketFault? at h
  dsimp only at h
  repeat' split at h
  all_goals cases h
  all_goals rfl

theorem foreign_of_authorityFault? {authority : List Char} {fault : Fault}
    (h : authorityFault? authority = some fault) : fault.cls.isExchangeFailure = false := by
  rcases (Option.orElse_eq_some _ _ _).mp h with h | ⟨-, h⟩
  · exact foreign_of_bracketFault? h
  · unfold lookalikeFault? at h
    split at h
    · obtain rfl := Option.some.inj h
      rfl
    · cases h

namespace Reference

theorem read_eq_error_iff {scheme cs : List Char} {fault : Fault} :
    read scheme cs = .error fault ↔ authorityFault? (split scheme cs).authority = some fault := by
  unfold read
  dsimp only
  cases authorityFault? (split scheme cs).authority <;> simp

theorem foreign_read (scheme cs : List Char) : Foreign (read scheme cs) :=
  fun _ h => foreign_of_authorityFault? (read_eq_error_iff.mp h)

theorem foreign_resolve (base reference : List Char) : Foreign (resolve base reference) := by
  unfold resolve
  split
  · exact Foreign.ok reference
  · split
    · exact Foreign.ok base
    · apply (foreign_read [] base).bind
      intro b _
      exact (foreign_read b.scheme reference).bind fun r _ => Foreign.ok _

end Reference

theorem foreign_resolve (base url : Url) : Foreign (resolve base url) :=
  (Reference.foreign_resolve _ _).bind fun _ _ => foreign_orFault _

end MmsHttp.Url
