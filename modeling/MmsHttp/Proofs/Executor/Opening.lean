import MmsHttp.Proofs.Decimal.Range
import MmsHttp.Proofs.Executor.Course

namespace MmsHttp

open Fault

namespace Client

theorem timeoutSeconds_eq_error_iff {millis : Int} (hpositive : 0 < millis) {fault : Fault} :
    timeoutSeconds millis = .error fault ↔ (Binary64.bound : Int) ≤ millis ∧ fault = .overflow := by
  rw [← Binary64.ofInt_infinite_iff hpositive]
  unfold timeoutSeconds
  split
  case h_1 sign hinfinite => simp [hinfinite, eq_comm]
  case h_2 hfinite =>
    refine ⟨nofun, ?_⟩
    rintro ⟨⟨sign, hinfinite⟩, _⟩
    exact absurd hinfinite (hfinite sign)

theorem timeoutSeconds_isOk_iff {millis : Int} (hpositive : 0 < millis) :
    (∃ timeout, timeoutSeconds millis = .ok timeout) ↔ millis < Binary64.bound := by
  rw [exists_ok_iff_forall_ne_error, ← Int.not_le]
  simp only [ne_eq, timeoutSeconds_eq_error_iff hpositive, not_and]
  exact ⟨fun h hbound => h .overflow hbound rfl, fun h _ hbound => absurd hbound h⟩

end Client

namespace Executor

variable {executor : Executor} {call : Call} {url : Url}

theorem opening_eq_error_iff (hadmits : executor.Admits call url) {fault : Fault} :
    executor.opening call url = .error fault ↔
      ((Binary64.bound : Int) ≤ call.transaction.config.timeoutMillis ∧ fault = .overflow) ∨
      (call.transaction.config.timeoutMillis < Binary64.bound ∧
        Headers.has (executor.requestOf call).headers "Host" = false ∧
        Outgoing.hostValue url = .error fault) := by
  -- A call that is admitted has a host, so a missing header for it is always made.
  have hhost := host_ne_empty_of_callable hadmits.callable
  unfold opening
  dsimp only
  rw [bind_eq_error_iff, Client.timeoutSeconds_eq_error_iff hadmits.usable.timeout,
    ← Client.timeoutSeconds_isOk_iff hadmits.usable.timeout]
  simp only [Outgoing.first_eq_error_iff, ne_eq, hhost, not_false_eq_true, true_and,
    exists_and_right]

theorem opening_isOk_iff (hadmits : executor.Admits call url) :
    (∃ first, executor.opening call url = .ok first) ↔
      call.transaction.config.timeoutMillis < Binary64.bound ∧
        (Headers.has (executor.requestOf call).headers "Host" = true ∨ Outgoing.HostFits url) := by
  rw [exists_ok_iff_forall_ne_error, ← Outgoing.hostValue_isOk_iff, exists_ok_iff_forall_ne_error]
  simp only [ne_eq, opening_eq_error_iff hadmits]
  constructor
  · intro h
    have hrange : call.transaction.config.timeoutMillis < Binary64.bound :=
      Int.not_le.mp fun hlarge => h .overflow (Or.inl ⟨hlarge, rfl⟩)
    refine ⟨hrange, ?_⟩
    cases hnamed : Headers.has (executor.requestOf call).headers "Host" with
    | true => exact Or.inl rfl
    | false => exact Or.inr fun fault hvalue => h fault (Or.inr ⟨hrange, hnamed, hvalue⟩)
  · rintro ⟨hrange, hhost⟩ fault (⟨hlarge, _⟩ | ⟨_, hnamed, hvalue⟩)
    · exact absurd hrange (Int.not_lt.mpr hlarge)
    · rcases hhost with hhost | hhost
      · rw [hnamed] at hhost
        cases hhost
      · exact hhost fault hvalue

theorem sound_opening (hadmits : executor.Admits call url) {first : Outgoing}
    (hopening : executor.opening call url = .ok first) : first.Sound ∧ first.url = url := by
  obtain ⟨timeout, _, hfirst⟩ := bind_eq_ok_iff.mp hopening
  obtain ⟨host, hreadable, _⟩ := hadmits.callable.host
  exact ⟨Outgoing.sound_first hreadable (host_ne_empty_of_callable hadmits.callable) hfirst,
    Outgoing.url_of_first hfirst⟩

end Executor

end MmsHttp
