import MmsHttp.Proofs.Executor.Outward
import MmsHttp.Proofs.Headers.Lines

/-!
The gate that headers pass before a call touches the network. A call whose other arguments
are in order takes its route exactly when all its headers can be written on lines of their
own, wherever their names and values come from.
-/

namespace MmsHttp

open Text

namespace Executor

theorem inHeaderName_iff (c : Char) : inHeaderName c = true ↔ IsTokenChar c := by
  by_cases hascii : c.toNat < 128
  · apply forall_ascii _ hascii
    decide +kernel
  · apply iff_of_false
    · intro hname
      exact hascii (by simpa [isAscii] using isAscii_of_inHeaderName hname)
    · intro htoken
      have := htoken.2.1
      omega

theorem isForbidden_eq_false_iff (c : Char) :
    isForbidden c = false ↔ c ≠ '\r' ∧ c ≠ '\n' ∧ c ≠ '\x00' := by
  have hnul : c.toNat = 0 ↔ c = '\x00' := by
    rw [← Char.toNat_inj]
    rfl
  simp [isForbidden, hnul, and_assoc]

theorem sendable_iff_writable (header : Header) : header.Sendable ↔ header.Writable := by
  have hname : isHeaderName header.1 = true ↔
      header.1 ≠ "" ∧ ∀ c ∈ header.1.toList, IsTokenChar c := by
    simp [isHeaderName, inHeaderName_iff]
  have hvalue : header.2.toList.any isForbidden = false ↔
      ∀ c ∈ header.2.toList, c ≠ '\r' ∧ c ≠ '\n' ∧ c ≠ '\x00' := by
    simp [isForbidden_eq_false_iff]
  have hascii : header.2.toList.all isAscii = true ↔ ∀ c ∈ header.2.toList, c.toNat < 128 := by
    simp [isAscii]
  constructor
  · intro h
    obtain ⟨hnonempty, htoken⟩ := hname.mp h.name
    exact ⟨hnonempty, htoken, hascii.mp h.ascii, hvalue.mp h.value⟩
  · intro h
    exact ⟨hname.mpr ⟨h.nonempty, h.token⟩, hvalue.mpr h.inline, hascii.mpr h.ascii⟩

/-- A call whose method, payload, proxy, timeout and URL are in order takes a route exactly
when all its headers can be written; and headers that can be written, of any number and with
any values, are read back line by line as they are. -/
theorem acquires_iff_writable (executor : Executor) (call : Call) (url : Url) (script : Script)
    (hcheck : checkTransaction call.transaction = .ok url) :
    ((∃ route, (executor.execute Script.channel call script).world.acquired =
        script.acquired ++ [route]) ↔
      ∀ header ∈ (executor.requestOf call).headers, header.Writable) ∧
    ∀ headers : List Header, (∀ header ∈ headers, header.Writable) →
      Headers.read? (Headers.written headers) = some headers := by
  refine ⟨?_, fun headers => Headers.read?_written⟩
  have hgate : executor.Admits call url ↔
      ∀ header ∈ (executor.requestOf call).headers, header.Writable := by
    simp only [admits_iff, hcheck, requestFailure?_eq_none_iff, sendable_iff_writable, true_and]
  rw [← hgate]
  constructor
  · rintro ⟨route, hacquired⟩
    by_contra hrejected
    have hrejects (other : Url) (hadmits : executor.Admits call other) : False := by
      obtain rfl := Except.ok.inj (hcheck.symm.trans (admits_iff.mp hadmits).1)
      exact hrejected hadmits
    rw [(execute_of_not_admits script hrejects).1] at hacquired
    simp at hacquired
  · intro hadmits
    exact ⟨_, acquired_of_admits hadmits script⟩

/-- A value that would bring in another header keeps the call from its route. -/
theorem not_acquires_of_injection :
    let executor : Executor := { locale := "en_US" }
    let call : Call :=
      { transaction :=
          { method := "GET", url := "http://mms.example/m", config := { userAgent := "a\r\nX-Evil: 1" } } }
    checkTransaction call.transaction = .ok ⟨"http", "", "mms.example", none, "/m", none, none⟩ ∧
      ¬ ∃ route, (executor.execute Script.channel call { replies := [] }).world.acquired = [route] := by
  intro executor call
  have hcheck : checkTransaction call.transaction =
      .ok ⟨"http", "", "mms.example", none, "/m", none, none⟩ := by decide +kernel
  refine ⟨hcheck, ?_⟩
  intro hacquires
  have hwritable := (acquires_iff_writable executor call _ { replies := [] } hcheck).1.mp hacquires
  have hagent := hwritable ("User-Agent", "a\r\nX-Evil: 1") (by decide +kernel)
  exact (hagent.inline '\r' (by decide)).1 rfl

end Executor

end MmsHttp
