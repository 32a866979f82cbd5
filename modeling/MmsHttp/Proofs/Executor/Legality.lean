import Mathlib.Data.Option.Basic
import MmsHttp.Proofs.Executor.Authorization
import MmsHttp.Proofs.Executor.Gate
import MmsHttp.Proofs.Executor.Traffic
import MmsHttp.Proofs.Wire.Field

/-!
Header values that the checks let through and the protocol does not. The checks only look for
characters that break lines, and for characters outside ASCII; the protocol also refuses blanks
at the ends of a value and the rarer blanks anywhere. A call with such a value has a connection
made before it fails.
-/

namespace MmsHttp

open Text

/-- A header whose value has no space or tab at its ends, and nowhere a vertical tab or a form
feed. -/
structure Header.Compact (header : Header) : Prop where
  smooth : ∀ c ∈ header.2.toList, c ≠ '\x0b' ∧ c ≠ '\x0c'
  first : ∀ c, header.2.toList.head? = some c → ¬ Wire.IsGapChar c
  last : ∀ c, header.2.toList.getLast? = some c → ¬ Wire.IsGapChar c

/-- The value of a header that can be written on a line is a field value if it is compact. -/
theorem Header.Writable.isFieldValue_iff {header : Header} (h : header.Writable) :
    Wire.isFieldValue (Wire.ascii header.2) = true ↔ header.Compact := by
  have hbarred (c : Char) (hc : c ∈ header.2.toList) :
      ¬ Wire.IsBarredChar c ↔ c ≠ '\x0b' ∧ c ≠ '\x0c' := by
    obtain ⟨hreturn, hfeed, hnul⟩ := h.inline c hc
    simp [Wire.IsBarredChar, hreturn, hfeed, hnul]
  rw [Wire.isFieldValue_ascii_iff h.ascii]
  constructor
  · rintro ⟨hall, hfirst, hlast⟩
    exact ⟨fun c hc => (hbarred c hc).mp (hall c hc), hfirst, hlast⟩
  · rintro ⟨hall, hfirst, hlast⟩
    exact ⟨fun c hc => (hbarred c hc).mpr (hall c hc), hfirst, hlast⟩

namespace Outgoing

/-- The first request has every header that is given, save what authorizes: the credentials in
its URL would take the place of that. -/
theorem mem_headers_of_first {method : String} {url : Url} {headers : List Header} {body : Bytes}
    {timeout : Binary64} {request : Outgoing}
    (h : first method url headers body timeout = .ok request) {header : Header}
    (hmem : header ∈ headers) (hplain : ¬ header.Authorizes) : header ∈ request.headers := by
  obtain ⟨made, hmade, hheaders⟩ := headers_of_first h
  have hkept : header ∈ made := mem_completeHeaders_of_mem hmade (List.mem_append_right _ hmem)
  rw [hheaders]
  cases hown : authorization? url with
  | none => exact hkept
  | some own =>
      refine (Headers.mem_set_iff _ _ _).mpr (Or.inr ⟨hkept, ?_⟩)
      intro hsame
      have hownName := (Headers.named_eq_true_iff _ _).mp (authorizes_authorization hown)
      exact hplain ((Headers.named_eq_true_iff _ _).mpr (hsame.trans hownName))

end Outgoing

namespace Wire

/-- The protocol allows no request with a value that is none of a field. -/
theorem Request.make?_of_illegal {headers : List Header} {header : Header}
    (hmem : header ∈ headers) (hillegal : isFieldValue (ascii header.2) = false)
    (method target : String) (body : Bytes) : make? method target headers body = none := by
  apply Option.eq_none_iff_forall_ne_some.mpr
  intro request hmade
  unfold make? at hmade
  obtain ⟨_, hguard, -⟩ := Option.bind_eq_some_iff.mp hmade
  have hall := List.all_eq_true.mp ((Option.guard_eq_some' ()).mp hguard)
  simpa [hillegal] using hall _ (List.mem_map_of_mem hmem)

namespace Pools

/-- Whether pools get a connection for a request. -/
def obtains (request : LinkRequest) (pools : Pools) : Bool :=
  match pools.current with
  | none => false
  | some pool =>
    (schemeFault? request.scheme).isNone &&
      (obtain pool (.ofRequest request) request.timeout (pools.tidy pool)).1.isOk

theorem send_of_illegal {request : LinkRequest} {pools : Pools}
    (hobtains : pools.obtains request = true) {header : Header} (hmem : header ∈ request.headers)
    (hillegal : isFieldValue (ascii header.2) = false) :
    (link.send request pools).1 = .error .localProtocol := by
  unfold obtains at hobtains
  change (send request pools).1 = _
  unfold send
  cases hcurrent : pools.current with
  | none => simp [hcurrent] at hobtains
  | some pool =>
      simp only [hcurrent, Bool.and_eq_true, Option.isNone_iff_eq_none] at hobtains
      obtain ⟨hscheme, hgot⟩ := hobtains
      dsimp only
      unfold sendVia
      rw [hscheme]
      dsimp only
      rcases hended : obtain pool (.ofRequest request) request.timeout (pools.tidy pool) with
        ⟨fault | ⟨connection, buffer⟩, after⟩
      · rw [hended] at hgot
        cases hgot
      · simp only [sendOver, Request.make?_of_illegal hmem hillegal]

end Pools

end Wire

namespace Executor

open Link Wire

/-- The first request of a call reaches a link with every header of the call, save what
authorizes. -/
theorem mem_headers_of_sentOver {σ : Type} {executor : Executor} {link : Link σ} {call : Call}
    {world before : σ} {core : LinkRequest}
    (hsent : [(core, before)] <+: executor.sentOver link call world) {header : Header}
    (hmem : header ∈ (executor.requestOf call).headers) (hplain : ¬ header.Authorizes) :
    header ∈ core.headers := by
  rcases sentOver_first executor link call world with
    hnone | ⟨url, timeout, first, other, found, hfirst, hcore, hother⟩
  · rw [hnone, List.prefix_nil] at hsent
    cases hsent
  · -- Both are the first that is sent.
    have hsame : [(core, before)] = [(other, found)] :=
      (List.prefix_of_prefix_length_le hsent hother (Nat.le_refl 1)).eq_of_length rfl
    cases hsame
    rw [(LinkRequest.kept_of_ofOutgoing hcore).1]
    exact Outgoing.mem_headers_of_first hfirst hmem hplain

/-- Of the headers that the checks let through, exactly the compact ones have values that the
protocol allows. A call that is given another one, and gets a connection, ends with a fault of
the network. -/
theorem legal_iff_compact (headers : List Header) (hheaders : headerFailure? headers = none)
    (hencoding : encodingFailure? headers = none) :
    ((∀ header ∈ headers, isFieldValue (ascii header.2) = true) ↔
      ∀ header ∈ headers, header.Compact) ∧
    ∀ (executor : Executor) (call : Call) (pools : Pools) (core : LinkRequest) (before : Pools),
      (executor.requestOf call).headers = headers →
      [(core, before)] <+: executor.sentOver Pools.link call pools →
      before.obtains core = true →
      (∃ header ∈ headers, ¬ header.Compact ∧ ¬ header.Authorizes) →
      (executor.execute Pools.link.channel call pools).answer =
        .ok (.failed (.networkIo ⟨.localProtocolError, Fault.unworded⟩)) := by
  have hlegal (header : Header) (hmem : header ∈ headers) :
      isFieldValue (ascii header.2) = true ↔ header.Compact := by
    obtain ⟨hname, hvalue⟩ := (headerFailure?_eq_none_iff headers).mp hheaders header hmem
    have hascii := ((encodingFailure?_eq_none_iff headers).mp hencoding header hmem).2
    exact ((sendable_iff_writable header).mp ⟨hname, hvalue, hascii⟩).isFieldValue_iff
  refine ⟨forall₂_congr hlegal, ?_⟩
  rintro executor call pools core before rfl hsent hobtains ⟨header, hmem, hloose, hplain⟩
  have hillegal : isFieldValue (ascii header.2) = false := by
    rw [← Bool.not_eq_true, hlegal header hmem]
    exact hloose
  have hrefused : (Pools.link.send core before).1 = .error .localProtocol :=
    Pools.send_of_illegal hobtains (mem_headers_of_sentOver hsent hmem hplain) hillegal
  exact answer_of_failed_send executor Pools.link call pools
    (hsent.subset (List.mem_singleton_self _)) hrefused

/-- A user agent that ends with a space fails only when there is a connection to send it on. -/
theorem failed_with_loose_agent :
    let executor : Executor := { locale := "en_US" }
    let call : Call :=
      { transaction :=
          { method := "GET", url := "http://mms.example/m", config := { userAgent := "X/1 " } } }
    let network : Network :=
      { directory := [("mms.example", .ok ["10.0.0.1"])], peers := [.ok { parts := [] }] }
    let pools : Pools := { network, registry := { limits := .usual } }
    let headers := (executor.requestOf call).headers
    headerFailure? headers = none ∧ encodingFailure? headers = none ∧
      (∃ note, [note] <+: executor.sentOver Pools.link call pools ∧
        note.2.obtains note.1 = true) ∧
      (∃ header ∈ headers, ¬ header.Compact ∧ ¬ header.Authorizes) ∧
      ¬ (∀ header ∈ headers, isFieldValue (ascii header.2) = true) ∧
      (executor.execute Pools.link.channel call pools).answer =
        .ok (.failed (.networkIo ⟨.localProtocolError, Fault.unworded⟩)) := by
  intro executor call network pools headers
  have hheaders : headerFailure? headers = none := by decide +kernel
  have hencoding : encodingFailure? headers = none := by decide +kernel
  have hone : (executor.sentOver Pools.link call pools).length = 1 := by decide +kernel
  have hobtains : ((executor.sentOver Pools.link call pools).all
      fun note => note.2.obtains note.1) = true := by
    decide +kernel
  obtain ⟨note, hnote⟩ := List.length_eq_one_iff.mp hone
  have hsent : [note] <+: executor.sentOver Pools.link call pools := hnote ▸ List.prefix_refl _
  have hgot : note.2.obtains note.1 = true := by simpa [hnote] using hobtains
  have hagent : ("User-Agent", "X/1 ") ∈ headers := by decide +kernel
  have hloose : ¬ Header.Compact ("User-Agent", "X/1 ") :=
    fun hcompact => hcompact.last ' ' rfl (Or.inl rfl)
  have hplain : ¬ Header.Authorizes ("User-Agent", "X/1 ") := by
    unfold Header.Authorizes
    decide
  obtain ⟨hlegal, hfailed⟩ := legal_iff_compact headers hheaders hencoding
  refine ⟨hheaders, hencoding, ⟨note, hsent, hgot⟩, ⟨_, hagent, hloose, hplain⟩, ?_,
    hfailed executor call pools note.1 note.2 rfl hsent hgot ⟨_, hagent, hloose, hplain⟩⟩
  rw [hlegal]
  exact fun hcompact => hloose (hcompact _ hagent)

/-- A vertical tab passes both checks of the headers, and is no part of a field value. -/
theorem admits_illegal_agent :
    let executor : Executor := { locale := "en_US" }
    let call : Call :=
      { transaction :=
          { method := "GET", url := "http://mms.example/m", config := { userAgent := "X\x0b1" } } }
    let network : Network :=
      { directory := [("mms.example", .ok ["10.0.0.1"])], peers := [.ok { parts := [] }] }
    let pools : Pools := { network, registry := { limits := .usual } }
    let headers := (executor.requestOf call).headers
    headerFailure? headers = none ∧ encodingFailure? headers = none ∧
      ("User-Agent", "X\x0b1") ∈ headers ∧ isFieldValue (ascii "X\x0b1") = false ∧
      (executor.execute Pools.link.channel call pools).answer =
        .ok (.failed (.networkIo ⟨.localProtocolError, Fault.unworded⟩)) := by
  decide +kernel

end Executor

end MmsHttp
