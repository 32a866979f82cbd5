import MmsHttp.Executor
import MmsHttp.Proofs.Exchange.Message

/-!
Which calls are admitted. A call is admitted if its arguments can be used, its URL leads to
a host with one of the two schemes, and every header of its request can be sent. A call
that is not admitted is refused with a failure of one of three kinds, or with a fault for
an argument that cannot even be examined.
-/

namespace MmsHttp

open Text

/-- A transaction whose method, payload and proxy can be used. -/
structure Transaction.WellFormed (t : Transaction) : Prop where
  method : t.method ∈ Request.methods
  payload : t.method = "POST" → t.payloadSize ≠ 0
  proxy : ∀ proxy, t.proxy = some proxy →
    0 < proxy.port ∧ proxy.port ≤ Executor.maxPort ∧ isBlankText proxy.host = false

/-- A transaction whose arguments, apart from its URL, can be used. -/
structure Transaction.Usable (t : Transaction) : Prop extends t.WellFormed where
  timeout : 0 < t.config.timeoutMillis

/-- The text of a URL that a call can go to. -/
structure Url.Callable (text : String) (url : Url) : Prop where
  parse : Url.parse text = .ok url
  scheme : url.scheme ∈ Url.supportedSchemes
  host : ∃ host, url.readableHost = .ok host ∧ host ≠ "" ∧ Executor.isValidHost host = true

theorem Url.scheme_ne_empty_of_supported {url : Url} (h : url.scheme ∈ Url.supportedSchemes) :
    url.scheme ≠ "" := by
  intro hnone
  rw [hnone] at h
  exact absurd h (by decide)

structure Header.Sendable (header : Header) : Prop where
  name : Executor.isHeaderName header.1 = true
  value : header.2.toList.any Executor.isForbidden = false
  ascii : header.2.toList.all isAscii = true

namespace Result

/-- A failure that refuses a call because of its arguments. -/
def IsRefusal (result : Result) : Prop :=
  ∃ failure, result = .failed failure ∧
    failure.kind ∈ [.invalidInput, .invalidUrl, .protocolMismatch]

/-- A body, or a failure of what went over the channel. -/
def IsAnswer (result : Result) : Prop :=
  (∃ body, result = .success body) ∨
    ∃ failure, result = .failed failure ∧ failure.kind ∈ [.httpStatus, .networkIo]

theorem isAnswer_iff_not_isRefusal (result : Result) : result.IsAnswer ↔ ¬ result.IsRefusal := by
  cases result with
  | success body => simp [IsAnswer, IsRefusal]
  | failed failure => cases hkind : failure.kind <;> simp [IsAnswer, IsRefusal, hkind]

end Result

namespace Executor

theorem proxyFailure?_eq_none_iff (proxy : Proxy) :
    proxyFailure? proxy = none ↔
      0 < proxy.port ∧ proxy.port ≤ maxPort ∧ isBlankText proxy.host = false := by
  unfold proxyFailure?
  by_cases hport : 0 < proxy.port ∧ proxy.port ≤ maxPort
  · cases hhost : isBlankText proxy.host <;> simp [hport.1, hport.2]
  · have hrange : (!(decide (0 < proxy.port) && decide (proxy.port ≤ maxPort))) = true := by
      rw [Bool.not_eq_true', ← Bool.not_eq_true, Bool.and_eq_true, decide_eq_true_eq,
        decide_eq_true_eq]
      exact hport
    rw [if_pos hrange, ← and_assoc]
    simp [hport]

theorem proxyFailure?_kind {proxy : Proxy} {failure : Failure}
    (h : proxyFailure? proxy = some failure) : failure.kind = .invalidInput := by
  unfold proxyFailure? at h
  split at h
  · obtain rfl := Option.some.inj h
    rfl
  · split at h
    · obtain rfl := Option.some.inj h
      rfl
    · cases h

/-- Once method, payload and proxy are in order, the timeout decides. -/
theorem inputRefusal?_of_wellFormed {t : Transaction} (h : t.WellFormed) :
    inputRefusal? t = timeoutRefusal? t.config.timeoutMillis := by
  have hmethod : Request.methods.contains t.method = true := by simpa using h.method
  have hpayload : ¬ (t.method == "POST" && t.payloadSize == 0) = true := by simpa using h.payload
  have hproxy : t.proxy.bind proxyFailure? = none := by
    cases hsome : t.proxy with
    | none => rfl
    | some proxy => exact (proxyFailure?_eq_none_iff proxy).mpr (h.proxy proxy hsome)
  simp only [inputRefusal?, hmethod, hproxy, if_neg hpayload, Bool.not_true, Bool.false_eq_true,
    if_false]

theorem inputRefusal?_of_not_wellFormed {t : Transaction} (h : ¬ t.WellFormed) :
    ∃ failure, inputRefusal? t = some (.failure failure) ∧ failure.kind = .invalidInput := by
  unfold inputRefusal?
  split
  · exact ⟨_, rfl, rfl⟩
  case isFalse hmethod =>
    split
    · exact ⟨_, rfl, rfl⟩
    case isFalse hpayload =>
      cases hproxy : t.proxy.bind proxyFailure? with
      | some failure =>
          obtain ⟨proxy, _, hfailure⟩ := Option.bind_eq_some_iff.mp hproxy
          exact ⟨failure, rfl, proxyFailure?_kind hfailure⟩
      | none =>
          refine absurd ⟨by simpa using hmethod, by simpa using hpayload, ?_⟩ h
          intro proxy hsome
          rw [hsome] at hproxy
          exact (proxyFailure?_eq_none_iff proxy).mp hproxy

theorem timeoutRefusal?_eq_none_iff (millis : Int) :
    timeoutRefusal? millis = none ↔ 0 < millis := by
  unfold timeoutRefusal?
  split
  case isTrue h =>
    simp only [Int.not_lt.mpr h, iff_false]
    cases Fault.unwritable? millis <;> simp
  case isFalse h => simpa using h

theorem inputRefusal?_eq_none_iff (t : Transaction) : inputRefusal? t = none ↔ t.Usable := by
  by_cases hformed : t.WellFormed
  · rw [inputRefusal?_of_wellFormed hformed, timeoutRefusal?_eq_none_iff]
    exact ⟨fun htimeout => ⟨hformed, htimeout⟩, fun husable => husable.timeout⟩
  · obtain ⟨failure, hrefusal, _⟩ := inputRefusal?_of_not_wellFormed hformed
    rw [hrefusal]
    exact ⟨nofun, fun husable => absurd husable.toWellFormed hformed⟩

/-- The only argument that ends a call with a fault here is a timeout that is not positive
and has too many digits to be written into the message. -/
theorem inputRefusal?_eq_fault_iff (t : Transaction) (fault : Fault) :
    inputRefusal? t = some (.fault fault) ↔
      t.WellFormed ∧ t.config.timeoutMillis ≤ 0 ∧
        Fault.unwritable? t.config.timeoutMillis = some fault := by
  by_cases hformed : t.WellFormed
  · rw [inputRefusal?_of_wellFormed hformed, timeoutRefusal?]
    split
    case isTrue htimeout =>
      cases Fault.unwritable? t.config.timeoutMillis <;> simp [hformed, htimeout]
    case isFalse htimeout => simp [htimeout]
  · obtain ⟨failure, hrefusal, _⟩ := inputRefusal?_of_not_wellFormed hformed
    simp [hrefusal, hformed]

theorem inputRefusal?_kind {t : Transaction} {failure : Failure}
    (h : inputRefusal? t = some (.failure failure)) : failure.kind = .invalidInput := by
  by_cases hformed : t.WellFormed
  · rw [inputRefusal?_of_wellFormed hformed, timeoutRefusal?] at h
    split at h
    · split at h
      · cases h
      · cases h
        rfl
    · cases h
  · obtain ⟨other, hrefusal, hkind⟩ := inputRefusal?_of_not_wellFormed hformed
    rw [hrefusal] at h
    cases h
    exact hkind

theorem isAscii_of_inHeaderName {c : Char} (h : inHeaderName c = true) :
    isAscii c = true := by
  have hrange {low high : Char} (hhigh : high.toNat < 128) (h : (low ≤ c && c ≤ high) = true) :
      c.toNat < 128 := by
    simp only [Bool.and_eq_true, decide_eq_true_eq] at h
    exact Nat.lt_of_le_of_lt h.2 hhigh
  have hmark : "!#$%&'*+-.^_`|~".toList.all (fun mark => mark.toNat < 128) = true := by decide
  simp only [isAscii, decide_eq_true_eq]
  simp only [inHeaderName, Bool.or_eq_true] at h
  rcases h with ((h | h) | h) | h
  · exact hrange (by decide) h
  · exact hrange (by decide) h
  · exact hrange (by decide) h
  · exact decide_eq_true_eq.mp (List.all_eq_true.mp hmark c (List.contains_iff_mem.mp h))

theorem headerFailure?_eq_none_iff (headers : List Header) :
    headerFailure? headers = none ↔
      ∀ header ∈ headers, isHeaderName header.1 = true ∧
        header.2.toList.any isForbidden = false := by
  induction headers with
  | nil => simp [headerFailure?]
  | cons header rest ih =>
      obtain ⟨name, value⟩ := header
      unfold headerFailure?
      rw [List.forall_mem_cons, ← ih]
      cases isHeaderName name with
      | false => simp
      | true => cases value.toList.any isForbidden <;> simp

theorem encodingFailure?_eq_none_iff (headers : List Header) :
    encodingFailure? headers = none ↔
      ∀ header ∈ headers, header.1.toList.all isAscii = true ∧
        header.2.toList.all isAscii = true := by
  simp only [encodingFailure?, Option.map_eq_none_iff, List.findSome?_eq_none_iff,
    Option.orElse_eq_orElse, Option.orElse_eq_or, Option.or_eq_none_iff,
    asciiComplaint_eq_none_iff]

theorem requestFailure?_eq_none_iff (request : Request) :
    requestFailure? request = none ↔ ∀ header ∈ request.headers, header.Sendable := by
  simp only [requestFailure?, Option.orElse_eq_orElse, Option.orElse_eq_or,
    Option.or_eq_none_iff, headerFailure?_eq_none_iff, encodingFailure?_eq_none_iff]
  -- The two checks overlap: a name that is a token is in ASCII.
  constructor
  · rintro ⟨hheaders, hencoding⟩ header hmem
    exact ⟨(hheaders header hmem).1, (hheaders header hmem).2, (hencoding header hmem).2⟩
  · intro h
    refine ⟨fun header hmem => ⟨(h header hmem).name, (h header hmem).value⟩,
      fun header hmem => ⟨?_, (h header hmem).ascii⟩⟩
    have hname := (h header hmem).name
    rw [isHeaderName, Bool.and_eq_true] at hname
    exact List.all_eq_true.mpr fun c hc =>
      isAscii_of_inHeaderName (List.all_eq_true.mp hname.2 c hc)

/-- What comes of a URL, in the order in which it is examined. -/
inductive ChecksUrl (text : String) : Except Refusal Url → Prop where
  | unparsed (e : Url.Error) (hparse : Url.parse text = .error e) :
      ChecksUrl text (.error (.failure (.invalidUrl text (some e.fault))))
  | schemeless (url : Url) (hparse : Url.parse text = .ok url) (hscheme : url.scheme = "") :
      ChecksUrl text (.error (.failure (.invalidUrl text none)))
  | unsupported (url : Url) (hparse : Url.parse text = .ok url) (hsome : url.scheme ≠ "")
      (hscheme : url.scheme ∉ Url.supportedSchemes) :
      ChecksUrl text (.error (.failure (.protocolMismatch text)))
  | unreadable (url : Url) (hparse : Url.parse text = .ok url)
      (hscheme : url.scheme ∈ Url.supportedSchemes) (fault : Fault)
      (hread : url.readableHost = .error fault) : ChecksUrl text (.error (.fault fault))
  | hostless (url : Url) (hparse : Url.parse text = .ok url)
      (hscheme : url.scheme ∈ Url.supportedSchemes) (host : String)
      (hread : url.readableHost = .ok host) (hhost : host = "" ∨ isValidHost host = false) :
      ChecksUrl text (.error (.failure (.invalidUrl text none)))
  | callable (url : Url) (hcallable : url.Callable text) : ChecksUrl text (.ok url)

theorem checksUrl_checkUrl (text : String) : ChecksUrl text (checkUrl text) := by
  unfold checkUrl
  split
  case h_1 e hparse => exact .unparsed e hparse
  case h_2 url hparse =>
    split
    case isTrue hscheme => exact .schemeless url hparse (by simpa using hscheme)
    case isFalse hsome =>
      split
      case isTrue hscheme =>
        exact .unsupported url hparse (by simpa using hsome) (by simpa using hscheme)
      case isFalse hscheme =>
        replace hscheme : url.scheme ∈ Url.supportedSchemes := by simpa using hscheme
        split
        case h_1 fault hread => exact .unreadable url hparse hscheme fault hread
        case h_2 host hread =>
          split
          case isTrue hhost => exact .hostless url hparse hscheme host hread (by simpa using hhost)
          case isFalse hhost =>
            have hfits : host ≠ "" ∧ isValidHost host = true := by simpa using hhost
            exact .callable url ⟨hparse, hscheme, host, hread, hfits⟩

theorem checkUrl_eq_ok_iff {text : String} {url : Url} :
    checkUrl text = .ok url ↔ url.Callable text := by
  constructor
  · intro h
    cases h ▸ checksUrl_checkUrl text with
    | callable _ hcallable => exact hcallable
  · rintro ⟨hparse, hscheme, host, hread, hempty, hvalid⟩
    have hsome := Url.scheme_ne_empty_of_supported hscheme
    simp [checkUrl, hparse, hsome, hscheme, hread, hempty, hvalid, pure, Except.pure]

theorem checkUrl_eq_fault_iff {text : String} {fault : Fault} :
    checkUrl text = .error (.fault fault) ↔
      ∃ url, Url.parse text = .ok url ∧ url.scheme ∈ Url.supportedSchemes ∧
        url.readableHost = .error fault := by
  constructor
  · intro h
    cases h ▸ checksUrl_checkUrl text with
    | unreadable url hparse hscheme _ hread => exact ⟨url, hparse, hscheme, hread⟩
  · rintro ⟨url, hparse, hscheme, hread⟩
    have hsome := Url.scheme_ne_empty_of_supported hscheme
    simp [checkUrl, hparse, hsome, hscheme, hread, throw, throwThe, MonadExceptOf.throw]

theorem checkUrl_kind {text : String} {failure : Failure}
    (h : checkUrl text = .error (.failure failure)) :
    failure.kind ∈ [FailureKind.invalidUrl, .protocolMismatch] := by
  cases h ▸ checksUrl_checkUrl text with
  | unparsed => simp [Failure.invalidUrl]
  | schemeless => simp [Failure.invalidUrl]
  | unsupported => simp [Failure.protocolMismatch]
  | hostless => simp [Failure.invalidUrl]

theorem host_ne_empty_of_callable {text : String} {url : Url} (h : url.Callable text) :
    url.host ≠ "" := by
  intro hempty
  obtain ⟨host, hread, hhost, _⟩ := h.host
  rw [Url.readableHost, hempty] at hread
  exact hhost (Except.ok.inj hread).symm

/-- A transaction is let through exactly when its arguments can be used and a call can go to
its URL. -/
theorem checkTransaction_eq_ok_iff {t : Transaction} {url : Url} :
    checkTransaction t = .ok url ↔ t.Usable ∧ url.Callable t.url := by
  unfold checkTransaction
  rw [← inputRefusal?_eq_none_iff, ← checkUrl_eq_ok_iff]
  cases inputRefusal? t with
  | some refusal => simp
  | none => simp

theorem checkTransaction_eq_fault_iff {t : Transaction} {fault : Fault} :
    checkTransaction t = .error (.fault fault) ↔
      inputRefusal? t = some (.fault fault) ∨
        t.Usable ∧ checkUrl t.url = .error (.fault fault) := by
  unfold checkTransaction
  rw [← inputRefusal?_eq_none_iff]
  cases inputRefusal? t with
  | some refusal => simp
  | none => simp

theorem checkTransaction_isRefusal {t : Transaction} {failure : Failure}
    (h : checkTransaction t = .error (.failure failure)) : (Result.failed failure).IsRefusal := by
  refine ⟨failure, rfl, ?_⟩
  unfold checkTransaction at h
  split at h
  case h_1 hinput =>
    cases h
    simp [inputRefusal?_kind hinput]
  case h_2 =>
    rcases List.mem_cons.mp (checkUrl_kind h) with hkind | hkind
    · simp [hkind]
    · simp [List.mem_singleton.mp hkind]

private theorem headerFailure?_kind {headers : List Header} {failure : Failure}
    (h : headerFailure? headers = some failure) : failure.kind = .invalidInput := by
  induction headers with
  | nil => cases h
  | cons header rest ih =>
      unfold headerFailure? at h
      split at h
      · cases h
        rfl
      · split at h
        · cases h
          rfl
        · exact ih h

theorem requestFailure?_isRefusal {request : Request} {failure : Failure}
    (h : requestFailure? request = some failure) : (Result.failed failure).IsRefusal := by
  have hkind : failure.kind = .invalidInput := by
    rw [requestFailure?, Option.orElse_eq_orElse, Option.orElse_eq_or, Option.or_eq_some_iff] at h
    rcases h with hheader | ⟨_, hencoding⟩
    · exact headerFailure?_kind hheader
    · obtain ⟨complaint, _, rfl⟩ := Option.map_eq_some_iff.mp hencoding
      rfl
  exact ⟨failure, rfl, by simp [hkind]⟩

/-- A call whose request is sent: its arguments can be used, its URL leads somewhere and
its headers can be sent. -/
structure Admits (executor : Executor) (call : Call) (url : Url) : Prop where
  usable : call.transaction.Usable
  callable : url.Callable call.transaction.url
  sendable : ∀ header ∈ (executor.requestOf call).headers, header.Sendable

theorem admits_iff {executor : Executor} {call : Call} {url : Url} :
    executor.Admits call url ↔
      checkTransaction call.transaction = .ok url ∧
        requestFailure? (executor.requestOf call) = none := by
  rw [checkTransaction_eq_ok_iff, requestFailure?_eq_none_iff]
  exact ⟨fun h => ⟨⟨h.usable, h.callable⟩, h.sendable⟩, fun h => ⟨h.1.1, h.1.2, h.2⟩⟩

end Executor

end MmsHttp
