import MmsHttp.Exchange.Message
import MmsHttp.Proofs.Fault

namespace MmsHttp

theorem Coding.Decoder.feed_error {decoder : Decoder} {chunk : Bytes} {fault : Fault}
    (h : decoder.feed chunk = .error fault) : fault = .undecodable := by
  unfold feed at h
  split at h
  · cases h
  · dsimp only at h
    split at h
    · split at h
      · split at h
        · exact (Except.error.inj h).symm
        · cases h
      · exact (Except.error.inj h).symm
    · cases h

theorem Coding.Decoder.feedAll_error {decoders : List Decoder} {chunk : Bytes} {fault : Fault}
    (h : feedAll decoders chunk = .error fault) : fault = .undecodable := by
  induction decoders generalizing chunk with
  | nil => cases h
  | cons decoder rest ih =>
      rcases Fault.bind_eq_error_iff.mp h with hfeed | ⟨fed, _, h⟩
      · exact feed_error hfeed
      · rcases Fault.bind_eq_error_iff.mp h with hrest | ⟨more, _, h⟩
        · exact ih hrest
        · cases h

/-- What decoders make of chunks that come one after the other. -/
def Coding.Decoder.decoded : List Decoder → List Bytes → Except Fault Bytes
  | _, [] => .ok []
  | decoders, chunk :: rest => do
    let (out, decoders) ← feedAll decoders chunk
    let more ← decoded decoders rest
    pure (out ++ more)

theorem Coding.Decoder.feedAll_plain {decoders : List Decoder}
    (hplain : ∀ decoder ∈ decoders, decoder = .plain) (chunk : Bytes) :
    feedAll decoders chunk = .ok (chunk, decoders) := by
  induction decoders with
  | nil => rfl
  | cons decoder rest ih =>
      obtain rfl := hplain decoder List.mem_cons_self
      rw [feedAll, feed]
      dsimp only [bind, Except.bind]
      rw [ih fun other hmem => hplain other (List.mem_cons_of_mem _ hmem)]
      rfl

/-- Without compression nothing changes but where the chunks are cut. -/
theorem Coding.Decoder.decoded_plain {decoders : List Decoder}
    (hplain : ∀ decoder ∈ decoders, decoder = .plain) (chunks : List Bytes) :
    decoded decoders chunks = .ok chunks.flatten := by
  induction chunks with
  | nil => rfl
  | cons chunk rest ih =>
      rw [decoded, feedAll_plain hplain]
      dsimp only [bind, Except.bind]
      rw [ih]
      rfl

namespace BodyStream

private theorem readFrom_error {failure : Option Fault} {chunks : List Bytes}
    {decoders : List Coding.Decoder} {taken : Nat} {body : Bytes} {fault : Fault}
    {reading : Reading}
    (h : readFrom failure chunks decoders taken body = (.error fault, reading)) :
    failure = some fault ∨ fault = .undecodable := by
  induction chunks generalizing decoders taken body with
  | nil =>
      cases failure with
      | none => cases h
      | some ending =>
          obtain rfl := Except.error.inj (Prod.mk.inj h).1
          exact Or.inl rfl
  | cons chunk rest ih =>
      unfold readFrom at h
      split at h
      · exact ih h
      · split at h
        case h_1 hfeed =>
          obtain rfl := Except.error.inj (Prod.mk.inj h).1
          exact Or.inr (Coding.Decoder.feedAll_error hfeed)
        case h_2 => exact ih h

/-- How a body is read does not depend on how it is put together: what has been read comes
first, and a chunk that does not decode is noticed before the stream ends. -/
theorem readFrom_eq (failure : Option Fault) (chunks : List Bytes)
    (decoders : List Coding.Decoder) (taken : Nat) (body : Bytes) :
    (readFrom failure chunks decoders taken body).1 =
      Coding.Decoder.decoded decoders (chunks.filter (!·.isEmpty)) >>= fun more =>
        match failure with
        | none => .ok (body ++ more)
        | some fault => .error fault := by
  induction chunks generalizing decoders taken body with
  | nil => cases failure <;> simp [readFrom, Coding.Decoder.decoded, bind, Except.bind]
  | cons chunk rest ih =>
      rw [readFrom]
      cases hempty : chunk.isEmpty with
      | true => simp [hempty, ih]
      | false =>
          rw [List.filter_cons_of_pos (by simp [hempty]), Coding.Decoder.decoded]
          cases Coding.Decoder.feedAll decoders chunk with
          | error fault => rfl
          | ok fed =>
              obtain ⟨out, decoders⟩ := fed
              simp only [Bool.false_eq_true, if_false]
              rw [ih]
              dsimp only [bind, Except.bind, pure, Except.pure]
              cases Coding.Decoder.decoded decoders (rest.filter (!·.isEmpty)) with
              | error fault => rfl
              | ok more => simp only [List.append_assoc]

theorem read_eq (stream : BodyStream) (headers : List Header) :
    (stream.read headers).1 =
      Coding.Decoder.decoded (Coding.Decoder.ofHeaders headers)
          (stream.chunks.filter (!·.isEmpty)) >>= fun body =>
        match stream.failure with
        | none => .ok body
        | some fault => .error fault :=
  readFrom_eq _ _ _ _ _

/-- A body that cannot be read has a stream that ends with the fault, or does not decode. -/
theorem read_error {stream : BodyStream} {headers : List Header} {fault : Fault}
    {reading : Reading} (h : stream.read headers = (.error fault, reading)) :
    stream.failure = some fault ∨ fault = .undecodable :=
  readFrom_error h

end BodyStream

end MmsHttp
