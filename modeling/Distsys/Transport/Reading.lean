import Distsys.Transport.Framing
import Distsys.Wire.RoundTrip

/-!
# What the bytes of a peer come to

The bytes that arrive over a connection are cut off, are not a message, or are a message.
Each case raises exceptions of its own.
-/

namespace Distsys

open Codec

/-- What the bytes of a peer come to. -/
inductive PeerReply
  | cut (ending : StreamEnd)
  | malformed
  | message (response : Message)
  deriving DecidableEq

section Frames

variable (wire : Protobuf Proto.Envelope (List UInt8)) (maxFrameSize : Nat)

/-- What the bytes of a connection come to. -/
def PeerStream.reply (stream : PeerStream) : PeerReply :=
  if stream.received.length < headerSize then .cut stream.ending
  else
    match readHeader maxFrameSize (stream.received.take headerSize) with
    | .error _ => .malformed
    | .ok (msgType, bodyLength) =>
        let rest := stream.received.drop headerSize
        if rest.length < bodyLength then .cut stream.ending
        else
          match decodeEnvelope wire msgType (rest.take bodyLength) with
          | .error _ => .malformed
          | .ok response => .message response

/-- The exceptions of the framing and of the codecs, which are no exceptions of the
transport. -/
def PeerException.OfProtocol : PeerException → Prop
  | .protocolError _ _ => True
  | .raised error => error.kind = .valueError ∨ error.kind = .structError
  | _ => False

variable {wire maxFrameSize}

theorem PeerException.OfProtocol.isTransport {error : PeerException} (protocol : error.OfProtocol) :
    error.isTransport = false := by
  cases error with
  | protocolError kind message => rfl
  | raised error =>
      change error.isTransport = false
      unfold PyError.isTransport
      rcases protocol with kind | kind <;> rw [kind]
  | _ => exact protocol.elim

theorem fromCodec_eq_ok {α : Type} {result : Except PyError α} {value : α} :
    fromCodec result = .ok value ↔ result = .ok value := by
  cases result with
  | ok other => simp [fromCodec, Except.mapError]
  | error error => simp [fromCodec, Except.mapError]

/-- The exceptions of a message that is built. -/
theorem raises_fromCodec_value {α : Type} {result : Except PyError α}
    (raises : Raises (·.kind = .valueError) result) :
    Raises PeerException.OfProtocol (fromCodec result) := by
  cases result with
  | ok value => exact raises_ok value
  | error error =>
      have kind : error.kind = .valueError := raises error rfl
      refine raises_error ?_
      unfold PeerException.ofPyError
      rw [kind]
      exact .inl kind

/-- The exceptions of a message that is read. -/
theorem raises_fromCodec_decode {α : Type} {result : Except PyError α}
    (raises : Raises (·.kind = .decodeError) result) :
    Raises PeerException.OfProtocol (fromCodec result) := by
  cases result with
  | ok value => exact raises_ok value
  | error error =>
      have kind : error.kind = .decodeError := raises error rfl
      refine raises_error ?_
      unfold PeerException.ofPyError
      rw [kind]
      exact trivial

theorem raises_encodeFrame (message : Message) :
    Raises PeerException.OfProtocol (encodeFrame wire maxFrameSize message) := by
  have envelope : Raises (·.kind = .valueError) (encodeEnvelope wire message) :=
    (raises_setString _).bind fun _ => (raises_setString _).bind fun _ =>
      (raises_setUInt64 _).bind fun _ => (raises_setUInt32 _).bind fun _ =>
        (raises_setString _).bind fun _ => (raises_setString _).bind fun _ => raises_ok _
  refine (raises_fromCodec_value envelope).bind fun body => ?_
  dsimp only
  by_cases empty : body = []
  · rw [if_pos empty]
    exact raises_error trivial
  · rw [if_neg empty]
    by_cases large : maxFrameSize < body.length
    · rw [if_pos large]
      exact raises_error trivial
    · rw [if_neg large]
      by_cases long : 2 ^ 32 ≤ body.length
      · rw [if_pos long]
        exact raises_error (.inr rfl)
      · rw [if_neg long]
        exact raises_ok _

theorem raises_readHeader (header : List UInt8) :
    Raises PeerException.OfProtocol (readHeader maxFrameSize header) := by
  refine Raises.bind ?_ fun _ => raises_ok _
  unfold validateHeader
  split
  · exact raises_error trivial
  · split
    · exact raises_error trivial
    · split
      · exact raises_error trivial
      · split
        · exact raises_error trivial
        · split
          · exact raises_error trivial
          · exact raises_ok _

theorem raises_decodeEnvelope (msgType : MessageType) (data : List UInt8) :
    Raises (·.kind = .decodeError) (decodeEnvelope wire msgType data) := by
  unfold decodeEnvelope
  split
  · exact raises_error rfl
  · split
    · exact raises_error rfl
    · split
      · exact raises_error rfl
      · exact raises_ok _

/-- What reading a message gives in each case. -/
theorem readMessage_reply (stream : PeerStream) :
    match stream.reply wire maxFrameSize with
    | .cut ending => ∃ received expected,
        readMessage wire maxFrameSize stream = .error (ending.exception received expected)
    | .malformed => ∃ error, readMessage wire maxFrameSize stream = .error error ∧ error.OfProtocol
    | .message response => readMessage wire maxFrameSize stream = .ok response := by
  unfold PeerStream.reply readMessage PeerStream.readExactly
  by_cases short : stream.received.length < headerSize
  · rw [if_pos short, if_neg (Nat.not_le.mpr short)]
    exact ⟨_, _, rfl⟩
  rw [if_neg short, if_pos (Nat.not_lt.mp short)]
  cases header : readHeader maxFrameSize (stream.received.take headerSize) with
  | error error =>
      refine ⟨error, ?_, raises_readHeader _ error header⟩
      simp only [Codec.ok_bind, header]
      rfl
  | ok fields =>
      obtain ⟨msgType, bodyLength⟩ := fields
      simp only [Codec.ok_bind, header]
      by_cases cut : (stream.received.drop headerSize).length < bodyLength
      · rw [if_pos cut, if_neg (Nat.not_le.mpr cut)]
        exact ⟨_, _, rfl⟩
      · rw [if_neg cut, if_pos (Nat.not_lt.mp cut)]
        simp only [Codec.ok_bind]
        cases decoded : decodeEnvelope wire msgType
            ((stream.received.drop headerSize).take bodyLength) with
        | error error =>
            exact ⟨_, rfl, raises_fromCodec_decode
              (decoded ▸ raises_decodeEnvelope msgType _) _ rfl⟩
        | ok response => rfl

variable (wire maxFrameSize)

/-- What an exchange comes to, and why. -/
inductive ExchangeResult (timeoutSeconds : ℚ) (request : Message) :
    PeerOutcome → Except PeerException Message → Prop
  | late (exhausted : timeoutSeconds ≤ 0) (outcome : PeerOutcome) :
      ExchangeResult timeoutSeconds request outcome
        (.error (.timeoutError (PyStr.ofString "peer exchange timeout exhausted")))
  | refused (timely : 0 < timeoutSeconds) (reason : PyStr) :
      ExchangeResult timeoutSeconds request (.refused reason) (.error (.connectionError reason))
  | timedOut (timely : 0 < timeoutSeconds) (reason : PyStr) :
      ExchangeResult timeoutSeconds request (.timedOut reason) (.error (.timeoutError reason))
  | failed (timely : 0 < timeoutSeconds) (reason : PyStr) :
      ExchangeResult timeoutSeconds request (.failed reason) (.error (.osError reason))
  | raised (timely : 0 < timeoutSeconds) (error : PyError) :
      ExchangeResult timeoutSeconds request (.raised error) (.error (.raised error))
  | unframed (timely : 0 < timeoutSeconds) (stream : PeerStream) (error : PeerException)
      (frame : encodeFrame wire maxFrameSize request = .error error)
      (protocol : error.OfProtocol) :
      ExchangeResult timeoutSeconds request (.answered stream) (.error error)
  | cut (timely : 0 < timeoutSeconds)
      (framed : (encodeFrame wire maxFrameSize request).isOk) (stream : PeerStream)
      (ending : StreamEnd) (reply : stream.reply wire maxFrameSize = .cut ending)
      (received expected : Nat) :
      ExchangeResult timeoutSeconds request (.answered stream)
        (.error (ending.exception received expected))
  | malformed (timely : 0 < timeoutSeconds)
      (framed : (encodeFrame wire maxFrameSize request).isOk) (stream : PeerStream)
      (reply : stream.reply wire maxFrameSize = .malformed) (error : PeerException)
      (protocol : error.OfProtocol) :
      ExchangeResult timeoutSeconds request (.answered stream) (.error error)
  | foreign (timely : 0 < timeoutSeconds)
      (framed : (encodeFrame wire maxFrameSize request).isOk) (stream : PeerStream)
      (response : Message) (reply : stream.reply wire maxFrameSize = .message response)
      (other : response.correlationId ≠ request.correlationId) (reason : PyStr) :
      ExchangeResult timeoutSeconds request (.answered stream) (.error (.peerProtocolError reason))
  | response (timely : 0 < timeoutSeconds)
      (framed : (encodeFrame wire maxFrameSize request).isOk) (stream : PeerStream)
      (response : Message) (reply : stream.reply wire maxFrameSize = .message response)
      (same : response.correlationId = request.correlationId) :
      ExchangeResult timeoutSeconds request (.answered stream) (.ok response)

/-- Every exchange ends in one of these ways. -/
theorem exchangeResult (timeoutSeconds : ℚ) (request : Message) (outcome : PeerOutcome) :
    ExchangeResult wire maxFrameSize timeoutSeconds request outcome
      (exchangeEndpointRaw wire maxFrameSize timeoutSeconds request outcome) := by
  unfold exchangeEndpointRaw
  split
  · next exhausted => exact .late exhausted outcome
  · next inTime =>
    have timely := not_le.mp inTime
    cases outcome with
    | refused reason => exact .refused timely reason
    | timedOut reason => exact .timedOut timely reason
    | failed reason => exact .failed timely reason
    | raised error => exact .raised timely error
    | answered stream =>
        dsimp only
        cases frame : encodeFrame wire maxFrameSize request with
        | error error => exact .unframed timely stream error frame (raises_encodeFrame _ _ frame)
        | ok bytes =>
            have framed : (encodeFrame wire maxFrameSize request).isOk :=
              isOk_iff.mpr ⟨bytes, frame⟩
            have read := @readMessage_reply wire maxFrameSize stream
            cases reply : stream.reply wire maxFrameSize with
            | cut ending =>
                rw [reply] at read
                obtain ⟨received, expected, unread⟩ := read
                rw [unread]
                exact .cut timely framed stream ending reply received expected
            | malformed =>
                rw [reply] at read
                obtain ⟨error, unread, protocol⟩ := read
                rw [unread]
                exact .malformed timely framed stream reply error protocol
            | message response =>
                rw [reply] at read
                rw [show readMessage wire maxFrameSize stream = .ok response from read]
                simp only [Codec.ok_bind]
                split
                · next other => exact .foreign timely framed stream response reply other _
                · next same => exact .response timely framed stream response reply (not_not.mp same)

end Frames

end Distsys
