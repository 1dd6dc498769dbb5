import Mathlib.Algebra.Order.Field.Rat
import Distsys.Json
import Distsys.Wire.Codec

/-!
# Messages, frames and exchanges

A message travels as an envelope in a frame: an eight byte header with the type of the
message and the length of the body, and the body. A peer may send any bytes and end the
stream anywhere, so reading a message raises the exceptions of four layers. Which of them
an `except` clause catches is decided by the class of the exception.
-/

namespace Distsys

/-- `MessageType`. -/
inductive MessageType
  | request
  | response
  | error
  | heartbeat
  | joinRequest
  | joinResponse
  | ping
  | ack
  | pingReq
  | gossip
  | forwardedRequest
  | crdtMutateRequest
  | crdtReadRequest
  | crdtReplicate
  | crdtFetch
  | crdtDigest
  | crdtDigestResponse
  | crdtResponse
  deriving DecidableEq, Repr

namespace MessageType

/-- The members of the enumeration, in the order of their values. -/
def all : List MessageType :=
  [.request, .response, .error, .heartbeat, .joinRequest, .joinResponse, .ping, .ack, .pingReq,
    .gossip, .forwardedRequest, .crdtMutateRequest, .crdtReadRequest, .crdtReplicate, .crdtFetch,
    .crdtDigest, .crdtDigestResponse, .crdtResponse]

/-- The names of the members. -/
def name : MessageType → String
  | .request => "REQUEST"
  | .response => "RESPONSE"
  | .error => "ERROR"
  | .heartbeat => "HEARTBEAT"
  | .joinRequest => "JOIN_REQUEST"
  | .joinResponse => "JOIN_RESPONSE"
  | .ping => "PING"
  | .ack => "ACK"
  | .pingReq => "PING_REQ"
  | .gossip => "GOSSIP"
  | .forwardedRequest => "FORWARDED_REQUEST"
  | .crdtMutateRequest => "CRDT_MUTATE_REQUEST"
  | .crdtReadRequest => "CRDT_READ_REQUEST"
  | .crdtReplicate => "CRDT_REPLICATE"
  | .crdtFetch => "CRDT_FETCH"
  | .crdtDigest => "CRDT_DIGEST"
  | .crdtDigestResponse => "CRDT_DIGEST_RESPONSE"
  | .crdtResponse => "CRDT_RESPONSE"

/-- `int(msg_type)`. -/
def value (msgType : MessageType) : Nat := all.idxOf msgType + 1

/-- `MessageType(raw)`. -/
def ofValue? (raw : Nat) : Option MessageType := all.find? fun msgType => msgType.value = raw

theorem ofValue?_value (msgType : MessageType) : ofValue? msgType.value = some msgType := by
  cases msgType <;> decide

end MessageType

/-- `Message`. -/
structure Message where
  msgType : MessageType
  senderId : PyStr
  correlationId : PyStr
  timestampMs : Nat
  ttl : Nat := 8
  payload : List UInt8
  traceparent : PyStr := []
  tracestate : PyStr := []
  deriving DecidableEq

/-- The errors of the protocol. -/
inductive ProtocolErrorKind
  | invalidMagic
  | unsupportedVersion
  | invalidMessageType
  | invalidFrameLength
  | frameTooLarge
  | decodeError
  deriving DecidableEq, Repr

/-- The error codes of a task response; the field keeps values it does not know. -/
inductive TaskErrorCode
  | unspecified
  | unknownTask
  | invalidRequest
  | internalError
  | timeout
  | overloaded
  | rateLimited
  | noRoute
  | peerUnavailable
  | other (raw : Int)
  deriving DecidableEq, Repr

/-- The exceptions of the cluster package and of what it calls. -/
inductive PeerException
  | connectionError (message : PyStr)
  | timeoutError (message : PyStr)
  | osError (message : PyStr)
  | incompleteReadError (received expected : Nat)
  | protocolError (kind : ProtocolErrorKind) (message : PyStr)
  | peerProtocolError (message : PyStr)
  | peerTransportError (message : PyStr)
  | circuitOpenError (message : PyStr)
  | deadlineExceeded (message : PyStr)
  | peerApplicationError (code : TaskErrorCode) (message : PyStr)
  | localOverloadedError (message : PyStr)
  | peerUnavailableError (message : PyStr)
  | clusterBootstrapError (message : PyStr)
  | raised (error : PyError)
  deriving DecidableEq

namespace PeerException

/-- `except (ConnectionError, TimeoutError, OSError)`. An incomplete read is an `EOFError`,
and the errors of the protocol derive from `Exception` only. -/
def isTransport : PeerException → Bool
  | .connectionError _ | .timeoutError _ | .osError _ | .peerProtocolError _
  | .peerTransportError _ | .circuitOpenError _ | .deadlineExceeded _ | .peerUnavailableError _
  | .clusterBootstrapError _ => true
  | .raised error => error.isTransport
  | .incompleteReadError _ _ | .protocolError _ _ | .peerApplicationError _ _
  | .localOverloadedError _ => false

/-- The exception of a codec. -/
def ofPyError (error : PyError) : PeerException :=
  match error.kind with
  | .decodeError => .protocolError .decodeError (PyStr.ofString error.message)
  | _ => .raised error

end PeerException

/-- The result of a codec, with its exceptions among those of the package. -/
def fromCodec {α : Type} (result : Except PyError α) : Except PeerException α :=
  result.mapError .ofPyError

namespace Proto

/-- The message `Envelope`. -/
structure Envelope where
  senderId : StringField
  correlationId : StringField
  timestampMs : UInt64Field
  ttl : UInt32Field
  payload : List UInt8
  traceparent : StringField
  tracestate : StringField

end Proto

section Frames

variable (wire : Protobuf Proto.Envelope (List UInt8)) (maxFrameSize : Nat)

/-- `encode_envelope`. -/
def encodeEnvelope (message : Message) : Except PyError (List UInt8) := do
  let senderId ← setString message.senderId
  let correlationId ← setString message.correlationId
  let timestampMs ← setUInt64 message.timestampMs
  let ttl ← setUInt32 message.ttl
  let traceparent ← setString message.traceparent
  let tracestate ← setString message.tracestate
  return wire.serialize
    ⟨senderId, correlationId, timestampMs, ttl, message.payload, traceparent, tracestate⟩

/-- `decode_envelope`. -/
def decodeEnvelope (msgType : MessageType) (data : List UInt8) : Except PyError Message :=
  match wire.parse data with
  | none => .error ⟨.decodeError, "invalid protobuf envelope"⟩
  | some envelope =>
      if envelope.senderId.val = [] then .error ⟨.decodeError, "sender_id is required"⟩
      else if envelope.correlationId.val = [] then
        .error ⟨.decodeError, "correlation_id is required"⟩
      else .ok ⟨msgType, envelope.senderId.val, envelope.correlationId.val,
        envelope.timestampMs.val, envelope.ttl.val, envelope.payload, envelope.traceparent.val,
        envelope.tracestate.val⟩

/-- `MAGIC`. -/
def magic : List UInt8 := [68, 83]

/-- `PROTOCOL_VERSION`. -/
def protocolVersion : UInt8 := 1

/-- `HEADER_SIZE`. -/
def headerSize : Nat := 8

/-- `repr` of one byte in a bytes literal that is quoted with apostrophes. -/
def reprByte (byte : UInt8) : PyStr :=
  if byte = 92 then PyStr.ofString "\\\\"
  else if byte = 9 then PyStr.ofString "\\t"
  else if byte = 10 then PyStr.ofString "\\n"
  else if byte = 13 then PyStr.ofString "\\r"
  else if 32 ≤ byte ∧ byte < 127 then [⟨byte.toNat, lt_of_lt_of_le byte.toNat_lt (by decide)⟩]
  else PyStr.ofString "\\x" ++ [Json.hexDigit ⟨byte.toNat / 16 % 16, by omega⟩,
    Json.hexDigit ⟨byte.toNat % 16, by omega⟩]

/-- `repr(data)`: double quotes are used when there is an apostrophe and no double quote. -/
def reprBytes (data : List UInt8) : PyStr :=
  if 39 ∈ data ∧ 34 ∉ data then
    PyStr.ofString "b" ++ 34 :: data.flatMap reprByte ++ [34]
  else
    PyStr.ofString "b" ++ 39 ::
      data.flatMap (fun byte => if byte = 39 then [92, 39] else reprByte byte) ++ [39]

/-- The big-endian number that the bytes spell. -/
def bigEndian (bytes : List UInt8) : Nat :=
  bytes.foldl (fun value byte => value * 256 + byte.toNat) 0

/-- The four bytes of a number below `2 ^ 32`, most significant first. -/
def fourBytes (value : Nat) : List UInt8 :=
  [UInt8.ofNat (value / 2 ^ 24), UInt8.ofNat (value / 2 ^ 16), UInt8.ofNat (value / 2 ^ 8),
    UInt8.ofNat value]

/-- `_validate_header`. -/
def validateHeader (found : List UInt8) (version : UInt8) (rawType : UInt8) (bodyLength : Nat) :
    Except PeerException MessageType :=
  if found ≠ magic then
    .error (.protocolError .invalidMagic
      (PyStr.ofString "expected b'DS', got " ++ reprBytes found))
  else if version ≠ protocolVersion then
    .error (.protocolError .unsupportedVersion
      (PyStr.ofString ("unsupported protocol version: " ++ toString version)))
  else match MessageType.ofValue? rawType.toNat with
    | none => .error (.protocolError .invalidMessageType
        (PyStr.ofString ("unknown message type: " ++ toString rawType)))
    | some msgType =>
        if bodyLength = 0 then
          .error (.protocolError .invalidFrameLength
            (PyStr.ofString ("body length must be > 0, got " ++ toString bodyLength)))
        else if maxFrameSize < bodyLength then
          .error (.protocolError .frameTooLarge (PyStr.ofString
            ("frame body " ++ toString bodyLength ++ " exceeds limit " ++ toString maxFrameSize)))
        else .ok msgType

/-- `HEADER_STRUCT.unpack` of eight bytes, and the check of the fields. -/
def readHeader (header : List UInt8) : Except PeerException (MessageType × Nat) := do
  let bodyLength := bigEndian (header.drop 4)
  let msgType ← validateHeader maxFrameSize (header.take 2) (header.getD 2 0) (header.getD 3 0)
    bodyLength
  return (msgType, bodyLength)

/-- `encode_frame`. -/
def encodeFrame (message : Message) : Except PeerException (List UInt8) := do
  let body ← fromCodec (encodeEnvelope wire message)
  if body = [] then
    throw (.protocolError .invalidFrameLength (PyStr.ofString "encoded envelope is empty"))
  if maxFrameSize < body.length then
    throw (.protocolError .frameTooLarge (PyStr.ofString
      ("frame body " ++ toString body.length ++ " exceeds limit " ++ toString maxFrameSize)))
  if 2 ^ 32 ≤ body.length then
    throw (.raised ⟨.structError, "'I' format requires 0 <= number <= 4294967295"⟩)
  return magic ++ [protocolVersion, UInt8.ofNat message.msgType.value] ++
    fourBytes body.length ++ body

/-- How the bytes that a peer sends come to an end. A stalled stream ends with the timeout
of the exchange. -/
inductive StreamEnd
  | eof
  | reset
  | stalled
  deriving DecidableEq, Repr

/-- The bytes that arrive from a peer. -/
structure PeerStream where
  received : List UInt8
  ending : StreamEnd
  deriving DecidableEq

/-- What waiting for more bytes than arrive raises. -/
def StreamEnd.exception (received expected : Nat) : StreamEnd → PeerException
  | .eof => .incompleteReadError received expected
  | .reset => .connectionError (PyStr.ofString "Connection reset by peer")
  | .stalled => .timeoutError []

/-- `await reader.readexactly(count)`. -/
def PeerStream.readExactly (stream : PeerStream) (count : Nat) :
    Except PeerException (List UInt8 × PeerStream) :=
  if count ≤ stream.received.length then
    .ok (stream.received.take count, { stream with received := stream.received.drop count })
  else .error (stream.ending.exception stream.received.length count)

/-- `read_message`. -/
def readMessage (stream : PeerStream) : Except PeerException Message := do
  let (header, stream) ← stream.readExactly headerSize
  let (msgType, bodyLength) ← readHeader maxFrameSize header
  let (body, _) ← stream.readExactly bodyLength
  fromCodec (decodeEnvelope wire msgType body)

/-- What happens to an exchange with a peer: no connection is made, with an exception of the
transport or, as for a host name that cannot be encoded, another exception of `open_connection`;
or there is one, and bytes arrive over it until it ends. -/
inductive PeerOutcome
  | refused (message : PyStr)
  | timedOut (message : PyStr)
  | failed (message : PyStr)
  | raised (error : PyError)
  | answered (stream : PeerStream)
  deriving DecidableEq

/-- `_exchange_endpoint_raw` over plain TCP. -/
def exchangeEndpointRaw (timeoutSeconds : ℚ) (message : Message) (outcome : PeerOutcome) :
    Except PeerException Message :=
  if timeoutSeconds ≤ 0 then
    .error (.timeoutError (PyStr.ofString "peer exchange timeout exhausted"))
  else match outcome with
    | .refused reason => .error (.connectionError reason)
    | .timedOut reason => .error (.timeoutError reason)
    | .failed reason => .error (.osError reason)
    | .raised error => .error (.raised error)
    | .answered stream => do
        let _ ← encodeFrame wire maxFrameSize message
        let response ← readMessage wire maxFrameSize stream
        if response.correlationId ≠ message.correlationId then
          throw (.peerProtocolError (PyStr.ofString "expected correlation " ++
            message.correlationId ++ PyStr.ofString ", got " ++ response.correlationId))
        return response

end Frames

end Distsys
