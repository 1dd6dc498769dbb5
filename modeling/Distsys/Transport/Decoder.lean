import Distsys.Lib.Incremental
import Distsys.Transport.Layout
import Distsys.Transport.Reading

/-!
# Frames in any chunks

`FrameDecoder` takes the bytes of a connection in the chunks in which they arrive, and
`read_message` takes one frame after the other from a stream. Both find the same frames in
the same bytes. A call of `feed` that meets a malformed frame raises, and the good frames it
has decoded before are not returned by any call.
-/

namespace Distsys

open Codec

section Frames

variable (wire : Protobuf Proto.Envelope (List UInt8)) (maxFrameSize : Nat)
  {stream rest : PeerStream} {message : Message} {frame part : List UInt8}

/-- `FrameDecoder`: the bytes of the frame that is not complete. -/
structure FrameDecoder where
  buffer : List UInt8 := []

/-- The loop of `feed`. The frame is gone from the buffer when its body is decoded, and the
header of a malformed frame stays. -/
def FrameDecoder.drain (buffer : List UInt8) (messages : List Message) :
    Except PeerException (List Message) × FrameDecoder :=
  if buffer.length < headerSize then (.ok messages, ⟨buffer⟩)
  else
    match readHeader maxFrameSize (buffer.take headerSize) with
    | .error error => (.error error, ⟨buffer⟩)
    | .ok (msgType, bodyLength) =>
        let frameSize := headerSize + bodyLength
        if buffer.length < frameSize then (.ok messages, ⟨buffer⟩)
        else
          let body := (buffer.take frameSize).drop headerSize
          let buffer := buffer.drop frameSize
          match fromCodec (decodeEnvelope wire msgType body) with
          | .error error => (.error error, ⟨buffer⟩)
          | .ok message => drain buffer (messages ++ [message])
termination_by buffer.length
decreasing_by
  simp only [List.length_drop, headerSize] at *
  omega

/-- `FrameDecoder.feed`. -/
def FrameDecoder.feed (decoder : FrameDecoder) (data : List UInt8) :
    Except PeerException (List Message) × FrameDecoder :=
  drain wire maxFrameSize (decoder.buffer ++ data) []

/-- `read_message`, with the bytes that the next call finds. -/
def readMessageFrom (stream : PeerStream) : Except PeerException (Message × PeerStream) := do
  let (header, stream) ← stream.readExactly headerSize
  let (msgType, bodyLength) ← readHeader maxFrameSize header
  let (body, stream) ← stream.readExactly bodyLength
  let message ← fromCodec (decodeEnvelope wire msgType body)
  return (message, stream)

/-- What the bytes at the front of a stream are. -/
def frontFrame (buffer : List UInt8) : Front UInt8 PeerException Message :=
  if buffer.length < headerSize then .starved
  else
    match readHeader maxFrameSize (buffer.take headerSize) with
    | .error error => .broken error buffer
    | .ok (msgType, bodyLength) =>
        if buffer.length < headerSize + bodyLength then .starved
        else
          match fromCodec (decodeEnvelope wire msgType
            ((buffer.take (headerSize + bodyLength)).drop headerSize)) with
          | .error error => .broken error (buffer.drop (headerSize + bodyLength))
          | .ok message => .item message (buffer.drop (headerSize + bodyLength))

/-- The cases of `frontFrame`. -/
inductive FrontFrame (buffer : List UInt8) : Front UInt8 PeerException Message → Prop
  | short (few : buffer.length < headerSize) : FrontFrame buffer .starved
  | header (enough : headerSize ≤ buffer.length) (error : PeerException)
      (read : readHeader maxFrameSize (buffer.take headerSize) = .error error) :
      FrontFrame buffer (.broken error buffer)
  | cut (enough : headerSize ≤ buffer.length) (msgType : MessageType) (bodyLength : Nat)
      (read : readHeader maxFrameSize (buffer.take headerSize) = .ok (msgType, bodyLength))
      (few : buffer.length < headerSize + bodyLength) : FrontFrame buffer .starved
  | body (msgType : MessageType) (bodyLength : Nat)
      (read : readHeader maxFrameSize (buffer.take headerSize) = .ok (msgType, bodyLength))
      (enough : headerSize + bodyLength ≤ buffer.length) (error : PeerException)
      (decoded : fromCodec (decodeEnvelope wire msgType
        ((buffer.take (headerSize + bodyLength)).drop headerSize)) = .error error) :
      FrontFrame buffer (.broken error (buffer.drop (headerSize + bodyLength)))
  | frame (msgType : MessageType) (bodyLength : Nat)
      (read : readHeader maxFrameSize (buffer.take headerSize) = .ok (msgType, bodyLength))
      (enough : headerSize + bodyLength ≤ buffer.length) (message : Message)
      (decoded : fromCodec (decodeEnvelope wire msgType
        ((buffer.take (headerSize + bodyLength)).drop headerSize)) = .ok message) :
      FrontFrame buffer (.item message (buffer.drop (headerSize + bodyLength)))

variable {wire maxFrameSize}

theorem frontFrame_cases (buffer : List UInt8) :
    FrontFrame wire maxFrameSize buffer (frontFrame wire maxFrameSize buffer) := by
  unfold frontFrame
  by_cases few : buffer.length < headerSize
  · rw [if_pos few]
    exact .short few
  rw [if_neg few]
  cases read : readHeader maxFrameSize (buffer.take headerSize) with
  | error error => exact .header (Nat.not_lt.mp few) error read
  | ok fields =>
      obtain ⟨msgType, bodyLength⟩ := fields
      dsimp only
      by_cases cut : buffer.length < headerSize + bodyLength
      · rw [if_pos cut]
        exact .cut (Nat.not_lt.mp few) msgType bodyLength read cut
      rw [if_neg cut]
      cases decoded : fromCodec (decodeEnvelope wire msgType
          ((buffer.take (headerSize + bodyLength)).drop headerSize)) with
      | error error => exact .body msgType bodyLength read (Nat.not_lt.mp cut) error decoded
      | ok message => exact .frame msgType bodyLength read (Nat.not_lt.mp cut) message decoded

theorem FrontFrame.eq {buffer : List UInt8} {front : Front UInt8 PeerException Message}
    (found : FrontFrame wire maxFrameSize buffer front) :
    frontFrame wire maxFrameSize buffer = front := by
  unfold frontFrame
  cases found with
  | short few => rw [if_pos few]
  | header enough error read => rw [if_neg (Nat.not_lt.mpr enough), read]
  | cut enough msgType bodyLength read few =>
      rw [if_neg (Nat.not_lt.mpr enough), read]
      exact if_pos few
  | body msgType bodyLength read enough error decoded =>
      rw [if_neg (Nat.not_lt.mpr (Nat.le_of_add_right_le enough)), read]
      dsimp only
      rw [if_neg (Nat.not_lt.mpr enough), decoded]
  | frame msgType bodyLength read enough message decoded =>
      rw [if_neg (Nat.not_lt.mpr (Nat.le_of_add_right_le enough)), read]
      dsimp only
      rw [if_neg (Nat.not_lt.mpr enough), decoded]

variable (wire maxFrameSize)

/-- The parser of frames. -/
def frameParser : ItemParser UInt8 PeerException Message where
  front := frontFrame wire maxFrameSize
  front_nil := rfl
  shrinks := by
    intro buffer message rest found
    have cases := @frontFrame_cases wire maxFrameSize buffer
    rw [found] at cases
    cases cases with
    | frame msgType bodyLength read enough _ decoded =>
        rw [List.length_drop]
        unfold headerSize at *
        omega
  item_append := by
    intro buffer message rest found more
    have cases := @frontFrame_cases wire maxFrameSize buffer
    rw [found] at cases
    cases cases with
    | frame msgType bodyLength read enough _ decoded =>
        rw [← List.drop_append_of_le_length enough]
        refine FrontFrame.eq (.frame msgType bodyLength ?_ ?_ message ?_)
        · rwa [List.take_append_of_le_length (Nat.le_of_add_right_le enough)]
        · rw [List.length_append]
          exact Nat.le_add_right_of_le enough
        · rwa [List.take_append_of_le_length enough]
  broken_append := by
    intro buffer error rest found more
    have cases := @frontFrame_cases wire maxFrameSize buffer
    rw [found] at cases
    cases cases with
    | header enough _ read =>
        refine FrontFrame.eq (.header ?_ error ?_)
        · rw [List.length_append]
          exact Nat.le_add_right_of_le enough
        · rwa [List.take_append_of_le_length enough]
    | body msgType bodyLength read enough _ decoded =>
        rw [← List.drop_append_of_le_length enough]
        refine FrontFrame.eq (.body msgType bodyLength ?_ ?_ error ?_)
        · rwa [List.take_append_of_le_length (Nat.le_of_add_right_le enough)]
        · rw [List.length_append]
          exact Nat.le_add_right_of_le enough
        · rwa [List.take_append_of_le_length enough]

variable {wire maxFrameSize}

/-- One pass of the loop of `feed`. -/
theorem drain_front (buffer : List UInt8) (messages : List Message) :
    FrameDecoder.drain wire maxFrameSize buffer messages =
      match frontFrame wire maxFrameSize buffer with
      | .starved => (.ok messages, ⟨buffer⟩)
      | .broken error rest => (.error error, ⟨rest⟩)
      | .item message rest =>
          FrameDecoder.drain wire maxFrameSize rest (messages ++ [message]) := by
  have found := @frontFrame_cases wire maxFrameSize buffer
  generalize frontFrame wire maxFrameSize buffer = front at found
  rw [FrameDecoder.drain]
  cases found with
  | short few => rw [if_pos few]
  | header enough error read => rw [if_neg (Nat.not_lt.mpr enough), read]
  | cut enough msgType bodyLength read few =>
      rw [if_neg (Nat.not_lt.mpr enough), read]
      exact if_pos few
  | body msgType bodyLength read enough error decoded =>
      rw [if_neg (Nat.not_lt.mpr (Nat.le_of_add_right_le enough)), read]
      dsimp only
      rw [if_neg (Nat.not_lt.mpr enough), decoded]
  | frame msgType bodyLength read enough message decoded =>
      rw [if_neg (Nat.not_lt.mpr (Nat.le_of_add_right_le enough)), read]
      dsimp only
      rw [if_neg (Nat.not_lt.mpr enough), decoded]

/-- The loop of `feed` follows the parser. -/
theorem drain_eq (buffer : List UInt8) (messages : List Message) :
    FrameDecoder.drain wire maxFrameSize buffer messages =
      ((((frameParser wire maxFrameSize).parse buffer).prepend messages).outcome,
        ⟨((frameParser wire maxFrameSize).parse buffer).rest⟩) := by
  induction buffer using (frameParser wire maxFrameSize).parse_induction generalizing messages with
  | starved buffer found =>
      rw [ItemParser.parse_starved found, drain_front,
        show frontFrame wire maxFrameSize buffer = _ from found]
      simp only [Parsed.prepend, Parsed.outcome, List.append_nil]
  | broken buffer error rest found =>
      rw [ItemParser.parse_broken found, drain_front,
        show frontFrame wire maxFrameSize buffer = _ from found]
      rfl
  | item buffer message rest found ih =>
      rw [ItemParser.parse_item found, drain_front,
        show frontFrame wire maxFrameSize buffer = _ from found]
      dsimp only
      rw [ih]
      simp only [Parsed.prepend, Parsed.outcome, List.append_assoc]

theorem feeds_feed :
    (frameParser wire maxFrameSize).Feeds (FrameDecoder.feed wire maxFrameSize)
      FrameDecoder.buffer where
  outcome decoder data := by
    unfold FrameDecoder.feed
    rw [drain_eq]
    rfl
  buffer decoder data := by
    unfold FrameDecoder.feed
    rw [drain_eq]

/-- One `read_message` takes what the parser finds at the front. -/
theorem readMessageFrom_front (received : List UInt8) (ending : StreamEnd) :
    match frontFrame wire maxFrameSize received with
    | .starved => ∃ got expected, readMessageFrom wire maxFrameSize ⟨received, ending⟩ =
        .error (ending.exception got expected)
    | .broken error _ => readMessageFrom wire maxFrameSize ⟨received, ending⟩ = .error error
    | .item message rest =>
        readMessageFrom wire maxFrameSize ⟨received, ending⟩ = .ok (message, ⟨rest, ending⟩) := by
  have found := @frontFrame_cases wire maxFrameSize received
  generalize frontFrame wire maxFrameSize received = front at found
  unfold readMessageFrom PeerStream.readExactly
  cases found with
  | short few =>
      rw [if_neg (Nat.not_le.mpr few)]
      exact ⟨_, _, rfl⟩
  | header enough error read =>
      rw [if_pos enough]
      simp only [ok_bind, read]
      rfl
  | cut enough msgType bodyLength read few =>
      have short : ¬ bodyLength ≤ (received.drop headerSize).length := by
        rw [List.length_drop]
        omega
      rw [if_pos enough]
      simp only [ok_bind, read]
      rw [if_neg short]
      exact ⟨_, _, rfl⟩
  | body msgType bodyLength read enough error decoded =>
      have long : bodyLength ≤ (received.drop headerSize).length := by
        rw [List.length_drop]
        omega
      rw [List.drop_take, Nat.add_sub_cancel_left] at decoded
      rw [if_pos (Nat.le_of_add_right_le enough)]
      simp only [ok_bind, read]
      rw [if_pos long]
      simp only [ok_bind, decoded]
      rfl
  | frame msgType bodyLength read enough message decoded =>
      have long : bodyLength ≤ (received.drop headerSize).length := by
        rw [List.length_drop]
        omega
      rw [List.drop_take, Nat.add_sub_cancel_left] at decoded
      rw [if_pos (Nat.le_of_add_right_le enough)]
      simp only [ok_bind, read]
      rw [if_pos long]
      simp only [ok_bind, decoded, List.drop_drop]
      rfl

theorem received_lt_of_readMessageFrom
    (read : readMessageFrom wire maxFrameSize stream = .ok (message, rest)) :
    rest.received.length < stream.received.length := by
  have result := @readMessageFrom_front wire maxFrameSize stream.received stream.ending
  cases found : frontFrame wire maxFrameSize stream.received with
  | starved =>
      rw [found] at result
      obtain ⟨got, expected, failed⟩ := result
      cases read.symm.trans failed
  | broken error left =>
      rw [found] at result
      cases read.symm.trans result
  | item value left =>
      rw [found] at result
      cases read.symm.trans result
      exact (frameParser wire maxFrameSize).shrinks found

variable (wire maxFrameSize)

/-- Successive calls of `read_message`: the messages, and what the last call raises. -/
def readMessages (stream : PeerStream) : List Message × PeerException :=
  match read : readMessageFrom wire maxFrameSize stream with
  | .error error => ([], error)
  | .ok (message, rest) =>
      have := received_lt_of_readMessageFrom read
      let later := readMessages rest
      (message :: later.1, later.2)
termination_by stream.received.length

variable {wire maxFrameSize}

theorem readMessages_error {error : PeerException}
    (read : readMessageFrom wire maxFrameSize stream = .error error) :
    readMessages wire maxFrameSize stream = ([], error) := by
  rw [readMessages]
  split <;> simp_all

theorem readMessages_ok (read : readMessageFrom wire maxFrameSize stream = .ok (message, rest)) :
    readMessages wire maxFrameSize stream =
      (message :: (readMessages wire maxFrameSize rest).1,
        (readMessages wire maxFrameSize rest).2) := by
  rw [readMessages]
  split <;> simp_all

/-- Reading follows the parser, too. -/
theorem readMessages_eq (received : List UInt8) (ending : StreamEnd) :
    (readMessages wire maxFrameSize ⟨received, ending⟩).1 =
        ((frameParser wire maxFrameSize).parse received).items ∧
      match ((frameParser wire maxFrameSize).parse received).stop with
      | some error => (readMessages wire maxFrameSize ⟨received, ending⟩).2 = error
      | none => ∃ got expected, (readMessages wire maxFrameSize ⟨received, ending⟩).2 =
          ending.exception got expected := by
  induction received using (frameParser wire maxFrameSize).parse_induction with
  | starved received found =>
      have read := @readMessageFrom_front wire maxFrameSize received ending
      rw [show frontFrame wire maxFrameSize received = _ from found] at read
      obtain ⟨got, expected, failed⟩ := read
      rw [ItemParser.parse_starved found, readMessages_error failed]
      exact ⟨rfl, got, expected, rfl⟩
  | broken received error rest found =>
      have read := @readMessageFrom_front wire maxFrameSize received ending
      rw [show frontFrame wire maxFrameSize received = _ from found] at read
      rw [ItemParser.parse_broken found, readMessages_error read]
      exact ⟨rfl, rfl⟩
  | item received message rest found ih =>
      have read := @readMessageFrom_front wire maxFrameSize received ending
      rw [show frontFrame wire maxFrameSize received = _ from found] at read
      rw [ItemParser.parse_item found, readMessages_ok read]
      exact ⟨congrArg (message :: ·) ih.1, ih.2⟩

/-- The bytes that an encoded frame consists of. -/
theorem encodeFrame_eq_ok (encoded : encodeFrame wire maxFrameSize message = .ok frame) :
    ∃ body, encodeEnvelope wire message = .ok body ∧ body ≠ [] ∧ body.length ≤ maxFrameSize ∧
      body.length < 2 ^ 32 ∧
      frame = magic ++ [protocolVersion, UInt8.ofNat message.msgType.value] ++
        fourBytes body.length ++ body := by
  obtain ⟨body, made, encoded⟩ := bind_eq_ok.mp encoded
  dsimp only at encoded
  by_cases empty : body = []
  · rw [if_pos empty] at encoded
    cases encoded
  rw [if_neg empty] at encoded
  by_cases large : maxFrameSize < body.length
  · simp only [if_pos large] at encoded
    cases encoded
  simp only [if_neg large] at encoded
  by_cases long : 2 ^ 32 ≤ body.length
  · simp only [if_pos long] at encoded
    cases encoded
  simp only [if_neg long] at encoded
  cases encoded
  exact ⟨body, fromCodec_eq_ok.mp made, empty, Nat.not_lt.mp large, Nat.not_le.mp long, rfl⟩

theorem bigEndian_fourBytes {value : Nat} (fits : value < 2 ^ 32) :
    bigEndian (fourBytes value) = value := by
  simp only [bigEndian, fourBytes, List.foldl_cons, List.foldl_nil, UInt8.toNat_ofNat']
  omega

theorem MessageType.toNat_ofNat_value (msgType : MessageType) :
    (UInt8.ofNat msgType.value).toNat = msgType.value := by
  cases msgType <;> decide

theorem readHeader_encoded (msgType : MessageType) {bodyLength : Nat} (positive : bodyLength ≠ 0)
    (bounded : bodyLength ≤ maxFrameSize) (fits : bodyLength < 2 ^ 32) :
    readHeader maxFrameSize
        (magic ++ [protocolVersion, UInt8.ofNat msgType.value] ++ fourBytes bodyLength) =
      .ok (msgType, bodyLength) := by
  unfold readHeader
  have length : bigEndian ((magic ++ [protocolVersion, UInt8.ofNat msgType.value] ++
      fourBytes bodyLength).drop 4) = bodyLength := bigEndian_fourBytes fits
  rw [length]
  have checked : validateHeader maxFrameSize magic protocolVersion
      (UInt8.ofNat msgType.value) bodyLength = .ok msgType := by
    unfold validateHeader
    rw [if_neg (not_not.mpr rfl), if_neg (not_not.mpr rfl), MessageType.toNat_ofNat_value,
      MessageType.ofValue?_value]
    dsimp only
    rw [if_neg positive, if_neg (Nat.not_lt.mpr bounded)]
  exact congrArg (· >>= fun msgType => .ok (msgType, bodyLength)) checked

/-- An envelope with its two names is read back as the message. -/
theorem decodeEnvelope_of_encoded {body : List UInt8}
    (encoded : encodeEnvelope wire message = .ok body) (sender : message.senderId ≠ [])
    (correlation : message.correlationId ≠ []) :
    decodeEnvelope wire message.msgType body = .ok message := by
  obtain ⟨senderId, sent, encoded⟩ := bind_eq_ok.mp encoded
  obtain ⟨correlationId, correlated, encoded⟩ := bind_eq_ok.mp encoded
  obtain ⟨timestampMs, stamped, encoded⟩ := bind_eq_ok.mp encoded
  obtain ⟨ttl, limited, encoded⟩ := bind_eq_ok.mp encoded
  obtain ⟨traceparent, parent, encoded⟩ := bind_eq_ok.mp encoded
  obtain ⟨tracestate, state, encoded⟩ := bind_eq_ok.mp encoded
  cases encoded
  unfold decodeEnvelope
  rw [wire.parse_serialize]
  dsimp only
  rw [setString_val sent, setString_val correlated, setUInt64_val stamped, setUInt32_val limited,
    setString_val parent, setString_val state, if_neg sender, if_neg correlation]

/-- The header of a frame, and its size. -/
theorem header_of_encodeFrame (encoded : encodeFrame wire maxFrameSize message = .ok frame) :
    ∃ bodyLength, frame.length = headerSize + bodyLength ∧
      readHeader maxFrameSize (frame.take headerSize) = .ok (message.msgType, bodyLength) ∧
      encodeEnvelope wire message = .ok (frame.drop headerSize) := by
  obtain ⟨body, made, full, bounded, fits, rfl⟩ := encodeFrame_eq_ok encoded
  refine ⟨body.length, ?_, ?_, made⟩
  · simp only [List.length_append, magic, fourBytes, headerSize, List.length_cons, List.length_nil]
  · exact readHeader_encoded message.msgType (mt List.eq_nil_of_length_eq_zero full) bounded fits

/-- A frame at the front of a stream is taken whole. -/
theorem frontFrame_encoded (encoded : encodeFrame wire maxFrameSize message = .ok frame)
    (sender : message.senderId ≠ []) (correlation : message.correlationId ≠ [])
    (rest : List UInt8) :
    (frameParser wire maxFrameSize).front (frame ++ rest) = .item message rest := by
  obtain ⟨bodyLength, size, read, made⟩ := header_of_encodeFrame encoded
  have decoded := decodeEnvelope_of_encoded made sender correlation
  have found : (frameParser wire maxFrameSize).front frame =
      .item message (frame.drop (headerSize + bodyLength)) := by
    refine FrontFrame.eq (.frame message.msgType bodyLength read size.ge message ?_)
    rw [← size, List.take_length, decoded]
    rfl
  rw [← size, List.drop_length] at found
  exact (frameParser wire maxFrameSize).item_append found rest

/-- A part of a frame is kept until the rest arrives. -/
theorem frontFrame_part (encoded : encodeFrame wire maxFrameSize message = .ok frame)
    (front : part <+: frame) (proper : part ≠ frame) :
    (frameParser wire maxFrameSize).front part = .starved := by
  obtain ⟨bodyLength, size, read, _⟩ := header_of_encodeFrame encoded
  have shorter : part.length < headerSize + bodyLength := by
    rw [← size]
    exact lt_of_le_of_ne front.length_le fun same => proper (front.eq_of_length same)
  by_cases few : part.length < headerSize
  · exact FrontFrame.eq (.short few)
  · refine FrontFrame.eq (.cut (Nat.not_lt.mp few) message.msgType bodyLength ?_ shorter)
    obtain ⟨more, rfl⟩ := front
    rwa [List.take_append_of_le_length (Nat.not_lt.mp few)] at read

/-- The frames of a stream are its items. -/
theorem parse_frames {messages : List Message} {frames : List (List UInt8)}
    (encoded : List.Forall₂ (fun message frame => encodeFrame wire maxFrameSize message = .ok frame)
      messages frames)
    (named : ∀ message ∈ messages, message.senderId ≠ [] ∧ message.correlationId ≠ [])
    (unfinished : (frameParser wire maxFrameSize).front part = .starved) :
    (frameParser wire maxFrameSize).parse (frames.flatten ++ part) = ⟨messages, none, part⟩ := by
  induction encoded with
  | nil => exact ItemParser.parse_starved unfinished
  | cons first _ ih =>
      obtain ⟨own, others⟩ := List.forall_mem_cons.mp named
      rw [List.flatten_cons, List.append_assoc,
        ItemParser.parse_item (frontFrame_encoded first own.1 own.2 _), ih others]
      rfl

variable (wire maxFrameSize)

/-- The frames of any messages, with the beginning of a further frame, arrive in any chunks. -/
theorem frames_survive_chunking {messages : List Message} {frames : List (List UInt8)}
    (encoded : messages.mapM (encodeFrame wire maxFrameSize) = .ok frames)
    (named : ∀ message ∈ messages, message.senderId ≠ [] ∧ message.correlationId ≠ [])
    {part : List UInt8}
    (unfinished : part = [] ∨ ∃ further frame,
      encodeFrame wire maxFrameSize further = .ok frame ∧ part <+: frame ∧ part ≠ frame)
    {chunks : List (List UInt8)} (cut : chunks.flatten = frames.flatten ++ part)
    (ending : StreamEnd) :
    (feedAll (FrameDecoder.feed wire maxFrameSize) {} chunks).returned = messages ∧
      (feedAll (FrameDecoder.feed wire maxFrameSize) {} chunks).raised = none ∧
      (feedAll (FrameDecoder.feed wire maxFrameSize) {} chunks).state.buffer = part ∧
      (readMessages wire maxFrameSize ⟨chunks.flatten, ending⟩).1 = messages := by
  have starved : (frameParser wire maxFrameSize).front part = .starved := by
    rcases unfinished with rfl | ⟨further, frame, made, front, proper⟩
    · exact (frameParser wire maxFrameSize).front_nil
    · exact frontFrame_part made front proper
  have parsed := parse_frames (mapM_eq_ok_iff.mp encoded) named starved
  rw [← cut] at parsed
  have whole : ((frameParser wire maxFrameSize).parse chunks.flatten).stop = none := by
    rw [parsed]
  obtain ⟨returned, raised, kept⟩ := @ItemParser.Feeds.feedAll_of_stop_eq_none _ _ _ _ _ _ _
    (@feeds_feed wire maxFrameSize) {} (frameParser wire maxFrameSize).front_nil chunks whole
  refine ⟨returned.trans ?_, raised, kept.trans ?_, (readMessages_eq _ ending).1.trans ?_⟩
  · exact congrArg Parsed.items parsed
  · exact congrArg Parsed.rest parsed
  · exact congrArg Parsed.items parsed

/-- A message without a payload. -/
def hello : Message :=
  ⟨.ping, PyStr.ofString "east", PyStr.ofString "first", 0, 8, [], [], []⟩

theorem exists_hello_frame :
    ∃ frame, encodeFrame (.ofPortable Layout.envelope) 1024 hello = .ok frame :=
  isOk_iff.mp (by decide +kernel)

/-- A frame arrives byte by byte, and then the beginning of another one. -/
theorem hello_arrives_bytewise :
    ∃ frame, encodeFrame (.ofPortable Layout.envelope) 1024 hello = .ok frame ∧
      (feedAll (FrameDecoder.feed (.ofPortable Layout.envelope) 1024) {}
        (frame.map ([·]) ++ [[], frame.take 3])).returned = [hello] ∧
      (feedAll (FrameDecoder.feed (.ofPortable Layout.envelope) 1024) {}
        (frame.map ([·]) ++ [[], frame.take 3])).raised = none ∧
      (feedAll (FrameDecoder.feed (.ofPortable Layout.envelope) 1024) {}
        (frame.map ([·]) ++ [[], frame.take 3])).state.buffer = frame.take 3 ∧
      (readMessages (.ofPortable Layout.envelope) 1024
        ⟨(frame.map ([·]) ++ [[], frame.take 3]).flatten, .eof⟩).1 = [hello] := by
  obtain ⟨frame, encoded⟩ := exists_hello_frame
  obtain ⟨bodyLength, size, _, _⟩ := header_of_encodeFrame encoded
  have all : [hello].mapM (encodeFrame (.ofPortable Layout.envelope) 1024) = .ok [frame] :=
    mapM_eq_ok_iff.mpr (.cons encoded .nil)
  have named : ∀ message ∈ [hello], message.senderId ≠ [] ∧ message.correlationId ≠ [] := by
    decide
  have proper : frame.take 3 ≠ frame := by
    intro same
    have length := congrArg List.length same
    rw [List.length_take, size] at length
    unfold headerSize at length
    omega
  have cut : (frame.map ([·]) ++ [[], frame.take 3]).flatten = [frame].flatten ++ frame.take 3 := by
    simp [← List.flatMap_def]
  exact ⟨frame, encoded, frames_survive_chunking _ 1024 all named
    (.inr ⟨hello, frame, encoded, List.take_prefix 3 frame, proper⟩) cut .eof⟩

/-- The number of good frames at the front of some bytes. -/
def goodFrames (bytes : List UInt8) : Nat :=
  ((frameParser wire maxFrameSize).parse bytes).items.length

/-- What follows the good frames is no beginning of a good frame. -/
def malformed (bytes : List UInt8) : Bool :=
  ((frameParser wire maxFrameSize).parse bytes).stop.isSome

/-- The decoder returns the messages that `read_message` returns exactly if some chunks at the
front of the stream hold all its good frames and nothing malformed. -/
theorem feed_returns_readMessages_iff (chunks : List (List UInt8)) (ending : StreamEnd) :
    (feedAll (FrameDecoder.feed wire maxFrameSize) {} chunks).returned =
        (readMessages wire maxFrameSize ⟨chunks.flatten, ending⟩).1 ↔
      ∃ before after, chunks = before ++ after ∧
        goodFrames wire maxFrameSize before.flatten =
          goodFrames wire maxFrameSize chunks.flatten ∧
        malformed wire maxFrameSize before.flatten = false := by
  rw [(readMessages_eq chunks.flatten ending).1]
  refine (feeds_feed.feedAll_returned_iff (frameParser wire maxFrameSize).front_nil chunks).trans ?_
  unfold goodFrames malformed
  simp only [List.nil_append, Option.isSome_eq_false_iff, Option.isNone_iff_eq_none]

/-- Eight zeros are no header. -/
theorem frontFrame_zeros : ∃ error,
    (frameParser wire maxFrameSize).front (List.replicate 8 0) =
      .broken error (List.replicate 8 0) := by
  have read : ∃ error, readHeader maxFrameSize ((List.replicate 8 0).take headerSize) =
      .error error := ⟨_, rfl⟩
  obtain ⟨error, read⟩ := read
  have found : FrontFrame wire maxFrameSize _ _ := .header le_rfl error read
  exact ⟨error, found.eq⟩

/-- A frame and eight zeros arrive in one chunk: `feed` raises and returns nothing, and
`read_message` returns the message, as `feed` does when the zeros arrive later. -/
theorem one_chunk_loses_frame :
    ∃ frame, encodeFrame (.ofPortable Layout.envelope) 1024 hello = .ok frame ∧
      (feedAll (FrameDecoder.feed (.ofPortable Layout.envelope) 1024) {}
        [frame ++ List.replicate 8 0]).returned = [] ∧
      (feedAll (FrameDecoder.feed (.ofPortable Layout.envelope) 1024) {}
        [frame, List.replicate 8 0]).returned = [hello] ∧
      (readMessages (.ofPortable Layout.envelope) 1024
        ⟨frame ++ List.replicate 8 0, .eof⟩).1 = [hello] := by
  obtain ⟨frame, encoded⟩ := exists_hello_frame
  obtain ⟨error, bad⟩ := frontFrame_zeros (.ofPortable Layout.envelope) 1024
  have named : hello.senderId ≠ [] ∧ hello.correlationId ≠ [] := by decide
  have alone : (frameParser (.ofPortable Layout.envelope) 1024).parse frame =
      ⟨[hello], none, []⟩ := by
    have parsed := parse_frames (.cons encoded .nil) (List.forall_mem_singleton.mpr named)
      (frameParser (.ofPortable Layout.envelope) 1024).front_nil
    rwa [List.flatten_singleton, List.append_nil] at parsed
  have both : (frameParser (.ofPortable Layout.envelope) 1024).parse
      (frame ++ List.replicate 8 0) = ⟨[hello], some error, List.replicate 8 0⟩ := by
    rw [ItemParser.parse_append_of_stop_eq_none (congrArg Parsed.stop alone), alone]
    dsimp only
    rw [List.nil_append, ItemParser.parse_broken bad]
    rfl
  have read := (readMessages_eq (frame ++ List.replicate 8 0) .eof).1.trans
    (congrArg Parsed.items both)
  refine ⟨frame, encoded, ?_, ?_, read⟩
  · have stop := congrArg Parsed.stop both
    rw [← List.nil_append (frame ++ _)] at stop
    rw [@ItemParser.Feeds.feedAll_cons_of_stop_eq_some _ _ _ _ _ _ _ feeds_feed {} _ error stop]
  · refine ((feeds_feed.feedAll_returned_iff (frameParser _ _).front_nil
      [frame, List.replicate 8 0]).mpr ⟨[frame], [List.replicate 8 0], rfl, ?_⟩).trans ?_
    · simp only [List.nil_append, List.flatten_cons, List.flatten_nil, List.append_nil, alone, both]
      exact ⟨trivial, trivial⟩
    · simp only [List.nil_append, List.flatten_cons, List.flatten_nil, List.append_nil, both]

end Frames

end Distsys
