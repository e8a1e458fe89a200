import Thethings.Library.Frames
import Thethings.Mqtt.ConnectPacket
import Thethings.Mqtt.RoundTrip

/-!
# The packets a client can write

`Outgoing` is what one of the client's serializers is given, with all its arguments. Whatever it is,
the packet is written inside the buffer, and a sequence of packets is taken apart again by
`MQTTPacket_read` (`MQTTPacket.c` l.288).

Choices:

* The serializers are one function of `Outgoing` here, each under its name in the branch of its
  type, so that a statement is about all of them.
* `Sound` is what the format can hold: sound strings, a payload of as many bytes as it is said to
  have, and protocol version 3 or 4. Together with a remaining length below 2 ^ 28 this is all that
  is asked of what is written.
* A stream is the packets one behind the other, with any bytes behind the last one. The reader takes
  each into a buffer of its own, whose size it never looks at.

Results:

* `serialized_iff`: a packet is written exactly when it fits, but for one byte at four lengths.
* `stream_read_back`: a reader of the stream gets the packets that were written, one by one.
-/

namespace Thethings.Mqtt

open Library Library.Frames

/-- The arguments of a serializer. -/
inductive Outgoing where
  | connect (options : ConnectData)
  | publish (dup : Bool) (qos : Nat) (retained : Bool) (packetid : Nat) (topicName : MQTTString)
      (payload : Bytes) (payloadlen : Nat)
  | ack (type : MsgType) (dup : Bool) (packetid : Nat)
  | subscribe (dup : Bool) (packetid : Nat) (filters : List (MQTTString × UInt8))
  | unsubscribe (dup : Bool) (packetid : Nat) (topicFilters : List MQTTString)
  | zero (type : MsgType)

namespace Outgoing

/-- The serializer of its type, into a buffer of this length. -/
def serialize (buflen : Nat) : Outgoing → Except Int Bytes
  | .connect options => serializeConnect buflen options
  | .publish dup qos retained packetid topicName payload payloadlen =>
    serializePublish buflen dup qos retained packetid topicName payload payloadlen
  | .ack type dup packetid => serializeAck buflen type dup packetid
  | .subscribe dup packetid filters => serializeSubscribes buflen dup packetid filters
  | .unsubscribe dup packetid topicFilters =>
    serializeUnsubscribe buflen dup packetid topicFilters
  | .zero type => serializeZero buflen type

/-- The type in its header. -/
def type : Outgoing → MsgType
  | .connect _ => .CONNECT
  | .publish .. => .PUBLISH
  | .ack type _ _ => type
  | .subscribe .. => .SUBSCRIBE
  | .unsubscribe .. => .UNSUBSCRIBE
  | .zero type => type

/-- The length that the serializer computes. -/
def remLen : Outgoing → Nat
  | .connect options => connectLength options
  | .publish _ qos _ _ topicName _ payloadlen => publishLength qos topicName payloadlen
  | .ack .. => 2
  | .subscribe _ _ filters => subscribeLength (filters.map Prod.fst)
  | .unsubscribe _ _ topicFilters => unsubscribeLength topicFilters
  | .zero _ => 0

/-- Sound strings, a payload as long as it is said to be, and one of the two versions. -/
def Sound : Outgoing → Prop
  | .connect options => options.Sound ∧ (options.version = 3 ∨ options.version = 4)
  | .publish _ _ _ _ topicName payload payloadlen =>
    topicName.Sound ∧ payloadlen ≤ payload.length
  | .ack .. => True
  | .subscribe _ _ filters => ∀ f ∈ filters, f.1.Sound
  | .unsubscribe _ _ topicFilters => ∀ f ∈ topicFilters, f.Sound
  | .zero _ => True

/-- The size of the packet. -/
def size (o : Outgoing) : Nat := 1 + (packetEncode o.remLen).length + o.remLen

/-- What follows the fixed header. -/
def body : Outgoing → Bytes
  | .connect options => protocolText options ++ fieldsText options
  | .publish _ qos _ packetid topicName payload payloadlen =>
    topicName.write ++ (if 0 < qos then writeInt packetid else []) ++ payload.take payloadlen
  | .ack _ _ packetid => writeInt packetid
  | .subscribe _ packetid filters =>
    writeInt packetid ++ filters.flatMap fun f => f.1.write ++ [f.2]
  | .unsubscribe _ packetid topicFilters =>
    writeInt packetid ++ topicFilters.flatMap MQTTString.write
  | .zero _ => []

/-- The first byte. -/
def first : Outgoing → UInt8
  | .connect _ => header .CONNECT false 0 false
  | .publish dup qos retained _ _ _ _ => header .PUBLISH dup qos retained
  | .ack type dup _ => header type dup 0 false
  | .subscribe dup _ _ => header .SUBSCRIBE dup 1 false
  | .unsubscribe dup _ _ => header .UNSUBSCRIBE dup 1 false
  | .zero type => header type false 0 false

/-- The packet. -/
def bytes (o : Outgoing) : Bytes := o.first :: (packetEncode o.remLen ++ o.body)

theorem serialize_eq (buflen : Nat) (o : Outgoing) :
    o.serialize buflen = Mqtt.serialize buflen o.first o.remLen o.body := by
  cases o with
  | connect options => exact serializeConnect_eq buflen options
  | _ => rfl

theorem serialize_of_fits {o : Outgoing} {buflen : Nat} (h : packetLen o.remLen ≤ buflen) :
    o.serialize buflen = .ok o.bytes := by
  rw [serialize_eq, Mqtt.serialize, if_neg (Nat.not_lt_of_le h), bytes]

theorem bytes_of_serialize {o : Outgoing} {buflen : Nat} {packet : Bytes}
    (h : o.serialize buflen = .ok packet) : packet = o.bytes := by
  rw [serialize_eq, Mqtt.serialize] at h
  split_ifs at h
  exact (Except.ok.inj h).symm

theorem headerType_first (o : Outgoing) : headerType o.first = o.type.code := by
  cases o <;> exact headerType_header _ _ _ _

end Outgoing

/-- The length of a CONNECT is right for the two versions; for any other it is 12 bytes short. -/
theorem length_connect {options : ConnectData} (h : options.Sound) :
    (protocolText options ++ fieldsText options).length =
      connectLength options +
        if options.version = 3 ∨ options.version = 4 then 0 else 12 := by
  have h4 : (writeCString (ascii "MQTT") ++ [4]).length = 7 := by decide
  have h3 : (writeCString (ascii "MQIsdp") ++ [3]).length = 9 := by decide
  have hprotocol : (protocolText options).length = if options.version = 4 then 7 else 9 := by
    unfold protocolText
    split_ifs
    · exact h4
    · exact h3
  have hwill : (willText options).length = if options.willFlag then
      options.will.topicName.strlen + 2 + (options.will.message.strlen + 2) else 0 := by
    unfold willText
    split_ifs
    · rw [List.length_append, h.topicName.length_write, h.message.length_write]
      omega
    · rfl
  have husername : (usernameText options).length =
      if options.username.present then options.username.strlen + 2 else 0 := by
    unfold usernameText
    split_ifs
    · rw [h.username.length_write]
      omega
    · rfl
  have hpassword : (passwordText options).length =
      if options.password.present then options.password.strlen + 2 else 0 := by
    unfold passwordText
    split_ifs
    · rw [h.password.length_write]
      omega
    · rfl
  simp only [fieldsText, List.length_append, List.length_cons, length_writeInt, hprotocol, hwill,
    husername, hpassword, h.clientID.length_write, connectLength]
  by_cases hversion3 : options.version = 3
  · simp only [hversion3, true_or, if_true, Nat.reduceEqDiff, if_false]
    omega
  · by_cases hversion4 : options.version = 4
    · simp only [hversion4, or_true, if_true, Nat.reduceEqDiff, if_false]
      omega
    · simp only [hversion3, hversion4, or_self, if_false]
      omega

namespace Outgoing

theorem length_body {o : Outgoing} (h : o.Sound) : o.body.length = o.remLen := by
  cases o with
  | connect options =>
    have hlen := length_connect h.1
    rwa [if_pos h.2] at hlen
  | publish dup qos retained packetid topicName payload payloadlen =>
    rw [body, remLen, publishLength, List.length_append, List.length_append, h.1.length_write,
      List.length_take, Nat.min_eq_left h.2]
    split_ifs
    · rw [length_writeInt]
      omega
    · rw [List.length_nil]
      omega
  | ack type dup packetid => rfl
  | subscribe dup packetid filters =>
    rw [body, remLen, ← length_filters h, List.length_append, length_writeInt, Nat.add_comm]
  | unsubscribe dup packetid topicFilters =>
    rw [body, remLen, ← length_topics h, List.length_append, length_writeInt, Nat.add_comm]
  | zero type => rfl

/-- **A packet that is written is a frame** of its type, inside the buffer. -/
theorem frame {o : Outgoing} {buflen : Nat} {packet : Bytes} (h : o.Sound)
    (hshort : o.remLen < 2 ^ 28) (hpacket : o.serialize buflen = .ok packet) :
    ∃ f : Frame, f.bytes = packet ∧ headerType f.first = o.type.code ∧
      f.body.length = o.remLen ∧ packetLen o.remLen ≤ buflen := by
  rw [serialize_eq] at hpacket
  obtain ⟨f, hfirst, hbody, rfl, hfits⟩ := serialize_frame hpacket (length_body h) hshort
  have hlen : f.body.length = o.remLen := by rw [hbody, length_body h]
  exact ⟨f, rfl, by rw [hfirst, headerType_first], hlen, hlen ▸ hfits⟩

/-- **A packet is written exactly when it fits the buffer**, but for one byte at four lengths; and
it is as long as was computed, so that nothing is written behind the buffer. -/
theorem serialized_iff (o : Outgoing) (buflen : Nat) (h : o.Sound) (hshort : o.remLen < 2 ^ 28) :
    ((∃ packet, o.serialize buflen = .ok packet) ↔
      o.size < buflen ∨ o.size = buflen ∧ o.remLen ∉ [127, 16383, 2097150, 2097151]) ∧
    ∀ packet, o.serialize buflen = .ok packet →
      packet.length = o.size ∧ packet.length ≤ buflen := by
  have hfits : packetLen o.remLen ≤ buflen ↔
      o.size < buflen ∨ o.size = buflen ∧ o.remLen ∉ [127, 16383, 2097150, 2097151] := by
    have hframe := Frame.packetLen_le_iff ⟨o.first, o.body, by rwa [length_body h]⟩ buflen
    rw [Frame.length_bytes] at hframe
    simp only [length_body h] at hframe
    exact hframe
  have hok : (∃ packet, o.serialize buflen = .ok packet) ↔ packetLen o.remLen ≤ buflen := by
    simp only [serialize_eq]
    exact serialize_ok_iff
  refine ⟨hok.trans hfits, fun packet hpacket => ?_⟩
  obtain ⟨f, rfl, -, hlen, hle⟩ := frame h hshort hpacket
  have hsize : f.bytes.length = o.size := by rw [f.length_bytes, hlen, size]
  refine ⟨hsize, ?_⟩
  rw [hsize]
  rcases hfits.mp hle with hlt | ⟨heq, -⟩
  · exact le_of_lt hlt
  · exact le_of_eq heq

/-- A packet of 129 bytes. -/
def filling : Outgoing :=
  .publish false 0 false 0 (.ofCString (ascii "t")) (List.replicate 124 0) 124

/-- It does not go into a buffer of its own size. -/
theorem serialized_iff_filling :
    (¬ ∃ packet, filling.serialize 129 = .ok packet) ∧
      ∃ packet, filling.serialize 130 = .ok packet := by
  have hsize : filling.size = 129 ∧ filling.remLen = 127 := by decide
  have hshort : filling.remLen < 2 ^ 28 := by
    rw [hsize.2]
    decide
  have hsound : filling.Sound :=
    ⟨MQTTString.sound_ofCString (by decide), le_of_eq List.length_replicate.symm⟩
  constructor
  · rw [(serialized_iff filling 129 hsound hshort).1, hsize.1, hsize.2]
    decide
  · rw [(serialized_iff filling 130 hsound hshort).1, hsize.1, hsize.2]
    decide

end Outgoing

/-! ## A stream of packets -/

theorem decodeFrom_of_decode {k : Nat} {s rest : Bytes} {n : Nat}
    (h : Varint.decode k s = some (n, rest)) (multiplier : Nat) :
    decodeFrom k multiplier s = (n * multiplier, rest) := by
  induction k generalizing s n multiplier with
  | zero => exact absurd h (by simp [Varint.decode])
  | succ k ih =>
    cases s with
    | nil => exact absurd h (by simp [Varint.decode])
    | cons b s =>
      rw [Varint.decode] at h
      rw [decodeFrom]
      split_ifs at h ⊢ with hb
      · obtain ⟨rfl, rfl⟩ := Prod.mk.inj (Option.some.inj h)
        rfl
      · obtain ⟨⟨n', rest'⟩, hn', he⟩ := Option.map_eq_some_iff.mp h
        obtain ⟨rfl, rfl⟩ := Prod.mk.inj he
        rw [ih hn' (multiplier * 128)]
        simp only [Prod.mk.injEq, and_true]
        ring

theorem decodeFrom_encode {n : Nat} (hn : n < 2 ^ 28) (behind : Bytes) :
    decodeFrom 4 1 (packetEncode n ++ behind) = (n, behind) := by
  rw [packetEncode_eq (lt_trans hn (by decide)),
    decodeFrom_of_decode (Varint.decode_encode (k := 3) hn behind), Nat.mul_one]

/-- **`MQTTPacket_read` takes one frame** off the front of a stream. -/
theorem packetRead_bytes (f : Frame) (rest : Bytes) :
    packetRead (f.bytes ++ rest) = ((headerType f.first : Int), f.bytes, rest) := by
  have hdecode := decodeFrom_encode f.short (f.body ++ rest)
  have hroom : ¬ (f.body ++ rest).length < f.body.length := by
    rw [List.length_append]
    omega
  rw [Frame.bytes, List.cons_append, List.append_assoc, packetRead, hdecode]
  simp only [if_neg hroom, List.take_left, List.drop_left]

/-- The packet at the front of a stream. -/
def readPacket (stream : Bytes) : Option (Bytes × Bytes) :=
  match packetRead stream with
  | (rc, packet, rest) => if rc < 0 then none else some (packet, rest)

theorem readsBack_frames :
    ReadsBack (fun packet => ∃ f : Frame, f.bytes = packet) id readPacket := by
  rintro packet rest ⟨f, rfl⟩
  rw [readPacket, id, packetRead_bytes]
  simp only
  rw [if_neg (by omega)]

/-- **A stream of written packets is taken apart into them**, whatever follows. -/
theorem stream_read_back (buflen : Nat) (outs : List Outgoing) (packets : List Bytes)
    (rest : Bytes) (h : List.Forall₂ (fun o packet =>
      o.Sound ∧ o.remLen < 2 ^ 28 ∧ o.serialize buflen = .ok packet) outs packets) :
    readMany readPacket packets.length (packets.flatten ++ rest) = (packets, rest) ∧
      packets.map packetType = outs.map fun o => o.type.code := by
  have hframes : (∀ packet ∈ packets, ∃ f : Frame, f.bytes = packet) ∧
      packets.map packetType = outs.map fun o => o.type.code := by
    induction h with
    | nil => exact ⟨fun _ hm => absurd hm List.not_mem_nil, rfl⟩
    | cons hpacket _ ih =>
      obtain ⟨hsound, hshort, hok⟩ := hpacket
      obtain ⟨f, rfl, htype, -, -⟩ := Outgoing.frame hsound hshort hok
      exact ⟨List.forall_mem_cons.mpr ⟨⟨f, rfl⟩, ih.1⟩,
        List.cons_eq_cons.mpr ⟨htype, ih.2⟩⟩
  have hread := readMany_write readsBack_frames hframes.1 rest
  rw [List.flatMap_id] at hread
  exact ⟨hread, hframes.2⟩

/-- A PUBACK and a PINGREQ. -/
theorem stream_read_back_two :
    readMany readPacket 2 ([[64, 2, 0, 7], [192, 0]].flatten ++ [224]) =
      ([[64, 2, 0, 7], [192, 0]], [224]) :=
  (stream_read_back 100 [.ack .PUBACK false 7, .zero .PINGREQ] [[64, 2, 0, 7], [192, 0]] [224]
    (.cons ⟨trivial, by decide, by decide⟩ (.cons ⟨trivial, by decide, by decide⟩ .nil))).1

end Thethings.Mqtt
