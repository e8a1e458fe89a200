import Thethings.Mqtt.Broker
import Thethings.Mqtt.Wire

/-!
# What one side writes the other reads

The serializers of `MQTTPacket` against its deserializers, with any bytes behind the packet in the
buffer: each packet is read back with its fields, whatever they are. The pairs are PUBLISH
(`MQTTSerializePublish.c` and `MQTTDeserializePublish.c`), SUBSCRIBE and UNSUBSCRIBE (the client's
file and the server's), the acknowledgements, and the broker's replies to the client.

Choices:

* What is asked is what the format can hold: 16 bits for a packet id, sound strings, a remaining
  length below 2 ^ 28, one byte for a code.
* A string that was given as a C string is read back as a counted one, with the same bytes. An id
  that is not sent is not read either (`publishId`).
* A list of filters may have any length. The reader's loop takes at least a byte with each round, so
  the number of bytes is fuel enough.
* A packet is what `serialize` answers with, or what a broker's serializer writes; both come as a
  `Frame`.

Results:

* `publish_read_back`, `subscribe_read_back`, `unsubscribe_read_back`, `ack_read_back`.
* `suback_read_back`, and `reply_overruns_iff`: the broker's replies do not count their header when
  they check the buffer.
* `wrapped_ack_reads_zero`: the wrappers of `MQTTSerialize_ack` write another packet id.
-/

namespace Thethings.Mqtt

open Library

/-! ## The header -/

theorem toNat_header {type : MsgType} {dup retain : Bool} {qos : Nat} (hqos : qos < 4) :
    (header type dup qos retain).toNat =
      type.code * 16 + dup.toNat * 8 + qos * 2 + retain.toNat := by
  have hcode : type.code < 16 := by cases type <;> decide
  have hdup : dup.toNat < 2 := Bool.toNat_lt dup
  have hretain : retain.toNat < 2 := Bool.toNat_lt retain
  rw [header, Nat.mod_eq_of_lt hqos, Nat.toUInt8_eq, UInt8.toNat_ofNat']
  omega

theorem headerDup_header (type : MsgType) (dup : Bool) {qos : Nat} (hqos : qos < 4)
    (retain : Bool) : headerDup (header type dup qos retain) = dup := by
  have hretain : retain.toNat < 2 := Bool.toNat_lt retain
  rw [headerDup, toNat_header hqos]
  cases dup <;> simp only [Bool.toNat_true, Bool.toNat_false, beq_iff_eq, beq_eq_false_iff_ne] <;>
    omega

theorem headerQos_header (type : MsgType) (dup : Bool) {qos : Nat} (hqos : qos < 4)
    (retain : Bool) : headerQos (header type dup qos retain) = qos := by
  have hretain : retain.toNat < 2 := Bool.toNat_lt retain
  rw [headerQos, toNat_header hqos]
  omega

theorem headerRetain_header (type : MsgType) (dup : Bool) {qos : Nat} (hqos : qos < 4)
    (retain : Bool) : headerRetain (header type dup qos retain) = retain := by
  rw [headerRetain, toNat_header hqos]
  cases retain <;>
    simp only [Bool.toNat_true, Bool.toNat_false, beq_iff_eq, beq_eq_false_iff_ne] <;> omega

/-! ## Publish -/

/-- The packet id of a message with a QoS above 0. -/
def publishId (qos packetid : Nat) : Option Nat := if 0 < qos then some packetid else none

theorem publish_frame {buflen qos packetid payloadlen : Nat} {dup retained : Bool}
    {topicName : MQTTString} {payload packet : Bytes}
    (h : serializePublish buflen dup qos retained packetid topicName payload payloadlen =
      .ok packet)
    (htopic : topicName.Sound) (hlen : payloadlen ≤ payload.length)
    (hshort : publishLength qos topicName payloadlen < 2 ^ 28) :
    ∃ f : Frame, f.first = header .PUBLISH dup qos retained ∧
      f.body = topicName.write ++ (if 0 < qos then writeInt packetid else []) ++
        payload.take payloadlen ∧
      packet = f.bytes ∧ packetLen f.body.length ≤ buflen := by
  refine serialize_frame h ?_ hshort
  rw [publishLength, List.length_append, List.length_append, htopic.length_write,
    List.length_take, Nat.min_eq_left hlen]
  split_ifs
  · rw [length_writeInt]
    omega
  · rw [List.length_nil]
    omega

/-- **A published message is read back**: the flags, the packet id where there is one, the topic as
a counted string, and the payload with its length. -/
theorem publish_read_back (buflen qos packetid payloadlen : Nat) (dup retained : Bool)
    (topicName : MQTTString) (payload packet rest : Bytes)
    (h : serializePublish buflen dup qos retained packetid topicName payload payloadlen =
      .ok packet)
    (htopic : topicName.Sound) (hqos : qos < 4) (hid : packetid < 65536)
    (hlen : payloadlen ≤ payload.length)
    (hshort : publishLength qos topicName payloadlen < 2 ^ 28) :
    deserializePublish (packet ++ rest) =
      (1, some ⟨dup, qos, retained, publishId qos packetid, .counted topicName.text,
        some (payload.take payloadlen ++ rest, payloadlen)⟩) := by
  obtain ⟨f, hfirst, hbody, rfl, -⟩ := publish_frame h htopic hlen hshort
  have hhead : (f.bytes ++ rest).headD 0 = header .PUBLISH dup qos retained := hfirst
  have hpayload : (payload.take payloadlen).length = payloadlen := by
    rw [List.length_take, Nat.min_eq_left hlen]
  have hbodylen := congrArg List.length hbody
  rw [List.length_append, List.length_append, htopic.length_write, htopic.strlen, hpayload]
    at hbodylen
  have happend : f.body ++ rest = topicName.write ++
      ((if 0 < qos then writeInt packetid else []) ++ (payload.take payloadlen ++ rest)) := by
    rw [hbody, List.append_assoc, List.append_assoc]
  have hfits : 2 + topicName.text.length ≤ f.body.length := by omega
  have hread := readLenString_write htopic
    ((if 0 < qos then writeInt packetid else []) ++ (payload.take payloadlen ++ rest)) hfits
  rw [deserializePublish, hhead, headerType_header, f.openPacket_bytes, happend]
  simp only [ne_eq, not_true_eq_false, if_false, hread, headerDup_header _ _ hqos,
    headerQos_header _ _ hqos, headerRetain_header _ _ hqos, publishId]
  split_ifs at hbodylen ⊢ with hpos
  · rw [readInt_writeInt hid]
    rw [length_writeInt] at hbodylen
    simp only [Prod.mk.injEq, Option.some.injEq, true_and, Published.mk.injEq]
    omega
  · rw [List.length_nil] at hbodylen
    simp only [List.nil_append, Prod.mk.injEq, Option.some.injEq, true_and, Published.mk.injEq]
    omega

/-! ## Acknowledgements -/

theorem ack_frame {buflen packetid : Nat} {type : MsgType} {dup : Bool} {packet : Bytes}
    (h : serializeAck buflen type dup packetid = .ok packet) :
    ∃ f : Frame, f.first = header type dup 0 false ∧ f.body = writeInt packetid ∧
      packet = f.bytes ∧ packetLen f.body.length ≤ buflen :=
  serialize_frame h rfl (by decide)

/-- **An acknowledgement is read back** with its type, its dup flag and its packet id. -/
theorem ack_read_back (buflen packetid : Nat) (type : MsgType) (dup : Bool) (packet rest : Bytes)
    (h : serializeAck buflen type dup packetid = .ok packet) (hid : packetid < 65536) :
    deserializeAck (packet ++ rest) = (1, some packetid) ∧
      packetType (packet ++ rest) = type.code ∧ headerDup ((packet ++ rest).headD 0) = dup := by
  obtain ⟨f, hfirst, hbody, rfl, -⟩ := ack_frame h
  have hlen : f.body.length = 2 := by rw [hbody, length_writeInt]
  refine ⟨?_, ?_, ?_⟩
  · rw [deserializeAck, f.openPacket_bytes, hlen, hbody]
    simp only [lt_irrefl, if_false, readInt_writeInt hid]
  · rw [f.packetType_bytes, hfirst, headerType_header]
  · have hhead : (f.bytes ++ rest).headD 0 = header type dup 0 false := hfirst
    rw [hhead, headerDup_header type dup (by decide) false]

/-- **The wrappers of `MQTTSerialize_ack` acknowledge another packet**: 0, or the dup flag. -/
theorem wrapped_ack_reads_zero (buflen packetid : Nat) (dup : Bool) (packet rest : Bytes) :
    (serializePuback buflen packetid = .ok packet →
      deserializeAck (packet ++ rest) = (1, some 0)) ∧
    (serializePubrel buflen dup packetid = .ok packet →
      deserializeAck (packet ++ rest) = (1, some dup.toNat)) ∧
    (serializePubcomp buflen packetid = .ok packet →
      deserializeAck (packet ++ rest) = (1, some 0)) := by
  refine ⟨fun h => ?_, fun h => ?_, fun h => ?_⟩
  · exact (ack_read_back _ _ _ _ _ rest h (by decide)).1
  · exact (ack_read_back _ _ _ _ _ rest h (lt_trans (Bool.toNat_lt dup) (by decide))).1
  · exact (ack_read_back _ _ _ _ _ rest h (by decide)).1

/-! ## Lists of topic filters -/

theorem length_filters {filters : List (MQTTString × UInt8)} (h : ∀ f ∈ filters, f.1.Sound) :
    (filters.flatMap fun f => f.1.write ++ [f.2]).length + 2 =
      subscribeLength (filters.map Prod.fst) := by
  induction filters with
  | nil => rfl
  | cons f filters ih =>
    rw [List.forall_mem_cons] at h
    have ih' := ih h.2
    simp only [subscribeLength, List.map_cons, List.sum_cons, List.flatMap_cons, List.length_append,
      h.1.length_write, List.length_singleton] at ih' ⊢
    omega

theorem length_topics {filters : List MQTTString} (h : ∀ f ∈ filters, f.Sound) :
    (filters.flatMap MQTTString.write).length + 2 = unsubscribeLength filters := by
  induction filters with
  | nil => rfl
  | cons f filters ih =>
    rw [List.forall_mem_cons] at h
    have ih' := ih h.2
    simp only [unsubscribeLength, List.map_cons, List.sum_cons, List.flatMap_cons,
      List.length_append, h.1.length_write] at ih' ⊢
    omega

/-- The loop reads the filters that were written, in as many rounds. -/
theorem readFilters_write {filters : List (MQTTString × UInt8)} (h : ∀ f ∈ filters, f.1.Sound)
    (rest : Bytes) {k : Nat} (hk : filters.length ≤ k) :
    readFilters k ((filters.flatMap fun f => f.1.write ++ [f.2]) ++ rest)
        (filters.flatMap fun f => f.1.write ++ [f.2]).length =
      (true, filters.map fun f => (.counted f.1.text, f.2)) := by
  induction filters generalizing k with
  | nil => cases k <;> simp [readFilters]
  | cons f filters ih =>
    rw [List.forall_mem_cons] at h
    cases k with
    | zero => exact absurd hk (by simp)
    | succ k =>
      have ih' := ih h.2 (Nat.le_of_succ_le_succ hk)
      set later := filters.flatMap fun f => f.1.write ++ [f.2] with hlater
      have hlen : f.1.write.length = 2 + f.1.text.length := by
        rw [h.1.length_write, h.1.strlen]
      have hleft : (f.1.write ++ [f.2] ++ later).length =
          2 + f.1.text.length + (1 + later.length) := by
        simp only [List.length_append, hlen, List.length_singleton]
        omega
      have hread := readLenString_write h.1 (f.2 :: (later ++ rest))
        (show 2 + f.1.text.length ≤ 2 + f.1.text.length + (1 + later.length) by omega)
      have happend : f.1.write ++ [f.2] ++ later ++ rest =
          f.1.write ++ f.2 :: (later ++ rest) := by simp
      rw [List.flatMap_cons, ← hlater, hleft, happend, readFilters, if_neg (by omega), hread]
      simp only [Nat.add_sub_cancel_left, List.tail_cons, List.headD_cons, List.map_cons]
      rw [if_neg (by omega), ih']

theorem readTopics_write {filters : List MQTTString} (h : ∀ f ∈ filters, f.Sound) (rest : Bytes)
    {k : Nat} (hk : filters.length ≤ k) :
    readTopics k (filters.flatMap MQTTString.write ++ rest)
        (filters.flatMap MQTTString.write).length =
      (true, filters.map fun f => .counted f.text) := by
  induction filters generalizing k with
  | nil => cases k <;> simp [readTopics]
  | cons f filters ih =>
    rw [List.forall_mem_cons] at h
    cases k with
    | zero => exact absurd hk (by simp)
    | succ k =>
      have ih' := ih h.2 (Nat.le_of_succ_le_succ hk)
      set later := filters.flatMap MQTTString.write with hlater
      have hleft : (f.write ++ later).length = 2 + f.text.length + later.length := by
        rw [List.length_append, h.1.length_write, h.1.strlen]
      have hread := readLenString_write h.1 (later ++ rest)
        (show 2 + f.text.length ≤ 2 + f.text.length + later.length by omega)
      rw [List.flatMap_cons, ← hlater, hleft, List.append_assoc, readTopics, if_neg (by omega),
        hread]
      simp only [Nat.add_sub_cancel_left, List.map_cons, ih']

theorem length_le_flatMap {α : Type} {g : α → Bytes} (hne : ∀ a, g a ≠ []) (as : List α) :
    as.length ≤ (as.flatMap g).length := by
  induction as with
  | nil => exact le_refl _
  | cons a as ih =>
    have hpos := List.length_pos_iff.mpr (hne a)
    rw [List.flatMap_cons, List.length_append, List.length_cons]
    omega

theorem write_ne_nil (s : MQTTString) : s.write ≠ [] := by
  unfold MQTTString.write
  split_ifs
  · simp [writeInt]
  · cases s.cstring <;> simp [writeCString, writeInt]

/-- **A subscription is read back** with all its filters. -/
theorem subscribe_read_back (buflen packetid : Nat) (dup : Bool)
    (filters : List (MQTTString × UInt8)) (packet rest : Bytes)
    (h : serializeSubscribes buflen dup packetid filters = .ok packet)
    (hsound : ∀ f ∈ filters, f.1.Sound) (hid : packetid < 65536)
    (hshort : subscribeLength (filters.map Prod.fst) < 2 ^ 28) :
    deserializeSubscribe (packet ++ rest) =
      (1, some ⟨dup, packetid, filters.map fun f => (.counted f.1.text, f.2)⟩) := by
  have hlen := length_filters hsound
  have hcount := length_le_flatMap (g := fun f : MQTTString × UInt8 => f.1.write ++ [f.2])
    (fun f => List.append_ne_nil_of_right_ne_nil _ (List.cons_ne_nil _ _)) filters
  obtain ⟨f, hfirst, hbody, rfl, -⟩ :=
    serialize_frame h (by rw [List.length_append, length_writeInt]; omega) hshort
  have hhead : (f.bytes ++ rest).headD 0 = header .SUBSCRIBE dup 1 false := hfirst
  have hbodylen : f.body.length =
      2 + (filters.flatMap fun f => f.1.write ++ [f.2]).length := by
    rw [hbody, List.length_append, length_writeInt]
  rw [deserializeSubscribe, hhead, headerType_header, f.openPacket_bytes, hbodylen, hbody,
    headerDup_header _ _ (by decide)]
  simp only [ne_eq, not_true_eq_false, if_false, List.append_assoc, readInt_writeInt hid,
    Nat.add_sub_cancel_left]
  rw [readFilters_write hsound rest (by omega)]
  rfl

theorem sound_two : (MQTTString.ofCString (ascii "a")).Sound ∧ (MQTTString.ofCString []).Sound :=
  ⟨MQTTString.sound_ofCString (by decide), MQTTString.sound_ofCString (by decide)⟩

/-- A filter, and an empty one. -/
theorem subscribe_read_back_two :
    deserializeSubscribe ([130, 9, 0, 7, 0, 1, 97, 1, 0, 0, 2] ++ [192, 0]) =
      (1, some ⟨false, 7, [(.counted (ascii "a"), 1), (.counted [], 2)]⟩) :=
  subscribe_read_back 100 7 false [(.ofCString (ascii "a"), 1), (.ofCString [], 2)]
    [130, 9, 0, 7, 0, 1, 97, 1, 0, 0, 2] [192, 0] (by decide) (by simpa using sound_two)
    (by decide) (by decide)

/-- **An unsubscription is read back** with all its filters. -/
theorem unsubscribe_read_back (buflen packetid : Nat) (dup : Bool) (filters : List MQTTString)
    (packet rest : Bytes) (h : serializeUnsubscribe buflen dup packetid filters = .ok packet)
    (hsound : ∀ f ∈ filters, f.Sound) (hid : packetid < 65536)
    (hshort : unsubscribeLength filters < 2 ^ 28) :
    deserializeUnsubscribe (packet ++ rest) =
      (1, some ⟨dup, packetid, filters.map fun f => .counted f.text⟩) := by
  have hlen := length_topics hsound
  have hcount := length_le_flatMap write_ne_nil filters
  obtain ⟨f, hfirst, hbody, rfl, -⟩ :=
    serialize_frame h (by rw [List.length_append, length_writeInt]; omega) hshort
  have hhead : (f.bytes ++ rest).headD 0 = header .UNSUBSCRIBE dup 1 false := hfirst
  have hbodylen : f.body.length = 2 + (filters.flatMap MQTTString.write).length := by
    rw [hbody, List.length_append, length_writeInt]
  rw [deserializeUnsubscribe, hhead, headerType_header, f.openPacket_bytes, hbodylen, hbody,
    headerDup_header _ _ (by decide)]
  simp only [ne_eq, not_true_eq_false, if_false, List.append_assoc, readInt_writeInt hid,
    Nat.add_sub_cancel_left]
  rw [readTopics_write hsound rest (by omega)]
  rfl

theorem unsubscribe_read_back_two :
    deserializeUnsubscribe ([162, 7, 0, 7, 0, 1, 97, 0, 0] ++ [192, 0]) =
      (1, some ⟨false, 7, [.counted (ascii "a"), .counted []]⟩) :=
  unsubscribe_read_back 100 7 false [.ofCString (ascii "a"), .ofCString []]
    [162, 7, 0, 7, 0, 1, 97, 0, 0] [192, 0] (by decide) (by simpa using sound_two) (by decide)
    (by decide)

/-! ## The broker's replies -/

theorem serializeReply_frame {buflen need : Nat} {type : MsgType} {rest packet : Bytes}
    (h : serializeReply buflen need type rest = .ok packet) (hshort : rest.length < 2 ^ 28) :
    ∃ f : Frame, f.first = header type false 0 false ∧ f.body = rest ∧ packet = f.bytes := by
  unfold serializeReply at h
  split_ifs at h
  cases h
  exact ⟨⟨_, rest, hshort⟩, rfl, rfl, rfl⟩

/-- **When a reply is written behind the end of its buffer.** -/
theorem reply_overruns_iff (buflen need : Nat) (type : MsgType) (rest : Bytes) :
    (∃ packet, serializeReply buflen need type rest = .ok packet ∧ buflen < packet.length) ↔
      need ≤ buflen ∧ buflen < 1 + (packetEncode rest.length).length + rest.length := by
  have hlen : ∀ first : UInt8, (first :: (packetEncode rest.length ++ rest)).length =
      1 + (packetEncode rest.length).length + rest.length := fun first => by
    rw [List.length_cons, List.length_append, Nat.add_comm, Nat.add_assoc]
  unfold serializeReply
  split_ifs with hneed
  · exact ⟨fun ⟨_, hpacket, _⟩ => absurd hpacket (by simp), fun hfits => absurd hfits.1 (by omega)⟩
  · constructor
    · rintro ⟨packet, hpacket, hlt⟩
      rw [← Except.ok.inj hpacket, hlen] at hlt
      exact ⟨Nat.le_of_not_lt hneed, hlt⟩
    · rintro ⟨-, hlt⟩
      exact ⟨_, rfl, by rwa [hlen]⟩

example : (∃ packet, serializeConnack 2 0 false = .ok packet ∧ 2 < packet.length) :=
  ⟨[32, 2, 0, 0], by decide⟩

theorem connack_read_back {buflen : Nat} {connackRc : UInt8} {sessionPresent : Bool}
    {packet : Bytes} (h : serializeConnack buflen connackRc sessionPresent = .ok packet)
    (rest : Bytes) :
    deserializeConnackFlags (packet ++ rest) = (1, some (sessionPresent, connackRc)) := by
  obtain ⟨f, hfirst, hbody, rfl⟩ := serializeReply_frame h (by simp)
  have hhead : (f.bytes ++ rest).headD 0 = header .CONNACK false 0 false := hfirst
  rw [deserializeConnackFlags, hhead, headerType_header, f.openPacket_bytes, hbody]
  cases sessionPresent <;> simp [connackFlags]

theorem unsuback_read_back {buflen packetid : Nat} {packet : Bytes}
    (h : serializeUnsuback buflen packetid = .ok packet) (hid : packetid < 65536) (rest : Bytes) :
    deserializeUnsuback (packet ++ rest) = (1, some packetid) := by
  obtain ⟨f, hfirst, hbody, rfl⟩ := serializeReply_frame h (by simp [writeInt])
  have hhead : (f.bytes ++ rest).headD 0 = header .UNSUBACK false 0 false := hfirst
  rw [deserializeUnsuback, deserializeAck, hhead, headerType_header, f.openPacket_bytes, hbody]
  simp only [length_writeInt, lt_irrefl, if_false, readInt_writeInt hid, if_true]

theorem suback_read_back {buflen packetid : Nat} {grantedQoSs packet : Bytes}
    (h : serializeSuback buflen packetid grantedQoSs = .ok packet) (hid : packetid < 65536)
    (hshort : 2 + grantedQoSs.length < 2 ^ 28) (maxcount : Nat) (rest : Bytes) :
    subackPacketid (packet ++ rest) = some packetid ∧
      deserializeSuback maxcount (packet ++ rest) =
        if grantedQoSs.length ≤ maxcount + 1 then (1, grantedQoSs)
        else (-1, grantedQoSs.take (maxcount + 1)) := by
  have hlen : (writeInt packetid ++ grantedQoSs).length = 2 + grantedQoSs.length := by
    rw [List.length_append, length_writeInt]
  obtain ⟨f, hfirst, hbody, rfl⟩ := serializeReply_frame h (by omega)
  have hhead : (f.bytes ++ rest).headD 0 = header .SUBACK false 0 false := hfirst
  have hgranted : (writeInt packetid ++ grantedQoSs).drop 2 = grantedQoSs := rfl
  rw [subackPacketid, deserializeSuback, hhead, headerType_header, f.openPacket_bytes, hbody, hlen]
  simp only [ne_eq, not_true_eq_false, if_false, List.append_assoc, readInt_writeInt hid]
  rw [if_neg (by omega), if_neg (by omega), ← List.append_assoc, ← hlen, List.take_left, hgranted]
  refine ⟨rfl, ?_⟩
  by_cases hroom : grantedQoSs.length ≤ maxcount + 1
  · rw [if_neg (by omega), if_pos hroom]
  · rw [if_pos (by omega), if_neg hroom]

end Thethings.Mqtt
