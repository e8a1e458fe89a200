import Mathlib.Algebra.Ring.Nat
import Thethings.Mqtt.Packet

/-!
# The other packets of `MQTTPacket`

The functions of `MQTTPacket` that the client program has no use for: what a broker reads and writes
(`MQTTConnectServer.c` l.30-147, `MQTTSubscribeServer.c` l.35-110, `MQTTUnsubscribeServer.c`
l.34-100), the packets of an unsubscription (`MQTTUnsubscribeClient.c` l.28-104), the wrappers of
`MQTTSerialize_ack` (`MQTTSerializePublish.c` l.136-168), and `MQTTPacket_read` (`MQTTPacket.c`
l.288).

Choices:

* The broker's serializers check the size of the buffer against 2 where they write 4 bytes and more.
  They are written as they are, and a packet may be longer than its buffer.
* The deserializers read packet ids and single bytes without a look at the length; behind the end of
  the buffer stand zeros here, as in `Packet`.
* The arrays that `MQTTDeserialize_subscribe` and `MQTTDeserialize_unsubscribe` fill are not bounded
  by their `maxcount`, which is left out; what they would hold is a list.
* `MQTTDeserialize_connect` writes into options that are there already: a field it does not reach
  stays, and a string replaces the counted form only.
* The bit fields of `MQTTConnackFlags` are laid out from the lowest bit up, so the session flag,
  which is declared last, is the top bit.

Results:

* `serializeSubscribe_eq`, `deserializeConnack_eq`: what the client uses of a function that is here
  as a whole is that function at the client's arguments.
-/

namespace Thethings.Mqtt

open Library

/-! ## What a client writes -/

/-- `MQTTSerialize_subscribeLength`. -/
def subscribeLength (topicFilters : List MQTTString) : Nat :=
  2 + (topicFilters.map fun f => 2 + f.strlen + 1).sum

/-- `MQTTSerialize_subscribe` for any number of topic filters, each with its QoS. -/
def serializeSubscribes (buflen : Nat) (dup : Bool) (packetid : Nat)
    (filters : List (MQTTString × UInt8)) : Except Int Bytes :=
  serialize buflen (header .SUBSCRIBE dup 1 false) (subscribeLength (filters.map Prod.fst)) <|
    writeInt packetid ++ filters.flatMap fun f => f.1.write ++ [f.2]

/-- `MQTTSerialize_unsubscribeLength`. -/
def unsubscribeLength (topicFilters : List MQTTString) : Nat :=
  2 + (topicFilters.map fun f => 2 + f.strlen).sum

/-- `MQTTSerialize_unsubscribe`. -/
def serializeUnsubscribe (buflen : Nat) (dup : Bool) (packetid : Nat)
    (topicFilters : List MQTTString) : Except Int Bytes :=
  serialize buflen (header .UNSUBSCRIBE dup 1 false) (unsubscribeLength topicFilters) <|
    writeInt packetid ++ topicFilters.flatMap MQTTString.write

/-- `MQTTSerialize_disconnect`. -/
def serializeDisconnect (buflen : Nat) : Except Int Bytes := serializeZero buflen .DISCONNECT

/-- `MQTTSerialize_puback`: the packet id goes where the dup flag is expected, and 0 where the
packet id is. A flag of one bit keeps the lowest bit. -/
def serializePuback (buflen packetid : Nat) : Except Int Bytes :=
  serializeAck buflen .PUBACK (packetid % 2 == 1) 0

/-- `MQTTSerialize_pubrel`, with the same two arguments exchanged. -/
def serializePubrel (buflen : Nat) (dup : Bool) (packetid : Nat) : Except Int Bytes :=
  serializeAck buflen .PUBREL (packetid % 2 == 1) dup.toNat

/-- `MQTTSerialize_pubcomp`, as `MQTTSerialize_puback`. -/
def serializePubcomp (buflen packetid : Nat) : Except Int Bytes :=
  serializeAck buflen .PUBCOMP (packetid % 2 == 1) 0

/-! ## What a broker writes -/

/-- The broker's serializers: the size check, the fixed header, the rest. -/
def serializeReply (buflen need : Nat) (type : MsgType) (rest : Bytes) : Except Int Bytes :=
  if buflen < need then .error bufferTooShort
  else .ok (header type false 0 false :: (packetEncode rest.length ++ rest))

/-- `MQTTConnackFlags`: the bit that follows seven unused ones is the top bit. -/
def connackFlags (sessionPresent : Bool) : UInt8 := if sessionPresent then 128 else 0

/-- `MQTTSerialize_connack`. -/
def serializeConnack (buflen : Nat) (connackRc : UInt8) (sessionPresent : Bool) :
    Except Int Bytes :=
  serializeReply buflen 2 .CONNACK [connackFlags sessionPresent, connackRc]

/-- `MQTTSerialize_suback`. -/
def serializeSuback (buflen packetid : Nat) (grantedQoSs : Bytes) : Except Int Bytes :=
  serializeReply buflen (2 + grantedQoSs.length) .SUBACK (writeInt packetid ++ grantedQoSs)

/-- `MQTTSerialize_unsuback`. -/
def serializeUnsuback (buflen packetid : Nat) : Except Int Bytes :=
  serializeReply buflen 2 .UNSUBACK (writeInt packetid)

/-! ## What a client reads -/

/-- `MQTTDeserialize_connack` with the session present flag. -/
def deserializeConnackFlags (buf : Bytes) : Int × Option (Bool × UInt8) :=
  if headerType (buf.headD 0) ≠ MsgType.CONNACK.code then (0, none)
  else
    let (rc, curdata, mylen) := openPacket buf
    if mylen < 2 then (rc, none)
    else (1, some (128 ≤ (curdata.headD 0).toNat, curdata.tail.headD 0))

/-- The packet id of `MQTTDeserialize_suback`. -/
def subackPacketid (buf : Bytes) : Option Nat :=
  if headerType (buf.headD 0) ≠ MsgType.SUBACK.code then none
  else
    let (_, curdata, mylen) := openPacket buf
    if mylen < 2 then none else some (readInt curdata).1

/-- `MQTTDeserialize_unsuback`. -/
def deserializeUnsuback (buf : Bytes) : Int × Option Nat :=
  let (rc, packetid) := deserializeAck buf
  (if headerType (buf.headD 0) = MsgType.UNSUBACK.code then 1 else rc, packetid)

/-! ## What a broker reads -/

/-- `readMQTTLenString` into a string that is there already: a length without its bytes is put in
all the same. -/
def readMQTTLenString (old : MQTTString) (curdata : Bytes) (left : Nat) :
    Bool × MQTTString × Bytes × Nat :=
  if 1 < left then
    let (len, rest) := readInt curdata
    if len ≤ left - 2 then (true, ⟨none, len, some (rest.take len)⟩, rest.drop len, left - 2 - len)
    else (false, ⟨none, len, old.data⟩, rest, left - 2)
  else (false, ⟨none, old.len, old.data⟩, curdata, left)

/-- The loop of `MQTTDeserialize_subscribe`: `false` where it is left early, with the filters that
were read till then. -/
def readFilters : Nat → Bytes → Nat → Bool × List (MQTTString × UInt8)
  | 0, _, _ => (true, [])
  | k + 1, curdata, left =>
    if left = 0 then (true, [])
    else
      match readLenString curdata left with
      | (false, _, _, _) => (false, [])
      | (true, topicFilter, curdata, left) =>
        if left = 0 then (false, [])
        else
          let (ok, filters) := readFilters k curdata.tail (left - 1)
          (ok, (topicFilter, curdata.headD 0) :: filters)

/-- What a broker reads of a request that lists topic filters. -/
structure Listing (α : Type) where
  dup : Bool
  packetid : Nat
  filters : List α

/-- `MQTTDeserialize_subscribe`; each round takes a byte at least. -/
def deserializeSubscribe (buf : Bytes) : Int × Option (Listing (MQTTString × UInt8)) :=
  if headerType (buf.headD 0) ≠ MsgType.SUBSCRIBE.code then (-1, none)
  else
    let (rc, curdata, mylen) := openPacket buf
    let (packetid, curdata) := readInt curdata
    let (ok, filters) := readFilters mylen curdata (mylen - 2)
    (if ok then 1 else rc, some ⟨headerDup (buf.headD 0), packetid, filters⟩)

/-- The loop of `MQTTDeserialize_unsubscribe`. -/
def readTopics : Nat → Bytes → Nat → Bool × List MQTTString
  | 0, _, _ => (true, [])
  | k + 1, curdata, left =>
    if left = 0 then (true, [])
    else
      match readLenString curdata left with
      | (false, _, _, _) => (false, [])
      | (true, topicFilter, curdata, left) =>
        let (ok, filters) := readTopics k curdata left
        (ok, topicFilter :: filters)

/-- `MQTTDeserialize_unsubscribe`. -/
def deserializeUnsubscribe (buf : Bytes) : Int × Option (Listing MQTTString) :=
  if headerType (buf.headD 0) ≠ MsgType.UNSUBSCRIBE.code then (0, none)
  else
    let (rc, curdata, mylen) := openPacket buf
    let (packetid, curdata) := readInt curdata
    let (ok, filters) := readTopics mylen curdata (mylen - 2)
    (if ok then 1 else rc, some ⟨headerDup (buf.headD 0), packetid, filters⟩)

/-- The loop of `MQTTPacket_decode` on a source of bytes: the value, and what is left of it. -/
def decodeFrom : Nat → Nat → Bytes → Nat × Bytes
  | 0, _, source => (0, source)
  | _ + 1, _, [] => (0, [])
  | k + 1, multiplier, c :: source =>
    if c.toNat < 128 then (c.toNat * multiplier, source)
    else
      let (value, source) := decodeFrom k (multiplier * 128) source
      (c.toNat % 128 * multiplier + value, source)

/-- `MQTTPacket_read` from a source of bytes: the result, the packet, and what is left. The size of
the buffer is not looked at. -/
def packetRead : Bytes → Int × Bytes × Bytes
  | [] => (-1, [], [])
  | b :: source =>
    let (remLen, source) := decodeFrom 4 1 source
    if source.length < remLen then (-1, b :: (packetEncode remLen ++ source), [])
    else (headerType b, b :: (packetEncode remLen ++ source.take remLen), source.drop remLen)

/-! ## Lemmas -/

theorem readLenString_eq (curdata : Bytes) (left : Nat) :
    readLenString curdata left = readMQTTLenString .null curdata left := rfl

/-- The client's functions are these with one filter, and with less of what is read. -/
theorem serializeSubscribe_eq (buflen : Nat) (dup : Bool) (packetid : Nat)
    (topicFilter : MQTTString) (requestedQoS : Nat) :
    serializeSubscribe buflen dup packetid topicFilter requestedQoS =
      serializeSubscribes buflen dup packetid [(topicFilter, requestedQoS.toUInt8)] := by
  simp [serializeSubscribe, serializeSubscribes, subscribeLength]

theorem deserializeConnack_eq (buf : Bytes) :
    deserializeConnack buf =
      ((deserializeConnackFlags buf).1, (deserializeConnackFlags buf).2.map Prod.snd) := by
  unfold deserializeConnack deserializeConnackFlags
  split_ifs
  · rfl
  · rcases openPacket buf with ⟨rc, curdata, mylen⟩
    simp only
    split_ifs <;> rfl

end Thethings.Mqtt
