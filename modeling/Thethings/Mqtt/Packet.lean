import Thethings.Library.Bytes

/-!
# MQTT packets

Model of `MQTTPacket` (`MQTT/MQTTPacket`), as far as the client uses it: the fixed header with its
length of one to four groups of seven bits (`MQTTPacket.c` l.28-241), the packets the client writes
(`MQTTConnectClient.c` l.27-121 and l.170-212, `MQTTSubscribeClient.c` l.28-81,
`MQTTSerializePublish.c` l.30-125) and the fields it reads out of its read buffer
(`MQTTConnectClient.c` l.132, `MQTTSubscribeClient.c` l.100-135, `MQTTDeserializePublish.c`
l.36-106). What a broker needs of it is in `Broker`.

Choices:

* A serializer answers with the packet or with the error code; every one checks `MQTTPacket_len` of
  what it is about to write against the size of the buffer. What a buffer holds behind the packet
  that was written is passed on by nobody.
* An `MQTTString` is what the two members of the record say: a C string, or a length and a pointer.
  Both may be there, and each function decides by itself which one it takes.
* A field that does not fit its bits is cut, as C cuts it: two bytes of an id, one of a flag.
* `curdata += (rc = MQTTPacket_decodeBuf(…))` makes the deserializers answer 1, their success, also
  where they then give up on a packet that is too short: the fields they did not get to stay as the
  caller had them, `none` here.
* Behind the end of a buffer stand zeros; what is really there is up to the caller. The client's own
  buffer has its 100 bytes.

Results:

* `serialize_spec`: a serialized packet begins with its type; `serialize_ok_iff`: when there is one.
* `packetLen_le_iff`: what fits the client's 100 bytes.
-/

namespace Thethings.Mqtt

open Library

/-! ## The fixed header -/

/-- `enum msgTypes`. -/
inductive MsgType where
  | CONNECT
  | CONNACK
  | PUBLISH
  | PUBACK
  | PUBREC
  | PUBREL
  | PUBCOMP
  | SUBSCRIBE
  | SUBACK
  | UNSUBSCRIBE
  | UNSUBACK
  | PINGREQ
  | PINGRESP
  | DISCONNECT
  deriving DecidableEq

/-- The four bits that stand for it. -/
def MsgType.code : MsgType → Nat
  | .CONNECT => 1
  | .CONNACK => 2
  | .PUBLISH => 3
  | .PUBACK => 4
  | .PUBREC => 5
  | .PUBREL => 6
  | .PUBCOMP => 7
  | .SUBSCRIBE => 8
  | .SUBACK => 9
  | .UNSUBSCRIBE => 10
  | .UNSUBACK => 11
  | .PINGREQ => 12
  | .PINGRESP => 13
  | .DISCONNECT => 14

/-- `MQTTPACKET_BUFFER_TOO_SHORT`. -/
def bufferTooShort : Int := -2

/-- `MQTTHeader`: type, dup, QoS and retain from the top bit down. -/
def header (type : MsgType) (dup : Bool) (qos : Nat) (retain : Bool) : UInt8 :=
  (type.code * 16 + dup.toNat * 8 + qos % 4 * 2 + retain.toNat).toUInt8

/-- `header.bits.type`. -/
def headerType (b : UInt8) : Nat := b.toNat / 16
/-- `header.bits.dup`. -/
def headerDup (b : UInt8) : Bool := b.toNat / 8 % 2 == 1
/-- `header.bits.qos`. -/
def headerQos (b : UInt8) : Nat := b.toNat / 2 % 4
/-- `header.bits.retain`. -/
def headerRetain (b : UInt8) : Bool := b.toNat % 2 == 1

/-- `MQTTPacket_len`: the size of a packet with `remLen` bytes behind its fixed header. The header
byte is counted before the length is compared, so the sizes at 127, 16383 and above are one byte
more than is written. -/
def packetLen (remLen : Nat) : Nat :=
  if remLen + 1 < 128 then remLen + 1 + 1
  else if remLen + 1 < 16384 then remLen + 1 + 2
  else if remLen + 1 < 2097151 then remLen + 1 + 3
  else remLen + 1 + 4

/-- The loop of `MQTTPacket_encode`, lowest group first. -/
def encodeGroups : Nat → Nat → Bytes
  | 0, _ => []
  | k + 1, length =>
    if 0 < length / 128 then (length % 128 + 128).toUInt8 :: encodeGroups k (length / 128)
    else [(length % 128).toUInt8]

/-- `MQTTPacket_encode`; an `int` has at most five groups of seven bits. -/
def packetEncode (length : Nat) : Bytes := encodeGroups 5 length

/-- The loop of `MQTTPacket_decode` on a buffer, `k` bytes at most: the bytes passed and the
value. A fifth byte is counted and not read. -/
def decodeGroups : Nat → Nat → Bytes → Nat × Nat
  | 0, _, _ => (1, 0)
  | _ + 1, _, [] => (1, 0)
  | k + 1, multiplier, c :: rest =>
    if c.toNat < 128 then (1, c.toNat * multiplier)
    else
      let (len, value) := decodeGroups k (multiplier * 128) rest
      (len + 1, c.toNat % 128 * multiplier + value)

/-- `MQTTPacket_decodeBuf`. -/
def packetDecodeBuf (buf : Bytes) : Nat × Nat := decodeGroups 4 1 buf

/-! ## Fields -/

/-- `writeInt`. -/
def writeInt (anInt : Nat) : Bytes := [(anInt / 256).toUInt8, (anInt % 256).toUInt8]

/-- `readInt`: the value and the rest. Behind the end of the buffer stand zeros here. -/
def readInt (curdata : Bytes) : Nat × Bytes :=
  (256 * (curdata.headD 0).toNat + (curdata.tail.headD 0).toNat, curdata.drop 2)

/-- `writeCString`. -/
def writeCString (string : Bytes) : Bytes := writeInt (cstr string).length ++ cstr string

/-- `MQTTString`: a C string or a counted one. `none` is `NULL`. -/
structure MQTTString where
  cstring : Option Bytes
  len : Nat
  data : Option Bytes

/-- `MQTTString_initializer`. -/
def MQTTString.null : MQTTString := ⟨none, 0, none⟩

/-- A C string, as `MQTTString_initializer` with `cstring` set. -/
def MQTTString.ofCString (s : Bytes) : MQTTString := ⟨some s, 0, none⟩

namespace MQTTString

/-- `writeMQTTString`. -/
def write (s : MQTTString) : Bytes :=
  if 0 < s.len then writeInt s.len ++ (s.data.getD []).take s.len
  else
    match s.cstring with
    | some string => writeCString string
    | none => writeInt 0

/-- `MQTTstrlen`. -/
def strlen (s : MQTTString) : Nat :=
  match s.cstring with
  | some string => (cstr string).length
  | none => s.len

/-- `cstring || lenstring.data`. -/
def present (s : MQTTString) : Bool := s.cstring.isSome || s.data.isSome

end MQTTString

/-! ## The packets the client writes -/

/-- `MQTTPacket_willOptions`. -/
structure WillOptions where
  topicName : MQTTString
  message : MQTTString
  retained : Bool
  qos : Nat

/-- `MQTTPacket_connectData`. -/
structure ConnectData where
  version : Nat
  clientID : MQTTString
  keepAliveInterval : Nat
  cleansession : Bool
  willFlag : Bool
  will : WillOptions
  username : MQTTString
  password : MQTTString

/-- `MQTTPacket_connectData_initializer`. -/
def ConnectData.initializer : ConnectData where
  version := 4
  clientID := .null
  keepAliveInterval := 60
  cleansession := true
  willFlag := false
  will := ⟨.null, .null, false, 0⟩
  username := .null
  password := .null

/-- `MQTTSerialize_connectLength`. -/
def connectLength (options : ConnectData) : Nat :=
  (if options.version = 3 then 12 else if options.version = 4 then 10 else 0) +
  (options.clientID.strlen + 2) +
  (if options.willFlag then options.will.topicName.strlen + 2 + (options.will.message.strlen + 2)
    else 0) +
  (if options.username.present then options.username.strlen + 2 else 0) +
  (if options.password.present then options.password.strlen + 2 else 0)

/-- `MQTTConnectFlags`. -/
def connectFlags (options : ConnectData) : UInt8 :=
  (options.cleansession.toNat * 2 +
    (if options.willFlag then 4 + options.will.qos % 4 * 8 + options.will.retained.toNat * 32
      else 0) +
    options.password.present.toNat * 64 + options.username.present.toNat * 128).toUInt8

/-- What the serializers share: the size check, the fixed header, the rest. -/
def serialize (buflen : Nat) (first : UInt8) (remLen : Nat) (rest : Bytes) : Except Int Bytes :=
  if buflen < packetLen remLen then .error bufferTooShort
  else .ok (first :: (packetEncode remLen ++ rest))

/-- `MQTTSerialize_connect`. -/
def serializeConnect (buflen : Nat) (options : ConnectData) : Except Int Bytes :=
  serialize buflen (header .CONNECT false 0 false) (connectLength options) <|
    (if options.version = 4 then writeCString (ascii "MQTT") ++ [4]
      else writeCString (ascii "MQIsdp") ++ [3]) ++
    [connectFlags options] ++ writeInt options.keepAliveInterval ++ options.clientID.write ++
    (if options.willFlag then options.will.topicName.write ++ options.will.message.write else []) ++
    (if options.username.present then options.username.write else []) ++
    (if options.password.present then options.password.write else [])

/-- `MQTTSerialize_subscribe` for one topic filter. -/
def serializeSubscribe (buflen : Nat) (dup : Bool) (packetid : Nat) (topicFilter : MQTTString)
    (requestedQoS : Nat) : Except Int Bytes :=
  serialize buflen (header .SUBSCRIBE dup 1 false) (2 + (2 + topicFilter.strlen + 1)) <|
    writeInt packetid ++ topicFilter.write ++ [requestedQoS.toUInt8]

/-- `MQTTSerialize_publishLength`. -/
def publishLength (qos : Nat) (topicName : MQTTString) (payloadlen : Nat) : Nat :=
  2 + topicName.strlen + payloadlen + (if 0 < qos then 2 else 0)

/-- `MQTTSerialize_publish`. -/
def serializePublish (buflen : Nat) (dup : Bool) (qos : Nat) (retained : Bool) (packetid : Nat)
    (topicName : MQTTString) (payload : Bytes) (payloadlen : Nat) : Except Int Bytes :=
  serialize buflen (header .PUBLISH dup qos retained) (publishLength qos topicName payloadlen) <|
    topicName.write ++ (if 0 < qos then writeInt packetid else []) ++ payload.take payloadlen

/-- `MQTTSerialize_ack`; the check is against 4, not `MQTTPacket_len`, which is the same. -/
def serializeAck (buflen : Nat) (type : MsgType) (dup : Bool) (packetid : Nat) : Except Int Bytes :=
  serialize buflen (header type dup 0 false) 2 (writeInt packetid)

/-- `MQTTSerialize_zero`; the check is against 2, which is the same. -/
def serializeZero (buflen : Nat) (type : MsgType) : Except Int Bytes :=
  serialize buflen (header type false 0 false) 0 []

/-- `MQTTSerialize_pingreq`. -/
def serializePingreq (buflen : Nat) : Except Int Bytes := serializeZero buflen .PINGREQ

/-! ## The fields the client reads -/

/-- Behind the fixed header: how many bytes it took, the bytes there, and how many belong to the
packet. -/
def openPacket (buf : Bytes) : Nat × Bytes × Nat :=
  let (rc, mylen) := packetDecodeBuf buf.tail
  (rc, buf.tail.drop rc, mylen)

/-- `MQTTDeserialize_connack`: the result and the return code, where it was read. -/
def deserializeConnack (buf : Bytes) : Int × Option UInt8 :=
  if headerType (buf.headD 0) ≠ MsgType.CONNACK.code then (0, none)
  else
    let (rc, curdata, mylen) := openPacket buf
    if mylen < 2 then (rc, none) else (1, some (curdata.tail.headD 0))

/-- `MQTTDeserialize_suback` with room for `maxcount` codes: the result, and the codes written. The
count is compared after it has been used, so one code more is written than there is room for. -/
def deserializeSuback (maxcount : Nat) (buf : Bytes) : Int × Bytes :=
  if headerType (buf.headD 0) ≠ MsgType.SUBACK.code then (0, [])
  else
    let (rc, curdata, mylen) := openPacket buf
    if mylen < 2 then (rc, [])
    else
      let granted := (curdata.take mylen).drop 2
      if maxcount + 1 < granted.length then (-1, granted.take (maxcount + 1)) else (1, granted)

/-- `MQTTDeserialize_ack`: the result and the packet id, where it was read. -/
def deserializeAck (buf : Bytes) : Int × Option Nat :=
  let (rc, curdata, mylen) := openPacket buf
  if mylen < 2 then (rc, none) else (1, some (readInt curdata).1)

/-- `readMQTTLenString`: the string, what is left of the buffer and of the packet; `false` where
the packet is too short. -/
def readLenString (curdata : Bytes) (left : Nat) : Bool × MQTTString × Bytes × Nat :=
  if 1 < left then
    let (len, rest) := readInt curdata
    if len ≤ left - 2 then (true, ⟨none, len, some (rest.take len)⟩, rest.drop len, left - 2 - len)
    else (false, ⟨none, len, none⟩, rest, left - 2)
  else (false, .null, curdata, left)

/-- What `MQTTDeserialize_publish` hands back; `none` for a field it did not set. -/
structure Published where
  dup : Bool
  qos : Nat
  retained : Bool
  packetid : Option Nat
  topicName : MQTTString
  payload : Option (Bytes × Int)

/-- `MQTTDeserialize_publish`. -/
def deserializePublish (buf : Bytes) : Int × Option Published :=
  let first := buf.headD 0
  if headerType first ≠ MsgType.PUBLISH.code then (0, none)
  else
    let (rc, curdata, mylen) := openPacket buf
    let qos := headerQos first
    match readLenString curdata mylen with
    | (false, topicName, _, _) =>
      (rc, some ⟨headerDup first, qos, headerRetain first, none, topicName, none⟩)
    | (true, topicName, rest, left) =>
      if 0 < qos then
        let (packetid, rest) := readInt rest
        (1, some ⟨headerDup first, qos, headerRetain first, some packetid, topicName,
          some (rest, left - 2)⟩)
      else
        (1, some ⟨headerDup first, qos, headerRetain first, none, topicName, some (rest, left)⟩)

/-! ## Lemmas -/

/-- What can fit the client's buffers. -/
theorem packetLen_le_iff (remLen : Nat) : packetLen remLen ≤ 100 ↔ remLen ≤ 98 := by
  unfold packetLen
  split_ifs <;> omega

/-- The type of a packet. -/
def packetType (packet : Bytes) : Nat := headerType (packet.headD 0)

theorem headerType_header (type : MsgType) (dup : Bool) (qos : Nat) (retain : Bool) :
    headerType (header type dup qos retain) = type.code := by
  have hcode : type.code < 16 := by cases type <;> decide
  have hqos : qos % 4 < 4 := Nat.mod_lt _ (by decide)
  have hdup : dup.toNat < 2 := Bool.toNat_lt dup
  have hretain : retain.toNat < 2 := Bool.toNat_lt retain
  rw [headerType, header, Nat.toUInt8_eq, UInt8.toNat_ofNat']
  omega

/-- A length below 128 takes one byte. -/
theorem packetEncode_of_lt {n : Nat} (h : n < 128) : packetEncode n = [n.toUInt8] := by
  rw [packetEncode, encodeGroups, if_neg (by omega), Nat.mod_eq_of_lt h]

/-- The size of a packet that fits the client's buffer. -/
theorem length_of_serialize {remLen : Nat} {first : UInt8} {rest packet : Bytes}
    (h : serialize 100 first remLen rest = .ok packet) : packet.length = 2 + rest.length := by
  unfold serialize at h
  split_ifs at h with hfits
  cases h
  have hle := (packetLen_le_iff remLen).mp (by omega)
  rw [packetEncode_of_lt (by omega)]
  simp only [List.length_cons, List.length_append, List.length_nil]
  omega

theorem serialize_ok_iff {buflen remLen : Nat} {first : UInt8} {rest : Bytes} :
    (∃ packet, serialize buflen first remLen rest = .ok packet) ↔ packetLen remLen ≤ buflen := by
  unfold serialize
  split_ifs with h
  · exact ⟨fun ⟨_, he⟩ => absurd he (by simp), fun hle => absurd hle (by omega)⟩
  · exact ⟨fun _ => by omega, fun _ => ⟨_, rfl⟩⟩

/-- **A serialized packet** is not empty and begins with its type. -/
theorem serialize_spec {buflen remLen qos : Nat} {type : MsgType} {dup retain : Bool}
    {rest packet : Bytes}
    (h : serialize buflen (header type dup qos retain) remLen rest = .ok packet) :
    packet ≠ [] ∧ packetType packet = type.code := by
  unfold serialize at h
  split_ifs at h
  cases h
  exact ⟨List.cons_ne_nil _ _, headerType_header type dup qos retain⟩

end Thethings.Mqtt
