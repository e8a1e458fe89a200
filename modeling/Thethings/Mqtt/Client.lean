import Thethings.Mqtt.Packet
import Thethings.Mqtt.Socket

/-!
# The MQTT client

Model of `MQTT::Client` (`MQTT/MQTTClient.h`) with 100-byte buffers and five message handlers, QoS 1
compiled in and QoS 2 not: `PacketId` l.67-84, `cleanSession` l.256, the constructor l.277,
`sendPacket` l.330, `decodePacket` l.360, `readPacket` l.395, `isTopicMatched` l.437-467,
`deliverMessage` l.472, `yield` l.504, `cycle` l.524, `keepalive` l.617, `waitfor` l.645, `connect`
l.661, `subscribe` l.727 and `publish` l.818 and 866. `unsubscribe`, `disconnect` and
`setDefaultMessageHandler`, which the program never calls, are in `Calls`.

Choices:

* Every operation takes what the network and the timers do while it runs: the outcomes of its
  writes, and one `Cycle` for each pass of `cycle` before its timer expires. Any number of passes
  may come before it does, and what they meet is not related.
* The outcome of an operation is its result and the new client. A result is the number of the
  source; it may be a packet type, a return code or a granted QoS.
* `sendbuf` is passed as the packet it holds, since each operation writes it before it sends it. The
  read buffer is a member: what an earlier packet left there may be read.
* `written` and `arrived` record, for the statements only, the packets completely written since the
  last dial and the messages handed to a handler.
* `cleanSession` is called wherever the source calls it: on a failed `subscribe`, and on a `publish`
  whose packet did not get out, but not on one that is refused or too long.
* A client is constructed in whatever memory holds (`new`): the constructor leaves
  `keepAliveInterval`, `cleansession` and the buffers as they were.
* A variable that a malformed packet leaves unset is `Stray`, and may hold anything.

Left out: what only QoS 2 compiles in, and all that the clock says but whether it has run out.
-/

namespace Thethings.Mqtt

open Library

/-- `enum returnCode`. -/
abbrev SUCCESS : Int := 0

/-- `FAILURE`. -/
abbrev FAILURE : Int := -1

/-- `BUFFER_OVERFLOW`. -/
abbrev BUFFER_OVERFLOW : Int := -2

/-- `enum QoS`. -/
inductive QoS where
  | QOS0
  | QOS1
  | QOS2

/-- The number that stands for it. -/
def QoS.code : QoS → Nat
  | .QOS0 => 0
  | .QOS1 => 1
  | .QOS2 => 2

/-- `MQTT::Message`. -/
structure Message where
  qos : Nat
  retained : Bool
  dup : Bool
  id : Nat
  payload : Bytes
  payloadlen : Nat

/-- A `messageHandler`: the program's function, or whatever else a pointer may hold. -/
inductive MessageHandler where
  | messageArrived
  | other (address : Nat)
  deriving DecidableEq

/-! ## The handler table -/

/-- One of the `messageHandlers`; `none` is `0`. -/
structure Slot where
  topicFilter : Option Bytes
  fp : Option MessageHandler

/-- `messageHandlers[MAX_MESSAGE_HANDLERS]`. -/
structure HandlerTable where
  slots : List Slot
  five : slots.length = 5

/-- The first free slot is taken; the flag says whether there was one. -/
def registerSlots (topicFilter : Bytes) (handler : MessageHandler) : List Slot → List Slot × Bool
  | [] => ([], false)
  | slot :: slots =>
    if slot.topicFilter = none then (⟨some topicFilter, some handler⟩ :: slots, true)
    else
      let (rest, found) := registerSlots topicFilter handler slots
      (slot :: rest, found)

theorem length_registerSlots (topicFilter : Bytes) (handler : MessageHandler) :
    ∀ slots, (registerSlots topicFilter handler slots).1.length = slots.length
  | [] => rfl
  | slot :: slots => by
    rw [registerSlots]
    split_ifs
    · rfl
    · simp only [List.length_cons, length_registerSlots topicFilter handler slots]

/-- `isTopicMatched`. -/
def isTopicMatched : Bytes → Bytes → Bool
  | [], n => n == []
  | _ :: _, [] => false
  | f :: fs, c :: n =>
    -- `/` ends a level of the name, and only `/` may stand for it
    if c = 47 ∧ f ≠ 47 then false
    else if f ≠ 43 ∧ f ≠ 35 ∧ f ≠ c then false
    else if f = 43 then isTopicMatched fs (n.dropWhile (· != 47))
    else if f = 35 then isTopicMatched fs []
    else isTopicMatched fs n

namespace HandlerTable

/-- The table before anything is attached. -/
def detach (t : HandlerTable) : HandlerTable where
  slots := t.slots.map fun slot => { slot with fp := none }
  five := by rw [List.length_map, t.five]

/-- What `cleanSession` does to the table: the topic filters go, the functions stay. -/
def clear (t : HandlerTable) : HandlerTable where
  slots := t.slots.map fun slot => { slot with topicFilter := none }
  five := by rw [List.length_map, t.five]

/-- The registration at the end of `subscribe`. -/
def register (t : HandlerTable) (topicFilter : Bytes) (handler : MessageHandler) :
    HandlerTable × Bool where
  fst := ⟨(registerSlots topicFilter handler t.slots).1, by rw [length_registerSlots, t.five]⟩
  snd := (registerSlots topicFilter handler t.slots).2

/-- The handlers that `deliverMessage` calls for a topic name. -/
def handlersFor (t : HandlerTable) (topicName : Bytes) : List MessageHandler :=
  t.slots.filterMap fun slot =>
    match slot.topicFilter with
    | none => none
    | some topicFilter =>
      if topicName = cstr topicFilter ∨ isTopicMatched (cstr topicFilter) topicName then slot.fp
      else none

end HandlerTable

/-! ## The client -/

/-- `MQTT::Client`. -/
structure Client where
  ipstack : TCPSocketConnection
  readbuf : Bytes
  keepAliveInterval : Nat
  pingOutstanding : Bool
  cleansession : Bool
  /-- `packetid.next` -/
  packetid : Nat
  messageHandlers : HandlerTable
  defaultMessageHandler : Option MessageHandler
  isconnected : Bool
  /-- the first `inflightLen` bytes of `pubbuf` -/
  pubbuf : Bytes
  inflightMsgid : Nat
  inflightQoS : Nat
  written : List Bytes
  arrived : List (MessageHandler × Bytes × Message)

/-- What the reads of one packet meet. -/
structure PacketReads where
  header : Recv
  length : List Recv
  body : Recv

/-- What a malformed packet leaves in the variables it does not set: the bytes at the `NULL` topic
name, a packet id, a payload. -/
structure Stray where
  topicName : Bytes
  packetid : Nat
  payload : Bytes × Int

/-- What one pass of `cycle` meets: a packet, the write of its acknowledgement, the two keep-alive
timers, the write of a ping. -/
structure Cycle where
  reads : PacketReads
  stray : Stray
  ack : List Send
  sentExpired : Bool
  receivedExpired : Bool
  ping : List Send

/-- `PacketId::getNext`. -/
def getNext (next : Nat) : Nat := if next = 65535 then 1 else next + 1

namespace Client

/-- `cleanSession`. -/
def cleanSession (c : Client) : Client :=
  { c with
    pingOutstanding := false
    messageHandlers := c.messageHandlers.clear
    isconnected := false
    inflightMsgid := 0
    inflightQoS := QoS.QOS0.code }

/-- `Client(network)`: in whatever memory holds, with a packet id of 0 and no function attached
anywhere, the session is cleaned. -/
def new (memory : Client) : Client :=
  { memory with
    ipstack := .init
    packetid := 0
    messageHandlers := memory.messageHandlers.detach
    defaultMessageHandler := none
    written := []
    arrived := [] }.cleanSession

/-- `sendPacket`. -/
def sendPacket (c : Client) (packet : Bytes) (sends : List Send) : Int × Client :=
  match c.ipstack.sendAll packet sends with
  | (true, ipstack) => (SUCCESS, { c with ipstack := ipstack, written := c.written ++ [packet] })
  | (false, ipstack) => (FAILURE, { c with ipstack := ipstack })

/-- The loop of `decodePacket`, `k` bytes at most; a read that brings no byte ends it with the value
so far. -/
def decodeGroups (ipstack : TCPSocketConnection) : Nat → Nat → List Recv → Nat × TCPSocketConnection
  | 0, _, _ => (0, ipstack)
  | k + 1, multiplier, recvs =>
    match ipstack.read 1 (recvs.headD .notReadable) with
    | (_, [c], ipstack) =>
      if c.toNat < 128 then (c.toNat * multiplier, ipstack)
      else
        let (value, ipstack) := decodeGroups ipstack k (multiplier * 128) recvs.tail
        (c.toNat % 128 * multiplier + value, ipstack)
    | (_, _, ipstack) => (0, ipstack)

/-- `decodePacket`: the value. -/
def decodePacket (ipstack : TCPSocketConnection) (recvs : List Recv) : Nat × TCPSocketConnection :=
  decodeGroups ipstack 4 1 recvs

/-- `readPacket`. -/
def readPacket (c : Client) (reads : PacketReads) : Int × Client :=
  match c.ipstack.read 1 reads.header with
  | (n, header, ipstack) =>
    let c := { c with ipstack := ipstack, readbuf := overwrite header c.readbuf }
    if n ≠ 1 then (FAILURE, c)
    else
      let (remLen, ipstack) := decodePacket c.ipstack reads.length
      let front := header ++ packetEncode remLen
      let c := { c with ipstack := ipstack, readbuf := overwrite front c.readbuf }
      if 100 < remLen + front.length then (BUFFER_OVERFLOW, c)
      else if 0 < remLen then
        match c.ipstack.read remLen reads.body with
        | (n, body, ipstack) =>
          let c := { c with ipstack := ipstack, readbuf := overwrite (front ++ body) c.readbuf }
          if n ≠ remLen then (FAILURE, c) else (headerType (c.readbuf.headD 0), c)
      else (headerType (c.readbuf.headD 0), c)

/-- `deliverMessage`: every matching handler is called; the default one where none was. -/
def deliverMessage (c : Client) (topicName : Bytes) (message : Message) : Client :=
  let handlers :=
    match c.messageHandlers.handlersFor topicName with
    | [] => c.defaultMessageHandler.toList
    | handlers => handlers
  { c with arrived := c.arrived ++ handlers.map fun handler => (handler, topicName, message) }

/-- `keepalive`: a ping where a timer has expired and none is outstanding. -/
def keepalive (c : Client) (e : Cycle) : Client :=
  if c.keepAliveInterval = 0 then c
  else if (e.sentExpired || e.receivedExpired) && !c.pingOutstanding then
    match serializePingreq 100 with
    | .error _ => c
    | .ok packet =>
      match c.sendPacket packet e.ping with
      | (rc, c) => if rc = SUCCESS then { c with pingOutstanding := true } else c
  else c

/-- The topic name and the message of a packet, with what it left unset. -/
def messageOf (p : Published) (stray : Stray) : Bytes × Message :=
  let (payload, payloadlen) := p.payload.getD stray.payload
  ((p.topicName.data.getD stray.topicName).take p.topicName.len,
    { qos := p.qos
      retained := p.retained
      dup := p.dup
      id := p.packetid.getD stray.packetid
      payload := payload
      payloadlen := (payloadlen % 0x100000000).toNat })

/-- A packet is sent where it was built. -/
def sendBuilt (c : Client) (packet : Except Int Bytes) (sends : List Send) : Int × Client :=
  match packet with
  | .error _ => (FAILURE, c)
  | .ok packet => c.sendPacket packet sends

/-- The acknowledgement of a message with a QoS above 0. -/
def acknowledge (c : Client) (message : Message) (sends : List Send) : Int × Client :=
  let ack :=
    if message.qos = QoS.QOS1.code then serializeAck 100 .PUBACK false message.id
    else if message.qos = QoS.QOS2.code then serializeAck 100 .PUBREC false message.id
    else .error 0
  c.sendBuilt ack sends

/-- `cycle`. -/
def cycle (c : Client) (e : Cycle) : Int × Client :=
  match c.readPacket e.reads with
  | (type, c) =>
    if type = MsgType.PUBLISH.code then
      match deserializePublish c.readbuf with
      | (1, some p) =>
        let (topicName, message) := messageOf p e.stray
        let c := c.deliverMessage topicName message
        if message.qos = QoS.QOS0.code then (type, c.keepalive e)
        else
          match c.acknowledge message e.ack with
          | (rc, c) => if rc = FAILURE then (rc, c) else (type, c.keepalive e)
      | _ => (type, c)
    else if type = MsgType.PINGRESP.code then
      (type, { c with pingOutstanding := false }.keepalive e)
    else (type, c.keepalive e)

/-- `waitfor`: the result of the last pass of `cycle` before the timer expired, if none was of the
type. -/
def waitfor (type : MsgType) : Int → Client → List Cycle → Int × Client
  | rc, c, [] => (rc, c)
  | _, c, e :: es =>
    match c.cycle e with
    | (rc, c) => if rc = type.code then (rc, c) else waitfor type rc c es

/-- `yield`. -/
def yield : Client → List Cycle → Int × Client
  | c, [] => (SUCCESS, c)
  | c, e :: es =>
    match c.cycle e with
    | (rc, c) => if rc < 0 then (FAILURE, c) else yield c es

/-- What a `publish` meets. -/
structure PublishNet where
  sends : List Send
  cycles : List Cycle
  /-- the packet id an acknowledgement that is too short leaves behind -/
  stray : Nat

/-- `publish(len, timer, qos)`. -/
def publishPacket (c : Client) (packet : Bytes) (qos : Nat) (net : PublishNet) : Int × Client :=
  match c.sendPacket packet net.sends with
  | (rc, c) =>
    if rc ≠ SUCCESS then (rc, c.cleanSession)
    else if qos = QoS.QOS1.code then
      match c.waitfor .PUBACK FAILURE net.cycles with
      | (type, c) =>
        if type = MsgType.PUBACK.code then
          match deserializeAck c.readbuf with
          | (1, packetid) =>
            (SUCCESS,
              if c.inflightMsgid = packetid.getD net.stray then { c with inflightMsgid := 0 }
              else c)
          | _ => (FAILURE, c.cleanSession)
        else (FAILURE, c.cleanSession)
    else (SUCCESS, c)

/-- What a `connect` meets. -/
structure ConnectNet where
  sends : List Send
  cycles : List Cycle
  resend : PublishNet

/-- The wait for the answer to a CONNECT: its return code, or `FAILURE`. -/
def awaitConnack (c : Client) (cycles : List Cycle) : Int × Client :=
  match c.waitfor .CONNACK FAILURE cycles with
  | (type, c) =>
    if type = MsgType.CONNACK.code then
      match deserializeConnack c.readbuf with
      | (1, code) => ((code.getD 255).toNat, c)
      | _ => (FAILURE, c)
    else (FAILURE, c)

/-- The last publish is sent again while it is in flight. -/
def resend (rc : Int) (c : Client) (net : PublishNet) : Int × Client :=
  if 0 < c.inflightMsgid then c.publishPacket c.pubbuf c.inflightQoS net else (rc, c)

/-- The options that the client keeps. -/
def setOptions (c : Client) (options : ConnectData) : Client :=
  { c with
    keepAliveInterval := options.keepAliveInterval
    cleansession := options.cleansession }

/-- The end of `connect`, once its packet is out. -/
def finishConnect (c : Client) (net : ConnectNet) : Int × Client :=
  let (rc, c) := c.awaitConnack net.cycles
  let (rc, c) := resend rc c net.resend
  (rc, if rc = SUCCESS then { c with isconnected := true } else c)

/-- `connect(options)`. -/
def connect (c : Client) (options : ConnectData) (net : ConnectNet) : Int × Client :=
  if c.isconnected then (FAILURE, c)
  else
    match serializeConnect 100 options with
    | .error _ => (FAILURE, c.setOptions options)
    | .ok packet =>
      match (c.setOptions options).sendPacket packet net.sends with
      | (rc, c) => if rc ≠ SUCCESS then (rc, c) else c.finishConnect net

/-- What a `subscribe` meets. -/
structure SubscribeNet where
  sends : List Send
  cycles : List Cycle

/-- The granted code of a SUBACK: -1 where there is none in it, and `SUCCESS` left from the write
where it is not taken. -/
def grantedQoS (c : Client) : Int :=
  match deserializeSuback 1 c.readbuf with
  | (1, codes) => (codes.head?.map fun b => (b.toNat : Int)).getD (-1)
  | _ => SUCCESS

/-- The end of `subscribe`, once a SUBACK is there: the registration, unless it is a refusal. -/
def granted (c : Client) (topicFilter : Bytes) (handler : MessageHandler) : Int × Client :=
  if c.grantedQoS = 0x80 then (c.grantedQoS, c)
  else
    match c.messageHandlers.register topicFilter handler with
    | (table, true) => (0, { c with messageHandlers := table })
    | (_, false) => (c.grantedQoS, c)

/-- `exit:` of `subscribe`. -/
def orClean : Int × Client → Int × Client
  | (rc, c) => (rc, if rc ≠ SUCCESS then c.cleanSession else c)

/-- `subscribe(topicFilter, qos, messageHandler)`. -/
def subscribe (c : Client) (topicFilter : Bytes) (qos : QoS) (handler : MessageHandler)
    (net : SubscribeNet) : Int × Client :=
  orClean <|
    if c.isconnected = false then (FAILURE, c)
    else
      let c := { c with packetid := getNext c.packetid }
      match serializeSubscribe 100 false c.packetid (.ofCString topicFilter) qos.code with
      | .error _ => (FAILURE, c)
      | .ok packet =>
        match c.sendPacket packet net.sends with
        | (rc, c) =>
          if rc ≠ SUCCESS then (rc, c)
          else
            match c.waitfor .SUBACK FAILURE net.cycles with
            | (type, c) =>
              if type = MsgType.SUBACK.code then c.granted topicFilter handler else (FAILURE, c)

/-- The packet is kept for the next connect, unless the session is a clean one. -/
def keepInflight (c : Client) (packet : Bytes) (id qos : Nat) : Client :=
  if c.cleansession then c
  else { c with pubbuf := packet, inflightMsgid := id, inflightQoS := qos }

/-- `publish(topicName, payload, payloadlen, id, qos, retained)`. -/
def publish (c : Client) (topicName payload : Bytes) (payloadlen id qos : Nat) (retained : Bool)
    (net : PublishNet) : Int × Client :=
  if c.isconnected = false then (FAILURE, c)
  else
    let acked := qos = QoS.QOS1.code ∨ qos = QoS.QOS2.code
    let id := if acked then getNext c.packetid else id
    let c := if acked then { c with packetid := id } else c
    match serializePublish 100 false qos retained id (.ofCString topicName) payload payloadlen with
    | .error _ => (FAILURE, c)
    | .ok packet =>
      (c.keepInflight packet id qos).publishPacket packet qos net

/-- `publish(topicName, message)`. -/
def publishMessage (c : Client) (topicName : Bytes) (message : Message) (net : PublishNet) :
    Int × Client :=
  c.publish topicName message.payload message.payloadlen 0 message.qos message.retained net

end Client

end Thethings.Mqtt
