import Thethings.Library.Frames
import Thethings.Mqtt.App
import Thethings.Mqtt.Outgoing

/-!
# A stream of packets through the client

The broker's packets are one stream of bytes, and `readPacket` (`MQTTClient.h` l.395) takes what it
asks for off its front: a byte, the bytes of a length, a body.

Choices:

* `supply` is what the reads of a packet find where the bytes have arrived, and what they leave
  behind; `deal` and `pump` give it to the passes of `cycle`. Each read is answered in full: `read`
  makes one `lwip_recv`, which may bring less, and a packet that is read in part makes `readPacket`
  fail. Such reads are outcomes of the model, and no stream is promised here for them.
* The network takes what a pass writes, the acknowledgement and the ping (`Cycle.Taken`). Where it
  does not, `cycle` fails, or the acknowledgement is missing.
* `Inbound` is a packet of the broker: a PUBLISH, one of another type that fits the read buffer, or
  the header of one that does not. Its bytes are those that the serializers write.
* What a handler is called with is compared as a `Delivery`: where a message has no packet id, the
  field holds what was on the stack. Pings are no replies, since the clock decides when one is sent.
* The message that does not fit has QoS 0 and a topic name of at most 98 bytes. With a higher QoS
  the packet id stands in front of the payload, and a longer name does not fit either: what is taken
  for packets then begins somewhere else.

Results:

* `yield_stream`: packets that fit the read buffer are taken one by one, and `yield` hands over each
  PUBLISH once, to the handlers of its topic, and acknowledges it, in the order of the stream.
* `pump_oversized`: of a packet that does not fit only the header is taken. The topic name of a
  PUBLISH is then taken for a packet of type 0, and its payload for the packets that come next: who
  can publish a long message can make the client receive any packets at all.
-/

namespace Thethings.Mqtt

open Library Library.Frames

/-! ## What the reads find -/

/-- What a `recv` of `n` bytes brings where these bytes have arrived. -/
def recvFrom (stream : Bytes) (n : Nat) : Recv :=
  if stream = [] then .notReadable else .got (stream.take n)

/-- What the reads of a length find, `k` bytes at most, and what they leave. -/
def lengthReads : Nat → Bytes → List Recv × Bytes
  | 0, stream => ([], stream)
  | _ + 1, [] => ([.notReadable], [])
  | k + 1, b :: stream =>
    if b.toNat < 128 then ([.got [b]], stream)
    else
      let (recvs, stream) := lengthReads k stream
      (.got [b] :: recvs, stream)

/-- What the reads of a packet find, and what they leave: of one that does not fit the buffer, all
that is behind its header. -/
def supply (stream : Bytes) : PacketReads × Bytes :=
  let (length, behind) := lengthReads 4 stream.tail
  let remLen := (decodeFrom 4 1 stream.tail).1
  (⟨recvFrom stream 1, length, recvFrom behind remLen⟩,
    if 100 < remLen + (1 + (packetEncode remLen).length) then behind else behind.drop remLen)

/-- The reads of some passes of `cycle`, from one stream. -/
def deal : Bytes → List Cycle → List Cycle × Bytes
  | stream, [] => ([], stream)
  | stream, e :: es =>
    let (reads, stream) := supply stream
    let (es, stream) := deal stream es
    ({ e with reads := reads } :: es, stream)

/-- One pass of `cycle` on a stream. -/
def pump (p : Client × Bytes) (e : Cycle) : Client × Bytes :=
  let (reads, stream) := supply p.2
  ((p.1.cycle { e with reads := reads }).2, stream)

theorem lengthReads_behind (k multiplier : Nat) (stream : Bytes) :
    (lengthReads k stream).2 = (decodeFrom k multiplier stream).2 := by
  induction k generalizing multiplier stream with
  | zero => rfl
  | succ k ih =>
    cases stream with
    | nil => rfl
    | cons b stream =>
      rw [lengthReads, decodeFrom]
      split_ifs
      · rfl
      · exact ih (multiplier * 128) stream

/-- The client reads the length that is in the stream. -/
theorem decodeGroups_lengthReads {s : TCPSocketConnection} (h : s.connected = true)
    (k multiplier : Nat) (stream : Bytes) :
    ∃ s' : TCPSocketConnection, s'.connected = true ∧
      Client.decodeGroups s k multiplier (lengthReads k stream).1 =
        ((decodeFrom k multiplier stream).1, s') := by
  induction k generalizing s multiplier stream with
  | zero => exact ⟨s, h, rfl⟩
  | succ k ih =>
    cases stream with
    | nil =>
      refine ⟨{ s with blocking := false }, h, ?_⟩
      rw [lengthReads, Client.decodeGroups, List.headD_cons, TCPSocketConnection.read_notReadable,
        decodeFrom]
    | cons b stream =>
      have hup := TCPSocketConnection.connected_still h
      have hread := TCPSocketConnection.read_got h (List.cons_ne_nil b []) (le_refl 1)
      rw [lengthReads, decodeFrom]
      split_ifs with hb
      · refine ⟨_, hup, ?_⟩
        rw [Client.decodeGroups, List.headD_cons, hread]
        simp only [if_pos hb]
      · obtain ⟨s', hs', he⟩ := ih hup (multiplier * 128) stream
        refine ⟨s', hs', ?_⟩
        rw [Client.decodeGroups, List.headD_cons, hread]
        simp only [if_neg hb, List.tail_cons, he]

/-- Where the length in the stream is `n`. -/
theorem supply_eq (first : UInt8) {n : Nat} (hn : n < 2 ^ 28) (behind : Bytes) :
    supply (first :: (packetEncode n ++ behind)) =
      (⟨.got [first], (lengthReads 4 (packetEncode n ++ behind)).1, recvFrom behind n⟩,
        if 100 < n + (1 + (packetEncode n).length) then behind else behind.drop n) := by
  have hdecode := decodeFrom_encode hn behind
  have hbehind : (lengthReads 4 (packetEncode n ++ behind)).2 = behind := by
    rw [lengthReads_behind 4 1, hdecode]
  have hheader : recvFrom (first :: (packetEncode n ++ behind)) 1 = .got [first] := rfl
  simp only [supply, List.tail_cons, hheader, hdecode, hbehind]

namespace Client

theorem arrived_readPacket (c : Client) (reads : PacketReads) :
    (c.readPacket reads).2.arrived = c.arrived ∧ (c.readPacket reads).2.written = c.written := by
  unfold readPacket
  simp only
  split_ifs
  · exact ⟨rfl, rfl⟩
  · exact ⟨rfl, rfl⟩
  · exact ⟨rfl, rfl⟩
  · exact ⟨rfl, rfl⟩
  · exact ⟨rfl, rfl⟩

/-- What `readPacket` does over a connection that is up, once it has read the length. -/
theorem readPacket_header {c : Client} (h : c.ipstack.connected = true) (first : UInt8) {n : Nat}
    (hn : n < 2 ^ 28) (behind : Bytes) (body : Recv) :
    ∃ (d : Client) (stale : Bytes), d.ipstack.connected = true ∧
      d.readbuf = first :: packetEncode n ++ stale ∧
      c.readPacket ⟨.got [first], (lengthReads 4 (packetEncode n ++ behind)).1, body⟩ =
        if 100 < n + (1 + (packetEncode n).length) then (BUFFER_OVERFLOW, d)
        else if 0 < n then
          match d.ipstack.read n body with
          | (taken, body, ipstack) =>
            let d := { d with
              ipstack := ipstack
              readbuf := overwrite (first :: packetEncode n ++ body) d.readbuf }
            if taken ≠ n then (FAILURE, d) else (headerType (d.readbuf.headD 0), d)
        else (headerType first, d) := by
  obtain ⟨s, hs, hlen⟩ := decodeGroups_lengthReads (TCPSocketConnection.connected_still h) 4 1
    (packetEncode n ++ behind)
  rw [decodeFrom_encode hn] at hlen
  refine ⟨{ c with
    ipstack := s
    readbuf := overwrite (first :: packetEncode n) (overwrite [first] c.readbuf) },
    _, hs, rfl, ?_⟩
  unfold readPacket
  rw [TCPSocketConnection.read_got h (List.cons_ne_nil first []) (le_refl 1)]
  simp only [ne_eq, decodePacket, hlen, List.singleton_append, List.length_cons, Nat.add_comm 1]
  rfl

/-- **A packet that fits is read**, with nothing of what follows it. -/
theorem readPacket_frame {c : Client} (h : c.ipstack.connected = true) (f : Frame)
    (hfits : f.body.length ≤ 98) (rest : Bytes) :
    (supply (f.bytes ++ rest)).2 = rest ∧
      ∃ d : Client, d.ipstack.connected = true ∧ (∃ stale, d.readbuf = f.bytes ++ stale) ∧
        c.readPacket (supply (f.bytes ++ rest)).1 = ((headerType f.first : Int), d) := by
  have hroom : ¬ 100 < f.body.length + (1 + (packetEncode f.body.length).length) := by
    rw [length_packetEncode f.short, if_pos (by omega)]
    omega
  have hbytes : f.bytes ++ rest = f.first :: (packetEncode f.body.length ++ (f.body ++ rest)) := by
    rw [Frame.bytes, List.cons_append, List.append_assoc]
  obtain ⟨d, stale, hd, hreadbuf, he⟩ := readPacket_header h f.first f.short (f.body ++ rest)
    (recvFrom (f.body ++ rest) f.body.length)
  rw [hbytes, supply_eq f.first f.short, he, if_neg hroom, if_neg hroom, List.drop_left]
  refine ⟨rfl, ?_⟩
  rcases Nat.eq_zero_or_pos f.body.length with h0 | hpos
  · refine ⟨d, hd, ⟨stale, ?_⟩, if_neg (by omega)⟩
    rw [hreadbuf, Frame.bytes, List.eq_nil_of_length_eq_zero h0, List.append_nil]
  · have hne : f.body ≠ [] := List.length_pos_iff.mp hpos
    have hrecv : recvFrom (f.body ++ rest) f.body.length = .got f.body := by
      rw [recvFrom, if_neg (List.append_ne_nil_of_left_ne_nil hne rest), List.take_left]
    rw [if_pos hpos, hrecv, TCPSocketConnection.read_got hd hne (le_refl _)]
    exact ⟨_, TCPSocketConnection.connected_still hd, ⟨_, rfl⟩, if_neg (not_not_intro rfl)⟩

/-- **Of a packet that does not fit only the header is read.** -/
theorem readPacket_tooLong {c : Client} (h : c.ipstack.connected = true) (first : UInt8) {n : Nat}
    (hlong : 98 < n) (hn : n < 2 ^ 28) (behind : Bytes) :
    (supply (first :: (packetEncode n ++ behind))).2 = behind ∧
      ∃ d : Client, d.ipstack.connected = true ∧
        c.readPacket (supply (first :: (packetEncode n ++ behind))).1 = (BUFFER_OVERFLOW, d) := by
  have hover : 100 < n + (1 + (packetEncode n).length) := by
    have hpos := length_packetEncode hn
    split_ifs at hpos <;> omega
  obtain ⟨d, -, hd, -, he⟩ := readPacket_header h first hn behind (recvFrom behind n)
  rw [supply_eq first hn, he, if_pos hover, if_pos hover]
  exact ⟨rfl, d, hd, rfl⟩

end Client

/-! ## What a pass of `cycle` does with a packet -/

/-- What a handler is called with; a packet id only where the packet has one. -/
structure Delivery where
  handler : MessageHandler
  topicName : Bytes
  qos : Nat
  dup : Bool
  retained : Bool
  packetid : Option Nat
  text : Bytes
  deriving DecidableEq

/-- One call of a handler, without what the message does not have. -/
def Delivery.of (a : MessageHandler × Bytes × Message) : Delivery :=
  ⟨a.1, a.2.1, a.2.2.qos, a.2.2.dup, a.2.2.retained, publishId a.2.2.qos a.2.2.id, a.2.2.text⟩

/-- The acknowledgement of a message: a PUBACK, or a PUBREC. -/
def ackOf (qos : QoS) (packetid : Nat) : List Bytes :=
  match qos with
  | .QOS0 => []
  | .QOS1 => [[64, 2] ++ writeInt packetid]
  | .QOS2 => [[80, 2] ++ writeInt packetid]

/-- A packet of the broker: a PUBLISH, one of another type, or the header of one that does not fit
the read buffer. -/
inductive Inbound where
  | publish (dup : Bool) (qos : QoS) (retained : Bool) (packetid : Nat) (topicName payload : Bytes)
  | other (f : Frame)
  | tooLong (first : UInt8) (n : Nat)

namespace Inbound

/-- What is in the stream. -/
def bytes : Inbound → Bytes
  | .publish dup qos retained packetid topicName payload =>
    (Outgoing.publish dup qos.code retained packetid (.counted topicName) payload
      payload.length).bytes
  | .other f => f.bytes
  | .tooLong first n => first :: packetEncode n

/-- A packet that is what it says. -/
def Valid : Inbound → Prop
  | .publish _ qos _ packetid topicName payload =>
    packetid < 65536 ∧ publishLength qos.code (.counted topicName) payload.length ≤ 98
  | .other f => headerType f.first ≠ MsgType.PUBLISH.code ∧ f.body.length ≤ 98
  | .tooLong _ n => 98 < n ∧ n < 2 ^ 28

/-- The result of `cycle`. -/
def result : Inbound → Int
  | .publish .. => MsgType.PUBLISH.code
  | .other f => headerType f.first
  | .tooLong .. => BUFFER_OVERFLOW

/-- A short PUBLISH has a short topic name. -/
theorem sound_topicName {qos : Nat} {topicName payload : Bytes}
    (hfits : publishLength qos (.counted topicName) payload.length ≤ 98) :
    (MQTTString.counted topicName).Sound := by
  refine MQTTString.sound_counted ?_
  unfold publishLength MQTTString.strlen MQTTString.counted at hfits
  simp only at hfits
  omega

theorem frame_publish (dup retained : Bool) {qos : QoS} (packetid : Nat) {topicName payload : Bytes}
    (hfits : publishLength qos.code (.counted topicName) payload.length ≤ 98) :
    ∃ f : Frame, f.bytes = (Inbound.publish dup qos retained packetid topicName payload).bytes ∧
      headerType f.first = MsgType.PUBLISH.code ∧ f.body.length ≤ 98 := by
  obtain ⟨f, hf, hfirst, hlen, -⟩ := Outgoing.frame
    (o := .publish dup qos.code retained packetid (.counted topicName) payload payload.length)
    ⟨sound_topicName hfits, le_refl _⟩ (lt_of_le_of_lt hfits (by decide))
    (Outgoing.serialize_of_fits (le_refl _))
  exact ⟨f, hf, hfirst, le_of_eq_of_le hlen hfits⟩

/-- What is handed over, where these handlers are called for a topic name. -/
def deliveries (handlersOf : Bytes → List MessageHandler) : Inbound → List Delivery
  | .publish dup qos retained packetid topicName payload =>
    (handlersOf topicName).map fun handler =>
      ⟨handler, topicName, qos.code, dup, retained, publishId qos.code packetid, payload⟩
  | _ => []

/-- What is written for it. -/
def replies : Inbound → List Bytes
  | .publish _ qos _ packetid _ _ => ackOf qos packetid
  | _ => []

end Inbound

/-- The network takes what is written during a pass. -/
def Cycle.Taken (e : Cycle) : Prop := takes 4 e.ack = true ∧ takes 2 e.ping = true

namespace Client

/-- The handlers that a message is handed to. -/
def handlersOf (c : Client) (topicName : Bytes) : List MessageHandler :=
  match c.messageHandlers.handlersFor topicName with
  | [] => c.defaultMessageHandler.toList
  | handlers => handlers

/-- What the handlers were called with. -/
def deliveries (c : Client) : List Delivery := c.arrived.map .of

/-- What was written, but for the pings. -/
def replies (c : Client) : List Bytes :=
  c.written.filter fun packet => packetType packet != MsgType.PINGREQ.code

/-- `d` is `c` after some packets: with these deliveries and replies more, and still connected. -/
structure Serves (c d : Client) (ds : List Delivery) (rs : List Bytes) : Prop where
  background : Background c d
  up : d.ipstack.connected = true
  deliveries : d.deliveries = c.deliveries ++ ds
  replies : d.replies = c.replies ++ rs

theorem Serves.refl {c : Client} (h : c.ipstack.connected = true) : Serves c c [] [] :=
  ⟨.refl c, h, (List.append_nil _).symm, (List.append_nil _).symm⟩

theorem Serves.trans {c d e : Client} {ds ds' : List Delivery} {rs rs' : List Bytes}
    (h : Serves c d ds rs) (h' : Serves d e ds' rs') : Serves c e (ds ++ ds') (rs ++ rs') where
  background := h.background.trans h'.background
  up := h'.up
  deliveries := by rw [h'.deliveries, h.deliveries, List.append_assoc]
  replies := by rw [h'.replies, h.replies, List.append_assoc]

/-- What serves nothing may come before or after. -/
theorem Serves.before {c d e : Client} {ds : List Delivery} {rs : List Bytes}
    (h : Serves c d [] []) (h' : Serves d e ds rs) : Serves c e ds rs :=
  h.trans h'

theorem Serves.quiet {c d e : Client} {ds : List Delivery} {rs : List Bytes}
    (h : Serves c d ds rs) (h' : Serves d e [] []) : Serves c e ds rs := by
  have htrans := h.trans h'
  rwa [List.append_nil, List.append_nil] at htrans

theorem Serves.handlersOf {c d : Client} {ds : List Delivery} {rs : List Bytes}
    (h : Serves c d ds rs) : d.handlersOf = c.handlersOf := by
  have hdefault : d.defaultMessageHandler = c.defaultMessageHandler :=
    (congrArg Client.defaultMessageHandler h.background.same :)
  funext topicName
  rw [Client.handlersOf, Client.handlersOf, h.background.messageHandlers, hdefault]

/-- A packet that the network takes. -/
theorem sendPacket_taken {c : Client} (h : c.ipstack.connected = true) (packet : Bytes)
    (hne : packet ≠ []) (htype : packetType packet ≠ MsgType.CONNECT.code) {sends : List Send}
    (htaken : takes packet.length sends = true) :
    ∃ d, c.sendPacket packet sends = (SUCCESS, d) ∧
      Serves c d [] ([packet].filter fun p => packetType p != MsgType.PINGREQ.code) := by
  have hback := c.background_sendPacket hne htype sends
  obtain ⟨ipstack, -, hstill, he⟩ := c.sendPacket_eq hne sends
  have hcompletes : c.completes packet sends = true := by
    rw [completes, h, htaken]
    rfl
  rw [he, if_pos hcompletes] at hback ⊢
  exact ⟨_, rfl, hback, hstill hcompletes, (List.append_nil _).symm, List.filter_append _ _⟩

theorem serves_keepalive {c : Client} (h : c.ipstack.connected = true) {e : Cycle}
    (he : takes 2 e.ping = true) : Serves c (c.keepalive e) [] [] := by
  unfold keepalive
  split_ifs
  · exact .refl h
  · obtain ⟨d, hd, hserves⟩ := sendPacket_taken h [192, 0] (by decide) (by decide) he
    have hping : serializePingreq 100 = .ok [192, 0] := by decide
    simp only [hping, hd, if_true]
    exact hserves.trans ⟨.of_silent rfl id rfl, hserves.up, (List.append_nil _).symm,
      (List.append_nil _).symm⟩
  · exact .refl h

theorem serves_pong {c : Client} (h : c.ipstack.connected = true) :
    Serves c { c with pingOutstanding := false } [] [] :=
  ⟨.of_silent rfl id rfl, h, (List.append_nil _).symm, (List.append_nil _).symm⟩

/-- A message with a QoS above 0 is acknowledged. -/
theorem serves_acknowledge {c : Client} (h : c.ipstack.connected = true) {message : Message}
    {sends : List Send} (htaken : takes 4 sends = true) {qos : QoS} (hqos : message.qos = qos.code)
    (hpos : message.qos ≠ QoS.QOS0.code) :
    ∃ d, c.acknowledge message sends = (SUCCESS, d) ∧ Serves c d [] (ackOf qos message.id) := by
  have hpuback : serializeAck 100 .PUBACK false message.id = .ok ([64, 2] ++ writeInt message.id) :=
    rfl
  have hpubrec : serializeAck 100 .PUBREC false message.id = .ok ([80, 2] ++ writeInt message.id) :=
    rfl
  have hreply : ∀ first : UInt8, headerType first ≠ MsgType.CONNECT.code →
      headerType first ≠ MsgType.PINGREQ.code → ∃ d,
        c.sendPacket ([first, 2] ++ writeInt message.id) sends = (SUCCESS, d) ∧
          Serves c d [] [[first, 2] ++ writeInt message.id] := by
    intro first hconnect hpingreq
    obtain ⟨d, hd, hserves⟩ :=
      sendPacket_taken h ([first, 2] ++ writeInt message.id) (List.cons_ne_nil _ _) hconnect htaken
    have hkept : (packetType ([first, 2] ++ writeInt message.id) != MsgType.PINGREQ.code) = true :=
      bne_iff_ne.mpr hpingreq
    simp only [List.filter_cons, List.filter_nil, hkept, if_true] at hserves
    exact ⟨d, hd, hserves⟩
  cases qos with
  | QOS0 => exact absurd hqos hpos
  | QOS1 =>
    rw [acknowledge, if_pos hqos, hpuback]
    exact hreply 64 (by decide) (by decide)
  | QOS2 =>
    have hne : message.qos ≠ QoS.QOS1.code := by
      rw [hqos]
      decide
    rw [acknowledge, if_neg hne, if_pos hqos, hpubrec]
    exact hreply 80 (by decide) (by decide)

/-- What `readPacket` leaves behind. -/
theorem serves_readPacket {c d : Client} {reads : PacketReads} {rc : Int}
    (h : c.readPacket reads = (rc, d)) (hup : d.ipstack.connected = true) : Serves c d [] [] := by
  have hback := c.background_readPacket reads
  obtain ⟨harrived, hwritten⟩ := c.arrived_readPacket reads
  rw [h] at hback harrived hwritten
  refine ⟨hback, hup, ?_, ?_⟩
  · rw [deliveries, harrived, List.append_nil]
    rfl
  · rw [replies, hwritten, List.append_nil]
    rfl

theorem serves_deliverMessage {c : Client} (h : c.ipstack.connected = true) (topicName : Bytes)
    (message : Message) :
    Serves c (c.deliverMessage topicName message)
      ((c.handlersOf topicName).map fun handler => .of (handler, topicName, message)) [] := by
  refine ⟨c.background_deliverMessage topicName message, h, ?_, (List.append_nil _).symm⟩
  rw [deliveries, deliverMessage, List.map_append, List.map_map]
  rfl

/-- What the client makes of a PUBLISH in its read buffer. -/
theorem messageOf_publish (dup retained : Bool) {qos : QoS} {packetid : Nat}
    {topicName payload : Bytes} (hid : packetid < 65536)
    (hfits : publishLength qos.code (.counted topicName) payload.length ≤ 98) (stale : Bytes) :
    ∃ p, deserializePublish ((Inbound.publish dup qos retained packetid topicName payload).bytes ++
        stale) = (1, some p) ∧
      ∀ stray, (messageOf p stray).1 = topicName ∧ (messageOf p stray).2.qos = qos.code ∧
        (0 < qos.code → (messageOf p stray).2.id = packetid) ∧
        ∀ handler, Delivery.of (handler, topicName, (messageOf p stray).2) =
          ⟨handler, topicName, qos.code, dup, retained, publishId qos.code packetid, payload⟩ := by
  have hpayload : payload.length ≤ 98 := by
    unfold publishLength at hfits
    omega
  have hqos : qos.code < 4 := by cases qos <;> decide
  have hserialize := Outgoing.serialize_of_fits (o := .publish dup qos.code retained packetid
    (.counted topicName) payload payload.length) (le_refl _)
  refine ⟨_, publish_read_back _ _ _ _ _ _ _ _ _ stale hserialize
    (Inbound.sound_topicName hfits) hqos hid (le_refl _) (by omega), ?_⟩
  intro stray
  have hmod : ((payload.length : Int) % 0x100000000).toNat = payload.length := by omega
  simp only [MQTTString.text_counted]
  simp only [messageOf, Option.getD_some, MQTTString.counted, List.take_length, hmod, true_and,
    Delivery.of, Message.text, List.take_left, publishId]
  constructor
  · intro hpos
    rw [if_pos hpos, Option.getD_some]
  · intro handler
    split_ifs <;> rfl

/-- A PUBLISH in the read buffer, with nothing refused. -/
theorem cycle_publish {c : Client} {e : Cycle} {dup retained : Bool} {qos : QoS} {packetid : Nat}
    {topicName payload : Bytes} (he : e.Taken) (hid : packetid < 65536)
    (hfits : publishLength qos.code (.counted topicName) payload.length ≤ 98) {d : Client}
    (hread : c.readPacket e.reads = ((MsgType.PUBLISH.code : Int), d))
    (hup : d.ipstack.connected = true) {stale : Bytes} (hreadbuf : d.readbuf =
      (Inbound.publish dup qos retained packetid topicName payload).bytes ++ stale) :
    ∃ g, c.cycle e = ((MsgType.PUBLISH.code : Int), g) ∧ Serves c g
      ((Inbound.publish dup qos retained packetid topicName payload).deliveries c.handlersOf)
      (ackOf qos packetid) := by
  obtain ⟨p, hp, hmessage⟩ := messageOf_publish dup retained hid hfits stale
  obtain ⟨htopic, hqos, hid', hdelivery⟩ := hmessage e.stray
  have hserves := serves_readPacket hread hup
  have hdeliver := hserves.before (serves_deliverMessage hup topicName (messageOf p e.stray).2)
  simp only [hserves.handlersOf, hdelivery] at hdeliver
  rw [cycle]
  simp only [hread, if_true, hreadbuf, hp, htopic]
  by_cases hzero : (messageOf p e.stray).2.qos = QoS.QOS0.code
  · obtain rfl : qos = .QOS0 := by
      rw [hqos] at hzero
      cases qos with
      | QOS0 => rfl
      | QOS1 => exact absurd hzero (by decide)
      | QOS2 => exact absurd hzero (by decide)
    rw [if_pos hzero]
    exact ⟨_, rfl, hdeliver.quiet (serves_keepalive hdeliver.up he.2)⟩
  · obtain ⟨g, hg, hack⟩ := serves_acknowledge hdeliver.up he.1 hqos hzero
    rw [hid' (by rw [← hqos]; exact Nat.pos_of_ne_zero hzero)] at hack
    have hacked := hdeliver.trans hack
    rw [List.append_nil, List.nil_append] at hacked
    rw [if_neg hzero, hg]
    simp only
    rw [if_neg (by decide)]
    exact ⟨_, rfl, hacked.quiet (serves_keepalive hack.up he.2)⟩

theorem readbuf_keepalive (c : Client) (e : Cycle) : (c.keepalive e).readbuf = c.readbuf := by
  have hsend : ∀ packet, (c.sendPacket packet e.ping).2.readbuf = c.readbuf := by
    intro packet
    unfold sendPacket
    rcases c.ipstack.sendAll packet e.ping with ⟨done, ipstack⟩
    cases done <;> rfl
  unfold keepalive
  split_ifs
  · rfl
  · cases serializePingreq 100 with
    | error _ => rfl
    | ok packet =>
      simp only
      split_ifs <;> exact hsend packet
  · rfl

/-- A packet of another type stays in the read buffer. -/
theorem cycle_other {c : Client} (h : c.ipstack.connected = true) {f : Frame}
    (htype : headerType f.first ≠ MsgType.PUBLISH.code) (hlen : f.body.length ≤ 98) {e : Cycle}
    (he : e.Taken) (rest : Bytes) :
    (supply (f.bytes ++ rest)).2 = rest ∧
      ∃ d, c.cycle { e with reads := (supply (f.bytes ++ rest)).1 } =
          ((headerType f.first : Int), d) ∧
        Serves c d [] [] ∧ ∃ stale, d.readbuf = f.bytes ++ stale := by
  obtain ⟨hrest, d, hd, hreadbuf, hread⟩ := readPacket_frame h f hlen rest
  refine ⟨hrest, ?_⟩
  have hserves := serves_readPacket hread hd
  have htype' : (headerType f.first : Int) ≠ MsgType.PUBLISH.code := by exact_mod_cast htype
  rw [cycle]
  simp only [hread, if_neg htype']
  split_ifs
  · have hpong := hserves.before (serves_pong hd)
    refine ⟨_, rfl, hpong.before (serves_keepalive hpong.up he.2), ?_⟩
    rw [readbuf_keepalive]
    exact hreadbuf
  · refine ⟨_, rfl, hserves.before (serves_keepalive hd he.2), ?_⟩
    rw [readbuf_keepalive]
    exact hreadbuf

/-- **One packet, one pass of `cycle`.** -/
theorem cycle_inbound {c : Client} (h : c.ipstack.connected = true) {a : Inbound} (ha : a.Valid)
    {e : Cycle} (he : e.Taken) (rest : Bytes) :
    (supply (a.bytes ++ rest)).2 = rest ∧
      ∃ d, c.cycle { e with reads := (supply (a.bytes ++ rest)).1 } = (a.result, d) ∧
        Serves c d (a.deliveries c.handlersOf) a.replies := by
  cases a with
  | publish dup qos retained packetid topicName payload =>
    obtain ⟨hid, hfits⟩ := ha
    obtain ⟨f, hf, hfirst, hlen⟩ := Inbound.frame_publish dup retained packetid hfits
    obtain ⟨hrest, d, hd, ⟨stale, hreadbuf⟩, hread⟩ := readPacket_frame h f hlen rest
    rw [hf] at hrest hread hreadbuf
    rw [hfirst] at hread
    refine ⟨hrest, ?_⟩
    exact cycle_publish (e := { e with reads := _ }) he hid hfits hread hd hreadbuf
  | other f =>
    obtain ⟨hrest, d, hd, hserves, -⟩ := cycle_other h ha.1 ha.2 he rest
    exact ⟨hrest, d, hd, hserves⟩
  | tooLong first n =>
    obtain ⟨hlong, hn⟩ := ha
    obtain ⟨hrest, d, hd, hread⟩ := readPacket_tooLong h first hlong hn rest
    refine ⟨hrest, ?_⟩
    rw [Inbound.bytes, List.cons_append, cycle]
    simp only [hread]
    rw [if_neg (by decide), if_neg (by decide)]
    exact ⟨_, rfl, (serves_readPacket hread hd).before (serves_keepalive hd he.2)⟩

end Client

/-! ## Streams -/

/-- What is handed over for some packets. -/
def deliveriesOf (handlersOf : Bytes → List MessageHandler) (as : List Inbound) : List Delivery :=
  as.flatMap (Inbound.deliveries handlersOf)

/-- A packet, and a pass of `cycle` that takes it. -/
def Suits (a : Inbound) (e : Cycle) : Prop := a.Valid ∧ e.Taken

/-- **Packets that fit are taken one by one.** Over a connection that is up, `yield` with a pass for
each packet of the stream succeeds, hands over each PUBLISH once, as it was sent, to the handlers
of its topic name, acknowledges it, and leaves what follows. -/
theorem yield_stream (c : Client) (as : List Inbound) (es : List Cycle) (rest : Bytes)
    (hup : c.ipstack.connected = true) (h : List.Forall₂ Suits as es)
    (hfit : ∀ a ∈ as, 0 ≤ a.result) :
    (deal (as.flatMap Inbound.bytes ++ rest) es).2 = rest ∧
      ∃ d, c.yield (deal (as.flatMap Inbound.bytes ++ rest) es).1 = (SUCCESS, d) ∧
        c.Serves d (deliveriesOf c.handlersOf as) (as.flatMap Inbound.replies) := by
  induction h generalizing c with
  | nil => exact ⟨rfl, c, rfl, .refl hup⟩
  | @cons a e as es hsuits hlater ih =>
    rw [List.forall_mem_cons] at hfit
    obtain ⟨hrest, d, hd, hserves⟩ :=
      Client.cycle_inbound hup hsuits.1 hsuits.2 (as.flatMap Inbound.bytes ++ rest)
    obtain ⟨hleft, g, hg, hserves'⟩ := ih d hserves.up hfit.2
    rw [hserves.handlersOf] at hserves'
    rw [List.flatMap_cons, List.append_assoc, deal]
    simp only [hrest]
    refine ⟨hleft, g, ?_, hserves.trans hserves'⟩
    rw [Client.yield, hd]
    simp only
    rw [if_neg (Int.not_lt.mpr hfit.1), hg]

/-- A client whose connection is up. -/
def upClient : Client := { Client.zeroed with ipstack := ⟨0, true, false⟩ }

/-- A pass whose writes the network takes. -/
def takenCycle : Cycle :=
  ⟨⟨.notReadable, [], .notReadable⟩, ⟨[], 0, [], 0⟩, [.took 4], false, false, [.took 2]⟩

/-- A message to be acknowledged. -/
def toTopic (payload : Bytes) : Inbound := .publish false .QOS1 false 1 (ascii "t") payload

theorem suits_toTopic {payload : Bytes} (h : payload.length ≤ 93) :
    Suits (toTopic payload) takenCycle := by
  have hlen : (MQTTString.counted (ascii "t")).strlen = 1 := by decide
  have hid : (if 0 < QoS.QOS1.code then 2 else 0) = 2 := rfl
  refine ⟨⟨by decide, ?_⟩, by decide, by decide⟩
  rw [publishLength, hlen, hid]
  omega

/-- Two messages, and a packet behind them. -/
theorem yield_stream_two :
    ∃ d, upClient.yield (deal ([toTopic [1], toTopic [2]].flatMap Inbound.bytes ++ [192, 0])
        [takenCycle, takenCycle]).1 = (SUCCESS, d) ∧
      upClient.Serves d (deliveriesOf upClient.handlersOf [toTopic [1], toTopic [2]])
        ([toTopic [1], toTopic [2]].flatMap Inbound.replies) :=
  (yield_stream upClient _ _ [192, 0] rfl
    (.cons (suits_toTopic (by decide)) (.cons (suits_toTopic (by decide)) .nil))
    (by simp [toTopic, Inbound.result])).2

/-- The same with the headers of packets that do not fit, for single passes of `cycle`. -/
theorem pump_stream {c : Client} (as : List Inbound) {es : List Cycle} (rest : Bytes)
    (hup : c.ipstack.connected = true) (h : List.Forall₂ Suits as es) :
    ∃ d, run pump (c, as.flatMap Inbound.bytes ++ rest) es = (d, rest) ∧
      c.Serves d (deliveriesOf c.handlersOf as) (as.flatMap Inbound.replies) := by
  refine run_frames (fun c : Client => c.ipstack.connected = true) Suits
    (fun c as d => c.Serves d (deliveriesOf c.handlersOf as) (as.flatMap Inbound.replies))
    (fun c hup => .refl hup) ?_ ?_ hup h rest
  · intro c d g a as hserves hserves'
    rw [hserves.handlersOf] at hserves'
    have htrans := hserves.trans hserves'
    simp only [deliveriesOf, ← List.flatMap_append, List.singleton_append] at htrans
    exact htrans
  · intro c a e rest hup hsuits
    obtain ⟨hrest, d, hd, hserves⟩ := Client.cycle_inbound hup hsuits.1 hsuits.2 rest
    refine ⟨d, ?_, hserves.up, ?_⟩
    · simp only [pump, hd, hrest]
    · simpa only [deliveriesOf, List.flatMap_singleton] using hserves

/-- The topic name of a PUBLISH, taken for a packet. -/
def topicFrame (topicName : Bytes) (h : topicName.length ≤ 98) : Frame :=
  ⟨0, topicName, lt_of_le_of_lt h (by decide)⟩

theorem bytes_topicFrame {topicName : Bytes} (h : topicName.length ≤ 98) :
    (topicFrame topicName h).bytes = writeInt topicName.length ++ topicName := by
  have hhigh : topicName.length / 256 = 0 := by omega
  have hlow : topicName.length % 256 = topicName.length := Nat.mod_eq_of_lt (by omega)
  rw [Frame.bytes, topicFrame, packetEncode_of_lt (show topicName.length < 128 by omega), writeInt,
    hhigh, hlow]
  rfl

/-- **The payload of a PUBLISH that does not fit is taken for packets.** Whatever packets a payload
is made of, the passes of `cycle` hand over and acknowledge what is in them, as if the broker had
sent them; the message itself is not handed over. -/
theorem pump_oversized (c : Client) (buflen packetid : Nat) (dup retained : Bool)
    (topicName packet rest : Bytes) (as : List Inbound) (e e' : Cycle) (es : List Cycle)
    (hpacket : serializePublish buflen dup QoS.QOS0.code retained packetid (.counted topicName)
      (as.flatMap Inbound.bytes) (as.flatMap Inbound.bytes).length = .ok packet)
    (htopic : topicName.length ≤ 98)
    (hlong : 98 < 2 + topicName.length + (as.flatMap Inbound.bytes).length)
    (hshort : 2 + topicName.length + (as.flatMap Inbound.bytes).length < 2 ^ 28)
    (hup : c.ipstack.connected = true) (he : e.Taken) (he' : e'.Taken)
    (h : List.Forall₂ Suits as es) :
    ∃ d, run pump (c, packet ++ rest) (e :: e' :: es) = (d, rest) ∧
      c.Serves d (deliveriesOf c.handlersOf as) (as.flatMap Inbound.replies) := by
  set payload := as.flatMap Inbound.bytes with hpayload
  set n := 2 + topicName.length + payload.length with hn
  have hsound : (MQTTString.counted topicName).Sound := MQTTString.sound_counted (by omega)
  have hbytes : packet = (Inbound.tooLong (header .PUBLISH dup 0 retained) n).bytes ++
      ((topicFrame topicName htopic).bytes ++ payload) := by
    have hwhole := Outgoing.bytes_of_serialize (o := .publish dup QoS.QOS0.code retained packetid
      (.counted topicName) payload payload.length) hpacket
    have htext : (MQTTString.counted topicName).write = writeInt topicName.length ++ topicName := by
      rw [hsound.write, MQTTString.text_counted]
    rw [hwhole, bytes_topicFrame, ← htext, Outgoing.bytes, Outgoing.body, if_neg (by decide),
      List.append_nil, List.take_length]
    rfl
  have htype : headerType (topicFrame topicName htopic).first ≠ MsgType.PUBLISH.code :=
    show headerType 0 ≠ 3 by decide
  have hstream := pump_stream (.tooLong (header .PUBLISH dup 0 retained) n ::
    .other (topicFrame topicName htopic) :: as) rest hup
    (.cons ⟨⟨hlong, hshort⟩, he⟩ (.cons ⟨⟨htype, htopic⟩, he'⟩ h))
  rw [List.flatMap_cons, List.flatMap_cons, ← hpayload, Inbound.bytes] at hstream
  rw [hbytes]
  exact hstream

/-- Two messages, in the payload of a third. -/
def smuggled : List Inbound :=
  [toTopic (List.replicate 45 1), toTopic (List.replicate 45 2)]

theorem pump_oversized_smuggled :
    ∃ packet d, serializePublish 200 false QoS.QOS0.code false 0 (.counted (ascii "s"))
        (smuggled.flatMap Inbound.bytes) (smuggled.flatMap Inbound.bytes).length = .ok packet ∧
      run pump (upClient, packet ++ [192, 0]) (List.replicate 4 takenCycle) = (d, [192, 0]) ∧
      upClient.Serves d (deliveriesOf upClient.handlersOf smuggled)
        (smuggled.flatMap Inbound.replies) := by
  have htaken : takenCycle.Taken := ⟨by decide, by decide⟩
  have htopic : (ascii "s").length = 1 := by decide
  have hlen : (smuggled.flatMap Inbound.bytes).length = 104 := by decide +kernel
  have hfits : packetLen (Outgoing.publish false QoS.QOS0.code false 0 (.counted (ascii "s"))
      (smuggled.flatMap Inbound.bytes) (smuggled.flatMap Inbound.bytes).length).remLen ≤ 200 := by
    rw [Outgoing.remLen, hlen]
    decide
  have hpacket := Outgoing.serialize_of_fits hfits
  obtain ⟨d, hd⟩ := pump_oversized upClient 200 0 false false (ascii "s") _ [192, 0] smuggled
    takenCycle takenCycle (List.replicate 2 takenCycle) hpacket (by omega) (by omega) (by omega) rfl
    htaken htaken (.cons (suits_toTopic (by decide)) (.cons (suits_toTopic (by decide)) .nil))
  exact ⟨_, d, hpacket, hd⟩

end Thethings.Mqtt
