import Thethings.Mqtt.Client

/-!
# What the operations of the client change

One lemma for each operation of `MQTT::Client` that the program uses, on top of what reading,
pinging and acknowledging leave alone.

Choices:

* A relation between two clients says that one is the other but for some fields, by setting these
  back (`rewind`); so all other fields are equal at once, those that no statement names among them.
* The packets that were written matter here as a list that only grows, and only by packets that are
  no CONNECT (`WritesOn`).
* Whether an operation succeeds is asked of the network's outcomes: what a write takes
  (`completes`), and what answer the passes bring (`accepted`).
* The messages are those of the program, with QoS 0, and the sessions clean ones; the calls in
  general are in `Calls`.

Results:

* `Background`: what reading, pinging and acknowledging leave alone. Whatever arrives, a pass of
  `cycle` changes neither whether the client is connected nor its handler table, brings up no
  connection, and writes no CONNECT. Everything that waits (`waitfor`, `yield`) inherits it.
* `connect_spec`, `publishMessage_spec`, `subscribe_spec`: the operations from there, each with the
  exact condition under which it succeeds.
-/

namespace Thethings.Mqtt

open Library

theorem FAILURE_ne : FAILURE ≠ SUCCESS := by decide

/-- `c'` with what a pass of `cycle` may change as `c` has it: the connection, the read buffer, the
ping flag and the two records. -/
def Client.rewind (c' c : Client) : Client :=
  { c' with
    ipstack := c.ipstack
    readbuf := c.readbuf
    pingOutstanding := c.pingOutstanding
    written := c.written
    arrived := c.arrived }

/-- More packets are written, none of them a CONNECT. -/
def WritesOn (written written' : List Bytes) : Prop :=
  ∃ packets, written' = written ++ packets ∧
    ∀ packet ∈ packets, packetType packet ≠ MsgType.CONNECT.code

namespace WritesOn

theorem refl (written : List Bytes) : WritesOn written written :=
  ⟨[], (List.append_nil _).symm, fun _ h => absurd h List.not_mem_nil⟩

theorem trans {written written' written'' : List Bytes} (h : WritesOn written written')
    (h' : WritesOn written' written'') : WritesOn written written'' := by
  obtain ⟨ps, rfl, hps⟩ := h
  obtain ⟨qs, rfl, hqs⟩ := h'
  refine ⟨ps ++ qs, List.append_assoc _ _ _, fun p hp => ?_⟩
  rcases List.mem_append.mp hp with hp | hp
  · exact hps p hp
  · exact hqs p hp

theorem one (written : List Bytes) {packet : Bytes}
    (h : packetType packet ≠ MsgType.CONNECT.code) : WritesOn written (written ++ [packet]) :=
  ⟨[packet], rfl, fun p hp => by rwa [List.mem_singleton.mp hp]⟩

end WritesOn

/-- `c'` is `c` after some passes of `cycle`. -/
structure Background (c c' : Client) : Prop where
  same : c'.rewind c = c
  /-- a connection that is down stays down -/
  up : c'.ipstack.connected = true → c.ipstack.connected = true
  /-- no CONNECT is written -/
  written : WritesOn c.written c'.written

namespace Background

theorem refl (c : Client) : Background c c := ⟨rfl, id, .refl _⟩

theorem trans {c c' c'' : Client} (h : Background c c') (h' : Background c' c'') :
    Background c c'' where
  same := (congrArg (Client.rewind · c) h'.same).trans h.same
  up hup := h.up (h'.up hup)
  written := h.written.trans h'.written

/-- Nothing but the connection, the read buffer, the ping flag and the arrivals. -/
theorem of_silent {c c' : Client} (hsame : c'.rewind c = c)
    (hup : c'.ipstack.connected = true → c.ipstack.connected = true)
    (hwritten : c'.written = c.written) : Background c c' :=
  ⟨hsame, hup, hwritten ▸ .refl _⟩

theorem ite {c : Client} {p : Prop} [Decidable p] {x y : Int × Client} (hx : Background c x.2)
    (hy : Background c y.2) : Background c (if p then x else y).2 := by
  split_ifs
  · exact hx
  · exact hy

variable {c c' : Client}

theorem isconnected (h : Background c c') : c'.isconnected = c.isconnected :=
  (congrArg Client.isconnected h.same :)

theorem messageHandlers (h : Background c c') : c'.messageHandlers = c.messageHandlers :=
  (congrArg Client.messageHandlers h.same :)

theorem inflightMsgid (h : Background c c') : c'.inflightMsgid = c.inflightMsgid :=
  (congrArg Client.inflightMsgid h.same :)

theorem cleansession (h : Background c c') : c'.cleansession = c.cleansession :=
  (congrArg Client.cleansession h.same :)

end Background

/-! ## One pass of `cycle` -/

namespace Client

/-- The network takes the packet: the connection is up and the outcomes of the writes add up. -/
def completes (c : Client) (packet : Bytes) (sends : List Send) : Bool :=
  c.ipstack.connected && takes packet.length sends

/-- **A packet gets out exactly when the network takes it**, and leaves the connection up. -/
theorem sendPacket_eq (c : Client) {packet : Bytes} (hne : packet ≠ []) (sends : List Send) :
    ∃ ipstack : TCPSocketConnection, (ipstack.connected = true → c.ipstack.connected = true) ∧
      (c.completes packet sends = true → ipstack.connected = true) ∧
      c.sendPacket packet sends =
        if c.completes packet sends then
          (SUCCESS, { c with ipstack := ipstack, written := c.written ++ [packet] })
        else (FAILURE, { c with ipstack := ipstack }) := by
  have hdone : (c.ipstack.sendAll packet sends).1 = c.completes packet sends := by
    rw [Bool.eq_iff_iff, (TCPSocketConnection.sendAll_iff hne).1, completes, Bool.and_eq_true]
  refine ⟨(c.ipstack.sendAll packet sends).2, TCPSocketConnection.connected_sendAll, ?_, ?_⟩
  · rw [← hdone]
    exact (TCPSocketConnection.sendAll_iff hne).2
  · rw [← hdone, sendPacket]
    rcases c.ipstack.sendAll packet sends with ⟨done, ipstack⟩
    cases done <;> rfl

theorem background_sendPacket (c : Client) {packet : Bytes} (hne : packet ≠ [])
    (h : packetType packet ≠ MsgType.CONNECT.code) (sends : List Send) :
    Background c (c.sendPacket packet sends).2 := by
  obtain ⟨ipstack, hup, -, he⟩ := c.sendPacket_eq hne sends
  rw [he]
  refine Background.ite ?_ (Background.of_silent rfl hup rfl)
  exact ⟨rfl, hup, .one _ h⟩

theorem connected_decodeGroups (ipstack : TCPSocketConnection) (k multiplier : Nat)
    (recvs : List Recv) (h : (decodeGroups ipstack k multiplier recvs).2.connected = true) :
    ipstack.connected = true := by
  induction k generalizing ipstack multiplier recvs with
  | zero => exact h
  | succ k ih =>
    refine ipstack.connected_read 1 (recvs.headD .notReadable) ?_
    rw [decodeGroups] at h
    rcases he : ipstack.read 1 (recvs.headD .notReadable) with ⟨n, bytes, ipstack'⟩
    rw [he] at h
    match bytes, h with
    | [], h => exact h
    | [c], h =>
      simp only at h
      split_ifs at h
      · exact h
      · exact ih _ _ _ h
    | _ :: _ :: _, h => exact h

theorem background_readPacket (c : Client) (reads : PacketReads) :
    Background c (c.readPacket reads).2 := by
  have hheader := c.ipstack.connected_read 1 reads.header
  unfold readPacket
  rcases he : c.ipstack.read 1 reads.header with ⟨n, header, s₁⟩
  rw [he] at hheader
  have hdecode := connected_decodeGroups s₁ 4 1 reads.length
  have hbody := (decodeGroups s₁ 4 1 reads.length).2.connected_read
    (decodeGroups s₁ 4 1 reads.length).1 reads.body
  refine Background.ite (Background.of_silent rfl hheader rfl) ?_
  refine Background.ite (Background.of_silent rfl (fun h => hheader (hdecode h)) rfl) ?_
  refine Background.ite (Background.ite ?_ ?_) ?_
  · exact Background.of_silent rfl (fun h => hheader (hdecode (hbody h))) rfl
  · exact Background.of_silent rfl (fun h => hheader (hdecode (hbody h))) rfl
  · exact Background.of_silent rfl (fun h => hheader (hdecode h)) rfl

/-- A packet with a short body, all of which arrives. -/
theorem readPacket_whole {c : Client} (h : c.ipstack.connected = true) (first n : UInt8)
    {body : Bytes} (hn : body.length = n.toNat) (hpos : 0 < n.toNat) (hfits : n.toNat ≤ 98) :
    ∃ d : Client, d.ipstack.connected = true ∧ (∃ rest, d.readbuf = first :: n :: body ++ rest) ∧
      c.readPacket ⟨.got [first], [.got [n]], .got body⟩ = ((headerType first : Int), d) := by
  have h1 := TCPSocketConnection.connected_still h
  have h2 := TCPSocketConnection.connected_still h1
  have hbody : body ≠ [] := fun h0 => by
    rw [h0, List.length_nil] at hn
    omega
  have hencode : packetEncode n.toNat = [n] := by
    rw [packetEncode_of_lt (by omega), Nat.toUInt8_eq, UInt8.ofNat_toNat]
  have hdecode : ∀ {s : TCPSocketConnection}, s.connected = true →
      decodePacket s [.got [n]] = (n.toNat, { s with blocking := false, isConnected := true }) := by
    intro s hs
    rw [decodePacket, decodeGroups, List.headD_cons,
      TCPSocketConnection.read_got hs (List.cons_ne_nil n []) (le_refl 1)]
    simp only [if_pos (show n.toNat < 128 by omega), Nat.mul_one]
  have hroom : ¬ 100 < n.toNat + [first, n].length := by
    simp only [List.length_cons, List.length_nil]
    omega
  unfold readPacket
  rw [TCPSocketConnection.read_got h (List.cons_ne_nil first []) (le_refl 1)]
  simp only [List.length_singleton, Int.natCast_one, ne_eq, not_true_eq_false, if_false,
    hdecode h1, hencode, if_pos hpos, List.singleton_append]
  rw [if_neg hroom, TCPSocketConnection.read_got h2 hbody (by omega)]
  simp only [hn, not_true_eq_false, if_false]
  exact ⟨_, TCPSocketConnection.connected_still h2, ⟨_, rfl⟩, rfl⟩

theorem background_deliverMessage (c : Client) (topicName : Bytes) (message : Message) :
    Background c (c.deliverMessage topicName message) :=
  Background.of_silent rfl id rfl

theorem code_ne_connect {type : MsgType} (h : type ≠ .CONNECT) :
    type.code ≠ MsgType.CONNECT.code := by
  cases type with
  | CONNECT => exact absurd rfl h
  | _ => decide

/-- A packet of another type is no CONNECT. -/
theorem background_send_serialized (c : Client) {buflen remLen qos : Nat} {type : MsgType}
    {dup retain : Bool} {rest packet : Bytes} (hne : type ≠ .CONNECT)
    (h : serialize buflen (header type dup qos retain) remLen rest = .ok packet)
    (sends : List Send) : Background c (c.sendPacket packet sends).2 :=
  c.background_sendPacket (serialize_spec h).1
    (by rw [(serialize_spec h).2]; exact code_ne_connect hne) sends

/-- While both timers run nothing is pinged. -/
theorem keepalive_of_running (c : Client) {e : Cycle} (hsent : e.sentExpired = false)
    (hreceived : e.receivedExpired = false) : c.keepalive e = c := by
  unfold keepalive
  simp only [hsent, hreceived, Bool.or_false, Bool.false_and, Bool.false_eq_true, if_false,
    ite_self]

theorem background_keepalive (c : Client) (e : Cycle) : Background c (c.keepalive e) := by
  unfold keepalive
  split_ifs
  · exact Background.refl c
  · cases hp : serializePingreq 100 with
    | error _ => exact Background.refl c
    | ok packet =>
      have hp' : serialize 100 (header .PINGREQ false 0 false) 0 [] = .ok packet := hp
      have hsend := c.background_send_serialized (by decide) hp' e.ping
      have hping : Background (c.sendPacket packet e.ping).2
          { (c.sendPacket packet e.ping).2 with pingOutstanding := true } :=
        Background.of_silent rfl id rfl
      simp only
      split_ifs
      · exact hsend.trans hping
      · exact hsend
  · exact Background.refl c

theorem background_acknowledge (c : Client) (message : Message) (sends : List Send) :
    Background c (c.acknowledge message sends).2 := by
  have hack : ∀ {type : MsgType}, type ≠ .CONNECT →
      Background c (c.sendBuilt (serializeAck 100 type false message.id) sends).2 := by
    intro type hne
    cases hp : serializeAck 100 type false message.id with
    | error _ => exact Background.refl c
    | ok packet => exact c.background_send_serialized hne hp sends
  unfold acknowledge
  by_cases h1 : message.qos = QoS.QOS1.code
  · rw [if_pos h1]
    exact hack (by decide)
  · rw [if_neg h1]
    by_cases h2 : message.qos = QoS.QOS2.code
    · rw [if_pos h2]
      exact hack (by decide)
    · rw [if_neg h2]
      exact Background.refl c

/-- **One pass of `cycle`, whatever arrives.** -/
theorem background_cycle (c : Client) (e : Cycle) : Background c (c.cycle e).2 := by
  have hread := c.background_readPacket e.reads
  unfold cycle
  rcases hr : c.readPacket e.reads with ⟨type, c₁⟩
  rw [hr] at hread
  refine Background.ite ?_ (Background.ite ?_ ?_)
  · split
    · rename_i p _
      have hdeliver := hread.trans
        (c₁.background_deliverMessage (messageOf p e.stray).1 (messageOf p e.stray).2)
      refine Background.ite (hdeliver.trans (background_keepalive _ e)) ?_
      have hack := hdeliver.trans (background_acknowledge _ (messageOf p e.stray).2 e.ack)
      exact Background.ite hack (hack.trans (background_keepalive _ e))
    · exact hread
  · have hping : Background c₁ { c₁ with pingOutstanding := false } :=
      Background.of_silent rfl id rfl
    exact (hread.trans hping).trans (background_keepalive _ e)
  · exact hread.trans (background_keepalive _ e)

theorem background_waitfor (type : MsgType) (rc : Int) (c : Client) (cycles : List Cycle) :
    Background c (waitfor type rc c cycles).2 := by
  induction cycles generalizing rc c with
  | nil => exact Background.refl c
  | cons e es ih =>
    have hcycle := c.background_cycle e
    exact Background.ite hcycle (hcycle.trans (ih _ _))

theorem background_yield (c : Client) (cycles : List Cycle) :
    Background c (c.yield cycles).2 := by
  induction cycles generalizing c with
  | nil => exact Background.refl c
  | cons e es ih =>
    have hcycle := c.background_cycle e
    exact Background.ite hcycle (hcycle.trans (ih _))

end Client

/-! ## The operations -/

/-- What every operation but `connect` has in common: it brings up no connection, writes no CONNECT,
puts nothing in flight and keeps the session's kind. -/
structure NoConnect (c c' : Client) : Prop where
  up : c'.ipstack.connected = true → c.ipstack.connected = true
  written : WritesOn c.written c'.written
  inflightMsgid : c.inflightMsgid = 0 → c'.inflightMsgid = 0
  cleansession : c'.cleansession = c.cleansession

theorem Background.noConnect {c c' : Client} (h : Background c c') : NoConnect c c' :=
  ⟨h.up, h.written, fun h0 => h.inflightMsgid.trans h0, h.cleansession⟩

namespace NoConnect

theorem refl (c : Client) : NoConnect c c := (Background.refl c).noConnect

theorem trans {c c' c'' : Client} (h : NoConnect c c') (h' : NoConnect c' c'') :
    NoConnect c c'' where
  up hup := h.up (h'.up hup)
  written := h.written.trans h'.written
  inflightMsgid h0 := h'.inflightMsgid (h.inflightMsgid h0)
  cleansession := h'.cleansession.trans h.cleansession

/-- Cleaning the session writes nothing. -/
theorem cleanSession (c : Client) : NoConnect c c.cleanSession :=
  ⟨id, .refl _, fun _ => rfl, rfl⟩

end NoConnect

namespace HandlerTable

/-- No topic filter is set. -/
def Free (t : HandlerTable) : Prop := ∀ slot ∈ t.slots, slot.topicFilter = none

/-- A slot holds this filter with this handler. -/
def Has (t : HandlerTable) (topicFilter : Bytes) (handler : MessageHandler) : Prop :=
  ∃ slot ∈ t.slots, slot.topicFilter = some topicFilter ∧ slot.fp = some handler

theorem clear_free (t : HandlerTable) : t.clear.Free := by
  intro slot hs
  obtain ⟨slot', -, rfl⟩ := List.mem_map.mp hs
  rfl

theorem Free.not_has {t : HandlerTable} (h : t.Free) (topicFilter : Bytes)
    (handler : MessageHandler) : ¬ t.Has topicFilter handler := by
  rintro ⟨slot, hs, hf, -⟩
  rw [h slot hs] at hf
  exact absurd hf (by simp)

/-- A free table has room. -/
theorem Free.register {t : HandlerTable} (h : t.Free) (topicFilter : Bytes)
    (handler : MessageHandler) :
    (t.register topicFilter handler).2 = true ∧
      (t.register topicFilter handler).1.Has topicFilter handler := by
  obtain ⟨slots, hfive⟩ := t
  match slots, hfive with
  | slot :: slots, hfive =>
    have hs : slot.topicFilter = none := h slot List.mem_cons_self
    have hreg : registerSlots topicFilter handler (slot :: slots) =
        (⟨some topicFilter, some handler⟩ :: slots, true) := by rw [registerSlots, if_pos hs]
    refine ⟨congrArg Prod.snd hreg, ⟨some topicFilter, some handler⟩, ?_, rfl, rfl⟩
    show _ ∈ (registerSlots topicFilter handler (slot :: slots)).1
    rw [hreg]
    exact List.mem_cons_self

end HandlerTable

namespace Client

/-! ### Publish -/

/-- The packet of a message with QoS 0. -/
def publishPacketOf (topicName : Bytes) (message : Message) : Except Int Bytes :=
  serializePublish 100 false QoS.QOS0.code message.retained 0 (.ofCString topicName)
    message.payload message.payloadlen

theorem publishPacketOf_ok_iff (topicName : Bytes) (message : Message) :
    (∃ packet, publishPacketOf topicName message = .ok packet) ↔
      2 + (cstr topicName).length + message.payloadlen ≤ 98 := by
  rw [publishPacketOf, serializePublish, serialize_ok_iff, packetLen_le_iff]
  rfl

/-- The size of that packet. -/
theorem length_publishPacketOf {topicName packet : Bytes} {message : Message}
    (hlen : message.payloadlen ≤ message.payload.length)
    (h : publishPacketOf topicName message = .ok packet) :
    packet.length = 4 + (cstr topicName).length + message.payloadlen := by
  rw [length_of_serialize h]
  simp only [MQTTString.write, MQTTString.ofCString, writeCString, writeInt, QoS.code, lt_irrefl,
    if_false, List.length_append, List.length_cons, List.length_nil, List.length_take]
  omega

/-- With QoS 0 the packet gets out, or the session is cleaned. -/
theorem publishPacket_eq (c : Client) {packet : Bytes} (hne : packet ≠ []) (net : PublishNet) :
    ∃ ipstack : TCPSocketConnection, (ipstack.connected = true → c.ipstack.connected = true) ∧
      (c.completes packet net.sends = true → ipstack.connected = true) ∧
      c.publishPacket packet QoS.QOS0.code net =
        if c.completes packet net.sends then
          (SUCCESS, { c with ipstack := ipstack, written := c.written ++ [packet] })
        else (FAILURE, { c with ipstack := ipstack }.cleanSession) := by
  obtain ⟨ipstack, hup, hcompletes, he⟩ := c.sendPacket_eq hne net.sends
  refine ⟨ipstack, hup, hcompletes, ?_⟩
  rw [publishPacket, he]
  cases c.completes packet net.sends <;> rfl

/-- A publish with QoS 0, its packet in one place. -/
theorem publishMessage_eq (c : Client) (topicName : Bytes) {message : Message}
    (hqos : message.qos = QoS.QOS0.code) (net : PublishNet) :
    c.publishMessage topicName message net =
      if c.isconnected = false then (FAILURE, c)
      else
        match publishPacketOf topicName message with
        | .error _ => (FAILURE, c)
        | .ok packet =>
          (c.keepInflight packet 0 QoS.QOS0.code).publishPacket packet QoS.QOS0.code net := by
  unfold publishMessage publish publishPacketOf
  by_cases hconn : c.isconnected = false
  · rw [if_pos hconn, if_pos hconn]
  · rw [if_neg hconn, if_neg hconn, hqos]
    rfl

theorem publishPacketOf_ne_nil {topicName packet : Bytes} {message : Message}
    (h : publishPacketOf topicName message = .ok packet) : packet ≠ [] :=
  (serialize_spec h).1

/-- **A publish with QoS 0 succeeds exactly when** the client is connected, the packet fits and the
network takes it. -/
theorem publishMessage_success_iff (c : Client) (topicName : Bytes) {message : Message}
    (hqos : message.qos = QoS.QOS0.code) (net : PublishNet) :
    (c.publishMessage topicName message net).1 = SUCCESS ↔
      c.isconnected = true ∧ ∃ packet, publishPacketOf topicName message = .ok packet ∧
        c.completes packet net.sends = true := by
  rw [publishMessage_eq c topicName hqos]
  cases hconn : c.isconnected with
  | false => simp
  | true =>
    cases hp : publishPacketOf topicName message with
    | error _ => simp
    | ok packet =>
      simp only [Bool.true_eq_false, if_false, Except.ok.injEq, true_and, exists_eq_left']
      obtain ⟨_, -, -, he⟩ := (c.keepInflight packet 0 QoS.QOS0.code).publishPacket_eq
        (publishPacketOf_ne_nil hp) net
      have hsame : (c.keepInflight packet 0 QoS.QOS0.code).completes packet net.sends =
          c.completes packet net.sends := by
        unfold keepInflight
        split_ifs <;> rfl
      rw [he, hsame]
      cases c.completes packet net.sends <;> simp

/-- What a publish with QoS 0 leaves behind: the client as it was, where it is not connected or the
packet is too long; else the client with the packet written, or with its session cleaned. -/
theorem publishMessage_cases {c : Client} (hclean : c.cleansession = true) (topicName : Bytes)
    {message : Message} (hqos : message.qos = QoS.QOS0.code) (net : PublishNet) :
    (c.publishMessage topicName message net).2 = c ∨
    ∃ packet, publishPacketOf topicName message = .ok packet ∧
      ∃ ipstack : TCPSocketConnection, (ipstack.connected = true → c.ipstack.connected = true) ∧
        ((c.publishMessage topicName message net).2 =
            { c with ipstack := ipstack, written := c.written ++ [packet] } ∨
          (c.publishMessage topicName message net).2 =
            { c with ipstack := ipstack }.cleanSession) := by
  have hkeep : ∀ packet, c.keepInflight packet 0 QoS.QOS0.code = c := fun _ => if_pos hclean
  rw [publishMessage_eq c topicName hqos]
  by_cases hconn : c.isconnected = false
  · rw [if_pos hconn]
    exact Or.inl rfl
  · rw [if_neg hconn]
    cases hp : publishPacketOf topicName message with
    | error _ => exact Or.inl rfl
    | ok packet =>
      obtain ⟨ipstack, hup, -, he⟩ := publishPacket_eq c (publishPacketOf_ne_nil hp) net
      refine Or.inr ⟨packet, rfl, ipstack, hup, ?_⟩
      simp only [hkeep, he]
      split_ifs
      · exact Or.inl rfl
      · exact Or.inr rfl

/-- **A publish writes no CONNECT**, and leaves a client connected only as it found it. -/
theorem publishMessage_spec {c : Client} (hclean : c.cleansession = true) (topicName : Bytes)
    {message : Message} (hqos : message.qos = QoS.QOS0.code) (net : PublishNet) :
    NoConnect c (c.publishMessage topicName message net).2 ∧
      ((c.publishMessage topicName message net).2.isconnected = c.isconnected ∧
          (c.publishMessage topicName message net).2.messageHandlers = c.messageHandlers ∨
        (c.publishMessage topicName message net).2.isconnected = false ∧
          (c.publishMessage topicName message net).2.messageHandlers.Free) := by
  rcases publishMessage_cases hclean topicName hqos net with
    he | ⟨packet, hp, ipstack, hup, he | he⟩
  · rw [he]
    exact ⟨NoConnect.refl c, Or.inl ⟨rfl, rfl⟩⟩
  · have htype : packetType packet ≠ MsgType.CONNECT.code := by
      rw [(serialize_spec hp).2]
      exact code_ne_connect (by decide)
    rw [he]
    exact ⟨⟨hup, .one _ htype, id, rfl⟩, Or.inl ⟨rfl, rfl⟩⟩
  · have hdown : Background c { c with ipstack := ipstack } := Background.of_silent rfl hup rfl
    rw [he]
    exact ⟨hdown.noConnect.trans (NoConnect.cleanSession _),
      Or.inr ⟨rfl, HandlerTable.clear_free _⟩⟩

/-! ### Subscribe -/

/-- A result that is `SUCCESS` only where the client is connected and the handler registered. -/
structure Registers (c : Client) (topicFilter : Bytes) (handler : MessageHandler)
    (r : Int × Client) : Prop where
  noConnect : NoConnect c r.2
  registered : r.1 = SUCCESS →
    r.2.isconnected = true ∧ r.2.messageHandlers.Has topicFilter handler

namespace Registers

variable {c : Client} {topicFilter : Bytes} {handler : MessageHandler}

theorem failed {d : Client} (h : NoConnect c d) {rc : Int} (hrc : rc ≠ SUCCESS) :
    Registers c topicFilter handler (rc, d) :=
  ⟨h, fun h => absurd h hrc⟩

theorem ite {p : Prop} [Decidable p] {x y : Int × Client}
    (hx : p → Registers c topicFilter handler x) (hy : ¬ p → Registers c topicFilter handler y) :
    Registers c topicFilter handler (if p then x else y) := by
  split_ifs with h
  · exact hx h
  · exact hy h

/-- With a free table, a SUBACK that is no refusal registers the handler. -/
theorem granted {d : Client} (h : NoConnect c d) (hconn : d.isconnected = true)
    (hfree : d.messageHandlers.Free) :
    Registers c topicFilter handler (d.granted topicFilter handler) := by
  obtain ⟨hfound, hhas⟩ := hfree.register topicFilter handler
  unfold Client.granted
  refine ite (fun hrefused => failed h ?_) fun _ => ?_
  · rw [hrefused]
    decide
  · rcases he : d.messageHandlers.register topicFilter handler with ⟨table, found⟩
    rw [he] at hfound hhas
    obtain rfl : found = true := hfound
    exact ⟨⟨h.up, h.written, h.inflightMsgid, h.cleansession⟩, fun _ => ⟨hconn, hhas⟩⟩

/-- The two ends of `subscribe`. -/
theorem orClean {r : Int × Client} (h : Registers c topicFilter handler r) :
    NoConnect c (orClean r).2 ∧
      ((orClean r).2.isconnected = true ∧ (orClean r).2.messageHandlers.Has topicFilter handler ∨
        (orClean r).2.isconnected = false ∧ (orClean r).2.messageHandlers.Free) := by
  obtain ⟨rc, d⟩ := r
  by_cases hrc : rc = SUCCESS
  · rw [Client.orClean, if_neg (not_not_intro hrc)]
    exact ⟨h.noConnect, Or.inl (h.registered hrc)⟩
  · rw [Client.orClean, if_pos hrc]
    exact ⟨h.noConnect.trans (NoConnect.cleanSession d),
      Or.inr ⟨rfl, HandlerTable.clear_free _⟩⟩

end Registers

/-- **A subscribe ends in one of two ways**: the client is connected with the handler in its table,
or it is not connected and the table is free. -/
theorem subscribe_spec {c : Client} (hfree : c.messageHandlers.Free) (topicFilter : Bytes)
    (qos : QoS) (handler : MessageHandler) (net : SubscribeNet) :
    NoConnect c (c.subscribe topicFilter qos handler net).2 ∧
      ((c.subscribe topicFilter qos handler net).2.isconnected = true ∧
          (c.subscribe topicFilter qos handler net).2.messageHandlers.Has topicFilter handler ∨
        (c.subscribe topicFilter qos handler net).2.isconnected = false ∧
          (c.subscribe topicFilter qos handler net).2.messageHandlers.Free) := by
  have hnext : NoConnect c { c with packetid := getNext c.packetid } := ⟨id, .refl _, id, rfl⟩
  refine Registers.orClean (Registers.ite (fun _ => ?_) fun hconn => ?_)
  · exact Registers.failed (NoConnect.refl c) FAILURE_ne
  · simp only
    cases hp : serializeSubscribe 100 false (getNext c.packetid) (.ofCString topicFilter)
        qos.code with
    | error _ => exact Registers.failed hnext FAILURE_ne
    | ok packet =>
      have hsend := background_send_serialized { c with packetid := getNext c.packetid }
        (show MsgType.SUBSCRIBE ≠ .CONNECT by decide) hp net.sends
      have hwait := hsend.trans (background_waitfor .SUBACK FAILURE _ net.cycles)
      refine Registers.ite (fun hrc => ?_) fun _ => Registers.ite (fun _ => ?_) fun _ => ?_
      · exact Registers.failed (hnext.trans hsend.noConnect) hrc
      · refine Registers.granted (hnext.trans hwait.noConnect) ?_ ?_
        · rw [hwait.isconnected]
          simpa using hconn
        · rw [hwait.messageHandlers]
          exact hfree
      · exact Registers.failed (hnext.trans hwait.noConnect) FAILURE_ne

/-! ### Connect -/

/-- The CONNECT gets out, and the answer that is waited for is an acceptance. -/
def accepted (c : Client) (options : ConnectData) (packet : Bytes) (net : ConnectNet) : Bool :=
  c.completes packet net.sends &&
    decide ((((c.setOptions options).sendPacket packet net.sends).2.awaitConnack net.cycles).1 =
      SUCCESS)

theorem connect_of_connected {c : Client} (h : c.isconnected = true) (options : ConnectData)
    (net : ConnectNet) : c.connect options net = (FAILURE, c) :=
  if_pos h

theorem background_awaitConnack (c : Client) (cycles : List Cycle) :
    Background c (c.awaitConnack cycles).2 := by
  have hwait := background_waitfor .CONNACK FAILURE c cycles
  unfold awaitConnack
  refine Background.ite ?_ hwait
  split <;> exact hwait

/-- Nothing is in flight with QoS 0 and a clean session. -/
theorem resend_of_zero {c : Client} (h : c.inflightMsgid = 0) (rc : Int) (net : PublishNet) :
    resend rc c net = (rc, c) :=
  if_neg (by rw [h]; exact lt_irrefl 0)

/-- The wait for the answer sets `isconnected` by it, and is background otherwise. -/
theorem finishConnect_spec {c : Client} (hinflight : c.inflightMsgid = 0) (net : ConnectNet) :
    ∃ d, Background c d ∧ (c.finishConnect net).2 =
      { d with
        isconnected := decide ((c.awaitConnack net.cycles).1 = SUCCESS) || c.isconnected } := by
  have hwait := c.background_awaitConnack net.cycles
  refine ⟨(c.awaitConnack net.cycles).2, hwait, ?_⟩
  have hzero := hwait.inflightMsgid.trans hinflight
  simp only [finishConnect, resend_of_zero hzero]
  split_ifs with hrc
  · rw [hrc]
    rfl
  · rw [decide_eq_false hrc, Bool.false_or, ← hwait.isconnected]

/-- **A connect, from a client that is not connected.** It connects exactly when it is accepted; it
writes its CONNECT exactly when the network takes it; and the handler table is as it was. -/
theorem connect_spec {c : Client} (hconn : c.isconnected = false) (hinflight : c.inflightMsgid = 0)
    {options : ConnectData} {packet : Bytes} (hpacket : serializeConnect 100 options = .ok packet)
    (net : ConnectNet) :
    (c.connect options net).2.isconnected = c.accepted options packet net ∧
    (c.connect options net).2.messageHandlers = c.messageHandlers ∧
    (c.connect options net).2.cleansession = options.cleansession ∧
    (c.connect options net).2.inflightMsgid = 0 ∧
    ((c.connect options net).2.ipstack.connected = true → c.ipstack.connected = true) ∧
    (c.completes packet net.sends = false → (c.connect options net).2.written = c.written) ∧
    (c.completes packet net.sends = true → ∃ packets,
      (c.connect options net).2.written = c.written ++ packet :: packets ∧
        ∀ p ∈ packets, packetType p ≠ MsgType.CONNECT.code) := by
  obtain ⟨ipstack, hup, -, he⟩ :=
    (c.setOptions options).sendPacket_eq (serialize_spec hpacket).1 net.sends
  have hsame : (c.setOptions options).completes packet net.sends = c.completes packet net.sends :=
    rfl
  unfold connect accepted
  rw [if_neg (by rw [hconn]; decide), hpacket]
  simp only [he, hsame]
  cases c.completes packet net.sends with
  | false => exact ⟨hconn, rfl, rfl, hinflight, hup, fun _ => rfl,
      fun h => absurd h Bool.false_ne_true⟩
  | true =>
    obtain ⟨d, hd, hfinish⟩ := finishConnect_spec (c := { c.setOptions options with
      ipstack := ipstack
      written := c.written ++ [packet] }) hinflight net
    obtain ⟨packets, hpackets, hnone⟩ := hd.written
    have hconn' : (c.setOptions options).isconnected = false := hconn
    simp only [if_true, ne_eq, not_true_eq_false, if_false, Bool.true_and]
    rw [show (c.setOptions options).written = c.written from rfl, hfinish]
    refine ⟨?_, hd.messageHandlers, hd.cleansession, hd.inflightMsgid.trans hinflight,
      fun h => hup (hd.up h), fun h => absurd h.symm Bool.false_ne_true,
      fun _ => ⟨packets, ?_, hnone⟩⟩
    · simp only [hconn', Bool.or_false]
    · simp only [hpackets, List.append_assoc, List.cons_append, List.nil_append]

end Client

end Thethings.Mqtt
