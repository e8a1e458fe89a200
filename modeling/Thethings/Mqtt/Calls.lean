import Thethings.Mqtt.Stream

/-!
# Every call of the client

`Call` is every method of `MQTT::Client` (`MQTTClient.h`) with what the network does meanwhile,
those the program does not use among them: `setDefaultMessageHandler` l.113-118, `unsubscribe` l.774
and `disconnect` l.923.

Choices:

* The connection under the client is made and lost outside of it, so a call of a run may also put
  any connection in its place; the records of what was written go on.
* What a call does while it waits is the same for all of them, passes of `cycle`. So a relation is
  shown once for each thing a pass does (`Passes`), and holds of whatever waits.
* How a call ends is an inductive type for each (`PublishEnds` and its like), with one case for each
  way out. Every invariant of runs is shown of these cases, not of the calls.

Results:

* `Passes`: the relations that everything a pass of `cycle` does keeps, and with it all that waits.
* `Hears`: one of them. A client that waits writes and reads packets, and calls only the handlers
  that its table has for the topic name, or the default one.
* `publish_cases`, `subscribe_cases`, `unsubscribe_cases`, `connect_cases`, `disconnect_cases`: what
  a call does before it waits, and how it ends.
-/

namespace Thethings.Mqtt

open Library

/-- The first slot with the topic filter is freed. -/
def forgetSlots (topicFilter : Bytes) : List Slot → List Slot
  | [] => []
  | slot :: slots =>
    if slot.topicFilter.map cstr = some (cstr topicFilter) then
      { slot with topicFilter := none } :: slots
    else slot :: forgetSlots topicFilter slots

theorem length_forgetSlots (topicFilter : Bytes) (slots : List Slot) :
    (forgetSlots topicFilter slots).length = slots.length := by
  induction slots with
  | nil => rfl
  | cons slot slots ih =>
    rw [forgetSlots]
    split_ifs
    · rfl
    · rw [List.length_cons, List.length_cons, ih]

/-- The removal at the end of `unsubscribe`. -/
def HandlerTable.forget (t : HandlerTable) (topicFilter : Bytes) : HandlerTable where
  slots := forgetSlots topicFilter t.slots
  five := by rw [length_forgetSlots, t.five]

namespace Client

/-- `setDefaultMessageHandler(mh)`. -/
def setDefaultMessageHandler (c : Client) (mh : MessageHandler) : Client :=
  { c with defaultMessageHandler := some mh }

/-- The end of `unsubscribe`, once an UNSUBACK is there. -/
def forgotten (c : Client) (topicFilter : Bytes) : Int × Client :=
  match deserializeUnsuback c.readbuf with
  | (1, _) => (0, { c with messageHandlers := c.messageHandlers.forget topicFilter })
  | _ => (SUCCESS, c)

/-- `unsubscribe(topicFilter)`. -/
def unsubscribe (c : Client) (topicFilter : Bytes) (net : SubscribeNet) : Int × Client :=
  orClean <|
    if c.isconnected = false then (FAILURE, c)
    else
      let c := { c with packetid := getNext c.packetid }
      match serializeUnsubscribe 100 false c.packetid [.ofCString topicFilter] with
      | .error _ => (FAILURE, c)
      | .ok packet =>
        match c.sendPacket packet net.sends with
        | (rc, c) =>
          if rc ≠ SUCCESS then (rc, c)
          else
            match c.waitfor .UNSUBACK FAILURE net.cycles with
            | (type, c) =>
              if type = MsgType.UNSUBACK.code then c.forgotten topicFilter else (FAILURE, c)

/-- `disconnect()`. -/
def disconnect (c : Client) (sends : List Send) : Int × Client :=
  match c.sendBuilt (serializeDisconnect 100) sends with
  | (rc, c) => (rc, if c.cleansession then c.cleanSession else { c with isconnected := false })

end Client

/-- A call, with what the network does during it. The connection itself is made and lost outside of
the client. -/
inductive Call where
  | network (ipstack : TCPSocketConnection)
  | setDefaultMessageHandler (mh : MessageHandler)
  | connect (options : ConnectData) (net : Client.ConnectNet)
  | publish (topicName payload : Bytes) (payloadlen id qos : Nat) (retained : Bool)
      (net : Client.PublishNet)
  | subscribe (topicFilter : Bytes) (qos : QoS) (handler : MessageHandler)
      (net : Client.SubscribeNet)
  | unsubscribe (topicFilter : Bytes) (net : Client.SubscribeNet)
  | yield (cycles : List Cycle)
  | disconnect (sends : List Send)

namespace Client

/-- The result of a call, and the client after it. -/
def call (c : Client) : Call → Int × Client
  | .network ipstack => (SUCCESS, { c with ipstack := ipstack })
  | .setDefaultMessageHandler mh => (SUCCESS, c.setDefaultMessageHandler mh)
  | .connect options net => c.connect options net
  | .publish topicName payload payloadlen id qos retained net =>
    c.publish topicName payload payloadlen id qos retained net
  | .subscribe topicFilter qos handler net => c.subscribe topicFilter qos handler net
  | .unsubscribe topicFilter net => c.unsubscribe topicFilter net
  | .yield cycles => c.yield cycles
  | .disconnect sends => c.disconnect sends

/-- The client after a call. -/
def step (c : Client) (i : Call) : Client := (c.call i).2

/-! ## Waiting -/

/-- `d` is `c` after some packets were written and read. -/
structure Hears (c d : Client) : Prop where
  same : d.rewind c = c
  calls : ∃ calls, d.arrived = c.arrived ++ calls ∧ ∀ a ∈ calls, a.1 ∈ c.handlersOf a.2.1

namespace Hears

/-- Nothing is handed over. -/
theorem of_silent {c d : Client} (hsame : d.rewind c = c) (harrived : d.arrived = c.arrived) :
    Hears c d :=
  ⟨hsame, [], by rw [harrived, List.append_nil], fun _ h => absurd h List.not_mem_nil⟩

theorem refl (c : Client) : Hears c c := of_silent rfl rfl

variable {c d : Client}

theorem messageHandlers (h : Hears c d) : d.messageHandlers = c.messageHandlers :=
  (congrArg Client.messageHandlers h.same :)

theorem defaultMessageHandler (h : Hears c d) :
    d.defaultMessageHandler = c.defaultMessageHandler :=
  (congrArg Client.defaultMessageHandler h.same :)

theorem isconnected (h : Hears c d) : d.isconnected = c.isconnected :=
  (congrArg Client.isconnected h.same :)

theorem inflightMsgid (h : Hears c d) : d.inflightMsgid = c.inflightMsgid :=
  (congrArg Client.inflightMsgid h.same :)

theorem pubbuf (h : Hears c d) : d.pubbuf = c.pubbuf := (congrArg Client.pubbuf h.same :)

theorem packetid (h : Hears c d) : d.packetid = c.packetid := (congrArg Client.packetid h.same :)

theorem handlersOf (h : Hears c d) : d.handlersOf = c.handlersOf := by
  funext topicName
  rw [Client.handlersOf, Client.handlersOf, h.messageHandlers, h.defaultMessageHandler]

theorem trans {e : Client} (h : Hears c d) (h' : Hears d e) : Hears c e := by
  refine ⟨(congrArg (Client.rewind · c) h'.same).trans h.same, ?_⟩
  obtain ⟨calls, hcalls, hall⟩ := h.calls
  obtain ⟨calls', hcalls', hall'⟩ := h'.calls
  refine ⟨calls ++ calls', by rw [hcalls', hcalls, List.append_assoc], fun a ha => ?_⟩
  rcases List.mem_append.mp ha with ha | ha
  · exact hall a ha
  · rw [← h.handlersOf]
    exact hall' a ha

end Hears

theorem hears_sendPacket (c : Client) (packet : Bytes) (sends : List Send) :
    Hears c (c.sendPacket packet sends).2 := by
  unfold sendPacket
  rcases c.ipstack.sendAll packet sends with ⟨done, ipstack⟩
  cases done <;> exact .of_silent rfl rfl

theorem hears_sendBuilt (c : Client) (packet : Except Int Bytes) (sends : List Send) :
    Hears c (c.sendBuilt packet sends).2 := by
  cases packet with
  | error _ => exact .refl c
  | ok packet => exact c.hears_sendPacket packet sends

theorem hears_deliverMessage (c : Client) (topicName : Bytes) (message : Message) :
    Hears c (c.deliverMessage topicName message) := by
  refine ⟨rfl, _, rfl, fun a ha => ?_⟩
  obtain ⟨handler, hhandler, rfl⟩ := List.mem_map.mp ha
  exact hhandler

/-- Everything that a pass of `cycle` does keeps the relation. -/
structure Passes (R : Client → Client → Prop) : Prop where
  refl : ∀ c, R c c
  trans : ∀ {c d e}, R c d → R d e → R c e
  read : ∀ c reads, R c (c.readPacket reads).2
  deliver : ∀ c topicName message, R c (c.deliverMessage topicName message)
  ping : ∀ c outstanding, R c { c with pingOutstanding := outstanding }
  send : ∀ c packet sends, packetType packet = MsgType.PINGREQ.code ∨
    packetType packet = MsgType.PUBACK.code ∨ packetType packet = MsgType.PUBREC.code →
      R c (c.sendPacket packet sends).2

namespace Passes

variable {R : Client → Client → Prop}

theorem ite {c : Client} {p : Prop} [Decidable p] {x y : Int × Client} (hx : R c x.2)
    (hy : R c y.2) : R c (if p then x else y).2 := by
  split_ifs
  · exact hx
  · exact hy

theorem keepalive (h : Passes R) (c : Client) (e : Cycle) : R c (c.keepalive e) := by
  unfold Client.keepalive
  split_ifs
  · exact h.refl c
  · have hpingreq : serializePingreq 100 = .ok [192, 0] := by decide
    have hsend := h.send c [192, 0] e.ping (Or.inl (by decide))
    simp only [hpingreq]
    split_ifs
    · exact h.trans hsend (h.ping _ true)
    · exact hsend
  · exact h.refl c

theorem acknowledge (h : Passes R) (c : Client) (message : Message) (sends : List Send) :
    R c (c.acknowledge message sends).2 := by
  have hack : ∀ type : MsgType, type = .PUBACK ∨ type = .PUBREC →
      R c (c.sendBuilt (serializeAck 100 type false message.id) sends).2 := by
    intro type htype
    cases hp : serializeAck 100 type false message.id with
    | error _ => exact h.refl c
    | ok packet =>
      refine h.send c packet sends (Or.inr ?_)
      rw [(serialize_spec hp).2]
      rcases htype with rfl | rfl
      · exact Or.inl rfl
      · exact Or.inr rfl
  unfold Client.acknowledge
  by_cases h1 : message.qos = QoS.QOS1.code
  · rw [if_pos h1]
    exact hack .PUBACK (Or.inl rfl)
  · rw [if_neg h1]
    by_cases h2 : message.qos = QoS.QOS2.code
    · rw [if_pos h2]
      exact hack .PUBREC (Or.inr rfl)
    · rw [if_neg h2]
      exact h.refl c

/-- **One pass.** -/
theorem cycle (h : Passes R) (c : Client) (e : Cycle) : R c (c.cycle e).2 := by
  have hread := h.read c e.reads
  unfold Client.cycle
  rcases hr : c.readPacket e.reads with ⟨type, d⟩
  rw [hr] at hread
  refine ite ?_ (ite ?_ ?_)
  · split
    · rename_i p _
      have hdeliver := h.trans hread
        (h.deliver d (messageOf p e.stray).1 (messageOf p e.stray).2)
      have hack := h.trans hdeliver (h.acknowledge _ (messageOf p e.stray).2 e.ack)
      exact ite (h.trans hdeliver (h.keepalive _ e)) (ite hack (h.trans hack (h.keepalive _ e)))
    · exact hread
  · exact h.trans (h.trans hread (h.ping d false)) (h.keepalive _ e)
  · exact h.trans hread (h.keepalive _ e)

theorem waitfor (h : Passes R) (type : MsgType) (rc : Int) (c : Client) (cycles : List Cycle) :
    R c (Client.waitfor type rc c cycles).2 := by
  induction cycles generalizing rc c with
  | nil => exact h.refl c
  | cons e es ih => exact ite (h.cycle c e) (h.trans (h.cycle c e) (ih _ _))

theorem yield (h : Passes R) (c : Client) (cycles : List Cycle) : R c (c.yield cycles).2 := by
  induction cycles generalizing c with
  | nil => exact h.refl c
  | cons e es ih => exact ite (h.cycle c e) (h.trans (h.cycle c e) (ih _))

theorem awaitConnack (h : Passes R) (c : Client) (cycles : List Cycle) :
    R c (c.awaitConnack cycles).2 := by
  have hwait := h.waitfor .CONNACK FAILURE c cycles
  unfold Client.awaitConnack
  refine ite ?_ hwait
  split <;> exact hwait

end Passes

theorem passes_hears : Passes Hears where
  refl := .refl
  trans := .trans
  read c reads := .of_silent (c.background_readPacket reads).same (c.arrived_readPacket reads).1
  deliver := hears_deliverMessage
  ping _ _ := .of_silent rfl rfl
  send c packet sends _ := c.hears_sendPacket packet sends

/-! ## What a call does around it -/

/-- How a sent publish ends: with the message in flight or not, or with the session cleaned. -/
inductive PublishEnds (m : Client) : Int × Client → Prop
  | sent : PublishEnds m (SUCCESS, m)
  | acked : PublishEnds m (SUCCESS, { m with inflightMsgid := 0 })
  | lost (rc : Int) (h : rc ≠ SUCCESS) : PublishEnds m (rc, m.cleanSession)

/-- How a subscribe ends: registered, with a table that is full, or with the session cleaned. -/
inductive SubscribeEnds (topicFilter : Bytes) (handler : MessageHandler) (m : Client) :
    Int × Client → Prop
  | registered (table : HandlerTable)
      (h : m.messageHandlers.register topicFilter handler = (table, true)) :
      SubscribeEnds topicFilter handler m (SUCCESS, { m with messageHandlers := table })
  | full (h : (m.messageHandlers.register topicFilter handler).2 = false) :
      SubscribeEnds topicFilter handler m (SUCCESS, m)
  | refused (rc : Int) (h : rc ≠ SUCCESS) :
      SubscribeEnds topicFilter handler m (rc, m.cleanSession)

/-- How an unsubscribe ends. -/
inductive UnsubscribeEnds (topicFilter : Bytes) (m : Client) : Int × Client → Prop
  | forgotten : UnsubscribeEnds topicFilter m
      (SUCCESS, { m with messageHandlers := m.messageHandlers.forget topicFilter })
  | kept : UnsubscribeEnds topicFilter m (SUCCESS, m)
  | lost (rc : Int) (h : rc ≠ SUCCESS) : UnsubscribeEnds topicFilter m (rc, m.cleanSession)

/-- How a connect ends: with the client connected, or with a code that is no success; in between
the message in flight may have been acknowledged, or lost with the session. -/
inductive ConnectEnds (m : Client) : Int × Client → Prop
  | connected : ConnectEnds m (SUCCESS, { m with isconnected := true })
  | acked : ConnectEnds m (SUCCESS, { m with inflightMsgid := 0, isconnected := true })
  | failed (rc : Int) (h : rc ≠ SUCCESS) : ConnectEnds m (rc, m)
  | lost (rc : Int) (h : rc ≠ SUCCESS) : ConnectEnds m (rc, m.cleanSession)

theorem publishPacket_cases (c : Client) (packet : Bytes) (qos : Nat) (net : PublishNet) :
    ∃ m, Hears c m ∧ PublishEnds m (c.publishPacket packet qos net) := by
  have hsend := c.hears_sendPacket packet net.sends
  unfold publishPacket
  rcases he : c.sendPacket packet net.sends with ⟨rc, m⟩
  rw [he] at hsend
  simp only
  split_ifs with hrc hqos htype
  · exact ⟨m, hsend, .lost rc hrc⟩
  · have hwait := hsend.trans (passes_hears.waitfor .PUBACK FAILURE m net.cycles)
    refine ⟨_, hwait, ?_⟩
    split
    · split_ifs
      · exact .acked
      · exact .sent
    · exact .lost FAILURE FAILURE_ne
  · exact ⟨_, hsend.trans (passes_hears.waitfor .PUBACK FAILURE m net.cycles),
      .lost FAILURE FAILURE_ne⟩
  · exact ⟨m, hsend, .sent⟩

/-- The id of a message: the next one where it is to be acknowledged. -/
def idFor (c : Client) (id qos : Nat) : Nat :=
  if qos = QoS.QOS1.code ∨ qos = QoS.QOS2.code then getNext c.packetid else id

/-- The client once the id is drawn. -/
def drawFor (c : Client) (qos : Nat) : Client :=
  if qos = QoS.QOS1.code ∨ qos = QoS.QOS2.code then { c with packetid := getNext c.packetid } else c

theorem publish_eq (c : Client) (topicName payload : Bytes) (payloadlen id qos : Nat)
    (retained : Bool) (net : PublishNet) :
    c.publish topicName payload payloadlen id qos retained net =
      if c.isconnected = false then (FAILURE, c)
      else
        match serializePublish 100 false qos retained (c.idFor id qos) (.ofCString topicName)
          payload payloadlen with
        | .error _ => (FAILURE, c.drawFor qos)
        | .ok packet =>
          ((c.drawFor qos).keepInflight packet (c.idFor id qos) qos).publishPacket packet qos
            net := by
  have hdraw : (if qos = QoS.QOS1.code ∨ qos = QoS.QOS2.code then
      { c with packetid := c.idFor id qos } else c) = c.drawFor qos := by
    unfold drawFor idFor
    split_ifs <;> rfl
  rw [← hdraw]
  rfl

/-- **A publish** is refused with nothing done but an id drawn, or its packet is kept and sent. -/
theorem publish_cases (c : Client) (topicName payload : Bytes) (payloadlen id qos : Nat)
    (retained : Bool) (net : PublishNet) :
    c.isconnected = false ∧
        c.publish topicName payload payloadlen id qos retained net = (FAILURE, c) ∨
      c.isconnected = true ∧
        (c.publish topicName payload payloadlen id qos retained net = (FAILURE, c.drawFor qos) ∨
        ∃ packet, serializePublish 100 false qos retained (c.idFor id qos) (.ofCString topicName)
            payload payloadlen = .ok packet ∧
          ∃ m, Hears ((c.drawFor qos).keepInflight packet (c.idFor id qos) qos) m ∧
            PublishEnds m (c.publish topicName payload payloadlen id qos retained net)) := by
  rw [publish_eq]
  cases hconn : c.isconnected with
  | false => exact Or.inl ⟨rfl, if_pos rfl⟩
  | true =>
    refine Or.inr ⟨rfl, ?_⟩
    rw [if_neg (by decide)]
    cases serializePublish 100 false qos retained (c.idFor id qos) (.ofCString topicName) payload
        payloadlen with
    | error _ => exact Or.inl rfl
    | ok packet => exact Or.inr ⟨packet, rfl, publishPacket_cases _ packet qos net⟩

/-- The client that sends a subscribe or an unsubscribe: with an id drawn, where it is connected. -/
def drawn (c : Client) : Client :=
  if c.isconnected = false then c else { c with packetid := getNext c.packetid }

theorem orClean_failed (m : Client) {rc : Int} (h : rc ≠ SUCCESS) :
    orClean (rc, m) = (rc, m.cleanSession) := by
  rw [orClean, if_pos h]

theorem orClean_success (m : Client) : orClean (SUCCESS, m) = (SUCCESS, m) := by
  rw [orClean, if_neg (not_not_intro rfl)]

/-- The end of `subscribe` behind a SUBACK. -/
theorem granted_ends (m : Client) (topicFilter : Bytes) (handler : MessageHandler) :
    SubscribeEnds topicFilter handler m (orClean (m.granted topicFilter handler)) := by
  unfold granted
  split_ifs with hrefused
  · rw [orClean_failed m (by rw [hrefused]; decide)]
    exact .refused _ (by rw [hrefused]; decide)
  · rcases he : m.messageHandlers.register topicFilter handler with ⟨table, found⟩
    cases found with
    | true =>
      rw [orClean_success]
      exact .registered table he
    | false =>
      by_cases hzero : m.grantedQoS = SUCCESS
      · simp only [hzero]
        rw [orClean_success]
        exact .full (by rw [he])
      · simp only
        rw [orClean_failed m hzero]
        exact .refused _ hzero

/-- **A subscribe** draws an id, waits, and ends in one of three ways. -/
theorem subscribe_cases (c : Client) (topicFilter : Bytes) (qos : QoS) (handler : MessageHandler)
    (net : SubscribeNet) :
    ∃ m, Hears c.drawn m ∧
      SubscribeEnds topicFilter handler m (c.subscribe topicFilter qos handler net) := by
  have hlost : ∀ m : Client, SubscribeEnds topicFilter handler m (orClean (FAILURE, m)) := by
    intro m
    rw [orClean_failed m FAILURE_ne]
    exact .refused FAILURE FAILURE_ne
  unfold subscribe drawn
  by_cases hconn : c.isconnected = false
  · rw [if_pos hconn, if_pos hconn]
    exact ⟨c, .refl c, hlost c⟩
  · rw [if_neg hconn, if_neg hconn]
    simp only
    cases serializeSubscribe 100 false (getNext c.packetid) (.ofCString topicFilter) qos.code with
    | error _ => exact ⟨_, .refl _, hlost _⟩
    | ok packet =>
      have hsend := hears_sendPacket { c with packetid := getNext c.packetid } packet net.sends
      have hwait := hsend.trans (passes_hears.waitfor .SUBACK FAILURE _ net.cycles)
      simp only
      split_ifs with hrc htype
      · exact ⟨_, hsend, by rw [orClean_failed _ hrc]; exact .refused _ hrc⟩
      · exact ⟨_, hwait, granted_ends _ topicFilter handler⟩
      · exact ⟨_, hwait, hlost _⟩

/-- **An unsubscribe** draws an id, waits, and ends in one of three ways. -/
theorem unsubscribe_cases (c : Client) (topicFilter : Bytes) (net : SubscribeNet) :
    ∃ m, Hears c.drawn m ∧ UnsubscribeEnds topicFilter m (c.unsubscribe topicFilter net) := by
  have hlost : ∀ m : Client, UnsubscribeEnds topicFilter m (orClean (FAILURE, m)) := by
    intro m
    rw [orClean_failed m FAILURE_ne]
    exact .lost FAILURE FAILURE_ne
  unfold unsubscribe drawn
  by_cases hconn : c.isconnected = false
  · rw [if_pos hconn, if_pos hconn]
    exact ⟨c, .refl c, hlost c⟩
  · rw [if_neg hconn, if_neg hconn]
    simp only
    cases serializeUnsubscribe 100 false (getNext c.packetid) [.ofCString topicFilter] with
    | error _ => exact ⟨_, .refl _, hlost _⟩
    | ok packet =>
      have hsend := hears_sendPacket { c with packetid := getNext c.packetid } packet net.sends
      have hwait := hsend.trans (passes_hears.waitfor .UNSUBACK FAILURE _ net.cycles)
      simp only
      split_ifs with hrc htype
      · exact ⟨_, hsend, by rw [orClean_failed _ hrc]; exact .lost _ hrc⟩
      · refine ⟨_, hwait, ?_⟩
        unfold forgotten
        split
        · rw [orClean_success]
          exact .forgotten
        · rw [orClean_success]
          exact .kept
      · exact ⟨_, hwait, hlost _⟩

/-- The end of `connect` behind the answer. -/
theorem resend_cases {c d : Client} (rc : Int) (hwait : Hears c d) (net : ConnectNet) :
    ∃ m, Hears c m ∧ ConnectEnds m ((resend rc d net.resend).1,
      if (resend rc d net.resend).1 = SUCCESS then
        { (resend rc d net.resend).2 with isconnected := true }
      else (resend rc d net.resend).2) := by
  unfold resend
  by_cases hinflight : 0 < d.inflightMsgid
  · obtain ⟨m, hm, hends⟩ := d.publishPacket_cases d.pubbuf d.inflightQoS net.resend
    refine ⟨m, hwait.trans hm, ?_⟩
    rw [if_pos hinflight]
    generalize d.publishPacket d.pubbuf d.inflightQoS net.resend = r at hends ⊢
    cases hends with
    | sent => exact .connected
    | acked => exact .acked
    | lost rc hrc =>
      rw [if_neg hrc]
      exact .lost rc hrc
  · refine ⟨d, hwait, ?_⟩
    rw [if_neg hinflight]
    by_cases hrc : rc = SUCCESS
    · rw [if_pos hrc, hrc]
      exact .connected
    · rw [if_neg hrc]
      exact .failed rc hrc

/-- **A connect** does nothing to a client that is connected; else it keeps the options, waits, and
ends in one of four ways. -/
theorem connect_cases (c : Client) (options : ConnectData) (net : ConnectNet) :
    c.connect options net = (FAILURE, c) ∨
      ∃ m, Hears (c.setOptions options) m ∧ ConnectEnds m (c.connect options net) := by
  unfold connect
  by_cases hconn : c.isconnected = true
  · rw [if_pos hconn]
    exact Or.inl rfl
  · rw [if_neg hconn]
    refine Or.inr ?_
    cases serializeConnect 100 options with
    | error _ => exact ⟨_, .refl _, .failed FAILURE FAILURE_ne⟩
    | ok packet =>
      have hsend := (c.setOptions options).hears_sendPacket packet net.sends
      have hwait := hsend.trans (passes_hears.awaitConnack _ net.cycles)
      simp only
      split_ifs with hrc
      · exact ⟨_, hsend, .failed _ hrc⟩
      · exact resend_cases _ hwait net

/-- A client that is to wait has the handlers of the one that is called. -/
structure SameHandlers (c c' : Client) : Prop where
  messageHandlers : c'.messageHandlers = c.messageHandlers
  default : c'.defaultMessageHandler = c.defaultMessageHandler
  arrived : c'.arrived = c.arrived

theorem sameHandlers_drawn (c : Client) : SameHandlers c c.drawn := by
  unfold drawn
  split_ifs <;> exact ⟨rfl, rfl, rfl⟩

theorem sameHandlers_drawFor (c : Client) (qos : Nat) : SameHandlers c (c.drawFor qos) := by
  unfold drawFor
  split_ifs <;> exact ⟨rfl, rfl, rfl⟩

theorem sameHandlers_keepInflight (c : Client) (packet : Bytes) (id qos : Nat) :
    SameHandlers c ((c.drawFor qos).keepInflight packet id qos) := by
  unfold drawFor keepInflight
  split_ifs <;> exact ⟨rfl, rfl, rfl⟩

/-- **A disconnect** cleans the session where the client was told to. -/
theorem disconnect_cases (c : Client) (sends : List Send) :
    ∃ m, Hears c m ∧ ((c.disconnect sends).2 = m.cleanSession ∨
      (c.disconnect sends).2 = { m with isconnected := false }) := by
  have hsend := c.hears_sendBuilt (serializeDisconnect 100) sends
  refine ⟨_, hsend, ?_⟩
  unfold disconnect
  simp only
  split_ifs
  · exact Or.inl rfl
  · exact Or.inr rfl

end Client

end Thethings.Mqtt
