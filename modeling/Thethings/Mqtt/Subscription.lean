import Thethings.Mqtt.Main

/-!
# The subscription

`main` subscribes once, before its loop (`main.cpp` l.80). Everything that ends a session (a failed
`subscribe`, a `publish` whose packet does not get out) clears the handler table with it, and the
loop's `connect` (l.102) begins a session without filling the table again.

Choices:

* A client receives its topic where the handler is in the table for it and a message on the topic
  gets to it (`Receives`). What the broker has on record for the session is not modelled: it is a
  clean session, which forgets its subscriptions too.
* The states that count are all from the first `subscribe` on, in front of every operation of the
  loop and behind it.
* The condition on an operation (`NoReconnect`) is about the client before it and what the network
  answers, not about what the operation makes of it.

Results:

* `Tuned`: the client is connected with its handler registered, or it is not connected and its table
  is free. Every operation keeps it but one (`tuned_step`): a `connect` that is accepted.
* `receives_iff_no_reconnect`: a connected client receives its topic in every state of a run exactly
  when no `connect` of the loop that finds the client unconnected is accepted.
-/

namespace Thethings.Mqtt

open Library

/-- A message on the topic reaches `messageArrived`, through an entry of the table. -/
structure Receives (topic : Bytes) (c : Client) : Prop where
  registered : c.messageHandlers.Has topic .messageArrived
  delivered : ∀ message,
    (.messageArrived, topic, message) ∈ (c.deliverMessage topic message).arrived

theorem HandlerTable.Has.mem_handlersFor {t : HandlerTable} {topic : Bytes}
    {handler : MessageHandler} (h : t.Has topic handler) :
    handler ∈ t.handlersFor (cstr topic) := by
  obtain ⟨slot, hs, hfilter, hfp⟩ := h
  refine List.mem_filterMap.mpr ⟨slot, hs, ?_⟩
  simp only [hfilter, true_or, if_true, hfp]

/-- A registered handler is called. -/
theorem receives_of_has {c : Client} {topic : Bytes} (htopic : cstr topic = topic)
    (h : c.messageHandlers.Has topic .messageArrived) : Receives topic c := by
  refine ⟨h, fun message => List.mem_append_right _ ?_⟩
  have hmem := h.mem_handlersFor
  rw [htopic] at hmem
  cases hh : c.messageHandlers.handlersFor topic with
  | nil => exact absurd (hh ▸ hmem) List.not_mem_nil
  | cons handler handlers =>
    rw [hh] at hmem
    exact List.mem_map_of_mem (f := fun handler => (handler, topic, message)) hmem

/-- Connected with the handler registered, or not connected and with a free table. -/
structure Tuned (topic : Bytes) (c : Client) : Prop where
  clean : Clean c
  cases : c.isconnected = true ∧ c.messageHandlers.Has topic .messageArrived ∨
    c.isconnected = false ∧ c.messageHandlers.Free

/-- No session begins without the handler: a `connect` finds the client connected, or its CONNECT
does not get out or is not accepted. -/
def NoReconnect (s : App) (op : Op) : Prop :=
  ∀ net, op = .connect net →
    s.client.isconnected = true ∨ s.client.accepted connectData connectPacket net = false

variable {topic : Bytes} {s : App}

theorem tuned_send (h : Tuned topic s.client) (net : Client.PublishNet) :
    Tuned topic (s.send net).client := by
  obtain ⟨hquiet, hcases⟩ := Client.publishMessage_spec h.clean.cleansession s.topic
    (show s.outgoing.qos = QoS.QOS0.code from rfl) net
  refine ⟨h.clean.of_noConnect hquiet, ?_⟩
  rw [send_client]
  rcases hcases with ⟨hconn, htable⟩ | hdown
  · rw [hconn, htable]
    exact h.cases
  · exact Or.inr hdown

theorem tuned_yield (h : Tuned topic s.client) (cycles : List Cycle) :
    Tuned topic (s.yield cycles).client := by
  have hyield := s.client.background_yield cycles
  refine ⟨h.clean.of_noConnect hyield.noConnect, ?_⟩
  rw [yield_client, hyield.isconnected, hyield.messageHandlers]
  exact h.cases

/-- From an unconnected client: connected exactly when accepted, and the table stays free. -/
theorem connect_of_unconnected (h : Tuned topic s.client) (hconn : s.client.isconnected = false)
    (net : Client.ConnectNet) :
    (s.connect net).client.isconnected = s.client.accepted connectData connectPacket net ∧
      (s.connect net).client.messageHandlers.Free := by
  obtain ⟨hacc, hsame, -⟩ :=
    Client.connect_spec hconn h.clean.inflightMsgid connectData_packet net
  refine ⟨hacc, ?_⟩
  rw [connect_client, hsame]
  rcases h.cases with ⟨hc, -⟩ | ⟨-, hfree⟩
  · exact absurd (hconn.symm.trans hc) Bool.false_ne_true
  · exact hfree

/-- **One operation keeps a client tuned**, unless it reconnects it. -/
theorem tuned_step (h : Tuned topic s.client) (op : Op) (hop : NoReconnect s op) :
    Tuned topic (s.step op).client := by
  cases op with
  | addValue key value => exact h
  | send net => exact tuned_send h net
  | yield cycles => exact tuned_yield h cycles
  | connect net =>
    refine ⟨clean_step h.clean (.connect net), ?_⟩
    cases hconn : s.client.isconnected with
    | true =>
      have he : (s.step (.connect net)).client = s.client := connect_client_of_connected hconn net
      rw [he]
      exact h.cases
    | false =>
      obtain ⟨hacc, hfree⟩ := connect_of_unconnected h hconn net
      rcases hop net rfl with hc | hrefused
      · exact absurd (hconn.symm.trans hc) Bool.false_ne_true
      · exact Or.inr ⟨hacc.trans hrefused, hfree⟩

/-- What the subscription promises of one state. -/
def KeepsTopic (topic : Bytes) (s : App) : Prop :=
  s.client.isconnected = true → Receives topic s.client

theorem Tuned.keepsTopic (htopic : cstr topic = topic) (h : Tuned topic s.client) :
    KeepsTopic topic s := by
  intro hconn
  rcases h.cases with ⟨-, hhas⟩ | ⟨hc, -⟩
  · exact receives_of_has htopic hhas
  · exact absurd (hc.symm.trans hconn) Bool.false_ne_true

/-- After one operation a connected client receives its topic iff the operation did not reconnect
it. -/
theorem keepsTopic_step_iff (htopic : cstr topic = topic) (h : Tuned topic s.client) (op : Op) :
    KeepsTopic topic (s.step op) ↔ NoReconnect s op := by
  refine ⟨fun hkeeps => ?_, fun hop => (tuned_step h op hop).keepsTopic htopic⟩
  rintro net rfl
  cases hconn : s.client.isconnected with
  | true => exact Or.inl rfl
  | false =>
    obtain ⟨hacc, hfree⟩ := connect_of_unconnected h hconn net
    refine Or.inr ?_
    by_contra hne
    rw [Bool.not_eq_false] at hne
    exact hfree.not_has topic .messageArrived (hkeeps (hacc.trans hne)).registered

/-! ## The program -/

theorem tuned_subscribed (token : Bytes) (memory : Client) (net : Startup) :
    Tuned (topicOf token) (subscribed token memory net).client :=
  ⟨clean_subscribed token memory net, (subscribed_spec token memory net).2⟩

theorem tuned_start (token : Bytes) (memory : Client) (net : Startup) :
    Tuned (topicOf token) (start token memory net).client :=
  tuned_send (s := App.addValue { subscribed token memory net with buff := openText }
    (ascii "demo") 0) (tuned_subscribed token memory net) net.publish

/-- Every state from the initial `subscribe` on. -/
def statesSinceSubscribe (token : Bytes) (memory : Client) (net : Startup) (last : LastTouch)
    (passes : List Pass) : List App :=
  subscribed token memory net :: start token memory net ::
    loopStates (start token memory net) last passes

/-- The subscription along a run of the program. -/
theorem keepsTopic_iff (token : Bytes) (memory : Client) (net : Startup) (last : LastTouch)
    (passes : List Pass) :
    (∀ s ∈ statesSinceSubscribe token memory net last passes, KeepsTopic (topicOf token) s) ↔
      ∀ q ∈ steps App.step (start token memory net) (loopOps last passes),
        NoReconnect q.1 q.2 := by
  have htopic := cstr_topicOf token
  have hloop := steps_congr (fun s : App => Tuned (topicOf token) s.client)
    (P := fun s op => KeepsTopic (topicOf token) (s.step op)) (C := NoReconnect)
    (fun s op h => tuned_step h op) (fun s op h => keepsTopic_step_iff htopic h op)
    (loopOps last passes) (tuned_start token memory net)
  rw [← hloop, statesSinceSubscribe, List.forall_mem_cons, List.forall_mem_cons, loopStates,
    List.forall_mem_map]
  exact ⟨fun h => h.2.2, fun h => ⟨(tuned_subscribed token memory net).keepsTopic htopic,
    (tuned_start token memory net).keepsTopic htopic, h⟩⟩

/-- **The subscription survives exactly as long as the loop never reconnects.** From the initial
`subscribe` on, a client that is connected has the topic in its table with `messageArrived`, and
delivers every message on it there, in every state of a run, iff each `connect` of the loop finds
the client connected, or its CONNECT does not get out or is not accepted. -/
theorem receives_iff_no_reconnect (token : Bytes) (memory : Client) (net : Startup)
    (last : LastTouch) (passes : List Pass) :
    (∀ s ∈ statesSinceSubscribe token memory net last passes,
        s.client.isconnected = true → Receives (topicOf token) s.client) ↔
      ∀ q ∈ steps App.step (start token memory net) (loopOps last passes),
        ∀ c, q.2 = .connect c →
          q.1.client.isconnected = true ∨
            q.1.client.accepted connectData connectPacket c = false :=
  keepsTopic_iff token memory net last passes

/-- A start that dials, and gets nothing more out. -/
def silentStartup : Startup where
  dial := ⟨0, true, 0⟩
  connect := ⟨[], [], ⟨[], [], 0⟩⟩
  subscribe := ⟨[], []⟩
  publish := ⟨[], [], 0⟩

/-- A pass without a touch, whose `connect` is accepted. -/
def acceptingPass : Pass := ⟨[], acceptingNet, ⟨false, 0, 0⟩, ⟨[], [], 0⟩⟩

/-- **A reconnected client is deaf**: the first CONNECT does not get out, that of the loop is
accepted, and the client is connected without its handler. -/
theorem deaf_after_reconnect :
    ¬ ∀ s ∈ statesSinceSubscribe [] .zeroed silentStartup ⟨0, 0⟩ [acceptingPass],
        s.client.isconnected = true → Receives (topicOf []) s.client := by
  intro h
  have hall := (keepsTopic_iff [] .zeroed silentStartup ⟨0, 0⟩ [acceptingPass]).mp h
  rcases hall _ (List.mem_cons_of_mem _ List.mem_cons_self) acceptingNet rfl with hc | hc
  · exact absurd hc (by decide +kernel)
  · exact absurd hc (by decide +kernel)

end Thethings.Mqtt
