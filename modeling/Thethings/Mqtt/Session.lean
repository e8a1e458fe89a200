import Mathlib.Data.List.Nodup
import Thethings.Mqtt.Calls

/-!
# Runs of calls

Any sequence of calls from a client just constructed, in whatever memory it was constructed.

Choices:

* Every call of a handler has a number, its place in the record of all of them, so a statement is
  about one occurrence and not about what has been handed over at some time. A call of number `n` is
  made in the course of a method's call where fewer were on record before it and it is there after
  it.
* A subscription is `Subscribed` where one call was granted it and every state from there on has it
  in its table; the default handler likewise. Both are asked of the calls in front of the one that
  hands the message over.
* A packet is in flight where the next `connect` that gets its own packet out sends it again. What
  it was built from is asked of the `publish` that returned `SUCCESS` for it.
* An id is drawn where `getNext` is called, whatever becomes of the packet that it goes into.

Results:

* `handler_calls_traced`: each time that a handler is called it is for a subscription that was
  granted in an earlier call and has been in the table ever since, or as the default one, set before
  and since, where no subscription matches.
* `inflight_was_reported`: only a message whose `publish` returned `SUCCESS` is ever sent again.
* `drawn_eq`: packet ids go round from 1 to 65535.
-/

namespace Thethings.Mqtt

open Library

/-! ## Who is called -/

theorem mem_forgetSlots {topicFilter : Bytes} {slot : Slot} {slots : List Slot}
    (h : slot ∈ forgetSlots topicFilter slots) : slot ∈ slots ∨ slot.topicFilter = none := by
  induction slots with
  | nil => exact absurd h List.not_mem_nil
  | cons first slots ih =>
    rw [forgetSlots] at h
    split_ifs at h
    · rcases List.mem_cons.mp h with rfl | h
      · exact Or.inr rfl
      · exact Or.inl (List.mem_cons_of_mem first h)
    · rcases List.mem_cons.mp h with rfl | h
      · exact Or.inl List.mem_cons_self
      · exact (ih h).imp_left (List.mem_cons_of_mem first)

theorem mem_registerSlots {topicFilter : Bytes} {handler : MessageHandler} {slot : Slot}
    {slots : List Slot} (h : slot ∈ (registerSlots topicFilter handler slots).1) :
    slot ∈ slots ∨ slot = ⟨some topicFilter, some handler⟩ := by
  induction slots with
  | nil => exact absurd h List.not_mem_nil
  | cons first slots ih =>
    rw [registerSlots] at h
    split_ifs at h
    · rcases List.mem_cons.mp h with rfl | h
      · exact Or.inr rfl
      · exact Or.inl (List.mem_cons_of_mem first h)
    · rcases List.mem_cons.mp h with rfl | h
      · exact Or.inl List.mem_cons_self
      · exact (ih h).imp_left (List.mem_cons_of_mem first)

namespace HandlerTable

variable {t : HandlerTable} {topicFilter : Bytes} {handler : MessageHandler}

theorem not_has_clear : ¬ t.clear.Has topicFilter handler :=
  t.clear_free.not_has topicFilter handler

theorem has_of_forget {forgotten : Bytes} (h : (t.forget forgotten).Has topicFilter handler) :
    t.Has topicFilter handler := by
  obtain ⟨slot, hslot, hfilter, hfp⟩ := h
  rcases mem_forgetSlots hslot with hmem | hnone
  · exact ⟨slot, hmem, hfilter, hfp⟩
  · exact absurd (hfilter.symm.trans hnone) (by simp)

theorem has_of_register {registered : Bytes} {handler' : MessageHandler}
    (h : (t.register registered handler').1.Has topicFilter handler) :
    t.Has topicFilter handler ∨ topicFilter = registered ∧ handler = handler' := by
  obtain ⟨slot, hslot, hfilter, hfp⟩ := h
  rcases mem_registerSlots hslot with hmem | rfl
  · exact Or.inl ⟨slot, hmem, hfilter, hfp⟩
  · exact Or.inr ⟨(Option.some.inj hfilter).symm, (Option.some.inj hfp).symm⟩

/-- A handler that is called for a topic name is in the table with a filter for it. -/
theorem has_of_mem_handlersFor {topicName : Bytes} (h : handler ∈ t.handlersFor topicName) :
    ∃ topicFilter, t.Has topicFilter handler ∧
      (topicName = cstr topicFilter ∨ isTopicMatched (cstr topicFilter) topicName = true) := by
  obtain ⟨slot, hslot, he⟩ := List.mem_filterMap.mp h
  cases hfilter : slot.topicFilter with
  | none =>
    rw [hfilter] at he
    exact absurd he (by simp)
  | some topicFilter =>
    simp only [hfilter] at he
    split_ifs at he with hmatch
    exact ⟨topicFilter, ⟨slot, hslot, hfilter, he⟩, hmatch⟩

end HandlerTable

namespace Client

/-- The end of a call calls no handler, and adds nothing to the table. -/
structure Drops (m d : Client) : Prop where
  arrived : d.arrived = m.arrived
  default : d.defaultMessageHandler = m.defaultMessageHandler
  has : ∀ {topicFilter handler}, d.messageHandlers.Has topicFilter handler →
    m.messageHandlers.Has topicFilter handler

theorem Drops.cleanSession (m : Client) : Drops m m.cleanSession :=
  ⟨rfl, rfl, fun h => absurd h HandlerTable.not_has_clear⟩

/-- What one call adds to what handlers were called with, to the table, and to the default. -/
structure Adds (c : Client) (i : Call) (d : Client) : Prop where
  arrived : ∃ calls, d.arrived = c.arrived ++ calls ∧ ∀ a ∈ calls, a.1 ∈ c.handlersOf a.2.1
  has : ∀ topicFilter handler, d.messageHandlers.Has topicFilter handler →
    c.messageHandlers.Has topicFilter handler ∨
      ∃ qos net, i = .subscribe topicFilter qos handler net ∧
        (c.subscribe topicFilter qos handler net).1 = SUCCESS
  default : ∀ mh, d.defaultMessageHandler = some mh →
    c.defaultMessageHandler = some mh ∨ i = .setDefaultMessageHandler mh

variable {c c' m d : Client}

/-- A call that waits, and adds to the table only by what it was granted. -/
theorem Adds.of_hears {i : Call} (hsame : SameHandlers c c') (h : Hears c' m)
    (harrived : d.arrived = m.arrived)
    (hdefault : d.defaultMessageHandler = m.defaultMessageHandler)
    (hhas : ∀ topicFilter handler, d.messageHandlers.Has topicFilter handler →
      m.messageHandlers.Has topicFilter handler ∨
        ∃ qos net, i = .subscribe topicFilter qos handler net ∧
          (c.subscribe topicFilter qos handler net).1 = SUCCESS) : Adds c i d where
  arrived := by
    have hhandlers : c'.handlersOf = c.handlersOf := by
      funext topicName
      rw [Client.handlersOf, Client.handlersOf, hsame.messageHandlers, hsame.default]
    obtain ⟨calls, hcalls, hall⟩ := h.calls
    exact ⟨calls, by rw [harrived, hcalls, hsame.arrived], fun a ha => hhandlers ▸ hall a ha⟩
  has topicFilter handler hd := by
    rw [← hsame.messageHandlers, ← h.messageHandlers]
    exact hhas topicFilter handler hd
  default mh hmh := by
    rw [hdefault, h.defaultMessageHandler, hsame.default] at hmh
    exact Or.inl hmh

theorem Adds.of_drops {i : Call} (hsame : SameHandlers c c') (h : Hears c' m) (hd : Drops m d) :
    Adds c i d :=
  .of_hears hsame h hd.arrived hd.default fun _ _ hhas => Or.inl (hd.has hhas)

theorem adds_subscribe (c : Client) (topicFilter : Bytes) (qos : QoS) (handler : MessageHandler)
    (net : SubscribeNet) :
    Adds c (.subscribe topicFilter qos handler net)
      (c.subscribe topicFilter qos handler net).2 := by
  have hsame := c.sameHandlers_drawn
  obtain ⟨m, hm, hends⟩ := c.subscribe_cases topicFilter qos handler net
  generalize he : c.subscribe topicFilter qos handler net = r at hends
  cases hends with
  | registered table htable =>
    refine .of_hears hsame hm rfl rfl ?_
    intro topicFilter' handler' hhas
    have hregister : (m.messageHandlers.register topicFilter handler).1 = table := by rw [htable]
    rcases HandlerTable.has_of_register (hregister ▸ hhas) with hhad | ⟨rfl, rfl⟩
    · exact Or.inl hhad
    · exact Or.inr ⟨qos, net, rfl, by rw [he]⟩
  | full _ => exact .of_drops hsame hm ⟨rfl, rfl, id⟩
  | refused rc _ => exact .of_drops hsame hm (.cleanSession m)

theorem adds_publish (c : Client) (topicName payload : Bytes) (payloadlen packetid qos : Nat)
    (retained : Bool) (net : PublishNet) :
    Adds c (.publish topicName payload payloadlen packetid qos retained net)
      (c.publish topicName payload payloadlen packetid qos retained net).2 := by
  rcases c.publish_cases topicName payload payloadlen packetid qos retained net with
    ⟨-, he⟩ | ⟨-, he | ⟨packet, -, m, hm, hends⟩⟩
  · rw [he]
    exact .of_drops ⟨rfl, rfl, rfl⟩ (.refl c) ⟨rfl, rfl, id⟩
  · rw [he]
    exact .of_drops (c.sameHandlers_drawFor qos) (.refl _) ⟨rfl, rfl, id⟩
  · have hsame := c.sameHandlers_keepInflight packet (c.idFor packetid qos) qos
    generalize c.publish topicName payload payloadlen packetid qos retained net = r at hends
    cases hends with
    | sent => exact .of_drops hsame hm ⟨rfl, rfl, id⟩
    | acked => exact .of_drops hsame hm ⟨rfl, rfl, id⟩
    | lost rc _ => exact .of_drops hsame hm (.cleanSession m)

theorem adds_unsubscribe (c : Client) (topicFilter : Bytes) (net : SubscribeNet) :
    Adds c (.unsubscribe topicFilter net) (c.unsubscribe topicFilter net).2 := by
  have hsame := c.sameHandlers_drawn
  obtain ⟨m, hm, hends⟩ := c.unsubscribe_cases topicFilter net
  generalize c.unsubscribe topicFilter net = r at hends
  cases hends with
  | forgotten => exact .of_drops hsame hm ⟨rfl, rfl, HandlerTable.has_of_forget⟩
  | kept => exact .of_drops hsame hm ⟨rfl, rfl, id⟩
  | lost rc _ => exact .of_drops hsame hm (.cleanSession m)

theorem adds_connect (c : Client) (options : ConnectData) (net : ConnectNet) :
    Adds c (.connect options net) (c.connect options net).2 := by
  have hsame : SameHandlers c (c.setOptions options) := ⟨rfl, rfl, rfl⟩
  rcases c.connect_cases options net with he | ⟨m, hm, hends⟩
  · rw [he]
    exact .of_drops ⟨rfl, rfl, rfl⟩ (.refl c) ⟨rfl, rfl, id⟩
  · generalize c.connect options net = r at hends
    cases hends with
    | connected => exact .of_drops hsame hm ⟨rfl, rfl, id⟩
    | acked => exact .of_drops hsame hm ⟨rfl, rfl, id⟩
    | failed rc _ => exact .of_drops hsame hm ⟨rfl, rfl, id⟩
    | lost rc _ => exact .of_drops hsame hm (.cleanSession m)

/-- **One call.** -/
theorem adds_step (c : Client) (i : Call) : Adds c i (c.step i) := by
  cases i with
  | network ipstack =>
    exact ⟨⟨[], (List.append_nil _).symm, fun _ ha => absurd ha List.not_mem_nil⟩,
      fun _ _ hhas => Or.inl hhas, fun _ hmh => Or.inl hmh⟩
  | setDefaultMessageHandler mh =>
    exact ⟨⟨[], (List.append_nil _).symm, fun _ ha => absurd ha List.not_mem_nil⟩,
      fun _ _ hhas => Or.inl hhas, fun _ hmh => Or.inr (by rw [Option.some.inj hmh])⟩
  | connect options net => exact c.adds_connect options net
  | publish topicName payload payloadlen id qos retained net =>
    exact c.adds_publish topicName payload payloadlen id qos retained net
  | subscribe topicFilter qos handler net => exact c.adds_subscribe topicFilter qos handler net
  | unsubscribe topicFilter net => exact c.adds_unsubscribe topicFilter net
  | yield cycles => exact .of_drops ⟨rfl, rfl, rfl⟩ (passes_hears.yield c cycles) ⟨rfl, rfl, id⟩
  | disconnect sends =>
    obtain ⟨m, hm, he | he⟩ := c.disconnect_cases sends
    · rw [step, call, he]
      exact .of_drops ⟨rfl, rfl, rfl⟩ hm (.cleanSession m)
    · rw [step, call, he]
      exact .of_drops ⟨rfl, rfl, rfl⟩ hm ⟨rfl, rfl, id⟩

/-- The handler is called with the message, as the `n`-th call of a handler ever, in the course of
this call of a method: not before it, and by the table or the default that the method found. -/
structure Called (c : Client) (i : Call) (n : Nat) (a : MessageHandler × Bytes × Message) :
    Prop where
  notBefore : c.arrived.length ≤ n
  arrived : (c.step i).arrived[n]? = some a
  handler : a.1 ∈ c.handlersOf a.2.1

/-- What handlers were called with stays on record; one more is called with it by the step. -/
theorem arrived_step {c : Client} {i : Call} {n : Nat} {a : MessageHandler × Bytes × Message}
    (h : (c.step i).arrived[n]? = some a) : c.arrived[n]? = some a ∨ c.Called i n a := by
  obtain ⟨calls, hcalls, hall⟩ := (c.adds_step i).arrived
  rcases Nat.lt_or_ge n c.arrived.length with hlt | hge
  · rw [hcalls, List.getElem?_append_left hlt] at h
    exact Or.inl h
  · have hnew := h
    rw [hcalls, List.getElem?_append_right hge] at hnew
    exact Or.inr ⟨hge, h, hall a (List.mem_of_getElem? hnew)⟩

end Client

/-! ## Runs from a client just constructed -/

/-- The client after some calls. -/
def after (memory : Client) (calls : List Call) : Client := run Client.step (.new memory) calls

/-- One of these calls was granted the subscription, which has been in the table since. -/
def Subscribed (memory : Client) (calls : List Call) (topicFilter : Bytes)
    (handler : MessageHandler) : Prop :=
  ∃ before qos net, before ++ [.subscribe topicFilter qos handler net] <+: calls ∧
    ((after memory before).subscribe topicFilter qos handler net).1 = SUCCESS ∧
    ∀ later, before ++ [.subscribe topicFilter qos handler net] <+: later → later <+: calls →
      (after memory later).messageHandlers.Has topicFilter handler

theorem subscribed_of_has {memory : Client} {calls : List Call} {topicFilter : Bytes}
    {handler : MessageHandler} (h : (after memory calls).messageHandlers.Has topicFilter handler) :
    Subscribed memory calls topicFilter handler := by
  rcases run_since (fun (c : Client) (p : Bytes × MessageHandler) => c.messageHandlers.Has p.1 p.2)
    (fun c i p => ∃ qos net, i = .subscribe p.1 qos p.2 net ∧
      (c.subscribe p.1 qos p.2 net).1 = SUCCESS)
    (fun c i p hp => (c.adds_step i).has p.1 p.2 hp) (d := (topicFilter, handler)) h with
    hall | ⟨before, i, hbefore, ⟨qos, net, rfl, hrc⟩, hlater⟩
  · exact absurd (hall [] List.nil_prefix) HandlerTable.not_has_clear
  · exact ⟨before, qos, net, hbefore, hrc, hlater⟩

/-- One of these calls set the default handler, which has been the default since. -/
def DefaultSince (memory : Client) (calls : List Call) (mh : MessageHandler) : Prop :=
  ∃ before, before ++ [.setDefaultMessageHandler mh] <+: calls ∧
    ∀ later, before ++ [.setDefaultMessageHandler mh] <+: later → later <+: calls →
      (after memory later).defaultMessageHandler = some mh

theorem defaultSince_of_default {memory : Client} {calls : List Call} {mh : MessageHandler}
    (h : (after memory calls).defaultMessageHandler = some mh) :
    DefaultSince memory calls mh := by
  rcases run_since (fun (c : Client) mh => c.defaultMessageHandler = some mh)
    (fun _ i mh => i = .setDefaultMessageHandler mh)
    (fun c i mh hmh => (c.adds_step i).default mh hmh) h with
    hall | ⟨before, i, hbefore, rfl, hlater⟩
  · exact absurd (hall [] List.nil_prefix) (by simp [Client.new, Client.cleanSession])
  · exact ⟨before, hbefore, hlater⟩

/-- The subscription with which a handler may be called for a topic name after these calls: one
with a filter for the name, or, where none is in the table, the default. -/
def Traced (memory : Client) (calls : List Call) (handler : MessageHandler) (topicName : Bytes) :
    Prop :=
  (∃ topicFilter, Subscribed memory calls topicFilter handler ∧
      (topicName = cstr topicFilter ∨ isTopicMatched (cstr topicFilter) topicName = true)) ∨
    DefaultSince memory calls handler ∧
      (after memory calls).messageHandlers.handlersFor topicName = []

theorem traced_of_mem_handlersOf {memory : Client} {calls : List Call} {handler : MessageHandler}
    {topicName : Bytes} (h : handler ∈ (after memory calls).handlersOf topicName) :
    Traced memory calls handler topicName := by
  unfold Client.handlersOf at h
  split at h
  · rename_i hnone
    exact Or.inr ⟨defaultSince_of_default (Option.mem_toList.mp h), hnone⟩
  · obtain ⟨topicFilter, hhas, hmatch⟩ := HandlerTable.has_of_mem_handlersFor h
    exact Or.inl ⟨topicFilter, subscribed_of_has hhas, hmatch⟩

/-- **Who is called.** Every time that a handler is called in a run of calls, whatever arrives, it
is called in the course of a call before which its subscription had been granted, with a filter for
the topic name, and had been in the table since; or as the default handler, set before and since,
where no subscription matches. -/
theorem handler_calls_traced (memory : Client) (calls : List Call) (n : Nat)
    (a : MessageHandler × Bytes × Message) (ha : (after memory calls).arrived[n]? = some a) :
    ∃ before i, before ++ [i] <+: calls ∧
      (after memory before).arrived.length ≤ n ∧
      (after memory (before ++ [i])).arrived[n]? = some a ∧
      Traced memory before a.1 a.2.1 := by
  rcases run_since (fun (c : Client) a => c.arrived[n]? = some a) (fun c i a => c.Called i n a)
    (fun _ _ _ h => Client.arrived_step h) ha with
    hall | ⟨before, i, hbefore, hcalled, -⟩
  · -- a client just constructed has called none
    exact absurd (hall [] List.nil_prefix) (by simp [Client.new, Client.cleanSession])
  · have harrived : (after memory (before ++ [i])).arrived[n]? = some a := by
      rw [after, run_append]
      exact hcalled.arrived
    exact ⟨before, i, hbefore, hcalled.notBefore, harrived,
      traced_of_mem_handlersOf hcalled.handler⟩

/-- A pass that reads this packet. -/
def reading (first : UInt8) (body : Bytes) : Cycle :=
  { takenCycle with reads := ⟨.got [first], [.got [body.length.toUInt8]], .got body⟩ }

/-- The default handler gets a message. -/
def defaultCalls : List Call :=
  [.network ⟨0, true, false⟩, .setDefaultMessageHandler .messageArrived,
    .yield [reading 48 [0, 1, 116, 5]]]

theorem handler_calls_traced_default :
    ∃ a, (after .zeroed defaultCalls).arrived[0]? = some a ∧
      ∃ before i, before ++ [i] <+: defaultCalls ∧
        (after .zeroed before).arrived.length ≤ 0 ∧
        (after .zeroed (before ++ [i])).arrived[0]? = some a ∧
        Traced .zeroed before a.1 a.2.1 := by
  have harrived : ((after .zeroed defaultCalls).arrived[0]?).isSome := by decide +kernel
  obtain ⟨a, ha⟩ := Option.isSome_iff_exists.mp harrived
  exact ⟨a, ha, handler_calls_traced .zeroed defaultCalls 0 a ha⟩

/-! ## What is sent again -/

namespace Client

/-- The next `connect` that gets its packet out sends this one behind it. -/
structure InFlight (c : Client) (packet : Bytes) : Prop where
  pending : c.inflightMsgid ≠ 0
  pubbuf : c.pubbuf = packet

/-- A `publish` that builds this packet, and returns `SUCCESS`. -/
def Reports (c : Client) (i : Call) (packet : Bytes) : Prop :=
  ∃ topicName payload payloadlen id qos retained net,
    i = .publish topicName payload payloadlen id qos retained net ∧
      (c.publish topicName payload payloadlen id qos retained net).1 = SUCCESS ∧
      serializePublish 100 false qos retained (c.idFor id qos) (.ofCString topicName) payload
        payloadlen = .ok packet

variable {c c' m d : Client} {packet : Bytes}

theorem InFlight.of_same (h : InFlight d packet) (hid : d.inflightMsgid = c.inflightMsgid)
    (hpubbuf : d.pubbuf = c.pubbuf) : InFlight c packet :=
  ⟨hid ▸ h.pending, hpubbuf ▸ h.pubbuf⟩

theorem InFlight.of_hears (h : InFlight d packet) (hm : Hears c m)
    (hid : d.inflightMsgid = m.inflightMsgid) (hpubbuf : d.pubbuf = m.pubbuf) :
    InFlight c packet :=
  h.of_same (hid.trans hm.inflightMsgid) (hpubbuf.trans hm.pubbuf)

theorem not_inFlight_of_zero (h : d.inflightMsgid = 0) : ¬ InFlight d packet :=
  fun hd => hd.pending h

theorem InFlight.of_drawn (h : InFlight c.drawn packet) : InFlight c packet := by
  unfold drawn at h
  split_ifs at h
  · exact h
  · exact h.of_same rfl rfl

theorem InFlight.of_drawFor {qos : Nat} (h : InFlight (c.drawFor qos) packet) :
    InFlight c packet := by
  unfold drawFor at h
  split_ifs at h
  · exact h.of_same rfl rfl
  · exact h

theorem InFlight.of_keepInflight {built : Bytes} {packetid qos : Nat}
    (h : InFlight (c.keepInflight built packetid qos) packet) :
    InFlight c packet ∨ built = packet := by
  unfold keepInflight at h
  split_ifs at h
  · exact Or.inl h
  · exact Or.inr h.pubbuf

theorem inFlight_publish {topicName payload : Bytes} {payloadlen id qos : Nat} {retained : Bool}
    {net : PublishNet}
    (h : InFlight (c.publish topicName payload payloadlen id qos retained net).2 packet) :
    InFlight c packet ∨
      Reports c (.publish topicName payload payloadlen id qos retained net) packet := by
  rcases c.publish_cases topicName payload payloadlen id qos retained net with
    ⟨-, he⟩ | ⟨-, he | ⟨built, hbuilt, m, hm, hends⟩⟩
  · rw [he] at h
    exact Or.inl h
  · rw [he] at h
    exact Or.inl h.of_drawFor
  · generalize he : c.publish topicName payload payloadlen id qos retained net = r at hends h
    cases hends with
    | sent =>
      rcases (h.of_hears hm rfl rfl).of_keepInflight with hc | rfl
      · exact Or.inl hc.of_drawFor
      · exact Or.inr ⟨_, _, _, _, _, _, _, rfl, by rw [he], hbuilt⟩
    | acked => exact absurd h (not_inFlight_of_zero rfl)
    | lost rc _ => exact absurd h (not_inFlight_of_zero rfl)

/-- **One call** puts in flight only what it reports sent. -/
theorem inFlight_step {i : Call} (h : InFlight (c.step i) packet) :
    InFlight c packet ∨ Reports c i packet := by
  cases i with
  | network ipstack => exact Or.inl (h.of_same rfl rfl)
  | setDefaultMessageHandler mh => exact Or.inl (h.of_same rfl rfl)
  | publish topicName payload payloadlen id qos retained net => exact inFlight_publish h
  | yield cycles => exact Or.inl (h.of_hears (passes_hears.yield c cycles) rfl rfl)
  | connect options net =>
    rw [step, call] at h
    rcases c.connect_cases options net with he | ⟨m, hm, hends⟩
    · rw [he] at h
      exact Or.inl h
    · generalize c.connect options net = r at hends h
      cases hends with
      | connected => exact Or.inl ((h.of_hears hm rfl rfl).of_same rfl rfl)
      | acked => exact absurd h (not_inFlight_of_zero rfl)
      | failed rc _ => exact Or.inl ((h.of_hears hm rfl rfl).of_same rfl rfl)
      | lost rc _ => exact absurd h (not_inFlight_of_zero rfl)
  | subscribe topicFilter qos handler net =>
    rw [step, call] at h
    obtain ⟨m, hm, hends⟩ := c.subscribe_cases topicFilter qos handler net
    generalize c.subscribe topicFilter qos handler net = r at hends h
    cases hends with
    | registered table _ => exact Or.inl (h.of_hears hm rfl rfl).of_drawn
    | full _ => exact Or.inl (h.of_hears hm rfl rfl).of_drawn
    | refused rc _ => exact absurd h (not_inFlight_of_zero rfl)
  | unsubscribe topicFilter net =>
    rw [step, call] at h
    obtain ⟨m, hm, hends⟩ := c.unsubscribe_cases topicFilter net
    generalize c.unsubscribe topicFilter net = r at hends h
    cases hends with
    | forgotten => exact Or.inl (h.of_hears hm rfl rfl).of_drawn
    | kept => exact Or.inl (h.of_hears hm rfl rfl).of_drawn
    | lost rc _ => exact absurd h (not_inFlight_of_zero rfl)
  | disconnect sends =>
    rw [step, call] at h
    obtain ⟨m, hm, he | he⟩ := c.disconnect_cases sends
    · rw [he] at h
      exact absurd h (not_inFlight_of_zero rfl)
    · rw [he] at h
      exact Or.inl (h.of_hears hm rfl rfl)

end Client

/-- **Only what was reported sent is sent again.** In any run of calls, the packet that a `connect`
would send again is that of an earlier `publish` that returned `SUCCESS`, and has been in flight
since: a message whose `publish` failed is not kept for the next connection. -/
theorem inflight_was_reported (memory : Client) (calls : List Call) (packet : Bytes)
    (h : (after memory calls).InFlight packet) :
    ∃ before i, before ++ [i] <+: calls ∧ (after memory before).Reports i packet ∧
      ∀ later, before ++ [i] <+: later → later <+: calls →
        (after memory later).InFlight packet := by
  rcases run_since Client.InFlight Client.Reports (fun _ _ _ h => Client.inFlight_step h) h with
    hall | hsince
  · exact absurd (hall [] List.nil_prefix) (Client.not_inFlight_of_zero rfl)
  · exact hsince

/-- A message stays in flight: the PUBACK is for another one. -/
def ackedOther : List Call :=
  [.network ⟨0, true, false⟩,
    .connect { connectData with cleansession := false }
      ⟨[.took 26], [reading 32 [0, 0]], ⟨[], [], 0⟩⟩,
    .publish (ascii "t") [5] 1 0 QoS.QOS1.code false ⟨[.took 8], [reading 64 [0, 7]], 0⟩]

theorem inflight_was_reported_ackedOther :
    ∃ before i, before ++ [i] <+: ackedOther ∧
      (after .zeroed before).Reports i [50, 6, 0, 1, 116, 0, 1, 5] ∧
      ∀ later, before ++ [i] <+: later → later <+: ackedOther →
        (after .zeroed later).InFlight [50, 6, 0, 1, 116, 0, 1, 5] :=
  inflight_was_reported .zeroed ackedOther _ ⟨by decide +kernel, by decide +kernel⟩

/-! ## Packet ids -/

namespace Client

/-- The packet id that a call draws. -/
def drawnId (c : Client) : Call → Option Nat
  | .publish _ _ _ _ qos _ _ =>
    if c.isconnected = true ∧ (qos = QoS.QOS1.code ∨ qos = QoS.QOS2.code) then
      some (getNext c.packetid)
    else none
  | .subscribe .. => if c.isconnected = true then some (getNext c.packetid) else none
  | .unsubscribe .. => if c.isconnected = true then some (getNext c.packetid) else none
  | _ => none

theorem packetid_drawn (c : Client) : c.drawn.packetid =
    (if c.isconnected = true then some (getNext c.packetid) else none).getD c.packetid := by
  unfold drawn
  cases c.isconnected <;> rfl

theorem packetid_publish (c : Client) (topicName payload : Bytes) (payloadlen id qos : Nat)
    (retained : Bool) (net : PublishNet) :
    (c.publish topicName payload payloadlen id qos retained net).2.packetid =
      (c.drawnId (.publish topicName payload payloadlen id qos retained net)).getD c.packetid := by
  have hdraw : c.isconnected = true → (c.drawFor qos).packetid =
      (c.drawnId (.publish topicName payload payloadlen id qos retained net)).getD c.packetid := by
    intro hconn
    unfold drawFor drawnId
    simp only [hconn, true_and]
    split_ifs <;> rfl
  rcases c.publish_cases topicName payload payloadlen id qos retained net with
    ⟨hconn, he⟩ | ⟨hconn, he | ⟨packet, -, m, hm, hends⟩⟩
  · rw [he, drawnId, hconn, if_neg (fun h => Bool.false_ne_true h.1), Option.getD_none]
  · rw [he, hdraw hconn]
  · have hkeep : ((c.drawFor qos).keepInflight packet (c.idFor id qos) qos).packetid =
        (c.drawFor qos).packetid := by
      unfold keepInflight
      split_ifs <;> rfl
    rw [← hdraw hconn, ← hkeep, ← hm.packetid]
    generalize c.publish topicName payload payloadlen id qos retained net = r at hends
    cases hends <;> rfl

/-- **One call** leaves the id that it draws, or the one before. -/
theorem packetid_step (c : Client) (i : Call) :
    (c.step i).packetid = (c.drawnId i).getD c.packetid := by
  cases i with
  | network ipstack => rfl
  | setDefaultMessageHandler mh => rfl
  | publish topicName payload payloadlen id qos retained net =>
    exact c.packetid_publish topicName payload payloadlen id qos retained net
  | yield cycles => exact (passes_hears.yield c cycles).packetid
  | connect options net =>
    change (c.connect options net).2.packetid = c.packetid
    rcases c.connect_cases options net with he | ⟨m, hm, hends⟩
    · rw [he]
    · have hsame : m.packetid = c.packetid := hm.packetid
      generalize c.connect options net = r at hends
      cases hends <;> exact hsame
  | subscribe topicFilter qos handler net =>
    rw [step, call, drawnId, ← packetid_drawn]
    obtain ⟨m, hm, hends⟩ := c.subscribe_cases topicFilter qos handler net
    rw [← hm.packetid]
    generalize c.subscribe topicFilter qos handler net = r at hends
    cases hends <;> rfl
  | unsubscribe topicFilter net =>
    rw [step, call, drawnId, ← packetid_drawn]
    obtain ⟨m, hm, hends⟩ := c.unsubscribe_cases topicFilter net
    rw [← hm.packetid]
    generalize c.unsubscribe topicFilter net = r at hends
    cases hends <;> rfl
  | disconnect sends =>
    change (c.disconnect sends).2.packetid = c.packetid
    obtain ⟨m, hm, he | he⟩ := c.disconnect_cases sends
    · rw [he, ← hm.packetid]
      rfl
    · rw [he, ← hm.packetid]

/-- An id that is drawn is the next one. -/
theorem drawnId_eq {c : Client} {i : Call} {id : Nat} (h : c.drawnId i = some id) :
    id = getNext c.packetid := by
  unfold drawnId at h
  split at h
  · split_ifs at h
    exact (Option.some.inj h).symm
  · split_ifs at h
    exact (Option.some.inj h).symm
  · split_ifs at h
    exact (Option.some.inj h).symm
  · exact absurd h (by simp)

/-- The ids that some calls draw. -/
def drawnIds (c : Client) (calls : List Call) : List Nat :=
  (steps step c calls).filterMap fun q => q.1.drawnId q.2

end Client

/-- What `packetid` holds once `k` ids are drawn. -/
def nthId (k : Nat) : Nat := if k = 0 then 0 else (k - 1) % 65535 + 1

theorem getNext_nthId (k : Nat) : getNext (nthId k) = nthId (k + 1) := by
  unfold getNext nthId
  split_ifs <;> omega

theorem drawnIds_from {c : Client} {k : Nat} (h : c.packetid = nthId k) (calls : List Call) :
    c.drawnIds calls = (List.range (c.drawnIds calls).length).map fun j => nthId (k + 1 + j) := by
  induction calls generalizing c k with
  | nil => rfl
  | cons i calls ih =>
    have hstep := c.packetid_step i
    unfold Client.drawnIds at ih ⊢
    rw [steps_cons, List.filterMap_cons]
    cases hdrawn : c.drawnId i with
    | none =>
      rw [hdrawn, Option.getD_none, h] at hstep
      exact ih hstep
    | some id =>
      have hid : id = nthId (k + 1) := by rw [Client.drawnId_eq hdrawn, h, getNext_nthId]
      rw [hdrawn, Option.getD_some, hid] at hstep
      have hlater := ih hstep
      have hshift : ∀ j, nthId (k + 1 + 1 + j) = nthId (k + 1 + (j + 1)) := fun j => by
        rw [Nat.add_assoc (k + 1), Nat.add_comm 1 j]
      simp only [hshift] at hlater
      rw [List.length_cons, List.range_succ_eq_map, List.map_cons, List.map_map, hid]
      exact congrArg (nthId (k + 1) :: ·) hlater

/-- No number comes twice among as many in a row as there are. -/
theorem nodup_round (n k : Nat) :
    ((((List.range n).map fun j => j % 65535 + 1).drop k).take 65535).Nodup := by
  have hrow : ∀ start m, m ≤ 65535 →
      ((List.range' start m).map fun j => j % 65535 + 1).Nodup := by
    intro start m hm
    refine List.Nodup.map_on ?_ (List.nodup_range' 1)
    intro x hx y hy hxy
    rw [List.mem_range'_1] at hx hy
    omega
  rw [← List.map_drop, ← List.map_take, List.range_eq_range', List.drop_range']
  rcases le_total (n - k) 65535 with hle | hge
  · rw [List.take_range'_of_length_le hle]
    exact hrow _ _ hle
  · rw [List.take_range'_of_length_ge hge]
    exact hrow _ _ (le_refl _)

/-- **Packet ids go round.** The ids that any run of calls draws are 1 to 65535, and then 1 again:
none is drawn twice among 65535 in a row. -/
theorem drawn_eq (memory : Client) (calls : List Call) :
    (Client.new memory).drawnIds calls =
        (List.range ((Client.new memory).drawnIds calls).length).map (fun k => k % 65535 + 1) ∧
      ∀ k, ((((Client.new memory).drawnIds calls).drop k).take 65535).Nodup := by
  have hround : (Client.new memory).drawnIds calls =
      (List.range ((Client.new memory).drawnIds calls).length).map fun k => k % 65535 + 1 := by
    have hfrom := drawnIds_from (c := .new memory) (k := 0) rfl calls
    have hnth : ∀ j, nthId (0 + 1 + j) = j % 65535 + 1 := fun j => by
      unfold nthId
      rw [if_neg (by omega)]
      congr 2
      omega
    simpa only [hnth] using hfrom
  refine ⟨hround, ?_⟩
  intro k
  rw [hround]
  exact nodup_round _ k

end Thethings.Mqtt
