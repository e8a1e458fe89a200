import Thethings.Mqtt.App
import Thethings.Library.Outbox

/-!
# Batches of values

`addValue` and `send` (`main.cpp` l.26-53) against what they are for: an outbox. Every operation of
the program is an event of the outbox (`App.event`), a flush that arrives where `publish` returned
`SUCCESS` for the whole text of the batch; `ledger` runs the two side by side.

Choices:

* What is handed over is the message that `send` leaves in its global variable, the one it passes to
  `publishMessage`; the payload is compared as the bytes that `payloadlen` counts.
* A pair is a key and an `int`. What it stands for in a payload is its two strings, and the document
  of a batch is read back as those where every key is plain.
* A `send` with nothing pending publishes an empty document, and loses nothing.
* That the network takes a batch (`Delivers`) is asked of the state before the `send` and of the
  outcomes: the client is connected, topic and text fit, the writes take the packet.

Results:

* `batches_partition`: each payload is the JSON of exactly the pairs added since the `send` before,
  whatever became of that one.
* `nothing_lost_iff`: no pair is lost exactly when every `send` with something to send finds the
  client connected, a batch that fits, and a network that takes it.
-/

namespace Thethings.Mqtt

open Library Library.Json

/-- The payload handed over is the whole document of these pairs. -/
def App.Carries (s : App) (pairs : List Pair) : Prop :=
  s.outgoing.text = valuesText (pairs.map Pair.texts)

instance (s : App) (pairs : List Pair) : Decidable (s.Carries pairs) :=
  inferInstanceAs (Decidable (_ = _))

/-- What an operation is to the outbox. -/
def App.event (s : App) (pending : List Pair) : Op → Outbox.Event Pair
  | .addValue key value => .add (key, value)
  | .send net => .flush (decide ((s.send net).rc = SUCCESS ∧ s.Carries pending))
  | .yield _ => .skip
  | .connect _ => .skip

/-- The program and the outbox, side by side. -/
def ledgerStep (p : App × Outbox Pair) (op : Op) : App × Outbox Pair :=
  (p.1.step op, p.2.step (p.1.event p.2.pending op))

/-- `buff` and `message_count` as `main` sets them. -/
def App.begin (s : App) : App := { s with buff := openText, messageCount := 0 }

/-- A run from there. -/
def ledger (s : App) (ops : List Op) : App × Outbox Pair :=
  run ledgerStep (s.begin, Outbox.empty) ops

theorem holds_begin (s : App) : Holds s.begin [] := holds_nil rfl rfl

/-- The pairs of the `addValue` calls. -/
def addedPairs (ops : List Op) : List Pair :=
  ops.filterMap fun
    | .addValue key value => some (key, value)
    | _ => none

/-- The messages that the `send` calls hand to `publish`: `message`, as each call leaves it. -/
def handedOver (s : App) (ops : List Op) : List Message :=
  (steps App.step s ops).filterMap fun p =>
    match p.2 with
    | .send net => some (p.1.send net).message
    | _ => none

/-! ## The program refines the outbox -/

/-- One operation: `buff` holds what is pending before and after. -/
theorem holds_ledgerStep {p : App × Outbox Pair} (h : Holds p.1 p.2.pending) (op : Op) :
    Holds (ledgerStep p op).1 (ledgerStep p op).2.pending := by
  have hstep := holds_step h op
  cases op <;> exact hstep

theorem holds_ledger (s : App) (ops : List Op) :
    Holds (ledger s ops).1 (ledger s ops).2.pending :=
  run_invariant (fun p : App × Outbox Pair => Holds p.1 p.2.pending)
    (fun _ op h => holds_ledgerStep h op) ops
    (holds_begin s)

theorem ledger_partitioned (s : App) (ops : List Op) : (ledger s ops).2.Partitioned :=
  run_invariant (fun p : App × Outbox Pair => p.2.Partitioned)
    (fun _ _ h => Outbox.partitioned_step _ _ h) ops rfl

/-- The outbox collects what the `addValue` calls add. -/
theorem run_added (p : App × Outbox Pair) (ops : List Op) :
    (run ledgerStep p ops).2.added = p.2.added ++ addedPairs ops := by
  induction ops generalizing p with
  | nil => exact (List.append_nil _).symm
  | cons op ops ih =>
    rw [run_cons, ih]
    cases op with
    | addValue key value => exact List.append_assoc _ _ _
    | _ => rfl

theorem ledger_added (s : App) (ops : List Op) : (ledger s ops).2.added = addedPairs ops :=
  run_added _ ops

/-- **The batches of the outbox are the payloads**: one for each `send`, in order, with the pairs
that its payload is the document of. -/
theorem run_batches {p : App × Outbox Pair} (ops : List Op) (h : Holds p.1 p.2.pending) :
    ((run ledgerStep p ops).2.batches.map fun b => valuesText (b.1.map Pair.texts)) =
      (p.2.batches.map fun b => valuesText (b.1.map Pair.texts)) ++
        (handedOver p.1 ops).map Message.payload := by
  induction ops generalizing p with
  | nil => exact (List.append_nil _).symm
  | cons op ops ih =>
    rw [run_cons, ih (holds_ledgerStep h op)]
    cases op with
    | send net =>
      simp only [ledgerStep, App.step, App.event, Outbox.step, handedOver, steps_cons,
        List.filterMap_cons, List.map_append, List.map_cons, List.map_nil, List.append_assoc,
        List.cons_append, List.nil_append, send_message, h.payload]
    | _ => rfl

/-! ## The payloads -/

/-- A message of `send` is what some state hands over. -/
theorem mem_handedOver {s : App} {ops : List Op} {m : Message} (h : m ∈ handedOver s ops) :
    ∃ s' : App, m = s'.outgoing := by
  obtain ⟨⟨s', op⟩, -, hm⟩ := List.mem_filterMap.mp h
  cases op with
  | send net => exact ⟨s', (Option.some.inj hm).symm⟩
  | _ => exact absurd hm (by simp)

/-- The payloads are the documents of the batches. -/
theorem ledger_payloads (s : App) (ops : List Op) :
    ((ledger s ops).2.batches.map fun b => valuesText (b.1.map Pair.texts)) =
      (handedOver s.begin ops).map Message.payload :=
  run_batches ops (holds_begin s)

/-- The added pairs are the batches and what is pending. -/
theorem addedPairs_eq (s : App) (ops : List Op) :
    addedPairs ops = (ledger s ops).2.batches.flatMap Prod.fst ++ (ledger s ops).2.pending := by
  rw [← ledger_added s ops]
  exact ledger_partitioned s ops

/-- With plain keys every batch is a list of plain pairs, since it was added. -/
theorem plain_batch {s : App} {ops : List Op}
    (hplain : ∀ key value, Op.addValue key value ∈ ops → Plain key) :
    ∀ b ∈ (ledger s ops).2.batches, ∀ p ∈ b.1.map Pair.texts, Plain p.1 ∧ Plain p.2 := by
  intro b hb p hp
  obtain ⟨q, hq, rfl⟩ := List.mem_map.mp hp
  have hadded : q ∈ addedPairs ops := by
    rw [addedPairs_eq s ops]
    exact List.mem_append_left _ (List.mem_flatMap.mpr ⟨b, hb, hq⟩)
  obtain ⟨op, hop, he⟩ := List.mem_filterMap.mp hadded
  cases op with
  | addValue key value =>
    obtain rfl := Option.some.inj he
    exact ⟨hplain key value hop, plain_decimal value⟩
  | _ => exact absurd he (by simp)

/-- Then no payload has a NUL in it. -/
theorem handedOver_whole {s : App} {ops : List Op}
    (hplain : ∀ key value, Op.addValue key value ∈ ops → Plain key) {m : Message}
    (hm : m ∈ handedOver s.begin ops) : cstr m.payload = m.payload := by
  have hmem : m.payload ∈ (handedOver s.begin ops).map Message.payload := List.mem_map_of_mem hm
  rw [← ledger_payloads] at hmem
  obtain ⟨b, hb, he⟩ := List.mem_map.mp hmem
  rw [cstr_eq_self_iff, ← he]
  exact zero_notMem_valuesText (plain_batch hplain b hb)

/-- **Batches partition the added values.** Over any run, whatever the client and the network do,
each payload is read back as exactly the pairs added since the `send` before, in order; its length
is the whole text's; and the batches and the pairs still pending are all the pairs that were added,
each once. -/
theorem batches_partition (s : App) (ops : List Op)
    (hplain : ∀ key value, Op.addValue key value ∈ ops → Plain key) :
    ((handedOver s.begin ops).map fun m => parse m.text) =
        ((ledger s ops).2.batches.map fun b => some (valuesJson (b.1.map Pair.texts))) ∧
      (∀ m ∈ handedOver s.begin ops, m.payloadlen = m.payload.length) ∧
      addedPairs ops = (ledger s ops).2.batches.flatMap Prod.fst ++ (ledger s ops).2.pending := by
  refine ⟨?_, fun m hm => ?_, addedPairs_eq s ops⟩
  · calc (handedOver s.begin ops).map (fun m => parse m.text)
        = (handedOver s.begin ops).map (fun m => parse m.payload) := by
          refine List.map_congr_left fun m hm => ?_
          obtain ⟨s', rfl⟩ := mem_handedOver hm
          rw [outgoing_text, handedOver_whole hplain hm]
      _ = ((handedOver s.begin ops).map Message.payload).map parse := by
          simp only [List.map_map, Function.comp_def]
      _ = (ledger s ops).2.batches.map (fun b => parse (valuesText (b.1.map Pair.texts))) := by
          simp only [← ledger_payloads, List.map_map, Function.comp_def]
      _ = (ledger s ops).2.batches.map (fun b => some (valuesJson (b.1.map Pair.texts))) :=
          List.map_congr_left fun b hb => parse_valuesText (plain_batch hplain b hb)
  · have hwhole := handedOver_whole hplain hm
    obtain ⟨s', rfl⟩ := mem_handedOver hm
    exact congrArg List.length hwhole

/-- Two values in one batch, then an empty one. -/
def twoSends : List Op :=
  [.addValue (ascii "demo") 1, .addValue (ascii "demo") (-2), .send ⟨[], [], 0⟩, .send ⟨[], [], 0⟩]

/-- A client that was never connected hands over the same two documents. -/
theorem batches_partition_twoSends :
    ((handedOver (App.init .zeroed).begin twoSends).map fun m => parse m.text) =
        ((ledger (App.init .zeroed) twoSends).2.batches.map fun b =>
          some (valuesJson (b.1.map Pair.texts))) ∧
      (∀ m ∈ handedOver (App.init .zeroed).begin twoSends, m.payloadlen = m.payload.length) ∧
      addedPairs twoSends = (ledger (App.init .zeroed) twoSends).2.batches.flatMap Prod.fst ++
        (ledger (App.init .zeroed) twoSends).2.pending := by
  refine batches_partition (App.init .zeroed) twoSends fun key value h => ?_
  simp only [twoSends, List.mem_cons, Op.addValue.injEq, reduceCtorEq, List.not_mem_nil, or_false]
    at h
  rcases h with ⟨rfl, -⟩ | ⟨rfl, -⟩ <;> decide

/-! ## What is lost -/

/-- Everything lets this `send` through. -/
structure App.Delivers (s : App) (net : Client.PublishNet) : Prop where
  /-- the client is connected -/
  isconnected : s.client.isconnected = true
  /-- the packet fits its 100 bytes -/
  fits : 2 + (cstr s.topic).length + s.outgoing.payloadlen ≤ 98
  /-- the connection is up -/
  connected : s.client.ipstack.connected = true
  /-- the network takes the packet -/
  taken : takes (4 + (cstr s.topic).length + s.outgoing.payloadlen) net.sends = true
  /-- no key of the batch cuts the payload short -/
  whole : 0 ∉ s.buff

theorem payloadlen_le (s : App) : s.outgoing.payloadlen ≤ s.outgoing.payload.length :=
  (List.takeWhile_prefix _).length_le

/-- When the `publish` of a `send` returns `SUCCESS`. -/
theorem send_success_iff (s : App) (net : Client.PublishNet) :
    (s.send net).rc = SUCCESS ↔
      s.client.isconnected = true ∧ 2 + (cstr s.topic).length + s.outgoing.payloadlen ≤ 98 ∧
        s.client.ipstack.connected = true ∧
          takes (4 + (cstr s.topic).length + s.outgoing.payloadlen) net.sends = true := by
  have hrc : (s.send net).rc = (s.client.publishMessage s.topic s.outgoing net).1 := rfl
  rw [hrc, Client.publishMessage_success_iff _ _ rfl, ← Client.publishPacketOf_ok_iff]
  refine and_congr_right fun _ => ⟨?_, ?_⟩
  · rintro ⟨packet, hp, hc⟩
    rw [Client.completes, Bool.and_eq_true, Client.length_publishPacketOf (payloadlen_le s) hp]
      at hc
    exact ⟨⟨packet, hp⟩, hc⟩
  · rintro ⟨⟨packet, hp⟩, hc⟩
    refine ⟨packet, hp, ?_⟩
    rw [Client.completes, Bool.and_eq_true, Client.length_publishPacketOf (payloadlen_le s) hp]
    exact hc

/-- A `send` is a flush that arrives exactly when everything lets it through. -/
theorem arrives_iff {s : App} {pending : List Pair} (h : Holds s pending)
    (net : Client.PublishNet) :
    ((s.send net).rc = SUCCESS ∧ s.Carries pending) ↔ s.Delivers net := by
  have hcarries : s.Carries pending ↔ 0 ∉ s.buff := by
    rw [App.Carries, ← h.payload]
    exact outgoing_whole_iff s
  rw [send_success_iff, hcarries]
  constructor
  · rintro ⟨⟨h1, h2, h3, h4⟩, h5⟩
    exact ⟨h1, h2, h3, h4, h5⟩
  · rintro ⟨h1, h2, h3, h4, h5⟩
    exact ⟨⟨h1, h2, h3, h4⟩, h5⟩

/-- The condition on one operation: a `send` with something to send goes through. -/
def SendsAll (s : App) (op : Op) : Prop :=
  ∀ net, op = .send net → s.messageCount = 0 ∨ s.Delivers net

/-- Every batch with something in it arrives, exactly when every such `send` goes through. -/
theorem batches_arrive_iff {p : App × Outbox Pair} (ops : List Op) (h : Holds p.1 p.2.pending) :
    (∀ b ∈ (run ledgerStep p ops).2.batches, b.1 = [] ∨ b.2 = true) ↔
      (∀ b ∈ p.2.batches, b.1 = [] ∨ b.2 = true) ∧
        ∀ q ∈ steps App.step p.1 ops, SendsAll q.1 q.2 := by
  induction ops generalizing p with
  | nil => simp
  | cons op ops ih =>
    rw [run_cons, ih (holds_ledgerStep h op), steps_cons, List.forall_mem_cons, ← and_assoc]
    refine and_congr ?_ Iff.rfl
    cases op with
    | send net =>
      have hsend : SendsAll p.1 (.send net) ↔ p.2.pending = [] ∨ p.1.Delivers net := by
        rw [← h.count_eq_zero_iff]
        exact ⟨fun hs => hs net rfl, fun hs _ he => by cases he; exact hs⟩
      simp only [ledgerStep, App.event, Outbox.step, List.forall_mem_append, List.mem_singleton,
        forall_eq, decide_eq_true_eq, hsend, arrives_iff h]
    | _ => exact ⟨fun hb => ⟨hb, fun _ he => absurd he (by simp)⟩, fun hb => hb.1⟩

/-- The balance of a run. -/
theorem balanced_iff_sendsAll (s : App) (ops : List Op) :
    (addedPairs ops = (ledger s ops).2.delivered ++ (ledger s ops).2.pending) ↔
      ∀ p ∈ steps App.step s.begin ops, SendsAll p.1 p.2 := by
  rw [← ledger_added s ops, Outbox.balanced_iff (ledger_partitioned s ops)]
  refine (batches_arrive_iff ops (holds_begin s)).trans ?_
  simp [Outbox.empty]

/-- **When no value is lost.** `buff` holds the pending pairs all along a run, and these together
with the pairs of the payloads whose `publish` returned `SUCCESS` are all that were added, exactly
when each `send` with a pair pending finds the client connected, a batch that fits the packet and
has no NUL in it, and a connection that takes the packet. -/
theorem nothing_lost_iff (s : App) (ops : List Op) :
    Holds (ledger s ops).1 (ledger s ops).2.pending ∧
      (addedPairs ops = (ledger s ops).2.delivered ++ (ledger s ops).2.pending ↔
        ∀ p ∈ steps App.step s.begin ops, SendsAll p.1 p.2) :=
  ⟨holds_ledger s ops, balanced_iff_sendsAll s ops⟩

/-- A value sent while the client is not connected is neither delivered nor pending. -/
theorem value_lost :
    addedPairs [.addValue (ascii "demo") 0, .send ⟨[], [], 0⟩] ≠
      (ledger (App.init .zeroed) [.addValue (ascii "demo") 0, .send ⟨[], [], 0⟩]).2.delivered ++
        (ledger (App.init .zeroed) [.addValue (ascii "demo") 0, .send ⟨[], [], 0⟩]).2.pending := by
  intro h
  have hall := (balanced_iff_sendsAll _ _).mp h
  rcases hall _ (List.mem_cons_of_mem _ List.mem_cons_self) _ rfl with hcount | hdelivers
  · exact absurd hcount (by decide)
  · exact absurd hdelivers.isconnected (by decide)

end Thethings.Mqtt
