import Thethings.Mqtt.Batch
import Thethings.Mqtt.Calls
import Thethings.Mqtt.Recovery

/-!
# What the broker gets

The packets that the program writes, read by the broker's side of the same library.

Choices:

* `published` is what the client's record of written packets holds of type PUBLISH, of the one
  connection that there is. A packet is on record once the last of its bytes was taken.
* The broker reads a packet with `MQTTDeserialize_publish`, the code that the client uses for its
  own packets, and then parses the payload as JSON.
* Each packet on record is read by itself. A `send` that fails may have put a part of its packet on
  the wire, and what the broker makes of that, and of what comes behind it, is not asked.

Results:

* `published_publishMessage`: of all operations only `send` writes a PUBLISH, and only where it
  returns `SUCCESS`.
* `broker_reads`: over any run the broker reads, in order, the text of each such `send`, on the
  topic of the token.
* `broker_values`: and what it parses are the batches of the outbox that arrived.
* `broker_gets`: so it is for `main`, from its first value on.
-/

namespace Thethings.Mqtt

open Library Library.Json

/-- The packet is a PUBLISH. -/
def isPublish (packet : Bytes) : Bool := packetType packet == MsgType.PUBLISH.code

/-- What the broker reads of a PUBLISH: the topic name and the payload. -/
def brokerRead (packet : Bytes) : Option (Bytes × Bytes) :=
  (deserializePublish packet).2.bind fun p =>
    p.payload.map fun payload => (p.topicName.text, payload.1.take payload.2.toNat)

/-- The PUBLISH packets that were written. -/
def Client.published (c : Client) : List Bytes := c.written.filter isPublish

namespace Client

theorem published_sendPacket (c : Client) {packet : Bytes}
    (h : packetType packet ≠ MsgType.PUBLISH.code) (sends : List Send) :
    (c.sendPacket packet sends).2.published = c.published := by
  have hnot : isPublish packet = false := beq_eq_false_iff_ne.mpr h
  unfold sendPacket
  rcases c.ipstack.sendAll packet sends with ⟨done, ipstack⟩
  cases done with
  | false => rfl
  | true => simp [published, hnot]

/-- Waiting publishes nothing. -/
theorem passes_published : Passes fun c d => d.published = c.published where
  refl _ := rfl
  trans h h' := h'.trans h
  read c reads := by rw [published, (c.arrived_readPacket reads).2]; rfl
  deliver _ _ _ := rfl
  ping _ _ := rfl
  send c packet sends h := by
    refine c.published_sendPacket ?_ sends
    rcases h with h | h | h <;> rw [h] <;> decide

theorem published_finishConnect {c : Client} (hinflight : c.inflightMsgid = 0)
    (net : ConnectNet) : (c.finishConnect net).2.published = c.published := by
  have hwait := passes_published.awaitConnack c net.cycles
  have hzero := (passes_hears.awaitConnack c net.cycles).inflightMsgid.trans hinflight
  simp only [finishConnect, resend_of_zero hzero]
  split_ifs
  · exact hwait
  · exact hwait

/-- Nor does a connect with nothing in flight. -/
theorem published_connect {c : Client} (hinflight : c.inflightMsgid = 0) (options : ConnectData)
    (net : ConnectNet) : (c.connect options net).2.published = c.published := by
  unfold connect
  by_cases hconn : c.isconnected = true
  · rw [if_pos hconn]
  · rw [if_neg hconn]
    cases hp : serializeConnect 100 options with
    | error _ => rfl
    | ok packet =>
      have htype : packetType packet ≠ MsgType.PUBLISH.code := by
        rw [(serialize_spec hp).2]
        decide
      have hsend := (c.setOptions options).published_sendPacket htype net.sends
      have hhears := (c.setOptions options).hears_sendPacket packet net.sends
      simp only
      split_ifs
      · exact hsend
      · exact (published_finishConnect (hhears.inflightMsgid.trans hinflight) net).trans hsend

theorem published_granted (c : Client) (topicFilter : Bytes) (handler : MessageHandler) :
    (c.granted topicFilter handler).2.published = c.published := by
  unfold granted
  split_ifs
  · rfl
  · rcases c.messageHandlers.register topicFilter handler with ⟨table, found⟩
    cases found <;> rfl

/-- Nor does a subscribe. -/
theorem published_subscribe (c : Client) (topicFilter : Bytes) (qos : QoS)
    (handler : MessageHandler) (net : SubscribeNet) :
    (c.subscribe topicFilter qos handler net).2.published = c.published := by
  have horClean : ∀ r : Int × Client, (orClean r).2.published = r.2.published := by
    rintro ⟨rc, d⟩
    by_cases hrc : rc = SUCCESS
    · rw [hrc, orClean_success]
    · rw [orClean_failed d hrc]
      rfl
  unfold subscribe
  rw [horClean]
  by_cases hconn : c.isconnected = false
  · rw [if_pos hconn]
  · rw [if_neg hconn]
    simp only
    cases hp : serializeSubscribe 100 false (getNext c.packetid) (.ofCString topicFilter)
        qos.code with
    | error _ => rfl
    | ok packet =>
      have htype : packetType packet ≠ MsgType.PUBLISH.code := by
        rw [(serialize_spec hp).2]
        decide
      have hsend := published_sendPacket { c with packetid := getNext c.packetid } htype net.sends
      have hwait := (passes_published.waitfor .SUBACK FAILURE _ net.cycles).trans hsend
      simp only
      split_ifs
      · exact hsend
      · exact (published_granted _ topicFilter handler).trans hwait
      · exact hwait

/-- **A publish with QoS 0** publishes its packet exactly when it returns `SUCCESS`. -/
theorem published_publishMessage {c : Client} (hclean : c.cleansession = true) (topicName : Bytes)
    {message : Message} (hqos : message.qos = QoS.QOS0.code) (net : PublishNet) :
    (∃ packet, publishPacketOf topicName message = .ok packet ∧
      (c.publishMessage topicName message net).1 = SUCCESS ∧
      (c.publishMessage topicName message net).2.published = c.published ++ [packet]) ∨
    ((c.publishMessage topicName message net).1 ≠ SUCCESS ∧
      (c.publishMessage topicName message net).2.published = c.published) := by
  have hkeep : ∀ packet, c.keepInflight packet 0 QoS.QOS0.code = c := fun _ => if_pos hclean
  rw [publishMessage_eq c topicName hqos]
  by_cases hconn : c.isconnected = false
  · rw [if_pos hconn]
    exact Or.inr ⟨FAILURE_ne, rfl⟩
  · rw [if_neg hconn]
    cases hp : publishPacketOf topicName message with
    | error _ => exact Or.inr ⟨FAILURE_ne, rfl⟩
    | ok packet =>
      obtain ⟨ipstack, -, -, he⟩ := publishPacket_eq c (publishPacketOf_ne_nil hp) net
      simp only [hkeep, he]
      split_ifs
      · have hpublish : isPublish packet = true := by
          rw [isPublish, (serialize_spec hp).2]
          rfl
        exact Or.inl ⟨packet, rfl, rfl, by simp [published, hpublish]⟩
      · exact Or.inr ⟨FAILURE_ne, rfl⟩

/-- What the broker reads of it. -/
theorem brokerRead_publishPacketOf {topicName packet : Bytes} {message : Message}
    (hlen : message.payloadlen ≤ message.payload.length)
    (h : publishPacketOf topicName message = .ok packet) :
    brokerRead packet = some (cstr topicName, message.text) := by
  have hfits := (publishPacketOf_ok_iff topicName message).mp ⟨packet, h⟩
  have hread := publish_read_back _ _ _ _ _ _ _ _ _ [] h
    (MQTTString.sound_ofCString (s := topicName) (by omega)) (by decide) (by decide) hlen
    (show 2 + (cstr topicName).length + message.payloadlen + 0 < 2 ^ 28 by omega)
  rw [List.append_nil] at hread
  rw [brokerRead, hread]
  simp only [Option.bind_some, Option.map_some, MQTTString.text_counted, List.append_nil,
    Int.toNat_natCast, List.take_take, Nat.min_self, Message.text]
  rfl

end Client

/-! ## Runs of the operations -/

/-- The texts of the sends that return `SUCCESS`. -/
def sentTexts (s : App) (ops : List Op) : List Bytes :=
  (steps App.step s ops).filterMap fun q =>
    match q.2 with
    | .send net => if (q.1.send net).rc = SUCCESS then some q.1.outgoing.text else none
    | _ => none

variable {s : App}

theorem sentTexts_send (s : App) (net : Client.PublishNet) :
    sentTexts s [.send net] =
      if (s.send net).rc = SUCCESS then [s.outgoing.text] else [] := by
  by_cases h : (s.send net).rc = SUCCESS
  · simp [sentTexts, h]
  · simp [sentTexts, h]

theorem sentTexts_cons (s : App) (op : Op) (ops : List Op) :
    sentTexts s (op :: ops) = sentTexts s [op] ++ sentTexts (s.step op) ops := by
  unfold sentTexts
  rw [steps_cons, steps_cons, steps_nil, ← List.filterMap_append, List.singleton_append]

/-- **One operation.** -/
theorem brokerReads_step (h : Clean s.client) (op : Op) :
    (s.step op).client.published.map brokerRead = s.client.published.map brokerRead ++
      (sentTexts s [op]).map fun text => some (cstr s.topic, text) := by
  cases op with
  | addValue key value => exact (List.append_nil _).symm
  | yield cycles =>
    have hyield : (s.yield cycles).client.published = s.client.published :=
      Client.passes_published.yield s.client cycles
    rw [App.step, hyield]
    exact (List.append_nil _).symm
  | connect net =>
    have hconnect : (s.connect net).client.published = s.client.published :=
      Client.published_connect h.inflightMsgid connectData net
    rw [App.step, hconnect]
    exact (List.append_nil _).symm
  | send net =>
    have hrc : (s.send net).rc = (s.client.publishMessage s.topic s.outgoing net).1 := rfl
    rw [App.step, send_client, sentTexts_send]
    rcases Client.published_publishMessage h.cleansession s.topic
      (show s.outgoing.qos = QoS.QOS0.code from rfl) net with
      ⟨packet, hpacket, hsuccess, hpublished⟩ | ⟨hfailed, hpublished⟩
    · have hread := Client.brokerRead_publishPacketOf (payloadlen_le s) hpacket
      rw [hpublished, if_pos (hrc.trans hsuccess), List.map_append, List.map_singleton, hread,
        List.map_singleton]
    · rw [hpublished, if_neg (hrc ▸ hfailed), List.map_nil, List.append_nil]

/-- **What the broker reads.** Over any run of the operations the broker reads, in order, the text
of each `send` that returned `SUCCESS`, on the program's topic, and nothing else. -/
theorem broker_reads (h : Clean s.client) (ops : List Op) :
    (run App.step s ops).client.published.map brokerRead = s.client.published.map brokerRead ++
      (sentTexts s ops).map fun text => some (cstr s.topic, text) := by
  induction ops generalizing s with
  | nil => exact (List.append_nil _).symm
  | cons op ops ih =>
    rw [run_cons, ih (clean_step h op), brokerReads_step h op, topic_step, List.append_assoc,
      ← List.map_append, ← sentTexts_cons]

/-! ## The values -/

/-- The texts of the sends that return `SUCCESS` are the documents of the batches that arrive, where
each text is handed over whole. -/
theorem sent_batches {p : App × Outbox Pair} (ops : List Op) (h : Holds p.1 p.2.pending)
    (hwhole : ∀ m ∈ handedOver p.1 ops, m.text = m.payload) :
    (((run ledgerStep p ops).2.batches.filter Prod.snd).map fun b =>
        valuesText (b.1.map Pair.texts)) =
      ((p.2.batches.filter Prod.snd).map fun b => valuesText (b.1.map Pair.texts)) ++
        sentTexts p.1 ops := by
  induction ops generalizing p with
  | nil => exact (List.append_nil _).symm
  | cons op ops ih =>
    have hlater := holds_ledgerStep h op
    rw [run_cons, sentTexts_cons]
    cases op with
    | send net =>
      have hhanded : handedOver p.1 (.send net :: ops) =
          p.1.outgoing :: handedOver (p.1.send net) ops := rfl
      rw [hhanded, List.forall_mem_cons] at hwhole
      have hcarries : p.1.Carries p.2.pending := hwhole.1.trans h.payload
      have hfate : (ledgerStep p (.send net)).2.batches =
          p.2.batches ++ [(p.2.pending, decide ((p.1.send net).rc = SUCCESS))] := by
        simp only [ledgerStep, App.event, Outbox.step, hcarries, and_true]
      have htext : valuesText (p.2.pending.map Pair.texts) = p.1.outgoing.text := hcarries.symm
      rw [ih hlater hwhole.2, sentTexts_send, hfate, List.filter_append, List.map_append,
        List.append_assoc]
      by_cases hrc : (p.1.send net).rc = SUCCESS
      · simp only [hrc, decide_true, List.filter_cons_of_pos, List.filter_nil, List.map_cons,
          List.map_nil, htext, if_true]
        rfl
      · simp only [hrc, decide_false, Bool.false_eq_true, not_false_eq_true,
          List.filter_cons_of_neg, List.filter_nil, List.map_nil, if_false]
        rfl
    | addValue key value => exact ih hlater hwhole
    | yield cycles => exact ih hlater hwhole
    | connect net => exact ih hlater hwhole

/-- **What the broker gets of the values.** With plain keys, the JSON documents that the broker
parses, over any run, are those of the batches that arrived, in order: of each value the broker gets
one copy or none. -/
theorem broker_values (s : App) (ops : List Op) (hclean : Clean s.client)
    (hnone : s.client.published = [])
    (hplain : ∀ key value, Op.addValue key value ∈ ops → Plain key) :
    ((run App.step s.begin ops).client.published.map fun packet =>
        (brokerRead packet).bind fun r => parse r.2) =
      ((ledger s ops).2.batches.filter Prod.snd).map fun b =>
        some (valuesJson (b.1.map Pair.texts)) := by
  have hreads := broker_reads (s := s.begin) hclean ops
  have hempty : s.begin.client.published = [] := hnone
  have hsent := sent_batches (p := (s.begin, Outbox.empty)) ops (holds_begin s)
    (fun m hm => by
      obtain ⟨s', rfl⟩ := mem_handedOver hm
      rw [outgoing_text, handedOver_whole hplain hm])
  rw [hempty, List.map_nil, List.nil_append] at hreads
  have hnil : (Outbox.empty (α := Pair)).batches = [] := rfl
  rw [hnil, List.filter_nil, List.map_nil, List.nil_append] at hsent
  calc (run App.step s.begin ops).client.published.map
          (fun packet => (brokerRead packet).bind fun r => parse r.2)
      = ((run App.step s.begin ops).client.published.map brokerRead).map
          (fun read => read.bind fun r => parse r.2) := by
        simp only [List.map_map, Function.comp_def]
    _ = (sentTexts s.begin ops).map parse := by
        simp only [hreads, List.map_map, Function.comp_def, Option.bind_some]
    _ = ((ledger s ops).2.batches.filter Prod.snd).map
          (fun b => parse (valuesText (b.1.map Pair.texts))) := by
        rw [← hsent]
        simp only [ledger, List.map_map, Function.comp_def]
    _ = ((ledger s ops).2.batches.filter Prod.snd).map
          (fun b => some (valuesJson (b.1.map Pair.texts))) :=
        List.map_congr_left fun b hb =>
          parse_valuesText (plain_batch hplain b (List.mem_of_mem_filter hb))

/-! ## The program -/

/-- What `main` does to its values, from its first one on. -/
def mainOps (net : Startup) (last : LastTouch) (passes : List Pass) : List Op :=
  .addValue (ascii "demo") 0 :: .send net.publish :: loopOps last passes

theorem main_app (token : Bytes) (memory : Client) (net : Startup) (last : LastTouch)
    (passes : List Pass) :
    (main token memory net last passes).app =
      run App.step (subscribed token memory net).begin (mainOps net last passes) := by
  have hcount : (subscribed token memory net).messageCount = 0 := rfl
  have hbegin : { subscribed token memory net with buff := openText } =
      (subscribed token memory net).begin := by
    rw [App.begin, ← hcount]
  have hstart : start token memory net =
      ((subscribed token memory net).begin.addValue (ascii "demo") 0).send net.publish := by
    rw [start, hbegin]
  rw [main, loop_app, mainOps, run_cons, run_cons, hstart, App.step, App.step]

/-- Nothing is published before the first value. -/
theorem published_subscribed (token : Bytes) (memory : Client) (net : Startup) :
    (subscribed token memory net).client.published = [] := by
  obtain ⟨-, -, hinflight, hwritten⟩ := dialled_client token memory net
  have hsubscribe := Client.published_subscribe
    ((dialled token memory net).connect net.connect).client (topicOf token) .QOS0 .messageArrived
    net.subscribe
  have hconnect : ((dialled token memory net).connect net.connect).client.published =
      (dialled token memory net).client.published :=
    Client.published_connect hinflight connectData net.connect
  have hnil : (dialled token memory net).client.published = [] := by
    rw [Client.published, hwritten]
    rfl
  exact (hsubscribe.trans hconnect).trans hnil

/-- The only key is a plain one. -/
theorem key_of_mem_loopOps {last : LastTouch} {passes : List Pass} {key : Bytes} {value : Int}
    (h : Op.addValue key value ∈ loopOps last passes) : key = ascii "demo" := by
  induction passes generalizing last with
  | nil => exact absurd h List.not_mem_nil
  | cons i passes ih =>
    rw [loopOps] at h
    rcases List.mem_append.mp h with h | h
    · cases hbutton : (last.sample i.touch).1 with
      | none => simp [hbutton, Pass.ops] at h
      | some button =>
        simp only [hbutton, Pass.ops, List.mem_cons, reduceCtorEq, Op.addValue.injEq,
          List.not_mem_nil, or_false, false_or] at h
        exact h.1
    · exact ih h

theorem plain_mainOps {net : Startup} {last : LastTouch} {passes : List Pass} {key : Bytes}
    {value : Int} (h : Op.addValue key value ∈ mainOps net last passes) : Plain key := by
  have hdemo : Plain (ascii "demo") := by decide
  rw [mainOps, List.mem_cons, List.mem_cons] at h
  rcases h with h | h | h
  · rw [(Op.addValue.inj h).1]
    exact hdemo
  · exact absurd h (by simp)
  · rw [key_of_mem_loopOps h]
    exact hdemo

/-- **What the broker gets from the program.** In any run of `main`, whatever the network, the
broker and the touches do, the broker reads the text of each `send` that returned `SUCCESS`, in
order and on the topic of the token, and nothing else; and each parses as the document of the batch
that it was. -/
theorem broker_gets (token : Bytes) (memory : Client) (net : Startup) (last : LastTouch)
    (passes : List Pass) :
    ((main token memory net last passes).app.client.published.map brokerRead =
      (sentTexts (subscribed token memory net).begin (mainOps net last passes)).map fun text =>
        some (topicOf token, text)) ∧
    ((main token memory net last passes).app.client.published.map fun packet =>
        (brokerRead packet).bind fun r => parse r.2) =
      ((ledger (subscribed token memory net) (mainOps net last passes)).2.batches.filter
        Prod.snd).map fun b => some (valuesJson (b.1.map Pair.texts)) := by
  have hclean : Clean (subscribed token memory net).begin.client :=
    clean_subscribed token memory net
  have hnone := published_subscribed token memory net
  have hreads := broker_reads hclean (mainOps net last passes)
  have hbegin : (subscribed token memory net).begin.client.published = [] := hnone
  have htopic : cstr (subscribed token memory net).begin.topic = topicOf token := cstr_topicOf token
  rw [hbegin, List.map_nil, List.nil_append, htopic] at hreads
  rw [main_app]
  exact ⟨hreads, broker_values _ _ hclean hnone fun key value h => plain_mainOps h⟩

end Thethings.Mqtt
