import Thethings.Mqtt.Calls

/-!
# Requests and their answers

A call against a broker that answers it: `connect` (`MQTTClient.h` l.661), `subscribe` (l.727),
`unsubscribe` (l.774) and `publish` with QoS 1 (l.818 and 866). Whatever packets come before the
answer, the call takes them off the stream one by one, serves them, takes the answer, and leaves
what follows.

Choices:

* The reads are those of `Stream`: each one is answered in full, and the network takes the
  acknowledgements and pings that are written for the packets before the answer.
* The answer is what the broker's serializer writes, with any code, packet id and flag. The packets
  before it are any that fit, or headers of those that do not, but none of the type that is waited
  for.
* The packet id of an answer decides nothing but whether a message stays in flight, so it is not
  asked to be the one that was sent.
* `connect` is taken with nothing in flight; with a message in flight it goes on with that, and its
  result is that of the second exchange.

Results:

* `waitfor_stream`: the wait for an answer.
* `connect_answered`, `subscribe_answered`, `unsubscribe_answered`, `publish_answered`: the four
  calls that wait, with what the broker's code decides, and what is left of the handler table.
-/

namespace Thethings.Mqtt

open Library

/-! ## A table without a free slot -/

namespace HandlerTable

/-- Every slot has a topic filter. -/
def Full (t : HandlerTable) : Prop := ∀ slot ∈ t.slots, slot.topicFilter ≠ none

instance (t : HandlerTable) : Decidable t.Full := inferInstanceAs (Decidable (∀ _ ∈ _, _))

end HandlerTable

theorem registerSlots_spec (topicFilter : Bytes) (handler : MessageHandler) (slots : List Slot) :
    ((registerSlots topicFilter handler slots).2 = false ↔
        ∀ slot ∈ slots, slot.topicFilter ≠ none) ∧
      ((registerSlots topicFilter handler slots).2 = true →
        ⟨some topicFilter, some handler⟩ ∈ (registerSlots topicFilter handler slots).1) := by
  induction slots with
  | nil =>
    exact ⟨⟨fun _ _ h => absurd h List.not_mem_nil, fun _ => rfl⟩,
      fun h => absurd h (by simp [registerSlots])⟩
  | cons slot slots ih =>
    rw [registerSlots, List.forall_mem_cons]
    split_ifs with hfree
    · exact ⟨⟨fun h => absurd h (by decide), fun h => absurd hfree h.1⟩,
        fun _ => List.mem_cons_self⟩
    · exact ⟨ih.1.trans ⟨fun h => ⟨hfree, h⟩, fun h => h.2⟩,
        fun h => List.mem_cons_of_mem slot (ih.2 h)⟩

namespace HandlerTable

variable {t : HandlerTable}

theorem register_of_full (h : t.Full) (topicFilter : Bytes) (handler : MessageHandler) :
    (t.register topicFilter handler).2 = false :=
  (registerSlots_spec topicFilter handler t.slots).1.mpr h

theorem register_of_not_full (h : ¬ t.Full) (topicFilter : Bytes) (handler : MessageHandler) :
    (t.register topicFilter handler).2 = true ∧
      (t.register topicFilter handler).1.Has topicFilter handler := by
  obtain ⟨hfull, hmem⟩ := registerSlots_spec topicFilter handler t.slots
  have hfound : (t.register topicFilter handler).2 = true := by
    rw [← Bool.not_eq_false]
    exact fun hnot => h (hfull.mp hnot)
  exact ⟨hfound, _, hmem hfound, rfl, rfl⟩

end HandlerTable

/-! ## The wait -/

namespace Client

variable {c : Client} {as : List Inbound} {es : List Cycle} {e : Cycle}

/-- **The wait for an answer.** -/
theorem waitfor_stream {type : MsgType} (hpublish : type ≠ .PUBLISH) (rc : Int) (rest : Bytes)
    (hup : c.ipstack.connected = true) (h : List.Forall₂ Suits as es) (he : e.Taken)
    (hnone : ∀ a ∈ as, a.result ≠ type.code) {f : Frame} (hf : headerType f.first = type.code)
    (hlen : f.body.length ≤ 98) :
    (deal (as.flatMap Inbound.bytes ++ (f.bytes ++ rest)) (es ++ [e])).2 = rest ∧
      ∃ d, c.waitfor type rc
          (deal (as.flatMap Inbound.bytes ++ (f.bytes ++ rest)) (es ++ [e])).1 =
            ((type.code : Int), d) ∧
        Serves c d (deliveriesOf c.handlersOf as) (as.flatMap Inbound.replies) ∧
        ∃ stale, d.readbuf = f.bytes ++ stale := by
  induction h generalizing c rc with
  | nil =>
    have htype : headerType f.first ≠ MsgType.PUBLISH.code := by
      rw [hf]
      cases type with
      | PUBLISH => exact absurd rfl hpublish
      | _ => decide
    obtain ⟨hrest, d, hd, hserves, hreadbuf⟩ := cycle_other hup htype hlen he rest
    refine ⟨hrest, d, ?_, hserves, hreadbuf⟩
    rw [List.flatMap_nil, List.nil_append, List.nil_append, deal]
    simp only [deal, waitfor, hd, hf, if_true]
  | @cons a e' as es hsuits hlater ih =>
    rw [List.forall_mem_cons] at hnone
    obtain ⟨hrest, d, hd, hserves⟩ := Client.cycle_inbound hup hsuits.1 hsuits.2
      (as.flatMap Inbound.bytes ++ (f.bytes ++ rest))
    obtain ⟨hleft, g, hg, hserves', hreadbuf⟩ := ih a.result hserves.up hnone.2
    rw [hserves.handlersOf] at hserves'
    rw [List.flatMap_cons, List.append_assoc, List.cons_append, deal]
    simp only [hrest]
    refine ⟨hleft, g, ?_, hserves.trans hserves', hreadbuf⟩
    rw [waitfor, hd]
    simp only
    rw [if_neg hnone.1, hg]

/-! ## The calls -/

/-- `d` is `c` after a request, some packets and an answer. -/
structure Answered (c d : Client) (packet : Bytes) (as : List Inbound) : Prop where
  deliveries : d.deliveries = c.deliveries ++ deliveriesOf c.handlersOf as
  replies : d.replies = c.replies ++ packet :: as.flatMap Inbound.replies
  up : d.ipstack.connected = true

/-- What the end of a call sets is neither delivered nor written. -/
theorem Answered.of_same {d d' : Client} {packet : Bytes} (h : Answered c d packet as)
    (harrived : d'.arrived = d.arrived) (hwritten : d'.written = d.written)
    (hipstack : d'.ipstack = d.ipstack) : Answered c d' packet as where
  deliveries := by rw [Client.deliveries, harrived]; exact h.deliveries
  replies := by rw [Client.replies, hwritten]; exact h.replies
  up := hipstack ▸ h.up

/-- **A request that the network takes, and its answer**, from a client that is ready to wait. -/
theorem request_answered {p : Client} (hsame : SameHandlers c p) (hwritten : p.written = c.written)
    {packet : Bytes} (hne : packet ≠ []) (hping : packetType packet ≠ MsgType.PINGREQ.code)
    {sends : List Send} (htaken : takes packet.length sends = true) {type : MsgType}
    (hpublish : type ≠ .PUBLISH) (rest : Bytes) (hup : p.ipstack.connected = true)
    (h : List.Forall₂ Suits as es) (he : e.Taken) (hnone : ∀ a ∈ as, a.result ≠ type.code)
    {f : Frame} (hf : headerType f.first = type.code) (hlen : f.body.length ≤ 98) :
    (deal (as.flatMap Inbound.bytes ++ (f.bytes ++ rest)) (es ++ [e])).2 = rest ∧
      ∃ q d, p.sendPacket packet sends = (SUCCESS, q) ∧
        q.waitfor type FAILURE
          (deal (as.flatMap Inbound.bytes ++ (f.bytes ++ rest)) (es ++ [e])).1 =
            ((type.code : Int), d) ∧
        Answered c d packet as ∧ Hears p d ∧ ∃ stale, d.readbuf = f.bytes ++ stale := by
  have hhears := p.hears_sendPacket packet sends
  obtain ⟨ipstack, -, hstill, hsend⟩ := p.sendPacket_eq hne sends
  have hcompletes : p.completes packet sends = true := by
    rw [completes, hup, htaken]
    rfl
  rw [hsend, if_pos hcompletes] at hhears ⊢
  obtain ⟨hrest, d, hd, hserves, hreadbuf⟩ := waitfor_stream
    (c := { p with ipstack := ipstack, written := p.written ++ [packet] }) hpublish FAILURE rest
    (hstill hcompletes) h he hnone hf hlen
  have hhandlers : (handlersOf { p with ipstack := ipstack, written := p.written ++ [packet] }) =
      c.handlersOf := by
    funext topicName
    rw [Client.handlersOf, Client.handlersOf, hsame.messageHandlers, hsame.default]
  refine ⟨hrest, _, d, rfl, hd, ⟨?_, ?_, hserves.up⟩, ?_, hreadbuf⟩
  · rw [hserves.deliveries, hhandlers, Client.deliveries, Client.deliveries, hsame.arrived]
  · have hkept : (packetType packet != MsgType.PINGREQ.code) = true := bne_iff_ne.mpr hping
    rw [hserves.replies, Client.replies, Client.replies, hwritten, List.filter_append]
    simp only [List.filter_cons, List.filter_nil, hkept, if_true, List.append_assoc,
      List.singleton_append]
  · refine hhears.trans ?_
    have hwait := passes_hears.waitfor type FAILURE
      { p with ipstack := ipstack, written := p.written ++ [packet] }
      (deal (as.flatMap Inbound.bytes ++ (f.bytes ++ rest)) (es ++ [e])).1
    rwa [hd] at hwait

theorem toNat_ne {code : UInt8} (h : code ≠ 0) : (code.toNat : Int) ≠ SUCCESS :=
  fun hzero => h (UInt8.toNat_inj.mp (Int.natCast_eq_zero.mp hzero))

/-- **A connect that is answered** returns the code of the CONNACK, and the client is connected
exactly when that is 0, unless a message is in flight. -/
theorem connect_answered (c : Client) (options : ConnectData) (packet answer rest : Bytes)
    (buflen : Nat) (code : UInt8) (sessionPresent : Bool) (sends : List Send)
    (resend : PublishNet) (as : List Inbound) (es : List Cycle) (e : Cycle)
    (hconn : c.isconnected = false) (hinflight : c.inflightMsgid = 0)
    (hup : c.ipstack.connected = true)
    (hpacket : serializeConnect 100 options = .ok packet)
    (htaken : takes packet.length sends = true)
    (hanswer : serializeConnack buflen code sessionPresent = .ok answer)
    (h : List.Forall₂ Suits as es) (he : e.Taken)
    (hnone : ∀ a ∈ as, a.result ≠ MsgType.CONNACK.code) :
    (deal (as.flatMap Inbound.bytes ++ (answer ++ rest)) (es ++ [e])).2 = rest ∧
      ∃ d, c.connect options
          ⟨sends, (deal (as.flatMap Inbound.bytes ++ (answer ++ rest)) (es ++ [e])).1, resend⟩ =
            ((code.toNat : Int), d) ∧
        d.isconnected = decide (code = 0) ∧ Answered c d packet as := by
  obtain ⟨f, hfirst, hbody, rfl⟩ := serializeReply_frame hanswer (by simp)
  have hread := connack_read_back hanswer
  have hf : headerType f.first = MsgType.CONNACK.code := by rw [hfirst, headerType_header]
  have hlen : f.body.length ≤ 98 := by rw [hbody]; exact (by decide : 2 ≤ 98)
  have hsame : SameHandlers c (c.setOptions options) := ⟨rfl, rfl, rfl⟩
  obtain ⟨hrest, q, d, hq, hd, hanswered, hhears, stale, hreadbuf⟩ := request_answered hsame rfl
    (serialize_spec hpacket).1 (by rw [(serialize_spec hpacket).2]; decide) htaken (by decide) rest
    hup h he hnone hf hlen
  refine ⟨hrest, ?_⟩
  have hconnack : deserializeConnack d.readbuf = (1, some code) := by
    rw [hreadbuf, deserializeConnack_eq, hread]
    rfl
  have hzero : d.inflightMsgid = 0 := hhears.inflightMsgid.trans hinflight
  have hdown : d.isconnected = false := hhears.isconnected.trans hconn
  rw [connect, if_neg (by rw [hconn]; decide), hpacket]
  simp only [hq]
  rw [if_neg (not_not_intro rfl), finishConnect, awaitConnack, hd]
  simp only [if_true, hconnack, resend_of_zero hzero, Option.getD_some]
  by_cases hcode : code = 0
  · subst hcode
    exact ⟨_, rfl, rfl, hanswered.of_same rfl rfl rfl⟩
  · have hne : (code.toNat : Int) ≠ SUCCESS := toNat_ne hcode
    rw [if_neg hne]
    exact ⟨d, rfl, by rw [hdown, decide_eq_false hcode], hanswered⟩

/-- A message that comes before an answer. -/
theorem suits_before : List.Forall₂ Suits [toTopic [1]] [takenCycle] :=
  .cons (suits_toTopic (by decide)) .nil

/-- A message is served, then the CONNACK accepts. -/
theorem connect_answered_accepted :
    ∃ d, upClient.connect connectData ⟨[.took 26],
        (deal ([toTopic [1]].flatMap Inbound.bytes ++ ([32, 2, 0, 0] ++ [192, 0]))
          [takenCycle, takenCycle]).1, ⟨[], [], 0⟩⟩ = (0, d) ∧
      d.isconnected = true ∧ Answered upClient d connectPacket [toTopic [1]] :=
  (connect_answered upClient connectData connectPacket [32, 2, 0, 0] [192, 0] 4 0 false [.took 26]
    ⟨[], [], 0⟩ [toTopic [1]] [takenCycle] takenCycle rfl rfl rfl connectData_packet (by decide) rfl
    suits_before ⟨by decide, by decide⟩ (fun _ ha => by rw [List.mem_singleton.mp ha]; decide)).2

/-- How a subscribe that was granted a code leaves the client. -/
structure GrantedResult (d d' : Client) (topicFilter : Bytes) (handler : MessageHandler)
    (code : UInt8) : Prop where
  connected : d'.isconnected = true ↔ code = 0 ∨ code ≠ 128 ∧ ¬ d.messageHandlers.Full
  registered : code ≠ 128 ∧ ¬ d.messageHandlers.Full → d'.messageHandlers.Has topicFilter handler
  kept : code = 0 ∧ d.messageHandlers.Full → d'.messageHandlers = d.messageHandlers
  cleared : code ≠ 0 ∧ (code = 128 ∨ d.messageHandlers.Full) →
    d'.messageHandlers = d.messageHandlers.clear
  arrived : d'.arrived = d.arrived
  written : d'.written = d.written
  ipstack : d'.ipstack = d.ipstack

theorem granted_result {d : Client} (topicFilter : Bytes) (handler : MessageHandler) {code : UInt8}
    (hcode : d.grantedQoS = code.toNat) (hconn : d.isconnected = true) :
    ∃ d', orClean (d.granted topicFilter handler) =
        (if code ≠ 128 ∧ ¬ d.messageHandlers.Full then 0 else (code.toNat : Int), d') ∧
      GrantedResult d d' topicFilter handler code := by
  have hclean : code ≠ 0 → ¬ (code ≠ 128 ∧ ¬ d.messageHandlers.Full) →
      GrantedResult d d.cleanSession topicFilter handler code := by
    intro hzero hnot
    exact ⟨⟨fun hc => absurd hc Bool.false_ne_true,
      fun hor => absurd hor (not_or.mpr ⟨hzero, hnot⟩)⟩,
      fun hboth => absurd hboth hnot, fun hboth => absurd hboth.1 hzero, fun _ => rfl, rfl, rfl,
      rfl⟩
  unfold granted
  rw [hcode]
  by_cases hrefused : code = 128
  · have hzero : code ≠ 0 := by rw [hrefused]; decide
    have h128 : (code.toNat : Int) = 0x80 := by rw [hrefused]; rfl
    have hnot : ¬ (code ≠ 128 ∧ ¬ d.messageHandlers.Full) := fun hboth => hboth.1 hrefused
    rw [if_pos h128, orClean_failed d (toNat_ne hzero), if_neg hnot]
    exact ⟨_, rfl, hclean hzero hnot⟩
  · have h128 : (code.toNat : Int) ≠ 0x80 := fun h =>
      hrefused (UInt8.toNat_inj.mp (Int.natCast_inj.mp h))
    rw [if_neg h128]
    by_cases hfull : d.messageHandlers.Full
    · have hfound := HandlerTable.register_of_full hfull topicFilter handler
      have hnot : ¬ (code ≠ 128 ∧ ¬ d.messageHandlers.Full) := fun hboth => hboth.2 hfull
      rcases he : d.messageHandlers.register topicFilter handler with ⟨table, found⟩
      rw [he] at hfound
      obtain rfl : found = false := hfound
      rw [if_neg hnot]
      by_cases hzero : code = 0
      · subst hzero
        exact ⟨d, orClean_success d, ⟨fun _ => Or.inl rfl, fun _ => hconn⟩,
          fun hboth => absurd hboth hnot, fun _ => rfl, fun hboth => absurd rfl hboth.1, rfl, rfl,
          rfl⟩
      · exact ⟨_, orClean_failed d (toNat_ne hzero), hclean hzero hnot⟩
    · obtain ⟨hfound, hhas⟩ := HandlerTable.register_of_not_full hfull topicFilter handler
      rcases he : d.messageHandlers.register topicFilter handler with ⟨table, found⟩
      rw [he] at hfound hhas
      obtain rfl : found = true := hfound
      rw [if_pos ⟨hrefused, hfull⟩]
      exact ⟨_, orClean_success _, ⟨fun _ => Or.inr ⟨hrefused, hfull⟩, fun _ => hconn⟩,
        fun _ => hhas, fun hboth => absurd hboth.2 hfull,
        fun hboth => hboth.2.elim (absurd · hrefused) (absurd · hfull), rfl, rfl, rfl⟩

/-- **A subscribe that is answered** registers its handler where the code is no refusal and the
table has room; without room it succeeds with nothing registered on the code 0. On any other code,
and on a refusal, it cleans the session, and every other subscription is gone from the table. -/
theorem subscribe_answered (c : Client) (topicFilter : Bytes) (qos : QoS) (handler : MessageHandler)
    (packet answer rest : Bytes) (buflen packetid : Nat) (code : UInt8) (sends : List Send)
    (as : List Inbound) (es : List Cycle) (e : Cycle) (hconn : c.isconnected = true)
    (hup : c.ipstack.connected = true)
    (hpacket : serializeSubscribe 100 false (getNext c.packetid) (.ofCString topicFilter) qos.code =
      .ok packet)
    (htaken : takes packet.length sends = true) (hid : packetid < 65536)
    (hanswer : serializeSuback buflen packetid [code] = .ok answer)
    (h : List.Forall₂ Suits as es) (he : e.Taken)
    (hnone : ∀ a ∈ as, a.result ≠ MsgType.SUBACK.code) :
    (deal (as.flatMap Inbound.bytes ++ (answer ++ rest)) (es ++ [e])).2 = rest ∧
      ∃ d, c.subscribe topicFilter qos handler
          ⟨sends, (deal (as.flatMap Inbound.bytes ++ (answer ++ rest)) (es ++ [e])).1⟩ =
            (if code ≠ 128 ∧ ¬ c.messageHandlers.Full then 0 else (code.toNat : Int), d) ∧
        (d.isconnected = true ↔ code = 0 ∨ code ≠ 128 ∧ ¬ c.messageHandlers.Full) ∧
        (code ≠ 128 ∧ ¬ c.messageHandlers.Full → d.messageHandlers.Has topicFilter handler) ∧
        (code = 0 ∧ c.messageHandlers.Full → d.messageHandlers = c.messageHandlers) ∧
        (code ≠ 0 ∧ (code = 128 ∨ c.messageHandlers.Full) →
          d.messageHandlers = c.messageHandlers.clear) ∧
        Answered c d packet as := by
  obtain ⟨f, hfirst, hbody, rfl⟩ := serializeReply_frame hanswer (by simp [writeInt])
  have hread := fun stale => (suback_read_back hanswer hid (show 3 < 2 ^ 28 by decide) 1 stale).2
  have hf : headerType f.first = MsgType.SUBACK.code := by rw [hfirst, headerType_header]
  have hlen : f.body.length ≤ 98 := by rw [hbody]; exact (by decide : 3 ≤ 98)
  have hsame : SameHandlers c { c with packetid := getNext c.packetid } := ⟨rfl, rfl, rfl⟩
  obtain ⟨hrest, q, d, hq, hd, hanswered, hhears, stale, hreadbuf⟩ := request_answered hsame rfl
    (serialize_spec hpacket).1 (by rw [(serialize_spec hpacket).2]; decide) htaken (by decide) rest
    hup h he hnone hf hlen
  refine ⟨hrest, ?_⟩
  have hcode : d.grantedQoS = code.toNat := by
    rw [grantedQoS, hreadbuf, hread]
    rfl
  have htable : d.messageHandlers = c.messageHandlers := hhears.messageHandlers
  have hstill : d.isconnected = true := hhears.isconnected.trans hconn
  have hcalled : c.subscribe topicFilter qos handler
      ⟨sends, (deal (as.flatMap Inbound.bytes ++ (f.bytes ++ rest)) (es ++ [e])).1⟩ =
        orClean (d.granted topicFilter handler) := by
    rw [subscribe, if_neg (by rw [hconn]; decide)]
    simp only [hpacket, hq]
    rw [if_neg (not_not_intro rfl), hd]
    simp only [if_true]
  obtain ⟨d', hd', hresult⟩ := granted_result topicFilter handler hcode hstill
  have hconnected := hresult.connected
  have hregistered := hresult.registered
  have hkept := hresult.kept
  have hcleared := hresult.cleared
  rw [htable] at hd' hconnected hregistered hkept hcleared
  exact ⟨d', by rw [hcalled, hd'], hconnected, hregistered, hkept, hcleared,
    hanswered.of_same hresult.arrived hresult.written hresult.ipstack⟩

/-- A client that is connected. -/
def online : Client := { upClient with isconnected := true }

/-- A message is served, then the SUBACK grants QoS 0. -/
theorem subscribe_answered_granted :
    ∃ d, online.subscribe (ascii "t") .QOS0 .messageArrived ⟨[.took 8],
        (deal ([toTopic [1]].flatMap Inbound.bytes ++ ([144, 3, 0, 1, 0] ++ [192, 0]))
          [takenCycle, takenCycle]).1⟩ = (0, d) ∧
      d.messageHandlers.Has (ascii "t") .messageArrived := by
  obtain ⟨-, d, hd, -, hhas, -⟩ := subscribe_answered online (ascii "t") .QOS0 .messageArrived
    [130, 6, 0, 1, 0, 1, 116, 0] [144, 3, 0, 1, 0] [192, 0] 7 1 0 [.took 8] [toTopic [1]]
    [takenCycle] takenCycle rfl rfl (by decide) (by decide) (by decide) (by decide) suits_before
    ⟨by decide, by decide⟩ (fun _ ha => by rw [List.mem_singleton.mp ha]; decide)
  exact ⟨d, hd, hhas (by decide)⟩

/-- **An unsubscribe that is answered** frees the first slot with its topic filter. -/
theorem unsubscribe_answered (c : Client) (topicFilter packet answer rest : Bytes)
    (buflen packetid : Nat) (sends : List Send) (as : List Inbound) (es : List Cycle) (e : Cycle)
    (hconn : c.isconnected = true) (hup : c.ipstack.connected = true)
    (hpacket : serializeUnsubscribe 100 false (getNext c.packetid) [.ofCString topicFilter] =
      .ok packet)
    (htaken : takes packet.length sends = true)
    (hanswer : serializeUnsuback buflen packetid = .ok answer)
    (h : List.Forall₂ Suits as es) (he : e.Taken)
    (hnone : ∀ a ∈ as, a.result ≠ MsgType.UNSUBACK.code) :
    (deal (as.flatMap Inbound.bytes ++ (answer ++ rest)) (es ++ [e])).2 = rest ∧
      ∃ d, c.unsubscribe topicFilter
          ⟨sends, (deal (as.flatMap Inbound.bytes ++ (answer ++ rest)) (es ++ [e])).1⟩ =
            (SUCCESS, d) ∧
        d.isconnected = true ∧ d.messageHandlers = c.messageHandlers.forget topicFilter ∧
        Answered c d packet as := by
  obtain ⟨f, hfirst, hbody, rfl⟩ := serializeReply_frame hanswer (by simp [writeInt])
  have hf : headerType f.first = MsgType.UNSUBACK.code := by rw [hfirst, headerType_header]
  have hlen : f.body.length ≤ 98 := by rw [hbody]; exact (by decide : 2 ≤ 98)
  have hsame : SameHandlers c { c with packetid := getNext c.packetid } := ⟨rfl, rfl, rfl⟩
  obtain ⟨hrest, q, d, hq, hd, hanswered, hhears, stale, hreadbuf⟩ := request_answered hsame rfl
    (serialize_spec hpacket).1 (by rw [(serialize_spec hpacket).2]; decide) htaken (by decide) rest
    hup h he hnone hf hlen
  have hunsuback : (deserializeUnsuback d.readbuf).1 = 1 := by
    rw [hreadbuf]
    exact if_pos hf
  have htable : d.messageHandlers = c.messageHandlers := hhears.messageHandlers
  refine ⟨hrest, { d with messageHandlers := d.messageHandlers.forget topicFilter }, ?_,
    hhears.isconnected.trans hconn, by rw [htable], hanswered.of_same rfl rfl rfl⟩
  rw [unsubscribe, if_neg (by rw [hconn]; decide)]
  simp only [hpacket, hq]
  rw [if_neg (not_not_intro rfl), hd]
  simp only [if_true]
  rcases hr : deserializeUnsuback d.readbuf with ⟨rc, acked⟩
  rw [hr] at hunsuback
  obtain rfl : rc = 1 := hunsuback
  rw [forgotten, hr]
  exact orClean_success _

/-- A message is served, then the UNSUBACK comes. -/
theorem unsubscribe_answered_first :
    ∃ d, online.unsubscribe (ascii "t") ⟨[.took 7],
        (deal ([toTopic [1]].flatMap Inbound.bytes ++ ([176, 2, 0, 1] ++ [192, 0]))
          [takenCycle, takenCycle]).1⟩ = (SUCCESS, d) ∧
      d.isconnected = true := by
  obtain ⟨-, d, hd, hconn, -⟩ := unsubscribe_answered online (ascii "t") [162, 5, 0, 1, 0, 1, 116]
    [176, 2, 0, 1] [192, 0] 4 1 [.took 7] [toTopic [1]] [takenCycle] takenCycle rfl rfl (by decide)
    (by decide) (by decide) suits_before ⟨by decide, by decide⟩
    (fun _ ha => by rw [List.mem_singleton.mp ha]; decide)
  exact ⟨d, hd, hconn⟩

/-- What keeping a packet changes. -/
theorem keepInflight_spec (c : Client) (packet : Bytes) (id qos : Nat) :
    (c.keepInflight packet id qos).written = c.written ∧
      (c.keepInflight packet id qos).ipstack = c.ipstack ∧
      (c.keepInflight packet id qos).isconnected = c.isconnected ∧
      (c.keepInflight packet id qos).inflightMsgid =
        if c.cleansession = true then c.inflightMsgid else id := by
  unfold keepInflight
  split_ifs <;> exact ⟨rfl, rfl, rfl, rfl⟩

/-- **A publish with QoS 1 that is answered** succeeds, whatever packet id the PUBACK has. With that
of another message, the message stays in flight. -/
theorem publish_answered (c : Client) (topicName payload packet answer rest : Bytes)
    (payloadlen id buflen acked : Nat) (retained dup : Bool) (sends : List Send) (stray : Nat)
    (as : List Inbound) (es : List Cycle) (e : Cycle) (hconn : c.isconnected = true)
    (hup : c.ipstack.connected = true)
    (hpacket : serializePublish 100 false QoS.QOS1.code retained (getNext c.packetid)
      (.ofCString topicName) payload payloadlen = .ok packet)
    (htaken : takes packet.length sends = true)
    (hanswer : serializeAck buflen .PUBACK dup acked = .ok answer) (hacked : acked < 65536)
    (h : List.Forall₂ Suits as es) (he : e.Taken)
    (hnone : ∀ a ∈ as, a.result ≠ MsgType.PUBACK.code) :
    (deal (as.flatMap Inbound.bytes ++ (answer ++ rest)) (es ++ [e])).2 = rest ∧
      ∃ d, c.publish topicName payload payloadlen id QoS.QOS1.code retained
          ⟨sends, (deal (as.flatMap Inbound.bytes ++ (answer ++ rest)) (es ++ [e])).1, stray⟩ =
            (SUCCESS, d) ∧
        d.isconnected = true ∧
        (c.cleansession = false → (d.inflightMsgid = 0 ↔ acked = getNext c.packetid)) ∧
        Answered c d packet as := by
  obtain ⟨f, hfirst, hbody, rfl, -⟩ := ack_frame hanswer
  have hread := fun stale => (ack_read_back _ _ _ _ _ stale hanswer hacked).1
  have hf : headerType f.first = MsgType.PUBACK.code := by rw [hfirst, headerType_header]
  have hlen : f.body.length ≤ 98 := by rw [hbody]; exact (by decide : 2 ≤ 98)
  have hsame := c.sameHandlers_keepInflight packet (getNext c.packetid) QoS.QOS1.code
  have hdraw : c.drawFor QoS.QOS1.code = { c with packetid := getNext c.packetid } :=
    if_pos (Or.inl rfl)
  obtain ⟨hwritten, hipstack, hisconnected, hinflight⟩ :=
    (c.drawFor QoS.QOS1.code).keepInflight_spec packet (getNext c.packetid) QoS.QOS1.code
  rw [hdraw] at hwritten hipstack hisconnected hinflight hsame
  obtain ⟨hrest, q, d, hq, hd, hanswered, hhears, stale, hreadbuf⟩ := request_answered hsame
    hwritten (serialize_spec hpacket).1 (by rw [(serialize_spec hpacket).2]; decide) htaken
    (by decide) rest (by rw [hipstack]; exact hup) h he hnone hf hlen
  refine ⟨hrest, ?_⟩
  have hid : c.idFor id QoS.QOS1.code = getNext c.packetid := if_pos (Or.inl rfl)
  have hack : deserializeAck d.readbuf = (1, some acked) := by rw [hreadbuf, hread]
  have hstill : d.isconnected = true := (hhears.isconnected.trans hisconnected).trans hconn
  rw [publish_eq, if_neg (by rw [hconn]; decide), hid, hpacket, hdraw]
  simp only [publishPacket, hq]
  rw [if_neg (not_not_intro rfl), if_pos trivial, hd]
  simp only [if_true, hack, Option.getD_some]
  refine ⟨_, rfl, ?_, ?_, ?_⟩
  · split_ifs
    · exact hstill
    · exact hstill
  · intro hclean
    have hkept : d.inflightMsgid = getNext c.packetid := by
      rw [hhears.inflightMsgid, hinflight, if_neg (by rw [hclean]; decide)]
    have hpos : getNext c.packetid ≠ 0 := by
      unfold getNext
      split_ifs <;> omega
    rw [hkept]
    split_ifs with heq
    · exact ⟨fun _ => heq.symm, fun _ => rfl⟩
    · rw [hkept]
      exact ⟨fun h0 => absurd h0 hpos, fun h0 => absurd h0.symm heq⟩
  · split_ifs
    · exact hanswered.of_same rfl rfl rfl
    · exact hanswered

/-- A message is served, then the PUBACK of another message comes. -/
theorem publish_answered_other :
    ∃ d, online.publish (ascii "t") [5] 1 0 QoS.QOS1.code false ⟨[.took 8],
        (deal ([toTopic [1]].flatMap Inbound.bytes ++ ([64, 2, 0, 7] ++ [192, 0]))
          [takenCycle, takenCycle]).1, 0⟩ = (SUCCESS, d) ∧
      d.inflightMsgid ≠ 0 := by
  obtain ⟨-, d, hd, -, hinflight, -⟩ := publish_answered online (ascii "t") [5]
    [50, 6, 0, 1, 116, 0, 1, 5] [64, 2, 0, 7] [192, 0] 1 0 4 7 false false [.took 8] 0
    [toTopic [1]] [takenCycle] takenCycle rfl rfl (by decide) (by decide) (by decide) (by decide)
    suits_before ⟨by decide, by decide⟩ (fun _ ha => by rw [List.mem_singleton.mp ha]; decide)
  exact ⟨d, hd, fun h => absurd ((hinflight rfl).mp h) (by decide)⟩

end Client

end Thethings.Mqtt
