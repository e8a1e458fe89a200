import Thethings.Mqtt.Effects
import Thethings.Values
import Thethings.Library.Run

/-!
# The global state of the MQTT program

`App` is what `main.cpp` keeps in global variables: the client, the message it publishes, the batch
under construction in `buff` with its `message_count`, the stream that renders the values, the topic
and the last result. `addValue` (l.26-37) and `send` (l.39-53) work on it, and the loop of `main`
calls `client.yield` and `client.connect` in between; these four are the operations (`Op`) every run
is made of.

Choices:

* The operations may come in any order here, and as often as one likes; in which order `main` calls
  them is in `Main`.
* Strings are the `std::string`s of the source: a key may hold any byte. `payloadlen` is the length
  of the C string, so a NUL in a key cuts what is published and not what is in `buff`.
* `send` resets `buff` and `message_count` whatever `publish` returned, as in the source.
* The client is a global too: it is constructed in memory that the linker has cleared, or in any
  other, which is a parameter.

Results:

* `Holds`: `buff` is the open values document of some pairs, and `message_count` counts them. Every
  operation keeps it (`holds_step`): it is what the comma rule and the reset in `send` add up to.
* `connectData_packet`: the CONNECT of the program fits its buffer.
* `connect_accepting`: over a connection that is up some answer to a `connect` begins a session.

Left out: the width of `message_count`, and what is printed.
-/

namespace Thethings.Mqtt

open Library

/-- The global variables. -/
structure App where
  client : Client
  message : Message
  messageCount : Int
  buff : Bytes
  convert : Bytes
  rc : Int
  topic : Bytes

/-- `data` of `main`. -/
def connectData : ConnectData :=
  { ConnectData.initializer with
    version := 3
    clientID := .ofCString (ascii "disco-f746") }

/-- The CONNECT of the program. -/
def connectPacket : Bytes :=
  [16, 24, 0, 6] ++ ascii "MQIsdp" ++ [3, 2, 0, 60, 0, 10] ++ ascii "disco-f746"

theorem connectData_packet : serializeConnect 100 connectData = .ok connectPacket := by decide

/-- An open document with no value in it. -/
def openText : Bytes := ascii "\x7b\"values\":["

/-- What the linker clears before the constructors run. -/
def Client.zeroed : Client where
  ipstack := .init
  readbuf := List.replicate 100 0
  keepAliveInterval := 0
  pingOutstanding := false
  cleansession := false
  packetid := 0
  messageHandlers := ⟨List.replicate 5 ⟨none, none⟩, rfl⟩
  defaultMessageHandler := none
  isconnected := false
  pubbuf := []
  inflightMsgid := 0
  inflightQoS := 0
  written := []
  arrived := []

namespace App

/-- The globals as `main` finds them, with a client constructed in this memory. -/
def init (memory : Client) : App where
  client := .new memory
  message := ⟨0, false, false, 0, [], 0⟩
  messageCount := 0
  buff := []
  convert := []
  rc := 0
  topic := []

/-- `addValue(key, value)`. -/
def addValue (s : App) (key : Bytes) (value : Int) : App :=
  let buff := if 0 < s.messageCount then s.buff ++ ascii "," else s.buff
  let buff := buff ++ ascii "\x7b\"key\":\""
  let buff := buff ++ key
  let buff := buff ++ ascii "\",\"value\":\""
  let convert : Bytes := []
  let convert := convert ++ decimal value
  let buff := buff ++ convert
  let buff := buff ++ ascii "\"\x7d"
  { s with buff := buff, convert := convert, messageCount := s.messageCount + 1 }

/-- The message that `send` fills in. -/
def outgoing (s : App) : Message :=
  { s.message with
    qos := QoS.QOS0.code
    payload := s.buff ++ ascii "]\x7d"
    retained := false
    dup := false
    payloadlen := (cstr (s.buff ++ ascii "]\x7d")).length }

/-- `send()`. -/
def send (s : App) (net : Client.PublishNet) : App :=
  let (rc, client) := s.client.publishMessage s.topic s.outgoing net
  { s with
    client := client
    message := s.outgoing
    rc := rc
    buff := openText
    messageCount := 0 }

/-- `client.yield(100)`. -/
def yield (s : App) (cycles : List Cycle) : App := { s with client := (s.client.yield cycles).2 }

/-- `rc = client.connect(data)`. -/
def connect (s : App) (net : Client.ConnectNet) : App :=
  let (rc, client) := s.client.connect connectData net
  { s with client := client, rc := rc }

end App

theorem send_client (s : App) (net : Client.PublishNet) :
    (s.send net).client = (s.client.publishMessage s.topic s.outgoing net).2 := rfl

theorem send_message (s : App) (net : Client.PublishNet) : (s.send net).message = s.outgoing := rfl

theorem yield_client (s : App) (cycles : List Cycle) :
    (s.yield cycles).client = (s.client.yield cycles).2 := rfl

theorem connect_client (s : App) (net : Client.ConnectNet) :
    (s.connect net).client = (s.client.connect connectData net).2 := rfl

/-- A client that is connected stays as it is. -/
theorem connect_client_of_connected {s : App} (h : s.client.isconnected = true)
    (net : Client.ConnectNet) : (s.connect net).client = s.client :=
  congrArg Prod.snd (Client.connect_of_connected h connectData net)

/-- An operation, with what the network does during it. -/
inductive Op where
  | addValue (key : Bytes) (value : Int)
  | send (net : Client.PublishNet)
  | yield (cycles : List Cycle)
  | connect (net : Client.ConnectNet)

/-- The program after an operation. -/
def App.step (s : App) : Op → App
  | .addValue key value => s.addValue key value
  | .send net => s.send net
  | .yield cycles => s.yield cycles
  | .connect net => s.connect net

/-! ## The batch under construction -/

/-- A key and a value. -/
abbrev Pair := Bytes × Int

/-- The pair as the two strings of its text. -/
def Pair.texts (p : Pair) : Bytes × Bytes := (p.1, decimal p.2)

/-- `buff` is the open document of these pairs. -/
structure Holds (s : App) (pairs : List Pair) : Prop where
  buff : s.buff = valuesOpen (pairs.map Pair.texts)
  messageCount : s.messageCount = pairs.length

theorem Holds.count_eq_zero_iff {s : App} {pairs : List Pair} (h : Holds s pairs) :
    s.messageCount = 0 ↔ pairs = [] := by
  rw [h.messageCount]
  exact Int.natCast_eq_zero.trans List.length_eq_zero_iff

theorem holds_nil {s : App} (hbuff : s.buff = openText) (hcount : s.messageCount = 0) :
    Holds s [] :=
  ⟨hbuff.trans (List.append_nil _).symm, hcount⟩

theorem holds_addValue {s : App} {pairs : List Pair} (h : Holds s pairs) (key : Bytes)
    (value : Int) : Holds (s.addValue key value) (pairs ++ [(key, value)]) where
  buff := by
    have hcomma : (if 0 < s.messageCount then s.buff ++ ascii "," else s.buff) =
        if pairs.map Pair.texts = [] then valuesOpen (pairs.map Pair.texts)
        else valuesOpen (pairs.map Pair.texts) ++ ascii "," := by
      rw [h.buff, h.messageCount]
      cases pairs with
      | nil => rfl
      | cons p pairs =>
        rw [if_pos (by rw [List.length_cons]; omega), if_neg (by simp)]
    rw [List.map_append, List.map_singleton, valuesOpen_concat, ← hcomma]
    simp only [App.addValue, pairText, Pair.texts, List.nil_append, List.append_assoc]
  messageCount := by
    simp only [App.addValue, h.messageCount, List.length_append, List.length_singleton]
    omega

theorem holds_send (s : App) (net : Client.PublishNet) : Holds (s.send net) [] :=
  holds_nil rfl rfl

/-- The pairs in `buff` after an operation. -/
def Op.pendingAfter (pairs : List Pair) : Op → List Pair
  | .addValue key value => pairs ++ [(key, value)]
  | .send _ => []
  | _ => pairs

/-- **Every operation keeps `buff` an open document.** -/
theorem holds_step {s : App} {pairs : List Pair} (h : Holds s pairs) (op : Op) :
    Holds (s.step op) (op.pendingAfter pairs) := by
  cases op with
  | addValue key value => exact holds_addValue h key value
  | send net => exact holds_send s net
  | yield cycles => exact ⟨h.buff, h.messageCount⟩
  | connect net => exact ⟨h.buff, h.messageCount⟩

/-! ## A `connect` that is accepted -/

/-- A pass of `cycle` that reads an accepting CONNACK. -/
def connackCycle : Cycle where
  reads := ⟨.got [32], [.got [2]], .got [0, 0]⟩
  stray := ⟨[], 0, ([], 0)⟩
  ack := []
  sentExpired := false
  receivedExpired := false
  ping := []

/-- A `connect` whose CONNECT gets out and is accepted. -/
def acceptingNet : Client.ConnectNet := ⟨[.took 26], [connackCycle], ⟨[], [], 0⟩⟩

theorem awaitConnack_connack {c : Client} (h : c.ipstack.connected = true) :
    ∃ d : Client, d.ipstack.connected = true ∧ c.awaitConnack [connackCycle] = (SUCCESS, d) := by
  obtain ⟨d, hup, ⟨rest, hbuf⟩, he⟩ :=
    Client.readPacket_whole h 32 2 (show ([0, 0] : Bytes).length = (2 : UInt8).toNat from rfl)
      (by decide) (by decide)
  have hread : c.readPacket connackCycle.reads = ((headerType 32 : Int), d) := he
  have hcycle : c.cycle connackCycle = ((MsgType.CONNACK.code : Int), d) := by
    unfold Client.cycle
    rw [hread]
    simp only []
    rw [if_neg (by decide), if_neg (by decide), Client.keepalive_of_running d rfl rfl]
    rfl
  have hcode : deserializeConnack d.readbuf = (1, some 0) := by
    rw [hbuf]
    simp [deserializeConnack, openPacket, packetDecodeBuf, decodeGroups,
      show headerType 32 = MsgType.CONNACK.code by decide]
  refine ⟨d, hup, ?_⟩
  simp only [Client.awaitConnack, Client.waitfor, hcycle, if_true, hcode]
  rfl

theorem finishConnect_accepting {c : Client} (hup : c.ipstack.connected = true)
    (hinflight : c.inflightMsgid = 0) :
    (c.finishConnect acceptingNet).2.isconnected = true ∧
      (c.finishConnect acceptingNet).2.ipstack.connected = true := by
  obtain ⟨d, hdup, hawait⟩ := awaitConnack_connack hup
  have hback := c.background_awaitConnack [connackCycle]
  rw [hawait] at hback
  have hcycles : c.awaitConnack acceptingNet.cycles = (SUCCESS, d) := hawait
  simp only [Client.finishConnect, hcycles,
    Client.resend_of_zero (hback.inflightMsgid.trans hinflight), if_true]
  exact ⟨trivial, hdup⟩

/-- **Over a connection that is up a session can always be had.** -/
theorem connect_accepting {s : App} (hup : s.client.ipstack.connected = true)
    (hinflight : s.client.inflightMsgid = 0) :
    (s.connect acceptingNet).client.isconnected = true ∧
      (s.connect acceptingNet).client.ipstack.connected = true := by
  cases hconn : s.client.isconnected with
  | true =>
    rw [connect_client_of_connected hconn]
    exact ⟨hconn, hup⟩
  | false =>
    rw [connect_client]
    have htakes : takes connectPacket.length acceptingNet.sends = true := by decide
    have htaken : (s.client.setOptions connectData).completes connectPacket acceptingNet.sends =
        true := Bool.and_eq_true_iff.mpr ⟨hup, htakes⟩
    obtain ⟨ipstack, -, hstill, hsend⟩ := (s.client.setOptions connectData).sendPacket_eq
      (serialize_spec connectData_packet).1 acceptingNet.sends
    rw [if_pos htaken] at hsend
    unfold Client.connect
    rw [if_neg (by rw [hconn]; decide), connectData_packet]
    simp only [hsend, ne_eq, not_true_eq_false, if_false]
    exact finishConnect_accepting (hstill htaken) hinflight

/-! ## What `send` hands over -/

/-- The payload as `publish` sees it: as long as `payloadlen` says. -/
def Message.text (m : Message) : Bytes := m.payload.take m.payloadlen

theorem zero_notMem_closed {s : App} : 0 ∉ s.buff ++ ascii "]\x7d" ↔ 0 ∉ s.buff := by
  have hend : (0 : UInt8) ∉ ascii "]\x7d" := by decide
  simp [hend]

theorem Holds.payload {s : App} {pairs : List Pair} (h : Holds s pairs) :
    s.outgoing.payload = valuesText (pairs.map Pair.texts) := by
  rw [App.outgoing, h.buff]
  rfl

/-- The text handed over is the C string of the closed document. -/
theorem outgoing_text (s : App) : s.outgoing.text = cstr s.outgoing.payload :=
  (List.prefix_iff_eq_take.mp (List.takeWhile_prefix _)).symm

/-- **The whole text is handed over exactly when there is no NUL in `buff`.** -/
theorem outgoing_whole_iff (s : App) : s.outgoing.text = s.outgoing.payload ↔ 0 ∉ s.buff := by
  rw [outgoing_text, cstr_eq_self_iff]
  exact zero_notMem_closed

end Thethings.Mqtt
