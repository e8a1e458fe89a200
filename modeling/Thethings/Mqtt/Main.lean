import Thethings.Mqtt.App
import Thethings.Touch

/-!
# The MQTT program

`main` (`main.cpp` l.62-120): dial, connect, subscribe, send a first value, and then a loop that
yields, connects and sends what a touch asks for.

Choices:

* `Startup` is what the network does before the loop, `Pass` what it and the screen do during one
  pass. Nothing is assumed about either: the dial may fail, and so may everything after it.
* The results of all calls go to `rc`, which nobody looks at; the program goes on, and so does the
  model.
* A dial that succeeds begins a new connection, and with it a new record of what was written on it.
  There is one dial, before the loop.
* The token is a parameter, cut at a NUL as the conversion from the literal would cut it.

Results:

* `loop_app`: the loop is a run of the four operations of the global state, `loopOps`.
* `Clean`: nothing is in flight and the session is a clean one, in every state of the program
  (`clean_start`, `clean_step`).

Left out: the display and the waits in front of the loop, and what `messageArrived` prints.
-/

namespace Thethings.Mqtt

open Library

/-- What the network does before the loop. -/
structure Startup where
  dial : Dial
  connect : Client.ConnectNet
  subscribe : Client.SubscribeNet
  publish : Client.PublishNet

/-- What happens during one pass of the loop. -/
structure Pass where
  cycles : List Cycle
  connect : Client.ConnectNet
  touch : TouchState
  publish : Client.PublishNet

/-- The topic of a token. -/
def topicOf (token : Bytes) : Bytes := ascii "v2/things/" ++ cstr token

theorem cstr_topicOf (token : Bytes) : cstr (topicOf token) = topicOf token := by
  have hfixed : (0 : UInt8) ∉ ascii "v2/things/" := by decide
  rw [cstr_eq_self_iff, topicOf, List.mem_append]
  exact not_or.mpr ⟨hfixed, zero_notMem_cstr token⟩

theorem length_topicOf (token : Bytes) : (topicOf token).length = 10 + (cstr token).length := by
  have hfixed : (ascii "v2/things/").length = 10 := by decide
  rw [topicOf, List.length_append, hfixed]

namespace App

/-- `rc = ipstack.connect(hostname, port)`; a dial that succeeds begins a new connection. -/
def dial (s : App) (d : Dial) : App :=
  match s.client.ipstack.dial d with
  | (rc, ipstack) =>
    { s with
      client := { s.client with
        ipstack := ipstack
        written := if rc = 0 then [] else s.client.written }
      rc := rc }

/-- `rc = client.subscribe(topic.c_str(), MQTT::QOS0, messageArrived)`. -/
def subscribe (s : App) (net : Client.SubscribeNet) : App :=
  let (rc, client) := s.client.subscribe s.topic .QOS0 .messageArrived net
  { s with client := client, rc := rc }

end App

/-- `main` up to its first `client.connect`. -/
def dialled (token : Bytes) (memory : Client) (net : Startup) : App :=
  { App.init memory with topic := topicOf token }.dial net.dial

/-- `main` up to its `client.subscribe`. -/
def subscribed (token : Bytes) (memory : Client) (net : Startup) : App :=
  ((dialled token memory net).connect net.connect).subscribe net.subscribe

/-- `main` up to its loop. -/
def start (token : Bytes) (memory : Client) (net : Startup) : App :=
  ({ subscribed token memory net with buff := openText }.addValue (ascii "demo") 0).send net.publish

/-- The value a button stands for. -/
def buttonValue : Button → Int
  | .left => 1
  | .right => 2

/-- The state at the top of the loop: the global variables, `x_ant` and `y_ant`. -/
structure Program where
  app : App
  last : LastTouch

/-- One pass of the loop. -/
def Program.pass (p : Program) (i : Pass) : Program :=
  let app := (p.app.yield i.cycles).connect i.connect
  match p.last.sample i.touch with
  | (some button, last) => ⟨(app.addValue (ascii "demo") (buttonValue button)).send i.publish, last⟩
  | (none, last) => ⟨app, last⟩

/-- The program at the top of its loop, after some passes, from whatever `x_ant` and `y_ant`
hold. -/
def main (token : Bytes) (memory : Client) (net : Startup) (last : LastTouch)
    (passes : List Pass) : Program :=
  run Program.pass ⟨start token memory net, last⟩ passes

/-! ## The loop as a run of operations -/

/-- The operations of one pass. -/
def Pass.ops (i : Pass) : Option Button → List Op
  | none => [.yield i.cycles, .connect i.connect]
  | some button => [.yield i.cycles, .connect i.connect,
      .addValue (ascii "demo") (buttonValue button), .send i.publish]

/-- The operations of some passes. -/
def loopOps : LastTouch → List Pass → List Op
  | _, [] => []
  | last, i :: passes =>
    i.ops (last.sample i.touch).1 ++ loopOps (last.sample i.touch).2 passes

theorem pass_app (p : Program) (i : Pass) :
    (p.pass i).app = run App.step p.app (i.ops (p.last.sample i.touch).1) ∧
      (p.pass i).last = (p.last.sample i.touch).2 := by
  unfold Program.pass
  rcases p.last.sample i.touch with ⟨button, last⟩
  cases button <;> simp only [Pass.ops, run_cons, run_nil, App.step, and_self]

/-- **The loop is a run of the operations.** -/
theorem loop_app (p : Program) (passes : List Pass) :
    (run Program.pass p passes).app = run App.step p.app (loopOps p.last passes) := by
  induction passes generalizing p with
  | nil => rfl
  | cons i passes ih =>
    obtain ⟨happ, hlast⟩ := pass_app p i
    rw [run_cons, ih, loopOps, run_append, happ, hlast]

/-- Every state of the loop: what each operation leaves behind. -/
def loopStates (s : App) (last : LastTouch) (passes : List Pass) : List App :=
  (steps App.step s (loopOps last passes)).map fun q => q.1.step q.2

/-! ## Invariants of every state -/

/-- Nothing is in flight, and the session is a clean one. -/
structure Clean (c : Client) : Prop where
  inflightMsgid : c.inflightMsgid = 0
  cleansession : c.cleansession = true

theorem Clean.of_noConnect {c c' : Client} (h : Clean c) (h' : NoConnect c c') : Clean c' :=
  ⟨h'.inflightMsgid h.inflightMsgid, h'.cleansession.trans h.cleansession⟩

theorem clean_connect {s : App} (h : s.client.inflightMsgid = 0)
    (hclean : s.client.isconnected = true → s.client.cleansession = true)
    (net : Client.ConnectNet) : Clean (s.connect net).client := by
  cases hconn : s.client.isconnected with
  | true =>
    rw [connect_client_of_connected hconn]
    exact ⟨h, hclean hconn⟩
  | false =>
    obtain ⟨-, -, hc, hi, -⟩ := Client.connect_spec hconn h connectData_packet net
    exact ⟨hi, hc⟩

theorem noConnect_send {s : App} (h : Clean s.client) (net : Client.PublishNet) :
    NoConnect s.client (s.send net).client :=
  (Client.publishMessage_spec h.cleansession s.topic
    (show s.outgoing.qos = QoS.QOS0.code from rfl) net).1

theorem noConnect_yield (s : App) (cycles : List Cycle) :
    NoConnect s.client (s.yield cycles).client :=
  (s.client.background_yield cycles).noConnect

theorem clean_step {s : App} (h : Clean s.client) (op : Op) : Clean (s.step op).client := by
  cases op with
  | addValue key value => exact h
  | send net => exact h.of_noConnect (noConnect_send h net)
  | yield cycles => exact h.of_noConnect (noConnect_yield s cycles)
  | connect net => exact clean_connect h.inflightMsgid (fun _ => h.cleansession) net

theorem clean_run {s : App} (h : Clean s.client) (ops : List Op) :
    Clean (run App.step s ops).client :=
  run_invariant (fun s : App => Clean s.client) (fun _ op h => clean_step h op) ops h

/-- The client that the first `connect` finds. -/
theorem dialled_client (token : Bytes) (memory : Client) (net : Startup) :
    (dialled token memory net).client.isconnected = false ∧
      (dialled token memory net).client.messageHandlers.Free ∧
      (dialled token memory net).client.inflightMsgid = 0 ∧
      (dialled token memory net).client.written = [] := by
  refine ⟨rfl, HandlerTable.clear_free _, rfl, ?_⟩
  unfold dialled App.dial
  simp only
  split_ifs
  · rfl
  · rfl

theorem clean_connected (token : Bytes) (memory : Client) (net : Startup) :
    Clean ((dialled token memory net).connect net.connect).client := by
  obtain ⟨hconn, -, hinflight, -⟩ := dialled_client token memory net
  exact clean_connect hinflight (fun h => absurd (hconn.symm.trans h) Bool.false_ne_true)
    net.connect

/-- The table is still free when `subscribe` is called. -/
theorem free_connected (token : Bytes) (memory : Client) (net : Startup) :
    ((dialled token memory net).connect net.connect).client.messageHandlers.Free := by
  obtain ⟨hconn, hfree, hinflight, -⟩ := dialled_client token memory net
  obtain ⟨-, hsame, -⟩ := Client.connect_spec hconn hinflight connectData_packet net.connect
  rw [connect_client, hsame]
  exact hfree

/-- What `subscribe` does at the start. -/
theorem subscribed_spec (token : Bytes) (memory : Client) (net : Startup) :
    NoConnect ((dialled token memory net).connect net.connect).client
        (subscribed token memory net).client ∧
      ((subscribed token memory net).client.isconnected = true ∧
          (subscribed token memory net).client.messageHandlers.Has (topicOf token)
            .messageArrived ∨
        (subscribed token memory net).client.isconnected = false ∧
          (subscribed token memory net).client.messageHandlers.Free) :=
  Client.subscribe_spec (free_connected token memory net) (topicOf token) .QOS0 .messageArrived
    net.subscribe

theorem clean_subscribed (token : Bytes) (memory : Client) (net : Startup) :
    Clean (subscribed token memory net).client :=
  (clean_connected token memory net).of_noConnect (subscribed_spec token memory net).1

/-- From `subscribe` to the loop there is one `send`. -/
theorem noConnect_start (token : Bytes) (memory : Client) (net : Startup) :
    NoConnect (subscribed token memory net).client (start token memory net).client := by
  have hclean := clean_subscribed token memory net
  rw [start]
  generalize subscribed token memory net = s at hclean ⊢
  exact noConnect_send (s := { s with buff := openText }.addValue (ascii "demo") 0) hclean
    net.publish

theorem clean_start (token : Bytes) (memory : Client) (net : Startup) :
    Clean (start token memory net).client :=
  (clean_subscribed token memory net).of_noConnect (noConnect_start token memory net)

theorem holds_start (token : Bytes) (memory : Client) (net : Startup) :
    Holds (start token memory net) [] :=
  holds_send _ net.publish

end Thethings.Mqtt
