import Thethings.Mqtt.Batch
import Thethings.Mqtt.Main

/-!
# Recovery

What the program can still do at the top of its loop. `isconnected` is no obstacle, since every pass
connects again over the same TCP connection; but nothing in the loop (`main.cpp` l.100-119) makes
that connection again, and a topic that leaves no room for the values never goes out.

Choices:

* To recover is to reach, by some passes more, one whose `send` succeeds. The screen and the network
  are free to do what is best for it from here on; what they did before is the history, and any.
* `AtTop` is what any history leaves for the loop to start from. The batch is empty there, since the
  `addValue` of a pass is followed by its `send`.
* The bound on the token comes from the packet: a text of 39 bytes, the topic with its 10 bytes in
  front of the token, and four bytes of headers have to fit into 100.

Results:

* `AtTop`: what holds at the top of the loop, after any history (`atTop_main`).
* `connected_pass`: a TCP connection that is down stays down.
* `recoverable_iff`: a later `send` can be made to succeed exactly when the connection is up and the
  token has 47 bytes at most.
-/

namespace Thethings.Mqtt

open Library

/-- The state at the top of the loop. -/
structure AtTop (topic : Bytes) (p : Program) : Prop where
  clean : Clean p.app.client
  holds : Holds p.app []
  topic : p.app.topic = topic

/-! ## One pass -/

theorem topic_step (s : App) (op : Op) : (s.step op).topic = s.topic := by
  cases op <;> rfl

/-- **A connection that is down stays down**, whatever the operation. -/
theorem connected_step {s : App} (h : Clean s.client) (op : Op)
    (hup : (s.step op).client.ipstack.connected = true) : s.client.ipstack.connected = true := by
  cases op with
  | addValue key value => exact hup
  | send net => exact (noConnect_send h net).up hup
  | yield cycles => exact (noConnect_yield s cycles).up hup
  | connect net =>
    cases hconn : s.client.isconnected with
    | true =>
      have he : (s.step (.connect net)).client = s.client := connect_client_of_connected hconn net
      rwa [he] at hup
    | false =>
      obtain ⟨-, -, -, -, hback, -⟩ :=
        Client.connect_spec hconn h.inflightMsgid connectData_packet net
      exact hback hup

theorem connected_run {s : App} (h : Clean s.client) (ops : List Op)
    (hup : (run App.step s ops).client.ipstack.connected = true) :
    s.client.ipstack.connected = true :=
  run_back (fun s : App => Clean s.client) (fun s => s.client.ipstack.connected = true)
    (fun _ op h => clean_step h op) (fun _ op h => connected_step h op) ops h hup

theorem connected_pass {p : Program} (h : Clean p.app.client) (i : Pass)
    (hup : (p.pass i).app.client.ipstack.connected = true) :
    p.app.client.ipstack.connected = true := by
  rw [(pass_app p i).1] at hup
  exact connected_run h _ hup

/-- A pass that presses no button, and one that does. -/
theorem pass_of_none {p : Program} {i : Pass} (h : (p.last.sample i.touch).1 = none) :
    (p.pass i).app = (p.app.yield i.cycles).connect i.connect := by
  have he : p.last.sample i.touch = (none, (p.last.sample i.touch).2) := Prod.ext h rfl
  rw [Program.pass, he]

theorem pass_of_some {p : Program} {i : Pass} {button : Button}
    (h : (p.last.sample i.touch).1 = some button) :
    (p.pass i).app = (((p.app.yield i.cycles).connect i.connect).addValue (ascii "demo")
      (buttonValue button)).send i.publish := by
  have he : p.last.sample i.touch = (some button, (p.last.sample i.touch).2) := Prod.ext h rfl
  rw [Program.pass, he]

theorem atTop_pass {topic : Bytes} {p : Program} (h : AtTop topic p) (i : Pass) :
    AtTop topic (p.pass i) where
  clean := by
    rw [(pass_app p i).1]
    exact clean_run h.clean _
  topic := by
    rw [(pass_app p i).1]
    exact run_invariant (fun s : App => s.topic = topic)
      (fun s op h => (topic_step s op).trans h) _ h.topic
  holds := by
    cases hpress : (p.last.sample i.touch).1 with
    | none =>
      rw [pass_of_none hpress]
      exact ⟨h.holds.buff, h.holds.messageCount⟩
    | some button =>
      rw [pass_of_some hpress]
      exact holds_send _ i.publish

/-! ## A pass that publishes -/

/-- The pass presses a button, and the `client.publish` of its `send` returns `SUCCESS`. -/
def Publishes (p : Program) (i : Pass) : Prop :=
  (p.last.sample i.touch).1 ≠ none ∧ (p.pass i).app.rc = SUCCESS

/-- Some later inputs make a `send` succeed. -/
def Recoverable (p : Program) : Prop := CanMeet Program.pass Publishes p

/-- The text of a pressed button has 39 bytes. -/
theorem payloadlen_button {s : App} (h : Holds s []) (button : Button) :
    (s.addValue (ascii "demo") (buttonValue button)).outgoing.payloadlen = 39 := by
  have hpayload := (holds_addValue h (ascii "demo") (buttonValue button)).payload
  have hlen : (s.addValue (ascii "demo") (buttonValue button)).outgoing.payloadlen =
      (cstr (s.addValue (ascii "demo") (buttonValue button)).outgoing.payload).length := rfl
  rw [hlen, hpayload]
  cases button <;> decide +kernel

/-- **What the `send` of a pass needs.** -/
theorem publish_success_iff {topic : Bytes} {s : App} (hholds : Holds s [])
    (htopic : s.topic = topic) (button : Button) (net : Client.PublishNet) :
    ((s.addValue (ascii "demo") (buttonValue button)).send net).rc = SUCCESS ↔
      s.client.isconnected = true ∧ (cstr topic).length ≤ 57 ∧
        s.client.ipstack.connected = true ∧ takes (43 + (cstr topic).length) net.sends = true := by
  have h57 : 2 + (cstr topic).length + 39 ≤ 98 ↔ (cstr topic).length ≤ 57 := by omega
  have h43 : 4 + (cstr topic).length + 39 = 43 + (cstr topic).length := by omega
  have hsame : (s.addValue (ascii "demo") (buttonValue button)).client = s.client := rfl
  have htopic' : (s.addValue (ascii "demo") (buttonValue button)).topic = topic := htopic
  rw [send_success_iff, payloadlen_button hholds, hsame, htopic', h57, h43]

/-- A pass of `cycle` that finds nothing to read. -/
def idleCycle : Cycle where
  reads := ⟨.notReadable, [], .notReadable⟩
  stray := ⟨[], 0, ([], 0)⟩
  ack := []
  sentExpired := false
  receivedExpired := false
  ping := []

/-- Nothing to read leaves the connection as it is. -/
theorem connected_yield_idle (s : App) :
    (s.yield [idleCycle]).client.ipstack.connected = s.client.ipstack.connected := by
  have hread : s.client.readPacket idleCycle.reads =
      (FAILURE, { s.client with ipstack := { s.client.ipstack with blocking := false } }) := by
    unfold Client.readPacket
    rw [show idleCycle.reads = ⟨.notReadable, [], .notReadable⟩ from rfl,
      TCPSocketConnection.read_notReadable]
    rfl
  have hcycle : s.client.cycle idleCycle =
      (FAILURE, { s.client with ipstack := { s.client.ipstack with blocking := false } }) := by
    unfold Client.cycle
    rw [hread]
    simp only []
    rw [if_neg (by decide), if_neg (by decide), Client.keepalive_of_running _ rfl rfl]
  have hyield : s.client.yield [idleCycle] =
      (FAILURE, { s.client with ipstack := { s.client.ipstack with blocking := false } }) := by
    unfold Client.yield
    rw [hcycle]
    rfl
  rw [App.yield, hyield]
  rfl

/-- A pass with nothing to read, an accepted `connect`, a touch, and a write of 100 bytes. -/
def willingPass (touch : TouchState) : Pass :=
  ⟨[idleCycle], acceptingNet, touch, ⟨[.took 100], [], 0⟩⟩

theorem takes_one : ∀ {n k : Nat}, 0 < n → n ≤ k → takes n [.took k] = true
  | 0, _, hn, _ => absurd hn (by decide)
  | n + 1, 0, _, h => absurd h (by omega)
  | n + 1, k + 1, _, h => by
    rw [takes, Nat.sub_eq_zero_of_le (by omega)]
    rfl

/-- **While the connection is up and the topic has room, one pass is enough.** -/
theorem exists_publishes {topic : Bytes} {p : Program} (h : AtTop topic p)
    (hup : p.app.client.ipstack.connected = true) (hroom : (cstr topic).length ≤ 57) :
    ∃ i, Publishes p i := by
  obtain ⟨touch, hpress⟩ := p.last.exists_press .left
  have hidle : (p.app.yield [idleCycle]).client.ipstack.connected = true :=
    (connected_yield_idle p.app).trans hup
  have hclean := h.clean.of_noConnect (noConnect_yield p.app [idleCycle])
  obtain ⟨hsession, hstill⟩ := connect_accepting hidle hclean.inflightMsgid
  have hholds : Holds ((p.app.yield [idleCycle]).connect acceptingNet) [] :=
    ⟨h.holds.buff, h.holds.messageCount⟩
  refine ⟨willingPass touch, ?_, ?_⟩
  · have hpress' : (p.last.sample (willingPass touch).touch).1 = some .left := hpress
    rw [hpress']
    simp
  · rw [pass_of_some (i := willingPass touch) hpress]
    refine (publish_success_iff hholds h.topic .left _).mpr ⟨hsession, hroom, hstill, ?_⟩
    exact takes_one (by omega) (by omega)

/-- What a pass that publishes has to begin with. -/
theorem publishes_needs {topic : Bytes} {p : Program} (h : AtTop topic p) {i : Pass}
    (hi : Publishes p i) :
    p.app.client.ipstack.connected = true ∧ (cstr topic).length ≤ 57 := by
  obtain ⟨hpress, hrc⟩ := hi
  obtain ⟨button, hbutton⟩ := Option.ne_none_iff_exists'.mp hpress
  have hholds : Holds ((p.app.yield i.cycles).connect i.connect) [] :=
    ⟨h.holds.buff, h.holds.messageCount⟩
  rw [pass_of_some hbutton, publish_success_iff hholds h.topic] at hrc
  obtain ⟨-, hroom, hup, -⟩ := hrc
  have hclean : Clean (p.app.yield i.cycles).client := clean_step h.clean (.yield i.cycles)
  exact ⟨connected_step h.clean (.yield i.cycles) (connected_step hclean (.connect i.connect) hup),
    hroom⟩

/-! ## The program -/

theorem topic_start (token : Bytes) (memory : Client) (net : Startup) :
    (start token memory net).topic = topicOf token := rfl

theorem atTop_start (token : Bytes) (memory : Client) (net : Startup) (last : LastTouch) :
    AtTop (topicOf token) ⟨start token memory net, last⟩ :=
  ⟨clean_start token memory net, holds_start token memory net, topic_start token memory net⟩

/-- **At the top of the loop**, after any history. -/
theorem atTop_main (token : Bytes) (memory : Client) (net : Startup) (last : LastTouch)
    (passes : List Pass) : AtTop (topicOf token) (main token memory net last passes) :=
  run_invariant (AtTop (topicOf token)) (fun _ i h => atTop_pass h i) passes
    (atTop_start token memory net last)

theorem recoverable_atTop_iff {topic : Bytes} {p : Program} (h : AtTop topic p) :
    Recoverable p ↔ p.app.client.ipstack.connected = true ∧ (cstr topic).length ≤ 57 :=
  canMeet_iff (AtTop topic) (fun _ i h => atTop_pass h i)
    (fun _ i h hc => ⟨connected_pass h.clean i hc.1, hc.2⟩) (fun _ _ h hi => publishes_needs h hi)
    (fun _ h hc => exists_publishes h hc.1 hc.2) h

/-- **The program recovers as long as its TCP connection is up.** From the state at the top of the
loop that any history leads to, some later network outcomes and touches make a `send` succeed iff
`is_connected()` and the token has 47 bytes at most. -/
theorem recoverable_iff (token : Bytes) (memory : Client) (net : Startup) (last : LastTouch)
    (passes : List Pass) :
    Recoverable (main token memory net last passes) ↔
      (main token memory net last passes).app.client.ipstack.connected = true ∧
        (cstr token).length ≤ 47 := by
  have hroom : (cstr (topicOf token)).length ≤ 57 ↔ (cstr token).length ≤ 47 := by
    rw [cstr_topicOf, length_topicOf]
    omega
  rw [recoverable_atTop_iff (atTop_main token memory net last passes), hroom]

theorem dialled_connected_iff (token : Bytes) (memory : Client) (net : Startup) :
    (dialled token memory net).client.ipstack.connected = true ↔
      (dialled token memory net).rc = 0 :=
  TCPSocketConnection.connected_dial_init net.dial

/-- Nothing between the dial and the loop makes the connection. -/
theorem connected_start {token : Bytes} {memory : Client} {net : Startup}
    (hup : (start token memory net).client.ipstack.connected = true) :
    (dialled token memory net).client.ipstack.connected = true := by
  have hsubscribed := (noConnect_start token memory net).up hup
  have hconnected := (subscribed_spec token memory net).1.up hsubscribed
  obtain ⟨hconn, -, hinflight, -⟩ := dialled_client token memory net
  obtain ⟨-, -, -, -, hback, -⟩ :=
    Client.connect_spec hconn hinflight connectData_packet net.connect
  exact hback hconnected

/-- **A first dial that fails is never made good**, whatever comes after it. -/
theorem not_recoverable_of_dial {token : Bytes} {memory : Client} {net : Startup}
    (h : (dialled token memory net).rc ≠ 0) (last : LastTouch) (passes : List Pass) :
    ¬ Recoverable (main token memory net last passes) := by
  intro hrec
  obtain ⟨hup, -⟩ := (recoverable_atTop_iff (atTop_main token memory net last passes)).mp hrec
  have hstart := run_back (AtTop (topicOf token))
    (fun p => p.app.client.ipstack.connected = true) (fun _ i h => atTop_pass h i)
    (fun _ i h => connected_pass h.clean i) passes (atTop_start token memory net last) hup
  exact h ((dialled_connected_iff token memory net).mp (connected_start hstart))

/-- A start whose dial is refused. -/
def refusedStartup : Startup where
  dial := ⟨0, true, -1⟩
  connect := acceptingNet
  subscribe := ⟨[], []⟩
  publish := ⟨[.took 100], [], 0⟩

/-- **A refused first dial is never made good**: no later input makes a `send` succeed. -/
theorem dead_after_refused_dial : ¬ Recoverable (main [] .zeroed refusedStartup ⟨0, 0⟩ []) :=
  not_recoverable_of_dial (by decide) ⟨0, 0⟩ []

end Thethings.Mqtt
