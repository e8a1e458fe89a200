import Thethings.Mqtt.Main

/-!
# One CONNECT for a connection

The TCP connection is made once, before the first `client.connect` (`main.cpp` l.75-79);
`isconnected` is about the session above it, and falls with every failed `subscribe` and `publish`.
The loop's `connect` (l.102) goes by that flag alone, so it may write a CONNECT on a connection that
carried one before, or behind the pings and acknowledgements that `yield` writes without a session.

Choices:

* What a connection carries is the record of the packets that were written since it was dialled, in
  order. A packet that did not get out as a whole is not in it.
* That one CONNECT comes first is part of the property, as it is part of the protocol; a connection
  that carries none is no offence.
* The states are all since the dial, those between the calls of `main` and of each pass included.

Results:

* `OneConnect`: at most one CONNECT is written on the connection, in the first place.
* `oneConnect_step_iff`: an operation keeps it iff it is no `connect` that gets its packet out
  behind others (`OpensFirst`).
* `one_connect_iff`: the same for every state of a run.
-/

namespace Thethings.Mqtt

open Library

/-- A CONNECT. -/
def isConnect (packet : Bytes) : Bool := packetType packet == MsgType.CONNECT.code

/-- At most one CONNECT, and that one first. -/
structure OneConnect (written : List Bytes) : Prop where
  atMostOne : written.countP isConnect ≤ 1
  first : ∀ before packet after, written = before ++ packet :: after →
    isConnect packet = true → before = []

/-- What is written behind the first packet is no CONNECT. -/
theorem oneConnect_iff {written : List Bytes} :
    OneConnect written ↔ ∀ packet ∈ written.tail, isConnect packet = false := by
  constructor
  · intro h packet hmem
    obtain ⟨before, after, he⟩ := List.append_of_mem hmem
    by_contra hc
    rw [Bool.not_eq_false] at hc
    cases written with
    | nil => exact absurd hmem List.not_mem_nil
    | cons p ps =>
      exact List.cons_ne_nil p before (h.first (p :: before) packet after (congrArg (p :: ·) he) hc)
  · intro h
    refine ⟨?_, fun before packet after he hc => ?_⟩
    · cases written with
      | nil => exact Nat.zero_le 1
      | cons p ps =>
        have htail : ps.countP isConnect = 0 :=
          List.countP_eq_zero.mpr fun q hq => by rw [h q hq]; decide
        rw [List.countP_cons, htail, Nat.zero_add]
        split_ifs <;> decide
    · cases before with
      | nil => rfl
      | cons p before =>
        -- the packet stands behind `p`
        rw [he] at h
        have hnot := h packet (List.mem_append_right before List.mem_cons_self)
        exact absurd (hnot.symm.trans hc) Bool.false_ne_true

theorem oneConnect_nil : OneConnect [] := oneConnect_iff.mpr fun _ h => absurd h List.not_mem_nil

/-- Packets of other types may follow. -/
theorem OneConnect.writesOn {written written' : List Bytes} (h : OneConnect written)
    (h' : WritesOn written written') : OneConnect written' := by
  obtain ⟨packets, rfl, hnone⟩ := h'
  have hpackets : ∀ p ∈ packets, isConnect p = false :=
    fun p hp => beq_eq_false_iff_ne.mpr (hnone p hp)
  rw [oneConnect_iff] at h ⊢
  intro p hp
  cases written with
  | nil => exact hpackets p (List.mem_of_mem_tail hp)
  | cons q qs =>
    rcases List.mem_append.mp hp with hp | hp
    · exact h p hp
    · exact hpackets p hp

theorem isConnect_connectPacket : isConnect connectPacket = true := by decide

/-- A CONNECT that is written must be the first packet, and then nothing else is lost. -/
theorem oneConnect_connect_iff {written packets : List Bytes}
    (hnone : ∀ p ∈ packets, packetType p ≠ MsgType.CONNECT.code) :
    OneConnect (written ++ connectPacket :: packets) ↔ written = [] := by
  constructor
  · intro h
    exact h.first written connectPacket packets rfl isConnect_connectPacket
  · rintro rfl
    exact oneConnect_iff.mpr fun p hp => beq_eq_false_iff_ne.mpr (hnone p hp)

/-! ## The operations -/

/-- A `connect` finds the client connected, or nothing written on the connection, or does not get
its packet out. -/
def OpensFirst (s : App) (op : Op) : Prop :=
  ∀ net, op = .connect net →
    s.client.isconnected = true ∨ s.client.written = [] ∨
      s.client.completes connectPacket net.sends = false

/-- What every state of a run starts the next operation with. -/
structure Opened (c : Client) : Prop where
  clean : Clean c
  oneConnect : OneConnect c.written

variable {s : App}

/-- **A `connect` keeps the connection in order exactly when** it opens it first. -/
theorem oneConnect_connect (h : OneConnect s.client.written)
    (hinflight : s.client.inflightMsgid = 0) (net : Client.ConnectNet) :
    OneConnect (s.connect net).client.written ↔
      s.client.isconnected = true ∨ s.client.written = [] ∨
        s.client.completes connectPacket net.sends = false := by
  cases hconn : s.client.isconnected with
  | true =>
    rw [connect_client_of_connected hconn]
    exact ⟨fun _ => Or.inl rfl, fun _ => h⟩
  | false =>
    obtain ⟨-, -, -, -, -, hlost, hout⟩ :=
      Client.connect_spec hconn hinflight connectData_packet net
    rw [connect_client]
    cases hc : s.client.completes connectPacket net.sends with
    | false =>
      rw [hlost hc]
      exact ⟨fun _ => Or.inr (Or.inr rfl), fun _ => h⟩
    | true =>
      obtain ⟨packets, hwritten, hnone⟩ := hout hc
      rw [hwritten, oneConnect_connect_iff hnone]
      simp

/-- **One operation.** -/
theorem oneConnect_step_iff (h : Opened s.client) (op : Op) :
    OneConnect (s.step op).client.written ↔ OpensFirst s op := by
  cases op with
  | addValue key value => exact ⟨fun _ _ he => absurd he (by simp), fun _ => h.oneConnect⟩
  | send net =>
    exact ⟨fun _ _ he => absurd he (by simp),
      fun _ => h.oneConnect.writesOn (noConnect_send h.clean net).written⟩
  | yield cycles =>
    exact ⟨fun _ _ he => absurd he (by simp),
      fun _ => h.oneConnect.writesOn (noConnect_yield s cycles).written⟩
  | connect net =>
    have hiff := oneConnect_connect h.oneConnect h.clean.inflightMsgid net
    refine ⟨fun hone net' he => ?_, fun hop => hiff.mpr (hop net rfl)⟩
    cases he
    exact hiff.mp hone

theorem opened_step (h : Opened s.client) (op : Op) (hop : OpensFirst s op) :
    Opened (s.step op).client :=
  ⟨clean_step h.clean op, (oneConnect_step_iff h op).mpr hop⟩

/-! ## The program -/

/-- The first `connect` finds nothing written. -/
theorem opened_connected (token : Bytes) (memory : Client) (net : Startup) :
    Opened ((dialled token memory net).connect net.connect).client := by
  obtain ⟨-, -, hinflight, hwritten⟩ := dialled_client token memory net
  have hnil : OneConnect (dialled token memory net).client.written := by
    rw [hwritten]
    exact oneConnect_nil
  exact ⟨clean_connected token memory net,
    (oneConnect_connect hnil hinflight net.connect).mpr (Or.inr (Or.inl hwritten))⟩

theorem opened_subscribed (token : Bytes) (memory : Client) (net : Startup) :
    Opened (subscribed token memory net).client :=
  ⟨clean_subscribed token memory net,
    (opened_connected token memory net).oneConnect.writesOn
      (subscribed_spec token memory net).1.written⟩

theorem opened_start (token : Bytes) (memory : Client) (net : Startup) :
    Opened (start token memory net).client :=
  ⟨clean_start token memory net,
    (opened_subscribed token memory net).oneConnect.writesOn
      (noConnect_start token memory net).written⟩

/-- Every state from the dial on. -/
def statesSinceDial (token : Bytes) (memory : Client) (net : Startup) (last : LastTouch)
    (passes : List Pass) : List App :=
  dialled token memory net :: (dialled token memory net).connect net.connect ::
    subscribed token memory net :: start token memory net ::
      loopStates (start token memory net) last passes

/-- The packets of the connection along a run of the program. -/
theorem oneConnect_run_iff (token : Bytes) (memory : Client) (net : Startup) (last : LastTouch)
    (passes : List Pass) :
    (∀ s ∈ statesSinceDial token memory net last passes, OneConnect s.client.written) ↔
      ∀ q ∈ steps App.step (start token memory net) (loopOps last passes), OpensFirst q.1 q.2 := by
  have hdialled : OneConnect (dialled token memory net).client.written := by
    rw [(dialled_client token memory net).2.2.2]
    exact oneConnect_nil
  have hloop := steps_congr (fun s : App => Opened s.client)
    (P := fun s op => OneConnect (s.step op).client.written) (C := OpensFirst)
    (fun s op h => opened_step h op) (fun s op h => oneConnect_step_iff h op)
    (loopOps last passes) (opened_start token memory net)
  rw [← hloop, statesSinceDial, List.forall_mem_cons, List.forall_mem_cons, List.forall_mem_cons,
    List.forall_mem_cons, loopStates, List.forall_mem_map]
  exact ⟨fun h => h.2.2.2.2, fun h => ⟨hdialled, (opened_connected token memory net).oneConnect,
    (opened_subscribed token memory net).oneConnect,
    (opened_start token memory net).oneConnect, h⟩⟩

/-- **One CONNECT on a connection, as long as the loop opens none twice.** In every state of a run
at most one CONNECT has been written on the TCP connection, as its first packet, iff each `connect`
of the loop finds the client connected or nothing written on the connection, or does not get its
packet out. -/
theorem one_connect_iff (token : Bytes) (memory : Client) (net : Startup) (last : LastTouch)
    (passes : List Pass) :
    (∀ s ∈ statesSinceDial token memory net last passes, OneConnect s.client.written) ↔
      ∀ q ∈ steps App.step (start token memory net) (loopOps last passes),
        ∀ c, q.2 = .connect c →
          q.1.client.isconnected = true ∨ q.1.client.written = [] ∨
            q.1.client.completes connectPacket c.sends = false :=
  oneConnect_run_iff token memory net last passes

/-- A `connect` whose CONNECT gets out and is not answered. -/
def unansweredNet : Client.ConnectNet := ⟨[.took 26], [], ⟨[], [], 0⟩⟩

/-- A start that dials, and whose CONNECT is not answered. -/
def unansweredStartup : Startup where
  dial := ⟨0, true, 0⟩
  connect := unansweredNet
  subscribe := ⟨[], []⟩
  publish := ⟨[], [], 0⟩

/-- **A lost CONNACK brings a second CONNECT**: the loop writes it on the same connection. -/
theorem second_connect :
    ¬ ∀ s ∈ statesSinceDial [] .zeroed unansweredStartup ⟨0, 0⟩
          [⟨[], unansweredNet, ⟨false, 0, 0⟩, ⟨[], [], 0⟩⟩],
        OneConnect s.client.written := by
  intro h
  have hall := (oneConnect_run_iff _ _ _ _ _).mp h
  rcases hall _ (List.mem_cons_of_mem _ List.mem_cons_self) unansweredNet rfl with hc | hc | hc
  · exact absurd hc (by decide +kernel)
  · exact absurd hc (by decide +kernel)
  · exact absurd hc (by decide +kernel)

end Thethings.Mqtt
