import Thethings.Library.Bytes
import Mathlib.Tactic.SplitIfs

/-!
# The TCP connection under the MQTT client

Model of `TCPSocketConnection` (`F7_Ethernet/Socket/TCPSocketConnection.cpp`: `connect` l.33, `send`
l.55, `receive` l.100) with the `Socket` it extends (`Socket.cpp` l.27-90), under the three methods
`MQTTSocket` passes on (`MQTTSocket.h` l.58-79): `connect`, `read` and `write`.

Choices:

* Two members decide everything, the descriptor `_sock_fd` and the flag `_is_connected`; only a
  close by the peer clears the flag, and an error does not. `close` leaves it set.
* What a method meets is one outcome, `Dial`, `Send` or `Recv`: what the `select` in front of it
  says, and what lwIP answers. A write may take some of the bytes, a read may bring fewer than it is
  asked for; neither ever more.
* A read is one `lwip_recv`: nothing here waits for the rest of what was asked for.
* `sendAll` is the writing loop of the client's `sendPacket` (`MQTTClient.h` l.330): pieces until
  everything is taken, an error or the timer.

Results:

* `connected_sendAll`, `connected_read`: a connection that is down stays down.
* `sendAll_iff`: the loop gets everything out iff the connection is up and the network takes it
  (`takes`), a question about the outcomes alone.

Left out: the time-outs as times; a timer is how many outcomes there are.
-/

namespace Thethings.Mqtt

open Library

/-- `TCPSocketConnection`. -/
structure TCPSocketConnection where
  sockFd : Int
  isConnected : Bool
  blocking : Bool

/-- What `ipstack.connect` meets. -/
structure Dial where
  /-- `lwip_socket` -/
  socket : Int
  /-- `lwip_gethostbyname` finds the host -/
  resolves : Bool
  /-- `lwip_connect` -/
  connect : Int

/-- What one write meets. -/
inductive Send where
  /-- `wait_writable` times out -/
  | notWritable
  /-- `lwip_send` is negative -/
  | failed
  /-- `lwip_send` takes so many bytes, if it is offered as many; none where the peer closed -/
  | took (n : Nat)

/-- What one read meets. -/
inductive Recv where
  /-- `wait_readable` times out -/
  | notReadable
  /-- `lwip_recv` is negative -/
  | failed
  /-- `lwip_recv` brings these bytes, if it is asked for as many; none where the peer closed -/
  | got (bytes : Bytes)

namespace TCPSocketConnection

/-- `TCPSocketConnection()`. -/
def init : TCPSocketConnection := ⟨-1, false, true⟩

/-- `is_connected()`. -/
def connected (s : TCPSocketConnection) : Bool := decide (0 ≤ s.sockFd) && s.isConnected

/-- `close()`: the flag stays as it is. -/
def close (s : TCPSocketConnection) : TCPSocketConnection :=
  if s.sockFd < 0 then s else { s with sockFd := -1 }

/-- `init_socket(SOCK_STREAM)`: refused while there is a descriptor. -/
def initSocket (s : TCPSocketConnection) (lwipSocket : Int) : Int × TCPSocketConnection :=
  if s.sockFd ≠ -1 then (-1, s)
  else if lwipSocket < 0 then (-1, s)
  else (0, { s with sockFd := lwipSocket })

/-- `connect(host, port)`. -/
def connect (s : TCPSocketConnection) (dial : Dial) : Int × TCPSocketConnection :=
  match s.initSocket dial.socket with
  | (rc, s) =>
    if rc < 0 then (-1, s)
    else if dial.resolves = false then (-1, s)
    else if dial.connect < 0 then (-1, s.close)
    else (0, { s with isConnected := true })

/-- `send(data, length)`. -/
def send (s : TCPSocketConnection) (data : Bytes) (outcome : Send) : Int × TCPSocketConnection :=
  if s.sockFd < 0 ∨ s.isConnected = false then (-1, s)
  else
    match outcome with
    | .notWritable => (-1, s)
    | .failed => (-1, { s with isConnected := true })
    | .took n =>
      let taken := min n data.length
      (taken, { s with isConnected := taken != 0 })

/-- `receive(data, length)`: the result and the bytes that were put into `data`. -/
def receive (s : TCPSocketConnection) (length : Nat) (outcome : Recv) :
    Int × Bytes × TCPSocketConnection :=
  if s.sockFd < 0 ∨ s.isConnected = false then (-1, [], s)
  else
    match outcome with
    | .notReadable => (-1, [], s)
    | .failed => (-1, [], { s with isConnected := true })
    | .got bytes =>
      ((bytes.take length).length, bytes.take length,
        { s with isConnected := (bytes.take length).length != 0 })

/-- `MQTTSocket::connect`. -/
def dial (s : TCPSocketConnection) (d : Dial) : Int × TCPSocketConnection :=
  { s with blocking := false }.connect d

/-- `MQTTSocket::write`. -/
def write (s : TCPSocketConnection) (data : Bytes) (outcome : Send) : Int × TCPSocketConnection :=
  { s with blocking := false }.send data outcome

/-- `MQTTSocket::read`. -/
def read (s : TCPSocketConnection) (length : Nat) (outcome : Recv) :
    Int × Bytes × TCPSocketConnection :=
  { s with blocking := false }.receive length outcome

/-- The loop of `sendPacket`: what each write meets while the timer runs, which expires at the end
of the list. `true` where everything was taken. -/
def sendAll (s : TCPSocketConnection) : Bytes → List Send → Bool × TCPSocketConnection
  | [], _ => (true, s)
  | _ :: _, [] => (false, s)
  | b :: data, outcome :: outcomes =>
    match s.write (b :: data) outcome with
    | (rc, s) => if rc < 0 then (false, s) else sendAll s ((b :: data).drop rc.toNat) outcomes

end TCPSocketConnection

/-- The network takes `n` bytes within these outcomes. -/
def takes : Nat → List Send → Bool
  | 0, _ => true
  | _ + 1, [] => false
  | n + 1, .took (k + 1) :: outcomes => takes (n - k) outcomes
  | _ + 1, _ => false

namespace TCPSocketConnection

/-! ## Lemmas -/

theorem connected_iff {s : TCPSocketConnection} :
    s.connected = true ↔ 0 ≤ s.sockFd ∧ s.isConnected = true := by
  simp [connected]

theorem not_connected_iff {s : TCPSocketConnection} :
    s.connected = false ↔ s.sockFd < 0 ∨ s.isConnected = false := by
  rw [← Bool.not_eq_true, connected_iff, not_and_or, Int.not_le, Bool.not_eq_true]

/-- **A fresh connection is up exactly when the dial says so.** -/
theorem connected_dial_init (d : Dial) :
    (init.dial d).2.connected = true ↔ (init.dial d).1 = 0 := by
  by_cases hsocket : d.socket < 0
  · simp [dial, connect, initSocket, init, hsocket, connected]
  · by_cases hresolves : d.resolves = false
    · simp [dial, connect, initSocket, init, hsocket, hresolves, connected]
    · by_cases hconnect : d.connect < 0
      · simp [dial, connect, initSocket, init, hsocket, hresolves, hconnect, connected, close]
      · simp [dial, connect, initSocket, init, hsocket, hresolves, hconnect, connected]
        omega

theorem not_refused {s : TCPSocketConnection} (h : s.connected = true) :
    ¬ (s.sockFd < 0 ∨ s.isConnected = false) := by
  rw [← not_connected_iff, h]
  decide

/-- A connection that is up is up after a transfer. -/
theorem connected_still {s : TCPSocketConnection} (h : s.connected = true) :
    connected { s with blocking := false, isConnected := true } = true :=
  connected_iff.mpr ⟨(connected_iff.mp h).1, rfl⟩

/-- A write on a connection that is down is refused. -/
theorem write_of_not_connected {s : TCPSocketConnection} (h : s.connected = false) (data : Bytes)
    (outcome : Send) : s.write data outcome = (-1, { s with blocking := false }) :=
  if_pos (not_connected_iff.mp h)

theorem read_of_not_connected {s : TCPSocketConnection} (h : s.connected = false) (length : Nat)
    (outcome : Recv) : s.read length outcome = (-1, [], { s with blocking := false }) :=
  if_pos (not_connected_iff.mp h)

/-- **A connection that is down stays down.** -/
theorem connected_write (s : TCPSocketConnection) (data : Bytes) (outcome : Send)
    (h : (s.write data outcome).2.connected = true) : s.connected = true := by
  by_contra hs
  rw [Bool.not_eq_true] at hs
  rw [write_of_not_connected hs] at h
  exact absurd (hs.symm.trans h) Bool.false_ne_true

theorem connected_read (s : TCPSocketConnection) (length : Nat) (outcome : Recv)
    (h : (s.read length outcome).2.2.connected = true) : s.connected = true := by
  by_contra hs
  rw [Bool.not_eq_true] at hs
  rw [read_of_not_connected hs] at h
  exact absurd (hs.symm.trans h) Bool.false_ne_true

/-- A write on a connection that is up. -/
theorem write_of_connected {s : TCPSocketConnection} (h : s.connected = true) (data : Bytes)
    (outcome : Send) :
    s.write data outcome =
      match outcome with
      | .notWritable => (-1, { s with blocking := false })
      | .failed => (-1, { s with blocking := false, isConnected := true })
      | .took n => ((min n data.length : Nat),
          { s with blocking := false, isConnected := min n data.length != 0 }) :=
  if_neg (not_refused h)

/-- Nothing arrives in time. -/
theorem read_notReadable (s : TCPSocketConnection) (length : Nat) :
    s.read length .notReadable = (-1, [], { s with blocking := false }) :=
  ite_self _

/-- Bytes that were asked for arrive. -/
theorem read_got {s : TCPSocketConnection} (h : s.connected = true) {length : Nat} {bytes : Bytes}
    (hne : bytes ≠ []) (hlen : bytes.length ≤ length) :
    s.read length (.got bytes) =
      ((bytes.length : Int), bytes, { s with blocking := false, isConnected := true }) := by
  have hpos : bytes.length ≠ 0 := fun h0 => hne (List.length_eq_zero_iff.mp h0)
  refine (if_neg (not_refused h)).trans ?_
  simp only [List.take_of_length_le hlen, bne_iff_ne.mpr hpos]

theorem sendAll_nil (s : TCPSocketConnection) (outcomes : List Send) :
    s.sendAll [] outcomes = (true, s) := by
  cases outcomes <;> rfl

/-- One piece of the writing loop. -/
theorem sendAll_took {s : TCPSocketConnection} (h : s.connected = true) (b : UInt8) (data : Bytes)
    (n : Nat) (outcomes : List Send) :
    s.sendAll (b :: data) (.took n :: outcomes) =
      sendAll { s with blocking := false, isConnected := min n (data.length + 1) != 0 }
        ((b :: data).drop (min n (data.length + 1))) outcomes := by
  rw [sendAll, write_of_connected h]
  simp only [List.length_cons, Int.toNat_natCast]
  rw [if_neg (by omega)]

theorem connected_sendAll : ∀ {s : TCPSocketConnection} {data : Bytes} {outcomes : List Send},
    (s.sendAll data outcomes).2.connected = true → s.connected = true
  | _, [], outcomes, h => by rwa [sendAll_nil] at h
  | _, _ :: _, [], h => h
  | s, b :: data, outcome :: outcomes, h => by
    rw [sendAll] at h
    refine s.connected_write (b :: data) outcome ?_
    rcases hw : s.write (b :: data) outcome with ⟨rc, s'⟩
    rw [hw] at h
    simp only at h
    split_ifs at h
    · exact h
    · exact connected_sendAll h

/-- **What gets a packet out**: the connection is up and the network takes all of it. It is up
then still. -/
theorem sendAll_iff : ∀ {s : TCPSocketConnection} {data : Bytes} {outcomes : List Send},
    data ≠ [] →
      ((s.sendAll data outcomes).1 = true ↔
        s.connected = true ∧ takes data.length outcomes = true) ∧
      ((s.sendAll data outcomes).1 = true → (s.sendAll data outcomes).2.connected = true)
  | _, [], _, hne => absurd rfl hne
  | _, b :: data, [], _ => by simp [sendAll, takes]
  | s, b :: data, outcome :: outcomes, _ => by
    cases hs : s.connected with
    | false => simp [sendAll, write_of_not_connected hs]
    | true =>
      match outcome with
      | .notWritable => simp [sendAll, write_of_connected hs, takes]
      | .failed => simp [sendAll, write_of_connected hs, takes]
      | .took 0 =>
        -- the peer closed, so whatever is written next is refused
        have hdown : connected { s with blocking := false, isConnected := false } = false :=
          not_connected_iff.mpr (Or.inr rfl)
        rw [sendAll_took hs, Nat.zero_min]
        cases outcomes with
        | nil => simp [takes, sendAll]
        | cons outcome outcomes => simp [takes, sendAll, write_of_not_connected hdown]
      | .took (k + 1) =>
        have hup := connected_still hs
        rw [sendAll_took hs, Nat.add_min_add_right, List.drop_succ_cons, List.length_cons, takes,
          show (min k data.length + 1 != 0) = true from rfl]
        rcases Nat.lt_or_ge k data.length with hlt | hge
        · have hdrop : data.drop (min k data.length) ≠ [] := by
            rw [Ne, List.drop_eq_nil_iff]
            omega
          have ih := @sendAll_iff { s with blocking := false, isConnected := true } _ outcomes hdrop
          rw [List.length_drop, Nat.min_eq_left (le_of_lt hlt)] at ih
          rw [Nat.min_eq_left (le_of_lt hlt)]
          simpa only [hup, true_and] using ih
        · rw [List.drop_eq_nil_of_le (by omega), sendAll_nil, Nat.sub_eq_zero_of_le hge]
          simp [takes, hup]

end TCPSocketConnection

end Thethings.Mqtt
