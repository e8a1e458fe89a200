import Mathlib.Data.List.GetD
import Thethings.Http.Socket
import Thethings.Library.Holding
import Thethings.Library.Run

/-!
# All sockets of a program

The rest of `NetworkAPI`: the methods of `network::tcp::Socket` that the client does not call
(`NetworkAPI/tcp/socket.cpp`: `shutdown` l.109, `listen` l.128, `accept` l.147-184), those of
`network::udp::Socket` (`NetworkAPI/udp/socket.cpp`: `open` l.30, `send` l.49-98, `receive`
l.100-160), `bind` (`NetworkAPI/socket.cpp` l.64-86) and the destructor, over the table of lwIP
(`lwip/api/sockets.c`: `get_socket` and `alloc_socket` l.197-274, `lwip_accept` l.314-407,
`lwip_close` l.449-473, `lwip_socket` l.963-1017).

Choices:

* A `World` is any number of socket objects over one table, whose `get_socket` refuses a descriptor
  that is not in use. An entry keeps the kind of its `conn`; what a scan reads of it is in `Select`.
* An object is named by its class and a number, and a destroyed one is followed at once by a new one
  of the same name, so there is always a socket behind a name. Where this matters, `Select` keeps a
  list of those that are gone.
* The methods that make one lwIP call with their own descriptor are one type, `Method`; `open`,
  `accept`, `close` and the destructor, which change the table, are calls of their own.
* What the network answers is part of a call: the result lwIP would give if the descriptor is in
  use, the peer that is waiting to be accepted, whether there is memory for a connection.
* `lwip_accept` of a datagram's descriptor returns the error code itself, 95, which is no negative
  number, so an `accept` would take it for a descriptor. That none ever gets there is in `Owned`.

Results:

* `owned_run`: over any interleaving of calls on any sockets, each descriptor in use is held by one
  socket that is not closed, and each closed socket holds -1.
* `descriptors_owned`: so no descriptor leaks, none is closed twice, and lwIP is never called with
  one that is not the caller's.
* `talks_since`: what is sent or received goes over the connection that was made last, and nothing
  has ended it since.

Left out: the options of sockets, and what is in the bytes that are sent.
-/

namespace Thethings.Http

open Library Library.Holding

/-! ## The table of lwIP -/

/-- `SOCK_STREAM` and `SOCK_DGRAM`. -/
inductive Kind where
  | tcp
  | udp
  deriving DecidableEq

/-- `sockets[NUM_SOCKETS]`: the kind of each `conn`, `none` where it is `NULL`. -/
abbrev Table := List (Option Kind)

namespace Table

/-- `alloc_socket`: the first free entry. -/
def allocSocket (kind : Kind) : Table → Option (Nat × Table)
  | [] => none
  | none :: t => some (0, some kind :: t)
  | some kind' :: t => (allocSocket kind t).map fun p => (p.1 + 1, some kind' :: p.2)

/-- `get_socket`. -/
def getSocket (t : Table) (s : Int) : Option Kind := if s < 0 then none else t.getD s.toNat none

/-- `lwip_socket`; `created` is whether there is memory for a `netconn`. -/
def lwipSocket (t : Table) (kind : Kind) (created : Bool) : Int × Table :=
  if created then
    match t.allocSocket kind with
    | some (s, t) => (s, t)
    | none => (-1, t)
  else (-1, t)

/-- `lwip_accept`: the peer of a pending connection is `none` where there is none, or it is gone. Of
a descriptor that is not of a stream the answer is `EOPNOTSUPP`. -/
def lwipAccept (t : Table) (s : Int) (peer : Option Endpoint) : Int × Table :=
  match t.getSocket s with
  | none => (-1, t)
  | some .udp => (95, t)
  | some .tcp =>
    match peer with
    | none => (-1, t)
    | some _ => t.lwipSocket .tcp true

/-- `lwip_close`. -/
def lwipClose (t : Table) (s : Int) : Int × Table :=
  match t.getSocket s with
  | none => (-1, t)
  | some _ => (0, t.set s.toNat none)

/-- The other calls: refused for a descriptor that is not in use, with an outcome of the network
otherwise. -/
def lwip (t : Table) (s outcome : Int) : Int := if (t.getSocket s).isSome then outcome else -1

/-- The entry is in use. -/
def InUse (t : Table) (s : Nat) : Prop := (t.getSocket s).isSome

theorem getSocket_natCast (t : Table) (s : Nat) : t.getSocket s = t.getD s none := by
  rw [getSocket, if_neg (by omega), Int.toNat_natCast]

/-- **`alloc_socket` hands out an entry that is free**, and changes no other. -/
theorem getD_allocSocket {t t' : Table} {kind : Kind} {s : Nat}
    (h : t.allocSocket kind = some (s, t')) :
    t.getD s none = none ∧ ∀ i, t'.getD i none = if i = s then some kind else t.getD i none := by
  induction t generalizing s t' with
  | nil => exact absurd h (by simp [allocSocket])
  | cons entry t ih =>
    cases entry with
    | none =>
      obtain ⟨rfl, rfl⟩ := Prod.mk.inj (Option.some.inj h)
      refine ⟨rfl, fun i => ?_⟩
      cases i <;> rfl
    | some kind' =>
      obtain ⟨⟨s', u⟩, hu, he⟩ := Option.map_eq_some_iff.mp h
      obtain ⟨rfl, rfl⟩ := Prod.mk.inj he
      obtain ⟨hfree, hother⟩ := ih hu
      refine ⟨by rwa [List.getD_cons_succ], fun i => ?_⟩
      cases i with
      | zero => rfl
      | succ i => simp only [List.getD_cons_succ, hother, Nat.add_right_cancel_iff]

/-- What `lwip_socket` does: nothing, or it takes a free entry. -/
theorem lwipSocket_cases (t : Table) (kind : Kind) (created : Bool) :
    t.lwipSocket kind created = (-1, t) ∨
      ∃ (s : Nat) (t' : Table), t.lwipSocket kind created = (↑s, t') ∧ t.getSocket s = none ∧
        ∀ i : Nat, t'.getSocket i = if i = s then some kind else t.getSocket i := by
  unfold lwipSocket
  cases created with
  | false => exact Or.inl rfl
  | true =>
    cases h : t.allocSocket kind with
    | none => exact Or.inl rfl
    | some p =>
      obtain ⟨hfree, hother⟩ := getD_allocSocket h
      refine Or.inr ⟨p.1, p.2, rfl, ?_, fun i => ?_⟩
      · rw [getSocket_natCast, hfree]
      · rw [getSocket_natCast, getSocket_natCast, hother]

theorem lwipAccept_cases {t : Table} {s : Int} (h : t.getSocket s = some .tcp)
    (peer : Option Endpoint) :
    t.lwipAccept s peer = (-1, t) ∨
      ∃ (s' : Nat) (t' : Table), t.lwipAccept s peer = (↑s', t') ∧ t.getSocket s' = none ∧
        ∀ i : Nat, t'.getSocket i = if i = s' then some .tcp else t.getSocket i := by
  unfold lwipAccept
  rw [h]
  cases peer with
  | none => exact Or.inl rfl
  | some _ => exact t.lwipSocket_cases .tcp true

/-- `lwip_close` frees an entry that is in use. -/
theorem lwipClose_spec {t : Table} {s : Nat} {kind : Kind} (h : t.getSocket s = some kind) :
    ∃ t', t.lwipClose s = (0, t') ∧
      ∀ i : Nat, t'.getSocket i = if i = s then none else t.getSocket i := by
  refine ⟨t.set s none, by rw [lwipClose, h, Int.toNat_natCast], fun i => ?_⟩
  rw [getSocket_natCast, getSocket_natCast, List.getD_eq_getElem?_getD, List.getElem?_set,
    List.getD_eq_getElem?_getD]
  by_cases hi : i = s
  · subst hi
    by_cases hlt : i < t.length
    · simp [hlt]
    · simp [hlt]
  · simp [hi, Ne.symm hi]

/-! The table keeps its length. -/

theorem length_allocSocket {t t' : Table} {kind : Kind} {s : Nat}
    (h : t.allocSocket kind = some (s, t')) : t'.length = t.length := by
  induction t generalizing s t' with
  | nil => exact absurd h (by simp [allocSocket])
  | cons entry t ih =>
    cases entry with
    | none =>
      obtain ⟨-, rfl⟩ := Prod.mk.inj (Option.some.inj h)
      rfl
    | some kind' =>
      obtain ⟨⟨s', u⟩, hu, he⟩ := Option.map_eq_some_iff.mp h
      obtain ⟨-, rfl⟩ := Prod.mk.inj he
      exact congrArg (· + 1) (ih hu)

theorem length_lwipSocket (t : Table) (kind : Kind) (created : Bool) :
    (t.lwipSocket kind created).2.length = t.length := by
  unfold lwipSocket
  cases created with
  | false => rfl
  | true =>
    cases h : t.allocSocket kind with
    | none => rfl
    | some p => exact length_allocSocket h

theorem length_lwipAccept (t : Table) (s : Int) (peer : Option Endpoint) :
    (t.lwipAccept s peer).2.length = t.length := by
  unfold lwipAccept
  match t.getSocket s, peer with
  | none, _ => rfl
  | some .udp, _ => rfl
  | some .tcp, none => rfl
  | some .tcp, some _ => exact t.length_lwipSocket .tcp true

theorem length_lwipClose (t : Table) (s : Int) : (t.lwipClose s).2.length = t.length := by
  unfold lwipClose
  cases t.getSocket s with
  | none => rfl
  | some kind => exact List.length_set

theorem lt_length_of_getSocket {t : Table} {s : Nat} {kind : Kind}
    (h : t.getSocket s = some kind) : s < t.length := by
  rw [getSocket_natCast] at h
  by_contra hge
  rw [List.getD_eq_default _ _ (by omega)] at h
  cases h

end Table

/-! ## The other methods -/

namespace Socket

/-- `tcp::Socket::shutdown()`. -/
def shutdown (s : Socket) (lwipShutdown : Int) : Int × Socket :=
  if s.status ≠ .Connected then (-1, s)
  else if lwipShutdown < 0 then (-2, s)
  else (0, { s with status := .Disconnected })

/-- `tcp::Socket::listen(max_pending)`. -/
def listen (s : Socket) (lwipListen : Int) : Int × Socket :=
  if s.status ≠ .Open then (-1, s)
  else if lwipListen < 0 then (-2, s)
  else (0, { s with status := .Listening })

/-- `tcp::Socket::accept(client)`, and the client after it. -/
def accept (s client : Socket) (lwipAccept : Int) (peer : Endpoint) : Int × Socket :=
  if s.status ≠ .Listening then (-1, client)
  else if client.status ≠ .Closed then (-2, client)
  else if lwipAccept < 0 then (-3, client)
  else (0, { status := .Connected, socket := lwipAccept, remoteEndpoint := peer })

/-- `tcp::Socket::read(data, max_size)`. -/
def readInto (s : Socket) (maxSize : Nat) (lwipRecv : Int) : Int × Socket :=
  if maxSize = 0 then (-1, s)
  else if s.status ≠ .Connected then (-2, s)
  else (lwipRecv, { s with status := if lwipRecv = 0 then .Disconnected else .Connected })

/-- `bind(port)`. -/
def bind (s : Socket) (lwipBind : Int) : Int × Socket :=
  if s.status ≠ .Open then (-1, s)
  else if lwipBind < 0 then (-1, s)
  else (0, s)

/-- `udp::Socket::open()`. -/
def openDatagram (s : Socket) (lwipSocket : Int) : Int × Socket :=
  if s.status ≠ .Closed then (-1, s)
  else if lwipSocket < 0 then (-1, { s with socket := lwipSocket })
  else (0, { s with socket := lwipSocket, status := .Open })

/-- `udp::Socket::send(data, size, endpoint)`. -/
def send (s : Socket) (data : Bytes) (lwipSendto : Int) : Int × Socket :=
  if data = [] then (-1, s)
  else if s.status ≠ .Open then (-1, s)
  else (lwipSendto, { s with status := .Open })

/-- `udp::Socket::receive(data, max_size)`; the size of the sender's address is wrong where there is
no `sender`. -/
def receive (s : Socket) (maxSize : Nat) (lwipRecvfrom : Int) (sender : Option Endpoint) :
    Int × Socket :=
  if maxSize = 0 then (-1, s)
  else if s.status ≠ .Open then (-1, s)
  else if lwipRecvfrom < 0 then (-1, { s with status := .Open })
  else (lwipRecvfrom,
    { s with status := .Open, remoteEndpoint := sender.getD s.remoteEndpoint })

theorem close_socket (s : Socket) (lwipClose : Int) :
    (s.close lwipClose).2.socket = if s.status = .Closed then s.socket else -1 := by
  unfold close
  split_ifs <;> rfl

theorem accept_of_ne {s client : Socket} {lwipAccept : Int} {peer : Endpoint}
    (h : (s.accept client lwipAccept peer).1 ≠ 0) :
    (s.accept client lwipAccept peer).2 = client := by
  unfold accept at h ⊢
  split_ifs at h ⊢
  · rfl
  · rfl
  · rfl
  · exact absurd rfl h

/-- The result of an `lwip_recv`. -/
def recvResult : Recv → Int
  | .error => -1
  | .data bytes => bytes.length

/-- A read into a buffer is one into its block. -/
theorem read_eq_readInto (s : Socket) {buffer : Buffer} {block : Bytes}
    (hdata : buffer.data = some block) (queue : List Recv) :
    ((s.read buffer queue).1, (s.read buffer queue).2.1) =
      s.readInto buffer.size (recvResult (lwipRecv buffer.size queue).1) := by
  have hsize : buffer.size ≠ 0 := fun h0 => by simp [Buffer.data, h0] at hdata
  simp only [read, hdata, readInto, if_neg hsize]
  by_cases hs : s.status ≠ .Connected
  · simp only [if_pos hs]
  · simp only [if_neg hs]
    rcases lwipRecv buffer.size queue with ⟨recv, rest⟩
    cases recv with
    | error => rfl
    | data bytes => cases bytes <;> rfl

end Socket

/-! ## Any number of sockets -/

/-- The methods that make one lwIP call with the descriptor of their own socket, by its class. -/
inductive Method : Kind → Type where
  | connect (endpoint : Endpoint) : Method .tcp
  | shutdown : Method .tcp
  | listen : Method .tcp
  | write (data : Bytes) : Method .tcp
  | read (maxSize : Nat) : Method .tcp
  | send (data : Bytes) : Method .udp
  | receive (maxSize : Nat) (sender : Option Endpoint) : Method .udp
  | bind {kind : Kind} : Method kind

namespace Method

/-- What the method returns, and its socket after it, where lwIP would answer `outcome`. -/
def run {kind : Kind} (m : Method kind) (s : Socket) (outcome : Int) : Int × Socket :=
  match m with
  | connect endpoint => s.connectEndpoint endpoint outcome
  | shutdown => s.shutdown outcome
  | listen => s.listen outcome
  | write data => s.write data outcome
  | read maxSize => s.readInto maxSize outcome
  | send data => s.send data outcome
  | receive maxSize sender => s.receive maxSize outcome sender
  | bind => s.bind outcome

/-- Where the method gets to its lwIP call. -/
def Calls {kind : Kind} (m : Method kind) (status : Status) : Prop :=
  match m with
  | connect _ => status = .Open ∨ status = .Disconnected
  | shutdown => status = .Connected
  | listen => status = .Open
  | write data => data ≠ [] ∧ status = .Connected
  | read maxSize => maxSize ≠ 0 ∧ status = .Connected
  | send data => data ≠ [] ∧ status = .Open
  | receive maxSize _ => maxSize ≠ 0 ∧ status = .Open
  | bind => status = .Open

variable {kind : Kind}

/-- **A method keeps the descriptor**, and neither opens nor closes. -/
theorem run_spec (m : Method kind) (s : Socket) (outcome : Int) :
    (m.run s outcome).2.socket = s.socket ∧
      ((m.run s outcome).2.status = .Closed ↔ s.status = .Closed) := by
  cases m <;>
    simp only [run, Socket.connectEndpoint, Socket.shutdown, Socket.listen, Socket.write,
      Socket.readInto, Socket.send, Socket.receive, Socket.bind] <;>
    split_ifs <;> grind

/-- A closed socket calls nothing. -/
theorem ne_closed_of_calls {m : Method kind} {status : Status} (h : m.Calls status) :
    status ≠ .Closed := by
  rintro rfl
  cases m <;> simp [Calls] at h

/-- What leaves a socket connected: a connect, or a method that found it so. -/
theorem connected_of_run {m : Method kind} {s : Socket} {outcome : Int}
    (h : (m.run s outcome).2.status = .Connected) :
    s.status = .Connected ∨ (m.run s outcome).1 = 0 ∧ ∃ endpoint, HEq m (connect endpoint) := by
  cases m with
  | connect endpoint =>
    unfold run Socket.connectEndpoint at h ⊢
    split_ifs at h ⊢ with h1 h2
    · exact Or.inl h
    · exact Or.inl h
    · exact Or.inr ⟨rfl, endpoint, HEq.rfl⟩
  | _ =>
    refine Or.inl ?_
    revert h
    simp only [run, Socket.shutdown, Socket.listen, Socket.write, Socket.readInto, Socket.send,
      Socket.receive, Socket.bind]
    split_ifs <;> simp_all

end Method

/-- A socket object: its class, and which of them it is. -/
abbrev Id := Kind × Nat

/-- All socket objects, over the table of lwIP. -/
structure World where
  table : Table
  socket : Id → Socket

/-- A call of a method, with what lwIP and the network answer it. -/
inductive Op where
  | open (i : Id) (created : Bool)
  | method {kind : Kind} (n : Nat) (m : Method kind) (outcome : Int)
  | accept (n client : Nat) (peer : Option Endpoint)
  | close (i : Id)
  /-- the destructor, and a new object in its place -/
  | destroy (i : Id)

namespace World

/-- The program starts: every object as it is constructed, and a table of this size. -/
def start (size : Nat) : World := ⟨List.replicate size none, fun _ => Socket.init⟩

/-- The world with another socket. -/
def put (w : World) (i : Id) (s : Socket) (table : Table) : World where
  table := table
  socket := Function.update w.socket i s

/-- `open()` of either class. -/
def openOf (kind : Kind) (s : Socket) (lwipSocket : Int) : Int × Socket :=
  match kind with
  | .tcp => s.open lwipSocket
  | .udp => s.openDatagram lwipSocket

/-- The `lwip_socket` that an `open()` makes. -/
def openCall (w : World) (i : Id) (created : Bool) : Int × Table :=
  if (w.socket i).status = .Closed then w.table.lwipSocket i.1 created else (0, w.table)

/-- The `lwip_accept` that an `accept(client)` makes. -/
def acceptCall (w : World) (n client : Nat) (peer : Option Endpoint) : Int × Table :=
  if (w.socket (.tcp, n)).status = .Listening ∧ (w.socket (.tcp, client)).status = .Closed then
    w.table.lwipAccept (w.socket (.tcp, n)).socket peer
  else (0, w.table)

/-- The `lwip_close` that a `close()` or the destructor makes. -/
def closeCall (w : World) (i : Id) : Int × Table :=
  if (w.socket i).status = .Closed then (0, w.table) else w.table.lwipClose (w.socket i).socket

/-- The result of a call, and the world after it. -/
def call (w : World) : Op → Int × World
  | .open i created =>
    let (s, table) := w.openCall i created
    let (rc, socket) := openOf i.1 (w.socket i) s
    (rc, w.put i socket table)
  | @Op.method kind n m outcome =>
    let s := w.socket (kind, n)
    let (rc, socket) := m.run s (w.table.lwip s.socket outcome)
    (rc, w.put (kind, n) socket w.table)
  | .accept n client peer =>
    let (s, table) := w.acceptCall n client peer
    let (rc, socket) :=
      (w.socket (.tcp, n)).accept (w.socket (.tcp, client)) s (peer.getD ⟨[0, 0, 0, 0], 0⟩)
    (rc, w.put (.tcp, client) socket table)
  | .close i =>
    let (rc, table) := w.closeCall i
    let (rc, socket) := (w.socket i).close rc
    (rc, w.put i socket table)
  | .destroy i =>
    let (rc, table) := w.closeCall i
    (rc, w.put i Socket.init table)

/-- The world after a call. -/
def step (w : World) (op : Op) : World := (w.call op).2

theorem step_open (w : World) (i : Id) (created : Bool) :
    w.step (.open i created) =
      w.put i (openOf i.1 (w.socket i) (w.openCall i created).1).2 (w.openCall i created).2 := rfl

theorem step_accept (w : World) (n client : Nat) (peer : Option Endpoint) :
    w.step (.accept n client peer) =
      w.put (.tcp, client) ((w.socket (.tcp, n)).accept (w.socket (.tcp, client))
        (w.acceptCall n client peer).1 (peer.getD ⟨[0, 0, 0, 0], 0⟩)).2
        (w.acceptCall n client peer).2 := rfl

theorem step_method (w : World) {kind : Kind} (n : Nat) (m : Method kind) (outcome : Int) :
    w.step (.method n m outcome) =
      w.put (kind, n) (m.run (w.socket (kind, n))
        (w.table.lwip (w.socket (kind, n)).socket outcome)).2 w.table := rfl

theorem step_close (w : World) (i : Id) :
    w.step (.close i) = w.put i ((w.socket i).close (w.closeCall i).1).2 (w.closeCall i).2 := rfl

theorem step_destroy (w : World) (i : Id) :
    w.step (.destroy i) = w.put i Socket.init (w.closeCall i).2 := rfl

theorem length_step (w : World) (op : Op) : (w.step op).table.length = w.table.length := by
  cases op with
  | «open» i created =>
    rw [step_open, put, openCall]
    split_ifs
    · exact w.table.length_lwipSocket i.1 created
    · rfl
  | method n m outcome => rfl
  | accept n client peer =>
    rw [step_accept, put, acceptCall]
    split_ifs
    · exact w.table.length_lwipAccept _ peer
    · rfl
  | close i =>
    rw [step_close, put, closeCall]
    split_ifs
    · rfl
    · exact w.table.length_lwipClose _
  | destroy i =>
    rw [step_destroy, put, closeCall]
    split_ifs
    · rfl
    · exact w.table.length_lwipClose _

/-- The socket whose descriptor the call hands to lwIP. -/
def Uses (w : World) (op : Op) (i : Id) : Prop :=
  match op with
  | .open _ _ => False
  | @Op.method kind n m _ => i = (kind, n) ∧ m.Calls (w.socket i).status
  | .accept n client _ =>
    i = (.tcp, n) ∧ (w.socket i).status = .Listening ∧
      (w.socket (.tcp, client)).status = .Closed
  | .close j => i = j ∧ (w.socket i).status ≠ .Closed
  | .destroy j => i = j ∧ (w.socket i).status ≠ .Closed

/-- The descriptor that a socket holds. -/
def held (w : World) (i : Id) : Option Nat :=
  if (w.socket i).status = .Closed then none else some (w.socket i).socket.toNat

/-! ### The invariant -/

/-- The descriptors in use are those that the sockets hold, each one of its own class. -/
structure Owned (w : World) : Prop where
  exact : Exact w.table.InUse w.held
  kind : ∀ i s, w.held i = some s → w.table.getSocket s = some i.1
  descriptor : ∀ i, (w.socket i).socket = match w.held i with | none => -1 | some s => s

variable {w : World}

theorem Owned.of_held (h : Owned w) {i : Id} (hs : (w.socket i).status ≠ .Closed) :
    ∃ s : Nat, w.held i = some s ∧ (w.socket i).socket = s ∧ w.table.getSocket s = some i.1 := by
  have hheld : w.held i = some (w.socket i).socket.toNat := if_neg hs
  have hdescriptor := h.descriptor i
  rw [hheld] at hdescriptor
  exact ⟨_, hheld, hdescriptor, h.kind i _ hheld⟩

theorem owned_start (size : Nat) : Owned (start size) where
  exact := by
    refine Exact.empty (fun s => ?_) fun i => rfl
    have hnone : (List.replicate size (none : Option Kind)).getD s none = none := by
      rw [List.getD_eq_getElem?_getD, List.getElem?_replicate]
      split_ifs <;> rfl
    rw [Table.InUse, Table.getSocket_natCast, start, hnone]
    exact Bool.false_ne_true
  kind i s hs := by simp [held, start, Socket.init] at hs
  descriptor i := rfl

theorem held_put (w : World) (i : Id) (s : Socket) (table : Table) (j : Id) :
    (w.put i s table).held j =
      if j = i then (if s.status = .Closed then none else some s.socket.toNat) else w.held j := by
  by_cases hji : j = i
  · subst hji
    simp [held, put]
  · simp [held, put, hji]

/-- A socket changes, but for its descriptor. -/
theorem Owned.keep (h : Owned w) {i : Id} {s : Socket} (hsocket : s.socket = (w.socket i).socket)
    (hstatus : s.status = .Closed ↔ (w.socket i).status = .Closed) :
    Owned (w.put i s w.table) := by
  have hheld : ∀ j, (w.put i s w.table).held j = w.held j := by
    intro j
    rw [held_put]
    by_cases hji : j = i
    · subst hji
      simp only [if_true, hsocket, hstatus, held]
    · rw [if_neg hji]
  refine ⟨h.exact.congr (fun _ => Iff.rfl) hheld, fun j s' hj => h.kind j s' (hheld j ▸ hj),
    fun j => ?_⟩
  rw [hheld, ← h.descriptor]
  by_cases hji : j = i
  · subst hji
    simp [put, hsocket]
  · simp [put, hji]

/-- A closed socket gets an entry that was free. -/
theorem Owned.take (h : Owned w) {i : Id} {s : Socket} {d : Nat} {table : Table}
    (hclosed : (w.socket i).status = .Closed) (hfree : w.table.getSocket d = none)
    (htable : ∀ j : Nat, table.getSocket j = if j = d then some i.1 else w.table.getSocket j)
    (hstatus : s.status ≠ .Closed) (hsocket : s.socket = d) : Owned (w.put i s table) := by
  have hnone : w.held i = none := if_pos hclosed
  have hself : (w.put i s table).held i = some d := by
    rw [held_put, if_pos rfl, if_neg hstatus, hsocket, Int.toNat_natCast]
  have hother : ∀ j, j ≠ i → (w.put i s table).held j = w.held j := fun j hji => by
    rw [held_put, if_neg hji]
  have hnot : ¬ w.table.InUse d := by simp [Table.InUse, hfree]
  refine ⟨h.exact.take hnot hnone (fun r => ?_) hself hother, fun j r hj => ?_, fun j => ?_⟩
  · change (table.getSocket r).isSome ↔ r = d ∨ (w.table.getSocket r).isSome
    rw [htable]
    split_ifs with hr <;> simp [hr]
  · change table.getSocket r = some j.1
    rw [htable]
    by_cases hji : j = i
    · subst hji
      rw [if_pos (Option.some.inj (hj.symm.trans hself))]
    · have hj' := (hother j hji).symm.trans hj
      have hrd : r ≠ d := by
        rintro rfl
        exact hnot (h.exact.inUse_iff r |>.mpr ⟨j, hj'⟩)
      rw [if_neg hrd]
      exact h.kind j r hj'
  · by_cases hji : j = i
    · subst hji
      rw [hself]
      simp [put, hsocket]
    · rw [hother j hji, ← h.descriptor]
      simp [put, hji]

/-- A socket gives its entry back. -/
theorem Owned.drop (h : Owned w) {i : Id} {s : Socket} {d : Nat} {table : Table}
    (hheld : w.held i = some d)
    (htable : ∀ j : Nat, table.getSocket j = if j = d then none else w.table.getSocket j)
    (hstatus : s.status = .Closed) (hsocket : s.socket = -1) : Owned (w.put i s table) := by
  have hself : (w.put i s table).held i = none := by rw [held_put, if_pos rfl, if_pos hstatus]
  have hother : ∀ j, j ≠ i → (w.put i s table).held j = w.held j := fun j hji => by
    rw [held_put, if_neg hji]
  refine ⟨h.exact.drop hheld (fun r => ?_) hself hother, fun j r hj => ?_, fun j => ?_⟩
  · change (table.getSocket r).isSome ↔ r ≠ d ∧ (w.table.getSocket r).isSome
    rw [htable]
    split_ifs with hr <;> simp [hr]
  · have hji : j ≠ i := by
      rintro rfl
      simp [hself] at hj
    rw [hother j hji] at hj
    have hrd : r ≠ d := by
      rintro rfl
      exact hji (h.exact.apart hj hheld)
    change table.getSocket r = some j.1
    rw [htable, if_neg hrd]
    exact h.kind j r hj
  · by_cases hji : j = i
    · subst hji
      rw [hself]
      simp [put, hsocket]
    · rw [hother j hji, ← h.descriptor]
      simp [put, hji]

/-- A socket that is closed keeps nothing, and one that is not gives its entry back. -/
theorem Owned.release (h : Owned w) (i : Id) {s : Socket} (hstatus : s.status = .Closed)
    (hsocket : s.socket = -1) :
    Owned (w.put i s (w.closeCall i).2) := by
  by_cases hclosed : (w.socket i).status = .Closed
  · rw [closeCall, if_pos hclosed]
    have hnone : w.held i = none := if_pos hclosed
    have hminus := h.descriptor i
    rw [hnone] at hminus
    exact h.keep (hsocket.trans hminus.symm) (iff_of_true hstatus hclosed)
  · obtain ⟨d, hheld, hdescriptor, hkind⟩ := h.of_held hclosed
    rw [closeCall, if_neg hclosed]
    obtain ⟨table, htable, hfreed⟩ := Table.lwipClose_spec hkind
    rw [hdescriptor, htable]
    exact h.drop hheld hfreed hstatus hsocket

/-! ### Runs -/

theorem openOf_of_closed {s : Socket} (h : s.status = .Closed) (kind : Kind) (lwipSocket : Int) :
    (openOf kind s lwipSocket).2 =
      if lwipSocket < 0 then { s with socket := lwipSocket }
      else { s with socket := lwipSocket, status := .Open } := by
  cases kind with
  | tcp =>
    rw [openOf, Socket.open, if_neg (not_not_intro h)]
    split_ifs <;> rfl
  | udp =>
    rw [openOf, Socket.openDatagram, if_neg (not_not_intro h)]
    split_ifs <;> rfl

theorem openOf_of_ne {s : Socket} (h : s.status ≠ .Closed) (kind : Kind) (lwipSocket : Int) :
    (openOf kind s lwipSocket).2 = s := by
  cases kind with
  | tcp => rw [openOf, Socket.open, if_pos h]
  | udp => rw [openOf, Socket.openDatagram, if_pos h]

theorem owned_open (h : Owned w) (i : Id) (created : Bool) : Owned (w.step (.open i created)) := by
  by_cases hclosed : (w.socket i).status = .Closed
  · have hnone : w.held i = none := if_pos hclosed
    have hminus := h.descriptor i
    rw [hnone] at hminus
    simp only [step_open, openCall, if_pos hclosed, openOf_of_closed hclosed]
    rcases w.table.lwipSocket_cases i.1 created with he | ⟨d, table, he, hfree, htable⟩
    · rw [he]
      exact h.keep hminus.symm Iff.rfl
    · rw [he]
      refine h.take hclosed hfree htable ?_ ?_
      · rw [if_neg (by omega)]
        simp
      · rw [if_neg (by omega)]
  · simp only [step_open, openCall, if_neg hclosed, openOf_of_ne hclosed]
    exact h.keep rfl Iff.rfl

theorem owned_accept (h : Owned w) (n client : Nat) (peer : Option Endpoint) :
    Owned (w.step (.accept n client peer)) := by
  by_cases hboth : (w.socket (.tcp, n)).status = .Listening ∧
      (w.socket (.tcp, client)).status = .Closed
  · obtain ⟨hlistening, hclosed⟩ := hboth
    obtain ⟨s, -, hdescriptor, hkind⟩ :=
      h.of_held (i := (.tcp, n)) (by rw [hlistening]; decide)
    simp only [step_accept, acceptCall, if_pos (And.intro hlistening hclosed), hdescriptor,
      Socket.accept, if_neg (not_not_intro hlistening), if_neg (not_not_intro hclosed)]
    rcases Table.lwipAccept_cases hkind peer with he | ⟨d, table, he, hfree, htable⟩
    · rw [he]
      exact h.keep rfl Iff.rfl
    · rw [he]
      simp only
      rw [if_neg (by omega)]
      exact h.take hclosed hfree htable (by simp) rfl
  · have hsame : ∀ s' endpoint, ((w.socket (.tcp, n)).accept (w.socket (.tcp, client)) s'
        endpoint).2 = w.socket (.tcp, client) := by
      intro s' endpoint
      unfold Socket.accept
      split_ifs with h1 h2
      · rfl
      · rfl
      · rfl
      · exact absurd ⟨not_not.mp h1, not_not.mp h2⟩ hboth
    simp only [step_accept, acceptCall, if_neg hboth, hsame]
    exact h.keep rfl Iff.rfl

/-- **One call.** -/
theorem owned_step (w : World) (op : Op) (h : Owned w) : Owned (w.step op) := by
  cases op with
  | «open» i created => exact owned_open h i created
  | method n m outcome =>
    obtain ⟨hsocket, hstatus⟩ := m.run_spec (w.socket (_, n)) (w.table.lwip _ outcome)
    rw [step_method]
    exact h.keep hsocket hstatus
  | accept n client peer => exact owned_accept h n client peer
  | close i =>
    rw [step_close]
    refine h.release i ((w.socket i).close_status _) ?_
    rw [Socket.close_socket]
    split_ifs with hclosed
    · have hnone : w.held i = none := if_pos hclosed
      have hminus := h.descriptor i
      rwa [hnone] at hminus
    · rfl
  | destroy i =>
    rw [step_destroy]
    exact h.release i rfl rfl

/-- **In every state that any calls lead to.** -/
theorem owned_run (size : Nat) (ops : List Op) : Owned (run step (start size) ops) :=
  run_invariant Owned owned_step ops (owned_start size)

/-- A call that reaches lwIP has a socket that is not closed. -/
theorem ne_closed_of_uses {op : Op} {i : Id} (h : w.Uses op i) : (w.socket i).status ≠ .Closed := by
  cases op with
  | «open» j created => exact absurd h id
  | method n m outcome =>
    obtain ⟨rfl, hcalls⟩ := h
    exact Method.ne_closed_of_calls hcalls
  | accept n client peer =>
    rw [h.2.1]
    decide
  | close j => exact h.2
  | destroy j => exact h.2

/-- **Descriptors are owned.** Over any interleaving of calls of any methods on any number of
sockets, a descriptor of lwIP is in use exactly when a socket holds it, and then only one; a closed
socket holds -1; and each lwIP call is made with a descriptor that is in use, is the caller's own
and is of its class. -/
theorem descriptors_owned (size : Nat) (ops : List Op) :
    (∀ s : Nat, (run step (start size) ops).table.InUse s ↔
      ∃ i, (run step (start size) ops).held i = some s) ∧
    (∀ i j s, (run step (start size) ops).held i = some s →
      (run step (start size) ops).held j = some s → i = j) ∧
    (∀ i, ((run step (start size) ops).socket i).socket =
      match (run step (start size) ops).held i with
      | none => -1
      | some s => s) ∧
    ∀ op i, (run step (start size) ops).Uses op i →
      (run step (start size) ops).table.getSocket
        ((run step (start size) ops).socket i).socket = some i.1 := by
  have howned := owned_run size ops
  refine ⟨howned.exact.inUse_iff, fun i j s => howned.exact.apart, howned.descriptor,
    fun op i huses => ?_⟩
  obtain ⟨s, -, hdescriptor, hkind⟩ := howned.of_held (ne_closed_of_uses huses)
  rw [hdescriptor]
  exact hkind

/-! ### Connections -/

/-- The call makes the connection of a socket, over this descriptor. -/
def Begins (w : World) (op : Op) (n : Nat) (s : Int) : Prop :=
  (w.call op).1 = 0 ∧ ((w.step op).socket (.tcp, n)).socket = s ∧
    ((∃ endpoint outcome, op = .method n (.connect endpoint) outcome) ∨
      ∃ server peer, op = .accept server n peer)

/-- The socket is connected, over this descriptor. -/
def Connected (w : World) (n : Nat) (s : Int) : Prop :=
  (w.socket (.tcp, n)).status = .Connected ∧ (w.socket (.tcp, n)).socket = s

/-- **What leaves a socket connected**: a call that begins its connection, or it was before. -/
theorem connected_step (w : World) (op : Op) {n : Nat} {s : Int} (h : (w.step op).Connected n s) :
    w.Connected n s ∨ w.Begins op n s := by
  have hother : ∀ {i : Id} {c : Socket} {table : Table}, i ≠ (.tcp, n) →
      (w.put i c table).Connected n s → w.Connected n s := by
    intro i c table hi hput
    simpa [Connected, put, Ne.symm hi] using hput
  have hself : ∀ {c : Socket} {table : Table}, (w.put (.tcp, n) c table).Connected n s →
      c.status = .Connected ∧ c.socket = s := by
    intro c table hput
    simpa [Connected, put] using hput
  cases op with
  | «open» i created =>
    by_cases hi : i = (.tcp, n)
    · subst hi
      rw [step_open] at h
      obtain ⟨hstatus, hsocket⟩ := hself h
      by_cases hclosed : (w.socket (.tcp, n)).status = .Closed
      · rw [openOf_of_closed hclosed] at hstatus
        split_ifs at hstatus
        exact absurd (hclosed.symm.trans hstatus) (by decide)
      · rw [openOf_of_ne hclosed] at hstatus hsocket
        exact Or.inl ⟨hstatus, hsocket⟩
    · exact Or.inl (hother hi h)
  | @method kind k m outcome =>
    rw [step_method] at h
    by_cases hi : (kind, k) = (Kind.tcp, n)
    · obtain ⟨rfl, hk⟩ := Prod.mk.inj hi
      subst hk
      obtain ⟨hstatus, hsocket⟩ := hself h
      have hkept := (m.run_spec (w.socket (.tcp, k))
        (w.table.lwip (w.socket (.tcp, k)).socket outcome)).1
      rcases m.connected_of_run hstatus with hwas | ⟨hrc, endpoint, hm⟩
      · exact Or.inl ⟨hwas, hkept.symm.trans hsocket⟩
      · exact Or.inr ⟨hrc, h.2, Or.inl ⟨endpoint, outcome, by rw [eq_of_heq hm]⟩⟩
    · exact Or.inl (hother hi h)
  | accept server client peer =>
    by_cases hrc : (w.call (.accept server client peer)).1 = 0
    · by_cases hi : ((.tcp, client) : Id) = (.tcp, n)
      · obtain rfl : client = n := (Prod.mk.inj hi).2
        exact Or.inr ⟨hrc, h.2, Or.inr ⟨server, peer, rfl⟩⟩
      · exact Or.inl (hother hi h)
    · have hsame : ((w.socket (.tcp, server)).accept (w.socket (.tcp, client))
          (w.acceptCall server client peer).1 (peer.getD ⟨[0, 0, 0, 0], 0⟩)).2 =
          w.socket (.tcp, client) := Socket.accept_of_ne hrc
      rw [step_accept, hsame] at h
      by_cases hi : ((.tcp, client) : Id) = (.tcp, n)
      · obtain rfl : client = n := (Prod.mk.inj hi).2
        exact Or.inl (hself h)
      · exact Or.inl (hother hi h)
  | close i =>
    rw [step_close] at h
    by_cases hi : i = (.tcp, n)
    · subst hi
      obtain ⟨hstatus, -⟩ := hself h
      rw [Socket.close_status] at hstatus
      exact absurd hstatus (by decide)
    · exact Or.inl (hother hi h)
  | destroy i =>
    rw [step_destroy] at h
    by_cases hi : i = (.tcp, n)
    · subst hi
      exact absurd (hself h).1 (by decide)
    · exact Or.inl (hother hi h)

/-- The methods that need a connection. -/
def Talks (m : Method .tcp) : Prop :=
  (∃ data, m = .write data) ∨ (∃ maxSize, m = .read maxSize) ∨ m = .shutdown

theorem connected_of_talks {m : Method .tcp} (hm : Talks m) {status : Status}
    (h : m.Calls status) : status = .Connected := by
  rcases hm with ⟨data, rfl⟩ | ⟨maxSize, rfl⟩ | rfl
  · exact h.2
  · exact h.2
  · exact h

/-- **Connections.** Where a `write`, a `read` or a `shutdown` reaches lwIP, an earlier `connect` or
`accept` made the connection over the very descriptor that it is given, and the socket has been
connected over it ever since: nothing was shut down or closed, and no send or receive told of the
end, in between. -/
theorem talks_since (size : Nat) (ops : List Op) (n : Nat) (m : Method .tcp) (outcome : Int)
    (hm : Talks m) (h : (run step (start size) ops).Uses (.method n m outcome) (.tcp, n)) :
    ∃ before op, before ++ [op] <+: ops ∧
      (run step (start size) before).Begins op n
        ((run step (start size) ops).socket (.tcp, n)).socket ∧
      ∀ later, before ++ [op] <+: later → later <+: ops →
        (run step (start size) later).Connected n
          ((run step (start size) ops).socket (.tcp, n)).socket := by
  have hconnected : (run step (start size) ops).Connected n
      ((run step (start size) ops).socket (.tcp, n)).socket :=
    ⟨connected_of_talks hm h.2, rfl⟩
  rcases run_since (fun (w : World) (p : Nat × Int) => w.Connected p.1 p.2)
    (fun w op p => w.Begins op p.1 p.2) (fun w op p hp => connected_step w op hp)
    (d := (n, _)) hconnected with hall | ⟨before, op, hbefore, hbegins, hlater⟩
  · have hinit : Socket.init.status = .Connected := (hall [] List.nil_prefix).1
    exact absurd hinit (by decide)
  · exact ⟨before, op, hbefore, hbegins, hlater⟩

/-- A socket connects, sends and receives. -/
def oneConnection : List Op :=
  [.open (.tcp, 0) true, .method 0 (.connect ⟨[10, 0, 0, 1], 80⟩) 0, .method 0 (.write [1]) 1]

theorem talks_since_oneConnection :
    ∃ before op, before ++ [op] <+: oneConnection ∧
      (run step (start 10) before).Begins op 0 0 ∧
      ∀ later, before ++ [op] <+: later → later <+: oneConnection →
        (run step (start 10) later).Connected 0 0 :=
  talks_since 10 oneConnection 0 (.read 1024) 5 (Or.inr (Or.inl ⟨1024, rfl⟩))
    ⟨rfl, by decide, by decide⟩

end World

end Thethings.Http
