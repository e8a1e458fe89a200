import Thethings.Http.Buffer

/-!
# The TCP socket of the HTTP client

Model of `network::tcp::Socket` (`NetworkAPI/tcp/socket.cpp`: `open` l.30, `connect` l.49-107,
`write` l.187-218, `read` l.221-257) and of the `close` it inherits (`NetworkAPI/socket.cpp`
l.48-61): the status machine `_status`, the descriptor and the remote endpoint. The other methods of
the class, which the client never calls, are in `Network`.

Choices:

* Every method takes the results of the lwIP calls it makes and returns its own result with the new
  socket. The checks stand in the order of the source, and each failure has the code it has there.
* `Sending` and `Receiving`, which the source sets before an lwIP call and overwrites after it, are
  never seen by anybody else, since a method runs to its end.
* A receive is a queue of what successive `lwip_recv` calls find: an error, or the bytes of one
  segment, where no bytes mean that the peer closed. A segment longer than the requested size is
  delivered in pieces.
* `fromHostname` takes what `lwip_gethostbyname` returns, and looks at the first address only. The
  endpoint of a failed connect is not remembered, as in the source.
* `close` gives the descriptor up even where `lwip_close` fails; what it returns then is of no
  interest to the client.

Results:

* `read_ofSize`: what a read into a clean buffer does, the only read the client makes.
* `lwipRecv_data`: one `lwip_recv` delivers the front of the first segment.
-/

namespace Thethings.Http

open Thethings.Library

/-- `network::Socket::Status`. -/
inductive Status where
  | Closed
  | Open
  | Listening
  | Accepting
  | Connected
  | Disconnected
  | Receiving
  | Sending
  deriving DecidableEq, Repr

/-- `ip::Endpoint`: the four address bytes and the port. -/
structure Endpoint where
  address : Bytes
  port : Int
  deriving DecidableEq

/-- The members of `network::Socket` and `network::tcp::Socket` that its methods read. -/
structure Socket where
  status : Status
  socket : Int
  remoteEndpoint : Endpoint

/-- What one `lwip_recv` finds. -/
inductive Recv where
  | error
  | data (bytes : Bytes)

/-- `lwip_recv(fd, data, maxSize, 0)` on the queue: what it delivers, and what is left. -/
def lwipRecv (maxSize : Nat) : List Recv → Recv × List Recv
  | [] => (.error, [])
  | .error :: queue => (.error, queue)
  | .data bytes :: queue =>
    if bytes.length ≤ maxSize then (.data bytes, queue)
    else (.data (bytes.take maxSize), .data (bytes.drop maxSize) :: queue)

/-- `Address::fromHostname`: `gethostbyname` is `none` for `NULL`, and otherwise the first address
with `h_length` bytes. -/
def fromHostname (gethostbyname : Option Bytes) : Option Bytes :=
  match gethostbyname with
  | none => none
  | some address => if address.length = 4 then some address else none

/-- `open()`. -/
def Socket.open (s : Socket) (lwipSocket : Int) : Int × Socket :=
  if s.status ≠ .Closed then (-1, s)
  else if lwipSocket < 0 then (-2, { s with socket := lwipSocket })
  else (0, { s with socket := lwipSocket, status := .Open })

namespace Socket

/-- `Socket()`. -/
def init : Socket := ⟨.Closed, -1, ⟨[0, 0, 0, 0], 0⟩⟩

/-- `connect(ip::Endpoint &)`. -/
def connectEndpoint (s : Socket) (endpoint : Endpoint) (lwipConnect : Int) : Int × Socket :=
  if s.status ≠ .Open ∧ s.status ≠ .Disconnected then (-1, s)
  else if lwipConnect < 0 then (-2, s)
  else (0, { s with remoteEndpoint := endpoint, status := .Connected })

/-- `connect(hostname, port)`. -/
def connect (s : Socket) (gethostbyname : Option Bytes) (port lwipConnect : Int) : Int × Socket :=
  match fromHostname gethostbyname with
  | none => (-1, s)
  | some address => s.connectEndpoint ⟨address, port⟩ lwipConnect

/-- `write(data, size)`. -/
def write (s : Socket) (data : Bytes) (lwipSend : Int) : Int × Socket :=
  if data = [] then (-1, s)
  else if s.status ≠ .Connected then (-2, s)
  else (lwipSend, { s with status := if lwipSend = 0 then .Disconnected else .Connected })

/-- `read(Buffer &)`. -/
def read (s : Socket) (buffer : Buffer) (queue : List Recv) : Int × Socket × Buffer × List Recv :=
  match buffer.data with
  | none => (-1, s, buffer, queue)
  | some _ =>
    if s.status ≠ .Connected then (-2, s, buffer, queue)
    else
      match lwipRecv buffer.size queue with
      | (.error, queue) => (-1, { s with status := .Connected }, buffer, queue)
      | (.data bytes, queue) =>
        (bytes.length, { s with status := if bytes = [] then .Disconnected else .Connected },
          (buffer.store bytes).setLength bytes.length, queue)

/-- `close()`. -/
def close (s : Socket) (lwipClose : Int) : Int × Socket :=
  if s.status = .Closed then (-1, s)
  else (lwipClose, { s with socket := -1, status := .Closed })

/-! ## Lemmas -/

/-- Closing a socket in any status leaves it closed. -/
theorem close_status (s : Socket) (r : Int) : (s.close r).2.status = .Closed := by
  unfold close
  split_ifs with h
  · exact h
  · rfl

theorem open_of_ne {s : Socket} (h : s.status ≠ .Closed) (r : Int) : s.open r = (-1, s) :=
  if_pos h

/-- What is delivered of a segment: as much as was asked for. -/
theorem lwipRecv_data (maxSize : Nat) (bytes : Bytes) (queue : List Recv) :
    ∃ rest, lwipRecv maxSize (.data bytes :: queue) = (.data (bytes.take maxSize), rest) := by
  by_cases h : bytes.length ≤ maxSize
  · exact ⟨queue, by rw [lwipRecv, if_pos h, List.take_of_length_le h]⟩
  · exact ⟨_, by rw [lwipRecv, if_neg h]⟩

/-- The bytes a read puts into a buffer of `size` bytes: none where the socket is not connected or
nothing arrives. -/
def received (s : Socket) (size : Nat) (queue : List Recv) : Bytes :=
  if s.status = .Connected then
    match queue with
    | .data bytes :: _ => bytes.take size
    | _ => []
  else []

theorem store_nil (size : Nat) :
    ((Buffer.ofSize size true).store []).setLength 0 = Buffer.ofSize size true := by
  simp [Buffer.store, Buffer.setLength, Buffer.ofSize, overwrite_nil]

/-- **A read into a clean buffer**: it holds the received bytes and zeros behind them, and an open
socket is not closed by it. -/
theorem read_ofSize {size : Nat} (hsize : 0 < size) (s : Socket) (queue : List Recv) :
    (∃ n, (s.read (Buffer.ofSize size true) queue).2.2.1 =
      ((Buffer.ofSize size true).store (s.received size queue)).setLength n) ∧
    (s.status ≠ .Closed → (s.read (Buffer.ofSize size true) queue).2.1.status ≠ .Closed) := by
  unfold read
  rw [Buffer.data_ofSize hsize]
  by_cases hs : s.status = .Connected
  · simp only [hs, ne_eq, not_true_eq_false, if_false, received, if_true]
    match queue with
    | [] => exact ⟨⟨0, (store_nil size).symm⟩, fun _ => by simp [lwipRecv]⟩
    | .error :: queue => exact ⟨⟨0, (store_nil size).symm⟩, fun _ => by simp [lwipRecv]⟩
    | .data bytes :: queue =>
      obtain ⟨rest, hr⟩ := lwipRecv_data (Buffer.ofSize size true).size bytes queue
      rw [hr]
      refine ⟨⟨_, rfl⟩, fun _ => ?_⟩
      simp only
      split_ifs <;> simp
  · simp only [hs, ne_eq, not_false_eq_true, if_true, received, if_false]
    exact ⟨⟨0, (store_nil size).symm⟩, fun h => h⟩

end Socket

end Thethings.Http
