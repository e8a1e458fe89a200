import Thethings.Http.Network
import Thethings.Library.BitSet
import Thethings.Library.Cursor

/-!
# Waiting for sockets

Model of `network::Select` (`NetworkAPI/select.cpp` l.36-226, `select.hpp`) over the sockets of a
`World`, and of `lwip_select` (`lwip/api/sockets.c` l.1103-1256) with its scan of the sockets,
`lwip_selscan` (l.1041-1098), as far as it looks at a read set and a write set.

`none` is undefined behaviour, which the C++ has in three places, and is never stepped over:

* `FD_SET` and `FD_ISSET` with a number outside of the `fd_set`. The set is its bytes, of which
  there are enough for `FD_SETSIZE`, the size of the table of lwIP (`lwip/sockets.h` l.294).
* a `Socket *` to an object that was destroyed. `Sockets` are the sockets of a `World` with those
  that are gone; a `World` has a new object in the place of each at once, here it has to be
  constructed first.
* an iterator into a list that was changed, or that no `wait` has set yet. Iterators are positions,
  and `none` where this may be so.

Choices:

* To list a socket, or to take it off a list, is to compare pointers, which is defined for one that
  dangles too; only `getHandle` looks behind it.
* Calls of sockets, destruction and construction, and the methods of the `Select` are the events of
  one program (`Polling`), in any order. A call of a socket that is gone is undefined as well.
* lwIP scans the sockets up to three times: at first, once its semaphore is listed, and once it has
  waited. `Waiting` is what they are like each time, whether there is memory for a semaphore, and
  whether it is signalled in time.
* What is done with a socket that was handed out, before the next is asked for, is a function of the
  sockets (`Handler`) that acts on that one.

Results:

* `sound_run`: as long as the behaviour is defined, no list of a `Select` has a socket twice, and
  descriptors are held as `Network` says.
* `create_spec`: the sets that `wait` makes, and the bound for the scan.
* `lwipSelscan_spec`, `lwipSelect_cases`: what lwIP answers.
* `selected`: after any calls on any sockets and on the object, `wait` goes wrong exactly where a
  listed socket is gone; otherwise what `getReadable` and `getWritable` hand out after it, whatever
  is done with each socket before the next.

Left out: the semaphore's list and its locks, and the sets for errors, which `Select` never passes.
-/

namespace Thethings.Http

open Library

/-! ## lwIP -/

/-- The fields of `lwip_sock` that a scan reads. -/
structure LwipSock where
  /-- `lastdata` is not `NULL` -/
  lastdata : Bool
  rcvevent : Int
  sendevent : Nat

namespace LwipSock

/-- A part of a packet is left to be read, or something has arrived. -/
def CanRead (sock : LwipSock) : Bool := sock.lastdata || decide (sock.rcvevent > 0)

/-- There is room to send. -/
def CanWrite (sock : LwipSock) : Bool := decide (sock.sendevent ≠ 0)

end LwipSock

namespace Table

/-- `tryget_socket(i)` and the copies of its fields. -/
def trygetSocket (t : Table) (sockets : Nat → LwipSock) (i : Nat) : LwipSock :=
  if (t.getSocket i).isSome then sockets i else ⟨false, 0, 0⟩

/-- `FD_ZERO`. -/
def fdZero (t : Table) : BitSet := BitSet.zero ((t.length + 7) / 8)

/-- `FD_SET`; `none` where it writes a byte outside of the set. -/
def fdSet (n : Int) (fds : BitSet) : Option BitSet :=
  if 0 ≤ n ∧ n.toNat / 8 < fds.length then some (fds.insert n.toNat) else none

/-- `FD_ISSET`; `none` where it reads a byte outside of the set. -/
def fdIsset (n : Int) (fds : BitSet) : Option Bool :=
  if 0 ≤ n ∧ n.toNat / 8 < fds.length then some (fds.has n.toNat) else none

/-- Where a socket that is asked for has an event, its bit is set and it counts. -/
def noteReady (fds : BitSet) (event : Bool) (i nready : Nat) (lfds : BitSet) :
    Option (Nat × BitSet) := do
  if (← fdIsset i fds) && event then return (nready + 1, ← fdSet i lfds)
  else return (nready, lfds)

/-- `lwip_selscan(maxfdp1, readset, writeset, NULL, ..)`: how many are ready, and which. -/
def lwipSelscan (t : Table) (maxfdp1 : Nat) (readset writeset : BitSet)
    (sockets : Nat → LwipSock) : Option (Nat × BitSet × BitSet) :=
  (List.range maxfdp1).foldlM
    (fun (nready, lreadset, lwriteset) i => do
      let sock := t.trygetSocket sockets i
      let (nready, lreadset) ← noteReady readset sock.CanRead i nready lreadset
      let (nready, lwriteset) ← noteReady writeset sock.CanWrite i nready lwriteset
      return (nready, lreadset, lwriteset))
    (0, t.fdZero, t.fdZero)

/-- What happens while `lwip_select` runs: the state of the sockets at each of its scans, whether
there is memory for a semaphore, and whether it is signalled in time. -/
structure Waiting where
  first : Nat → LwipSock
  listed : Nat → LwipSock
  woken : Nat → LwipSock
  semaphore : Bool
  signalled : Bool

/-- The milliseconds that `lwip_select` waits; zero is forever. -/
def msectimeout (timeout : Option (Int × Int)) : Int :=
  match timeout with
  | none => 0
  | some (sec, usec) =>
    let ms := sec * 1000 + (usec + 500) / 1000
    if ms = 0 then 1 else ms

/-- `lwip_select(maxfdp1, readset, writeset, NULL, timeout)`: the result, and the sets after it. -/
def lwipSelect (t : Table) (maxfdp1 : Nat) (readset writeset : BitSet)
    (timeout : Option (Int × Int)) (during : Waiting) : Option (Int × BitSet × BitSet) := do
  let first ← t.lwipSelscan maxfdp1 readset writeset during.first
  if first.1 ≠ 0 then return (first.1, first.2)
  else if timeout = some (0, 0) then return (first.1, first.2)
  else if ¬ during.semaphore then return (-1, readset, writeset)
  else
    let listed ← t.lwipSelscan maxfdp1 readset writeset during.listed
    if listed.1 = 0 ∧ msectimeout timeout ≠ 0 ∧ ¬ during.signalled then return (listed.1, listed.2)
    else
      let woken ← t.lwipSelscan maxfdp1 readset writeset during.woken
      return (woken.1, woken.2)

end Table

/-! ## The sockets that there are -/

/-- The sockets that a call dereferences. -/
def Op.sockets : Op → List Id
  | .open i _ => [i]
  | @Op.method kind n _ _ => [(kind, n)]
  | .accept n client _ => [(.tcp, n), (.tcp, client)]
  | .close i => [i]
  | .destroy i => [i]

/-- The sockets of a program, and which of them were destroyed with nothing in their place: a
pointer to one of these dangles. -/
structure Sockets where
  world : World
  gone : List Id

namespace Sockets

/-- A call of a method, or the destructor. -/
def call (o : Sockets) (op : Op) : Option Sockets :=
  if ∀ i ∈ op.sockets, i ∉ o.gone then
    some
      { world := o.world.step op
        gone := match op with
          | .destroy i => i :: o.gone
          | _ => o.gone }
  else none

/-- A new object in the place of one that is gone. -/
def construct (o : Sockets) (i : Id) : Option Sockets :=
  if i ∈ o.gone then some { o with gone := o.gone.filter (· ≠ i) } else none

/-- `getHandle()`, through a pointer. -/
def getHandle (o : Sockets) (i : Id) : Option Int :=
  if i ∈ o.gone then none else some (o.world.socket i).socket

end Sockets

/-! ## `Select` -/

/-- `Select::Mode`. -/
inductive Mode where
  | Read
  | Write
  | ReadWrite

/-- `network::Select`: pointers to sockets, what the last `wait` has left in the sets, and how far
the sockets were handed out. -/
structure Select where
  writeList : List Id
  readList : List Id
  writeListIterator : Option Nat
  readListIterator : Option Nat
  writeSet : BitSet
  readSet : BitSet

namespace Select

/-- A new object. -/
def init : Select := ⟨[], [], none, none, [], []⟩

/-- `clear()`. -/
def clear (s : Select) : Select :=
  { s with readList := [], writeList := [], readListIterator := none, writeListIterator := none }

/-- `set(socket, Read)`. -/
def setRead (s : Select) (socket : Id) : Select :=
  if socket ∈ s.readList then s
  else { s with readList := s.readList ++ [socket], readListIterator := none }

/-- `set(socket, Write)`. -/
def setWrite (s : Select) (socket : Id) : Select :=
  if socket ∈ s.writeList then s
  else { s with writeList := s.writeList ++ [socket], writeListIterator := none }

/-- `set(socket, mode)`. -/
def set (s : Select) (socket : Id) : Mode → Select
  | .Read => s.setRead socket
  | .Write => s.setWrite socket
  | .ReadWrite => (s.setRead socket).setWrite socket

/-- `unset(socket, Read)`. -/
def unsetRead (s : Select) (socket : Id) : Select :=
  if socket ∈ s.readList then
    { s with readList := s.readList.erase socket, readListIterator := none }
  else s

/-- `unset(socket, Write)`. -/
def unsetWrite (s : Select) (socket : Id) : Select :=
  if socket ∈ s.writeList then
    { s with writeList := s.writeList.erase socket, writeListIterator := none }
  else s

/-- `unset(socket, mode)`. -/
def unset (s : Select) (socket : Id) : Mode → Select
  | .Read => s.unsetRead socket
  | .Write => s.unsetWrite socket
  | .ReadWrite => (s.unsetRead socket).unsetWrite socket

/-- The loop of `wait` over a list: the set and `max_fd` after it. -/
def create (o : Sockets) : List Id → BitSet × Nat → Option (BitSet × Nat)
  | [], p => some p
  | i :: list, (fds, maxFd) => do
    let socket ← o.getHandle i
    if socket = -1 then create o list (fds, maxFd)
    else
      let fds ← Table.fdSet socket fds
      create o list (fds, if maxFd > socket.toNat then maxFd else socket.toNat)

/-- The `struct timeval` of a timeout, where it is not forever. -/
def timeval (timeout : Int) : Option (Int × Int) :=
  if timeout > 0 then
    let sec := timeout.tdiv 1000
    some (sec, (timeout - sec * 1000) * 1000)
  else none

/-- `wait(timeout)`. -/
def wait (s : Select) (o : Sockets) (timeout : Int) (during : Table.Waiting) :
    Option (Int × Select) := do
  let (writeSet, maxFd) ← create o s.writeList (o.world.table.fdZero, 0)
  let (readSet, maxFd) ← create o s.readList (o.world.table.fdZero, maxFd)
  let (result, readSet, writeSet) ←
    o.world.table.lwipSelect (maxFd + 1) readSet writeSet (timeval timeout) during
  return (result, { s with
    readSet := readSet, writeSet := writeSet, readListIterator := some 0,
    writeListIterator := some 0 })

/-- `lwip_select` waits for as long as it is told to. -/
theorem msectimeout_timeval (timeout : Int) :
    Table.msectimeout (timeval timeout) = if timeout > 0 then timeout else 0 := by
  unfold timeval
  split_ifs with h
  · have hround : timeout.tdiv 1000 * 1000 +
        ((timeout - timeout.tdiv 1000 * 1000) * 1000 + 500) / 1000 = timeout := by omega
    simp only [Table.msectimeout, hround]
    exact if_neg (by omega)
  · rfl

/-- The test that `getWritable` and `getReadable` make of a socket. -/
def flagged (o : Sockets) (fds : BitSet) (i : Id) : Option Bool := do
  let socket ← o.getHandle i
  if socket = -1 then return false else Table.fdIsset socket fds

/-- `getWritable()`. -/
def getWritable (s : Select) (o : Sockets) : Option (Option Id × Select) := do
  let k ← s.writeListIterator
  let (socket, k) ← Cursor.advance (flagged o s.writeSet) (s.writeList.drop k) k
  return (socket, { s with writeListIterator := some k })

/-- `getReadable()`. -/
def getReadable (s : Select) (o : Sockets) : Option (Option Id × Select) := do
  let k ← s.readListIterator
  let (socket, k) ← Cursor.advance (flagged o s.readSet) (s.readList.drop k) k
  return (socket, { s with readListIterator := some k })

/-! ## The lists -/

/-- No socket is listed twice. -/
structure Listed (s : Select) : Prop where
  read : s.readList.Nodup
  write : s.writeList.Nodup

variable {s : Select}

theorem Listed.setRead (h : Listed s) (socket : Id) : Listed (s.setRead socket) := by
  unfold Select.setRead
  split_ifs with hmem
  · exact h
  · exact ⟨by simpa using h.read.concat hmem, h.write⟩

theorem Listed.setWrite (h : Listed s) (socket : Id) : Listed (s.setWrite socket) := by
  unfold Select.setWrite
  split_ifs with hmem
  · exact h
  · exact ⟨h.read, by simpa using h.write.concat hmem⟩

theorem Listed.unsetRead (h : Listed s) (socket : Id) : Listed (s.unsetRead socket) := by
  unfold Select.unsetRead
  split_ifs
  · exact ⟨h.read.erase socket, h.write⟩
  · exact h

theorem Listed.unsetWrite (h : Listed s) (socket : Id) : Listed (s.unsetWrite socket) := by
  unfold Select.unsetWrite
  split_ifs
  · exact ⟨h.read, h.write.erase socket⟩
  · exact h

theorem Listed.set (h : Listed s) (socket : Id) (mode : Mode) : Listed (s.set socket mode) := by
  cases mode with
  | Read => exact h.setRead socket
  | Write => exact h.setWrite socket
  | ReadWrite => exact (h.setRead socket).setWrite socket

theorem Listed.unset (h : Listed s) (socket : Id) (mode : Mode) : Listed (s.unset socket mode) := by
  cases mode with
  | Read => exact h.unsetRead socket
  | Write => exact h.unsetWrite socket
  | ReadWrite => exact (h.unsetRead socket).unsetWrite socket

/-- What does not touch the lists keeps them. -/
theorem Listed.congr {s' : Select} (h : Listed s) (hread : s'.readList = s.readList)
    (hwrite : s'.writeList = s.writeList) : Listed s' :=
  ⟨hread ▸ h.read, hwrite ▸ h.write⟩

theorem Listed.wait (h : Listed s) {o : Sockets} {timeout : Int} {during : Table.Waiting}
    {r : Int × Select} (hr : s.wait o timeout during = some r) : Listed r.2 := by
  simp only [Select.wait, Option.bind_eq_bind, Option.bind_eq_some_iff] at hr
  obtain ⟨writes, -, reads, -, selected, -, he⟩ := hr
  cases he
  exact h.congr rfl rfl

theorem Listed.getReadable (h : Listed s) {o : Sockets} {r : Option Id × Select}
    (hr : s.getReadable o = some r) : Listed r.2 := by
  simp only [Select.getReadable, Option.bind_eq_bind, Option.bind_eq_some_iff] at hr
  obtain ⟨k, -, pulled, -, he⟩ := hr
  cases he
  exact h.congr rfl rfl

theorem Listed.getWritable (h : Listed s) {o : Sockets} {r : Option Id × Select}
    (hr : s.getWritable o = some r) : Listed r.2 := by
  simp only [Select.getWritable, Option.bind_eq_bind, Option.bind_eq_some_iff] at hr
  obtain ⟨k, -, pulled, -, he⟩ := hr
  cases he
  exact h.congr rfl rfl

end Select

/-! ## A program that waits -/

/-- A `Select`, and the sockets of its program. -/
structure Polling where
  sockets : Sockets
  select : Select

/-- What the program does next. -/
inductive Event where
  | socket (op : Op)
  | construct (i : Id)
  | set (i : Id) (mode : Mode)
  | unset (i : Id) (mode : Mode)
  | clear
  | wait (timeout : Int) (during : Table.Waiting)
  | getWritable
  | getReadable

namespace Polling

/-- The program starts, with a table of this size. -/
def start (size : Nat) : Polling := ⟨⟨World.start size, []⟩, Select.init⟩

/-- The program goes on; `none` is undefined behaviour. -/
def call (p : Polling) : Event → Option Polling
  | .socket op => (p.sockets.call op).map fun o => { p with sockets := o }
  | .construct i => (p.sockets.construct i).map fun o => { p with sockets := o }
  | .set i mode => some { p with select := p.select.set i mode }
  | .unset i mode => some { p with select := p.select.unset i mode }
  | .clear => some { p with select := p.select.clear }
  | .wait timeout during =>
    (p.select.wait p.sockets timeout during).map fun r => { p with select := r.2 }
  | .getWritable => (p.select.getWritable p.sockets).map fun r => { p with select := r.2 }
  | .getReadable => (p.select.getReadable p.sockets).map fun r => { p with select := r.2 }

/-- The same, after undefined behaviour too. -/
def step (p : Option Polling) (e : Event) : Option Polling := p.bind fun p => p.call e

/-- What holds as long as the program's behaviour is defined. -/
structure Sound (size : Nat) (p : Polling) : Prop where
  owned : World.Owned p.sockets.world
  length : p.sockets.world.table.length = size
  listed : Select.Listed p.select

/-- **One event.** -/
theorem sound_call {size : Nat} {p q : Polling} (h : Sound size p) {e : Event}
    (he : p.call e = some q) : Sound size q := by
  cases e with
  | socket op =>
    obtain ⟨o, ho, rfl⟩ := Option.map_eq_some_iff.mp he
    unfold Sockets.call at ho
    split_ifs at ho
    cases ho
    exact ⟨World.owned_step _ op h.owned, (World.length_step _ op).trans h.length, h.listed⟩
  | construct i =>
    obtain ⟨o, ho, rfl⟩ := Option.map_eq_some_iff.mp he
    unfold Sockets.construct at ho
    split_ifs at ho
    cases ho
    exact ⟨h.owned, h.length, h.listed⟩
  | set i mode =>
    cases he
    exact ⟨h.owned, h.length, h.listed.set i mode⟩
  | unset i mode =>
    cases he
    exact ⟨h.owned, h.length, h.listed.unset i mode⟩
  | clear =>
    cases he
    exact ⟨h.owned, h.length, ⟨List.nodup_nil, List.nodup_nil⟩⟩
  | wait timeout during =>
    obtain ⟨r, hr, rfl⟩ := Option.map_eq_some_iff.mp he
    exact ⟨h.owned, h.length, h.listed.wait hr⟩
  | getWritable =>
    obtain ⟨r, hr, rfl⟩ := Option.map_eq_some_iff.mp he
    exact ⟨h.owned, h.length, h.listed.getWritable hr⟩
  | getReadable =>
    obtain ⟨r, hr, rfl⟩ := Option.map_eq_some_iff.mp he
    exact ⟨h.owned, h.length, h.listed.getReadable hr⟩

/-- **In every state that any defined events lead to.** -/
theorem sound_run {size : Nat} {events : List Event} {p : Polling}
    (h : run step (some (start size)) events = some p) : Sound size p := by
  have hstart : Sound size (start size) :=
    ⟨World.owned_start size, List.length_replicate, List.nodup_nil, List.nodup_nil⟩
  have hinv : ∀ p, run step (some (start size)) events = some p → Sound size p := by
    refine run_invariant (fun q => ∀ p, q = some p → Sound size p) ?_ events
      fun p hp => Option.some.inj hp ▸ hstart
    intro q e hq p hp
    obtain ⟨p', hp', he⟩ := Option.bind_eq_some_iff.mp hp
    exact sound_call (hq p' hp') he
  exact hinv p h

end Polling

namespace Select

variable {s : Select}

/-! ## The sets -/

section
variable {o : Sockets}

/-! A handle is the descriptor that the socket holds, or -1. -/

theorem getHandle_of_none (h : World.Owned o.world) {i : Id} (hlive : i ∉ o.gone)
    (hi : o.world.held i = none) : o.getHandle i = some (-1) := by
  have hhandle := h.descriptor i
  rw [hi] at hhandle
  rw [Sockets.getHandle, if_neg hlive, hhandle]

theorem getHandle_of_some (h : World.Owned o.world) {i : Id} (hlive : i ∉ o.gone) {d : Nat}
    (hi : o.world.held i = some d) : o.getHandle i = some (d : Int) := by
  have hhandle := h.descriptor i
  rw [hi] at hhandle
  rw [Sockets.getHandle, if_neg hlive, hhandle]

theorem lt_length_of_held {w : World} (h : World.Owned w) {i : Id} {d : Nat}
    (hd : w.held i = some d) : d < w.table.length :=
  Table.lt_length_of_getSocket (h.kind i d hd)

/-- A number of the table fits the bytes of an `fd_set`. -/
theorem fits {t : Table} {fds : BitSet} (hlen : fds.length = t.fdZero.length) {d : Nat}
    (hd : d < t.length) : d / 8 < fds.length := by
  rw [hlen, Table.fdZero, BitSet.length_zero]
  omega

theorem fdSet_of_fits {fds : BitSet} {d : Nat} (h : d / 8 < fds.length) :
    Table.fdSet d fds = some (fds.insert d) :=
  if_pos ⟨Int.natCast_nonneg d, h⟩

theorem fdIsset_of_fits {fds : BitSet} {d : Nat} (h : d / 8 < fds.length) :
    Table.fdIsset d fds = some (fds.has d) :=
  if_pos ⟨Int.natCast_nonneg d, h⟩

/-- What `wait` makes of a list that it has no trouble with: the set of the descriptors that its
sockets hold, and a bound that none of them is above. -/
structure Created (o : Sockets) (list : List Id) (fds : BitSet) (m : Nat) (made : BitSet × Nat) :
    Prop where
  created : create o list (fds, m) = some made
  length : made.1.length = o.world.table.fdZero.length
  has : ∀ d, made.1.has d ↔ fds.has d ∨ ∃ i ∈ list, o.world.held i = some d
  le : m ≤ made.2
  max : ∀ i ∈ list, ∀ d, o.world.held i = some d → d ≤ made.2
  lt : m < o.world.table.length → made.2 < o.world.table.length

theorem Created.has_zero {list : List Id} {m : Nat} {made : BitSet × Nat}
    (hmade : Created o list o.world.table.fdZero m made) (d : Nat) :
    made.1.has d = true ↔ ∃ i ∈ list, o.world.held i = some d := by
  rw [hmade.has, Table.fdZero, BitSet.has_zero]
  simp

/-- Every bit of the set is one of the table. -/
theorem Created.bits (h : World.Owned o.world) {list : List Id} {m : Nat} {made : BitSet × Nat}
    (hmade : Created o list o.world.table.fdZero m made) {d : Nat} (hd : made.1.has d = true) :
    d < o.world.table.length ∧ ∃ i ∈ list, o.world.held i = some d := by
  obtain ⟨i, hi, hheld⟩ := (hmade.has_zero d).mp hd
  exact ⟨lt_length_of_held h hheld, i, hi, hheld⟩

/-- **The set of a list**, none of whose sockets is gone. -/
theorem create_spec (h : World.Owned o.world) {list : List Id} (hlive : ∀ i ∈ list, i ∉ o.gone)
    {fds : BitSet} (m : Nat) (hlen : fds.length = o.world.table.fdZero.length) :
    ∃ made, Created o list fds m made := by
  induction list generalizing fds m with
  | nil => exact ⟨(fds, m), rfl, hlen, by simp, le_refl m, by simp, id⟩
  | cons i list ih =>
    rw [List.forall_mem_cons] at hlive
    cases hheld : o.world.held i with
    | none =>
      have hhandle := getHandle_of_none h hlive.1 hheld
      obtain ⟨made, hmade⟩ := ih hlive.2 m hlen
      refine ⟨made, ?_, hmade.length, by simpa [hheld] using hmade.has, hmade.le,
        by simpa [hheld] using hmade.max, hmade.lt⟩
      rw [create, hhandle]
      exact hmade.created
    | some e =>
      have hhandle := getHandle_of_some h hlive.1 hheld
      have hlt := lt_length_of_held h hheld
      have hfits := fits hlen hlt
      have hmax : (if m > e then m else e) = max m e := by
        split_ifs <;> omega
      obtain ⟨made, hmade⟩ := ih hlive.2 (max m e) ((BitSet.length_insert e fds).trans hlen)
      refine ⟨made, ?_, hmade.length, ?_, (Nat.le_max_left m e).trans hmade.le, ?_,
        fun hm => hmade.lt (Nat.max_lt.mpr ⟨hm, hlt⟩)⟩
      · rw [create, hhandle]
        simp only [Option.bind_eq_bind, Option.bind_some, if_neg (show (e : Int) ≠ -1 by omega),
          fdSet_of_fits hfits, Int.toNat_natCast, hmax]
        exact hmade.created
      · intro d
        rw [hmade.has, BitSet.has_insert hfits]
        simp only [Bool.or_eq_true, decide_eq_true_eq, List.mem_cons, exists_eq_or_imp, hheld,
          Option.some.injEq]
        tauto
      · intro j hj d hd
        have hle := hmade.le
        rcases List.mem_cons.mp hj with rfl | hj
        · obtain rfl := Option.some.inj (hheld.symm.trans hd)
          omega
        · exact hmade.max j hj d hd

/-- A pointer that dangles is undefined behaviour. -/
theorem create_of_gone {list : List Id} {i : Id} (hi : i ∈ list) (hgone : i ∈ o.gone)
    (p : BitSet × Nat) : create o list p = none := by
  induction list generalizing p with
  | nil => exact absurd hi List.not_mem_nil
  | cons j list ih =>
    rw [create]
    by_cases hj : j ∈ o.gone
    · rw [Sockets.getHandle, if_pos hj]
      rfl
    · obtain hi : i ∈ list := (List.mem_cons.mp hi).resolve_left fun he => hj (he ▸ hgone)
      rw [Sockets.getHandle, if_neg hj]
      simp only [Option.bind_eq_bind, Option.bind_some, ih hi]
      split_ifs
      · rfl
      · cases Table.fdSet (o.world.socket j).socket p.1 <;> rfl

end

/-! ## The scan -/

section
variable {t : Table} {readset writeset : BitSet} (sockets : Nat → LwipSock)

theorem lwipSelscan_succ (n : Nat) :
    t.lwipSelscan (n + 1) readset writeset sockets =
      (t.lwipSelscan n readset writeset sockets).bind fun p =>
        (Table.noteReady readset (t.trygetSocket sockets n).CanRead n p.1 p.2.1).bind fun r =>
          (Table.noteReady writeset (t.trygetSocket sockets n).CanWrite n r.1 p.2.2).bind fun q =>
            some (q.1, r.2, q.2) := by
  rw [Table.lwipSelscan, List.range_succ, List.foldlM_append]
  simp only [List.foldlM_cons, List.foldlM_nil, bind_pure]
  rfl

theorem noteReady_spec {fds lfds : BitSet} (event : Bool) {i : Nat} (nready : Nat)
    (hfits : i / 8 < fds.length) (hlfits : i / 8 < lfds.length) :
    ∃ r, Table.noteReady fds event i nready lfds = some r ∧
      r.1 = nready + (if fds.has i && event then 1 else 0) ∧
      r.2.length = lfds.length ∧
      ∀ d, r.2.has d = ((decide (d = i) && (fds.has i && event)) || lfds.has d) := by
  unfold Table.noteReady
  simp only [fdIsset_of_fits hfits, fdSet_of_fits hlfits, Option.bind_eq_bind, Option.bind_some]
  cases fds.has i && event with
  | false => exact ⟨_, rfl, rfl, rfl, by simp⟩
  | true =>
    refine ⟨_, rfl, rfl, BitSet.length_insert i lfds, ?_⟩
    intro d
    simp [BitSet.has_insert hlfits]

/-- Going one further. -/
theorem lt_succ_and (p : Nat → Bool) (n d : Nat) :
    ((decide (d = n) && p n) || (decide (d < n) && p d)) = (decide (d < n + 1) && p d) := by
  by_cases hd : d = n
  · subst hd
    simp
  · have hlt : d < n + 1 ↔ d < n := by omega
    simp [hd, hlt]

/-- What a scan of the first `n` sockets leaves: the ready ones of each set, and how many there
are. -/
structure Scanned (t : Table) (n : Nat) (readset writeset : BitSet) (sockets : Nat → LwipSock)
    (p : Nat × BitSet × BitSet) : Prop where
  scanned : t.lwipSelscan n readset writeset sockets = some p
  readLength : p.2.1.length = t.fdZero.length
  writeLength : p.2.2.length = t.fdZero.length
  read : ∀ d, p.2.1.has d =
    (decide (d < n) && (readset.has d && (t.trygetSocket sockets d).CanRead))
  write : ∀ d, p.2.2.has d =
    (decide (d < n) && (writeset.has d && (t.trygetSocket sockets d).CanWrite))
  count : p.1 =
    (List.range n).countP (fun d => readset.has d && (t.trygetSocket sockets d).CanRead) +
      (List.range n).countP (fun d => writeset.has d && (t.trygetSocket sockets d).CanWrite)

/-- **A scan** that stays in the table. -/
theorem lwipSelscan_spec (hread : readset.length = t.fdZero.length)
    (hwrite : writeset.length = t.fdZero.length) {n : Nat} (hn : n ≤ t.length) :
    ∃ p, Scanned t n readset writeset sockets p := by
  induction n with
  | zero => exact ⟨_, rfl, rfl, rfl, by simp [Table.fdZero], by simp [Table.fdZero], rfl⟩
  | succ n ih =>
    obtain ⟨p, hp⟩ := ih (Nat.le_of_succ_le hn)
    obtain ⟨r, hr, hr1, hr2, hr3⟩ := noteReady_spec (t.trygetSocket sockets n).CanRead p.1
      (fits hread hn) (fits hp.readLength hn)
    obtain ⟨q, hq, hq1, hq2, hq3⟩ := noteReady_spec (t.trygetSocket sockets n).CanWrite r.1
      (fits hwrite hn) (fits hp.writeLength hn)
    refine ⟨(q.1, r.2, q.2), ?_, hr2.trans hp.readLength, hq2.trans hp.writeLength, ?_, ?_, ?_⟩
    · simp only [lwipSelscan_succ, hp.scanned, hr, hq, Option.bind_some]
    · intro d
      rw [hr3, hp.read]
      exact lt_succ_and (fun d => readset.has d && (t.trygetSocket sockets d).CanRead) n d
    · intro d
      rw [hq3, hp.write]
      exact lt_succ_and (fun d => writeset.has d && (t.trygetSocket sockets d).CanWrite) n d
    · simp only [List.range_succ, List.countP_append, List.countP_singleton]
      rw [hq1, hr1, hp.count]
      omega

/-- **What `lwip_select` reports**: one of its scans, or an error, with the sets as they were. -/
theorem lwipSelect_cases (hread : readset.length = t.fdZero.length)
    (hwrite : writeset.length = t.fdZero.length) {n : Nat} (hn : n ≤ t.length)
    (timeout : Option (Int × Int)) (during : Table.Waiting) :
    t.lwipSelect n readset writeset timeout during = some (-1, readset, writeset) ∨
      ∃ sockets ∈ [during.first, during.listed, during.woken],
        ∃ p, Scanned t n readset writeset sockets p ∧
          t.lwipSelect n readset writeset timeout during = some ((p.1 : Int), p.2) := by
  obtain ⟨first, hfirst⟩ := lwipSelscan_spec during.first hread hwrite hn
  obtain ⟨listed, hlisted⟩ := lwipSelscan_spec during.listed hread hwrite hn
  obtain ⟨woken, hwoken⟩ := lwipSelscan_spec during.woken hread hwrite hn
  unfold Table.lwipSelect
  simp only [hfirst.scanned, hlisted.scanned, hwoken.scanned, Option.bind_eq_bind,
    Option.bind_some]
  split_ifs
  · exact Or.inr ⟨during.first, by simp, first, hfirst, rfl⟩
  · exact Or.inr ⟨during.first, by simp, first, hfirst, rfl⟩
  · exact Or.inr ⟨during.listed, by simp, listed, hlisted, rfl⟩
  · exact Or.inr ⟨during.woken, by simp, woken, hwoken, rfl⟩
  · exact Or.inl rfl

end

/-! ## What is handed out -/

/-- What a program can do with one socket. -/
inductive Own (kind : Kind) where
  | open (created : Bool)
  | method (m : Method kind) (outcome : Int)
  | close
  | destroy
  | construct

/-- It does so. -/
def Own.call (o : Sockets) : (i : Id) → Own i.1 → Option Sockets
  | i, .open created => o.call (.open i created)
  | i, .method m outcome => o.call (.method i.2 m outcome)
  | i, .close => o.call (.close i)
  | i, .destroy => o.call (.destroy i)
  | i, .construct => o.construct i

/-- A program: what it does with a socket that it is handed, as it finds its sockets. -/
abbrev Handler := Sockets → (i : Id) → List (Own i.1)

/-- The sockets after that; what would be done with one that is gone is left out. -/
def Handler.after (handler : Handler) (o : Sockets) (i : Id) : Sockets :=
  run (fun o own => (Own.call o i own).getD o) o (handler o i)

/-- What successive calls of `getReadable` or `getWritable` return, where each socket is handled
before the next call. -/
def handed (get : Select → Sockets → Option (Option Id × Select)) (handler : Handler) :
    Nat → Select → Sockets → Option (List (Option Id))
  | 0, _, _ => some []
  | n + 1, s, o =>
    match get s o with
    | none => none
    | some (none, s) => (handed get handler n s o).map (none :: ·)
    | some (some i, s) => (handed get handler n s (handler.after o i)).map (some i :: ·)

/-- Whatever the handler does, the calls go well and return these sockets, in this order, and `NULL`
from then on. -/
def HandsOut (get : Select → Sockets → Option (Option Id × Select)) (s : Select) (o : Sockets)
    (sockets : List Id) : Prop :=
  ∀ handler n, handed get handler n s o = some ((List.range n).map fun k => sockets[k]?)

/-- What is done with one socket is not seen by a pointer to another. -/
theorem getHandle_own (o : Sockets) {i j : Id} (hj : j ≠ i) (own : Own i.1) :
    ((Own.call o i own).getD o).getHandle j = o.getHandle j := by
  have hcall : ∀ op : Op, (o.world.step op).socket j = o.world.socket j →
      ((∃ k, op = .destroy k) → op = .destroy i) →
      ((o.call op).getD o).getHandle j = o.getHandle j := by
    intro op hsocket hdestroy
    unfold Sockets.call
    split_ifs
    · simp only [Option.getD_some, Sockets.getHandle, hsocket]
      cases op with
      | destroy k =>
        obtain rfl : k = i := Op.destroy.inj (hdestroy ⟨k, rfl⟩)
        simp [hj]
      | _ => rfl
    · rfl
  cases own with
  | «open» created => exact hcall _ (Function.update_of_ne hj _ _) nofun
  | method m outcome => exact hcall _ (Function.update_of_ne hj _ _) nofun
  | close => exact hcall _ (Function.update_of_ne hj _ _) nofun
  | destroy => exact hcall _ (Function.update_of_ne hj _ _) fun _ => rfl
  | construct =>
    rw [Own.call, Sockets.construct]
    split_ifs
    · simp [Sockets.getHandle, hj]
    · rfl

theorem getHandle_after (handler : Handler) (o : Sockets) {i j : Id} (hj : j ≠ i) :
    (handler.after o i).getHandle j = o.getHandle j := by
  unfold Handler.after
  generalize handler o i = owns
  induction owns generalizing o with
  | nil => rfl
  | cons own owns ih => exact (ih _).trans (getHandle_own o hj own)

theorem flagged_after (handler : Handler) (fds : BitSet) (o : Sockets) (i j : Id) (hj : j ≠ i) :
    flagged (handler.after o i) fds j = flagged o fds j := by
  rw [flagged, flagged, getHandle_after handler o hj]

theorem handed_getReadable (handler : Handler) (n : Nat) (s : Select) (o : Sockets) (k : Nat)
    (hk : s.readListIterator = some k) :
    handed getReadable handler n s o =
      Cursor.pulls (fun o => flagged o s.readSet) handler.after s.readList n o k := by
  induction n generalizing s o k with
  | zero => rfl
  | succ n ih =>
    rw [handed, getReadable, hk, Cursor.pulls]
    simp only [Option.bind_eq_bind, Option.bind_some]
    rcases Cursor.advance (flagged o s.readSet) (s.readList.drop k) k with _ | ⟨_ | i, k'⟩
    · rfl
    · exact congrArg (Option.map (none :: ·)) (ih { s with readListIterator := some k' } o k' rfl)
    · exact congrArg (Option.map (some i :: ·))
        (ih { s with readListIterator := some k' } (handler.after o i) k' rfl)

theorem handed_getWritable (handler : Handler) (n : Nat) (s : Select) (o : Sockets) (k : Nat)
    (hk : s.writeListIterator = some k) :
    handed getWritable handler n s o =
      Cursor.pulls (fun o => flagged o s.writeSet) handler.after s.writeList n o k := by
  induction n generalizing s o k with
  | zero => rfl
  | succ n ih =>
    rw [handed, getWritable, hk, Cursor.pulls]
    simp only [Option.bind_eq_bind, Option.bind_some]
    rcases Cursor.advance (flagged o s.writeSet) (s.writeList.drop k) k with _ | ⟨_ | i, k'⟩
    · rfl
    · exact congrArg (Option.map (none :: ·)) (ih { s with writeListIterator := some k' } o k' rfl)
    · exact congrArg (Option.map (some i :: ·))
        (ih { s with writeListIterator := some k' } (handler.after o i) k' rfl)

/-- The socket is open, and lwIP has something for it. -/
def Readable (w : World) (sockets : Nat → LwipSock) (i : Id) : Bool :=
  match w.held i with
  | none => false
  | some d => (sockets d).CanRead

/-- The socket is open, and lwIP takes something from it. -/
def Writable (w : World) (sockets : Nat → LwipSock) (i : Id) : Bool :=
  match w.held i with
  | none => false
  | some d => (sockets d).CanWrite

theorem handsOut_readable {o : Sockets} {test : Id → Bool} (hstart : s.readListIterator = some 0)
    (hnodup : s.readList.Nodup) (htest : ∀ i ∈ s.readList, flagged o s.readSet i = some (test i)) :
    HandsOut getReadable s o (s.readList.filter test) := by
  intro handler n
  rw [handed_getReadable handler n s o 0 hstart]
  exact Cursor.pulls_eq (flagged_after handler s.readSet) hnodup n o htest

theorem handsOut_writable {o : Sockets} {test : Id → Bool} (hstart : s.writeListIterator = some 0)
    (hnodup : s.writeList.Nodup)
    (htest : ∀ i ∈ s.writeList, flagged o s.writeSet i = some (test i)) :
    HandsOut getWritable s o (s.writeList.filter test) := by
  intro handler n
  rw [handed_getWritable handler n s o 0 hstart]
  exact Cursor.pulls_eq (flagged_after handler s.writeSet) hnodup n o htest

section
variable {o : Sockets}

/-- The test of a socket, through a pointer that does not dangle. -/
theorem flagged_eq (h : World.Owned o.world) {i : Id} (hlive : i ∉ o.gone) {fds : BitSet}
    (hlen : fds.length = o.world.table.fdZero.length) :
    flagged o fds i =
      some (match o.world.held i with | none => false | some d => fds.has d) := by
  cases hi : o.world.held i with
  | none =>
    rw [flagged, getHandle_of_none h hlive hi]
    rfl
  | some d =>
    rw [flagged, getHandle_of_some h hlive hi]
    simp only [Option.bind_eq_bind, Option.bind_some, if_neg (show (d : Int) ≠ -1 by omega),
      fdIsset_of_fits (fits hlen (lt_length_of_held h hi))]

/-- The set of a list, of its sockets: those that are open. -/
theorem flagged_created (h : World.Owned o.world) {list : List Id} {m : Nat} {made : BitSet × Nat}
    (hmade : Created o list o.world.table.fdZero m made) {i : Id} (hi : i ∈ list)
    (hlive : i ∉ o.gone) : flagged o made.1 i = some (o.world.held i).isSome := by
  rw [flagged_eq h hlive hmade.length]
  cases hd : o.world.held i with
  | none => rfl
  | some d => exact congrArg some ((hmade.has d).mpr (Or.inr ⟨i, hi, hd⟩))

/-- What a scan leaves of the set of a list, of its sockets, and how many it counts: `event` is
what it looks for. -/
theorem flagged_scanned (h : World.Owned o.world) {list : List Id} (hnodup : list.Nodup)
    (hlive : ∀ i ∈ list, i ∉ o.gone) {m n : Nat} {made : BitSet × Nat}
    (hmade : Created o list o.world.table.fdZero m made) (hn : made.2 < n)
    {sockets : Nat → LwipSock} {event : LwipSock → Bool} {fds : BitSet}
    (hlen : fds.length = o.world.table.fdZero.length)
    (hfds : ∀ d, fds.has d =
      (decide (d < n) && (made.1.has d && event (o.world.table.trygetSocket sockets d)))) :
    (∀ i ∈ list, flagged o fds i =
        some (match o.world.held i with | none => false | some d => event (sockets d))) ∧
      (List.range n).countP
          (fun d => made.1.has d && event (o.world.table.trygetSocket sockets d)) =
        (list.filter fun i =>
          match o.world.held i with | none => false | some d => event (sockets d)).length := by
  have hhas := hmade.has_zero
  have hused : ∀ {i d}, o.world.held i = some d →
      o.world.table.trygetSocket sockets d = sockets d := by
    intro i d hd
    have huse : (o.world.table.getSocket d).isSome = true := (h.exact.inUse_iff d).mpr ⟨i, hd⟩
    rw [Table.trygetSocket, if_pos huse]
  constructor
  · intro i hi
    rw [flagged_eq h (hlive i hi) hlen]
    cases hd : o.world.held i with
    | none => rfl
    | some d =>
      have hlt : d < n := (hmade.max i hi d hd).trans_lt hn
      simp only [hfds, decide_eq_true hlt, (hhas d).mpr ⟨i, hi, hd⟩, hused hd, Bool.true_and]
  · refine h.exact.countP_eq hnodup List.nodup_range (fun i _ hp => ?_) fun d => ?_
    · cases hd : o.world.held i with
      | none => simp [hd] at hp
      | some d => rfl
    · rw [List.mem_range, Bool.and_eq_true]
      constructor
      · rintro ⟨hlt, hset, hevent⟩
        obtain ⟨i, hi, hd⟩ := (hhas d).mp hset
        refine ⟨i, ⟨hi, ?_⟩, hd⟩
        rw [hd, ← hevent, hused hd]
      · rintro ⟨i, ⟨hi, hflag⟩, hd⟩
        rw [hd] at hflag
        exact ⟨(hmade.max i hi d hd).trans_lt hn, (hhas d).mpr ⟨i, hi, hd⟩, (hused hd).symm ▸ hflag⟩

/-- What is waited for: the sets of the lists, and the bound of the scan. -/
theorem wait_eq (s : Select) (timeout : Int) (during : Table.Waiting) {writes reads : BitSet × Nat}
    {r : Int × BitSet × BitSet}
    (hwrites : create o s.writeList (o.world.table.fdZero, 0) = some writes)
    (hreads : create o s.readList (o.world.table.fdZero, writes.2) = some reads)
    (hr : o.world.table.lwipSelect (reads.2 + 1) reads.1 writes.1 (timeval timeout) during =
      some r) :
    s.wait o timeout during = some (r.1, { s with
      readSet := r.2.1, writeSet := r.2.2, readListIterator := some 0,
      writeListIterator := some 0 }) := by
  rw [wait, hwrites]
  simp only [Option.bind_eq_bind, Option.bind_some, hreads, hr]
  rfl

/-- What a wait leaves: in its sets only bits of the table, for descriptors of listed sockets; and,
where it fails, those sockets are handed out that are listed and open; otherwise, in the state of
one of its scans, those that lwIP has something for, as many as it says. -/
structure Reports (s : Select) (o : Sockets) (during : Table.Waiting) (result : Int)
    (s' : Select) : Prop where
  readBits : ∀ d, s'.readSet.has d = true →
    d < o.world.table.length ∧ ∃ i ∈ s.readList, o.world.held i = some d
  writeBits : ∀ d, s'.writeSet.has d = true →
    d < o.world.table.length ∧ ∃ i ∈ s.writeList, o.world.held i = some d
  handsOut : result = -1 ∧
      HandsOut getReadable s' o (s.readList.filter fun i => (o.world.held i).isSome) ∧
      HandsOut getWritable s' o (s.writeList.filter fun i => (o.world.held i).isSome) ∨
    ∃ sockets ∈ [during.first, during.listed, during.woken],
      result = (s.readList.filter (Readable o.world sockets)).length +
        (s.writeList.filter (Writable o.world sockets)).length ∧
      HandsOut getReadable s' o (s.readList.filter (Readable o.world sockets)) ∧
      HandsOut getWritable s' o (s.writeList.filter (Writable o.world sockets))

/-- **A wait** for sockets none of which is gone. -/
theorem wait_spec (h : World.Owned o.world) (hsize : 0 < o.world.table.length) (hl : Listed s)
    (hread : ∀ i ∈ s.readList, i ∉ o.gone) (hwrite : ∀ i ∈ s.writeList, i ∉ o.gone)
    (timeout : Int) (during : Table.Waiting) :
    ∃ result s', s.wait o timeout during = some (result, s') ∧ Reports s o during result s' := by
  obtain ⟨writes, hwrites⟩ := create_spec h hwrite 0 (rfl : o.world.table.fdZero.length = _)
  obtain ⟨reads, hreads⟩ :=
    create_spec h hread writes.2 (rfl : o.world.table.fdZero.length = _)
  have hn : reads.2 + 1 ≤ o.world.table.length := hreads.lt (hwrites.lt hsize)
  rcases lwipSelect_cases hreads.length hwrites.length hn (timeval timeout) during with
    he | ⟨sockets, hmem, p, hp, he⟩
  · refine ⟨_, _, wait_eq s timeout during hwrites.created hreads.created he,
      fun d => hreads.bits h, fun d => hwrites.bits h, Or.inl ⟨rfl, ?_, ?_⟩⟩
    · exact handsOut_readable rfl hl.read fun i hi => flagged_created h hreads hi (hread i hi)
    · exact handsOut_writable rfl hl.write fun i hi => flagged_created h hwrites hi (hwrite i hi)
  · obtain ⟨hR, hcountR⟩ := flagged_scanned h hl.read hread hreads (Nat.lt_succ_self _)
      hp.readLength hp.read
    obtain ⟨hW, hcountW⟩ := flagged_scanned h hl.write hwrite hwrites
      (Nat.lt_succ_of_le hreads.le) hp.writeLength hp.write
    refine ⟨_, _, wait_eq s timeout during hwrites.created hreads.created he,
      fun d hd => hreads.bits h ?_, fun d hd => hwrites.bits h ?_,
      Or.inr ⟨sockets, hmem, ?_, handsOut_readable rfl hl.read hR,
        handsOut_writable rfl hl.write hW⟩⟩
    · rw [hp.read, Bool.and_eq_true, Bool.and_eq_true] at hd
      exact hd.2.1
    · rw [hp.write, Bool.and_eq_true, Bool.and_eq_true] at hd
      exact hd.2.1
    · rw [hp.count, hcountR, hcountW]
      exact Int.natCast_add _ _

/-- A wait with a socket that is gone. -/
theorem wait_of_gone {i : Id} (hi : i ∈ s.writeList ++ s.readList) (hgone : i ∈ o.gone)
    (timeout : Int) (during : Table.Waiting) : s.wait o timeout during = none := by
  rw [wait]
  rcases List.mem_append.mp hi with hi | hi
  · rw [create_of_gone hi hgone]
    rfl
  · cases create o s.writeList (o.world.table.fdZero, 0) with
    | none => rfl
    | some writes =>
      simp only [Option.bind_eq_bind, Option.bind_some, create_of_gone hi hgone]
      rfl

end

/-- **Selected.** After any calls on any sockets and on the object whose behaviour is defined, the
behaviour of `wait` is undefined exactly where a socket is listed that is gone: no bit is set or
read outside of an `fd_set`. Otherwise it fails, and the sockets that are handed out next are those
that are listed and open; or it has scanned them, and those are handed out that lwIP has something
for, as many as the result says. Each one is handed out once, in the order of the list, whatever is
done with those before it. -/
theorem selected (size : Nat) (hsize : 0 < size) (events : List Event) (p : Polling)
    (hp : run Polling.step (some (Polling.start size)) events = some p) (timeout : Int)
    (during : Table.Waiting) :
    p.select.readList.Nodup ∧ p.select.writeList.Nodup ∧
      (p.select.wait p.sockets timeout during = none ↔
        ∃ i ∈ p.select.writeList ++ p.select.readList, i ∈ p.sockets.gone) ∧
      ∀ result s', p.select.wait p.sockets timeout during = some (result, s') →
        Reports p.select p.sockets during result s' := by
  have hsound := Polling.sound_run hp
  have hpos : 0 < p.sockets.world.table.length := hsound.length.symm ▸ hsize
  refine ⟨hsound.listed.read, hsound.listed.write, ?_⟩
  by_cases hgone : ∃ i ∈ p.select.writeList ++ p.select.readList, i ∈ p.sockets.gone
  · obtain ⟨i, hi, hig⟩ := hgone
    have hnone := wait_of_gone hi hig timeout during
    exact ⟨iff_of_true hnone ⟨i, hi, hig⟩, fun result s' h => by cases hnone.symm.trans h⟩
  · have hlive : ∀ i ∈ p.select.writeList ++ p.select.readList, i ∉ p.sockets.gone :=
      fun i hi hig => hgone ⟨i, hi, hig⟩
    obtain ⟨result, s', hwait, hreports⟩ := wait_spec hsound.owned hpos hsound.listed
      (fun i hi => hlive i (List.mem_append_right _ hi))
      (fun i hi => hlive i (List.mem_append_left _ hi)) timeout during
    refine ⟨iff_of_false (by rw [hwait]; exact Option.some_ne_none _) hgone, ?_⟩
    intro r t h
    cases hwait.symm.trans h
    exact hreports

/-- Two sockets are listed, and one of them is destroyed and constructed again. -/
def twoListed : List Event :=
  [.socket (.open (.tcp, 0) true), .socket (.open (.udp, 0) true), .set (.tcp, 0) .ReadWrite,
    .set (.udp, 0) .Write, .socket (.destroy (.udp, 0)), .construct (.udp, 0)]

/-- Every socket takes something. -/
def allWritable : Table.Waiting :=
  ⟨fun _ => ⟨false, 0, 1⟩, fun _ => ⟨false, 0, 1⟩, fun _ => ⟨false, 0, 1⟩, true, true⟩

theorem selected_twoListed :
    ∃ p s', run Polling.step (some (Polling.start 10)) twoListed = some p ∧
      p.select.writeList = [(.tcp, 0), (.udp, 0)] ∧
      p.select.wait p.sockets 1000 allWritable = some (1, s') ∧
      Reports p.select p.sockets allWritable 1 s' :=
  ⟨_, _, rfl, rfl, rfl, (selected 10 (by decide) twoListed _ rfl 1000 allWritable).2.2.2 _ _ rfl⟩

end Select

end Thethings.Http
