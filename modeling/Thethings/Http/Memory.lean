import Thethings.Http.Buffer
import Thethings.Library.Heap
import Thethings.Library.Run

/-!
# Buffers in memory

`NetworkAPI/buffer.cpp` as the compiler sees it: an object is a pointer and two numbers, and the
bytes are on a heap that all objects share. Modelled are the constructors and the destructor
(l.29-58), both assignments (l.60-96), `read` (l.99-111), `write` (l.114-127), `flush` (l.130),
`data` (l.143), `length` (l.157-170) and the two private ones, `_memory_allocate` and `_memory_free`
(l.185-204); and what a socket's `write` and `read` do with a `Buffer` (`NetworkAPI/tcp/socket.cpp`
l.187-191 and l.221-230).

Choices:

* `none` is a fault: a block that is given back twice or touched afterwards, or a copy that leaves
  its block. The methods copy what their numbers say, and it is a theorem where this is safe.
* `std::calloc` finds no memory or puts a block where the environment says, which may be where one
  was given back before.
* Both copying constructors are `ofData` and both assignments `assignData`, with what they copy as a
  function of the heap: the contents of another object are read after this one has given its block
  back and taken another, as in the source.
* Objects have names, and any number of them are alive at once. A call of an object that is not
  alive, or a constructor where one is, is no call; `answers` keeps what the methods return and hand
  out.
* The numbers are `size_t` in the source, which wraps; here they do not. Only `_length` can grow
  without an allocation, by `write`.

The same calls on buffers as values (`Buffer`) say what they are for; the client is modelled with
these.

Results:

* `ofData_spec`, `assignData_spec`: construction and assignment trade the block of one object, which
  shows what the value becomes.
* `Refines.call`: what one call does to objects and to values agrees, faults included.
* `Memory.refines`: so over any calls on any number of objects, each is a value of its own.

Left out: `size` and `free`, which read a number back; the cast of what `data` gives out to a C
string, which is `text` in `Buffer`; and pointers into a block that somebody keeps.
-/

namespace Thethings.Http

open Library Library.Holding

/-! ## The other methods, on values -/

/-- A copy to the front. -/
theorem patch_zero (new : Bytes) : patch 0 new = overwrite new := by
  funext block
  simp [patch, overwrite]

namespace Buffer

/-- A string, as the buffer that is full of it. -/
def holding (s : Bytes) : Buffer := ⟨some s, s.length, s.length, Nat.le_refl _⟩

theorem length_bytes (b : Buffer) : ((b.memory.getD []).take b.size).length = b.size :=
  List.length_take_of_le b.fits

/-- `Buffer(other)`. -/
def copy (other : Buffer) (calloc : Bool) : Buffer :=
  if calloc then
    ⟨some ((other.memory.getD []).take other.size), other.size, other.length,
      other.length_bytes.ge⟩
  else empty

/-- How many of `n` bytes a `read` or a `write` copies. -/
def bytesToCopy (size n offset : Nat) : Nat := if n > size - offset then size - offset else n

theorem bytesToCopy_fits {size offset : Nat} (h : offset < size) (n : Nat) :
    offset + bytesToCopy size n offset ≤ size := by
  unfold bytesToCopy
  split_ifs <;> omega

/-- `read(data, max_length, offset)`: the result, and what is copied to `data`. -/
def read (b : Buffer) (maxLength offset : Nat) : Int × Bytes :=
  if offset ≥ b.size ∨ b.memory = none then (0, [])
  else
    let n := bytesToCopy b.size maxLength offset
    (n, ((b.memory.getD []).drop offset).take n)

theorem write_fits (b : Buffer) (data : Bytes) (offset : Nat) (h : ¬ offset ≥ b.size) :
    b.size ≤ ((b.memory.map
      (patch offset (data.take (bytesToCopy b.size data.length offset)))).getD []).length := by
  have hfits := b.fits
  cases hm : b.memory with
  | none => simpa [hm] using hfits
  | some m =>
    rw [hm, Option.getD_some] at hfits
    rw [Option.map_some, Option.getD_some, length_patch]
    · exact hfits
    · have hin := bytesToCopy_fits (Nat.lt_of_not_le h) data.length
      rw [List.length_take]
      omega

/-- `write(data, length, offset)`. -/
def write (b : Buffer) (data : Bytes) (offset : Nat) : Int × Buffer :=
  if h : offset ≥ b.size ∨ b.memory = none then (0, b)
  else
    let n := bytesToCopy b.size data.length offset
    (n, ⟨b.memory.map (patch offset (data.take n)), b.size, b.length + n,
      b.write_fits data offset fun hle => h (Or.inl hle)⟩)

theorem memory_of_data {b : Buffer} {m : Bytes} (h : b.data = some m) : b.memory = some m := by
  unfold data at h
  split_ifs at h
  exact h

/-- What a socket's `write(buffer)` hands to lwIP; there is no such value where that is more than
the block. -/
def handed (b : Buffer) : Option (Int × Bytes) :=
  match b.data with
  | none => some (-1, [])
  | some m =>
    if b.length = 0 then some (-1, [])
    else if b.length ≤ m.length then some (0, m.take b.length)
    else none

/-- What a socket's `read(buffer)` makes of `received`. -/
def receive (b : Buffer) (received : Bytes) : Buffer :=
  match b.data with
  | none => b
  | some _ => (b.store received).setLength (min received.length b.size)

end Buffer

/-! ## Objects -/

/-- A `Buffer` object. -/
structure Object where
  memory : Option Nat
  size : Nat
  length : Nat

namespace Object

/-- `_memory_allocate(size)`. -/
def memoryAllocate (b : Object) (size : Nat) (calloc : Option Nat) (h : Heap UInt8) :
    Int × Object × Heap UInt8 :=
  match calloc with
  | none => (-1, ⟨none, 0, 0⟩, h)
  | some p => (0, { b with memory := some (h.place p) }, h.alloc p (List.replicate size 0))

/-- `_memory_free()`. -/
def memoryFree (b : Object) (h : Heap UInt8) : Option (Heap UInt8) :=
  match b.memory with
  | none => some h
  | some p => h.free (some p)

/-- `Buffer()`. -/
def new : Object := ⟨none, 0, 0⟩

/-- `Buffer(size)`. -/
def ofSize (size : Nat) (calloc : Option Nat) (h : Heap UInt8) : Object × Heap UInt8 :=
  (memoryAllocate ⟨none, size, 0⟩ size calloc h).2

/-- `std::memcpy(_memory, ..)` of what `data` reads. -/
def copyFrom (b : Object) (data : Heap UInt8 → Option Bytes) (h : Heap UInt8) :
    Option (Heap UInt8) :=
  (data h).bind (h.store b.memory 0)

/-- The constructors that copy what `data` reads. -/
def ofData (size length : Nat) (data : Heap UInt8 → Option Bytes) (calloc : Option Nat)
    (h : Heap UInt8) : Option (Object × Heap UInt8) :=
  match memoryAllocate ⟨none, size, length⟩ size calloc h with
  | (rc, b, h) => if rc ≠ -1 then (b.copyFrom data h).map fun h => (b, h) else some (b, h)

/-- What is behind the pointer of another object. -/
def contents (other : Object) (h : Heap UInt8) : Option Bytes := h.load other.memory 0 other.size

/-- `Buffer(other)`. -/
def copy (other : Object) (calloc : Option Nat) (h : Heap UInt8) : Option (Object × Heap UInt8) :=
  ofData other.size other.length other.contents calloc h

/-- `Buffer(string)`. -/
def ofString (s : Bytes) (calloc : Option Nat) (h : Heap UInt8) : Option (Object × Heap UInt8) :=
  ofData s.length s.length (fun _ => some s) calloc h

/-- Both assignments: the block is replaced where it is too small, and what `data` reads is copied
to its front. -/
def assignData (b : Object) (size length : Nat) (data : Heap UInt8 → Option Bytes)
    (calloc : Option Nat) (h : Heap UInt8) : Option (Object × Heap UInt8) :=
  if b.size < size then
    (b.memoryFree h).bind fun h =>
      match b.memoryAllocate size calloc h with
      | (rc, b, h) =>
        if rc < 0 then some (b, h)
        else (b.copyFrom data h).map fun h => ({ b with size := size, length := length }, h)
  else (b.copyFrom data h).map fun h => ({ b with size := size, length := length }, h)

/-- `operator=(const Buffer &)`. -/
def assign (b other : Object) (calloc : Option Nat) (h : Heap UInt8) :
    Option (Object × Heap UInt8) :=
  b.assignData other.size other.length other.contents calloc h

/-- `operator=(const std::string &)`. -/
def assignString (b : Object) (s : Bytes) (calloc : Option Nat) (h : Heap UInt8) :
    Option (Object × Heap UInt8) :=
  b.assignData s.length s.length (fun _ => some s) calloc h

/-- `read(data, max_length, offset)`. -/
def read (b : Object) (maxLength offset : Nat) (h : Heap UInt8) : Option (Int × Bytes) :=
  if offset ≥ b.size ∨ b.memory = none then some (0, [])
  else
    let n := Buffer.bytesToCopy b.size maxLength offset
    (h.load b.memory offset n).map fun bytes => (↑n, bytes)

/-- `write(data, length, offset)`. -/
def write (b : Object) (data : Bytes) (offset : Nat) (h : Heap UInt8) :
    Option (Int × Object × Heap UInt8) :=
  if offset ≥ b.size ∨ b.memory = none then some (0, b, h)
  else
    let n := Buffer.bytesToCopy b.size data.length offset
    (h.store b.memory offset (data.take n)).map fun h =>
      (↑n, { b with length := b.length + n }, h)

/-- `flush()`. -/
def flush (b : Object) (h : Heap UInt8) : Option (Int × Object × Heap UInt8) :=
  if b.memory = none then some (-1, b, h)
  else (h.store b.memory 0 (List.replicate b.size 0)).map fun h =>
    (0, { b with length := 0 }, h)

/-- `data()`. -/
def data (b : Object) : Option Nat :=
  if b.memory = none then none else if 0 ≥ b.size then none else b.memory

/-- `length(size_t)`. -/
def setLength (b : Object) (n : Nat) : Object :=
  if n > b.size then { b with length := b.size } else { b with length := n }

/-- A socket's `read(buffer)`, to which `lwip_recv` brings `received`. -/
def receive (b : Object) (received : Bytes) (h : Heap UInt8) : Option (Object × Heap UInt8) :=
  match b.data with
  | none => some (b, h)
  | some p => (h.store (some p) 0 (received.take b.size)).map fun h =>
      (b.setLength (min received.length b.size), h)

/-- A socket's `write(buffer)`: what `lwip_send` reads. -/
def handed (b : Object) (h : Heap UInt8) : Option (Int × Bytes) :=
  match b.data with
  | none => some (-1, [])
  | some p =>
    if b.length = 0 then some (-1, [])
    else (h.load (some p) 0 b.length).map fun bytes => (0, bytes)

/-! ## What an object shows -/

/-- An object is the buffer `w`. -/
structure Shows (h : Heap UInt8) (b : Object) (w : Buffer) : Prop where
  memory : h.Holds b.memory w.memory
  size : b.size = w.size
  length : b.length = w.length

variable {h : Heap UInt8} {b : Object} {w : Buffer}

theorem Shows.memory_eq_none (hs : b.Shows h w) : b.memory = none ↔ w.memory = none := by
  have hm := hs.memory
  cases hb : b.memory with
  | none => rw [hb, Heap.holds_none_iff] at hm; simp [hm]
  | some p =>
    rw [hb, Heap.holds_some_iff] at hm
    obtain ⟨block, hblock, -⟩ := hm
    simp [hblock]

/-- What is there without a block. -/
theorem shows_empty (h : Heap UInt8) : new.Shows h Buffer.empty where
  memory := Heap.holds_none_iff.mpr rfl
  size := rfl
  length := rfl

theorem memory_of_data {p : Nat} (hb : b.data = some p) : b.memory = some p := by
  unfold Object.data at hb
  split_ifs at hb
  exact hb

theorem memoryFree_eq (b : Object) (h : Heap UInt8) : b.memoryFree h = h.free b.memory := by
  unfold memoryFree
  cases b.memory <;> rfl

theorem Shows.contents (hs : b.Shows h w) :
    b.contents h = some ((w.memory.getD []).take w.size) := by
  rw [Object.contents, Heap.load_eq hs.memory, hs.size, if_pos (by simpa using w.fits),
    List.drop_zero]

theorem Shows.data (hs : b.Shows h w) : h.Holds b.data w.data := by
  unfold Object.data Buffer.data
  rw [hs.size]
  have hm := hs.memory
  split_ifs with h1 h2 h3 h3 h3
  · rwa [← h1]
  · exact Heap.holds_none_iff.mpr rfl
  · omega
  · exact Heap.holds_none_iff.mpr rfl
  · exact hm
  · omega

/-- A copy to the front of the block. -/
theorem Shows.copyFrom (hm : h.Holds b.memory w.memory) {data : Heap UInt8 → Option Bytes}
    {bytes : Bytes} (hdata : data h = some bytes)
    (hin : bytes.length ≤ (w.memory.getD []).length) :
    ∃ h', b.copyFrom data h = some h' ∧ Heap.Trade h b.memory h' b.memory ∧
      h'.Holds b.memory (w.memory.map (overwrite bytes)) := by
  obtain ⟨h', hstore, htrade, hholds⟩ := Heap.store_spec hm 0 bytes (by simpa using hin)
  refine ⟨h', by rw [Object.copyFrom, hdata, Option.bind_some, hstore], htrade, ?_⟩
  rwa [patch_zero] at hholds

/-- A new block is filled. -/
theorem copyFrom_alloc (h : Heap UInt8) (other : Buffer) {data : Heap UInt8 → Option Bytes}
    (p size length : Nat) (hdata : data (h.alloc p (List.replicate other.size 0)) =
      some ((other.memory.getD []).take other.size)) :
    ∃ h', copyFrom ⟨some (h.place p), size, length⟩ data
        (h.alloc p (List.replicate other.size 0)) = some h' ∧
      Heap.Trade h none h' (some (h.place p)) ∧
      h'.Holds (some (h.place p)) (some ((other.memory.getD []).take other.size)) := by
  have hlen := other.length_bytes
  -- the block that is zero at first is as long as what is copied over it
  obtain ⟨h', hcopy, htrade, hholds⟩ := Shows.copyFrom (b := ⟨some (h.place p), size, length⟩)
    (w := Buffer.ofSize other.size true) (h.holds_alloc p (List.replicate other.size 0)) hdata
    (by simp [Buffer.ofSize, hlen])
  refine ⟨h', hcopy, (h.trade_alloc p _).trans htrade, ?_⟩
  simpa [Buffer.ofSize, overwrite_zeros, hlen] using hholds

/-- **Construction**: the object has a new block with what it copied, or none. -/
theorem ofData_spec (h : Heap UInt8) (other : Buffer) (data : Heap UInt8 → Option Bytes)
    (calloc : Option Nat) (hdata : ∀ h' p, Heap.Trade h none h' p →
      data h' = some ((other.memory.getD []).take other.size)) :
    ∃ b h', ofData other.size other.length data calloc h = some (b, h') ∧
      Heap.Trade h none h' b.memory ∧ b.Shows h' (other.copy calloc.isSome) := by
  cases calloc with
  | none =>
    exact ⟨new, h, rfl, Heap.Trade.refl h.holds_null, shows_empty h⟩
  | some p =>
    obtain ⟨h', hcopy, htrade, hholds⟩ := copyFrom_alloc h other p other.size other.length
      (hdata _ _ (h.trade_alloc p _))
    refine ⟨⟨some (h.place p), other.size, other.length⟩, h', ?_, htrade, ⟨hholds, rfl, rfl⟩⟩
    simp [ofData, memoryAllocate, hcopy]

theorem ofSize_spec (size : Nat) (calloc : Option Nat) (h : Heap UInt8) :
    Heap.Trade h none (ofSize size calloc h).2 (ofSize size calloc h).1.memory ∧
      (ofSize size calloc h).1.Shows (ofSize size calloc h).2
        (Buffer.ofSize size calloc.isSome) := by
  cases calloc with
  | none => exact ⟨Heap.Trade.refl h.holds_null, shows_empty h⟩
  | some p => exact ⟨h.trade_alloc p _, ⟨h.holds_alloc p _, rfl, rfl⟩⟩

/-- A block that is too small is given back first. -/
theorem assignData_of_lt (hs : b.Shows h w) {other : Buffer} (data : Heap UInt8 → Option Bytes)
    (calloc : Option Nat) (hlt : b.size < other.size)
    (hdata : ∀ h' p, Heap.Trade h b.memory h' p →
      data h' = some ((other.memory.getD []).take other.size)) :
    ∃ b' h', b.assignData other.size other.length data calloc h = some (b', h') ∧
      Heap.Trade h b.memory h' b'.memory ∧ b'.Shows h' (w.assign other calloc.isSome) := by
  have hlt' : w.size < other.size := hs.size ▸ hlt
  obtain ⟨h₁, hfree, htrade₁⟩ := Heap.free_spec hs.memory
  unfold assignData
  rw [if_pos hlt, memoryFree_eq, hfree, Option.bind_some]
  cases calloc with
  | none =>
    refine ⟨new, h₁, rfl, htrade₁, ?_⟩
    simpa [Buffer.assign, hlt'] using shows_empty h₁
  | some p =>
    obtain ⟨h', hcopy, htrade, hholds⟩ := copyFrom_alloc h₁ other p b.size b.length
      (hdata _ _ (htrade₁.trans (h₁.trade_alloc p _)))
    refine ⟨⟨some (h₁.place p), other.size, other.length⟩, h', ?_, htrade₁.trans htrade, ?_⟩
    · simp [memoryAllocate, hcopy]
    · unfold Buffer.assign
      rw [dif_pos hlt', if_pos Option.isSome_some]
      refine ⟨?_, rfl, rfl⟩
      simpa [overwrite_zeros, other.length_bytes] using hholds

theorem assignData_of_not_lt (hs : b.Shows h w) {other : Buffer}
    {data : Heap UInt8 → Option Bytes} (calloc : Option Nat) (hlt : ¬ b.size < other.size)
    (hdata : data h = some ((other.memory.getD []).take other.size)) :
    ∃ b' h', b.assignData other.size other.length data calloc h = some (b', h') ∧
      Heap.Trade h b.memory h' b'.memory ∧ b'.Shows h' (w.assign other calloc.isSome) := by
  have hlt' : ¬ w.size < other.size := hs.size ▸ hlt
  have hin : ((other.memory.getD []).take other.size).length ≤ (w.memory.getD []).length := by
    have hfits := w.fits
    rw [other.length_bytes]
    omega
  obtain ⟨h', hcopy, htrade, hholds⟩ := Shows.copyFrom hs.memory hdata hin
  refine ⟨⟨b.memory, other.size, other.length⟩, h', ?_, htrade, ?_⟩
  · rw [assignData, if_neg hlt, hcopy, Option.map_some]
  · unfold Buffer.assign
    rw [dif_neg hlt']
    exact ⟨hholds, rfl, rfl⟩

/-- **Assignment**: the object keeps its block, or gives it back and has a new one, or none. -/
theorem assignData_spec (hs : b.Shows h w) (other : Buffer) (data : Heap UInt8 → Option Bytes)
    (calloc : Option Nat) (hgrown : b.size < other.size → ∀ h' p, Heap.Trade h b.memory h' p →
      data h' = some ((other.memory.getD []).take other.size))
    (hkept : data h = some ((other.memory.getD []).take other.size)) :
    ∃ b' h', b.assignData other.size other.length data calloc h = some (b', h') ∧
      Heap.Trade h b.memory h' b'.memory ∧ b'.Shows h' (w.assign other calloc.isSome) := by
  by_cases hlt : b.size < other.size
  · exact assignData_of_lt hs data calloc hlt (hgrown hlt)
  · exact assignData_of_not_lt hs calloc hlt hkept

theorem read_eq (hs : b.Shows h w) (maxLength offset : Nat) :
    b.read maxLength offset h = some (w.read maxLength offset) := by
  unfold Object.read Buffer.read
  simp only [hs.size, hs.memory_eq_none]
  split_ifs with hout
  · rfl
  · have hin : offset + Buffer.bytesToCopy w.size maxLength offset ≤
        (w.memory.getD []).length := by
      have hfits := w.fits
      have hcopy := Buffer.bytesToCopy_fits (Nat.lt_of_not_le (not_or.mp hout).1) maxLength
      omega
    rw [Heap.load_eq hs.memory, if_pos hin, Option.map_some]

theorem write_spec (hs : b.Shows h w) (data : Bytes) (offset : Nat) :
    ∃ b' h', b.write data offset h = some ((w.write data offset).1, b', h') ∧
      Heap.Trade h b.memory h' b'.memory ∧ b'.Shows h' (w.write data offset).2 := by
  unfold Object.write Buffer.write
  simp only [hs.size, hs.memory_eq_none]
  by_cases hout : offset ≥ w.size ∨ w.memory = none
  · rw [if_pos hout, dif_pos hout]
    exact ⟨b, h, rfl, Heap.Trade.refl hs.memory, hs⟩
  · rw [if_neg hout, dif_neg hout]
    have hin : offset + (data.take (Buffer.bytesToCopy w.size data.length offset)).length ≤
        (w.memory.getD []).length := by
      have hfits := w.fits
      have hcopy := Buffer.bytesToCopy_fits (Nat.lt_of_not_le (not_or.mp hout).1) data.length
      rw [List.length_take]
      omega
    obtain ⟨h', hstore, htrade, hholds⟩ := Heap.store_spec hs.memory offset _ hin
    refine ⟨⟨b.memory, b.size, b.length + Buffer.bytesToCopy w.size data.length offset⟩, h', ?_,
      htrade, ⟨hholds, hs.size, congrArg (· + _) hs.length⟩⟩
    simp [hstore, hs.size]

theorem flush_spec (hs : b.Shows h w) :
    ∃ b' h', b.flush h = some (if w.memory = none then -1 else 0, b', h') ∧
      Heap.Trade h b.memory h' b'.memory ∧ b'.Shows h' w.flush := by
  obtain ⟨memory, size, length, fits⟩ := w
  unfold Object.flush
  simp only [hs.memory_eq_none]
  cases memory with
  | none => exact ⟨b, h, rfl, Heap.Trade.refl hs.memory, hs⟩
  | some m =>
    obtain ⟨h', hstore, htrade, hholds⟩ := Heap.store_spec hs.memory 0 (List.replicate size 0)
      (by simpa using fits)
    rw [patch_zero] at hholds
    refine ⟨⟨b.memory, b.size, 0⟩, h', ?_, htrade, ⟨hholds, hs.size, rfl⟩⟩
    have hsize : b.size = size := hs.size
    simp [hsize, hstore]

theorem Shows.setLength (hs : b.Shows h w) (n : Nat) :
    (b.setLength n).memory = b.memory ∧ (b.setLength n).Shows h (w.setLength n) := by
  have hsize := hs.size
  unfold Object.setLength
  split_ifs with hn
  · refine ⟨rfl, hs.memory, hs.size, ?_⟩
    show b.size = min n w.size
    omega
  · refine ⟨rfl, hs.memory, hs.size, ?_⟩
    show n = min n w.size
    omega

theorem receive_spec (hs : b.Shows h w) (received : Bytes) :
    ∃ b' h', b.receive received h = some (b', h') ∧
      Heap.Trade h b.memory h' b'.memory ∧ b'.Shows h' (w.receive received) := by
  have hdata := hs.data
  unfold Object.receive Buffer.receive
  cases hb : b.data with
  | none =>
    rw [hb, Heap.holds_none_iff] at hdata
    rw [hdata]
    exact ⟨b, h, rfl, Heap.Trade.refl hs.memory, hs⟩
  | some p =>
    have hp : b.memory = some p := memory_of_data hb
    rw [hb] at hdata
    obtain ⟨m, hm, -⟩ := Heap.holds_some_iff.mp hdata
    rw [hm]
    obtain ⟨h', hstore, htrade, hholds⟩ := Heap.store_spec hs.memory 0 (received.take w.size) (by
        have hfits := w.fits
        rw [List.length_take]
        omega)
    have hstored : b.Shows h' (w.store received) :=
      ⟨by rwa [patch_zero] at hholds, hs.size, hs.length⟩
    obtain ⟨hmemory, hlength⟩ := hstored.setLength (min received.length w.size)
    refine ⟨b.setLength (min received.length w.size), h', ?_, hmemory.symm ▸ htrade, hlength⟩
    rw [hp] at hstore
    simp [hs.size, hstore]

/-- **What is handed to lwIP**: the same on both levels, faults included. -/
theorem handed_eq (hs : b.Shows h w) : b.handed h = w.handed := by
  have hdata := hs.data
  unfold Object.handed Buffer.handed
  cases hb : b.data with
  | none =>
    rw [hb, Heap.holds_none_iff] at hdata
    rw [hdata]
  | some p =>
    rw [hb] at hdata
    obtain ⟨m, hm, -⟩ := Heap.holds_some_iff.mp hdata
    rw [hm, hs.length]
    simp only
    rw [Heap.load_eq hdata, hm]
    split_ifs <;> simp_all

end Object

/-! ## Any number of objects -/

/-- The objects that are alive, what they share, and what their methods have answered: a result,
and the bytes that are handed out with it. -/
structure Objects (η β : Type) where
  shared : η
  object : Nat → Option β
  answers : List (Int × Bytes)

/-- A call, with the name of its object. -/
inductive BufferCall where
  | new (b : Nat)
  | ofSize (b size : Nat) (calloc : Option Nat)
  | copy (b other : Nat) (calloc : Option Nat)
  | ofString (b : Nat) (s : Bytes) (calloc : Option Nat)
  | destroy (b : Nat)
  | assign (b other : Nat) (calloc : Option Nat)
  | assignString (b : Nat) (s : Bytes) (calloc : Option Nat)
  | read (b maxLength offset : Nat)
  | write (b : Nat) (data : Bytes) (offset : Nat)
  | flush (b : Nat)
  | setLength (b n : Nat)
  /-- a socket's `read(buffer)` that brings something -/
  | receive (b : Nat) (received : Bytes)
  /-- a socket's `write(buffer)` -/
  | send (b : Nat)

namespace Objects

variable {η β : Type}

/-- Another object under a name, or none. -/
def put (s : Objects η β) (i : Nat) (o : Option β) (shared : η) (answers : List (Int × Bytes)) :
    Objects η β where
  shared := shared
  object := Function.update s.object i o
  answers := s.answers ++ answers

/-- A constructor; there is no such call where the object is alive. -/
def construct (s : Objects η β) (i : Nat) (r : Option (β × η)) : Option (Objects η β) :=
  match s.object i with
  | some _ => some s
  | none => r.map fun (b, shared) => s.put i (some b) shared []

/-- A method of an object that is alive. -/
def method (s : Objects η β) (i : Nat) (f : β → Option (List (Int × Bytes) × β × η)) :
    Option (Objects η β) :=
  match s.object i with
  | none => some s
  | some b => (f b).map fun (answers, b, shared) => s.put i (some b) shared answers

/-- The destructor of an object that is alive. -/
def destruct (s : Objects η β) (i : Nat) (f : β → Option η) : Option (Objects η β) :=
  match s.object i with
  | none => some s
  | some b => (f b).map fun shared => s.put i none shared []

/-- A call with another object that is alive as its argument. -/
def withOther (s : Objects η β) (i : Nat) (f : β → Option (Objects η β)) : Option (Objects η β) :=
  match s.object i with
  | none => some s
  | some b => f b

end Objects

/-- Buffer objects over a heap. -/
abbrev Memory := Objects (Heap UInt8) Object

namespace Memory

/-- The program starts. -/
def init : Memory := ⟨Heap.empty, fun _ => none, []⟩

/-- The objects after a call; `none` where it faults. -/
def call (m : Memory) : BufferCall → Option Memory
  | .new b => m.construct b (some (Object.new, m.shared))
  | .ofSize b size calloc => m.construct b (some (Object.ofSize size calloc m.shared))
  | .copy b other calloc =>
    m.withOther other fun o => m.construct b (o.copy calloc m.shared)
  | .ofString b s calloc => m.construct b (Object.ofString s calloc m.shared)
  | .destroy b => m.destruct b fun x => x.memoryFree m.shared
  | .assign b other calloc =>
    m.withOther other fun o => m.method b fun x =>
      (x.assign o calloc m.shared).map fun r => ([], r)
  | .assignString b s calloc =>
    m.method b fun x => (x.assignString s calloc m.shared).map fun r => ([], r)
  | .read b maxLength offset =>
    m.method b fun x => (x.read maxLength offset m.shared).map fun a => ([a], x, m.shared)
  | .write b data offset =>
    m.method b fun x => (x.write data offset m.shared).map fun (rc, r) => ([(rc, [])], r)
  | .flush b => m.method b fun x => (x.flush m.shared).map fun (rc, r) => ([(rc, [])], r)
  | .setLength b n => m.method b fun x => some ([], x.setLength n, m.shared)
  | .receive b received =>
    m.method b fun x => (x.receive received m.shared).map fun r => ([], r)
  | .send b => m.method b fun x => (x.handed m.shared).map fun a => ([a], x, m.shared)

/-- Nothing comes after a fault. -/
def step (m : Option Memory) (c : BufferCall) : Option Memory := m.bind fun m => m.call c

/-- The block of an object. -/
def held (m : Memory) (i : Nat) : Option Nat := (m.object i).bind (·.memory)

end Memory

/-- The same with values, which share nothing. -/
abbrev Values := Objects Unit Buffer

namespace Values

/-- The program starts, with no object. -/
def init : Values := ⟨(), fun _ => none, []⟩

/-- A call, on objects that are values. -/
def call (v : Values) : BufferCall → Option Values
  | .new b => v.construct b (some (Buffer.empty, ()))
  | .ofSize b size calloc => v.construct b (some (Buffer.ofSize size calloc.isSome, ()))
  | .copy b other calloc =>
    v.withOther other fun w => v.construct b (some (w.copy calloc.isSome, ()))
  | .ofString b s calloc => v.construct b (some ((Buffer.holding s).copy calloc.isSome, ()))
  | .destroy b => v.destruct b fun _ => some ()
  | .assign b other calloc =>
    v.withOther other fun w => v.method b fun x => some ([], x.assign w calloc.isSome, ())
  | .assignString b s calloc =>
    v.method b fun x => some ([], x.assign (Buffer.holding s) calloc.isSome, ())
  | .read b maxLength offset => v.method b fun x => some ([x.read maxLength offset], x, ())
  | .write b data offset =>
    v.method b fun x => some ([((x.write data offset).1, [])], (x.write data offset).2, ())
  | .flush b =>
    v.method b fun x => some ([(if x.memory = none then -1 else 0, [])], x.flush, ())
  | .setLength b n => v.method b fun x => some ([], x.setLength n, ())
  | .receive b received => v.method b fun x => some ([], x.receive received, ())
  | .send b => v.method b fun x => x.handed.map fun a => ([a], x, ())

/-- The same, after a fault too. -/
def step (v : Option Values) (c : BufferCall) : Option Values := v.bind fun v => v.call c

end Values

/-! ## The two levels agree -/

/-- Each object is its value, and no two share a block. -/
structure Refines (m : Memory) (v : Values) : Prop where
  owned : Exact m.shared.InUse m.held
  shows : ∀ i, Option.Rel (Object.Shows m.shared) (m.object i) (v.object i)
  answers : m.answers = v.answers

namespace Refines

theorem init : Refines Memory.init Values.init where
  owned := Exact.empty (fun _ h => by simp [Heap.InUse, Memory.init, Heap.empty] at h)
    fun _ => rfl
  shows _ := Option.Rel.none
  answers := rfl

variable {m : Memory} {v : Values}

/-- Under each name there is nothing, or an object and its value. -/
theorem at_cases (hr : Refines m v) (i : Nat) :
    m.object i = none ∧ v.object i = none ∨
      ∃ b w, m.object i = some b ∧ v.object i = some w ∧ b.Shows m.shared w := by
  have hs := hr.shows i
  generalize m.object i = o at hs ⊢
  generalize v.object i = w at hs ⊢
  cases hs with
  | none => exact Or.inl ⟨rfl, rfl⟩
  | some hs => exact Or.inr ⟨_, _, rfl, rfl, hs⟩

/-- Objects under different names have different blocks. -/
theorem ne_memory (hr : Refines m v) {i j : Nat} {b o : Object} (hi : m.object i = some b)
    (hj : m.object j = some o) (hne : i ≠ j) (q : Nat) (hq : o.memory = some q) :
    b.memory ≠ some q := fun hb =>
  hne (hr.owned.apart (r := q) (by rw [Memory.held, hi, Option.bind_some, hb])
    (by rw [Memory.held, hj, Option.bind_some, hq]))

/-- **One object changes**, by a trade on the heap, and the others are what they were. -/
theorem put (hr : Refines m v) {i : Nat} {o : Option Object} {w : Option Buffer}
    {h : Heap UInt8} {answers : List (Int × Bytes)}
    (htrade : Heap.Trade m.shared (m.held i) h (o.bind (·.memory)))
    (hs : Option.Rel (Object.Shows h) o w) :
    Refines (m.put i o h answers) (v.put i w () answers) where
  owned := by
    have hself : o.bind (·.memory) = Memory.held (m.put i o h answers) i := by
      simp [Memory.held, Objects.put]
    rw [hself] at htrade
    refine htrade.exact hr.owned fun j hj => ?_
    simp [Memory.held, Objects.put, Function.update_of_ne hj]
  shows j := by
    by_cases hj : j = i
    · subst hj
      simpa [Objects.put] using hs
    · simp only [Objects.put, Function.update_of_ne hj]
      rcases hr.at_cases j with ⟨hm, hv⟩ | ⟨b, w', hm, hv, hshows⟩
      · rw [hm, hv]
        exact Option.Rel.none
      · rw [hm, hv]
        refine Option.Rel.some ⟨htrade.holds hshows.memory fun q hq hi => hj ?_, hshows.size,
          hshows.length⟩
        exact hr.owned.apart (r := q) (by rw [Memory.held, hm, Option.bind_some, hq]) hi
  answers := congrArg (· ++ answers) hr.answers

theorem construct (hr : Refines m v) (i : Nat) {r : Option (Object × Heap UInt8)} {w : Buffer}
    (hnew : ∃ b h, r = some (b, h) ∧ Heap.Trade m.shared none h b.memory ∧ b.Shows h w) :
    Option.Rel Refines (m.construct i r) (v.construct i (some (w, ()))) := by
  unfold Objects.construct
  rcases hr.at_cases i with ⟨hm, hv⟩ | ⟨b, w', hm, hv, -⟩
  · obtain ⟨b, h, rfl, htrade, hs⟩ := hnew
    rw [hm, hv]
    refine Option.Rel.some (hr.put ?_ (Option.Rel.some hs))
    rwa [Memory.held, hm, Option.bind_none, Option.bind_some]
  · rw [hm, hv]
    exact Option.Rel.some hr

/-- A method that answers the same, by a trade of the object's block, and leaves what the value
becomes; or both fault. -/
theorem method (hr : Refines m v) (i : Nat)
    {f : Object → Option (List (Int × Bytes) × Object × Heap UInt8)}
    {g : Buffer → Option (List (Int × Bytes) × Buffer × Unit)}
    (hf : ∀ b w, m.object i = some b → b.Shows m.shared w →
      Option.Rel (fun x y => x.1 = y.1 ∧ Heap.Trade m.shared b.memory x.2.2 x.2.1.memory ∧
        x.2.1.Shows x.2.2 y.2.1) (f b) (g w)) :
    Option.Rel Refines (m.method i f) (v.method i g) := by
  unfold Objects.method
  rcases hr.at_cases i with ⟨hm, hv⟩ | ⟨b, w, hm, hv, hs⟩
  · rw [hm, hv]
    exact Option.Rel.some hr
  · rw [hm, hv]
    have hagree := hf b w hm hs
    simp only
    generalize f b = x at hagree ⊢
    generalize g w = y at hagree ⊢
    cases hagree with
    | none => exact Option.Rel.none
    | some hxy =>
      obtain ⟨hanswers, htrade, hshows⟩ := hxy
      rw [Option.map_some, Option.map_some, hanswers]
      refine Option.Rel.some (hr.put ?_ (Option.Rel.some hshows))
      rwa [Memory.held, hm, Option.bind_some, Option.bind_some]

theorem destruct (hr : Refines m v) (i : Nat) :
    Option.Rel Refines (m.destruct i fun x => x.memoryFree m.shared)
      (v.destruct i fun _ => some ()) := by
  unfold Objects.destruct
  rcases hr.at_cases i with ⟨hm, hv⟩ | ⟨b, w, hm, hv, hs⟩
  · rw [hm, hv]
    exact Option.Rel.some hr
  · obtain ⟨h, hfree, htrade⟩ := Heap.free_spec hs.memory
    rw [hm, hv]
    simp only [Object.memoryFree_eq, hfree, Option.map_some]
    refine Option.Rel.some (hr.put ?_ Option.Rel.none)
    rwa [Memory.held, hm, Option.bind_some, Option.bind_none]

theorem withOther (hr : Refines m v) (i : Nat) {f : Object → Option Memory}
    {g : Buffer → Option Values}
    (hf : ∀ o w, m.object i = some o → o.Shows m.shared w → Option.Rel Refines (f o) (g w)) :
    Option.Rel Refines (m.withOther i f) (v.withOther i g) := by
  unfold Objects.withOther
  rcases hr.at_cases i with ⟨hm, hv⟩ | ⟨o, w, hm, hv, hs⟩
  · rw [hm, hv]
    exact Option.Rel.some hr
  · rw [hm, hv]
    exact hf o w hm hs

/-- **One call**: it faults on both levels or on none, and they agree after it. -/
theorem call (hr : Refines m v) (c : BufferCall) :
    Option.Rel Refines (m.call c) (v.call c) := by
  cases c with
  | new b =>
    exact hr.construct b
      ⟨_, _, rfl, Heap.Trade.refl m.shared.holds_null, Object.shows_empty m.shared⟩
  | ofSize b size calloc =>
    obtain ⟨htrade, hs⟩ := Object.ofSize_spec size calloc m.shared
    exact hr.construct b ⟨_, _, rfl, htrade, hs⟩
  | copy b other calloc =>
    refine hr.withOther other fun o w _ hs => hr.construct b ?_
    -- no trade that begins with nothing touches the block of `other`
    have hspec := Object.ofData_spec m.shared w o.contents calloc fun h p htrade =>
      Object.Shows.contents ⟨htrade.holds hs.memory (by simp), hs.size, hs.length⟩
    rwa [← hs.size, ← hs.length] at hspec
  | ofString b s calloc =>
    refine hr.construct b ?_
    exact Object.ofData_spec m.shared (Buffer.holding s) (fun _ => some s) calloc fun _ _ _ => by
      simp [Buffer.holding]
  | destroy b => exact hr.destruct b
  | assign b other calloc =>
    refine hr.withOther other fun o w ho hs => hr.method b fun x w' hx hs' => ?_
    have hspec := Object.assignData_spec hs' w o.contents calloc
      (fun hlt h p htrade => ?_) hs.contents
    · rw [← hs.size, ← hs.length] at hspec
      obtain ⟨x', h', hassign, htrade, hshows⟩ := hspec
      simp only [Object.assign, hassign, Option.map_some]
      exact Option.Rel.some ⟨rfl, htrade, hshows⟩
    · -- an object is not smaller than itself, so `other` is another one
      have hne : b ≠ other := by
        rintro rfl
        rw [hx, Option.some.injEq] at ho
        rw [ho, hs.size] at hlt
        exact Nat.lt_irrefl _ hlt
      exact Object.Shows.contents
        ⟨htrade.holds hs.memory (hr.ne_memory hx ho hne), hs.size, hs.length⟩
  | assignString b s calloc =>
    refine hr.method b fun x w hx hs => ?_
    obtain ⟨x', h', hassign, htrade, hshows⟩ := Object.assignData_spec hs (Buffer.holding s)
      (fun _ => some s) calloc (by simp [Buffer.holding]) (by simp [Buffer.holding])
    have hassign' : x.assignString s calloc m.shared = some (x', h') := hassign
    rw [hassign', Option.map_some]
    exact Option.Rel.some ⟨rfl, htrade, hshows⟩
  | read b maxLength offset =>
    refine hr.method b fun x w hx hs => ?_
    rw [Object.read_eq hs, Option.map_some]
    exact Option.Rel.some ⟨rfl, Heap.Trade.refl hs.memory, hs⟩
  | write b data offset =>
    refine hr.method b fun x w hx hs => ?_
    obtain ⟨x', h', hwrite, htrade, hshows⟩ := Object.write_spec hs data offset
    rw [hwrite, Option.map_some]
    exact Option.Rel.some ⟨rfl, htrade, hshows⟩
  | flush b =>
    refine hr.method b fun x w hx hs => ?_
    obtain ⟨x', h', hflush, htrade, hshows⟩ := Object.flush_spec hs
    rw [hflush, Option.map_some]
    exact Option.Rel.some ⟨rfl, htrade, hshows⟩
  | setLength b n =>
    refine hr.method b fun x w hx hs => ?_
    obtain ⟨hmemory, hshows⟩ := hs.setLength n
    exact Option.Rel.some ⟨rfl, hmemory.symm ▸ Heap.Trade.refl hs.memory, hshows⟩
  | receive b received =>
    refine hr.method b fun x w hx hs => ?_
    obtain ⟨x', h', hreceive, htrade, hshows⟩ := Object.receive_spec hs received
    rw [hreceive, Option.map_some]
    exact Option.Rel.some ⟨rfl, htrade, hshows⟩
  | send b =>
    refine hr.method b fun x w hx hs => ?_
    rw [Object.handed_eq hs]
    cases w.handed with
    | none => exact Option.Rel.none
    | some a => exact Option.Rel.some ⟨rfl, Heap.Trade.refl hs.memory, hs⟩

end Refines

/-- Values fault only where a socket would read more than there is. -/
theorem Values.send_of_call_eq_none {v : Values} {c : BufferCall} (h : v.call c = none) :
    ∃ b w, c = .send b ∧ v.object b = some w ∧ w.handed = none := by
  cases c with
  | send b =>
    simp only [call, Objects.method] at h
    cases hb : v.object b with
    | none => simp [hb] at h
    | some w =>
      rw [hb] at h
      exact ⟨b, w, rfl, hb, by simpa using h⟩
  | _ =>
    simp only [call, Objects.construct, Objects.method, Objects.destruct, Objects.withOther] at h
    repeat' split at h
    all_goals simp at h

theorem Buffer.lt_length_of_handed_eq_none {w : Buffer} (h : w.handed = none) :
    ∃ block, w.memory = some block ∧ block.length < w.length := by
  unfold handed at h
  cases hd : w.data with
  | none => simp [hd] at h
  | some block =>
    simp only [hd] at h
    split_ifs at h with h0 hle
    exact ⟨block, memory_of_data hd, by omega⟩

/-- **Buffers are values.** Over any calls on any number of objects, wherever `std::calloc` puts
their blocks and whenever it finds no memory: a call faults exactly where it does with values, and
otherwise every answer is the same, each object shows its value, and the blocks in use and the
objects that have one are one to one. The only fault there is is a socket that reads more than the
block of its buffer. -/
theorem Memory.refines (calls : List BufferCall) :
    Option.Rel Refines (run Memory.step (some Memory.init) calls)
        (run Values.step (some Values.init) calls) ∧
      ∀ m c, run Memory.step (some Memory.init) calls = some m → Memory.call m c = none →
        ∃ b x p block, c = .send b ∧ m.object b = some x ∧ x.memory = some p ∧
          m.shared.block p = some block ∧ block.length < x.length := by
  have hrel : Option.Rel Refines (run Memory.step (some Memory.init) calls)
      (run Values.step (some Values.init) calls) := by
    refine run_rel (Option.Rel Refines) (fun m v c h => ?_) calls (Option.Rel.some Refines.init)
    cases h with
    | none => exact Option.Rel.none
    | some hr => exact hr.call c
  refine ⟨hrel, fun m c hm hfault => ?_⟩
  rw [hm] at hrel
  generalize run Values.step (some Values.init) calls = r at hrel
  obtain ⟨hr⟩ := hrel
  have hcall := hr.call c
  rw [hfault] at hcall
  generalize hv : Values.call _ c = r' at hcall
  cases hcall
  obtain ⟨b, w, rfl, hw, hhanded⟩ := Values.send_of_call_eq_none hv
  obtain ⟨block, hblock, hlt⟩ := Buffer.lt_length_of_handed_eq_none hhanded
  rcases hr.at_cases b with ⟨-, hnone⟩ | ⟨x, w', hx, hw', hs⟩
  · rw [hw] at hnone
    cases hnone
  · obtain rfl := Option.some.inj (hw'.symm.trans hw)
    have hmemory := hs.memory
    cases hp : x.memory with
    | none =>
      rw [hs.memory_eq_none.mp hp] at hblock
      cases hblock
    | some p =>
      rw [hp, Heap.holds_some_iff] at hmemory
      obtain ⟨block', hblock', hheap⟩ := hmemory
      obtain rfl := Option.some.inj (hblock'.symm.trans hblock)
      exact ⟨b, x, p, block', rfl, hx, hp, hheap, hs.length ▸ hlt⟩

end Thethings.Http
