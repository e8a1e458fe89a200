import Thethings.Library.Bytes

/-!
# The receive buffer

Model of `network::Buffer` (`NetworkAPI/buffer.cpp` l.29-204), as far as the client uses it: the
constructor with a size, the assignment, `flush`, `data` and `length`. The other methods, and what a
`Buffer` is in memory, are in `Memory`.

Choices:

* `_memory` is `none` for `NULL`, and otherwise the bytes of the allocated block; the field `fits`
  says that the block holds the `_size` bytes the methods use. A block may be longer: an assignment
  of a smaller buffer keeps the block and lowers `_size`.
* `std::calloc` succeeds or not as the environment decides. Where it fails, `_memory_allocate`
  leaves an object with no block and no size.
* An assignment that fails to allocate returns with the object empty, as the source does, and one
  that succeeds copies `other`'s `_size` bytes whatever its `_length` is.
* `store` is what a receive into `data()` leaves behind: up to `_size` bytes at the front of the
  block, the rest as it was.
* `text` is the conversion `string((char *)buffer.data())`, which reads up to the first NUL wherever
  that is: `past` stands for the memory behind the block. It is a parameter, so what depends on it
  shows.

Results:

* `data_store_ofSize`, `flush_store_ofSize`: what a clean buffer holds after a receive, and that a
  flush makes it clean again.
* `terminated_store_iff`: a NUL stands inside the buffer unless the receive filled it without one.
-/

namespace Thethings.Http

open Thethings.Library

/-- The class `Buffer`: its block, `none` where it has none, `_size` and `_length`. -/
structure Buffer where
  memory : Option Bytes
  size : Nat
  length : Nat
  fits : size ≤ (memory.getD []).length

namespace Buffer

/-- `Buffer()`. -/
def empty : Buffer := ⟨none, 0, 0, Nat.zero_le _⟩

/-- `Buffer(size)`. -/
def ofSize (size : Nat) (calloc : Bool) : Buffer :=
  if calloc then ⟨some (List.replicate size 0), size, 0, by simp⟩ else empty

/-- A block of the size of another buffer holds its bytes. -/
theorem grown_fits (other : Buffer) :
    other.size ≤ ((some (overwrite ((other.memory.getD []).take other.size)
      (List.replicate other.size 0))).getD []).length := by
  have hfits := other.fits
  rw [Option.getD_some, overwrite, List.length_append, List.length_take]
  omega

/-- A block that is large enough still is when bytes are copied to its front. -/
theorem kept_fits {b other : Buffer} (h : ¬ b.size < other.size) :
    other.size ≤ ((b.memory.map
      (overwrite ((other.memory.getD []).take other.size))).getD []).length := by
  have hfits := other.fits
  have hb := b.fits
  cases hm : b.memory with
  | none =>
    rw [hm, Option.getD_none, List.length_nil] at hb
    omega
  | some m =>
    rw [Option.map_some, Option.getD_some, overwrite, List.length_append, List.length_take]
    omega

/-- `operator=(const Buffer &)`: the block is replaced when it is too small, and `other`'s bytes are
copied to its front. -/
def assign (b other : Buffer) (calloc : Bool) : Buffer :=
  if hlt : b.size < other.size then
    if calloc then
      ⟨some (overwrite ((other.memory.getD []).take other.size) (List.replicate other.size 0)),
        other.size, other.length, other.grown_fits⟩
    else empty
  else
    ⟨b.memory.map (overwrite ((other.memory.getD []).take other.size)), other.size, other.length,
      kept_fits hlt⟩

/-- `flush()`. -/
def flush (b : Buffer) : Buffer :=
  match b with
  | ⟨none, size, length, fits⟩ => ⟨none, size, length, fits⟩
  | ⟨some m, size, _, fits⟩ => ⟨some (overwrite (List.replicate size 0) m), size, 0, by
      simp only [Option.getD_some] at fits
      rw [Option.getD_some, length_overwrite (by simpa using fits)]
      exact fits⟩

/-- `data()`: the block, `none` for `NULL`. -/
def data (b : Buffer) : Option Bytes := if 0 < b.size then b.memory else none

/-- `length(size_t)`. -/
def setLength (b : Buffer) (n : Nat) : Buffer := { b with length := min n b.size }

/-- What a receive of at most `size` bytes into `data()` leaves behind. -/
def store (b : Buffer) (received : Bytes) : Buffer where
  memory := b.memory.map (overwrite (received.take b.size))
  size := b.size
  length := b.length
  fits := by
    have hb := b.fits
    cases hm : b.memory with
    | none => simpa [hm] using hb
    | some m =>
      rw [hm, Option.getD_some] at hb
      rw [Option.map_some, Option.getD_some, length_overwrite]
      · exact hb
      · rw [List.length_take]; omega

/-- `string((char *)data())`; `none` where `data()` is `NULL`, which has no text. -/
def text (b : Buffer) (past : Bytes) : Option Bytes := b.data.map fun m => cstr (m ++ past)

/-- A NUL stands below `size()`. -/
def Terminated (b : Buffer) : Prop := ∃ m, b.data = some m ∧ 0 ∈ m.take b.size

/-! ## Lemmas -/

@[simp] theorem store_size (b : Buffer) (r : Bytes) : (b.store r).size = b.size := rfl
@[simp] theorem setLength_text (b : Buffer) (n : Nat) (past : Bytes) :
    (b.setLength n).text past = b.text past := rfl

/-- The constructor's assignment of a fresh buffer to an empty one. -/
theorem assign_ofSize {size : Nat} (h : 0 < size) :
    assign empty (ofSize size true) true = ofSize size true := by
  simp [assign, empty, ofSize, h, overwrite_zeros]

theorem data_ofSize {size : Nat} (h : 0 < size) :
    (ofSize size true).data = some (List.replicate size 0) := if_pos h

/-- A receive into a clean buffer leaves the received bytes and zeros behind them. -/
theorem data_store_ofSize {size : Nat} (h : 0 < size) (r : Bytes) :
    ((ofSize size true).store r).data =
      some (r.take size ++ List.replicate (size - (r.take size).length) 0) := by
  have hs : 0 < ((ofSize size true).store r).size := h
  rw [data, if_pos hs]
  simp only [store, ofSize, if_true, Option.map_some, overwrite_zeros]

/-- **Flushing undoes a receive.** -/
theorem flush_store_ofSize (size : Nat) (r : Bytes) (n : Nat) :
    (((ofSize size true).store r).setLength n).flush = ofSize size true := by
  have hlen : (overwrite (r.take size) (List.replicate size (0 : UInt8))).length = size := by
    rw [length_overwrite, List.length_replicate]
    rw [List.length_take, List.length_replicate]
    exact Nat.min_le_left _ _
  simp only [ofSize, if_true, store, setLength, flush, Option.map_some, Buffer.mk.injEq,
    Option.some.injEq, and_true]
  rw [overwrite, List.drop_eq_nil_of_le (by simp [hlen]), List.append_nil]

/-- **When the conversion stays inside**: after a receive into a clean buffer there is a NUL below
`size()` unless the receive filled the buffer without one. -/
theorem terminated_store_iff {size : Nat} (h : 0 < size) (r : Bytes) :
    ((ofSize size true).store r).Terminated ↔ r.length < size ∨ 0 ∈ r.take size := by
  have hlen : (r.take size ++ List.replicate (size - (r.take size).length) (0 : UInt8)).length
      = size := by
    simp only [List.length_append, List.length_replicate, List.length_take]
    omega
  unfold Terminated
  simp only [data_store_ofSize h, Option.some.injEq, exists_eq_left', store_size]
  rw [show (ofSize size true).size = size from rfl, List.take_of_length_le (le_of_eq hlen),
    List.mem_append, List.mem_replicate, List.length_take]
  constructor
  · rintro (hm | ⟨hne, -⟩)
    · exact Or.inr hm
    · exact Or.inl (by omega)
  · rintro (hlt | hm)
    · exact Or.inr ⟨by omega, rfl⟩
    · exact Or.inl hm

end Buffer

end Thethings.Http
