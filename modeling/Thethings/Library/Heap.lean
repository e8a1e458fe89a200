import Mathlib.Data.List.TakeDrop
import Mathlib.Logic.Function.Basic
import Thethings.Library.Holding

/-!
# A heap of blocks

What is behind `calloc`, `free` and `memcpy`. A pointer is `none` for `NULL` or the name of a block;
where a new block goes is up to the allocator, which may use a name again once its block is given
back. `none` as a result is a fault: a block that is not there is given back or touched, or a copy
does not stay inside of a block.

Choices:

* A name is a number without a meaning as an address: two blocks are never next to each other, so a
  copy that leaves its block does not land in another one, it faults.
* A block is the list of what is in it. Where a new one goes is an argument; if there is a block
  already, it goes above all names that were used. Whether there is memory is the caller's question.
* To give `NULL` back, and to copy nothing from `NULL` or to it, is no fault.

`Trade h p h' p'` is what one holder may do to the heap that others use as well: what it held is
kept or given back, what it holds then is what it had or was free, and no other block is touched. It
is stated of the two ends only, so it holds of any number of operations in a row.

Results:

* `trade_alloc`, `free_spec`, `store_spec`: each operation is a trade, and `Trade.trans` makes one
  of two.
* `Trade.holds`: a trade leaves what others hold as it is.
* `Trade.exact`: where blocks and holders are one to one they stay so.

Out of scope: memory that is not initialised (a new block has contents), `realloc`, pointers into a
block other than by an offset.
-/

namespace Thethings.Library

open Holding

universe u v

variable {α : Type u}

/-- `new` is copied into a block, `offset` behind its front. -/
def patch (offset : Nat) (new block : List α) : List α :=
  block.take offset ++ new ++ block.drop (offset + new.length)

theorem length_patch {offset : Nat} {new block : List α}
    (h : offset + new.length ≤ block.length) : (patch offset new block).length = block.length := by
  simp only [patch, List.length_append, List.length_take, List.length_drop]
  omega

/-- The blocks by their addresses, and an address above all that were used. -/
structure Heap (α : Type u) where
  block : Nat → Option (List α)
  top : Nat
  above : ∀ p, top ≤ p → block p = none

namespace Heap

/-- No block is there. -/
def empty : Heap α := ⟨fun _ => none, 0, fun _ _ => rfl⟩

/-- There is a block at this address. -/
def InUse (h : Heap α) (p : Nat) : Prop := (h.block p).isSome

/-- Where a block goes that the allocator would have at `p`. -/
def place (h : Heap α) (p : Nat) : Nat := if (h.block p).isSome then h.top else p

/-- A new block. -/
def alloc (h : Heap α) (p : Nat) (block : List α) : Heap α where
  block := Function.update h.block (h.place p) (some block)
  top := max h.top (h.place p + 1)
  above q hq := by
    rw [Function.update_of_ne (by omega)]
    exact h.above q (by omega)

/-- A block is given back. -/
def giveBack (h : Heap α) (p : Nat) : Heap α where
  block := Function.update h.block p none
  top := h.top
  above q hq := by
    rw [Function.update_apply]
    split_ifs
    · rfl
    · exact h.above q hq

/-- A block that is there gets other contents. -/
def put (h : Heap α) (p : Nat) (block : List α) : Heap α where
  block := Function.update h.block p ((h.block p).map fun _ => block)
  top := h.top
  above q hq := by
    rw [Function.update_apply]
    split_ifs with hqp
    · rw [← hqp, h.above q hq, Option.map_none]
    · exact h.above q hq

/-- `free(p)`. -/
def free (h : Heap α) : Option Nat → Option (Heap α)
  | none => some h
  | some p => (h.block p).map fun _ => h.giveBack p

/-- `n` bytes are read, `offset` behind a pointer. -/
def load (h : Heap α) (p : Option Nat) (offset n : Nat) : Option (List α) :=
  match p with
  | none => if offset + n = 0 then some [] else none
  | some p => (h.block p).bind fun block =>
      if offset + n ≤ block.length then some ((block.drop offset).take n) else none

/-- Bytes are written, `offset` behind a pointer. -/
def store (h : Heap α) (p : Option Nat) (offset : Nat) (new : List α) : Option (Heap α) :=
  match p with
  | none => if offset + new.length = 0 then some h else none
  | some p => (h.block p).bind fun block =>
      if offset + new.length ≤ block.length then some (h.put p (patch offset new block)) else none

/-- A pointer and what is behind it: nothing behind `NULL`, and otherwise a block that is there. -/
def Holds (h : Heap α) (p : Option Nat) (content : Option (List α)) : Prop :=
  p.map h.block = content.map some

variable {h h' h'' : Heap α} {p p' p'' : Option Nat} {content : Option (List α)}

theorem holds_none_iff : h.Holds none content ↔ content = none := by
  cases content <;> simp [Holds]

theorem holds_null (h : Heap α) : h.Holds none none := holds_none_iff.mpr rfl

theorem holds_some_iff {q : Nat} :
    h.Holds (some q) content ↔ ∃ block, content = some block ∧ h.block q = some block := by
  cases content <;> simp [Holds]

theorem place_free (h : Heap α) (p : Nat) : h.block (h.place p) = none := by
  unfold place
  split_ifs with hp
  · exact h.above _ (Nat.le_refl _)
  · simpa using hp

/-! ## Trades -/

/-- From `h` to `h'` a holder trades `p` for `p'`. -/
structure Trade (h : Heap α) (p : Option Nat) (h' : Heap α) (p' : Option Nat) : Prop where
  elsewhere : ∀ q, p ≠ some q → p' ≠ some q → h'.block q = h.block q
  got : ∀ q, p' = some q → h'.InUse q
  given : ∀ q, p = some q → p' ≠ some q → ¬ h'.InUse q
  free : ∀ q, p' = some q → p ≠ some q → ¬ h.InUse q

theorem Trade.refl (hp : h.Holds p content) : Trade h p h p where
  elsewhere _ _ _ := rfl
  got q hq := by
    rw [hq, holds_some_iff] at hp
    obtain ⟨block, -, hblock⟩ := hp
    simp [InUse, hblock]
  given _ hq hne := absurd hq hne
  free _ hq hne := absurd hq hne

/-- **Trades compose.** -/
theorem Trade.trans (h₁ : Trade h p h' p') (h₂ : Trade h' p' h'' p'') : Trade h p h'' p'' where
  elsewhere q hq hq'' := by
    by_cases hq' : p' = some q
    · -- a block that is held only in between was free and is so again
      have hbefore := h₁.free q hq' hq
      have hafter := h₂.given q hq' hq''
      simp only [InUse, Option.not_isSome_iff_eq_none] at hbefore hafter
      rw [hbefore, hafter]
    · rw [h₂.elsewhere q hq' hq'', h₁.elsewhere q hq hq']
  got := h₂.got
  given q hq hq'' := by
    by_cases hq' : p' = some q
    · exact h₂.given q hq' hq''
    · rw [InUse, h₂.elsewhere q hq' hq'']
      exact h₁.given q hq hq'
  free q hq'' hq := by
    by_cases hq' : p' = some q
    · exact h₁.free q hq' hq
    · rw [InUse, ← h₁.elsewhere q hq hq']
      exact h₂.free q hq'' hq'

/-- **What others hold stays as it is.** -/
theorem Trade.holds (ht : Trade h p h' p') {o : Option Nat} (ho : h.Holds o content)
    (hne : ∀ q, o = some q → p ≠ some q) : h'.Holds o content := by
  cases o with
  | none => exact ho
  | some q =>
    obtain ⟨block, hcontent, hblock⟩ := holds_some_iff.mp ho
    have hp := hne q rfl
    have hp' : p' ≠ some q := fun hq => ht.free q hq hp (by simp [InUse, hblock])
    exact holds_some_iff.mpr ⟨block, hcontent, by rw [ht.elsewhere q hp hp', hblock]⟩

/-- **Blocks and holders stay one to one.** -/
theorem Trade.exact {ι : Type v} {held held' : ι → Option Nat} {i : ι}
    (ht : Trade h (held i) h' (held' i)) (hexact : Exact h.InUse held)
    (hother : ∀ j, j ≠ i → held' j = held j) : Exact h'.InUse held' :=
  hexact.exchange hother (fun q hq hq' => by rw [InUse, InUse, ht.elsewhere q hq hq'])
    ht.got ht.given ht.free

/-! ## The operations -/

theorem trade_alloc (h : Heap α) (p : Nat) (block : List α) :
    Trade h none (h.alloc p block) (some (h.place p)) where
  elsewhere q _ hq := Function.update_of_ne (fun he => hq (congrArg some he.symm)) _ _
  got q hq := by
    obtain rfl := Option.some.inj hq
    simp [InUse, alloc]
  given q hq := absurd hq (by simp)
  free q hq _ := by
    obtain rfl := Option.some.inj hq
    simp [InUse, place_free]

theorem holds_alloc (h : Heap α) (p : Nat) (block : List α) :
    (h.alloc p block).Holds (some (h.place p)) (some block) :=
  holds_some_iff.mpr ⟨block, rfl, by simp [alloc]⟩

/-- `free` gives back what a pointer holds. -/
theorem free_spec (hp : h.Holds p content) : ∃ h', h.free p = some h' ∧ Trade h p h' none := by
  cases p with
  | none => exact ⟨h, rfl, Trade.refl hp⟩
  | some q =>
    obtain ⟨block, -, hblock⟩ := holds_some_iff.mp hp
    refine ⟨h.giveBack q, by rw [free, hblock, Option.map_some], ?_⟩
    constructor
    · intro r hr _
      exact Function.update_of_ne (fun he => hr (congrArg some he.symm)) _ _
    · intro r hr
      exact absurd hr (by simp)
    · intro r hr _
      obtain rfl := Option.some.inj hr
      simp [InUse, giveBack]
    · intro r hr
      exact absurd hr (by simp)

/-- **A read stays inside or faults.** -/
theorem load_eq (hp : h.Holds p content) (offset n : Nat) :
    h.load p offset n = if offset + n ≤ (content.getD []).length then
      some (((content.getD []).drop offset).take n) else none := by
  cases p with
  | none =>
    obtain rfl := holds_none_iff.mp hp
    simp [load]
  | some q =>
    obtain ⟨block, rfl, hblock⟩ := holds_some_iff.mp hp
    simp [load, hblock]

/-- A write inside of a block changes that block only. -/
theorem store_spec (hp : h.Holds p content) (offset : Nat) (new : List α)
    (hin : offset + new.length ≤ (content.getD []).length) :
    ∃ h', h.store p offset new = some h' ∧ Trade h p h' p ∧
      h'.Holds p (content.map (patch offset new)) := by
  cases p with
  | none =>
    obtain rfl := holds_none_iff.mp hp
    refine ⟨h, ?_, Trade.refl hp, hp⟩
    rw [store, if_pos (by simpa using hin)]
  | some q =>
    obtain ⟨block, rfl, hblock⟩ := holds_some_iff.mp hp
    have hput : (h.put q (patch offset new block)).Holds (some q)
        (some (patch offset new block)) := holds_some_iff.mpr ⟨_, rfl, by simp [put, hblock]⟩
    refine ⟨h.put q (patch offset new block), ?_, ?_, hput⟩
    · rw [store, hblock, Option.bind_some, if_pos (by simpa using hin)]
    · constructor
      · intro r hr _
        exact Function.update_of_ne (fun he => hr (congrArg some he.symm)) _ _
      · exact (Trade.refl hput).got
      · intro r hr hne
        exact absurd hr hne
      · intro r hr hne
        exact absurd hr hne

end Heap

end Thethings.Library
