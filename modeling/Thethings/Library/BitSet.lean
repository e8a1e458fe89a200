import Mathlib.Tactic.SplitIfs

/-!
# Sets of small numbers in bytes

A set of numbers as a block of bytes, eight members to a byte: `n` is bit `n % 8` of byte `n / 8`.
This is how a C library lays out an `fd_set`.

Choices:

* A set is the list of its bytes, which fixes how many numbers it has room for: a number with no
  byte of its own is no member, and inserting it changes nothing. Whoever writes such a number in C
  writes behind the block, so a caller that models C checks `n / 8 < bytes.length` first.
* A member is added with a mask of one bit, and looked for with the same mask, as the macros of the
  C library do it; `has_eq` turns the mask into the bit.

Results:

* `has_insert`: a number that fits the block is added, and nothing else.
* `has_zero`, `length_insert`: the empty set has no member, and a set keeps its bytes.

Left out: removal, which nobody needs here.
-/

namespace Thethings.Library

/-- The bytes. -/
abbrev BitSet := List (BitVec 8)

namespace BitSet

/-- The empty set over `size` bytes. -/
def zero (size : Nat) : BitSet := List.replicate size 0#8

/-- The set with `n` in it; where it has no byte for `n`, as it was. -/
def insert (n : Nat) (s : BitSet) : BitSet := s.modify (n / 8) (· ||| 1#8 <<< (n % 8))

/-- Whether `n` is in the set. -/
def has (n : Nat) (s : BitSet) : Bool := s.getD (n / 8) 0#8 &&& 1#8 <<< (n % 8) != 0#8

@[simp] theorem length_zero (size : Nat) : (zero size).length = size := List.length_replicate

@[simp] theorem length_insert (n : Nat) (s : BitSet) : (s.insert n).length = s.length :=
  List.length_modify _ _ _

/-- A mask of one bit tests that bit. -/
theorem and_mask_ne_zero (b : BitVec 8) {i : Nat} (hi : i < 8) :
    (b &&& 1#8 <<< i != 0#8) = b.getLsbD i := by
  rw [← BitVec.twoPow_eq, BitVec.and_twoPow]
  split_ifs with hbit
  · rw [hbit, bne_iff_ne]
    intro hzero
    have hpow := congrArg BitVec.toNat hzero
    rw [BitVec.toNat_twoPow_of_lt hi] at hpow
    exact absurd hpow (Nat.ne_of_gt (Nat.two_pow_pos i))
  · rw [bne_self_eq_false, Bool.eq_false_iff.mpr hbit]

theorem has_eq (n : Nat) (s : BitSet) : s.has n = (s.getD (n / 8) 0#8).getLsbD (n % 8) :=
  and_mask_ne_zero _ (Nat.mod_lt n (by decide))

@[simp] theorem has_zero (size n : Nat) : (zero size).has n = false := by
  have hbyte : (zero size).getD (n / 8) 0#8 = 0#8 := by
    rw [zero, List.getD_eq_getElem?_getD, List.getElem?_replicate]
    split <;> rfl
  rw [has_eq, hbyte]
  exact BitVec.getLsbD_zero

/-- **Insertion.** -/
theorem has_insert {n : Nat} {s : BitSet} (hn : n / 8 < s.length) (m : Nat) :
    (s.insert n).has m = (decide (m = n) || s.has m) := by
  rw [has_eq, has_eq, insert, List.getD_eq_getElem?_getD, List.getElem?_modify,
    List.getD_eq_getElem?_getD]
  by_cases hbyte : n / 8 = m / 8
  · rw [← hbyte, List.getElem?_eq_getElem hn]
    -- the same byte: the bits tell the numbers apart
    have hbit : n % 8 = m % 8 ↔ m = n := by omega
    have hlt : n % 8 < 8 := Nat.mod_lt n (by decide)
    simp only [if_true, Option.map_eq_map, Option.map_some, Option.getD_some]
    rw [BitVec.getLsbD_or, ← BitVec.twoPow_eq, BitVec.getLsbD_twoPow, decide_eq_true hlt,
      Bool.true_and, Bool.or_comm, decide_eq_decide.mpr hbit]
  · have hne : m ≠ n := fun h => hbyte (h ▸ rfl)
    simp [hbyte, hne]

end BitSet

end Thethings.Library
