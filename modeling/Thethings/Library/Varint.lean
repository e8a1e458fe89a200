import Mathlib.Algebra.Ring.Nat
import Mathlib.Tactic.SplitIfs
import Thethings.Library.Bytes

/-!
# Numbers in groups of seven bits

A number is written in groups of seven bits, the lowest first, and the top bit of a group says that
another one follows. A reader takes a bounded number of groups.

Choices:

* The writer has no bound: it writes as many groups as the number takes, one for zero. The bound is
  the reader's, which gives up where a group says that more follow and none is left to take.
* The reader takes a number with zero groups at its end as well, which the writer never writes.

Results:

* `decode_encode`: what is written is read back, whatever follows it.
* `length_encode_le_iff`: how many groups a number takes.
-/

namespace Thethings.Library.Varint

/-- The groups of a number. -/
def encode (n : Nat) : Bytes :=
  if n < 128 then [n.toUInt8] else (n % 128 + 128).toUInt8 :: encode (n / 128)

/-- The number at the front of a text, in `k` groups at most, and what follows it. -/
def decode : Nat → Bytes → Option (Nat × Bytes)
  | 0, _ => none
  | _ + 1, [] => none
  | k + 1, b :: s =>
    if b.toNat < 128 then some (b.toNat, s)
    else (decode k s).map fun p => (b.toNat % 128 + 128 * p.1, p.2)

theorem encode_of_lt {n : Nat} (h : n < 128) : encode n = [n.toUInt8] := by rw [encode, if_pos h]

theorem encode_of_ge {n : Nat} (h : 128 ≤ n) :
    encode n = (n % 128 + 128).toUInt8 :: encode (n / 128) := by
  rw [encode, if_neg (by omega)]

theorem encode_ne_nil (n : Nat) : encode n ≠ [] := by
  rw [encode]
  split_ifs <;> simp

theorem toNat_last {n : Nat} (h : n < 128) : n.toUInt8.toNat = n := by
  rw [Nat.toUInt8_eq, UInt8.toNat_ofNat']
  omega

theorem toNat_group (n : Nat) : (n % 128 + 128).toUInt8.toNat = n % 128 + 128 := by
  rw [Nat.toUInt8_eq, UInt8.toNat_ofNat']
  omega

theorem div_lt_pow {k n : Nat} : n / 128 < 128 ^ k ↔ n < 128 ^ (k + 1) := by
  rw [Nat.div_lt_iff_lt_mul (by decide), Nat.pow_succ]

/-- **What is written is read back**, as long as the reader takes enough groups. -/
theorem decode_encode {k n : Nat} (h : n < 128 ^ (k + 1)) (rest : Bytes) :
    decode (k + 1) (encode n ++ rest) = some (n, rest) := by
  induction k generalizing n with
  | zero =>
    have hn : n < 128 := h
    rw [encode_of_lt hn, List.singleton_append, decode, toNat_last hn, if_pos hn]
  | succ k ih =>
    rcases Nat.lt_or_ge n 128 with hn | hn
    · rw [encode_of_lt hn, List.singleton_append, decode, toNat_last hn, if_pos hn]
    · have hgroup : n % 128 + 128 * (n / 128) = n := Nat.mod_add_div n 128
      rw [encode_of_ge hn, List.cons_append, decode, toNat_group, if_neg (by omega),
        ih (div_lt_pow.mpr h), Option.map_some, Nat.add_mod_right, Nat.mod_mod, hgroup]

/-- How many groups a number takes. -/
theorem length_encode_le_iff {k n : Nat} : (encode n).length ≤ k + 1 ↔ n < 128 ^ (k + 1) := by
  induction k generalizing n with
  | zero =>
    rcases Nat.lt_or_ge n 128 with hn | hn
    · simp [encode_of_lt hn, hn]
    · have hpos := List.length_pos_iff.mpr (encode_ne_nil (n / 128))
      rw [encode_of_ge hn, List.length_cons]
      omega
  | succ k ih =>
    rcases Nat.lt_or_ge n 128 with hn | hn
    · have hpow : 128 ≤ 128 ^ (k + 1 + 1) := Nat.le_self_pow (by omega) 128
      rw [encode_of_lt hn, List.length_singleton]
      omega
    · rw [encode_of_ge hn, List.length_cons, Nat.add_le_add_iff_right, ih, div_lt_pow]

end Thethings.Library.Varint
