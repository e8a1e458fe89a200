import Mathlib.Data.List.Infix
import Mathlib.Data.List.TakeDrop
import Mathlib.Data.List.TakeWhile

/-!
# Byte strings

A C or C++ string as the list of its bytes. `find` is the first-occurrence search of
`std::string::find`, `cstr` what a `char *` conversion reads up to the terminator, `overwrite` a
`memcpy` to the front of a block, `decimal` the text a stream inserts for an `int`.

Choices:

* A byte is a `UInt8`, a string a `List`. A block of memory is a list too, and its length is the
  allocated one; what a C string is stands in front of the first zero.
* `find` returns `none` for `npos`, so that a caller has to say what it does with it; the empty
  pattern is found at the front, as the library finds it.
* `decimal` is for every integer, with a `-` in front of the negative ones. What a width of 32 bits
  does to the number happens before it is printed.

Results:

* `find_eq_some_iff`: `find` answers with the first occurrence and nothing else; `find_append`: text
  that follows an occurrence does not move it.
* `infix_append_cons_iff`: what holds no `x` occurs on one side of an `x` or nowhere.
* `eq_of_cut`, `cut_append`: a text cut at the first occurrence of a separator.
* `readDecimal_decimalNat`: decimal text is read back; `decimal_injective`.
* `cstr_eq_self_iff`, `cstr_append_zero`: the C string of a block is all of it exactly when no byte
  is zero, and a zero fill behind a zero-free prefix terminates it there.
-/

namespace Thethings.Library

/-- A string of bytes. -/
abbrev Bytes := List UInt8

/-- The bytes of an ASCII literal. -/
def ascii (s : String) : Bytes := s.toList.map fun c => c.toNat.toUInt8

/-! ## First occurrence -/

/-- Index of the first occurrence of `needle`, `none` for `std::string::npos`. -/
def find (needle : Bytes) : Bytes → Option Nat
  | [] => if needle.isPrefixOf [] then some 0 else none
  | c :: cs => if needle.isPrefixOf (c :: cs) then some 0 else (find needle cs).map (· + 1)

theorem find_of_starts {needle hay : Bytes} (h : needle <+: hay) : find needle hay = some 0 := by
  have hp : needle.isPrefixOf hay = true := List.isPrefixOf_iff_prefix.mpr h
  cases hay with
  | nil => rw [find, if_pos hp]
  | cons c cs => rw [find, if_pos hp]

theorem find_cons_of_not_starts {needle cs : Bytes} {c : UInt8} (h : ¬ needle <+: c :: cs) :
    find needle (c :: cs) = (find needle cs).map (· + 1) := by
  rw [find, if_neg]
  rwa [List.isPrefixOf_iff_prefix]

/-- **`find` is the first occurrence**: `needle` stands at `i`, and at no earlier index. -/
theorem find_eq_some_iff {needle : Bytes} : ∀ {hay : Bytes} {i : Nat},
    find needle hay = some i ↔
      i ≤ hay.length ∧ needle <+: hay.drop i ∧ ∀ j < i, ¬ needle <+: hay.drop j
  | [], i => by
    simp only [find, List.isPrefixOf_iff_prefix, List.drop_nil, List.length_nil]
    by_cases h : needle <+: []
    · rw [if_pos h, Option.some.injEq]
      constructor
      · rintro rfl
        exact ⟨le_rfl, h, fun j hj => absurd hj (Nat.not_lt_zero j)⟩
      · rintro ⟨hi, -, -⟩
        omega
    · rw [if_neg h]
      simp [h]
  | c :: cs, i => by
    by_cases h : needle <+: c :: cs
    · rw [find_of_starts h, Option.some.injEq]
      constructor
      · rintro rfl
        exact ⟨Nat.zero_le _, h, fun j hj => absurd hj (Nat.not_lt_zero j)⟩
      · rintro ⟨-, -, hmin⟩
        by_contra hne
        exact hmin 0 (by omega) h
    · rw [find_cons_of_not_starts h, Option.map_eq_some_iff]
      constructor
      · rintro ⟨k, hk, rfl⟩
        obtain ⟨hle, hpre, hmin⟩ := find_eq_some_iff.mp hk
        refine ⟨by simpa using hle, hpre, fun j hj => ?_⟩
        cases j with
        | zero => exact h
        | succ j => exact hmin j (by omega)
      · rintro ⟨hle, hpre, hmin⟩
        cases i with
        | zero => exact absurd hpre h
        | succ k =>
          refine ⟨k, find_eq_some_iff.mpr ⟨by simpa using hle, hpre, fun j hj => ?_⟩, rfl⟩
          exact hmin (j + 1) (by omega)

theorem find_isSome_iff {needle : Bytes} : ∀ {hay : Bytes},
    (find needle hay).isSome ↔ needle <:+: hay
  | [] => by
    simp only [find, List.isPrefixOf_iff_prefix, List.prefix_nil, List.infix_nil]
    split <;> simp_all
  | c :: cs => by
    rw [List.infix_cons_iff]
    by_cases h : needle <+: c :: cs
    · simp [find_of_starts h, h]
    · rw [find_cons_of_not_starts h, Option.isSome_map, find_isSome_iff]
      simp [h]

/-- Text behind an occurrence does not move it. -/
theorem find_append {needle hay : Bytes} {i : Nat} (h : find needle hay = some i) (rest : Bytes) :
    find needle (hay ++ rest) = some i := by
  obtain ⟨hle, hpre, hmin⟩ := find_eq_some_iff.mp h
  refine find_eq_some_iff.mpr ⟨by rw [List.length_append]; omega, ?_, fun j hj hj' => ?_⟩
  · rw [List.drop_append_of_le_length hle]
    exact hpre.trans (List.prefix_append _ _)
  · -- an occurrence before `i` ends inside `hay`, since the one at `i` does
    have hlen : needle.length ≤ hay.length - i := by simpa using hpre.length_le
    rw [List.drop_append_of_le_length (by omega)] at hj'
    exact hmin j hj (List.prefix_of_prefix_length_le hj' (List.prefix_append _ _)
      (by rw [List.length_drop]; omega))

/-- A front without the first byte of `needle` moves the occurrences by its length. -/
theorem find_append_of_notMem {x : UInt8} {xs front : Bytes} (h : x ∉ front) (s : Bytes) :
    find (x :: xs) (front ++ s) = (find (x :: xs) s).map (· + front.length) := by
  induction front with
  | nil => simp
  | cons c cs ih =>
    rw [List.mem_cons, not_or] at h
    have hnot : ¬ x :: xs <+: c :: (cs ++ s) := fun hp => h.1 (List.cons_prefix_cons.mp hp).1
    rw [List.cons_append, find_cons_of_not_starts hnot, ih h.2, Option.map_map]
    rfl

/-- A text cut at the first occurrence of `sep`. -/
def cut (sep s : Bytes) : Option (Bytes × Bytes) :=
  (find sep s).map fun i => (s.take i, s.drop (i + sep.length))

/-- What is cut is put together again. -/
theorem eq_of_cut {sep s front back : Bytes} (h : cut sep s = some (front, back)) :
    s = front ++ sep ++ back := by
  obtain ⟨i, hi, he⟩ := Option.map_eq_some_iff.mp h
  obtain ⟨-, hpre, -⟩ := find_eq_some_iff.mp hi
  obtain ⟨rest, hrest⟩ := hpre
  simp only [Prod.mk.injEq] at he
  have hback : s.drop (i + sep.length) = rest := by
    rw [← List.drop_drop, ← hrest, List.drop_left]
  rw [← he.1, ← he.2, hback, List.append_assoc, hrest, List.take_append_drop]

theorem cut_append {sep front : Bytes} (back : Bytes)
    (h : find sep (front ++ (sep ++ back)) = some front.length) :
    cut sep (front ++ (sep ++ back)) = some (front, back) := by
  rw [cut, h, Option.map_some, List.take_left, ← List.drop_drop, List.drop_left, List.drop_left]

/-- A text is cut at a byte where that byte first stands. -/
theorem cut_byte {x : UInt8} {front : Bytes} (h : x ∉ front) (back : Bytes) :
    cut [x] (front ++ x :: back) = some (front, back) := by
  refine cut_append back ?_
  rw [find_append_of_notMem h, find_of_starts (List.prefix_append _ _)]
  simp

/-- A text without `x` begins a text exactly when it begins the part in front of an `x`. -/
theorem prefix_append_cons_iff {needle a b : Bytes} {x : UInt8} (hx : x ∉ needle) :
    needle <+: a ++ x :: b ↔ needle <+: a := by
  induction a generalizing needle with
  | nil =>
    cases needle with
    | nil => simp
    | cons c cs =>
      rw [List.mem_cons, not_or] at hx
      simp [List.cons_prefix_cons, Ne.symm hx.1]
  | cons c cs ih =>
    cases needle with
    | nil => simp
    | cons d ds =>
      rw [List.mem_cons, not_or] at hx
      rw [List.cons_append, List.cons_prefix_cons, List.cons_prefix_cons, ih hx.2]

/-- It occurs in a text exactly when it occurs on one side of an `x`. -/
theorem infix_append_cons_iff {needle a b : Bytes} {x : UInt8} (hx : x ∉ needle) :
    needle <:+: a ++ x :: b ↔ needle <:+: a ∨ needle <:+: b := by
  induction a with
  | nil =>
    have hpre := prefix_append_cons_iff (a := []) (b := b) hx
    rw [List.nil_append] at hpre ⊢
    rw [List.infix_cons_iff, hpre, List.prefix_nil, List.infix_nil]
  | cons c cs ih =>
    rw [List.cons_append, List.infix_cons_iff, List.infix_cons_iff, ih, ← List.cons_append,
      prefix_append_cons_iff hx, or_assoc]

/-! ## The C string of a block -/

/-- The bytes up to the first NUL: what `string((char *)p)` copies. -/
def cstr (block : Bytes) : Bytes := block.takeWhile (· != 0)

theorem cstr_eq_self_iff {block : Bytes} : cstr block = block ↔ 0 ∉ block := by
  unfold cstr
  rw [List.takeWhile_eq_self_iff]
  constructor
  · intro h hm
    simpa using h 0 hm
  · intro h b hb
    simp only [bne_iff_ne, ne_eq]
    rintro rfl
    exact h hb

theorem zero_notMem_cstr (block : Bytes) : 0 ∉ cstr block := by
  intro h
  simpa using List.mem_takeWhile_imp h

/-- A NUL right behind a block ends its C string no later than there. -/
theorem cstr_append_zero (block rest : Bytes) : cstr (block ++ 0 :: rest) = cstr block := by
  unfold cstr
  rw [List.takeWhile_append]
  split
  · rename_i h
    have hb := (List.takeWhile_prefix (· != 0)).eq_of_length h
    simpa using hb.symm
  · rfl

/-- A block with a NUL in it is terminated inside. -/
theorem cstr_append_of_mem {block : Bytes} (h : 0 ∈ block) (rest : Bytes) :
    cstr (block ++ rest) = cstr block := by
  obtain ⟨front, back, rfl⟩ := List.append_of_mem h
  rw [List.append_assoc, List.cons_append, cstr_append_zero, cstr_append_zero]

/-! ## Copying to the front of a block -/

/-- `memcpy(block, new, new.length)`. -/
def overwrite (new block : Bytes) : Bytes := new ++ block.drop new.length

theorem length_overwrite {new block : Bytes} (h : new.length ≤ block.length) :
    (overwrite new block).length = block.length := by
  simp only [overwrite, List.length_append, List.length_drop]
  omega

theorem overwrite_nil (block : Bytes) : overwrite [] block = block := rfl

theorem overwrite_zeros (new : Bytes) (n : Nat) :
    overwrite new (List.replicate n 0) = new ++ List.replicate (n - new.length) 0 := by
  rw [overwrite, List.drop_replicate]

/-! ## Decimal text -/

/-- The decimal digits of `n`, as `convert << n` inserts them. -/
def decimalNat (n : Nat) : Bytes := (Nat.toDigits 10 n).map fun c => c.toNat.toUInt8

/-- The signed decimal text of `i`. -/
def decimal : Int → Bytes
  | .ofNat n => decimalNat n
  | .negSucc n => 45 :: decimalNat (n + 1)

/-- A digit of `'0'` … `'9'`. -/
def isDigit (b : UInt8) : Bool := 48 ≤ b && b ≤ 57

theorem isDigit_iff {b : UInt8} : isDigit b = true ↔ 48 ≤ b.toNat ∧ b.toNat ≤ 57 := by
  rw [isDigit, Bool.and_eq_true, decide_eq_true_eq, decide_eq_true_eq, UInt8.le_iff_toNat_le,
    UInt8.le_iff_toNat_le]
  rfl

/-- A digit of `n` is a character of one byte. -/
theorem toNat_of_mem_toDigits {n : Nat} {c : Char} (h : c ∈ Nat.toDigits 10 n) :
    48 ≤ c.toNat ∧ c.toNat ≤ 57 ∧ c.toNat.toUInt8.toNat = c.toNat := by
  have hd := Nat.isDigit_of_mem_toDigits (by decide) (by decide) h
  simp only [Char.isDigit, Bool.and_eq_true, decide_eq_true_eq, ge_iff_le, UInt32.le_iff_toNat_le]
    at hd
  have h1 : 48 ≤ c.toNat := hd.1
  have h2 : c.toNat ≤ 57 := hd.2
  refine ⟨h1, h2, ?_⟩
  rw [Nat.toUInt8_eq, UInt8.toNat_ofNat']
  omega

theorem isDigit_of_mem_decimalNat {n : Nat} {b : UInt8} (h : b ∈ decimalNat n) :
    isDigit b = true := by
  obtain ⟨c, hc, rfl⟩ := List.mem_map.mp h
  obtain ⟨h1, h2, hb⟩ := toNat_of_mem_toDigits hc
  rw [isDigit_iff, hb]
  exact ⟨h1, h2⟩

theorem mem_decimal {i : Int} {b : UInt8} (h : b ∈ decimal i) : b = 45 ∨ isDigit b = true := by
  cases i with
  | ofNat n => exact Or.inr (isDigit_of_mem_decimalNat h)
  | negSucc n =>
    rcases List.mem_cons.mp h with h | h
    · exact Or.inl h
    · exact Or.inr (isDigit_of_mem_decimalNat h)

/-- The number a text of digits stands for. -/
def readDecimal (s : Bytes) : Option Nat :=
  if s ≠ [] ∧ s.all isDigit then some (s.foldl (fun n b => 10 * n + (b.toNat - 48)) 0) else none

theorem decimalNat_ne_nil (n : Nat) : decimalNat n ≠ [] := by
  rw [decimalNat, ne_eq, List.map_eq_nil_iff]
  exact Nat.toDigits_ne_nil

/-- **Decimal text is read back.** -/
theorem readDecimal_decimalNat (n : Nat) : readDecimal (decimalNat n) = some n := by
  have hdigits : ∀ (cs : List Char), (∀ c ∈ cs, c.toNat.toUInt8.toNat = c.toNat) → ∀ m,
      (cs.map fun c => c.toNat.toUInt8).foldl (fun n b => 10 * n + (b.toNat - 48)) m =
        Nat.ofDigitChars 10 cs m := by
    intro cs
    induction cs with
    | nil => intro _ m; simp
    | cons c cs ih =>
      intro h m
      rw [List.forall_mem_cons] at h
      rw [List.map_cons, List.foldl_cons, h.1, ih h.2, Nat.ofDigitChars_cons]
      rfl
  have hall : (decimalNat n).all isDigit = true :=
    List.all_eq_true.mpr fun b hb => isDigit_of_mem_decimalNat hb
  rw [readDecimal, if_pos ⟨decimalNat_ne_nil n, hall⟩, decimalNat,
    hdigits _ fun c hc => (toNat_of_mem_toDigits hc).2.2, Nat.ofDigitChars_ten_toDigits]

/-- Different numbers have different texts. -/
theorem decimal_injective {i j : Int} (h : decimal i = decimal j) : i = j := by
  have hnat : ∀ {n m : Nat}, decimalNat n = decimalNat m → n = m := by
    intro n m hnm
    rw [← Option.some.injEq, ← readDecimal_decimalNat n, hnm, readDecimal_decimalNat]
  have hsign : ∀ {n : Nat} {s : Bytes}, decimalNat n ≠ 45 :: s := by
    intro n s hn
    have hdigit := isDigit_of_mem_decimalNat (hn ▸ List.mem_cons_self : 45 ∈ decimalNat n)
    exact absurd hdigit (by decide)
  cases i with
  | ofNat n =>
    cases j with
    | ofNat m => rw [hnat h]
    | negSucc m => exact absurd h hsign
  | negSucc n =>
    cases j with
    | ofNat m => exact absurd h.symm hsign
    | negSucc m => rw [Nat.succ_injective (hnat (List.tail_eq_of_cons_eq h))]

example : decimal (-120) = ascii "-120" := by decide

end Thethings.Library
