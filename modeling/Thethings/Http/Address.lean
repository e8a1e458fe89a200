import Mathlib.Algebra.Ring.Nat
import Thethings.Http.Socket
import Thethings.Library.Bytes

/-!
# Addresses and endpoints

The rest of `ip::Address` (`NetworkAPI/ip/address.cpp`: `fromString` l.60-86, `toString` l.89-106,
`fromNative` and `toNative` l.144-160), which is printed and read as a dotted quad, and the native
form of an `ip::Endpoint` (`NetworkAPI/ip/endpoint.cpp`: `setPort` l.49, `toNative` l.78,
`fromNative` l.95).

Choices:

* `sscanf` is modelled for the one format the source gives it: white space before a field, a sign,
  digits, and the literals between the fields. A field of `sscanf` that does not fit its byte is
  stored as the C library stores it, a parameter that is asked for nothing else.
* `sprintf` writes into 16 bytes without asking for their number, so a text has its full length
  here, and that every one fits is part of the result.
* A port is an `int` until it goes into the native form, whose field has 16 bits and the other byte
  order.

Results:

* `address_round_trips_iff`: a printed address is read back iff it is all zero or has a byte of two
  digits; the buffer is long enough for any.
* `setPort_round_trips_iff`: a port that `setPort` takes survives the native form iff it has 16
  bits.

Left out: `fromHostname`, which is in `Socket`.
-/

namespace Thethings.Http

open Library

namespace Address

/-! ## `sscanf` -/

/-- What `sscanf` takes for white space. -/
def isSpace (b : UInt8) : Bool := b == 32 || (9 ≤ b && b ≤ 13)

/-- A sign, and what is behind it. -/
def scanSign : Bytes → Bool × Bytes
  | 45 :: s => (true, s)
  | 43 :: s => (false, s)
  | s => (false, s)

/-- `%<width>u`: behind white space at most `width` characters, a sign and digits. -/
def scanUnsigned (width : Nat) (s : Bytes) : Option (Nat × Bytes) :=
  let item := s.dropWhile isSpace
  let (negative, number) := scanSign item
  let digits := (number.take (width - (item.length - number.length))).takeWhile isDigit
  match readDecimal digits with
  | none => none
  | some n => some (if negative then (2 ^ 32 - n) % 2 ^ 32 else n, number.drop digits.length)

/-- `%3hhu` stores a number in a byte; `wide` are the numbers that do not fit. -/
def storeByte (wide : Nat → UInt8) (n : Nat) : UInt8 := if n < 256 then UInt8.ofNat n else wide n

/-- `%3hhu.%3hhu. ..`: the bytes that are stored before the text stops to match. -/
def scanBytes (wide : Nat → UInt8) : Nat → Bytes → Bytes
  | 0, _ => []
  | fields + 1, s =>
    match scanUnsigned 3 s with
    | none => []
    | some (n, 46 :: s) => storeByte wide n :: scanBytes wide fields s
    | some (n, _) => [storeByte wide n]

/-! ## `Address` -/

/-- `fromString(address)`: the result, and the address after it. -/
def fromString (wide : Nat → UInt8) (address text : Bytes) : Int × Bytes :=
  let stored := scanBytes wide 4 (cstr text)
  (if stored.length ≠ 4 then -1 else 0, overwrite stored address)

/-- `%u.%u. ..` -/
def printBytes : Bytes → Bytes
  | [] => []
  | [b] => decimalNat b.toNat
  | b :: bs => decimalNat b.toNat ++ 46 :: printBytes bs

/-- `toString()`. -/
def toString (address : Bytes) : Bytes :=
  let text := printBytes address
  if text.length < 8 ∨ text.length > 16 then ascii "0.0.0.0" else text

/-! ### Reading what was printed -/

theorem not_isSpace_of_isDigit {b : UInt8} (h : isDigit b = true) : isSpace b = false := by
  rw [isDigit_iff] at h
  have h32 : b ≠ 32 := by
    rintro rfl
    exact absurd h.1 (by decide)
  have h13 : ¬ b ≤ 13 := by
    rw [UInt8.le_iff_toNat_le]
    have : (13 : UInt8).toNat = 13 := rfl
    omega
  simp [isSpace, h32, h13]

theorem scanSign_of_isDigit {b : UInt8} (h : isDigit b = true) (s : Bytes) :
    scanSign (b :: s) = (false, b :: s) := by
  have h45 : b ≠ 45 := by
    rintro rfl
    exact absurd h (by decide)
  have h43 : b ≠ 43 := by
    rintro rfl
    exact absurd h (by decide)
  unfold scanSign
  split
  · next heq => exact absurd (List.cons.inj heq).1 h45
  · next heq => exact absurd (List.cons.inj heq).1 h43
  · rfl

/-- **A field** of at most three digits, with something else behind it. -/
theorem scanUnsigned_decimalNat {n : Nat} (hn : n < 1000) (rest : Bytes)
    (hrest : ∀ b ∈ rest.head?, isDigit b = false) :
    scanUnsigned 3 (decimalNat n ++ rest) = some (n, rest) := by
  have hlen : (decimalNat n).length ≤ 3 := by
    rw [decimalNat, List.length_map]
    exact (Nat.length_toDigits_le_iff (by decide) (by decide)).mpr hn
  have hdigits : ∀ b ∈ decimalNat n, isDigit b = true := fun b => isDigit_of_mem_decimalNat
  have hstop : ∀ k, (rest.take k).takeWhile isDigit = [] := by
    intro k
    cases rest with
    | nil => rw [List.take_nil, List.takeWhile_nil]
    | cons b rest =>
      cases k with
      | zero => rfl
      | succ k =>
        rw [List.take_succ_cons, List.takeWhile_cons_of_neg]
        rw [hrest b rfl]
        decide
  have htake : ((decimalNat n ++ rest).take 3).takeWhile isDigit = decimalNat n := by
    rw [List.take_append, List.take_of_length_le hlen, List.takeWhile_append_of_pos hdigits, hstop,
      List.append_nil]
  obtain ⟨b, bs, hb⟩ := List.exists_cons_of_ne_nil (decimalNat_ne_nil n)
  have hbdigit : isDigit b = true := hdigits b (hb ▸ List.mem_cons_self)
  have hitem : (decimalNat n ++ rest).dropWhile isSpace = decimalNat n ++ rest := by
    rw [hb, List.cons_append, List.dropWhile_cons_of_neg]
    rw [not_isSpace_of_isDigit hbdigit]
    decide
  have hsign : scanSign (decimalNat n ++ rest) = (false, decimalNat n ++ rest) := by
    rw [hb]
    exact scanSign_of_isDigit hbdigit (bs ++ rest)
  simp only [scanUnsigned, hitem, hsign, Nat.sub_self, Nat.sub_zero, htake,
    readDecimal_decimalNat, List.drop_left, Bool.false_eq_true, if_false]

theorem printBytes_cons (b : UInt8) {bs : Bytes} (h : bs ≠ []) :
    printBytes (b :: bs) = decimalNat b.toNat ++ 46 :: printBytes bs := by
  cases bs with
  | nil => exact absurd rfl h
  | cons c bs => rfl

theorem storeByte_toNat (wide : Nat → UInt8) (b : UInt8) : storeByte wide b.toNat = b := by
  rw [storeByte, if_pos b.toNat_lt, UInt8.ofNat_toNat]

/-- **Printed bytes are read back.** -/
theorem scanBytes_printBytes (wide : Nat → UInt8) (bs : Bytes) :
    scanBytes wide bs.length (printBytes bs) = bs := by
  induction bs with
  | nil => rfl
  | cons b bs ih =>
    have hb : b.toNat < 1000 := b.toNat_lt.trans (by decide)
    by_cases hbs : bs = []
    · subst hbs
      have hscan := scanUnsigned_decimalNat hb [] (by simp)
      rw [List.append_nil] at hscan
      simp only [printBytes, List.length_cons, scanBytes, hscan, storeByte_toNat]
    · have hscan := scanUnsigned_decimalNat hb (46 :: printBytes bs) (by simp; decide)
      rw [printBytes_cons b hbs]
      simp only [List.length_cons, scanBytes, hscan, storeByte_toNat, ih]

theorem zero_notMem_printBytes (bs : Bytes) : 0 ∉ printBytes bs := by
  have hdecimal : ∀ n, 0 ∉ decimalNat n := fun n h =>
    absurd (isDigit_of_mem_decimalNat h) (by decide)
  induction bs with
  | nil => exact List.not_mem_nil
  | cons b bs ih =>
    by_cases hbs : bs = []
    · subst hbs
      exact hdecimal b.toNat
    · rw [printBytes_cons b hbs, List.mem_append, List.mem_cons]
      rintro (h | h | h)
      · exact hdecimal b.toNat h
      · exact absurd h (by decide)
      · exact ih h

theorem fromString_printBytes (wide : Nat → UInt8) {before address : Bytes}
    (hbefore : before.length = 4) (haddress : address.length = 4) :
    fromString wide before (printBytes address) = (0, address) := by
  have hstored : scanBytes wide 4 (cstr (printBytes address)) = address := by
    rw [cstr_eq_self_iff.mpr (zero_notMem_printBytes address), ← haddress,
      scanBytes_printBytes wide address]
  simp only [fromString, hstored, haddress, ne_eq, not_true_eq_false, if_false, overwrite]
  rw [List.drop_eq_nil_of_le hbefore.le, List.append_nil]

/-! ### What is printed -/

theorem length_byte (b : UInt8) :
    0 < (decimalNat b.toNat).length ∧ (decimalNat b.toNat).length ≤ 3 ∧
      ((decimalNat b.toNat).length ≤ 1 ↔ b.toNat < 10) := by
  have hb := b.toNat_lt
  rw [decimalNat, List.length_map]
  exact ⟨Nat.length_toDigits_pos,
    (Nat.length_toDigits_le_iff (by decide) (by decide)).mpr (by omega),
    Nat.length_toDigits_le_iff (by decide) (by decide)⟩

/-- The text fits `char address[16]`, and is shorter than eight where every byte has one digit. -/
theorem length_printBytes {address : Bytes} (h : address.length = 4) :
    (printBytes address).length < 16 ∧
      ((printBytes address).length < 8 ↔ ∀ b ∈ address, b.toNat < 10) := by
  match address, h with
  | [a, b, c, d], _ =>
    obtain ⟨ha, ha', hla⟩ := length_byte a
    obtain ⟨hb, hb', hlb⟩ := length_byte b
    obtain ⟨hc, hc', hlc⟩ := length_byte c
    obtain ⟨hd, hd', hld⟩ := length_byte d
    simp only [printBytes, List.length_append, List.length_cons, List.mem_cons, List.not_mem_nil,
      or_false, forall_eq_or_imp, forall_eq, ← hla, ← hlb, ← hlc, ← hld]
    omega

/-- **Addresses.** What `toString` makes of an address is within its buffer, and `fromString` reads
the address back from it exactly where it is all zero or one of its bytes has two digits. -/
theorem address_round_trips_iff (wide : Nat → UInt8) (before address : Bytes)
    (hbefore : before.length = 4) (haddress : address.length = 4) :
    (printBytes address).length < 16 ∧
      (fromString wide before (toString address) = (0, address) ↔
        address = [0, 0, 0, 0] ∨ ∃ b ∈ address, 10 ≤ b.toNat) := by
  obtain ⟨hlt, hshort⟩ := length_printBytes haddress
  refine ⟨hlt, ?_⟩
  by_cases hall : ∀ b ∈ address, b.toNat < 10
  · have hzero : ascii "0.0.0.0" = printBytes [0, 0, 0, 0] := by decide
    rw [toString, if_pos (Or.inl (hshort.mpr hall)), hzero, fromString_printBytes wide hbefore rfl,
      Prod.mk.injEq, eq_comm (a := [0, 0, 0, 0])]
    constructor
    · exact fun h => Or.inl h.2
    · rintro (h | ⟨b, hb, hge⟩)
      · exact ⟨rfl, h⟩
      · exact absurd (hall b hb) (by omega)
  · have hlong : ¬ ((printBytes address).length < 8 ∨ (printBytes address).length > 16) := by
      have hge := mt hshort.mp hall
      omega
    rw [toString, if_neg hlong]
    refine iff_of_true (fromString_printBytes wide hbefore haddress) (Or.inr ?_)
    by_contra hnone
    exact hall fun b hb => by
      by_contra hge
      exact hnone ⟨b, hb, by omega⟩

theorem address_round_trips_iff_twoDigits :
    (printBytes [10, 0, 0, 1]).length < 16 ∧
      (fromString (fun _ => 0) [0, 0, 0, 0] (toString [10, 0, 0, 1]) = (0, [10, 0, 0, 1]) ↔
        ([10, 0, 0, 1] : Bytes) = [0, 0, 0, 0] ∨ ∃ b ∈ ([10, 0, 0, 1] : Bytes), 10 ≤ b.toNat) :=
  address_round_trips_iff (fun _ => 0) [0, 0, 0, 0] [10, 0, 0, 1] rfl rfl

/-- An address of one digit a byte is lost. -/
example : toString [1, 2, 3, 4] = ascii "0.0.0.0" := by decide

/-! ## The native form -/

/-- `Address::toNative()`. -/
def toNative : Bytes → Nat
  | [] => 0
  | b :: bs => b.toNat + 256 * toNative bs

/-- `Address::fromNative(address)`, of `count` bytes. -/
def fromNative : Nat → Nat → Bytes
  | 0, _ => []
  | count + 1, n => UInt8.ofNat (n % 256) :: fromNative count (n / 256)

theorem fromNative_toNative (bs : Bytes) :
    fromNative bs.length (toNative bs) = bs := by
  induction bs with
  | nil => rfl
  | cons b bs ih =>
    have hb := b.toNat_lt
    have hmod : (b.toNat + 256 * toNative bs) % 256 = b.toNat := by omega
    have hdiv : (b.toNat + 256 * toNative bs) / 256 = toNative bs := by omega
    rw [List.length_cons, toNative, fromNative, hmod, hdiv, ih, UInt8.ofNat_toNat]

end Address

/-! ## `Endpoint` -/

/-- `struct sockaddr_in`: `sin_port` and `s_addr`, on a little-endian machine. -/
structure SockaddrIn where
  port : Nat
  addr : Nat

/-- `htons` of a port, which is one of 16 bits before. -/
def htons (port : Int) : Nat :=
  let p := (port % 65536).toNat
  p % 256 * 256 + p / 256

/-- `ntohs(port)`: the two bytes the other way round. -/
def ntohs (port : Nat) : Nat := port % 256 * 256 + port / 256 % 256

/-- `Endpoint::toNative(endpoint)`. -/
def Endpoint.toNative (e : Endpoint) : SockaddrIn := ⟨htons e.port, Address.toNative e.address⟩

/-- `Endpoint::fromNative(endpoint)`. -/
def Endpoint.fromNative (native : SockaddrIn) : Endpoint :=
  ⟨Address.fromNative 4 native.addr, ntohs native.port⟩

/-- `Endpoint::setPort(port)`. -/
def Endpoint.setPort (e : Endpoint) (port : Int) : Int × Endpoint :=
  if port > 65536 then (-1, e) else (0, { e with port := port })

theorem ntohs_htons (port : Int) : (ntohs (htons port) : Int) = port % 65536 := by
  have hpos : 0 ≤ port % 65536 := Int.emod_nonneg port (by decide)
  obtain ⟨p, hp⟩ := Int.eq_ofNat_of_zero_le hpos
  have hhigh : (p % 256 * 256 + p / 256) % 256 = p / 256 := by omega
  have hlow : (p % 256 * 256 + p / 256) / 256 % 256 = p % 256 := by omega
  simp only [ntohs, htons, hp, Int.toNat_natCast, hhigh, hlow]
  omega

/-- **Endpoints.** A port that `setPort` takes survives the native form of the endpoint, unless it
is negative or 65536. -/
theorem setPort_round_trips_iff {e : Endpoint} (haddress : e.address.length = 4) {port : Int}
    (h : (e.setPort port).1 = 0) :
    Endpoint.fromNative (e.setPort port).2.toNative = (e.setPort port).2 ↔
      0 ≤ port ∧ port ≠ 65536 := by
  have hport : ¬ port > 65536 := by
    intro hgt
    simp [Endpoint.setPort, hgt] at h
  have haddr : Address.fromNative 4 (Address.toNative e.address) = e.address := by
    rw [← haddress]
    exact Address.fromNative_toNative e.address
  simp only [Endpoint.setPort, if_neg hport, Endpoint.fromNative, Endpoint.toNative, haddr,
    ntohs_htons, Endpoint.mk.injEq, true_and]
  omega

end Thethings.Http
