import Mathlib.Tactic.Linarith
import Mathlib.Tactic.Ring
import Thethings.Library.Varint
import Thethings.Mqtt.Packet

/-!
# Packets on the wire

The three things every packet is made of (`MQTTPacket.c`): the length behind its first byte
(`MQTTPacket_encode` l.28, `MQTTPacket_len` l.83, `MQTTPacket_decodeBuf` l.112), integers of two
bytes (l.124 and l.163), and strings that carry their length (l.193-241). What is written of each is
read back.

Choices:

* The numbers of the length are those of `Library.Varint`: the loops of the source are shown to be
  its writer and its reader, and what is known of those is used.
* A string is `Sound` where it has one form only and fits the two bytes of its length, and where
  what it counts is there. The writer asks for none of this.
* A `Frame` is a first byte and a body whose length the client can encode. It is the form in which
  packets are handed from what writes to what reads.

Results:

* `packetDecodeBuf_packetEncode_iff`: the length is read back exactly up to four groups; the writer
  does not stop there.
* `packetLen_eq`: what `MQTTPacket_len` reserves, against what is written.
* `readLenString_write`: a string is read back as a counted one, whatever form it had.
* `Frame`: a packet that holds as many bytes as it says, and `serialize_frame`: what a serializer
  hands out is one where the length it computed is the length of what it writes.
-/

namespace Thethings.Mqtt

open Library

/-! ## The length -/

theorem encodeGroups_eq {k n : Nat} (h : n < 128 ^ (k + 1)) :
    encodeGroups (k + 1) n = Varint.encode n := by
  induction k generalizing n with
  | zero =>
    have hn : n < 128 := h
    rw [encodeGroups, if_neg (by omega), Varint.encode_of_lt hn, Nat.mod_eq_of_lt hn]
  | succ k ih =>
    rcases Nat.lt_or_ge n 128 with hn | hn
    · rw [encodeGroups, if_neg (by omega), Varint.encode_of_lt hn, Nat.mod_eq_of_lt hn]
    · rw [encodeGroups, if_pos (by omega), ih (Varint.div_lt_pow.mpr h), Varint.encode_of_ge hn]

/-- An `int` is written in all its groups. -/
theorem packetEncode_eq {n : Nat} (h : n < 2 ^ 35) : packetEncode n = Varint.encode n :=
  encodeGroups_eq h

theorem decodeGroups_of_decode {k : Nat} {s rest : Bytes} {n : Nat}
    (h : Varint.decode k s = some (n, rest)) (multiplier : Nat) :
    ∃ front, s = front ++ rest ∧ decodeGroups k multiplier s = (front.length, n * multiplier) := by
  induction k generalizing s n multiplier with
  | zero => exact absurd h (by simp [Varint.decode])
  | succ k ih =>
    cases s with
    | nil => exact absurd h (by simp [Varint.decode])
    | cons b s =>
      rw [Varint.decode] at h
      rw [decodeGroups]
      split_ifs at h ⊢ with hb
      · obtain ⟨rfl, rfl⟩ := Prod.mk.inj (Option.some.inj h)
        exact ⟨[b], rfl, rfl⟩
      · obtain ⟨⟨n', rest'⟩, hn', he⟩ := Option.map_eq_some_iff.mp h
        obtain ⟨rfl, rfl⟩ := Prod.mk.inj he
        obtain ⟨front, rfl, hfront⟩ := ih hn' (multiplier * 128)
        refine ⟨b :: front, rfl, ?_⟩
        simp only at hfront
        rw [hfront]
        simp only [List.length_cons, Prod.mk.injEq, true_and]
        ring

theorem packetDecodeBuf_packetEncode {n : Nat} (h : n < 2 ^ 28) (rest : Bytes) :
    packetDecodeBuf (packetEncode n ++ rest) = ((packetEncode n).length, n) := by
  rw [packetEncode_eq (by omega)]
  obtain ⟨front, hfront, hdecode⟩ :=
    decodeGroups_of_decode (Varint.decode_encode (k := 3) h rest) 1
  rw [packetDecodeBuf, hdecode, List.append_cancel_right hfront, Nat.mul_one]

/-- `k` groups hold no more than `128 ^ k` values. -/
theorem decodeGroups_add_le (k multiplier : Nat) (s : Bytes) :
    (decodeGroups k multiplier s).2 + multiplier ≤ multiplier * 128 ^ k := by
  induction k generalizing multiplier s with
  | zero => simp [decodeGroups]
  | succ k ih =>
    have hgroups : multiplier * 128 ≤ multiplier * 128 ^ (k + 1) :=
      Nat.mul_le_mul_left _ (Nat.le_self_pow (by omega) 128)
    cases s with
    | nil =>
      simp only [decodeGroups]
      omega
    | cons b s =>
      rw [decodeGroups]
      split_ifs with hb
      · have hgroup : b.toNat * multiplier ≤ 127 * multiplier :=
          Nat.mul_le_mul_right _ (by omega)
        simp only
        omega
      · have hrest := ih (multiplier * 128) s
        have hgroup : b.toNat % 128 * multiplier ≤ 127 * multiplier :=
          Nat.mul_le_mul_right _ (by omega)
        rw [Nat.mul_assoc, ← Nat.pow_succ', Nat.succ_eq_add_one] at hrest
        rcases he : decodeGroups k (multiplier * 128) s with ⟨len, value⟩
        rw [he] at hrest
        simp only at hrest ⊢
        omega

/-- **The length is read back exactly up to four groups.** -/
theorem packetDecodeBuf_packetEncode_iff (n : Nat) (rest : Bytes) :
    packetDecodeBuf (packetEncode n ++ rest) = ((packetEncode n).length, n) ↔ n < 2 ^ 28 := by
  refine ⟨fun h => ?_, fun h => packetDecodeBuf_packetEncode h rest⟩
  have hle := decodeGroups_add_le 4 1 (packetEncode n ++ rest)
  rw [← packetDecodeBuf, h] at hle
  simp only at hle
  omega

/-- How many bytes a length takes. -/
theorem length_packetEncode {n : Nat} (h : n < 2 ^ 28) :
    (packetEncode n).length =
      if n < 128 then 1 else if n < 16384 then 2 else if n < 2097152 then 3 else 4 := by
  rw [packetEncode_eq (by omega)]
  have hpos := List.length_pos_iff.mpr (Varint.encode_ne_nil n)
  have h1 := Varint.length_encode_le_iff (k := 0) (n := n)
  have h2 := Varint.length_encode_le_iff (k := 1) (n := n)
  have h3 := Varint.length_encode_le_iff (k := 2) (n := n)
  have h4 := Varint.length_encode_le_iff (k := 3) (n := n)
  norm_num at h1 h2 h3 h4
  split_ifs <;> omega

/-- **What `MQTTPacket_len` reserves** is what is written, and one byte more at four lengths. -/
theorem packetLen_eq {n : Nat} (h : n < 2 ^ 28) :
    packetLen n = 1 + (packetEncode n).length + n +
      if n ∈ [127, 16383, 2097150, 2097151] then 1 else 0 := by
  rw [length_packetEncode h]
  unfold packetLen
  simp only [List.mem_cons, List.not_mem_nil, or_false]
  split_ifs <;> omega

/-! ## Integers and strings -/

theorem readInt_writeInt {n : Nat} (h : n < 65536) (rest : Bytes) :
    readInt (writeInt n ++ rest) = (n, rest) := by
  have hhigh : (n / 256).toUInt8.toNat = n / 256 := by
    rw [Nat.toUInt8_eq, UInt8.toNat_ofNat']
    omega
  have hlow : (n % 256).toUInt8.toNat = n % 256 := by
    rw [Nat.toUInt8_eq, UInt8.toNat_ofNat']
    omega
  simp only [readInt, writeInt, List.cons_append, List.nil_append, List.headD_cons, List.tail_cons,
    hhigh, hlow, Nat.div_add_mod, List.drop_succ_cons, List.drop_zero]

@[simp] theorem length_writeInt (n : Nat) : (writeInt n).length = 2 := rfl

namespace MQTTString

/-- What `writeMQTTString` writes of a string, behind the length. -/
def text (s : MQTTString) : Bytes :=
  if 0 < s.len then (s.data.getD []).take s.len else (s.cstring.map cstr).getD []

/-- A string of bytes that has been read. -/
def counted (text : Bytes) : MQTTString := ⟨none, text.length, some text⟩

/-- A string in one form, with the bytes it counts, and short enough for the two bytes of its
length. -/
structure Sound (s : MQTTString) : Prop where
  one : 0 < s.len → s.cstring = none
  enough : s.len ≤ (s.data.getD []).length
  short : s.text.length < 65536

theorem sound_ofCString {s : Bytes} (h : (cstr s).length < 65536) : (ofCString s).Sound :=
  ⟨fun hlen => absurd hlen (Nat.lt_irrefl 0), Nat.zero_le _, h⟩

theorem sound_counted {s : Bytes} (h : s.length < 65536) : (counted s).Sound := by
  refine ⟨fun _ => rfl, le_refl _, ?_⟩
  rw [text]
  split_ifs
  · rw [List.length_take]
    exact lt_of_le_of_lt (Nat.min_le_right _ _) h
  · exact Nat.zero_lt_succ _

theorem text_counted (s : Bytes) : (counted s).text = s := by
  rw [text]
  split_ifs with h
  · exact List.take_length
  · have hnil : s = [] := List.eq_nil_of_length_eq_zero (Nat.eq_zero_of_not_pos h)
    rw [hnil]
    rfl

variable {s : MQTTString}

/-- The length that is computed is the length that is written. -/
theorem Sound.strlen (h : s.Sound) : s.strlen = s.text.length := by
  rw [MQTTString.strlen, text]
  by_cases hlen : 0 < s.len
  · rw [if_pos hlen, h.one hlen, List.length_take, Nat.min_eq_left h.enough]
  · rw [if_neg hlen]
    cases s.cstring with
    | none => simpa using hlen
    | some string => rfl

theorem Sound.write (h : s.Sound) : s.write = writeInt s.text.length ++ s.text := by
  rw [MQTTString.write, text]
  by_cases hlen : 0 < s.len
  · rw [if_pos hlen, if_pos hlen, List.length_take, Nat.min_eq_left h.enough]
  · rw [if_neg hlen, if_neg hlen]
    cases s.cstring with
    | none => rfl
    | some string => rfl

theorem Sound.length_write (h : s.Sound) : s.write.length = 2 + s.strlen := by
  rw [h.write, h.strlen, List.length_append, length_writeInt]

end MQTTString

/-- **A string is read back as a counted one**, where the packet holds it. -/
theorem readLenString_write {s : MQTTString} (h : s.Sound) (rest : Bytes) {left : Nat}
    (hleft : 2 + s.text.length ≤ left) :
    readLenString (s.write ++ rest) left =
      (true, .counted s.text, rest, left - (2 + s.text.length)) := by
  rw [readLenString, if_pos (by omega), h.write, List.append_assoc, readInt_writeInt h.short]
  simp only
  rw [if_pos (by omega), List.take_left, List.drop_left, MQTTString.counted]
  simp only [Prod.mk.injEq, true_and]
  omega

/-! ## Frames -/

/-- A packet that holds as many bytes as it says. -/
structure Frame where
  first : UInt8
  body : Bytes
  short : body.length < 2 ^ 28

namespace Frame

/-- The frame as it is sent. -/
def bytes (f : Frame) : Bytes := f.first :: (packetEncode f.body.length ++ f.body)

theorem length_bytes (f : Frame) :
    f.bytes.length = 1 + (packetEncode f.body.length).length + f.body.length := by
  rw [bytes, List.length_cons, List.length_append]
  omega

theorem packetType_bytes (f : Frame) (rest : Bytes) :
    packetType (f.bytes ++ rest) = headerType f.first := rfl

theorem openPacket_bytes (f : Frame) (rest : Bytes) :
    openPacket (f.bytes ++ rest) =
      ((packetEncode f.body.length).length, f.body ++ rest, f.body.length) := by
  have hdecode := packetDecodeBuf_packetEncode f.short (f.body ++ rest)
  simp only [openPacket, bytes, List.cons_append, List.tail_cons, List.append_assoc, hdecode,
    List.drop_left]

/-- Which frames `MQTTPacket_len` lets into a buffer: those that fit, but for one byte at four
lengths. -/
theorem packetLen_le_iff (f : Frame) (buflen : Nat) :
    packetLen f.body.length ≤ buflen ↔
      f.bytes.length < buflen ∨
        f.bytes.length = buflen ∧ f.body.length ∉ [127, 16383, 2097150, 2097151] := by
  rw [packetLen_eq f.short, f.length_bytes]
  split_ifs with h
  · simp only [h, not_true_eq_false, and_false, or_false]
    omega
  · simp only [h, not_false_eq_true, and_true]
    omega

end Frame

/-- **What a serializer hands out is a frame**, where it computed the length of what it writes. -/
theorem serialize_frame {buflen remLen : Nat} {first : UInt8} {rest packet : Bytes}
    (h : serialize buflen first remLen rest = .ok packet) (hlen : rest.length = remLen)
    (hshort : remLen < 2 ^ 28) :
    ∃ f : Frame, f.first = first ∧ f.body = rest ∧ packet = f.bytes ∧
      packetLen f.body.length ≤ buflen := by
  subst hlen
  unfold serialize at h
  split_ifs at h with hfits
  cases h
  exact ⟨⟨first, rest, hshort⟩, rfl, rfl, rfl, Nat.le_of_not_lt hfits⟩

end Thethings.Mqtt
