import Thethings.Library.Bytes

/-!
# A JSON decoder on byte strings

The grammar of RFC 8259 over bytes: white space, literals, numbers, strings with their escapes,
arrays and objects.

Choices:

* Bytes from `0x80` up stand for themselves inside a string, so the encoding of non-ASCII text is
  neither checked nor changed; a `\u` escape yields the UTF-8 bytes of its code point, a surrogate
  pair those of the pair, and half of a pair is refused.
* Members keep their order and their duplicates, and a number is kept as its text. It is `member`
  that takes the last of several members of one name.
* The recursion is on a fuel that the length of the text bounds, so the decoder computes; `parse`
  gives it enough, and asks that nothing but white space follows the value.
* The decoder is strict: no comma at the end, no control character inside a string, nothing behind a
  leading zero but a fraction or an exponent.

Results:

* `string_eq_self_iff`: a text between two quotes is read back as itself iff it is `Plain`, with no
  quote, no backslash and no control character. A backslash shrinks the text (`strBody_spec`), and a
  quote can only be passed by an escape that decodes to a quote.
* `Reads n text v`: `text` is read as `v` whatever follows it, with fuel `n`. `Reads.str`,
  `Reads.arr` and `Reads.obj` compose it, and `parse_of_reads` ends with the whole document.

Left out: an encoder. Writers differ in what they escape, and a writer is read back by itself.
-/

namespace Thethings.Library

/-- A decoded JSON value. A number keeps its text. -/
inductive Json where
  | null
  | bool (b : Bool)
  | num (text : Bytes)
  | str (s : Bytes)
  | arr (elements : List Json)
  | obj (members : List (Bytes × Json))

namespace Json

/-! ## Strings -/

/-- `"` -/
abbrev quote : UInt8 := 34
/-- `\` -/
abbrev backslash : UInt8 := 92

/-- The value of a hexadecimal digit. -/
def hexVal (b : UInt8) : Option Nat :=
  if isDigit b then some (b.toNat - 48)
  else if 65 ≤ b ∧ b ≤ 70 then some (b.toNat - 55)
  else if 97 ≤ b ∧ b ≤ 102 then some (b.toNat - 87)
  else none

/-- Four hex digits and the rest. -/
def hex4 : Bytes → Option (Nat × Bytes)
  | a :: b :: c :: d :: rest =>
    match hexVal a, hexVal b, hexVal c, hexVal d with
    | some a, some b, some c, some d => some (((a * 16 + b) * 16 + c) * 16 + d, rest)
    | _, _, _, _ => none
  | _ => none

/-- The UTF-8 bytes of a code point. -/
def utf8 (cp : Nat) : Bytes :=
  if cp < 0x80 then [cp.toUInt8]
  else if cp < 0x800 then [(0xC0 + cp / 64).toUInt8, (0x80 + cp % 64).toUInt8]
  else if cp < 0x10000 then
    [(0xE0 + cp / 4096).toUInt8, (0x80 + cp / 64 % 64).toUInt8, (0x80 + cp % 64).toUInt8]
  else [(0xF0 + cp / 262144).toUInt8, (0x80 + cp / 4096 % 64).toUInt8,
    (0x80 + cp / 64 % 64).toUInt8, (0x80 + cp % 64).toUInt8]

/-- The second half of a surrogate pair: `\uDC00` … `\uDFFF`. -/
def lowSurrogate (high : Nat) : Bytes → Option (Bytes × Bytes)
  | b :: u :: rest =>
    if b = backslash ∧ u = 117 then
      match hex4 rest with
      | some (low, rest) =>
        if 0xDC00 ≤ low ∧ low < 0xE000 then
          some (utf8 (0x10000 + (high - 0xD800) * 1024 + (low - 0xDC00)), rest)
        else none
      | none => none
    else none
  | _ => none

/-- The escape behind a backslash: what it stands for, and the rest. -/
def escape : Bytes → Option (Bytes × Bytes)
  | [] => none
  | b :: rest =>
    if b = quote ∨ b = backslash ∨ b = 47 then some ([b], rest)
    else if b = 98 then some ([8], rest)
    else if b = 102 then some ([12], rest)
    else if b = 110 then some ([10], rest)
    else if b = 114 then some ([13], rest)
    else if b = 116 then some ([9], rest)
    else if b = 117 then
      match hex4 rest with
      | some (u, rest) =>
        if 0xD800 ≤ u ∧ u < 0xDC00 then lowSurrogate u rest
        else if 0xDC00 ≤ u ∧ u < 0xE000 then none
        else some (utf8 u, rest)
      | none => none
    else none

/-- The characters up to the closing quote, decoded, and the rest. -/
def strBody : Nat → Bytes → Option (Bytes × Bytes)
  | 0, _ => none
  | _ + 1, [] => none
  | n + 1, b :: rest =>
    if b = quote then some ([], rest)
    else if b = backslash then
      match escape rest with
      | some (d, rest) => (strBody n rest).map fun p => (d ++ p.1, p.2)
      | none => none
    else if b < 32 then none
    else (strBody n rest).map fun p => (b :: p.1, p.2)

/-- A string whose opening quote has been read. -/
def string (s : Bytes) : Option (Bytes × Bytes) := strBody s.length s

/-- No quote, no backslash, no control character. -/
def Plain (s : Bytes) : Prop := ∀ b ∈ s, b ≠ quote ∧ b ≠ backslash ∧ 32 ≤ b

instance (s : Bytes) : Decidable (Plain s) :=
  List.decidableBAll (fun b => b ≠ quote ∧ b ≠ backslash ∧ 32 ≤ b) s

theorem plain_nil : Plain [] := fun _ h => absurd h List.not_mem_nil

theorem plain_cons {b : UInt8} {s : Bytes} :
    Plain (b :: s) ↔ (b ≠ quote ∧ b ≠ backslash ∧ 32 ≤ b) ∧ Plain s :=
  List.forall_mem_cons

theorem Plain.zero_notMem {s : Bytes} (h : Plain s) : 0 ∉ s :=
  fun h0 => absurd (h 0 h0).2.2 (by decide)

/-- Digits and the sign are plain, and so is every decimal text. -/
theorem plain_decimal (i : Int) : Plain (decimal i) := by
  intro b hb
  rcases mem_decimal hb with rfl | h
  · decide
  · simp only [isDigit, Bool.and_eq_true, decide_eq_true_eq, UInt8.le_iff_toNat_le] at h
    have h1 : 48 ≤ b.toNat := h.1
    have h2 : b.toNat ≤ 57 := h.2
    refine ⟨?_, ?_, ?_⟩
    · rintro rfl; exact absurd h1 (by decide)
    · rintro rfl; exact absurd h2 (by decide)
    · rw [UInt8.le_iff_toNat_le]; exact le_trans (by decide) h1

/-! ### What a decoded string says about its text -/

theorem hexVal_quote : hexVal quote = none := by decide

theorem ne_quote_of_hexVal {b : UInt8} {v : Nat} (h : hexVal b = some v) : b ≠ quote := by
  rintro rfl
  rw [hexVal_quote] at h
  exact absurd h (by simp)

theorem hex4_spec {s rest : Bytes} {v : Nat} (h : hex4 s = some (v, rest)) :
    ∃ raw, s = raw ++ rest ∧ raw.length = 4 ∧ raw.count quote = 0 := by
  unfold hex4 at h
  split at h
  · rename_i a b c d rest'
    split at h
    · rename_i ha hb hc hd
      simp only [Option.some.injEq, Prod.mk.injEq] at h
      obtain ⟨-, rfl⟩ := h
      refine ⟨[a, b, c, d], rfl, rfl, List.count_eq_zero.mpr ?_⟩
      simp [(ne_quote_of_hexVal ha).symm, (ne_quote_of_hexVal hb).symm,
        (ne_quote_of_hexVal hc).symm, (ne_quote_of_hexVal hd).symm]
    · exact absurd h (by simp)
  · exact absurd h (by simp)

/-- A letter other than the quote adds no quote to the count. -/
theorem count_quote_cons {b : UInt8} (h : b ≠ quote) (s : Bytes) :
    (b :: s).count quote = s.count quote :=
  List.count_cons_of_ne h

theorem length_utf8_le (cp : Nat) : (utf8 cp).length ≤ 4 := by
  unfold utf8
  split_ifs <;> simp

theorem lowSurrogate_spec {high : Nat} {s d rest : Bytes}
    (h : lowSurrogate high s = some (d, rest)) :
    ∃ raw, s = raw ++ rest ∧ raw.length = 6 ∧ raw.count quote = 0 ∧ d.length ≤ 4 := by
  unfold lowSurrogate at h
  split at h
  · rename_i b u rest'
    split at h
    · rename_i hbu
      obtain ⟨rfl, rfl⟩ := hbu
      split at h
      · rename_i low rest'' hx
        split at h
        · simp only [Option.some.injEq, Prod.mk.injEq] at h
          obtain ⟨rfl, rfl⟩ := h
          obtain ⟨raw, rfl, hlen, hq⟩ := hex4_spec hx
          refine ⟨backslash :: 117 :: raw, rfl, by simp [hlen], ?_, length_utf8_le _⟩
          rw [count_quote_cons (by decide), count_quote_cons (by decide), hq]
        · exact absurd h (by simp)
      · exact absurd h (by simp)
    · exact absurd h (by simp)
  · exact absurd h (by simp)

/-- An escape decodes to no more bytes than follow its backslash, and passes a quote only by
decoding to one. -/
theorem escape_spec {s d rest : Bytes} (h : escape s = some (d, rest)) :
    ∃ raw, s = raw ++ rest ∧ d.length ≤ raw.length ∧ raw.count quote ≤ d.count quote := by
  -- the one-letter escapes, whose letter is not a quote
  have letter : ∀ (b c : UInt8) (tail : Bytes), b ≠ quote → some ([c], tail) = some (d, rest) →
      ∃ raw, b :: tail = raw ++ rest ∧ d.length ≤ raw.length ∧ raw.count quote ≤ d.count quote := by
    intro b c tail hb he
    simp only [Option.some.injEq, Prod.mk.injEq] at he
    obtain ⟨rfl, rfl⟩ := he
    refine ⟨[b], rfl, le_rfl, ?_⟩
    rw [count_quote_cons hb, List.count_nil]
    exact Nat.zero_le _
  unfold escape at h
  split at h
  · exact absurd h (by simp)
  rename_i b tail
  split_ifs at h with h1 h2 h3 h4 h5 h6 h7
  · simp only [Option.some.injEq, Prod.mk.injEq] at h
    obtain ⟨rfl, rfl⟩ := h
    exact ⟨[b], rfl, le_rfl, le_rfl⟩
  · exact letter b 8 tail (by rw [h2]; decide) h
  · exact letter b 12 tail (by rw [h3]; decide) h
  · exact letter b 10 tail (by rw [h4]; decide) h
  · exact letter b 13 tail (by rw [h5]; decide) h
  · exact letter b 9 tail (by rw [h6]; decide) h
  · subst h7
    split at h
    · rename_i u rest' hx
      obtain ⟨raw, rfl, hlen, hq⟩ := hex4_spec hx
      split_ifs at h with hs1 hs2
      · obtain ⟨raw', rfl, hlen', hq', hd⟩ := lowSurrogate_spec h
        refine ⟨117 :: (raw ++ raw'), by simp, ?_, ?_⟩
        · simp only [List.length_cons, List.length_append]; omega
        · rw [count_quote_cons (by decide), List.count_append, hq, hq']
          exact Nat.zero_le _
      · simp only [Option.some.injEq, Prod.mk.injEq] at h
        obtain ⟨rfl, rfl⟩ := h
        refine ⟨117 :: raw, rfl, ?_, ?_⟩
        · have := length_utf8_le u
          simp only [List.length_cons]; omega
        · rw [count_quote_cons (by decide), hq]
          exact Nat.zero_le _
    · exact absurd h (by simp)

/-- **What a decoded string says about its text**: the text ends at a quote, it is plain and stands
for itself or it is longer than what it stands for, and no quote of it is lost. -/
theorem strBody_spec : ∀ {n : Nat} {s d rest : Bytes}, strBody n s = some (d, rest) →
    ∃ raw, s = raw ++ quote :: rest ∧ (Plain raw ∧ d = raw ∨ d.length < raw.length) ∧
      raw.count quote ≤ d.count quote
  | 0, _, _, _, h => absurd h (by simp [strBody])
  | _ + 1, [], _, _, h => absurd h (by simp [strBody])
  | n + 1, b :: tail, d, rest, h => by
    unfold strBody at h
    split_ifs at h with hq hb hc
    · simp only [Option.some.injEq, Prod.mk.injEq] at h
      obtain ⟨rfl, rfl⟩ := h
      exact ⟨[], by rw [hq]; rfl, Or.inl ⟨plain_nil, rfl⟩, le_rfl⟩
    · split at h
      · rename_i e tail' he
        obtain ⟨⟨d', rest'⟩, hbody, hd⟩ := Option.map_eq_some_iff.mp h
        simp only [Prod.mk.injEq] at hd
        obtain ⟨rfl, rfl⟩ := hd
        obtain ⟨esc, rfl, hlen, hcount⟩ := escape_spec he
        obtain ⟨raw, rfl, hraw, hrawc⟩ := strBody_spec hbody
        have hle : d'.length ≤ raw.length := by
          rcases hraw with ⟨-, rfl⟩ | hlt
          · exact le_rfl
          · exact le_of_lt hlt
        refine ⟨b :: (esc ++ raw), by simp, Or.inr ?_, ?_⟩
        · simp only [List.length_append, List.length_cons]; omega
        · rw [count_quote_cons hq, List.count_append, List.count_append]; omega
      · exact absurd h (by simp)
    · obtain ⟨⟨d', rest'⟩, hbody, hd⟩ := Option.map_eq_some_iff.mp h
      simp only [Prod.mk.injEq] at hd
      obtain ⟨rfl, rfl⟩ := hd
      obtain ⟨raw, rfl, hraw, hrawc⟩ := strBody_spec hbody
      refine ⟨b :: raw, rfl, ?_, ?_⟩
      · rcases hraw with ⟨hp, rfl⟩ | hlt
        · exact Or.inl ⟨plain_cons.mpr ⟨⟨hq, hb, UInt8.not_lt.mp hc⟩, hp⟩, rfl⟩
        · exact Or.inr (by simpa using hlt)
      · simp only [List.count_cons]; omega

theorem strBody_plain : ∀ {n : Nat} {p : Bytes}, Plain p → p.length < n → ∀ rest,
    strBody n (p ++ quote :: rest) = some (p, rest)
  | 0, _, _, hn, _ => absurd hn (Nat.not_lt_zero _)
  | n + 1, [], _, _, rest => by simp [strBody]
  | n + 1, b :: p, hp, hn, rest => by
    obtain ⟨⟨hq, hb, hc⟩, hp⟩ := plain_cons.mp hp
    rw [List.cons_append, strBody, if_neg hq, if_neg hb, if_neg (UInt8.not_lt.mpr hc),
      strBody_plain hp (by simpa using hn) rest]
    rfl

theorem string_plain {p : Bytes} (hp : Plain p) (rest : Bytes) :
    string (p ++ quote :: rest) = some (p, rest) :=
  strBody_plain hp (by simp) rest

/-- **A text between quotes stands for itself iff it is plain.** -/
theorem string_eq_self_iff {p rest rest' : Bytes} :
    string (p ++ quote :: rest) = some (p, rest') ↔ Plain p ∧ rest' = rest := by
  refine ⟨fun h => ?_, fun ⟨hp, hr⟩ => hr ▸ string_plain hp rest⟩
  obtain ⟨raw, heq, hraw, hcount⟩ := strBody_spec h
  rcases List.append_eq_append_iff.mp heq with ⟨x, rfl, hx⟩ | ⟨x, rfl, hx⟩
  · -- the text ends at or behind the closing quote
    cases x with
    | nil =>
      rw [List.append_nil] at hraw
      rcases hraw with ⟨hp, -⟩ | hlt
      · simp only [List.nil_append, List.cons.injEq, true_and] at hx
        exact ⟨hp, hx.symm⟩
      · exact absurd hlt (lt_irrefl _)
    | cons c x =>
      -- that quote would have been passed by an escape, and would show up once more in `p`
      simp only [List.cons_append, List.cons.injEq] at hx
      rw [← hx.1, List.count_append, List.count_cons_self] at hcount
      omega
  · -- the text ends inside `p`, so it stands for less than `p`
    cases x with
    | nil =>
      simp only [List.nil_append, List.cons.injEq, true_and] at hx
      rw [List.append_nil] at hraw ⊢
      rcases hraw with ⟨hp, -⟩ | hlt
      · exact ⟨hp, hx⟩
      · exact absurd hlt (lt_irrefl _)
    | cons c x =>
      exfalso
      rcases hraw with ⟨-, he⟩ | hlt
      · have := congrArg List.length he
        simp only [List.length_append, List.length_cons] at this
        omega
      · simp only [List.length_append, List.length_cons] at hlt
        omega

/-! ## Values -/

/-- Space, tab, line feed, carriage return. -/
def isSpace (b : UInt8) : Bool := b == 32 || b == 9 || b == 10 || b == 13

/-- The text behind its white space. -/
def skipWs (s : Bytes) : Bytes := s.dropWhile isSpace

/-- One digit or more. -/
def digits (s : Bytes) : Option (Bytes × Bytes) :=
  let (ds, rest) := s.span isDigit
  if ds = [] then none else some (ds, rest)

/-- `0`, or digits that do not begin with `0`. -/
def intPart : Bytes → Option (Bytes × Bytes)
  | 48 :: rest => some ([48], rest)
  | s => digits s

/-- A fraction, where there is one. -/
def fraction : Bytes → Option (Bytes × Bytes)
  | 46 :: rest => (digits rest).map fun p => (46 :: p.1, p.2)
  | s => some ([], s)

/-- An exponent, where there is one. -/
def exponent : Bytes → Option (Bytes × Bytes)
  | e :: rest =>
    if e = 101 ∨ e = 69 then
      match rest with
      | sign :: rest' =>
        if sign = 43 ∨ sign = 45 then (digits rest').map fun p => (e :: sign :: p.1, p.2)
        else (digits rest).map fun p => (e :: p.1, p.2)
      | [] => none
    else some ([], e :: rest)
  | [] => some ([], [])

/-- A number without its sign, and what follows it. -/
def unsigned (s : Bytes) : Option (Bytes × Bytes) :=
  match intPart s with
  | none => none
  | some (i, rest) =>
    match fraction rest with
    | none => none
    | some (f, rest) => (exponent rest).map fun p => (i ++ f ++ p.1, p.2)

/-- A number: its text and the rest. -/
def number : Bytes → Option (Bytes × Bytes)
  | 45 :: rest => (unsigned rest).map fun p => (45 :: p.1, p.2)
  | s => unsigned s

/-- `lit` stands next. -/
def literal (lit : Bytes) (v : Json) (s : Bytes) : Option (Json × Bytes) :=
  if lit.isPrefixOf s then some (v, s.drop lit.length) else none

/-- A member's name up to the colon. -/
def key (s : Bytes) : Option (Bytes × Bytes) :=
  match skipWs s with
  | [] => none
  | b :: rest =>
    if b = quote then
      match string rest with
      | none => none
      | some (k, rest) =>
        if (skipWs rest).head? = some 58 then some (k, (skipWs rest).tail) else none
    else none

mutual

/-- One value behind any white space, and the rest. -/
def value : Nat → Bytes → Option (Json × Bytes)
  | 0, _ => none
  | n + 1, s =>
    match skipWs s with
    | [] => none
    | b :: rest =>
      if b = quote then (string rest).map fun p => (.str p.1, p.2)
      else if b = 123 then object n rest
      else if b = 91 then array n rest
      else if b = 116 then literal (ascii "true") (.bool true) (b :: rest)
      else if b = 102 then literal (ascii "false") (.bool false) (b :: rest)
      else if b = 110 then literal (ascii "null") .null (b :: rest)
      else (number (b :: rest)).map fun p => (.num p.1, p.2)

/-- What follows `[`. -/
def array : Nat → Bytes → Option (Json × Bytes)
  | 0, _ => none
  | n + 1, s =>
    if (skipWs s).head? = some 93 then some (.arr [], (skipWs s).tail)
    else (elements n s).map fun p => (.arr p.1, p.2)

/-- One element or more, up to `]`. -/
def elements : Nat → Bytes → Option (List Json × Bytes)
  | 0, _ => none
  | n + 1, s =>
    match value n s with
    | none => none
    | some (v, rest) =>
      match skipWs rest with
      | [] => none
      | b :: rest =>
        if b = 44 then (elements n rest).map fun p => (v :: p.1, p.2)
        else if b = 93 then some ([v], rest)
        else none

/-- What follows `{`. -/
def object : Nat → Bytes → Option (Json × Bytes)
  | 0, _ => none
  | n + 1, s =>
    if (skipWs s).head? = some 125 then some (.obj [], (skipWs s).tail)
    else (members n s).map fun p => (.obj p.1, p.2)

/-- One member or more, up to `}`. -/
def members : Nat → Bytes → Option (List (Bytes × Json) × Bytes)
  | 0, _ => none
  | n + 1, s =>
    match key s with
    | none => none
    | some (k, rest) =>
      match value n rest with
      | none => none
      | some (v, rest) =>
        match skipWs rest with
        | [] => none
        | b :: rest =>
          if b = 44 then (members n rest).map fun p => ((k, v) :: p.1, p.2)
          else if b = 125 then some ([(k, v)], rest)
          else none

end

/-- **A whole document**: one value, and nothing but white space behind it. -/
def parse (s : Bytes) : Option Json :=
  match value (2 * s.length + 2) s with
  | some (v, rest) => if skipWs rest = [] then some v else none
  | none => none

/-- The value of a member; the last one counts where a name stands twice. -/
def member (k : Bytes) (ms : List (Bytes × Json)) : Option Json :=
  (ms.reverse.find? fun m => m.1 == k).map Prod.snd

/-! ### One step of the decoder -/

theorem skipWs_cons {b : UInt8} {s : Bytes} (h : isSpace b = false) : skipWs (b :: s) = b :: s := by
  simp [skipWs, h]

theorem value_quote (n : Nat) (s : Bytes) :
    value (n + 1) (quote :: s) = (string s).map fun p => (.str p.1, p.2) := by
  rw [value, skipWs_cons (by decide)]
  rfl

theorem value_brace (n : Nat) (s : Bytes) : value (n + 1) (123 :: s) = object n s := by
  rw [value, skipWs_cons (by decide)]
  rfl

theorem value_bracket (n : Nat) (s : Bytes) : value (n + 1) (91 :: s) = array n s := by
  rw [value, skipWs_cons (by decide)]
  rfl

theorem object_quote (n : Nat) (s : Bytes) :
    object (n + 1) (quote :: s) = (members n (quote :: s)).map fun p => (.obj p.1, p.2) := by
  rw [object, skipWs_cons (by decide)]
  rfl

theorem array_of_head {s : Bytes} (h : (skipWs s).head? ≠ some 93) (n : Nat) :
    array (n + 1) s = (elements n s).map fun p => (.arr p.1, p.2) := by
  rw [array, if_neg h]

theorem key_plain {k : Bytes} (hk : Plain k) (rest : Bytes) :
    key (quote :: (k ++ quote :: 58 :: rest)) = some (k, rest) := by
  rw [key, skipWs_cons (by decide)]
  simp only [if_true, string_plain hk]
  rw [skipWs_cons (by decide)]
  rfl

/-- A value does not begin with `]`. -/
theorem head_ne_of_value {n : Nat} {s rest : Bytes} {v : Json} (h : value n s = some (v, rest)) :
    (skipWs s).head? ≠ some 93 := by
  intro hd
  cases n with
  | zero => exact absurd h (by simp [value])
  | succ n =>
    obtain ⟨tail, ht⟩ := List.head?_eq_some_iff.mp hd
    rw [value, ht] at h
    have hnum : number (93 :: tail) = none := by
      simp [number, unsigned, intPart, digits, List.span_eq_takeWhile_dropWhile, isDigit]
    have hq : (93 : UInt8) ≠ quote := by decide
    simp [hnum, hq] at h

/-- What stands behind a string that a text between quotes is read as. -/
theorem value_str_iff {n : Nat} {p rest rest' : Bytes} :
    value (n + 1) (quote :: (p ++ quote :: rest)) = some (.str p, rest') ↔
      Plain p ∧ rest' = rest := by
  rw [value_quote, ← string_eq_self_iff, Option.map_eq_some_iff]
  constructor
  · rintro ⟨⟨d, r⟩, hs, he⟩
    simp only [Prod.mk.injEq, Json.str.injEq] at he
    rw [hs, he.1, he.2]
  · intro hs
    exact ⟨_, hs, rfl⟩

/-- One element, and what follows it. -/
theorem elements_cons_iff {n : Nat} {s rest : Bytes} {v : Json} {vs : List Json} :
    elements (n + 1) s = some (v :: vs, rest) ↔
      ∃ tail, value n s = some (v, tail) ∧
        ((∃ tail', skipWs tail = 44 :: tail' ∧ elements n tail' = some (vs, rest)) ∨
          (skipWs tail = 93 :: rest ∧ vs = [])) := by
  rw [elements]
  cases value n s with
  | none => simp
  | some q =>
    obtain ⟨w, tail⟩ := q
    simp only [Option.some.injEq, Prod.mk.injEq]
    constructor
    · intro h
      cases ht : skipWs tail with
      | nil => simp [ht] at h
      | cons b tail' =>
        simp only [ht] at h
        split_ifs at h with hb hb
        · obtain ⟨⟨vs', r⟩, he, hp⟩ := Option.map_eq_some_iff.mp h
          simp only [Prod.mk.injEq, List.cons.injEq] at hp
          obtain ⟨⟨rfl, rfl⟩, rfl⟩ := hp
          exact ⟨tail, ⟨rfl, rfl⟩, Or.inl ⟨tail', by rw [ht, hb], he⟩⟩
        · simp only [Option.some.injEq, Prod.mk.injEq, List.cons.injEq] at h
          obtain ⟨⟨rfl, rfl⟩, rfl⟩ := h
          exact ⟨tail, ⟨rfl, rfl⟩, Or.inr ⟨by rw [ht, hb], rfl⟩⟩
    · rintro ⟨t, ⟨rfl, rfl⟩, ⟨tail', ht, he⟩ | ⟨ht, rfl⟩⟩
      · simp [ht, he]
      · simp [ht]

/-- One member with a plain name, and what follows it. -/
theorem members_cons_iff {n : Nat} {k s rest : Bytes} {v : Json} {ms : List (Bytes × Json)}
    (hk : Plain k) :
    members (n + 1) (quote :: (k ++ quote :: 58 :: s)) = some ((k, v) :: ms, rest) ↔
      ∃ tail, value n s = some (v, tail) ∧
        ((∃ tail', skipWs tail = 44 :: tail' ∧ members n tail' = some (ms, rest)) ∨
          (skipWs tail = 125 :: rest ∧ ms = [])) := by
  rw [members, key_plain hk]
  cases hv : value n s with
  | none => simp [hv]
  | some q =>
    obtain ⟨w, tail⟩ := q
    simp only [hv, Option.some.injEq, Prod.mk.injEq]
    constructor
    · intro h
      cases ht : skipWs tail with
      | nil => simp [ht] at h
      | cons b tail' =>
        simp only [ht] at h
        split_ifs at h with hb hb
        · obtain ⟨⟨ms', r⟩, he, hp⟩ := Option.map_eq_some_iff.mp h
          simp only [Prod.mk.injEq, List.cons.injEq, true_and] at hp
          obtain ⟨⟨rfl, rfl⟩, rfl⟩ := hp
          exact ⟨tail, ⟨rfl, rfl⟩, Or.inl ⟨tail', by rw [ht, hb], he⟩⟩
        · simp only [Option.some.injEq, Prod.mk.injEq, List.cons.injEq, true_and] at h
          obtain ⟨⟨rfl, rfl⟩, rfl⟩ := h
          exact ⟨tail, ⟨rfl, rfl⟩, Or.inr ⟨by rw [ht, hb], rfl⟩⟩
    · rintro ⟨t, ⟨rfl, rfl⟩, ⟨tail', ht, he⟩ | ⟨ht, rfl⟩⟩
      · simp [ht, he]
      · simp [ht]

/-- An object with a first member, and what follows that member's value. -/
theorem value_obj_iff {n : Nat} {k s rest : Bytes} {v : Json} {ms : List (Bytes × Json)}
    (hk : Plain k) :
    value (n + 3) (123 :: quote :: (k ++ quote :: 58 :: s)) = some (.obj ((k, v) :: ms), rest) ↔
      ∃ tail, value n s = some (v, tail) ∧
        ((∃ tail', skipWs tail = 44 :: tail' ∧ members n tail' = some (ms, rest)) ∨
          (skipWs tail = 125 :: rest ∧ ms = [])) := by
  rw [value_brace, object_quote, ← members_cons_iff hk, Option.map_eq_some_iff]
  constructor
  · rintro ⟨⟨ms', r⟩, hm, he⟩
    simp only [Prod.mk.injEq, Json.obj.injEq] at he
    rw [hm, he.1, he.2]
  · intro hm
    exact ⟨_, hm, rfl⟩

/-- An array with a first element, and what follows it. -/
theorem value_arr_iff {n : Nat} {s rest : Bytes} {v : Json} {vs : List Json} :
    value (n + 3) (91 :: s) = some (.arr (v :: vs), rest) ↔
      ∃ tail, value n s = some (v, tail) ∧
        ((∃ tail', skipWs tail = 44 :: tail' ∧ elements n tail' = some (vs, rest)) ∨
          (skipWs tail = 93 :: rest ∧ vs = [])) := by
  rw [value_bracket, ← elements_cons_iff]
  constructor
  · intro h
    by_cases hd : (skipWs s).head? = some 93
    · rw [array, if_pos hd] at h
      exact absurd h (by simp)
    · rw [array_of_head hd, Option.map_eq_some_iff] at h
      obtain ⟨⟨vs', r⟩, hm, he⟩ := h
      simp only [Prod.mk.injEq, Json.arr.injEq] at he
      rw [hm, he.1, he.2]
  · intro h
    obtain ⟨tail, hv, -⟩ := elements_cons_iff.mp h
    rw [array_of_head (head_ne_of_value hv), h]
    rfl

/-- What a whole document is read as, its first value is read as. -/
theorem value_of_parse {s : Bytes} {v : Json} (h : parse s = some v) :
    ∃ rest, value (2 * s.length + 2) s = some (v, rest) := by
  unfold parse at h
  split at h
  · rename_i w rest hw
    split at h
    · exact ⟨rest, by rw [hw, Option.some.inj h]⟩
    · exact absurd h (by simp)
  · exact absurd h (by simp)

/-! ## Texts that are read whatever follows them -/

/-- `text` is read as `v` whatever follows it, given fuel `n`. -/
def Reads (n : Nat) (text : Bytes) (v : Json) : Prop :=
  ∀ m, n ≤ m → ∀ rest, value m (text ++ rest) = some (v, rest)

/-- The texts with commas between them. -/
def commaSep : List Bytes → Bytes
  | [] => []
  | [t] => t
  | t :: u :: ts => t ++ 44 :: commaSep (u :: ts)

theorem commaSep_concat (t : Bytes) : ∀ ts : List Bytes,
    commaSep (ts ++ [t]) = (if ts = [] then [] else commaSep ts ++ [44]) ++ t
  | [] => rfl
  | [_] => by simp [commaSep]
  | u :: v :: ts => by
    have ih := commaSep_concat t (v :: ts)
    simp only [List.cons_append, commaSep, reduceCtorEq, if_false] at ih ⊢
    rw [ih]
    simp only [List.append_assoc, List.cons_append]

/-- `"k":text` -/
def memberText (k text : Bytes) : Bytes := quote :: (k ++ quote :: 58 :: text)

/-- `"p"` -/
def stringText (p : Bytes) : Bytes := quote :: (p ++ [quote])

theorem length_le_commaSep : ∀ ts : List Bytes, (∀ t ∈ ts, t ≠ []) →
    ts.length ≤ (commaSep ts).length
  | [], _ => le_rfl
  | [t], h => List.length_pos_iff.mpr (h t List.mem_cons_self)
  | t :: u :: ts, h => by
    have ih := length_le_commaSep (u :: ts) fun x hx => h x (List.mem_cons_of_mem t hx)
    simp only [commaSep, List.length_append, List.length_cons] at ih ⊢
    omega

theorem mem_commaSep {b : UInt8} : ∀ {ts : List Bytes}, b ∈ commaSep ts → b = 44 ∨ ∃ t ∈ ts, b ∈ t
  | [t], h => Or.inr ⟨t, List.mem_cons_self, h⟩
  | t :: u :: ts, h => by
    rcases List.mem_append.mp h with ht | hc
    · exact Or.inr ⟨t, List.mem_cons_self, ht⟩
    · rcases List.mem_cons.mp hc with rfl | hc
      · exact Or.inl rfl
      · rcases mem_commaSep hc with hb | ⟨x, hx, hb⟩
        · exact Or.inl hb
        · exact Or.inr ⟨x, List.mem_cons_of_mem t hx, hb⟩

theorem exists_succ_of_lt {n m : Nat} (h : n < m) : ∃ k, m = k + 1 ∧ n ≤ k :=
  ⟨m - 1, by omega, by omega⟩

theorem Reads.str {p : Bytes} (hp : Plain p) : Reads 1 (stringText p) (.str p) := by
  intro m hm rest
  obtain ⟨m, rfl, -⟩ := exists_succ_of_lt hm
  simp only [stringText, List.cons_append, List.append_assoc, List.nil_append]
  exact value_str_iff.mpr ⟨hp, rfl⟩

theorem elements_commaSep {n : Nat} : ∀ {items : List (Bytes × Json)}, items ≠ [] →
    (∀ p ∈ items, Reads n p.1 p.2) → ∀ {m : Nat}, n + items.length ≤ m → ∀ rest,
      elements m (commaSep (items.map Prod.fst) ++ 93 :: rest) = some (items.map Prod.snd, rest)
  | [], h, _, _, _, _ => absurd rfl h
  | [p], _, hr, m, hm, rest => by
    obtain ⟨m, rfl, hnm⟩ := exists_succ_of_lt (show n < m from hm)
    exact elements_cons_iff.mpr ⟨93 :: rest, hr p List.mem_cons_self m hnm _,
      Or.inr ⟨skipWs_cons (by decide), rfl⟩⟩
  | p :: q :: ps, _, hr, m, hm, rest => by
    simp only [List.length_cons] at hm
    obtain ⟨m, rfl, hnm⟩ := exists_succ_of_lt (show n + (ps.length + 1) < m by omega)
    simp only [List.map_cons, commaSep, List.append_assoc, List.cons_append]
    refine elements_cons_iff.mpr ⟨_, hr p List.mem_cons_self m (by omega) _,
      Or.inl ⟨_, skipWs_cons (by decide), ?_⟩⟩
    exact elements_commaSep (List.cons_ne_nil q ps)
      (fun x hx => hr x (List.mem_cons_of_mem p hx)) (by simpa using hnm) rest

/-- **Arrays compose**, the empty one included. -/
theorem Reads.arr {n : Nat} (items : List (Bytes × Json)) (hr : ∀ p ∈ items, Reads n p.1 p.2) :
    Reads (n + items.length + 2) (91 :: (commaSep (items.map Prod.fst) ++ [93]))
      (.arr (items.map Prod.snd)) := by
  intro m hm rest
  obtain ⟨m, rfl, hm₁⟩ := exists_succ_of_lt (show n + items.length + 1 < m by omega)
  obtain ⟨m, rfl, hm₂⟩ := exists_succ_of_lt (show n + items.length < m by omega)
  simp only [List.cons_append, List.append_assoc, List.nil_append]
  rw [value_bracket]
  cases items with
  | nil => rfl
  | cons p ps =>
    have he := elements_commaSep (List.cons_ne_nil p ps) hr hm₂ rest
    have hhead : (skipWs (commaSep ((p :: ps).map Prod.fst) ++ 93 :: rest)).head? ≠ some 93 := by
      obtain ⟨k, rfl, -⟩ := exists_succ_of_lt
        (show 0 < m by simp only [List.length_cons] at hm₂; omega)
      obtain ⟨tail, hv, -⟩ := elements_cons_iff.mp he
      exact head_ne_of_value hv
    rw [array_of_head hhead, he]
    rfl

theorem members_commaSep {n : Nat} : ∀ {ms : List (Bytes × Bytes × Json)}, ms ≠ [] →
    (∀ p ∈ ms, Plain p.1 ∧ Reads n p.2.1 p.2.2) → ∀ {m : Nat}, n + ms.length ≤ m → ∀ rest,
      members m (commaSep (ms.map fun p => memberText p.1 p.2.1) ++ 125 :: rest) =
        some (ms.map fun p => (p.1, p.2.2), rest)
  | [], h, _, _, _, _ => absurd rfl h
  | [p], _, hr, m, hm, rest => by
    obtain ⟨hp, hv⟩ := hr p List.mem_cons_self
    obtain ⟨m, rfl, hnm⟩ := exists_succ_of_lt (show n < m from hm)
    simp only [List.map_cons, List.map_nil, commaSep, memberText, List.cons_append,
      List.append_assoc]
    exact (members_cons_iff hp).mpr ⟨_, hv m hnm _, Or.inr ⟨skipWs_cons (by decide), rfl⟩⟩
  | p :: q :: ps, _, hr, m, hm, rest => by
    obtain ⟨hp, hv⟩ := hr p List.mem_cons_self
    simp only [List.length_cons] at hm
    obtain ⟨m, rfl, hnm⟩ := exists_succ_of_lt (show n + (ps.length + 1) < m by omega)
    have ih := members_commaSep (List.cons_ne_nil q ps)
      (fun x hx => hr x (List.mem_cons_of_mem p hx)) (m := m) (by simpa using hnm) rest
    simp only [List.map_cons, commaSep, memberText, List.cons_append, List.append_assoc] at ih ⊢
    exact (members_cons_iff hp).mpr ⟨_, hv m (by omega) _,
      Or.inl ⟨_, skipWs_cons (by decide), ih⟩⟩

/-- **Objects compose**: plain names, and values that are read whatever follows them. -/
theorem Reads.obj {n : Nat} (ms : List (Bytes × Bytes × Json)) (hne : ms ≠ [])
    (hr : ∀ p ∈ ms, Plain p.1 ∧ Reads n p.2.1 p.2.2) :
    Reads (n + ms.length + 2)
      (123 :: (commaSep (ms.map fun p => memberText p.1 p.2.1) ++ [125]))
      (.obj (ms.map fun p => (p.1, p.2.2))) := by
  intro m hm rest
  obtain ⟨m, rfl, hm₁⟩ := exists_succ_of_lt (show n + ms.length + 1 < m by omega)
  obtain ⟨m, rfl, hm₂⟩ := exists_succ_of_lt (show n + ms.length < m by omega)
  have he := members_commaSep hne hr hm₂ rest
  obtain ⟨tail, ht⟩ : ∃ tail, commaSep (ms.map fun p => memberText p.1 p.2.1) = quote :: tail := by
    match ms, hne with
    | [p], _ => exact ⟨_, rfl⟩
    | p :: q :: ps, _ => exact ⟨_, rfl⟩
  simp only [List.cons_append, List.append_assoc, List.nil_append] at he ⊢
  rw [value_brace]
  rw [ht, List.cons_append] at he ⊢
  rw [object_quote, he]
  rfl

/-- **A whole document is read back** once its text is. -/
theorem parse_of_reads {n : Nat} {text : Bytes} {v : Json} (h : Reads n text v)
    (hn : n ≤ 2 * text.length + 2) : parse text = some v := by
  have hv := h _ hn []
  rw [List.append_nil] at hv
  rw [parse, hv]
  rfl

end Json

end Thethings.Library
