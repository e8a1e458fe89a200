import Thethings.Library.Bytes

/-!
# HTTP/1.1 requests

A reader for one request of the message grammar of RFC 9112 at the front of a byte string: a request
line, field lines, the first blank line, and a body of the length that `Content-Length` declares.
What follows the body is the rest.

Choices:

* The reader is strict where the grammar is: lines end in CR LF, a request line is three parts with
  single spaces, a field name is a token right in front of its colon, a field value holds no control
  character but the tab. White space around a value is taken off.
* It knows no transfer codings, and refuses a request that has one or that declares its length
  twice. With no declared length there is no body.
* The target is any text without a space: what form it has is another reader's question. The same
  goes for what a field says.
* The head is cut off at the first blank line and then taken apart line by line, so each reader is a
  function of a finished text and needs no fuel.

Results:

* `parse_requestText`: a request written from its lines and its body is read back, whatever follows
  it.
* `parse_take`: of a request that breaks off nothing is read.
* `eq_of_parse`: what is read begins with the method, a space, the target and a space.
-/

namespace Thethings.Library

/-- A request that has been read. -/
structure Request where
  method : Bytes
  target : Bytes
  fields : List (Bytes × Bytes)
  body : Bytes
  deriving DecidableEq

namespace Request

/-- The end of a line. -/
def crlf : Bytes := [13, 10]

/-- The lines of a text, without their ends. -/
def lines : Bytes → List Bytes
  | [] => [[]]
  | 13 :: 10 :: s => [] :: lines s
  | b :: s => (lines s).modifyHead (b :: ·)

/-- A letter. -/
def isAlpha (b : UInt8) : Bool := (65 ≤ b && b ≤ 90) || (97 ≤ b && b ≤ 122)

/-- A byte of a token: a letter, a digit, or one of fifteen signs. -/
def isTchar (b : UInt8) : Bool :=
  isAlpha b || isDigit b ||
    [33, 35, 36, 37, 38, 39, 42, 43, 45, 46, 94, 95, 96, 124, 126].contains b

/-- A token: the name of a method or of a field. -/
def isToken (s : Bytes) : Bool := s != [] && s.all isTchar

/-- Method and target of a request line of version 1.1. -/
def requestLine (line : Bytes) : Option (Bytes × Bytes) :=
  match line.splitOn 32 with
  | [method, target, version] =>
    if isToken method && target != [] && version == ascii "HTTP/1.1" then some (method, target)
    else none
  | _ => none

/-- A space or a tab. -/
def isBlank (b : UInt8) : Bool := b == 32 || b == 9

/-- A value without the blanks around it. -/
def trim (s : Bytes) : Bytes := ((s.dropWhile isBlank).reverse.dropWhile isBlank).reverse

/-- A byte of a field value: no control character but the tab. -/
def isFieldByte (b : UInt8) : Bool := b == 9 || 32 ≤ b && b != 127

/-- Name and value of a field line. -/
def fieldLine (line : Bytes) : Option (Bytes × Bytes) :=
  match cut [58] line with
  | some (name, value) =>
    if isToken name && (trim value).all isFieldByte then some (name, trim value) else none
  | none => none

/-- In lower case, as field names are compared. -/
def lower (s : Bytes) : Bytes := s.map fun b => if 65 ≤ b && b ≤ 90 then b + 32 else b

/-- The values of the fields of a name, in whatever case it is written. -/
def values (name : Bytes) (fields : List (Bytes × Bytes)) : List Bytes :=
  (fields.filter fun f => lower f.1 == lower name).map Prod.snd

/-- The length of the body: none is declared, or one. -/
def bodyLength (fields : List (Bytes × Bytes)) : Option Nat :=
  if values (ascii "Transfer-Encoding") fields ≠ [] then none
  else
    match values (ascii "Content-Length") fields with
    | [] => some 0
    | [length] => readDecimal length
    | _ => none

/-- The request of a head and what stands behind its blank line. -/
def ofHead (head rest : Bytes) : Option (Request × Bytes) :=
  match lines head with
  | [] => none
  | start :: fieldLines =>
    match requestLine start, fieldLines.mapM fieldLine with
    | some (method, target), some fields =>
      match bodyLength fields with
      | some n =>
        if n ≤ rest.length then some (⟨method, target, fields, rest.take n⟩, rest.drop n) else none
      | none => none
    | _, _ => none

/-- **One request**, and what follows it. -/
def parse (s : Bytes) : Option (Request × Bytes) :=
  match cut (crlf ++ crlf) s with
  | some (head, rest) => ofHead head rest
  | none => none

/-! ## Lines -/

theorem lines_crlf (s : Bytes) : lines (13 :: 10 :: s) = [] :: lines s := by rw [lines]

theorem lines_cons {b : UInt8} (hb : b ≠ 13) (s : Bytes) :
    lines (b :: s) = (lines s).modifyHead (b :: ·) := by
  rw [lines]
  intro s' he
  exact absurd he hb

theorem lines_append {line : Bytes} (h : 13 ∉ line) (s : Bytes) :
    lines (line ++ (crlf ++ s)) = line :: lines s := by
  induction line with
  | nil => exact lines_crlf s
  | cons b line ih =>
    rw [List.mem_cons, not_or] at h
    rw [List.cons_append, lines_cons (Ne.symm h.1), ih h.2]
    rfl

theorem lines_of_notMem {line : Bytes} (h : 13 ∉ line) : lines line = [line] := by
  induction line with
  | nil => rfl
  | cons b line ih =>
    rw [List.mem_cons, not_or] at h
    rw [lines_cons (Ne.symm h.1), ih h.2]
    rfl

/-- The text of a head, up to the blank line. -/
def headText (ls : List Bytes) : Bytes := crlf.intercalate ls

theorem headText_singleton (line : Bytes) : headText [line] = line := List.intercalate_singleton

theorem headText_cons (line line' : Bytes) (ls : List Bytes) :
    headText (line :: line' :: ls) = line ++ (crlf ++ headText (line' :: ls)) := by
  rw [headText, List.intercalate_cons_cons, List.append_assoc]
  rfl

/-- A head begins with its first line. -/
theorem line_starts (line : Bytes) (ls : List Bytes) : line <+: headText (line :: ls) := by
  cases ls with
  | nil => exact ⟨[], by rw [headText_singleton, List.append_nil]⟩
  | cons line' ls => exact ⟨_, (headText_cons line line' ls).symm⟩

theorem lines_ne_nil (s : Bytes) : lines s ≠ [] := by
  fun_induction lines s with
  | case1 => exact List.cons_ne_nil _ _
  | case2 s ih => exact List.cons_ne_nil _ _
  | case3 b s h ih => rwa [ne_eq, List.modifyHead_eq_nil_iff]

/-- The lines of a text, put together again. -/
theorem headText_lines (s : Bytes) : headText (lines s) = s := by
  fun_induction lines s with
  | case1 => rfl
  | case2 s ih =>
    obtain ⟨line, ls, hl⟩ := List.exists_cons_of_ne_nil (lines_ne_nil s)
    rw [hl] at ih ⊢
    rw [headText_cons, ih]
    rfl
  | case3 b s h ih =>
    obtain ⟨line, ls, hl⟩ := List.exists_cons_of_ne_nil (lines_ne_nil s)
    rw [hl] at ih ⊢
    cases ls with
    | nil =>
      rw [headText_singleton] at ih
      rw [ih]
      exact headText_singleton (b :: s)
    | cons line' ls =>
      rw [headText_cons] at ih
      rw [List.modifyHead_cons, headText_cons, List.cons_append, ih]

theorem lines_headText {ls : List Bytes} (hne : ls ≠ []) (h : ∀ line ∈ ls, 13 ∉ line) :
    lines (headText ls) = ls := by
  induction ls with
  | nil => exact absurd rfl hne
  | cons line ls ih =>
    rw [List.forall_mem_cons] at h
    cases ls with
    | nil => rw [headText_singleton, lines_of_notMem h.1]
    | cons line' ls => rw [headText_cons, lines_append h.1, ih (List.cons_ne_nil _ _) h.2]

/-- A head begins with the first byte of its first line. -/
theorem headText_eq_cons {ls : List Bytes} (hne : ls ≠ []) (h : ∀ line ∈ ls, 13 ∉ line)
    (hempty : ∀ line ∈ ls, line ≠ []) : ∃ b s, headText ls = b :: s ∧ b ≠ 13 := by
  match ls, hne with
  | [] :: _, _ => exact absurd rfl (hempty [] List.mem_cons_self)
  | [b :: line], _ =>
    rw [headText_singleton]
    exact ⟨b, line, rfl, fun hb => h _ List.mem_cons_self (hb ▸ List.mem_cons_self)⟩
  | (b :: line) :: line' :: ls, _ =>
    rw [headText_cons]
    exact ⟨b, _, rfl, fun hb => h _ List.mem_cons_self (hb ▸ List.mem_cons_self)⟩

/-- No blank line begins in a line that another one follows. -/
theorem find_blank_cons {line : Bytes} (h : 13 ∉ line) {b : UInt8} (hb : b ≠ 13) (s : Bytes) :
    find (crlf ++ crlf) (line ++ (crlf ++ b :: s)) =
      (find (crlf ++ crlf) (b :: s)).map (· + (crlf.length + line.length)) := by
  have hcr : ¬ crlf ++ crlf <+: 13 :: 10 :: b :: s := by
    simp [crlf, Ne.symm hb]
  have hlf : ¬ crlf ++ crlf <+: 10 :: b :: s := by
    simp [crlf]
  have hmove : find (crlf ++ crlf) (line ++ (crlf ++ b :: s)) =
      (find (crlf ++ crlf) (13 :: 10 :: b :: s)).map (· + line.length) := find_append_of_notMem h _
  rw [hmove, find_cons_of_not_starts hcr, find_cons_of_not_starts hlf, Option.map_map,
    Option.map_map]
  congr 1
  funext n
  simp only [Function.comp_apply, crlf, List.length_cons, List.length_nil]
  omega

/-- **The first blank line ends the head**, where no line of it is empty. -/
theorem find_blank {ls : List Bytes} (hne : ls ≠ []) (h : ∀ line ∈ ls, 13 ∉ line)
    (hempty : ∀ line ∈ ls, line ≠ []) (rest : Bytes) :
    find (crlf ++ crlf) (headText ls ++ (crlf ++ crlf ++ rest)) = some (headText ls).length := by
  induction ls with
  | nil => exact absurd rfl hne
  | cons line ls ih =>
    rw [List.forall_mem_cons] at h hempty
    cases ls with
    | nil =>
      have hblank : crlf ++ crlf = 13 :: [10, 13, 10] := rfl
      rw [headText_singleton, hblank, find_append_of_notMem h.1,
        find_of_starts (List.prefix_append _ _), Option.map_some, Nat.zero_add]
    | cons line' ls =>
      have hnext := ih (List.cons_ne_nil _ _) h.2 hempty.2
      obtain ⟨b, s, hs, hb⟩ := headText_eq_cons (List.cons_ne_nil line' ls) h.2 hempty.2
      rw [headText_cons, hs, List.append_assoc, List.append_assoc, List.cons_append,
        find_blank_cons h.1 hb, ← List.cons_append, ← hs, hnext, Option.map_some]
      simp only [List.length_append]
      congr 1
      omega

/-! ## Lines that are read -/

theorem notMem_of_isToken {s : Bytes} (h : isToken s = true) {b : UInt8} (hb : isTchar b = false) :
    b ∉ s := by
  intro hm
  rw [isToken, Bool.and_eq_true, List.all_eq_true] at h
  exact absurd (hb.symm.trans (h.2 b hm)) Bool.false_ne_true

/-- A request line as it is written. -/
def startLine (method target : Bytes) : Bytes := method ++ 32 :: (target ++ 32 :: ascii "HTTP/1.1")

theorem requestLine_startLine {method target : Bytes} (hm : isToken method = true)
    (hne : target ≠ []) (ht : 32 ∉ target) :
    requestLine (startLine method target) = some (method, target) := by
  have hspace : 32 ∉ method := notMem_of_isToken hm (by decide)
  have hversion : (32 : UInt8) ∉ ascii "HTTP/1.1" := by decide
  have hne' : (target != []) = true := bne_iff_ne.mpr hne
  rw [requestLine, startLine, List.splitOn_append_cons_self_of_not_mem hspace,
    List.splitOn_append_cons_self_of_not_mem ht, List.splitOn_eq_singleton hversion]
  simp only [hm, hne', beq_self_eq_true, Bool.and_self, if_true]

theorem startLine_spec {method target : Bytes} (hm : isToken method = true) (ht : 13 ∉ target) :
    13 ∉ startLine method target ∧ startLine method target ≠ [] := by
  have hmethod : 13 ∉ method := notMem_of_isToken hm (by decide)
  have hversion : (13 : UInt8) ∉ ascii "HTTP/1.1" := by decide
  constructor
  · simp [startLine, hmethod, ht, hversion]
  · simp [startLine]

theorem trim_of {value : Bytes} (h : ∀ b ∈ value, isBlank b = false) :
    trim (32 :: value) = value := by
  have hdrop : ∀ {s : Bytes}, (∀ b ∈ s, isBlank b = false) → s.dropWhile isBlank = s := by
    intro s hs
    cases s with
    | nil => rfl
    | cons b s =>
      rw [List.dropWhile_cons, hs b List.mem_cons_self]
      rfl
  have hspace : (32 :: value).dropWhile isBlank = value := by
    rw [List.dropWhile_cons]
    exact hdrop h
  rw [trim, hspace, hdrop fun b hb => h b (List.mem_reverse.mp hb), List.reverse_reverse]

theorem isBlank_of_isDigit {b : UInt8} (h : isDigit b = true) : isBlank b = false := by
  obtain ⟨h48, -⟩ := isDigit_iff.mp h
  have hspace : b ≠ 32 := fun hb => absurd (hb ▸ h48) (by decide)
  have htab : b ≠ 9 := fun hb => absurd (hb ▸ h48) (by decide)
  rw [isBlank, beq_false_of_ne hspace, beq_false_of_ne htab]
  rfl

theorem isFieldByte_of_isDigit {b : UInt8} (h : isDigit b = true) : isFieldByte b = true := by
  obtain ⟨h48, h57⟩ := isDigit_iff.mp h
  have hle : 32 ≤ b := UInt8.le_iff_toNat_le.mpr (le_trans (show 32 ≤ 48 by omega) h48)
  have hdel : b ≠ 127 := fun hb => absurd (hb ▸ h57) (by decide)
  rw [isFieldByte, decide_eq_true hle, bne_iff_ne.mpr hdel]
  exact Bool.or_true _

/-- A field whose value is a number. -/
theorem fieldLine_decimalNat {name : Bytes} (h : isToken name = true) (n : Nat) :
    fieldLine (name ++ 58 :: 32 :: decimalNat n) = some (name, decimalNat n) := by
  have htrim : trim (32 :: decimalNat n) = decimalNat n :=
    trim_of fun b hb => isBlank_of_isDigit (isDigit_of_mem_decimalNat hb)
  have hvalue : (decimalNat n).all isFieldByte = true :=
    List.all_eq_true.mpr fun b hb => isFieldByte_of_isDigit (isDigit_of_mem_decimalNat hb)
  rw [fieldLine, cut_byte (notMem_of_isToken h (by decide))]
  simp only [htrim, h, hvalue, Bool.and_self, if_true]

theorem values_append (name : Bytes) (fields fields' : List (Bytes × Bytes)) :
    values name (fields ++ fields') = values name fields ++ values name fields' := by
  rw [values, List.filter_append, List.map_append]
  rfl

theorem values_self (name value : Bytes) : values name [(name, value)] = [value] := by
  simp [values]

theorem values_of_ne {name name' : Bytes} (h : lower name' ≠ lower name) (value : Bytes) :
    values name [(name', value)] = [] := by
  simp [values, h]

/-! ## Reading back what was written -/

/-- A request as it is written: its lines, a blank line and its body. -/
def requestText (ls : List Bytes) (body : Bytes) : Bytes := headText ls ++ (crlf ++ crlf ++ body)

/-- **A written request is read back**, and nothing behind its body with it. -/
theorem parse_requestText {method target body : Bytes} {fieldLines : List Bytes}
    {fields : List (Bytes × Bytes)} (hmethod : isToken method = true) (hne : target ≠ [])
    (h32 : 32 ∉ target) (h13 : 13 ∉ target) (hlines : ∀ line ∈ fieldLines, 13 ∉ line ∧ line ≠ [])
    (hfields : fieldLines.mapM fieldLine = some fields)
    (hlength : bodyLength fields = some body.length) (rest : Bytes) :
    parse (requestText (startLine method target :: fieldLines) (body ++ rest)) =
      some (⟨method, target, fields, body⟩, rest) := by
  have hall : ∀ line ∈ startLine method target :: fieldLines, 13 ∉ line ∧ line ≠ [] :=
    List.forall_mem_cons.mpr ⟨startLine_spec hmethod h13, hlines⟩
  have hcut := cut_append (body ++ rest) (find_blank (List.cons_ne_nil _ fieldLines)
    (fun line hl => (hall line hl).1) (fun line hl => (hall line hl).2) (body ++ rest))
  have hle : body.length ≤ (body ++ rest).length := by
    rw [List.length_append]
    omega
  rw [parse, requestText, hcut]
  simp only
  rw [ofHead, lines_headText (List.cons_ne_nil _ _) fun line hl => (hall line hl).1]
  simp only [requestLine_startLine hmethod hne h32, hfields, hlength]
  rw [if_pos hle, List.take_left, List.drop_left]

/-! ## More and fewer bytes -/

/-- Bytes behind a request are left over. -/
theorem parse_append {s rest : Bytes} {r : Request} (h : parse s = some (r, rest)) (t : Bytes) :
    parse (s ++ t) = some (r, rest ++ t) := by
  unfold parse at h
  split at h
  · rename_i head behind hcut
    obtain ⟨i, hi, he⟩ := Option.map_eq_some_iff.mp hcut
    obtain ⟨hhead, hbehind⟩ := Prod.mk.inj he
    obtain ⟨hle, hpre, -⟩ := find_eq_some_iff.mp hi
    have hblank : i + (crlf ++ crlf).length ≤ s.length := by
      have hlen := hpre.length_le
      rw [List.length_drop] at hlen
      omega
    have hcut' : cut (crlf ++ crlf) (s ++ t) = some (head, behind ++ t) := by
      rw [cut, find_append hi, Option.map_some, List.take_append_of_le_length hle,
        List.drop_append_of_le_length hblank, hhead, hbehind]
    rw [parse, hcut']
    -- the head is the same, and with it the length of the body
    unfold ofHead at h ⊢
    split at h
    · exact absurd h (by simp)
    · split at h
      · split at h
        · split at h
          · rename_i hroom
            obtain ⟨rfl, rfl⟩ := Prod.mk.inj (Option.some.inj h)
            have hroom' := Nat.le_trans hroom (List.length_append ▸ Nat.le_add_right _ t.length)
            simp only [*, if_true, List.take_append_of_le_length hroom,
              List.drop_append_of_le_length hroom]
          · exact absurd h (by simp)
        · exact absurd h (by simp)
      · exact absurd h (by simp)
  · exact absurd h (by simp)

/-- **A request is read once its last byte is there**, and not before. -/
theorem parse_take {s : Bytes} {r : Request} (h : parse s = some (r, [])) (t : Bytes) (n : Nat) :
    parse ((s ++ t).take n) =
      if s.length ≤ n then some (r, t.take (n - s.length)) else none := by
  split_ifs with hn
  · rw [List.take_append, List.take_of_length_le hn, parse_append h, List.nil_append]
  · rw [List.take_append_of_le_length (by omega), Option.eq_none_iff_forall_ne_some]
    rintro ⟨r', rest⟩ hr
    have hwhole := parse_append hr (s.drop n)
    rw [List.take_append_drop, h, Option.some.injEq, Prod.mk.injEq] at hwhole
    have hlen := congrArg List.length hwhole.2
    rw [List.length_append, List.length_drop, List.length_nil] at hlen
    omega

/-! ## What was read -/

theorem eq_of_requestLine {line method target : Bytes}
    (h : requestLine line = some (method, target)) :
    ∃ version, line = method ++ 32 :: (target ++ 32 :: version) := by
  unfold requestLine at h
  split at h
  · rename_i m t v hs
    split at h
    · simp only [Option.some.injEq, Prod.mk.injEq] at h
      obtain ⟨rfl, rfl⟩ := h
      have hjoin : [32].intercalate (line.splitOn 32) = line := List.intercalate_splitOn 32
      rw [hs] at hjoin
      exact ⟨v, by rw [← hjoin]; simp [List.intercalate_cons_cons]⟩
    · exact absurd h (by simp)
  · exact absurd h (by simp)

theorem ofHead_start {head behind rest : Bytes} {r : Request}
    (h : ofHead head behind = some (r, rest)) :
    ∃ start, start <+: head ∧ requestLine start = some (r.method, r.target) := by
  unfold ofHead at h
  split at h
  · exact absurd h (by simp)
  · rename_i start fieldLines hl
    have hpre := line_starts start fieldLines
    rw [← hl, headText_lines] at hpre
    split at h
    · rename_i method target fields hstart hfields
      split at h
      · split at h
        · simp only [Option.some.injEq, Prod.mk.injEq] at h
          obtain ⟨rfl, -⟩ := h
          exact ⟨start, hpre, hstart⟩
        · exact absurd h (by simp)
      · exact absurd h (by simp)
    · exact absurd h (by simp)

/-- What is read begins with its method and its target. -/
theorem eq_of_parse {s rest : Bytes} {r : Request} (h : parse s = some (r, rest)) :
    ∃ tail, s = r.method ++ 32 :: (r.target ++ 32 :: tail) := by
  unfold parse at h
  split at h
  · rename_i head behind hcut
    obtain ⟨start, ⟨tail, rfl⟩, hstart⟩ := ofHead_start h
    obtain ⟨version, rfl⟩ := eq_of_requestLine hstart
    refine ⟨version ++ tail ++ (crlf ++ crlf) ++ behind, ?_⟩
    rw [eq_of_cut hcut]
    simp only [List.append_assoc, List.cons_append]
  · exact absurd h (by simp)

end Request

end Thethings.Library
