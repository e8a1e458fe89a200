import Thethings.Library.Json

/-!
# The values document

Both programs write values to a thing as one JSON text, an object with a single member `values` that
lists pairs of a key and a value, both strings: `thingWrite` with one pair in the HTTP library
(`ThethingsiO_DISCO_F746NG.cpp` l.87-92), `addValue` and `send` pair by pair in the MQTT program
(`main.cpp` l.26-53). This is the text, what it stands for, and when the one is read back as the
other.

Choices:

* The text is the one that the sources build, byte for byte: no white space, the members of a pair
  in this order, and neither string escaped.
* `valuesOpen` is the document without its end. The MQTT program keeps it in `buff` between two
  calls, and puts a comma in front of each pair but the first (`valuesOpen_concat`).
* What the text stands for is what a decoder of JSON makes of it, so nothing is said about a server
  that reads it in a way of its own.

Results:

* `parse_valuesText`: the text of any list of plain pairs is read back as that list.
* `parse_singleton_iff`: the text of one pair is read back as that pair only if the pair is plain.
-/

namespace Thethings

open Library Library.Json

/-- `{"key":"…","value":"…"}` -/
def pairText (p : Bytes × Bytes) : Bytes :=
  ascii "\x7b\"key\":\"" ++ p.1 ++ ascii "\",\"value\":\"" ++ p.2 ++ ascii "\"\x7d"

/-- `{"values":[…` -/
def valuesOpen (pairs : List (Bytes × Bytes)) : Bytes :=
  ascii "\x7b\"values\":[" ++ commaSep (pairs.map pairText)

/-- `{"values":[…]}` -/
def valuesText (pairs : List (Bytes × Bytes)) : Bytes := valuesOpen pairs ++ ascii "]\x7d"

/-- A pair as JSON. -/
def pairJson (p : Bytes × Bytes) : Json := .obj [(ascii "key", .str p.1), (ascii "value", .str p.2)]

/-- The document of some pairs. -/
def valuesJson (pairs : List (Bytes × Bytes)) : Json :=
  .obj [(ascii "values", .arr (pairs.map pairJson))]

/-- One pair more, behind a comma where it is not the first. -/
theorem valuesOpen_concat (pairs : List (Bytes × Bytes)) (p : Bytes × Bytes) :
    valuesOpen (pairs ++ [p]) =
      (if pairs = [] then valuesOpen pairs else valuesOpen pairs ++ ascii ",") ++ pairText p := by
  have hcomma : ascii "," = [44] := by decide
  rw [valuesOpen, List.map_append, List.map_singleton, commaSep_concat, hcomma]
  cases pairs with
  | nil => rfl
  | cons q pairs => simp [valuesOpen]

theorem plain_key : Plain (ascii "key") := by decide
theorem plain_value : Plain (ascii "value") := by decide
theorem plain_values : Plain (ascii "values") := by decide

/-- The text of a pair as an object text. -/
theorem pairText_eq (p : Bytes × Bytes) :
    pairText p = 123 :: (commaSep [memberText (ascii "key") (stringText p.1),
      memberText (ascii "value") (stringText p.2)] ++ [125]) := by
  have h1 : ascii "\x7b\"key\":\"" = 123 :: quote :: (ascii "key" ++ [quote, 58, quote]) := by
    decide
  have h2 : ascii "\",\"value\":\"" =
      quote :: 44 :: quote :: (ascii "value" ++ [quote, 58, quote]) := by decide
  have h3 : ascii "\"\x7d" = [quote, 125] := by decide
  rw [pairText, h1, h2, h3]
  simp only [commaSep, memberText, stringText, List.append_assoc, List.cons_append, List.nil_append]

/-- The text of a list as an object text. -/
theorem valuesText_eq (pairs : List (Bytes × Bytes)) :
    valuesText pairs = 123 :: (commaSep [memberText (ascii "values")
      (91 :: (commaSep (pairs.map pairText) ++ [93]))] ++ [125]) := by
  have h1 : ascii "\x7b\"values\":[" = 123 :: quote :: (ascii "values" ++ [quote, 58, 91]) := by
    decide
  have h2 : ascii "]\x7d" = [93, 125] := by decide
  rw [valuesText, valuesOpen, h1, h2]
  simp only [commaSep, memberText, List.append_assoc, List.cons_append, List.nil_append]

theorem reads_pairText {p : Bytes × Bytes} (hk : Plain p.1) (hv : Plain p.2) :
    Reads 5 (pairText p) (pairJson p) := by
  rw [pairText_eq]
  refine Reads.obj [(ascii "key", stringText p.1, .str p.1),
    (ascii "value", stringText p.2, .str p.2)] (List.cons_ne_nil _ _) fun m hm => ?_
  simp only [List.mem_cons, List.not_mem_nil, or_false] at hm
  rcases hm with rfl | rfl
  · exact ⟨plain_key, Reads.str hk⟩
  · exact ⟨plain_value, Reads.str hv⟩

/-- **A list of plain pairs is read back**, the empty one included. -/
theorem parse_valuesText {pairs : List (Bytes × Bytes)}
    (h : ∀ p ∈ pairs, Plain p.1 ∧ Plain p.2) :
    parse (valuesText pairs) = some (valuesJson pairs) := by
  have harr : Reads (5 + pairs.length + 2) (91 :: (commaSep (pairs.map pairText) ++ [93]))
      (.arr (pairs.map pairJson)) := by
    have := Reads.arr (n := 5) (pairs.map fun p => (pairText p, pairJson p)) fun q hq => by
      obtain ⟨p, hp, rfl⟩ := List.mem_map.mp hq
      exact reads_pairText (h p hp).1 (h p hp).2
    simpa only [List.map_map, List.length_map, Function.comp_def] using this
  have hlen : pairs.length ≤ (commaSep (pairs.map pairText)).length := by
    have := length_le_commaSep (pairs.map pairText) fun t ht => by
      obtain ⟨p, -, rfl⟩ := List.mem_map.mp ht
      rw [pairText_eq]
      exact List.cons_ne_nil _ _
    rwa [List.length_map] at this
  have hobj := Reads.obj [(ascii "values", _, _)] (List.cons_ne_nil _ _)
    fun m hm => by
      obtain rfl := List.mem_singleton.mp hm
      exact ⟨plain_values, harr⟩
  rw [valuesText_eq]
  refine parse_of_reads hobj ?_
  simp only [commaSep, memberText, List.length_cons,
    List.length_append, List.length_nil]
  omega

/-- Plain pairs put no NUL into their document. -/
theorem zero_notMem_valuesText {pairs : List (Bytes × Bytes)}
    (h : ∀ p ∈ pairs, Plain p.1 ∧ Plain p.2) : 0 ∉ valuesText pairs := by
  have hfixed : (0 : UInt8) ∉ ascii "\x7b\"values\":[" ∧ (0 : UInt8) ∉ ascii "]\x7d" ∧
      (0 : UInt8) ∉ ascii "\x7b\"key\":\"" ∧ (0 : UInt8) ∉ ascii "\",\"value\":\"" ∧
      (0 : UInt8) ∉ ascii "\"\x7d" := by decide
  obtain ⟨h1, h2, h3, h4, h5⟩ := hfixed
  intro h0
  simp only [valuesText, valuesOpen, List.mem_append, h1, h2, false_or, or_false] at h0
  rcases mem_commaSep h0 with hcomma | ⟨t, ht, h0⟩
  · exact absurd hcomma (by decide)
  · obtain ⟨p, hp, rfl⟩ := List.mem_map.mp ht
    simp only [pairText, List.mem_append, h3, h4, h5, false_or, or_false] at h0
    rcases h0 with h0 | h0
    · exact (h p hp).1.zero_notMem h0
    · exact (h p hp).2.zero_notMem h0

/-- **A pair is read back from its own document only if it is plain.** -/
theorem parse_singleton_iff (k v : Bytes) :
    parse (valuesText [(k, v)]) = some (valuesJson [(k, v)]) ↔ Plain k ∧ Plain v := by
  refine ⟨fun h => ?_, fun h => parse_valuesText fun p hp => ?_⟩
  · obtain ⟨rest, hv⟩ := value_of_parse h
    obtain ⟨n, hn⟩ : ∃ n, 2 * (valuesText [(k, v)]).length + 2 = n + 11 :=
      ⟨2 * (valuesText [(k, v)]).length - 9, by
        rw [valuesText_eq]
        simp only [commaSep, memberText, List.length_cons, List.length_append, List.length_nil]
        omega⟩
    rw [hn, valuesText_eq, valuesJson] at hv
    simp only [commaSep, memberText, List.map_cons, List.map_nil, pairText_eq, pairJson, stringText,
      List.append_assoc, List.cons_append, List.nil_append] at hv
    -- down the one path: the member `values`, its element, the two members of the pair
    obtain ⟨tail, harr, -⟩ := (value_obj_iff plain_values).mp hv
    obtain ⟨tail', hpair, -⟩ := value_arr_iff.mp harr
    obtain ⟨tail'', hk, hrest⟩ := (value_obj_iff plain_key).mp hpair
    obtain ⟨hplain, rfl⟩ := value_str_iff.mp hk
    refine ⟨hplain, ?_⟩
    rcases hrest with ⟨u, hu, hm⟩ | ⟨-, hm⟩
    · rw [skipWs_cons (by decide), List.cons.injEq] at hu
      obtain ⟨-, rfl⟩ := hu
      obtain ⟨w, hw, -⟩ := (members_cons_iff plain_value).mp hm
      exact (value_str_iff.mp hw).1
    · exact absurd hm (by simp)
  · obtain rfl := List.mem_singleton.mp hp
    exact h

end Thethings
