import Thethings.Http.Client
import Thethings.Values

/-!
# The JSON bodies of the POST requests

`thingWrite` (l.87-92) and `thingActivate` (l.127-130) build their bodies by putting the caller's
strings between quotes, with no escape. The bodies are read back as meant for the strings that need
none, and only for them.

Choices:

* What is meant is a JSON value: for `thingWrite` the values document of one pair, for
  `thingActivate` an object with the code as its one member.
* The decoder is the strict one of the library. It compares strings as bytes, so what it reads back
  is what the caller gave, and nothing that looks like it.
* A body need not be invalid to be wrong: one that a value has extended is perfect JSON, and says
  something else.

Results:

* `body_parses_iff_plain`: a JSON decoder gets the caller's strings back from the two bodies iff
  they hold no quote, no backslash and no control character.
* `body_injected`: a value that closes its string adds an element of its own.
-/

namespace Thethings.Http

open Library Library.Json

/-- The body of `thingWrite` is the values document of one pair. -/
theorem writeBody_eq (resource value : Bytes) :
    writeBody resource value = valuesText [(resource, value)] := by
  have h1 : ascii "\x7b\"values\":[\x7b\"key\":\"" =
      ascii "\x7b\"values\":[" ++ ascii "\x7b\"key\":\"" := by decide
  have h2 : ascii "\"\x7d]\x7d" = ascii "\"\x7d" ++ ascii "]\x7d" := by decide
  rw [writeBody, h1, h2]
  simp only [valuesText, valuesOpen, List.map_cons, List.map_nil, commaSep, pairText,
    List.append_assoc]

theorem plain_activationCode : Plain (ascii "activationCode") := by decide

/-- The body of `thingActivate` as an object text. -/
theorem activateBody_eq (activationCode : Bytes) :
    activateBody activationCode = 123 :: (commaSep
      [memberText (ascii "activationCode") (stringText activationCode)] ++ [125]) := by
  have h1 : ascii "\x7b\"activationCode\":\"" =
      123 :: quote :: (ascii "activationCode" ++ [quote, 58, quote]) := by decide
  have h2 : ascii "\"\x7d" = [quote, 125] := by decide
  rw [activateBody, h1, h2]
  simp only [commaSep, memberText, stringText, List.append_assoc, List.cons_append, List.nil_append]

theorem parse_activateBody_iff (activationCode : Bytes) :
    parse (activateBody activationCode) =
        some (.obj [(ascii "activationCode", .str activationCode)]) ↔ Plain activationCode := by
  constructor
  · intro h
    obtain ⟨rest, hv⟩ := value_of_parse h
    obtain ⟨n, hn⟩ : ∃ n, 2 * (activateBody activationCode).length + 2 = n + 4 :=
      ⟨2 * (activateBody activationCode).length - 2, by
        rw [activateBody_eq]
        simp only [commaSep, memberText, stringText, List.length_cons, List.length_append]
        omega⟩
    rw [hn, activateBody_eq] at hv
    simp only [commaSep, memberText, stringText, List.append_assoc, List.cons_append,
      List.nil_append] at hv
    obtain ⟨tail, hcode, -⟩ := (value_obj_iff plain_activationCode).mp hv
    exact (value_str_iff.mp hcode).1
  · intro h
    have hobj := Reads.obj [(ascii "activationCode", _, _)] (List.cons_ne_nil _ _)
      fun m hm => by
        obtain rfl := List.mem_singleton.mp hm
        exact ⟨plain_activationCode, Reads.str h⟩
    rw [activateBody_eq]
    refine parse_of_reads hobj ?_
    simp only [commaSep, memberText, List.length_cons, List.length_append, List.length_nil]
    omega

/-- **The bodies carry the caller's strings exactly when these need no escape.** -/
theorem body_parses_iff_plain (resource value activationCode : Bytes) :
    (parse (writeBody resource value) =
        some (.obj [(ascii "values",
          .arr [.obj [(ascii "key", .str resource), (ascii "value", .str value)]])]) ↔
      Plain resource ∧ Plain value) ∧
    (parse (activateBody activationCode) =
        some (.obj [(ascii "activationCode", .str activationCode)]) ↔
      Plain activationCode) :=
  ⟨by rw [writeBody_eq]; exact parse_singleton_iff resource value,
    parse_activateBody_iff activationCode⟩

/-- A value that closes its string, ends its pair and begins another. -/
def injectedValue : Bytes := ascii "1\"\x7d,\x7b\"key\":\"x\",\"value\":\"2"

/-- **One write, two values**: the body of a single `thingWrite` is read as two pairs, neither of
which holds the caller's value. -/
theorem body_injected :
    parse (writeBody (ascii "demo") injectedValue) =
        some (valuesJson [(ascii "demo", ascii "1"), (ascii "x", ascii "2")]) ∧
      parse (writeBody (ascii "demo") injectedValue) ≠
        some (.obj [(ascii "values",
          .arr [.obj [(ascii "key", .str (ascii "demo")),
            (ascii "value", .str injectedValue)]])]) := by
  have htext : writeBody (ascii "demo") injectedValue =
      valuesText [(ascii "demo", ascii "1"), (ascii "x", ascii "2")] := by decide
  have hparse : parse (valuesText [(ascii "demo", ascii "1"), (ascii "x", ascii "2")]) = _ :=
    parse_valuesText (by decide)
  rw [htext, hparse]
  exact ⟨rfl, fun h => absurd h (by simp [valuesJson])⟩

end Thethings.Http
