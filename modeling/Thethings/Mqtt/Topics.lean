import Thethings.Library.Topic
import Thethings.Mqtt.Client

/-!
# Topic filters and topic names

What `isTopicMatched` (`MQTTClient.h` l.437-467) makes of a filter, against the rules by which a
filter covers a name. It is told to assume that "# can only be at end" and "+ and # can only be next
to separator", which is `WellFormed`.

Choices:

* Names and filters are cut into levels at every `/`, empty levels included, and a level of a filter
  is read as a pattern of `Library.Topic`. The loop of the source goes byte by byte, and the
  induction is on the levels.
* Nothing is asked of a topic name: it may be empty, and it may hold a `+` or a `#`.
* A wildcard that is met by a `/` or by the end of the name does not match in the source. This is
  what `Idles` calls standing for an empty level, or for none.

Results:

* `isTopicMatched_iff`: the client takes a name for covered exactly when the rules do and no
  wildcard of the filter stands for an empty level, or a last `#` for none.
* `mem_handlersFor_iff`: so much for the handlers that a message reaches.
-/

namespace Thethings.Mqtt

open Library Library.Topic

/-- The levels of a name or a filter. -/
def levels (topic : Bytes) : List Bytes := topic.splitOn 47

/-- What a level of a filter stands for. -/
def levelPattern (level : Bytes) : Pattern Bytes :=
  if level = [43] then .any
  else if level = [35] then .rest
  else .exactly level

/-- The levels of a filter as patterns. -/
def patterns (topicFilter : Bytes) : List (Pattern Bytes) := (levels topicFilter).map levelPattern

/-- The levels of a filter in the correct format. -/
structure WellFormed (levels : List Bytes) : Prop where
  alone : ∀ level ∈ levels, level = [43] ∨ level = [35] ∨ 43 ∉ level ∧ 35 ∉ level
  last : [35] ∉ levels.dropLast

/-! ## Levels -/

/-- The name up to its first `/`, and from there on. -/
def firstLevel (topic : Bytes) : Bytes := topic.takeWhile (· != 47)
/-- The name from its first `/` on. -/
def behindFirst (topic : Bytes) : Bytes := topic.dropWhile (· != 47)

theorem notMem_firstLevel (topic : Bytes) : 47 ∉ firstLevel topic := by
  intro h
  simpa using List.mem_takeWhile_imp h

theorem firstLevel_append (topic : Bytes) : firstLevel topic ++ behindFirst topic = topic :=
  List.takeWhile_append_dropWhile

theorem behindFirst_cases (topic : Bytes) :
    behindFirst topic = [] ∨ ∃ rest, behindFirst topic = 47 :: rest := by
  cases h : behindFirst topic with
  | nil => exact Or.inl rfl
  | cons c rest =>
    rw [behindFirst] at h
    have hc := List.head_dropWhile_not (· != (47 : UInt8)) (h ▸ List.cons_ne_nil c rest)
    simp only [h, List.head_cons, bne_eq_false_iff_eq] at hc
    exact Or.inr ⟨rest, by rw [hc]⟩

theorem levels_of_behind_nil {topic : Bytes} (h : behindFirst topic = []) :
    levels topic = [firstLevel topic] := by
  have htopic := firstLevel_append topic
  rw [h, List.append_nil] at htopic
  rw [levels]
  nth_rewrite 1 [← htopic]
  exact List.splitOn_eq_singleton (notMem_firstLevel topic)

theorem levels_of_behind_cons {topic rest : Bytes} (h : behindFirst topic = 47 :: rest) :
    levels topic = firstLevel topic :: levels rest := by
  have htopic := firstLevel_append topic
  rw [h] at htopic
  rw [levels, levels]
  nth_rewrite 1 [← htopic]
  exact List.splitOn_append_cons_self_of_not_mem (notMem_firstLevel topic) rest

/-- A text without `/` in front of nothing, or of a `/`, is the first level. -/
theorem firstLevel_of {level rest : Bytes} (h : 47 ∉ level)
    (hrest : rest = [] ∨ ∃ rest', rest = 47 :: rest') :
    firstLevel (level ++ rest) = level ∧ behindFirst (level ++ rest) = rest := by
  have hall : ∀ b ∈ level, (b != 47) = true := by
    rintro b hb
    rw [bne_iff_ne]
    rintro rfl
    exact h hb
  rw [firstLevel, behindFirst, List.takeWhile_append_of_pos hall,
    List.dropWhile_append_of_pos hall]
  rcases hrest with rfl | ⟨rest', rfl⟩
  · simp
  · simp

/-! ## One level of the filter -/

theorem isTopicMatched_nil (topicName : Bytes) :
    isTopicMatched [] topicName = true ↔ topicName = [] := by
  rw [isTopicMatched, beq_iff_eq]

theorem isTopicMatched_cons {b : UInt8} (hplus : b ≠ 43) (hhash : b ≠ 35) (fs topicName : Bytes) :
    isTopicMatched (b :: fs) topicName = true ↔
      ∃ name, topicName = b :: name ∧ isTopicMatched fs name = true := by
  cases topicName with
  | nil => simp [isTopicMatched]
  | cons c name =>
    rw [isTopicMatched]
    by_cases hc : b = c
    · subst hc
      simp [hplus, hhash]
    · have hslash : c = 47 ∧ b ≠ 47 ∨ b ≠ 43 ∧ b ≠ 35 ∧ b ≠ c := Or.inr ⟨hplus, hhash, hc⟩
      split_ifs with h1 h2
      · simp [Ne.symm hc]
      · simp [Ne.symm hc]
      · exact absurd ⟨hplus, hhash, hc⟩ h2

/-- A level that is no wildcard is compared byte by byte. -/
theorem isTopicMatched_append {level : Bytes} (hplus : 43 ∉ level) (hhash : 35 ∉ level)
    (fs topicName : Bytes) :
    isTopicMatched (level ++ fs) topicName = true ↔
      ∃ name, topicName = level ++ name ∧ isTopicMatched fs name = true := by
  induction level generalizing topicName with
  | nil => simp
  | cons b level ih =>
    rw [List.mem_cons, not_or] at hplus hhash
    rw [List.cons_append, isTopicMatched_cons (Ne.symm hplus.1) (Ne.symm hhash.1)]
    constructor
    · rintro ⟨name, rfl, h⟩
      obtain ⟨name', rfl, h'⟩ := (ih hplus.2 hhash.2 name).mp h
      exact ⟨name', rfl, h'⟩
    · rintro ⟨name, rfl, h⟩
      exact ⟨level ++ name, rfl, (ih hplus.2 hhash.2 _).mpr ⟨name, rfl, h⟩⟩

/-- What a pattern other than a last `#` lets stand in its place. -/
def Stands : Pattern Bytes → Bytes → Prop
  | .exactly level, level' => level' = level
  | .any, level' => level' ≠ []
  | .rest, _ => False

/-- **One level of the filter** takes one level of the name. -/
theorem isTopicMatched_level {level : Bytes} (hslash : 47 ∉ level)
    (hlevel : level = [43] ∨ 43 ∉ level ∧ 35 ∉ level) {fs : Bytes}
    (hfs : fs = [] ∨ ∃ fs', fs = 47 :: fs') (topicName : Bytes) :
    isTopicMatched (level ++ fs) topicName = true ↔
      Stands (levelPattern level) (firstLevel topicName) ∧
        isTopicMatched fs (behindFirst topicName) = true := by
  rcases hlevel with rfl | ⟨hplus, hhash⟩
  · rw [levelPattern, if_pos rfl, List.singleton_append]
    cases topicName with
    | nil => simp [isTopicMatched, firstLevel, Stands]
    | cons c name =>
      rw [isTopicMatched]
      by_cases hc : c = 47
      · simp [hc, firstLevel, Stands]
      · simp [hc, firstLevel, behindFirst, Stands]
  · have hpattern : levelPattern level = .exactly level := by
      have h43 : level ≠ [43] := by
        rintro rfl
        exact hplus List.mem_cons_self
      have h35 : level ≠ [35] := by
        rintro rfl
        exact hhash List.mem_cons_self
      rw [levelPattern, if_neg h43, if_neg h35]
    rw [hpattern, isTopicMatched_append hplus hhash]
    constructor
    · rintro ⟨name, rfl, h⟩
      -- what follows in the filter is nothing or a `/`, and so it is in the name
      have hname : name = [] ∨ ∃ name', name = 47 :: name' := by
        rcases hfs with rfl | ⟨fs', rfl⟩
        · exact Or.inl ((isTopicMatched_nil name).mp h)
        · obtain ⟨name', hname', -⟩ := (isTopicMatched_cons (by decide) (by decide) _ _).mp h
          exact Or.inr ⟨name', hname'⟩
      obtain ⟨hfirst, hbehind⟩ := firstLevel_of hslash hname
      rw [hfirst, hbehind]
      exact ⟨rfl, h⟩
    · rintro ⟨hfirst, h⟩
      refine ⟨behindFirst topicName, ?_, h⟩
      have hfirst' : firstLevel topicName = level := hfirst
      rw [← hfirst', firstLevel_append]

theorem fills_level_iff {pattern : Pattern Bytes} (h : pattern ≠ .rest)
    {filter : List (Pattern Bytes)} {level : Bytes} {name : List Bytes} :
    Fills (· = []) (pattern :: filter) (level :: name) ↔
      Stands pattern level ∧ Fills (· = []) filter name := by
  cases pattern with
  | exactly level' =>
    rw [fills_exactly_iff, Stands]
    constructor
    · rintro ⟨name', he, hfills⟩
      obtain ⟨rfl, rfl⟩ := List.cons.inj he
      exact ⟨rfl, hfills⟩
    · rintro ⟨rfl, hfills⟩
      exact ⟨name, rfl, hfills⟩
  | any =>
    rw [fills_any_iff, Stands]
    constructor
    · rintro ⟨level', name', he, hne, hfills⟩
      obtain ⟨rfl, rfl⟩ := List.cons.inj he
      exact ⟨hne, hfills⟩
    · rintro ⟨hne, hfills⟩
      exact ⟨level, name, rfl, hne, hfills⟩
  | rest => exact absurd rfl h

theorem isTopicMatched_hash (topicName : Bytes) :
    isTopicMatched [35] topicName = true ↔ firstLevel topicName ≠ [] := by
  cases topicName with
  | nil => simp [isTopicMatched, firstLevel]
  | cons c name =>
    rw [isTopicMatched]
    by_cases hc : c = 47
    · simp [hc, firstLevel]
    · simp [hc, firstLevel, isTopicMatched]

/-! ## The whole filter -/

theorem levelPattern_ne_rest {level : Bytes} (h : level ≠ [35]) : levelPattern level ≠ .rest := by
  unfold levelPattern
  rw [if_neg h]
  split_ifs <;> simp

theorem isTopicMatched_levels : ∀ {filter : List Bytes}, filter ≠ [] →
    (∀ level ∈ filter, 47 ∉ level) → WellFormed filter → ∀ topicName,
      (isTopicMatched ([47].intercalate filter) topicName = true ↔
        Fills (· = []) (filter.map levelPattern) (levels topicName))
  | [], hne, _, _ => absurd rfl hne
  | [level], _, hslash, hwf => by
    intro topicName
    rw [List.intercalate_singleton, List.map_cons, List.map_nil]
    rw [List.forall_mem_singleton] at hslash
    have halone := hwf.alone level List.mem_cons_self
    by_cases hhash : level = [35]
    · subst hhash
      have hrest : levelPattern [35] = .rest := by decide
      rw [isTopicMatched_hash, hrest, fills_rest_iff]
      rcases behindFirst_cases topicName with hb | ⟨rest, hb⟩
      · rw [levels_of_behind_nil hb]
        simp
      · rw [levels_of_behind_cons hb]
        simp
    · have hlevel : level = [43] ∨ 43 ∉ level ∧ 35 ∉ level := by tauto
      have hmatched := isTopicMatched_level hslash hlevel (Or.inl rfl) topicName
      rw [List.append_nil] at hmatched
      rw [hmatched, isTopicMatched_nil]
      rcases behindFirst_cases topicName with hb | ⟨rest, hb⟩
      · rw [levels_of_behind_nil hb, fills_level_iff (levelPattern_ne_rest hhash), fills_nil_iff,
          hb]
        simp
      · rw [levels_of_behind_cons hb, fills_level_iff (levelPattern_ne_rest hhash), fills_nil_iff,
          hb]
        simp [levels]
  | level :: level' :: filter, _, hslash, hwf => by
    intro topicName
    rw [List.intercalate_cons_cons, List.append_assoc, List.singleton_append, List.map_cons]
    rw [List.forall_mem_cons] at hslash
    have hlast := hwf.last
    rw [List.dropLast_cons_cons, List.mem_cons, not_or] at hlast
    have hlevel : level = [43] ∨ 43 ∉ level ∧ 35 ∉ level := by
      rcases hwf.alone level List.mem_cons_self with h | h | h
      · exact Or.inl h
      · exact absurd h.symm hlast.1
      · exact Or.inr h
    have hrest : WellFormed (level' :: filter) :=
      ⟨fun l hl => hwf.alone l (List.mem_cons_of_mem _ hl), hlast.2⟩
    have ih := isTopicMatched_levels (List.cons_ne_nil level' filter) hslash.2 hrest
    rw [isTopicMatched_level hslash.1 hlevel (Or.inr ⟨_, rfl⟩)]
    have hslashed : ∀ name : Bytes,
        isTopicMatched (47 :: [47].intercalate (level' :: filter)) name = true ↔
          ∃ name', name = 47 :: name' ∧
            Fills (· = []) ((level' :: filter).map levelPattern) (levels name') := by
      intro name
      rw [isTopicMatched_cons (by decide) (by decide)]
      exact exists_congr fun name' => and_congr_right fun _ => ih name'
    rw [hslashed]
    have hne := levelPattern_ne_rest (Ne.symm hlast.1)
    rcases behindFirst_cases topicName with hb | ⟨rest, hb⟩
    · rw [levels_of_behind_nil hb, fills_level_iff hne, hb]
      constructor
      · rintro ⟨-, name', he, -⟩
        exact absurd he (List.cons_ne_nil _ _).symm
      · rintro ⟨-, hf⟩
        exact absurd hf (not_fills_nil (List.cons_ne_nil _ _))
    · rw [levels_of_behind_cons hb, fills_level_iff hne, hb]
      simp

/-- A level is a part of the text, without `/`. -/
theorem of_mem_levels {topic level : Bytes} (h : level ∈ levels topic) :
    47 ∉ level ∧ level ⊆ topic := by
  induction hn : topic.length using Nat.strong_induction_on generalizing topic with
  | h n ih =>
    subst hn
    have htopic := firstLevel_append topic
    have hfirst : firstLevel topic ⊆ topic := (List.takeWhile_prefix _).subset
    rcases behindFirst_cases topic with hb | ⟨rest, hb⟩
    · rw [levels_of_behind_nil hb, List.mem_singleton] at h
      exact h ▸ ⟨notMem_firstLevel topic, hfirst⟩
    · rw [levels_of_behind_cons hb] at h
      rcases List.mem_cons.mp h with rfl | h
      · exact ⟨notMem_firstLevel topic, hfirst⟩
      · have hlen := congrArg List.length htopic
        rw [hb, List.length_append, List.length_cons] at hlen
        obtain ⟨hslash, hsub⟩ := ih rest.length (by omega) h rfl
        refine ⟨hslash, fun b hm => ?_⟩
        rw [← htopic, hb]
        exact List.mem_append_right _ (List.mem_cons_of_mem _ (hsub hm))

theorem isTopicMatched_fills {topicFilter : Bytes} (h : WellFormed (levels topicFilter))
    (topicName : Bytes) :
    isTopicMatched topicFilter topicName = true ↔
      Fills (· = []) (patterns topicFilter) (levels topicName) := by
  have hne : levels topicFilter ≠ [] := List.splitOn_ne_nil _ _
  have hmatched := isTopicMatched_levels hne (fun _ hl => (of_mem_levels hl).1) h topicName
  rwa [levels, List.intercalate_splitOn] at hmatched

/-- **`isTopicMatched` against the rules**: of a filter in the correct format, a name is matched
exactly when the filter covers it and none of the wildcards stands for an empty level, or for
none. -/
theorem isTopicMatched_iff {topicFilter : Bytes} (h : WellFormed (levels topicFilter))
    (topicName : Bytes) :
    isTopicMatched topicFilter topicName = true ↔
      Covers (patterns topicFilter) (levels topicName) ∧
        ¬ Idles (· = []) (patterns topicFilter) (levels topicName) := by
  rw [isTopicMatched_fills h]
  exact ⟨fun hf => ⟨hf.covers, hf.busy⟩, fun hf => ⟨hf.1, hf.2⟩⟩

/-- `a/+` is matched by `a/b` as it should be, `#` is not matched by `/b` and `a/#` not by `a`. -/
theorem isTopicMatched_sample :
    (isTopicMatched (ascii "a/+") (ascii "a/b") = true ↔
      Covers (patterns (ascii "a/+")) (levels (ascii "a/b")) ∧
        ¬ Idles (· = []) (patterns (ascii "a/+")) (levels (ascii "a/b"))) :=
  isTopicMatched_iff ⟨by decide, by decide⟩ (ascii "a/b")

example : isTopicMatched (ascii "a/+") (ascii "a/b") = true ∧
    isTopicMatched (ascii "#") (ascii "/b") = false ∧
    isTopicMatched (ascii "a/#") (ascii "a") = false := by decide

/-- Of a name without empty levels the rules are kept, but for the parent of a filter that ends in
`#`. -/
theorem isTopicMatched_of_busy {topicFilter topicName : Bytes}
    (h : WellFormed (levels topicFilter)) (hname : [] ∉ levels topicName) :
    isTopicMatched topicFilter topicName = true ↔
      Covers (patterns topicFilter) (levels topicName) ∧
        (patterns topicFilter).length ≤ (levels topicName).length := by
  have hbusy : ∀ level ∈ levels topicName, ¬ level = [] := by
    rintro level hl rfl
    exact hname hl
  rw [isTopicMatched_fills h]
  constructor
  · intro hfills
    exact ⟨hfills.covers, hfills.length_le⟩
  · rintro ⟨hcovers, hlen⟩
    exact ⟨hcovers, fun hi => absurd (length_lt_of_idles hbusy hi) (by omega)⟩

/-! ## The handlers of a message -/

theorem patterns_of_plain {topic : Bytes} (hplus : 43 ∉ topic) (hhash : 35 ∉ topic) :
    patterns topic = (levels topic).map .exactly := by
  refine List.map_congr_left fun level hl => ?_
  have h43 : level ≠ [43] := by
    rintro rfl
    exact hplus ((of_mem_levels hl).2 List.mem_cons_self)
  have h35 : level ≠ [35] := by
    rintro rfl
    exact hhash ((of_mem_levels hl).2 List.mem_cons_self)
  rw [levelPattern, if_neg h43, if_neg h35]

namespace HandlerTable

/-- The filters that are set are in the correct format. -/
def WellFormed (t : HandlerTable) : Prop :=
  ∀ slot ∈ t.slots, ∀ topicFilter, slot.topicFilter = some topicFilter →
    Mqtt.WellFormed (levels (cstr topicFilter))

/-- **The handlers of a message**: those whose filters cover its topic with no wildcard idle. The
comparison of the name with the filter as a text adds none to them, since a name has no
wildcards. -/
theorem mem_handlersFor_iff {t : HandlerTable} (h : t.WellFormed) {topicName : Bytes}
    (hplus : 43 ∉ topicName) (hhash : 35 ∉ topicName) (handler : MessageHandler) :
    handler ∈ t.handlersFor topicName ↔
      ∃ slot ∈ t.slots, slot.fp = some handler ∧ ∃ topicFilter,
        slot.topicFilter = some topicFilter ∧
          Fills (· = []) (patterns (cstr topicFilter)) (levels topicName) := by
  rw [handlersFor, List.mem_filterMap]
  refine exists_congr fun slot => and_congr_right fun hslot => ?_
  cases hfilter : slot.topicFilter with
  | none => simp
  | some topicFilter =>
    have hmatched := isTopicMatched_fills (h slot hslot topicFilter hfilter) topicName
    have hfills : topicName = cstr topicFilter ∨
        isTopicMatched (cstr topicFilter) topicName = true ↔
          Fills (· = []) (patterns (cstr topicFilter)) (levels topicName) := by
      rw [hmatched]
      constructor
      · rintro (rfl | hfills)
        · rw [patterns_of_plain hplus hhash]
          exact fills_map_exactly _
        · exact hfills
      · exact fun hfills => Or.inr hfills
    simp only [Option.some.injEq, exists_eq_left', ← hfills]
    split_ifs with hcase
    · exact ⟨fun he => ⟨he, hcase⟩, fun he => he.1⟩
    · exact ⟨nofun, fun he => absurd he.2 hcase⟩

end HandlerTable

end Thethings.Mqtt
