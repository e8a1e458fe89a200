import Mathlib.Data.List.Forall2
import Thethings.Library.Json

/-!
# Request targets

The origin form of a request target, read as RFC 3986 prescribes: a path of segments, each behind a
`/`, and behind the first `?` a query of parameters.

Choices:

* Segments and parameters are split first and percent-decoded then, so an escaped separator is a
  byte of its segment.
* A `%` that two hex digits do not follow is refused, and so is a byte the grammar does not let
  stand for itself: a space, a control character, a byte from `0x80` up, and some marks.
* Dot segments stay, and so do empty segments: normalising them is up to the server.
* A parameter is a name and a value around its first `=`, with no value where there is none; a `+`
  stands for itself.

Results:

* `decode_targetText`: segments and a parameter that need no escape are read back.
* `clean_of_decode`: a target that begins as those segments are written without escapes is read as
  them only if they need none.

Left out: the other three forms of a target, and the fragment, which is no part of one.
-/

namespace Thethings.Library

/-- A target that has been read. -/
structure Target where
  segments : List Bytes
  params : List (Bytes × Bytes)
  deriving DecidableEq

namespace Target

/-- A letter, a digit, or one of `-`, `.`, `_`, `~`. -/
def isUnreserved (b : UInt8) : Bool :=
  (65 ≤ b && b ≤ 90) || (97 ≤ b && b ≤ 122) || isDigit b || [45, 46, 95, 126].contains b

/-- A byte that stands for itself in a segment: an unreserved one, a delimiter of the second rank,
`:` or `@`. -/
def isPchar (b : UInt8) : Bool :=
  isUnreserved b || [33, 36, 38, 39, 40, 41, 42, 43, 44, 59, 61].contains b || b == 58 || b == 64

/-- A byte that stands for itself in a query. -/
def isQueryChar (b : UInt8) : Bool := isPchar b || b == 47 || b == 63

/-- The bytes a text stands for, where `allowed` stand for themselves. -/
def percentDecode (allowed : UInt8 → Bool) : Bytes → Option Bytes
  | [] => some []
  | b :: s =>
    if b = 37 then
      match s with
      | c :: d :: s =>
        match Json.hexVal c, Json.hexVal d with
        | some c, some d => (percentDecode allowed s).map ((16 * c + d).toUInt8 :: ·)
        | _, _ => none
      | _ => none
    else if allowed b then (percentDecode allowed s).map (b :: ·)
    else none

/-- Name and value of a parameter. -/
def param (s : Bytes) : Option (Bytes × Bytes) :=
  match cut [61] s with
  | some (name, value) =>
    match percentDecode isQueryChar name, percentDecode isQueryChar value with
    | some name, some value => some (name, value)
    | _, _ => none
  | none => (percentDecode isQueryChar s).map fun name => (name, [])

/-- The segments of a path. -/
def path (s : Bytes) : Option (List Bytes) :=
  match s.splitOn 47 with
  | [] :: segment :: segments => (segment :: segments).mapM (percentDecode isPchar)
  | _ => none

/-- **A target.** -/
def decode (s : Bytes) : Option Target :=
  match cut [63] s with
  | none => (path s).map fun segments => ⟨segments, []⟩
  | some (front, query) =>
    match path front, (query.splitOn 38).mapM param with
    | some segments, some params => some ⟨segments, params⟩
    | _, _ => none

example : decode (ascii "/a%2Fb/c?limit=5") =
    some ⟨[ascii "a/b", ascii "c"], [(ascii "limit", ascii "5")]⟩ := by decide +kernel

/-! ## One step of the decoder -/

theorem percentDecode_cons_ne {b : UInt8} (hb : b ≠ 37) (allowed : UInt8 → Bool) (s : Bytes) :
    percentDecode allowed (b :: s) =
      if allowed b then (percentDecode allowed s).map (b :: ·) else none := by
  match s with
  | [] => simp [percentDecode, hb]
  | [_] => simp [percentDecode, hb]
  | _ :: _ :: _ => rw [percentDecode, if_neg hb]

theorem percentDecode_percent {allowed : UInt8 → Bool} {s t : Bytes}
    (h : percentDecode allowed (37 :: s) = some t) :
    ∃ c d s' v t', s = c :: d :: s' ∧ t = v :: t' ∧ (Json.hexVal c).isSome ∧
      (Json.hexVal d).isSome ∧ percentDecode allowed s' = some t' := by
  match s with
  | [] => simp [percentDecode] at h
  | [_] => simp [percentDecode] at h
  | c :: d :: s =>
    rw [percentDecode, if_pos rfl] at h
    split at h
    · rename_i c' d' hc hd
      obtain ⟨t', ht', rfl⟩ := Option.map_eq_some_iff.mp h
      exact ⟨c, d, s, _, t', rfl, rfl, by rw [hc]; rfl, by rw [hd]; rfl, ht'⟩
    · exact absurd h (by simp)

/-- **Induction on what is decoded**: nothing, a byte that stands for itself, or an escape. -/
theorem percentDecode_induction {allowed : UInt8 → Bool} {P : Bytes → Bytes → Prop} (nil : P [] [])
    (plain : ∀ b s t, allowed b = true → P s t → P (b :: s) (b :: t))
    (escape : ∀ c d v s t, (Json.hexVal c).isSome → (Json.hexVal d).isSome → P s t →
      P (37 :: c :: d :: s) (v :: t))
    {s t : Bytes} (h : percentDecode allowed s = some t) : P s t := by
  induction hn : s.length using Nat.strong_induction_on generalizing s t with
  | h n ih =>
    subst hn
    cases s with
    | nil =>
      rw [percentDecode, Option.some.injEq] at h
      exact h ▸ nil
    | cons b s =>
      by_cases hb : b = 37
      · subst hb
        obtain ⟨c, d, s', v, t', rfl, rfl, hc, hd, h'⟩ := percentDecode_percent h
        have hlt : s'.length < (37 :: c :: d :: s').length := by
          simp only [List.length_cons]
          omega
        exact escape c d v s' t' hc hd (ih s'.length hlt h' rfl)
      · rw [percentDecode_cons_ne hb] at h
        by_cases hallowed : allowed b = true
        · rw [if_pos hallowed] at h
          obtain ⟨t', ht', rfl⟩ := Option.map_eq_some_iff.mp h
          exact plain b s t' hallowed (ih s.length (Nat.lt_succ_self s.length) ht' rfl)
        · rw [if_neg hallowed] at h
          exact absurd h (by simp)

/-! ## Texts without escapes -/

/-- Every byte stands for itself. -/
def Clean (s : Bytes) : Prop := ∀ b ∈ s, isPchar b = true

instance (s : Bytes) : Decidable (Clean s) := List.decidableBAll _ _

theorem clean_decimal (i : Int) : Clean (decimal i) := by
  intro b hb
  rcases mem_decimal hb with rfl | hd
  · decide
  · rw [isPchar, isUnreserved, hd, Bool.or_true]
    rfl

theorem percentDecode_of_allowed {allowed : UInt8 → Bool} (hpercent : allowed 37 = false)
    {s : Bytes} (h : ∀ b ∈ s, allowed b = true) : percentDecode allowed s = some s := by
  induction s with
  | nil => rw [percentDecode]
  | cons b s ih =>
    rw [List.forall_mem_cons] at h
    have hb : b ≠ 37 := fun he => absurd (hpercent.symm.trans (he ▸ h.1)) Bool.false_ne_true
    rw [percentDecode_cons_ne hb, if_pos h.1, ih h.2]
    rfl

/-- **Only a text without escapes is read as itself**; an escape shrinks it. -/
theorem percentDecode_spec {allowed : UInt8 → Bool} {s t : Bytes}
    (h : percentDecode allowed s = some t) :
    t = s ∧ (∀ b ∈ s, allowed b = true) ∨ t.length < s.length := by
  refine percentDecode_induction (P := fun s t => t = s ∧ (∀ b ∈ s, allowed b = true) ∨
    t.length < s.length) ?_ ?_ ?_ h
  · exact Or.inl ⟨rfl, fun b hb => absurd hb List.not_mem_nil⟩
  · rintro b s t hb (⟨rfl, hs⟩ | hlt)
    · exact Or.inl ⟨rfl, List.forall_mem_cons.mpr ⟨hb, hs⟩⟩
    · exact Or.inr (Nat.succ_lt_succ hlt)
  · rintro c d v s t - - (⟨rfl, -⟩ | hlt)
    · exact Or.inr (by simp)
    · refine Or.inr ?_
      simp only [List.length_cons]
      omega

/-- A text that is decoded holds bytes that stand for themselves, `%` and hex digits. -/
theorem mem_of_percentDecode {allowed : UInt8 → Bool} {s t : Bytes}
    (h : percentDecode allowed s = some t) :
    ∀ b ∈ s, allowed b = true ∨ b = 37 ∨ (Json.hexVal b).isSome := by
  refine percentDecode_induction (P := fun s _ => ∀ b ∈ s, allowed b = true ∨ b = 37 ∨
    (Json.hexVal b).isSome) ?_ ?_ ?_ h
  · exact fun b hb => absurd hb List.not_mem_nil
  · exact fun b s t hb hs => List.forall_mem_cons.mpr ⟨Or.inl hb, hs⟩
  · intro c d v s t hc hd hs
    refine List.forall_mem_cons.mpr ⟨Or.inr (Or.inl rfl), ?_⟩
    exact List.forall_mem_cons.mpr ⟨Or.inr (Or.inr hc),
      List.forall_mem_cons.mpr ⟨Or.inr (Or.inr hd), hs⟩⟩

theorem notMem_of_percentDecode {s t : Bytes} (h : percentDecode isPchar s = some t) {x : UInt8}
    (hx : isPchar x = false ∧ x ≠ 37 ∧ Json.hexVal x = none) : x ∉ s := by
  intro hm
  rcases mem_of_percentDecode h x hm with hp | h37 | hhex
  · exact absurd (hx.1.symm.trans hp) Bool.false_ne_true
  · exact hx.2.1 h37
  · rw [hx.2.2] at hhex
    exact absurd hhex Bool.false_ne_true

/-! ## Paths -/

/-- A path as it is written. -/
def pathText (segments : List Bytes) : Bytes := segments.flatMap (47 :: ·)

theorem splitOn_segments {s : Bytes} {segments : List Bytes}
    (h : ∀ segment ∈ s :: segments, 47 ∉ segment) :
    (s ++ pathText segments).splitOn 47 = s :: segments := by
  induction segments generalizing s with
  | nil =>
    rw [pathText, List.flatMap_nil, List.append_nil]
    exact List.splitOn_eq_singleton (h s List.mem_cons_self)
  | cons segment segments ih =>
    rw [List.forall_mem_cons] at h
    rw [pathText, List.flatMap_cons, List.cons_append,
      List.splitOn_append_cons_self_of_not_mem h.1]
    exact congrArg (s :: ·) (ih h.2)

theorem intercalate_segments (s : Bytes) (segments : List Bytes) :
    [47].intercalate (s :: segments) = s ++ pathText segments := by
  induction segments generalizing s with
  | nil => simp [pathText]
  | cons segment segments ih =>
    rw [List.intercalate_cons_cons, ih, pathText, pathText, List.flatMap_cons]
    simp

theorem mapM_eq_some_iff {α β : Type} {f : α → Option β} {as : List α} {bs : List β} :
    as.mapM f = some bs ↔ List.Forall₂ (fun a b => f a = some b) as bs := by
  induction as generalizing bs with
  | nil => simp [eq_comm]
  | cons a as ih =>
    rw [List.mapM_cons, List.forall₂_cons_left_iff]
    simp only [Option.bind_eq_bind, Option.bind_eq_some_iff, ih, Option.pure_def,
      Option.some.injEq]
    constructor
    · rintro ⟨b, hb, bs', hbs, rfl⟩
      exact ⟨b, bs', hb, hbs, rfl⟩
    · rintro ⟨b, bs', hb, hbs, rfl⟩
      exact ⟨b, hb, bs', hbs, rfl⟩

theorem path_pathText {segments : List Bytes} (hne : segments ≠ [])
    (h : ∀ segment ∈ segments, Clean segment) : path (pathText segments) = some segments := by
  have hsplit : (pathText segments).splitOn 47 = [] :: segments := by
    refine splitOn_segments (s := []) (List.forall_mem_cons.mpr ⟨List.not_mem_nil, ?_⟩)
    exact fun segment hs hm => absurd (h segment hs 47 hm) (by decide)
  obtain ⟨segment, rest, rfl⟩ := List.exists_cons_of_ne_nil hne
  rw [path, hsplit]
  simp only
  rw [mapM_eq_some_iff, List.forall₂_same]
  exact fun segment hs => percentDecode_of_allowed (by decide) (h segment hs)

/-- A path that is read is written as segments that are read. -/
theorem eq_of_path {s : Bytes} {segments : List Bytes} (h : path s = some segments) :
    ∃ raws, s = pathText raws ∧
      List.Forall₂ (fun raw segment => percentDecode isPchar raw = some segment) raws segments := by
  unfold path at h
  split at h
  · rename_i raw raws hs
    have hjoin : [47].intercalate (s.splitOn 47) = s := List.intercalate_splitOn 47
    rw [hs, intercalate_segments] at hjoin
    exact ⟨raw :: raws, hjoin.symm, mapM_eq_some_iff.mp h⟩
  · exact absurd h (by simp)

/-! ## Targets -/

/-- A target of segments and one parameter, as it is written. -/
def targetText (segments : List Bytes) (name value : Bytes) : Bytes :=
  pathText segments ++ 63 :: (name ++ 61 :: value)

theorem notMem_targetText {segments : List Bytes} {name value : Bytes}
    (h : ∀ segment ∈ segments, Clean segment) (hname : Clean name) (hvalue : Clean value)
    {x : UInt8} (hx : isPchar x = false) (hsep : x ∉ [(47 : UInt8), 63]) :
    x ∉ targetText segments name value := by
  have hclean : ∀ {s : Bytes}, Clean s → x ∉ s :=
    fun hs hm => absurd (hx.symm.trans (hs x hm)) Bool.false_ne_true
  have heq : x ≠ 61 := fun he => absurd (he ▸ hx) (by decide)
  simp only [List.mem_cons, List.not_mem_nil, or_false, not_or] at hsep
  simp only [targetText, pathText, List.mem_append, List.mem_cons, List.mem_flatMap, not_or,
    not_exists, not_and]
  exact ⟨fun segment hs => ⟨hsep.1, hclean (h segment hs)⟩, hsep.2, hclean hname, heq,
    hclean hvalue⟩

/-- **What needs no escape is read back.** -/
theorem decode_targetText {segments : List Bytes} {name value : Bytes} (hne : segments ≠ [])
    (h : ∀ segment ∈ segments, Clean segment) (hname : Clean name) (hvalue : Clean value)
    (heq : 61 ∉ name) (hamp : 38 ∉ name ++ 61 :: value) :
    decode (targetText segments name value) = some ⟨segments, [(name, value)]⟩ := by
  have hquery : ∀ {s : Bytes}, Clean s → percentDecode isQueryChar s = some s := by
    intro s hs
    refine percentDecode_of_allowed (by decide) fun b hb => ?_
    rw [isQueryChar, hs b hb]
    rfl
  have hpath : 63 ∉ pathText segments := by
    intro hm
    obtain ⟨segment, hs, hm⟩ := List.mem_flatMap.mp hm
    rcases List.mem_cons.mp hm with h63 | hm
    · exact absurd h63 (by decide)
    · exact absurd (h segment hs 63 hm) (by decide)
  rw [decode, targetText, cut_byte hpath]
  simp only
  rw [path_pathText hne h, List.splitOn_eq_singleton hamp]
  simp [param, cut_byte heq, hquery hname, hquery hvalue]

/-- A target with parameters that is read is written as segments that are read, and a query. -/
theorem eq_of_decode {s : Bytes} {target : Target} (h : decode s = some target)
    (hne : target.params ≠ []) :
    ∃ raws query, s = pathText raws ++ 63 :: query ∧
      List.Forall₂ (fun raw segment => percentDecode isPchar raw = some segment) raws
        target.segments := by
  unfold decode at h
  split at h
  · obtain ⟨segments, -, rfl⟩ := Option.map_eq_some_iff.mp h
    exact absurd rfl hne
  · rename_i front query hcut
    split at h
    · rename_i segments params hpath hparams
      obtain rfl := Option.some.inj h
      obtain ⟨raws, rfl, hraws⟩ := eq_of_path hpath
      exact ⟨raws, query, by rw [eq_of_cut hcut, List.append_assoc]; rfl, hraws⟩
    · exact absurd h (by simp)

/-- Of two texts with the same stop behind them, the second is the first decoded: then they are the
same, and without escapes. -/
theorem clean_of_stop {raw segment : Bytes} (h : percentDecode isPchar raw = some segment)
    {x : UInt8} (hx : isPchar x = false ∧ x ≠ 37 ∧ Json.hexVal x = none) {s s' : Bytes}
    (he : raw ++ x :: s = segment ++ x :: s') : raw = segment ∧ s = s' ∧ Clean segment := by
  rcases percentDecode_spec h with ⟨rfl, hclean⟩ | hlt
  · exact ⟨rfl, List.tail_eq_of_cons_eq (List.append_cancel_left he), hclean⟩
  · -- the stop behind the shorter text would stand inside the longer one
    have hwhole : segment ++ [x] <+: raw ++ x :: s := by
      rw [he]
      exact ⟨s', by simp⟩
    have hlen : (segment ++ [x]).length ≤ raw.length := by
      rw [List.length_append, List.length_singleton]
      exact hlt
    have hpre : segment ++ [x] <+: raw :=
      List.prefix_of_prefix_length_le hwhole (List.prefix_append _ _) hlen
    exact absurd (hpre.subset (List.mem_append_right segment List.mem_cons_self))
      (notMem_of_percentDecode h hx)

theorem slash_stops : isPchar 47 = false ∧ (47 : UInt8) ≠ 37 ∧ Json.hexVal 47 = none := by decide

theorem query_stops : isPchar 63 = false ∧ (63 : UInt8) ≠ 37 ∧ Json.hexVal 63 = none := by decide

/-- Written paths that begin alike up to their queries, one decoded to the other. -/
theorem clean_of_pathText {raws segments : List Bytes}
    (h : List.Forall₂ (fun raw segment => percentDecode isPchar raw = some segment) raws segments)
    {s s' : Bytes} (he : pathText raws ++ 63 :: s = pathText segments ++ 63 :: s') :
    ∀ segment ∈ segments, Clean segment := by
  induction h with
  | nil => exact fun segment hs => absurd hs List.not_mem_nil
  | cons hraw hraws ih =>
    rename_i raw segment raws segments
    have htail :
        raw ++ (pathText raws ++ 63 :: s) = segment ++ (pathText segments ++ 63 :: s') := by
      simpa [pathText] using he
    have hstop : pathText raws ++ 63 :: s = pathText segments ++ 63 :: s' ∧ Clean segment := by
      cases hraws with
      | nil =>
        obtain ⟨-, hs, hclean⟩ := clean_of_stop hraw query_stops htail
        exact ⟨congrArg (63 :: ·) hs, hclean⟩
      | cons hraw' hraws' =>
        rename_i raw' segment' raws' segments'
        obtain ⟨-, hs, hclean⟩ := clean_of_stop hraw slash_stops htail
        exact ⟨congrArg (47 :: ·) hs, hclean⟩
    exact List.forall_mem_cons.mpr ⟨hstop.2, ih hstop.1⟩

/-- **What is read back needed no escape**: a target in front of `tail`, where the text is the one
of these segments and a query. -/
theorem clean_of_decode {s tail query : Bytes} {target : Target} (h : decode s = some target)
    (hne : target.params ≠ [])
    (he : s ++ tail = pathText target.segments ++ 63 :: query) :
    ∀ segment ∈ target.segments, Clean segment := by
  obtain ⟨raws, query', rfl, hraws⟩ := eq_of_decode h hne
  rw [List.append_assoc, List.cons_append] at he
  exact clean_of_pathText hraws he

end Target

end Thethings.Library
