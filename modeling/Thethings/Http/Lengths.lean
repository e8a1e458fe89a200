import Thethings.Http.Memory

/-!
# The lengths of buffers

`Buffer::write` (`NetworkAPI/buffer.cpp` l.114-127) adds what it copies to `_length` wherever it
copies it to, `free()` (l.179) is `_size - _length`, and a socket hands `_length` bytes of the block
to lwIP (`NetworkAPI/tcp/socket.cpp` l.187-191). `Sound` is what the last two rely on.

Choices:

* A call is `Good` where it does not fault and leaves no object that counts too much. This is asked
  of single calls, on the objects before them, and along a run of every step.
* `Room` speaks of the object that is written to, and of no other: of its size, what it counts, and
  what this `write` copies. A `write` that copies nothing always has room.
* Everything is shown on values first, where a call moves one buffer, and carried to objects over a
  heap by the refinement of `Memory`.

Results:

* `Values.good_call_iff`: of all calls only a `write` can leave a length above its size.
* `Memory.lengths_kept_iff`: in a run none does, and no call faults, iff each `write` has room.
-/

namespace Thethings.Http

open Library

/-- No object counts more than its size. -/
def Memory.Sound (m : Memory) : Prop := ∀ i b, m.object i = some b → b.length ≤ b.size

/-- A `write` has room for what it copies behind what is counted already. -/
def Memory.Room (m : Memory) : BufferCall → Prop
  | .write b data offset => ∀ x, m.object b = some x → x.memory ≠ none → offset < x.size →
      x.length + Buffer.bytesToCopy x.size data.length offset ≤ x.size
  | _ => True

namespace Buffer

/-- The value counts no more than its size. -/
def Sound (b : Buffer) : Prop := b.length ≤ b.size

variable {b other : Buffer}

theorem sound_copy (h : other.Sound) (calloc : Bool) : (other.copy calloc).Sound := by
  unfold copy
  split_ifs
  · exact h
  · exact Nat.le_refl 0

theorem sound_ofSize (size : Nat) (calloc : Bool) : (ofSize size calloc).Sound := by
  unfold ofSize
  split_ifs
  · exact Nat.zero_le _
  · exact Nat.le_refl 0

theorem sound_holding (s : Bytes) : (holding s).Sound := Nat.le_refl _

theorem sound_assign (h : other.Sound) (b : Buffer) (calloc : Bool) :
    (b.assign other calloc).Sound := by
  unfold assign
  split_ifs
  · exact h
  · exact Nat.le_refl 0
  · exact h

theorem sound_flush (h : b.Sound) : b.flush.Sound := by
  obtain ⟨memory, size, length, fits⟩ := b
  cases memory with
  | none => exact h
  | some m => exact Nat.zero_le _

theorem sound_setLength (b : Buffer) (n : Nat) : (b.setLength n).Sound := Nat.min_le_right n b.size

theorem sound_receive (h : b.Sound) (received : Bytes) : (b.receive received).Sound := by
  unfold receive
  cases b.data with
  | none => exact h
  | some m => exact sound_setLength _ _

theorem sound_write_iff (h : b.Sound) (data : Bytes) (offset : Nat) :
    (b.write data offset).2.Sound ↔ (b.memory ≠ none → offset < b.size →
      b.length + bytesToCopy b.size data.length offset ≤ b.size) := by
  unfold write
  by_cases hout : offset ≥ b.size ∨ b.memory = none
  · rw [dif_pos hout]
    refine iff_of_true h fun hmem hlt => ?_
    rcases hout with hge | hnone
    · omega
    · exact absurd hnone hmem
  · rw [dif_neg hout]
    rw [not_or] at hout
    exact ⟨fun hs _ _ => hs, fun hroom => hroom hout.2 (by omega)⟩

/-- What counts no more than its size is handed over without a fault. -/
theorem handed_of_sound (h : b.Sound) : ∃ a, b.handed = some a := by
  unfold handed
  cases hd : b.data with
  | none => exact ⟨_, rfl⟩
  | some m =>
    have hm : b.memory = some m := memory_of_data hd
    have hfits := b.fits
    rw [hm, Option.getD_some] at hfits
    have hlen : b.length ≤ m.length := Nat.le_trans h hfits
    simp only [hlen, if_true]
    split_ifs
    · exact ⟨_, rfl⟩
    · exact ⟨_, rfl⟩

end Buffer

namespace Values

/-- No value counts more than its size. -/
def Sound (v : Values) : Prop := ∀ i w, v.object i = some w → w.Sound

variable {v : Values}

theorem sound_put_iff (hv : v.Sound) (i : Nat) (w : Buffer) (answers : List (Int × Bytes)) :
    Sound (v.put i (some w) () answers) ↔ w.Sound := by
  constructor
  · intro h
    exact h i w (by simp [Objects.put])
  · intro hw j w' hj
    by_cases hji : j = i
    · subst hji
      simp only [Objects.put, Function.update_self, Option.some.injEq] at hj
      exact hj ▸ hw
    · simp only [Objects.put, Function.update_of_ne hji] at hj
      exact hv j w' hj

/-- A call that does not fault and leaves no object that counts too much. -/
def Good (r : Option Values) : Prop := ∃ v, r = some v ∧ v.Sound

theorem good_construct (hv : v.Sound) (i : Nat) {w : Buffer} (hw : w.Sound) :
    Good (v.construct i (some (w, ()))) := by
  unfold Objects.construct
  cases v.object i with
  | none => exact ⟨_, rfl, (sound_put_iff hv i w []).mpr hw⟩
  | some _ => exact ⟨v, rfl, hv⟩

theorem good_method (hv : v.Sound) (i : Nat)
    {f : Buffer → Option (List (Int × Bytes) × Buffer × Unit)}
    (hf : ∀ w, v.object i = some w → ∃ r, f w = some r ∧ r.2.1.Sound) :
    Good (v.method i f) := by
  unfold Objects.method
  cases hi : v.object i with
  | none => exact ⟨v, rfl, hv⟩
  | some w =>
    obtain ⟨r, hr, hsound⟩ := hf w hi
    refine ⟨v.put i (some r.2.1) () r.1, ?_, (sound_put_iff hv i _ _).mpr hsound⟩
    simp [hr]

theorem good_withOther (hv : v.Sound) (i : Nat) {f : Buffer → Option Values}
    (hf : ∀ w, w.Sound → Good (f w)) : Good (v.withOther i f) := by
  unfold Objects.withOther
  cases hi : v.object i with
  | none => exact ⟨v, rfl, hv⟩
  | some w => exact hf w (hv i w hi)

theorem good_destruct (hv : v.Sound) (i : Nat) : Good (v.destruct i fun _ => some ()) := by
  unfold Objects.destruct
  cases v.object i with
  | none => exact ⟨v, rfl, hv⟩
  | some _ =>
    refine ⟨_, rfl, fun j w hj => ?_⟩
    by_cases hji : j = i
    · subst hji
      simp [Objects.put] at hj
    · simp only [Objects.put, Function.update_of_ne hji] at hj
      exact hv j w hj

theorem good_write_iff (hv : v.Sound) (b : Nat) (data : Bytes) (offset : Nat) :
    Good (v.call (.write b data offset)) ↔
      ∀ w, v.object b = some w → (w.write data offset).2.Sound := by
  simp only [call, Objects.method]
  cases hb : v.object b with
  | none => exact iff_of_true ⟨v, rfl, hv⟩ (by simp)
  | some w =>
    simp only [Option.map_some, Option.some.injEq, forall_eq']
    rw [← sound_put_iff hv b _ [((w.write data offset).1, [])]]
    constructor
    · rintro ⟨v', hv', hs⟩
      obtain rfl := Option.some.inj hv'
      exact hs
    · intro hs
      exact ⟨_, rfl, hs⟩

/-- **One call on values**: only a `write` can count too much. -/
theorem good_call_iff (hv : v.Sound) (c : BufferCall) :
    Good (v.call c) ↔ ∀ b data offset, c = .write b data offset →
      ∀ w, v.object b = some w → (w.write data offset).2.Sound := by
  cases c with
  | write b data offset =>
    rw [good_write_iff hv]
    constructor
    · rintro h _ _ _ ⟨⟩
      exact h
    · intro h
      exact h b data offset rfl
  | new b => exact iff_of_true (good_construct hv b (Nat.le_refl 0)) (by simp)
  | ofSize b size calloc =>
    exact iff_of_true (good_construct hv b (Buffer.sound_ofSize _ _)) (by simp)
  | copy b other calloc =>
    exact iff_of_true (good_withOther hv other fun w hw =>
      good_construct hv b (Buffer.sound_copy hw _)) (by simp)
  | ofString b s calloc =>
    exact iff_of_true (good_construct hv b (Buffer.sound_copy (Buffer.sound_holding s) _))
      (by simp)
  | destroy b => exact iff_of_true (good_destruct hv b) (by simp)
  | assign b other calloc =>
    exact iff_of_true (good_withOther hv other fun w hw => good_method hv b fun x _ =>
      ⟨_, rfl, Buffer.sound_assign hw x _⟩) (by simp)
  | assignString b s calloc =>
    exact iff_of_true (good_method hv b fun x _ =>
      ⟨_, rfl, Buffer.sound_assign (Buffer.sound_holding s) x _⟩) (by simp)
  | read b maxLength offset =>
    exact iff_of_true (good_method hv b fun x hx => ⟨_, rfl, hv b x hx⟩) (by simp)
  | flush b =>
    exact iff_of_true (good_method hv b fun x hx => ⟨_, rfl, Buffer.sound_flush (hv b x hx)⟩)
      (by simp)
  | setLength b n =>
    exact iff_of_true (good_method hv b fun x _ => ⟨_, rfl, Buffer.sound_setLength x n⟩) (by simp)
  | receive b received =>
    exact iff_of_true (good_method hv b fun x hx =>
      ⟨_, rfl, Buffer.sound_receive (hv b x hx) received⟩) (by simp)
  | send b =>
    refine iff_of_true (good_method hv b fun x hx => ?_) (by simp)
    obtain ⟨a, ha⟩ := Buffer.handed_of_sound (hv b x hx)
    exact ⟨([a], x, ()), by rw [ha, Option.map_some], hv b x hx⟩

end Values

namespace Refines

variable {m : Memory} {v : Values}

theorem sound_iff (hr : Refines m v) : m.Sound ↔ v.Sound := by
  constructor
  · intro h i w hw
    rcases hr.at_cases i with ⟨-, hv⟩ | ⟨b, w', hm, hv, hs⟩
    · rw [hv] at hw
      cases hw
    · obtain rfl := Option.some.inj (hv.symm.trans hw)
      have hb := h i b hm
      rwa [hs.length, hs.size] at hb
  · intro h i b hb
    rcases hr.at_cases i with ⟨hm, -⟩ | ⟨b', w, hm, hv, hs⟩
    · rw [hm] at hb
      cases hb
    · obtain rfl := Option.some.inj (hm.symm.trans hb)
      rw [hs.length, hs.size]
      exact h i w hv

theorem good_iff {r : Option Memory} {r' : Option Values} (h : Option.Rel Refines r r') :
    (∃ m, r = some m ∧ m.Sound) ↔ Values.Good r' := by
  cases h with
  | none => exact iff_of_false (by simp) (by simp [Values.Good])
  | some hr =>
    simp only [Values.Good, Option.some.injEq, exists_eq_left']
    exact hr.sound_iff

/-- **One call on objects.** -/
theorem good_call_iff (hr : Refines m v) (hm : m.Sound) (c : BufferCall) :
    (∃ m', m.call c = some m' ∧ Memory.Sound m') ↔ m.Room c := by
  have hv := hr.sound_iff.mp hm
  rw [good_iff (hr.call c), Values.good_call_iff hv]
  cases c with
  | write b data offset =>
    unfold Memory.Room
    rcases hr.at_cases b with ⟨hnone, hnone'⟩ | ⟨x, w, hx, hw, hs⟩
    · refine iff_of_true ?_ (by simp [hnone])
      rintro _ _ _ ⟨⟩ w hw
      rw [hnone'] at hw
      cases hw
    · simp only [hx, Option.some.injEq, forall_eq']
      rw [hs.size, hs.length, ne_eq, hs.memory_eq_none, ← ne_eq,
        ← Buffer.sound_write_iff (hv b w hw)]
      constructor
      · intro h
        exact h b data offset rfl w hw
      · rintro h _ _ _ ⟨⟩ w' hw'
        exact Option.some.inj (hw.symm.trans hw') ▸ h
  | _ => exact iff_of_true (by simp) trivial

end Refines

/-- **Exactly when lengths are kept**: no call faults and no buffer ever counts more than its size,
iff each `write` has room for what it copies behind what is counted already, wherever it copies it
to. -/
theorem Memory.lengths_kept_iff (calls : List BufferCall) :
    (∀ p ∈ steps Memory.step (some Memory.init) calls,
        ∃ m, Memory.step p.1 p.2 = some m ∧ Memory.Sound m) ↔
      ∀ p ∈ steps Memory.step (some Memory.init) calls, ∀ m, p.1 = some m → Memory.Room m p.2 := by
  have hinit : Memory.init.Sound := fun i b hb => by simp [Memory.init] at hb
  refine steps_congr (P := fun s c => ∃ m, Memory.step s c = some m ∧ Memory.Sound m)
    (C := fun s c => ∀ m, s = some m → Memory.Room m c)
    (fun s => ∃ m v, s = some m ∧ Refines m v ∧ m.Sound) (fun s c => ?_) (fun s c => ?_) calls
    ⟨_, _, rfl, Refines.init, hinit⟩
  · rintro ⟨m, v, rfl, hr, hm⟩ hroom
    obtain ⟨m', hcall, hm'⟩ := (hr.good_call_iff hm c).mpr (hroom m rfl)
    have hrel := hr.call c
    rw [hcall] at hrel
    generalize v.call c = r at hrel
    cases hrel with
    | some hr' => exact ⟨m', _, hcall, hr', hm'⟩
  · rintro ⟨m, v, rfl, hr, hm⟩
    simp only [Option.some.injEq, forall_eq']
    exact hr.good_call_iff hm c

-- four bytes written twice to the front of a block of four: eight are handed over
example : (run Memory.step (some Memory.init) [.ofSize 0 4 (some 0),
    .write 0 [1, 2, 3, 4] 0, .write 0 [5, 6, 7, 8] 0, .send 0]).isNone := by
  decide

end Thethings.Http
