import Mathlib.Data.List.Nodup

/-!
# Who holds what

Holders that take resources and give them back, one at a time each. `Exact` is what a good
bookkeeping keeps: a resource is in use exactly when somebody holds it, and then one holder does. No
resource is lost, and none is given back under somebody else's feet.

Choices:

* Holders and resources are any types. Who holds what is a partial function, which resources are in
  use a predicate, so that a heap of blocks and a table of descriptors are both cases of it.
* An exchange is stated by what it is before and after: the holder's own resource, and everybody
  else's as it was. How the resource comes to be in use is not asked.

Results:

* `Exact.exchange`: one holder exchanges what it has; `Exact.take` and `Exact.drop` are the cases in
  which it had nothing before or has nothing after.
* `Exact.countP_eq`: counting resources is counting their holders.

Out of scope: a holder of several resources, and one that hands its resource on to another in one
step.
-/

namespace Thethings.Library.Holding

universe u v

variable {ι : Type u} {ρ : Type v}

/-- What is in use is held, by one holder. -/
structure Exact (inUse : ρ → Prop) (held : ι → Option ρ) : Prop where
  inUse_iff : ∀ r, inUse r ↔ ∃ i, held i = some r
  apart : ∀ {i j r}, held i = some r → held j = some r → i = j

variable {inUse inUse' : ρ → Prop} {held held' : ι → Option ρ}

/-- Nothing is in use. -/
theorem Exact.empty (hfree : ∀ r, ¬ inUse r) (hnone : ∀ i, held i = none) : Exact inUse held where
  inUse_iff r := iff_of_false (hfree r) fun ⟨i, hi⟩ => by simp [hnone i] at hi
  apart hi := by simp [hnone] at hi

theorem Exact.congr (h : Exact inUse held) (hinUse : ∀ r, inUse' r ↔ inUse r)
    (hheld : ∀ i, held' i = held i) : Exact inUse' held' where
  inUse_iff r := by simp only [hinUse, hheld, h.inUse_iff]
  apart hi hj := h.apart (hheld _ ▸ hi) (hheld _ ▸ hj)

variable {i : ι} {r : ρ}

/-- **One holder exchanges** what it has, for something that was free or for nothing. -/
theorem Exact.exchange (h : Exact inUse held) (hother : ∀ j, j ≠ i → held' j = held j)
    (hkept : ∀ r, held i ≠ some r → held' i ≠ some r → (inUse' r ↔ inUse r))
    (hgot : ∀ r, held' i = some r → inUse' r)
    (hgiven : ∀ r, held i = some r → held' i ≠ some r → ¬ inUse' r)
    (hfree : ∀ r, held' i = some r → held i ≠ some r → ¬ inUse r) : Exact inUse' held' := by
  have hnew : ∀ {j r}, held' i = some r → held' j = some r → j = i := by
    intro j r hi hj
    by_contra hji
    rw [hother j hji] at hj
    by_cases hold : held i = some r
    · exact hji (h.apart hj hold)
    · exact hfree r hi hold ((h.inUse_iff r).mpr ⟨j, hj⟩)
  constructor
  · intro r
    by_cases hi' : held' i = some r
    · exact iff_of_true (hgot r hi') ⟨i, hi'⟩
    · by_cases hi : held i = some r
      · refine iff_of_false (hgiven r hi hi') fun ⟨j, hj⟩ => ?_
        have hji : j ≠ i := fun hji => hi' (hji ▸ hj)
        exact hji (h.apart (hother j hji ▸ hj) hi)
      · rw [hkept r hi hi', h.inUse_iff]
        constructor
        · rintro ⟨j, hj⟩
          have hji : j ≠ i := fun hji => hi (hji ▸ hj)
          exact ⟨j, (hother j hji).trans hj⟩
        · rintro ⟨j, hj⟩
          have hji : j ≠ i := fun hji => hi' (hji ▸ hj)
          exact ⟨j, (hother j hji).symm.trans hj⟩
  · intro j k r hj hk
    by_cases hji : j = i
    · subst hji
      exact (hnew hj hk).symm
    · by_cases hki : k = i
      · subst hki
        exact hnew hk hj
      · exact h.apart ((hother j hji).symm.trans hj) ((hother k hki).symm.trans hk)

/-- **A free resource is taken** by a holder without one. -/
theorem Exact.take (h : Exact inUse held) (hfree : ¬ inUse r) (hnone : held i = none)
    (hinUse : ∀ r', inUse' r' ↔ r' = r ∨ inUse r') (hself : held' i = some r)
    (hother : ∀ j, j ≠ i → held' j = held j) : Exact inUse' held' := by
  refine h.exchange hother ?_ ?_ ?_ ?_
  · intro r' _ hne
    rw [hinUse]
    exact or_iff_right fun hr => hne (hr ▸ hself)
  · intro r' hr'
    exact (hinUse r').mpr (Or.inl (Option.some.inj (hr'.symm.trans hself)))
  · intro r' hr'
    simp [hnone] at hr'
  · intro r' hr' _
    rwa [Option.some.inj (hr'.symm.trans hself)]

/-- **A holder gives back** what it holds. -/
theorem Exact.drop (h : Exact inUse held) (hheld : held i = some r)
    (hinUse : ∀ r', inUse' r' ↔ r' ≠ r ∧ inUse r') (hself : held' i = none)
    (hother : ∀ j, j ≠ i → held' j = held j) : Exact inUse' held' := by
  refine h.exchange hother ?_ ?_ ?_ ?_
  · intro r' hne _
    rw [hinUse]
    exact and_iff_right fun hr => hne (hr ▸ hheld)
  · intro r' hr'
    simp [hself] at hr'
  · intro r' hr' _ hin
    exact ((hinUse r').mp hin).1 (Option.some.inj (hr'.symm.trans hheld))
  · intro r' hr'
    simp [hself] at hr'

/-- **Counting.** As many resources as holders, where a test of the resources is one of the holders
that have them. -/
theorem Exact.countP_eq (h : Exact inUse held) {l : List ι} (hl : l.Nodup) {rs : List ρ}
    (hrs : rs.Nodup) {p : ι → Bool} {q : ρ → Bool} (hp : ∀ i ∈ l, p i → (held i).isSome)
    (hq : ∀ r, r ∈ rs ∧ q r ↔ ∃ i, (i ∈ l ∧ p i) ∧ held i = some r) :
    rs.countP q = (l.filter p).length := by
  have hholders : ((l.filter p).map held).Nodup := by
    refine List.Nodup.map_on (fun i hi j _ heq => ?_) (hl.filter p)
    obtain ⟨r, hr⟩ := Option.isSome_iff_exists.mp (hp i (List.mem_filter.mp hi).1
      (List.mem_filter.mp hi).2)
    exact h.apart hr (heq ▸ hr)
  have hresources : ((rs.filter q).map some).Nodup :=
    List.Nodup.map (fun _ _ => Option.some.inj) (hrs.filter q)
  have hperm : ((rs.filter q).map some).Perm ((l.filter p).map held) := by
    refine (List.perm_ext_iff_of_nodup hresources hholders).mpr fun o => ?_
    simp only [List.mem_map, List.mem_filter, hq]
    constructor
    · rintro ⟨r, hr, rfl⟩
      exact hr
    · rintro ⟨i, hi, rfl⟩
      obtain ⟨r, hr⟩ := Option.isSome_iff_exists.mp (hp i hi.1 hi.2)
      exact ⟨r, ⟨i, hi, hr⟩, hr.symm⟩
  rw [List.countP_eq_length_filter]
  simpa using hperm.length_eq

end Thethings.Library.Holding
