import Mathlib.Data.List.Perm.Basic
import Mathlib.Data.Multiset.Dedup
import Mathlib.Data.Multiset.Bind
import Mathlib.Data.Multiset.Count
import Mathlib.Logic.Function.Basic
import Mathlib.Tactic.TypeStar

/-!
# Reference counts

Objects of a type `ι` are owned jointly by those who hold a reference to them. Nobody knows who they
are: each object only has a count, which `clone` raises and `drop` lowers, and an object whose count
falls to zero is destroyed.

* `RefCounts ι` is the counts, and the objects that were destroyed, the last one first.
* `Owned a made holders` says that `holders` (with repetitions) are the references there are to the
  objects that satisfy `made`, and that the counts agree with them.
* `Owned.new`, `Owned.clone` and `Owned.drop` are the rules of the three operations. What they give is
  `Owned.mem_dropped`: an object is destroyed exactly if nobody holds it, and only once.

References are held in slots: `bind_set` says what holders there are after one slot of a list has
changed.
-/

/-- The counts of the objects, and the objects that were destroyed. -/
structure RefCounts (ι : Type*) where
  strong : ι → ℕ
  dropped : List ι

namespace RefCounts

variable {ι : Type*}

/-- No objects. -/
def empty : RefCounts ι := ⟨fun _ => 0, []⟩

variable [DecidableEq ι]

/-- `Arc::new`: the object `i`, with one reference to it. -/
def new (a : RefCounts ι) (i : ι) : RefCounts ι := { a with strong := Function.update a.strong i 1 }

/-- `Arc::clone`. -/
def clone (a : RefCounts ι) (i : ι) : RefCounts ι :=
  { a with strong := Function.update a.strong i (a.strong i + 1) }

/-- A reference to `i` goes out of scope. -/
def drop (a : RefCounts ι) (i : ι) : RefCounts ι :=
  if a.strong i = 1 then ⟨Function.update a.strong i 0, i :: a.dropped⟩
  else { a with strong := Function.update a.strong i (a.strong i - 1) }

/-- The references to the objects that were made are `holders`. -/
structure Owned (a : RefCounts ι) (made : ι → Prop) (holders : Multiset ι) : Prop where
  strong : ∀ i, a.strong i = holders.count i
  made_of_mem : ∀ i ∈ holders, made i
  mem_dropped : ∀ i, i ∈ a.dropped ↔ made i ∧ i ∉ holders
  nodup : a.dropped.Nodup

variable {a : RefCounts ι} {made made' : ι → Prop} {holders : Multiset ι} {i : ι}

theorem owned_empty (h : ∀ i, ¬ made i) :
    (empty : RefCounts ι).Owned made 0 where
  strong _ := rfl
  made_of_mem _ hi := absurd hi (Multiset.notMem_zero _)
  mem_dropped j := iff_of_false List.not_mem_nil fun hj => h j hj.1
  nodup := List.nodup_nil

/-- An object that is held has not been destroyed. -/
theorem Owned.notMem_dropped (h : a.Owned made holders) (hi : i ∈ holders) : i ∉ a.dropped :=
  fun hd => ((h.mem_dropped i).1 hd).2 hi

theorem Owned.new (h : a.Owned made holders) (hi : ¬ made i) (hmade : ∀ j, made' j ↔ made j ∨ j = i) :
    (a.new i).Owned made' (i ::ₘ holders) where
  strong j := by
    have hnot : holders.count i = 0 := Multiset.count_eq_zero.2 fun hmem => hi (h.made_of_mem i hmem)
    by_cases hj : j = i
    · subst hj
      simp only [RefCounts.new, Function.update_self, Multiset.count_cons_self, hnot]
    · simp only [RefCounts.new, Function.update_of_ne hj, Multiset.count_cons_of_ne hj, h.strong]
  made_of_mem j hj := by
    rcases Multiset.mem_cons.1 hj with rfl | hj
    · exact (hmade _).2 (Or.inr rfl)
    · exact (hmade _).2 (Or.inl (h.made_of_mem j hj))
  mem_dropped j := by
    rw [Multiset.mem_cons, not_or, hmade, RefCounts.new, h.mem_dropped]
    constructor
    · rintro ⟨hj, hnot⟩
      exact ⟨Or.inl hj, fun hji => hi (hji ▸ hj), hnot⟩
    · rintro ⟨hj, hne, hnot⟩
      exact ⟨hj.resolve_right hne, hnot⟩
  nodup := h.nodup

theorem Owned.clone (h : a.Owned made holders) (hi : i ∈ holders) :
    (a.clone i).Owned made (i ::ₘ holders) where
  strong j := by
    by_cases hj : j = i
    · subst hj
      simp only [RefCounts.clone, Function.update_self, Multiset.count_cons_self, h.strong]
    · simp only [RefCounts.clone, Function.update_of_ne hj, Multiset.count_cons_of_ne hj, h.strong]
  made_of_mem j hj := by
    rcases Multiset.mem_cons.1 hj with rfl | hj
    · exact h.made_of_mem _ hi
    · exact h.made_of_mem j hj
  mem_dropped j := by
    rw [Multiset.mem_cons, not_or, RefCounts.clone, h.mem_dropped]
    constructor
    · rintro ⟨hj, hnot⟩
      exact ⟨hj, fun hji => hnot (hji ▸ hi), hnot⟩
    · rintro ⟨hj, -, hnot⟩
      exact ⟨hj, hnot⟩
  nodup := h.nodup

/-- The count tells whether a reference is the only one. -/
theorem Owned.strong_eq_one (h : a.Owned made (i ::ₘ holders)) :
    a.strong i = 1 ↔ i ∉ holders := by
  rw [h.strong, Multiset.count_cons_self, Nat.add_eq_right, Multiset.count_eq_zero]

theorem Owned.drop (h : a.Owned made (i ::ₘ holders)) : (a.drop i).Owned made holders := by
  have hmade : ∀ j ∈ holders, made j := fun j hj => h.made_of_mem j (Multiset.mem_cons_of_mem hj)
  have hstrong : ∀ {n : ℕ}, n = holders.count i →
      ∀ j, Function.update a.strong i n j = holders.count j := by
    intro n hn j
    by_cases hj : j = i
    · subst hj
      rw [Function.update_self, hn]
    · rw [Function.update_of_ne hj, h.strong, Multiset.count_cons_of_ne hj]
  by_cases hone : a.strong i = 1
  · have hlast : i ∉ holders := h.strong_eq_one.1 hone
    have hnot : i ∉ a.dropped := h.notMem_dropped (Multiset.mem_cons_self i holders)
    rw [RefCounts.drop, if_pos hone]
    refine ⟨hstrong (Multiset.count_eq_zero.2 hlast).symm, hmade, fun j => ?_,
      List.nodup_cons.2 ⟨hnot, h.nodup⟩⟩
    rw [List.mem_cons, h.mem_dropped, Multiset.mem_cons, not_or]
    constructor
    · rintro (rfl | ⟨hj, -, hnotj⟩)
      · exact ⟨h.made_of_mem _ (Multiset.mem_cons_self _ _), hlast⟩
      · exact ⟨hj, hnotj⟩
    · rintro ⟨hj, hnotj⟩
      by_cases hji : j = i
      · exact Or.inl hji
      · exact Or.inr ⟨hj, hji, hnotj⟩
  · have hmem : i ∈ holders := not_not.1 (mt h.strong_eq_one.2 hone)
    rw [RefCounts.drop, if_neg hone]
    refine ⟨hstrong ?_, hmade, fun j => ?_, h.nodup⟩
    · rw [h.strong, Multiset.count_cons_self, Nat.add_sub_cancel]
    · rw [h.mem_dropped, Multiset.mem_cons, not_or]
      constructor
      · rintro ⟨hj, -, hnot⟩
        exact ⟨hj, hnot⟩
      · rintro ⟨hj, hnot⟩
        exact ⟨hj, fun hji => hnot (hji ▸ hmem), hnot⟩

/-! ### Slots -/

omit [DecidableEq ι] in
/-- What the slots of a list hold, before and after one of them has changed. -/
theorem bind_set {σ : Type*} (held : σ → Multiset ι) {slots : List σ} {k : ℕ} {x : σ}
    (h : slots[k]? = some x) :
    ∃ rest : Multiset ι, (slots : Multiset σ).bind held = held x + rest ∧
      ∀ y, ((slots.set k y : List σ) : Multiset σ).bind held = held y + rest := by
  obtain ⟨hk, hx⟩ := List.getElem?_eq_some_iff.1 h
  refine ⟨((slots.eraseIdx k : List σ) : Multiset σ).bind held, ?_, fun y => ?_⟩
  · have hperm := List.getElem_cons_eraseIdx_perm hk
    rw [hx] at hperm
    rw [← Multiset.coe_eq_coe.2 hperm, ← Multiset.cons_coe, Multiset.cons_bind]
  · have hperm := List.set_perm_cons_eraseIdx hk y
    rw [Multiset.coe_eq_coe.2 hperm, ← Multiset.cons_coe, Multiset.cons_bind]

end RefCounts
