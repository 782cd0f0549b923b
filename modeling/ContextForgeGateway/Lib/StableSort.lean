import Mathlib.Data.List.Sort

/-!
# Merging by a stable sort

Several sources report items, and the items of all of them are put into one list, sorted by a key.
The sort is stable, so what it decides and what it leaves alone can be read off key by key:
`ofKey key k l` are the items of `l` with key `k`, in their order.

* `ofKey_insertionSort`: sorting changes none of these lists.
* `insertionSort_eq_iff`: two lists are sorted into the same list exactly when they agree key by
  key.
* `insertionSort_flatMap_eq_of_perm`: if no two sources have items of the same key, it does not
  matter in which order the sources are taken, even if one source has several items of a key.
-/

namespace StableSort

variable {ι α κ : Type*} [LinearOrder κ] (key : α → κ)

/-- The items with key `k`, in their order. -/
def ofKey (k : κ) (l : List α) : List α := l.filter fun a => key a = k

variable {key}

theorem mem_ofKey {k : κ} {l : List α} {a : α} : a ∈ ofKey key k l ↔ a ∈ l ∧ key a = k := by
  simp [ofKey]

theorem ofKey_cons_self (a : α) (l : List α) :
    ofKey key (key a) (a :: l) = a :: ofKey key (key a) l := by
  simp [ofKey]

theorem ofKey_cons_of_ne {a : α} {k : κ} (h : key a ≠ k) (l : List α) :
    ofKey key k (a :: l) = ofKey key k l := by
  simp [ofKey, h]

variable [DecidableRel fun a b : α => key a ≤ key b]

/-- Sorting is stable: it leaves the items of each key in their order. -/
theorem ofKey_insertionSort (k : κ) (l : List α) :
    ofKey key k (l.insertionSort fun a b => key a ≤ key b) = ofKey key k l := by
  have hpairwise : (ofKey key k l).Pairwise fun a b => key a ≤ key b := by
    apply List.pairwise_of_forall_mem_list
    intro a ha b hb
    rw [(mem_ofKey.1 ha).2, (mem_ofKey.1 hb).2]
  have hsub : (ofKey key k l).Sublist (l.insertionSort fun a b => key a ≤ key b) :=
    List.sublist_insertionSort hpairwise List.filter_sublist
  have hkeys : (ofKey key k l).Sublist
      (ofKey key k (l.insertionSort fun a b => key a ≤ key b)) := by
    have hfilter := hsub.filter fun a => decide (key a = k)
    simpa [ofKey, List.filter_filter] using hfilter
  have hlength : (ofKey key k (l.insertionSort fun a b => key a ≤ key b)).length =
      (ofKey key k l).length :=
    ((List.perm_insertionSort _ l).filter _).length_eq
  exact (hkeys.eq_of_length hlength.symm).symm

omit [DecidableRel fun a b : α => key a ≤ key b] in
/-- Sorted lists that agree key by key are equal. -/
theorem eq_of_ofKey_eq {l m : List α} (hl : l.Pairwise fun a b => key a ≤ key b)
    (hm : m.Pairwise fun a b => key a ≤ key b) (h : ∀ k, ofKey key k l = ofKey key k m) :
    l = m := by
  induction l generalizing m with
  | nil =>
    cases m with
    | nil => rfl
    | cons b m =>
      have hb := h (key b)
      rw [ofKey_cons_self] at hb
      cases hb
  | cons a l ih =>
    cases m with
    | nil =>
      have ha := h (key a)
      rw [ofKey_cons_self] at ha
      cases ha
    | cons b m =>
      obtain ⟨hal, hltail⟩ := List.pairwise_cons.1 hl
      obtain ⟨hbm, hmtail⟩ := List.pairwise_cons.1 hm
      -- each head occurs in the other list, behind its head
      have hba : key b ≤ key a := by
        have ha : a ∈ ofKey key (key a) (b :: m) := by
          rw [← h (key a), ofKey_cons_self]
          exact List.mem_cons_self
        rcases List.mem_cons.1 (mem_ofKey.1 ha).1 with rfl | ha
        · exact le_refl _
        · exact hbm a ha
      have hab : key a ≤ key b := by
        have hb : b ∈ ofKey key (key b) (a :: l) := by
          rw [h (key b), ofKey_cons_self]
          exact List.mem_cons_self
        rcases List.mem_cons.1 (mem_ofKey.1 hb).1 with rfl | hb
        · exact le_refl _
        · exact hal b hb
      have hkey : key a = key b := le_antisymm hab hba
      have hheads := h (key a)
      rw [ofKey_cons_self, hkey, ofKey_cons_self] at hheads
      obtain ⟨rfl, htails⟩ := List.cons.inj hheads
      have hrest : ∀ k, ofKey key k l = ofKey key k m := by
        intro k
        by_cases hk : key a = k
        · rw [← hk, htails]
        · have hcons := h k
          rwa [ofKey_cons_of_ne hk, ofKey_cons_of_ne hk] at hcons
      rw [ih hltail hmtail hrest]

/-- What a stable sort makes of a list is determined by the items of each key. -/
theorem insertionSort_eq_iff {l m : List α} :
    (l.insertionSort fun a b => key a ≤ key b) = (m.insertionSort fun a b => key a ≤ key b) ↔
      ∀ k, ofKey key k l = ofKey key k m := by
  constructor
  · intro h k
    rw [← ofKey_insertionSort k l, h, ofKey_insertionSort]
  · intro h
    have htotal : Std.Total fun a b : α => key a ≤ key b := ⟨fun a b => le_total _ _⟩
    have htrans : IsTrans α fun a b : α => key a ≤ key b := ⟨fun _ _ _ => le_trans⟩
    refine eq_of_ofKey_eq (List.pairwise_insertionSort _ l) (List.pairwise_insertionSort _ m) ?_
    intro k
    rw [ofKey_insertionSort, ofKey_insertionSort, h]

omit [LinearOrder κ] [DecidableRel fun a b : α => key a ≤ key b] in
/-- If only one source contributes anything, the order of the sources does not matter. -/
theorem flatMap_eq_of_perm {f : ι → List α} {l m : List ι} (h : l.Perm m)
    (hf : ∀ i ∈ l, ∀ j ∈ l, f i ≠ [] → f j ≠ [] → i = j) : l.flatMap f = m.flatMap f := by
  induction h with
  | nil => rfl
  | cons i hp ih =>
    rw [List.flatMap_cons, List.flatMap_cons, ih]
    intro j hj j' hj'
    exact hf j (List.mem_cons_of_mem _ hj) j' (List.mem_cons_of_mem _ hj')
  | swap i j l =>
    rw [List.flatMap_cons, List.flatMap_cons, List.flatMap_cons, List.flatMap_cons,
      ← List.append_assoc, ← List.append_assoc]
    have hcomm : f j ++ f i = f i ++ f j := by
      by_cases hi : f i = []
      · rw [hi, List.append_nil, List.nil_append]
      · by_cases hj : f j = []
        · rw [hj, List.append_nil, List.nil_append]
        · rw [hf i (by simp) j (by simp) hi hj]
    rw [hcomm]
  | trans hp _ ih₁ ih₂ =>
    rw [ih₁ hf, ih₂]
    intro i hi j hj
    exact hf i (hp.mem_iff.2 hi) j (hp.mem_iff.2 hj)

/-- If no two sources have items of the same key, the items of all sources are sorted into the same
list in whatever order the sources are taken. -/
theorem insertionSort_flatMap_eq_of_perm {f : ι → List α} {l m : List ι} (h : l.Perm m)
    (hkeys : ∀ i ∈ l, ∀ j ∈ l, ∀ a ∈ f i, ∀ b ∈ f j, key a = key b → i = j) :
    ((l.flatMap f).insertionSort fun a b => key a ≤ key b) =
      (m.flatMap f).insertionSort fun a b => key a ≤ key b := by
  rw [insertionSort_eq_iff]
  intro k
  unfold ofKey
  rw [List.filter_flatMap, List.filter_flatMap]
  apply flatMap_eq_of_perm h
  intro i hi j hj hne hne'
  obtain ⟨a, ha⟩ := List.exists_mem_of_ne_nil _ hne
  obtain ⟨b, hb⟩ := List.exists_mem_of_ne_nil _ hne'
  obtain ⟨ha, hak⟩ := mem_ofKey.1 ha
  obtain ⟨hb, hbk⟩ := mem_ofKey.1 hb
  exact hkeys i hi j hj a ha b hb (hak.trans hbk.symm)

end StableSort
