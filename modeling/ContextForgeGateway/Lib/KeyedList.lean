import Mathlib.Data.List.Nodup
import Mathlib.Data.List.Perm.Basic
import Mathlib.Tactic.TypeStar

/-!
# Finite maps with an iteration order

A hash map is a finite set of entries, one for each key, together with the order in which it
happens to be iterated. `KeyedList` keeps both: the entries are listed in iteration order and no
key occurs twice. Two such lists are the same map (`Same`) when they hold the same entries in any
order.
-/

/-- The entries of a finite map in its iteration order. -/
structure KeyedList (κ ν : Type*) where
  entries : List (κ × ν)
  nodup : (entries.map Prod.fst).Nodup
  deriving DecidableEq

namespace KeyedList

variable {κ ν : Type*}

/-- A partial function that is defined at one element of a list without repetitions only. -/
theorem filterMap_eq_toList {l : List κ} {a : κ} {f : κ → Option ν} (hl : l.Nodup) (ha : a ∈ l)
    (hf : ∀ x, x ≠ a → f x = none) : l.filterMap f = (f a).toList := by
  induction l with
  | nil => cases ha
  | cons x l ih =>
    obtain ⟨hx, hl⟩ := List.nodup_cons.1 hl
    rcases List.mem_cons.1 ha with rfl | ha
    · have hnil : l.filterMap f = [] :=
        List.filterMap_eq_nil_iff.2 fun y hy => hf y fun h => hx (h ▸ hy)
      cases h : f a with
      | none => rw [List.filterMap_cons_none h, hnil]; rfl
      | some v => rw [List.filterMap_cons_some h, hnil]; rfl
    · have hxa : f x = none := hf x fun h => hx (h ▸ ha)
      rw [List.filterMap_cons_none hxa, ih hl ha]

/-- The keys in iteration order. -/
def keys (m : KeyedList κ ν) : List κ := m.entries.map Prod.fst

theorem nodup_keys (m : KeyedList κ ν) : m.keys.Nodup := m.nodup

theorem mem_keys {m : KeyedList κ ν} {k : κ} : k ∈ m.keys ↔ ∃ v, (k, v) ∈ m.entries := by
  simp [keys]

/-- The map with other values under the same keys. -/
def mapValues {ν' : Type*} (f : ν → ν') (m : KeyedList κ ν) : KeyedList κ ν' :=
  ⟨m.entries.map fun e => (e.1, f e.2), by simpa [Function.comp_def] using m.nodup⟩

@[simp] theorem keys_mapValues {ν' : Type*} (f : ν → ν') (m : KeyedList κ ν) :
    (m.mapValues f).keys = m.keys := by
  simp [keys, mapValues, Function.comp_def]

/-- The same finite map, iterated in another order. -/
def Same (m m' : KeyedList κ ν) : Prop := m.entries.Perm m'.entries

theorem Same.refl (m : KeyedList κ ν) : m.Same m := List.Perm.refl _

theorem Same.keys_perm {m m' : KeyedList κ ν} (h : m.Same m') : m.keys.Perm m'.keys := h.map _

/-- Any key of a map comes first in some iteration order of it. -/
theorem exists_same_head [DecidableEq κ] [DecidableEq ν] (m : KeyedList κ ν) {k : κ}
    (hk : k ∈ m.keys) : ∃ (m' : KeyedList κ ν) (ks : List κ), m'.Same m ∧ m'.keys = k :: ks := by
  obtain ⟨v, hv⟩ := mem_keys.1 hk
  have hp : ((k, v) :: m.entries.erase (k, v)).Perm m.entries := (List.perm_cons_erase hv).symm
  exact ⟨⟨_, (hp.map Prod.fst).nodup_iff.2 m.nodup⟩, _, hp, rfl⟩

variable [DecidableEq κ]

/-- The value stored under `k`. -/
def get (m : KeyedList κ ν) (k : κ) : Option ν :=
  (m.entries.find? fun e => e.1 = k).map Prod.snd

theorem get_eq_some {m : KeyedList κ ν} {k : κ} {v : ν} :
    m.get k = some v ↔ (k, v) ∈ m.entries := by
  constructor
  · intro h
    obtain ⟨e, he, rfl⟩ := Option.map_eq_some_iff.1 h
    have hk : e.1 = k := by simpa using List.find?_some he
    exact hk ▸ List.mem_of_find?_eq_some he
  · intro h
    obtain ⟨e, he⟩ : ∃ e, m.entries.find? (fun e => e.1 = k) = some e :=
      Option.isSome_iff_exists.1 (List.find?_isSome.2 ⟨(k, v), h, by simp⟩)
    have hk : e.1 = k := by simpa using List.find?_some he
    have hev : e = (k, v) :=
      List.inj_on_of_nodup_map m.nodup (List.mem_of_find?_eq_some he) h hk
    simp [get, he, hev]

@[simp] theorem get_mapValues {ν' : Type*} (f : ν → ν') (m : KeyedList κ ν) (k : κ) :
    (m.mapValues f).get k = (m.get k).map f := by
  simp [get, mapValues, List.find?_map, Function.comp_def]

/-! ### Collecting -/

/-- The map into which the entries are inserted in order: of one key, the last value stays. -/
def ofList : List (κ × ν) → KeyedList κ ν
  | [] => ⟨[], List.nodup_nil⟩
  | e :: l =>
    if h : e.1 ∈ (ofList l).keys then ofList l
    else ⟨e :: (ofList l).entries, List.nodup_cons.2 ⟨h, (ofList l).nodup⟩⟩

theorem ofList_sublist (l : List (κ × ν)) : (ofList l).entries.Sublist l := by
  induction l with
  | nil => exact List.Sublist.refl []
  | cons e l ih =>
    rw [ofList]
    split
    · exact ih.cons e
    · exact ih.cons_cons e

/-- Entries with different keys are the entries of their map. -/
theorem entries_ofList {l : List (κ × ν)} (h : (l.map Prod.fst).Nodup) :
    (ofList l).entries = l := by
  induction l with
  | nil => rfl
  | cons e l ih =>
    rw [List.map_cons] at h
    obtain ⟨hnot, hnodup⟩ := List.nodup_cons.1 h
    have hrest := ih hnodup
    have hkeys : e.1 ∉ (ofList l).keys := by
      rw [keys, hrest]
      exact hnot
    rw [ofList, dif_neg hkeys]
    exact congrArg (e :: ·) hrest

theorem ofList_entries (m : KeyedList κ ν) : ofList m.entries = m := by
  have hentries := entries_ofList m.nodup
  generalize ofList m.entries = m' at hentries
  obtain ⟨entries, hnodup⟩ := m'
  cases hentries
  rfl

end KeyedList
