import Mathlib.Data.Nat.Notation
import Mathlib.Data.Option.Basic
import Mathlib.Logic.Function.Basic
import Mathlib.Tactic.TypeStar

/-!
# A cache whose entries expire

The documented behaviour of a time-based LRU cache, over any keys and values: an entry expires
when `expiry` has passed since it was last inserted or got by `getMut`; `containsKey` does not
count. The capacity of such a cache only ever removes entries, so it is modelled by `evict`, which
a system may take at any moment.
-/

/-- A cached value and the time of its last insert or `getMut`. -/
structure CacheEntry (ν : Type*) where
  value : ν
  touched : ℕ
  deriving DecidableEq

/-- A cache: at most one entry for each key, expired ones included. -/
abbrev TimeCache (κ ν : Type*) := κ → Option (CacheEntry ν)

namespace TimeCache

variable {κ ν : Type*} (expiry : ℕ) (c : TimeCache κ ν) (now : ℕ)

/-- The empty cache. -/
def empty : TimeCache κ ν := fun _ => none

/-- The entry of `k` that has not expired at time `now`. -/
def live (k : κ) : Option (CacheEntry ν) := (c k).filter fun e => now < e.touched + expiry

/-- `contains_key`. -/
def containsKey (k : κ) : Bool := (c.live expiry now k).isSome

variable [DecidableEq κ]

/-- `insert`. -/
def insert (k : κ) (v : ν) : TimeCache κ ν := Function.update c k (some ⟨v, now⟩)

/-- Drop the entry of `k`. -/
def evict (k : κ) : TimeCache κ ν := Function.update c k none

/-- `get_mut`: the live value, whose time it resets. -/
def getMut (k : κ) : Option ν × TimeCache κ ν :=
  match c.live expiry now k with
  | some e => (some e.value, c.insert now k e.value)
  | none => (none, c)

variable {expiry c now}

omit [DecidableEq κ] in
theorem live_eq_some {k : κ} {e : CacheEntry ν} :
    c.live expiry now k = some e ↔ c k = some e ∧ now < e.touched + expiry := by
  simp [live, Option.filter_eq_some_iff]

@[simp] theorem insert_self (k : κ) (v : ν) : c.insert now k v k = some ⟨v, now⟩ := by
  simp [insert]

theorem insert_of_ne {k k' : κ} (h : k' ≠ k) (v : ν) : c.insert now k v k' = c k' := by
  simp [insert, h]

@[simp] theorem evict_self (k : κ) : c.evict k k = none := by simp [evict]

theorem evict_of_ne {k k' : κ} (h : k' ≠ k) : c.evict k k' = c k' := by simp [evict, h]

/-- An entry of the cache after `getMut` has a value that the cache already held. -/
theorem getMut_entry {k k' : κ} {e : CacheEntry ν}
    (h : (c.getMut expiry now k).2 k' = some e) :
    c k' = some e ∨ ∃ e', k' = k ∧ c.live expiry now k = some e' ∧ e = ⟨e'.value, now⟩ := by
  unfold getMut at h
  cases hl : c.live expiry now k with
  | none => rw [hl] at h; exact Or.inl h
  | some e' =>
    simp only [hl] at h
    by_cases hk : k' = k
    · subst hk
      rw [insert_self] at h
      exact Or.inr ⟨e', rfl, rfl, (Option.some.inj h).symm⟩
    · rw [insert_of_ne hk] at h
      exact Or.inl h

theorem live_insert_self (hexpiry : 0 < expiry) (k : κ) (v : ν) :
    (c.insert now k v).live expiry now k = some ⟨v, now⟩ :=
  live_eq_some.2 ⟨insert_self k v, Nat.lt_add_of_pos_right hexpiry⟩

theorem live_insert_of_ne {k k' : κ} (h : k' ≠ k) (v : ν) :
    (c.insert now k v).live expiry now k' = c.live expiry now k' := by
  simp only [live, insert_of_ne h]

/-- `getMut` changes no live value. -/
theorem live_getMut_value (hexpiry : 0 < expiry) (k k' : κ) :
    ((c.getMut expiry now k).2.live expiry now k').map CacheEntry.value =
      (c.live expiry now k').map CacheEntry.value := by
  unfold getMut
  cases hl : c.live expiry now k with
  | none => rfl
  | some e =>
    by_cases hk : k' = k
    · subst hk
      simp only [live_insert_self hexpiry, hl, Option.map_some]
    · simp only [live_insert_of_ne hk]

theorem getMut_fst (k : κ) :
    (c.getMut expiry now k).1 = (c.live expiry now k).map CacheEntry.value := by
  unfold getMut
  cases c.live expiry now k <;> rfl

omit [DecidableEq κ] in
/-- What is live later is live now. -/
theorem live_of_later {k : κ} {e : CacheEntry ν} {d : ℕ}
    (h : c.live expiry (now + d) k = some e) : c.live expiry now k = some e := by
  obtain ⟨he, hlive⟩ := live_eq_some.1 h
  exact live_eq_some.2 ⟨he, Nat.lt_of_le_of_lt (Nat.le_add_right now d) hlive⟩

theorem live_of_evict {k k' : κ} {e : CacheEntry ν}
    (h : (c.evict k).live expiry now k' = some e) : c.live expiry now k' = some e := by
  obtain ⟨he, hlive⟩ := live_eq_some.1 h
  by_cases hk : k' = k
  · subst hk
    rw [evict_self] at he
    cases he
  · rw [evict_of_ne hk] at he
    exact live_eq_some.2 ⟨he, hlive⟩

theorem getMut_eq_some {k : κ} {v : ν} :
    (c.getMut expiry now k).1 = some v ↔ ∃ e, c.live expiry now k = some e ∧ e.value = v := by
  unfold getMut
  cases c.live expiry now k <;> simp

theorem getMut_eq_none {k : κ} :
    (c.getMut expiry now k).1 = none ↔ c.live expiry now k = none := by
  unfold getMut
  cases c.live expiry now k <;> simp

end TimeCache
