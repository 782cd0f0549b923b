import ContextForgeGateway.Lib.Runs
import Mathlib.Logic.Function.Basic

/-!
# Clients of a shared memory

Clients of different kinds, each with a state of its own, take steps on one memory in any order; some
events, such as the passing of time, are heard by all of them. A client is `Confined` to a set of keys if
it does not write any other key, and if what it does depends on no other key.

`noninterference`: if no two clients have a key in common, each of them behaves as if it were alone. Its
state, and what its keys hold, are the same when the steps of all others are left out of the run.
-/

namespace SharedMemory

open Runs

/-- What a step of the client does to its state and the memory, and what an event that everybody hears
does to its state. -/
structure Client (κ ν L ι β : Type*) where
  step : L → (κ → ν) → ι → L × (κ → ν)
  hear : L → β → L

/-- The client has no use for keys that are not its own. -/
structure Client.Confined {κ ν L ι β : Type*} (client : Client κ ν L ι β) (own : κ → Prop) :
    Prop where
  writes : ∀ l m i k, ¬ own k → (client.step l m i).2 k = m k
  reads : ∀ l m m' i, (∀ k, own k → m' k = m k) →
    (client.step l m' i).1 = (client.step l m i).1 ∧
      ∀ k, own k → (client.step l m' i).2 k = (client.step l m i).2 k

section

variable {γ κ ν : Type*} {L ι : γ → Type*} {β : Type*}

variable (κ ν L) in
/-- The states of the clients, and the memory. -/
structure System where
  locals : ∀ c, L c
  memory : κ → ν

variable (ι β) in
/-- A step of one client, or something that all of them hear. -/
inductive Event
  | own (c : γ) (i : ι c)
  | all (b : β)

variable [DecidableEq γ]

/-- The event changes the state of the client. -/
def Event.concerns (c : γ) : Event ι β → Bool
  | .own d _ => d = c
  | .all _ => true

/-- The next state. -/
def next (clients : ∀ c, Client κ ν (L c) (ι c) β) (σ : System κ ν L) : Event ι β → System κ ν L
  | .own c i =>
    ⟨Function.update σ.locals c ((clients c).step (σ.locals c) σ.memory i).1,
      ((clients c).step (σ.locals c) σ.memory i).2⟩
  | .all b => { σ with locals := fun c => (clients c).hear (σ.locals c) b }

variable {clients : ∀ c, Client κ ν (L c) (ι c) β} {own : γ → κ → Prop}

@[simp] theorem locals_next_own (σ : System κ ν L) (c : γ) (i : ι c) :
    (next clients σ (.own c i)).locals c = ((clients c).step (σ.locals c) σ.memory i).1 := by
  simp [next]

/-- A client can tell no difference between the two states. -/
def Alike (own : γ → κ → Prop) (c : γ) (σ τ : System κ ν L) : Prop :=
  τ.locals c = σ.locals c ∧ ∀ k, own c k → τ.memory k = σ.memory k

/-- What one client sees is changed by its own steps alone, and in the same way in states that are alike
for it. -/
theorem Alike.next_of_concerns (hconfined : ∀ c, (clients c).Confined (own c)) {c : γ}
    {σ τ : System κ ν L} (h : Alike own c σ τ) {e : Event ι β} (he : e.concerns c = true) :
    Alike own c (next clients σ e) (next clients τ e) := by
  obtain ⟨hlocal, hmemory⟩ := h
  cases e with
  | own d i =>
    obtain rfl : d = c := of_decide_eq_true he
    obtain ⟨hstep, hkeys⟩ := (hconfined d).reads (σ.locals d) σ.memory τ.memory i hmemory
    refine ⟨?_, fun k hk => ?_⟩
    · rw [locals_next_own, locals_next_own, hlocal, hstep]
    · simp only [next, hlocal]
      exact hkeys k hk
  | all b => exact ⟨congrArg (fun l => (clients c).hear l b) hlocal, hmemory⟩

theorem Alike.next_of_not_concerns (hconfined : ∀ c, (clients c).Confined (own c))
    (hdisjoint : ∀ c d k, own c k → own d k → c = d) {c : γ} {σ τ : System κ ν L}
    (h : Alike own c σ τ) {e : Event ι β} (he : e.concerns c = false) :
    Alike own c (next clients σ e) τ := by
  cases e with
  | own d i =>
    have hne : d ≠ c := of_decide_eq_false he
    refine ⟨?_, fun k hk => ?_⟩
    · simp only [next, Function.update_of_ne hne.symm]
      exact h.1
    · have hnot : ¬ own d k := fun hd => hne (hdisjoint d c k hd hk)
      simp only [next, (hconfined d).writes _ _ _ k hnot]
      exact h.2 k hk
  | all b => cases he

/-- Clients with disjoint keys do not interfere. -/
theorem noninterference (hconfined : ∀ c, (clients c).Confined (own c))
    (hdisjoint : ∀ c d k, own c k → own d k → c = d) (σ : System κ ν L) (es : List (Event ι β))
    (c : γ) : Alike own c (run (next clients) σ es)
      (run (next clients) σ (es.filter (Event.concerns c))) :=
  run_filter (Event.concerns c) (fun _ _ _ he h => h.next_of_concerns hconfined he)
    (fun _ _ _ he h => h.next_of_not_concerns hconfined hdisjoint he) ⟨rfl, fun _ _ => rfl⟩ es

end

end SharedMemory
