import ContextForgeGateway.Cpex.Runtime
import ContextForgeGateway.Lib.RefCount
import ContextForgeGateway.Lib.Runs
import Mathlib.Data.Nat.Notation

/-!
# The lifetimes of plugin runtimes

A `GatewayPluginRuntime` shuts its plugins down when it is dropped, and nothing says when that is: it
is owned by reference counting. The `ArcSwap` of the registry owns the published `RuntimeState`, which
owns its runtime; a tool call owns the state while `before_tool_call` works on it, and then, until
`after_tool_call` is done, the runtime itself (`RegistryToolCallState`); whoever has swapped a state out
owns it until the `drop` that follows. The `ArcSwap` in turn is owned by the registry, by the handles,
and by the watcher while it works on a tick; between ticks the watcher has a `Weak` to it only.

`Lifetimes` is all that owns something, with the counts; an `Event` is one step of anyone, and a future
may be cancelled wherever it waits. `Inv` says that the counts are those of the references that there
are, and everything else follows: `runs_on_live`, no pipeline is run on a runtime that has been
dropped; `dropped_exactly`, a runtime that was published has been dropped, once, exactly if nothing
owns it any more.
-/

namespace ContextForge

open Runs

/-- The states that were ever published, by number, and the counts of their `Arc`s and of those of
their runtimes. A runtime has the number of its state. -/
structure RuntimeHeap (Manager : Type) where
  published : List (RuntimeState Manager)
  states : RefCounts ℕ
  runtimes : RefCounts ℕ

variable {Manager : Type}

namespace RuntimeHeap

/-- The state owns a runtime. -/
def isActive (heap : RuntimeHeap Manager) (i : ℕ) : Bool :=
  match heap.published[i]? with
  | some (.active _) => true
  | _ => false

/-- `Arc::new(RuntimeState::..)`, the state of the next number. -/
def publish (heap : RuntimeHeap Manager) (state : RuntimeState Manager) : RuntimeHeap Manager where
  published := heap.published ++ [state]
  states := heap.states.new heap.published.length
  runtimes :=
    match state with
    | .active _ => heap.runtimes.new heap.published.length
    | .failed _ => heap.runtimes

/-- A reference to a state is cloned. -/
def cloneState (heap : RuntimeHeap Manager) (i : ℕ) : RuntimeHeap Manager :=
  { heap with states := heap.states.clone i }

/-- A reference to a runtime is cloned. -/
def cloneRuntime (heap : RuntimeHeap Manager) (i : ℕ) : RuntimeHeap Manager :=
  { heap with runtimes := heap.runtimes.clone i }

/-- A reference to a runtime goes out of scope. -/
def dropRuntime (heap : RuntimeHeap Manager) (i : ℕ) : RuntimeHeap Manager :=
  { heap with runtimes := heap.runtimes.drop i }

/-- A reference to a state goes out of scope; with the last one goes the state's own to its runtime. -/
def dropState (heap : RuntimeHeap Manager) (i : ℕ) : RuntimeHeap Manager :=
  let dropped := { heap with states := heap.states.drop i }
  if heap.states.strong i = 1 ∧ heap.isActive i = true then dropped.dropRuntime i else dropped

/-- The references to states are `ofStates`, and those to runtimes are those of the states that there
are and `ofRuntimes`. -/
structure Owned (heap : RuntimeHeap Manager) (ofStates ofRuntimes : Multiset ℕ) : Prop where
  states : heap.states.Owned (fun i => i < heap.published.length) ofStates
  runtimes : heap.runtimes.Owned (fun i => heap.isActive i = true)
    (ofStates.dedup.filter (fun i => heap.isActive i = true) + ofRuntimes)

variable {heap : RuntimeHeap Manager} {states runtimes : Multiset ℕ} {i : ℕ}

theorem isActive_publish_self (heap : RuntimeHeap Manager) (state : RuntimeState Manager) :
    (heap.publish state).isActive heap.published.length = true ↔ ∃ runtime, state = .active runtime := by
  have hself : (heap.published ++ [state])[heap.published.length]? = some state :=
    List.getElem?_concat_length
  simp only [isActive, publish, hself]
  cases state <;> simp

theorem isActive_publish_of_lt (state : RuntimeState Manager) (hi : i < heap.published.length) :
    (heap.publish state).isActive i = heap.isActive i := by
  simp only [isActive, publish, List.getElem?_append_left hi]

theorem lt_of_isActive (h : heap.isActive i = true) : i < heap.published.length := by
  by_contra hle
  have hnone : heap.published[i]? = none := List.getElem?_eq_none (not_lt.1 hle)
  simp only [isActive, hnone] at h
  cases h

theorem Owned.publish (h : heap.Owned states runtimes) (state : RuntimeState Manager) :
    (heap.publish state).Owned (heap.published.length ::ₘ states) runtimes := by
  have hlength : (heap.publish state).published.length = heap.published.length + 1 :=
    List.length_append
  have hfresh : heap.published.length ∉ states :=
    fun hmem => Nat.lt_irrefl _ (h.states.made_of_mem _ hmem)
  have hold : states.dedup.filter (fun i => (heap.publish state).isActive i = true) =
      states.dedup.filter (fun i => heap.isActive i = true) := by
    refine Multiset.filter_congr fun i hi => ?_
    rw [isActive_publish_of_lt state (h.states.made_of_mem i (Multiset.mem_dedup.1 hi))]
  have hmade : ∀ j, (heap.publish state).isActive j = true ↔
      heap.isActive j = true ∨ (j = heap.published.length ∧ ∃ runtime, state = .active runtime) := by
    intro j
    rcases lt_trichotomy j heap.published.length with hj | rfl | hj
    · rw [isActive_publish_of_lt state hj]
      exact ⟨Or.inl, fun hj' => hj'.resolve_right fun he => hj.ne he.1⟩
    · rw [isActive_publish_self]
      constructor
      · exact fun hs => Or.inr ⟨rfl, hs⟩
      · rintro (hactive | ⟨-, hs⟩)
        · exact absurd (lt_of_isActive hactive) (Nat.lt_irrefl _)
        · exact hs
    · constructor
      · intro hactive
        have hlt := lt_of_isActive hactive
        omega
      · rintro (hactive | ⟨he, -⟩)
        · have hlt := lt_of_isActive hactive
          omega
        · omega
  refine ⟨h.states.new (Nat.lt_irrefl _) fun j => ?_, ?_⟩
  · rw [hlength]
    omega
  · rw [Multiset.dedup_cons_of_notMem hfresh]
    cases state with
    | active runtime =>
      have hself : (heap.publish (.active runtime)).isActive heap.published.length = true :=
        (isActive_publish_self heap _).2 ⟨runtime, rfl⟩
      rw [Multiset.filter_cons_of_pos (p := fun j => (heap.publish _).isActive j = true) _ hself, hold,
        Multiset.cons_add]
      refine h.runtimes.new (fun hactive => Nat.lt_irrefl _ (lt_of_isActive hactive)) fun j => ?_
      rw [hmade]
      simp
    | failed error =>
      have hself : ¬ (heap.publish (.failed error)).isActive heap.published.length = true := by
        simp [isActive_publish_self]
      rw [Multiset.filter_cons_of_neg (p := fun j => (heap.publish _).isActive j = true) _ hself, hold]
      have hsame : (fun j => (heap.publish (.failed error)).isActive j = true) =
          fun j => heap.isActive j = true := by
        funext j
        rw [eq_iff_iff, hmade]
        simp
      rw [hsame]
      exact h.runtimes

theorem Owned.cloneState (h : heap.Owned states runtimes) (hi : i ∈ states) :
    (heap.cloneState i).Owned (i ::ₘ states) runtimes := by
  refine ⟨h.states.clone hi, ?_⟩
  rw [Multiset.dedup_cons_of_mem hi]
  exact h.runtimes

theorem Owned.cloneRuntime (h : heap.Owned states runtimes) (hi : i ∈ states)
    (hactive : heap.isActive i = true) : (heap.cloneRuntime i).Owned states (i ::ₘ runtimes) := by
  have hmem : i ∈ states.dedup.filter fun i => heap.isActive i = true :=
    Multiset.mem_filter.2 ⟨Multiset.mem_dedup.2 hi, hactive⟩
  refine ⟨h.states, ?_⟩
  rw [Multiset.add_cons]
  exact h.runtimes.clone (Multiset.mem_add.2 (Or.inl hmem))

theorem Owned.dropRuntime (h : heap.Owned states (i ::ₘ runtimes)) :
    (heap.dropRuntime i).Owned states runtimes := by
  have hruntimes := h.runtimes
  rw [Multiset.add_cons] at hruntimes
  exact ⟨h.states, hruntimes.drop⟩

theorem Owned.dropState (h : heap.Owned (i ::ₘ states) runtimes) :
    (heap.dropState i).Owned states runtimes := by
  have hruntimes := h.runtimes
  unfold RuntimeHeap.dropState
  by_cases hlast : i ∈ states
  · -- the state lives on, and its runtime with it
    have hone : ¬ (heap.states.strong i = 1 ∧ heap.isActive i = true) :=
      fun hone => h.states.strong_eq_one.1 hone.1 hlast
    rw [if_neg hone]
    rw [Multiset.dedup_cons_of_mem hlast] at hruntimes
    exact ⟨h.states.drop, hruntimes⟩
  · have hone : heap.states.strong i = 1 := h.states.strong_eq_one.2 hlast
    rw [Multiset.dedup_cons_of_notMem hlast] at hruntimes
    by_cases hactive : heap.isActive i = true
    · rw [Multiset.filter_cons_of_pos (p := fun j => heap.isActive j = true) _ hactive,
        Multiset.cons_add] at hruntimes
      rw [if_pos ⟨hone, hactive⟩]
      exact ⟨h.states.drop, hruntimes.drop⟩
    · rw [Multiset.filter_cons_of_neg (p := fun j => heap.isActive j = true) _ hactive] at hruntimes
      rw [if_neg fun hone => hactive hone.2]
      exact ⟨h.states.drop, hruntimes⟩

/-- Nothing was published yet. -/
def empty : RuntimeHeap Manager := ⟨[], .empty, .empty⟩

theorem owned_empty : (empty : RuntimeHeap Manager).Owned 0 0 where
  states := RefCounts.owned_empty fun _ => Nat.not_lt_zero _
  runtimes := RefCounts.owned_empty fun i hi => Nat.not_lt_zero i (lt_of_isActive hi)

end RuntimeHeap

/-- A tool call: it works in `before_tool_call` on the state it has loaded, waits for its backend with
the runtime that it keeps for `after_tool_call`, or works there on that runtime. -/
inductive CallPhase
  | before (state : ℕ)
  | waiting (kept : Option ℕ)
  | after (runtime : ℕ)
  | done
  deriving DecidableEq

/-- The task of `start_config_watcher`. -/
inductive WatcherPhase
  | notStarted
  | sleeping
  | ticking
  | stopped
  deriving DecidableEq

/-- Who publishes: `reload`, `apply_config` or `initialize` of the registry, or a tick. -/
inductive Publisher
  | registry
  | watcher
  deriving DecidableEq

/-- All that owns a runtime. `strong` is the count of the `ArcSwap`, which is gone if `current` is
`none`; `retired` are the states that were swapped out and are not dropped yet. -/
structure Lifetimes (Manager : Type) where
  heap : RuntimeHeap Manager
  strong : ℕ
  current : Option ℕ
  registry : Bool
  handles : ℕ
  watcher : WatcherPhase
  retired : List ℕ
  calls : List CallPhase

/-- What can happen next. -/
inductive LifetimeEvent (Manager : Type)
  | handle
  | dropHandle
  | dropRegistry
  | startWatcher
  | wake
  | sleep
  | abortWatcher
  | publish (publisher : Publisher) (state : RuntimeState Manager)
  | release (k : ℕ)
  | call
  | beforeReturns (k : ℕ) (ok : Bool)
  | respond (k : ℕ)
  | finish (k : ℕ)

namespace Lifetimes

/-- `CpexRuntimeRegistry::default`: the default runtime is published. -/
def new [Inhabited Manager] : Lifetimes Manager where
  heap := RuntimeHeap.empty.publish (.active default)
  strong := 1
  current := some 0
  registry := true
  handles := 0
  watcher := .notStarted
  retired := []
  calls := []

/-- A reference to the `ArcSwap` goes out of scope; with the last one goes the published state. -/
def dropSwap (σ : Lifetimes Manager) : Lifetimes Manager :=
  match σ.strong, σ.current with
  | 1, some i => { σ with strong := 0, current := none, heap := σ.heap.dropState i }
  | n, _ => { σ with strong := n - 1 }

/-- The publisher is there. -/
def canPublish (σ : Lifetimes Manager) : Publisher → Bool
  | .registry => σ.registry
  | .watcher => σ.watcher = .ticking

/-- Call `k` moves on to `phase`. -/
def moveTo (σ : Lifetimes Manager) (k : ℕ) (heap : RuntimeHeap Manager) (phase : CallPhase) : Lifetimes Manager :=
  { σ with heap, calls := σ.calls.set k phase }

/-- `before_tool_call` on a state: the state is dropped, and the runtime is kept if it has a post
hook. -/
def beforeReturns (heap : RuntimeHeap Manager) (i : ℕ) (ok : Bool) : RuntimeHeap Manager × CallPhase :=
  match heap.published[i]?, ok with
  | some (.active runtime), true =>
    if runtime.hasPostHook then ((heap.cloneRuntime i).dropState i, .waiting (some i))
    else (heap.dropState i, .waiting none)
  | _, _ => (heap.dropState i, .done)

/-- The next state. A step for which nothing is ready does nothing; a future that is dropped releases
what it has kept, as `finish` does. -/
def next (σ : Lifetimes Manager) : LifetimeEvent Manager → Lifetimes Manager
  | .handle =>
    if σ.registry ∨ 0 < σ.handles then { σ with strong := σ.strong + 1, handles := σ.handles + 1 } else σ
  | .dropHandle => if 0 < σ.handles then { σ with handles := σ.handles - 1 }.dropSwap else σ
  | .dropRegistry => if σ.registry then { σ with registry := false }.dropSwap else σ
  | .startWatcher =>
    if σ.registry ∧ σ.watcher = .notStarted then { σ with watcher := .sleeping } else σ
  | .wake =>
    if σ.watcher = .sleeping then
      -- `Weak::upgrade`
      if 0 < σ.strong then { σ with strong := σ.strong + 1, watcher := .ticking }
      else { σ with watcher := .stopped }
    else σ
  | .sleep => if σ.watcher = .ticking then { σ with watcher := .sleeping }.dropSwap else σ
  | .abortWatcher =>
    match σ.watcher with
    | .sleeping => { σ with watcher := .stopped }
    | .ticking => { σ with watcher := .stopped }.dropSwap
    | _ => σ
  | .publish publisher state =>
    match σ.canPublish publisher, σ.current with
    | true, some i =>
      { σ with
        heap := σ.heap.publish state
        current := some σ.heap.published.length
        retired := i :: σ.retired }
    | _, _ => σ
  | .release k =>
    match σ.retired[k]? with
    | some i => { σ with heap := σ.heap.dropState i, retired := σ.retired.eraseIdx k }
    | none => σ
  | .call =>
    match σ.current with
    | some i =>
      if 0 < σ.handles then { σ with heap := σ.heap.cloneState i, calls := .before i :: σ.calls } else σ
    | none => σ
  | .beforeReturns k ok =>
    match σ.calls[k]? with
    | some (.before i) => σ.moveTo k (beforeReturns σ.heap i ok).1 (beforeReturns σ.heap i ok).2
    | _ => σ
  | .respond k =>
    match σ.calls[k]? with
    | some (.waiting (some i)) => σ.moveTo k σ.heap (.after i)
    | some (.waiting none) => σ.moveTo k σ.heap .done
    | _ => σ
  | .finish k =>
    match σ.calls[k]? with
    | some (.before i) => σ.moveTo k (σ.heap.dropState i) .done
    | some (.waiting (some i)) | some (.after i) => σ.moveTo k (σ.heap.dropRuntime i) .done
    | some (.waiting none) => σ.moveTo k σ.heap .done
    | _ => σ

/-! ### Who holds what -/

end Lifetimes

/-- The references to states that a call holds. -/
def CallPhase.states : CallPhase → Multiset ℕ
  | .before i => {i}
  | _ => 0

/-- The references to runtimes that a call holds. -/
def CallPhase.runtimes : CallPhase → Multiset ℕ
  | .waiting (some i) | .after i => {i}
  | _ => 0

namespace Lifetimes

/-- All the references to states. -/
def ofStates (σ : Lifetimes Manager) : Multiset ℕ :=
  (σ.current.toList : Multiset ℕ) + (σ.retired : Multiset ℕ) +
    (σ.calls : Multiset CallPhase).bind CallPhase.states

/-- All the references to runtimes, those of the states apart. -/
def ofRuntimes (σ : Lifetimes Manager) : Multiset ℕ := (σ.calls : Multiset CallPhase).bind CallPhase.runtimes

/-- The references to the `ArcSwap`. -/
def ofSwap (σ : Lifetimes Manager) : ℕ :=
  σ.registry.toNat + σ.handles + (decide (σ.watcher = .ticking)).toNat

/-- The counts are those of the references, and the `ArcSwap` is there as long as there are some. -/
structure Inv (σ : Lifetimes Manager) : Prop where
  heap : σ.heap.Owned σ.ofStates σ.ofRuntimes
  strong : σ.strong = σ.ofSwap
  current : σ.current.isSome = true ↔ 0 < σ.strong

theorem inv_new [Inhabited Manager] : (new : Lifetimes Manager).Inv where
  heap := RuntimeHeap.owned_empty.publish (.active default)
  strong := rfl
  current := iff_of_true rfl Nat.one_pos

variable {σ : Lifetimes Manager} {k : ℕ} {phase : CallPhase}

/-- A reference to the `ArcSwap` goes that `σ'` does not count any more. -/
theorem Inv.dropSwap (h : σ.Inv) {σ' : Lifetimes Manager} (hheap : σ'.heap = σ.heap)
    (hstrong : σ'.strong = σ.strong) (hcurrent : σ'.current = σ.current)
    (hretired : σ'.retired = σ.retired) (hcalls : σ'.calls = σ.calls)
    (hswap : σ'.ofSwap + 1 = σ.ofSwap) : σ'.dropSwap.Inv := by
  have hpos : 0 < σ'.strong := by rw [hstrong, h.strong]; omega
  have hn : σ'.strong = σ'.ofSwap + 1 := by rw [hstrong, h.strong, hswap]
  obtain ⟨i, hi⟩ := Option.isSome_iff_exists.1 (h.current.2 (hstrong ▸ hpos))
  have hheap' := h.heap
  rw [ofStates, ofRuntimes, hi, ← hheap, ← hretired, ← hcalls, Option.toList_some,
    Multiset.coe_singleton, Multiset.singleton_add, Multiset.cons_add] at hheap'
  rw [hi] at hcurrent
  unfold Lifetimes.dropSwap
  by_cases hone : σ'.strong = 1
  · -- with the `ArcSwap` goes the published state
    simp only [hone, hcurrent]
    have hzero : σ'.ofSwap = 0 := by omega
    exact ⟨by simpa [ofStates, ofRuntimes] using hheap'.dropState, hzero.symm, by simp⟩
  · have hnext : (match σ'.strong, σ'.current with
        | 1, some i => { σ' with strong := 0, current := none, heap := σ'.heap.dropState i }
        | n, _ => { σ' with strong := n - 1 }) = { σ' with strong := σ'.strong - 1 } := by
      split
      · rename_i hstrong _
        exact absurd hstrong hone
      · rfl
    rw [hnext]
    refine ⟨?_, by show σ'.strong - 1 = σ'.ofSwap; omega, ?_⟩
    · rw [ofStates, ofRuntimes]
      simpa only [hcurrent, Option.toList_some, Multiset.coe_singleton, Multiset.singleton_add,
        Multiset.cons_add] using hheap'
    · show σ'.current.isSome = true ↔ 0 < σ'.strong - 1
      rw [hcurrent]
      exact iff_of_true rfl (by omega)

/-- What is left of the references when those of call `k` are taken out. -/
theorem Inv.of_call (h : σ.Inv) (hk : σ.calls[k]? = some phase) :
    ∃ states runtimes, σ.heap.Owned (phase.states + states) (phase.runtimes + runtimes) ∧
      ∀ heap' phase', RuntimeHeap.Owned heap' (phase'.states + states) (phase'.runtimes + runtimes) →
        (σ.moveTo k heap' phase').Inv := by
  obtain ⟨states, hstates, hstates'⟩ := RefCounts.bind_set CallPhase.states hk
  obtain ⟨runtimes, hruntimes, hruntimes'⟩ := RefCounts.bind_set CallPhase.runtimes hk
  refine ⟨(σ.current.toList : Multiset ℕ) + (σ.retired : Multiset ℕ) + states, runtimes, ?_, ?_⟩
  · rw [add_left_comm, ← hstates, ← hruntimes]
    exact h.heap
  · intro heap' phase' hheap
    refine ⟨?_, h.strong, h.current⟩
    rw [add_left_comm, ← hstates', ← hruntimes'] at hheap
    exact hheap

/-- What `before_tool_call` leaves is owned as its phase says. -/
theorem owned_beforeReturns {heap : RuntimeHeap Manager} {i : ℕ} {states runtimes : Multiset ℕ}
    (h : heap.Owned (i ::ₘ states) runtimes) (ok : Bool) :
    (beforeReturns heap i ok).1.Owned ((beforeReturns heap i ok).2.states + states)
      ((beforeReturns heap i ok).2.runtimes + runtimes) := by
  unfold beforeReturns
  split
  · rename_i runtime hi
    split
    · have hactive : heap.isActive i = true := by simp only [RuntimeHeap.isActive, hi]
      have hkept := h.cloneRuntime (Multiset.mem_cons_self i states) hactive
      simpa [CallPhase.states, CallPhase.runtimes] using hkept.dropState
    · simpa [CallPhase.states, CallPhase.runtimes] using h.dropState
  · simpa [CallPhase.states, CallPhase.runtimes] using h.dropState

/-- Every step of anyone keeps the counts. -/
theorem Inv.next (h : σ.Inv) (event : LifetimeEvent Manager) : (σ.next event).Inv := by
  have hstrong := h.strong
  have hcurrent := h.current
  cases event with
  | handle =>
    simp only [Lifetimes.next]
    split
    · rename_i hready
      refine ⟨h.heap, by simp only [ofSwap] at hstrong ⊢; omega, ?_⟩
      have hpos : 0 < σ.strong := by
        rw [hstrong, ofSwap]
        rcases hready with hready | hready
        · rw [hready, Bool.toNat_true]; omega
        · omega
      exact iff_of_true (hcurrent.2 hpos) (Nat.succ_pos _)
    · exact h
  | dropHandle =>
    simp only [Lifetimes.next]
    split
    · rename_i hready
      exact h.dropSwap rfl rfl rfl rfl rfl (by simp only [ofSwap]; omega)
    · exact h
  | dropRegistry =>
    simp only [Lifetimes.next]
    split
    · rename_i hready
      exact h.dropSwap rfl rfl rfl rfl rfl (by simp [ofSwap, hready]; omega)
    · exact h
  | startWatcher =>
    simp only [Lifetimes.next]
    split
    · rename_i hready
      exact ⟨h.heap, by simpa [ofSwap, hready.2] using hstrong, hcurrent⟩
    · exact h
  | wake =>
    simp only [Lifetimes.next]
    split
    · rename_i hready
      split
      · rename_i hpos
        refine ⟨h.heap, ?_, iff_of_true (hcurrent.2 hpos) (Nat.succ_pos _)⟩
        simpa [ofSwap, hready] using hstrong
      · exact ⟨h.heap, by simpa [ofSwap, hready] using hstrong, hcurrent⟩
    · exact h
  | sleep =>
    simp only [Lifetimes.next]
    split
    · rename_i hready
      exact h.dropSwap rfl rfl rfl rfl rfl (by simp [ofSwap, hready])
    · exact h
  | abortWatcher =>
    simp only [Lifetimes.next]
    split
    · rename_i hready
      exact ⟨h.heap, by simpa [ofSwap, hready] using hstrong, hcurrent⟩
    · rename_i hready
      exact h.dropSwap rfl rfl rfl rfl rfl (by simp [ofSwap, hready])
    · exact h
  | publish publisher state =>
    simp only [Lifetimes.next]
    split
    · rename_i i _ hi
      refine ⟨?_, hstrong, ?_⟩
      · have hheap := h.heap.publish state
        rw [ofStates, hi, Option.toList_some, Multiset.coe_singleton, Multiset.singleton_add,
          Multiset.cons_add, ← Multiset.cons_add, Multiset.cons_coe, ← Multiset.singleton_add,
          ← add_assoc] at hheap
        exact hheap
      · rw [hi] at hcurrent
        exact hcurrent
    · exact h
  | release k =>
    simp only [Lifetimes.next]
    split
    · rename_i i hi
      refine ⟨?_, hstrong, hcurrent⟩
      obtain ⟨hk, rfl⟩ := List.getElem?_eq_some_iff.1 hi
      have hperm := Multiset.coe_eq_coe.2 (List.getElem_cons_eraseIdx_perm hk)
      have hheap := h.heap
      rw [ofStates, ← hperm, ← Multiset.cons_coe, Multiset.add_cons, Multiset.cons_add] at hheap
      exact hheap.dropState
    · exact h
  | call =>
    simp only [Lifetimes.next]
    split
    · rename_i i hi
      split
      · refine ⟨?_, hstrong, hcurrent⟩
        have hmem : i ∈ σ.ofStates := by simp [ofStates, hi]
        have hheap := h.heap.cloneState hmem
        simpa [ofStates, ofRuntimes, ← Multiset.cons_coe, CallPhase.states, CallPhase.runtimes]
          using hheap
      · exact h
    · exact h
  | beforeReturns k ok =>
    simp only [Lifetimes.next]
    split
    · rename_i i hi
      obtain ⟨states, runtimes, hheap, hmove⟩ := h.of_call hi
      simp only [CallPhase.states, CallPhase.runtimes, Multiset.singleton_add, zero_add] at hheap
      exact hmove _ _ (owned_beforeReturns hheap ok)
    · exact h
  | respond k =>
    simp only [Lifetimes.next]
    split
    · rename_i i hi
      obtain ⟨states, runtimes, hheap, hmove⟩ := h.of_call hi
      exact hmove _ _ hheap
    · rename_i hi
      obtain ⟨states, runtimes, hheap, hmove⟩ := h.of_call hi
      exact hmove _ _ hheap
    · exact h
  | finish k =>
    simp only [Lifetimes.next]
    split
    · rename_i i hi
      obtain ⟨states, runtimes, hheap, hmove⟩ := h.of_call hi
      simp only [CallPhase.states, CallPhase.runtimes, Multiset.singleton_add, zero_add] at hheap
      refine hmove _ _ ?_
      simpa [CallPhase.states, CallPhase.runtimes] using hheap.dropState
    · rename_i i hi
      obtain ⟨states, runtimes, hheap, hmove⟩ := h.of_call hi
      simp only [CallPhase.states, CallPhase.runtimes, Multiset.singleton_add, zero_add] at hheap
      refine hmove _ _ ?_
      simpa [CallPhase.states, CallPhase.runtimes] using hheap.dropRuntime
    · rename_i i hi
      obtain ⟨states, runtimes, hheap, hmove⟩ := h.of_call hi
      simp only [CallPhase.states, CallPhase.runtimes, Multiset.singleton_add, zero_add] at hheap
      refine hmove _ _ ?_
      simpa [CallPhase.states, CallPhase.runtimes] using hheap.dropRuntime
    · rename_i hi
      obtain ⟨states, runtimes, hheap, hmove⟩ := h.of_call hi
      exact hmove _ _ hheap
    · exact h

theorem inv_run [Inhabited Manager] (events : List (LifetimeEvent Manager)) :
    (run next new events).Inv :=
  run_invariant (I := Inv) (fun _ event h => h.next event) inv_new events

/-! ### What the counts guarantee -/

/-- Somebody can still reach runtime `i`: through a state that is published, swapped out or loaded by
a call, or as a call that keeps it. -/
def Reaches (σ : Lifetimes Manager) (i : ℕ) : Prop :=
  σ.current = some i ∨ i ∈ σ.retired ∨ ∃ phase ∈ σ.calls, phase = .before i ∨
    phase = .waiting (some i) ∨ phase = .after i

theorem mem_states {i : ℕ} : i ∈ phase.states ↔ phase = .before i := by
  cases phase <;> simp [CallPhase.states, eq_comm]

theorem mem_runtimes {i : ℕ} :
    i ∈ phase.runtimes ↔ phase = .waiting (some i) ∨ phase = .after i := by
  cases phase with
  | before j => simp [CallPhase.runtimes]
  | waiting kept => cases kept <;> simp [CallPhase.runtimes, eq_comm]
  | after j => simp [CallPhase.runtimes, eq_comm]
  | done => simp [CallPhase.runtimes]

theorem reaches_iff {i : ℕ} : σ.Reaches i ↔ i ∈ σ.ofStates ∨ i ∈ σ.ofRuntimes := by
  simp only [Reaches, ofStates, ofRuntimes, Multiset.mem_add, Multiset.mem_coe, Multiset.mem_bind,
    Option.mem_toList, mem_states, mem_runtimes]
  constructor
  · rintro (hi | hi | ⟨phase, hphase, hi | hi⟩)
    · exact Or.inl (Or.inl (Or.inl hi))
    · exact Or.inl (Or.inl (Or.inr hi))
    · exact Or.inl (Or.inr ⟨phase, hphase, hi⟩)
    · exact Or.inr ⟨phase, hphase, hi⟩
  · rintro (((hi | hi) | ⟨phase, hphase, hi⟩) | ⟨phase, hphase, hi⟩)
    · exact Or.inl hi
    · exact Or.inr (Or.inl hi)
    · exact Or.inr (Or.inr ⟨phase, hphase, Or.inl hi⟩)
    · exact Or.inr (Or.inr ⟨phase, hphase, Or.inr hi⟩)

/-- A runtime has been dropped if and only if nobody can reach it any more. -/
theorem Inv.mem_dropped (h : σ.Inv) {i : ℕ} :
    i ∈ σ.heap.runtimes.dropped ↔ σ.heap.isActive i = true ∧ ¬ σ.Reaches i := by
  rw [h.heap.runtimes.mem_dropped, reaches_iff]
  refine and_congr_right fun hactive => not_congr ?_
  simp [hactive]

/-! ### The runtimes that are kept -/

/-- The runtime that a call keeps for `after_tool_call` has a post hook. -/
def KeepsPost (σ : Lifetimes Manager) : Prop :=
  ∀ phase ∈ σ.calls, ∀ i ∈ phase.runtimes,
    ∃ runtime, σ.heap.published[i]? = some (.active runtime) ∧ runtime.hasPostHook = true

@[simp] theorem published_dropState (heap : RuntimeHeap Manager) (i : ℕ) :
    (heap.dropState i).published = heap.published := by
  unfold RuntimeHeap.dropState
  split <;> rfl

@[simp] theorem published_beforeReturns (heap : RuntimeHeap Manager) (i : ℕ) (ok : Bool) :
    (beforeReturns heap i ok).1.published = heap.published := by
  unfold beforeReturns
  split
  · split
    · exact published_dropState _ i
    · exact published_dropState _ i
  · exact published_dropState _ i

@[simp] theorem dropSwap_calls (σ : Lifetimes Manager) : σ.dropSwap.calls = σ.calls := by
  unfold dropSwap
  split <;> rfl

@[simp] theorem dropSwap_published (σ : Lifetimes Manager) :
    σ.dropSwap.heap.published = σ.heap.published := by
  unfold dropSwap
  split
  · exact published_dropState _ _
  · rfl

theorem KeepsPost.moveTo (h : σ.KeepsPost) {heap : RuntimeHeap Manager}
    (hheap : heap.published = σ.heap.published)
    (hphase : ∀ i ∈ phase.runtimes,
      ∃ runtime, σ.heap.published[i]? = some (.active runtime) ∧ runtime.hasPostHook = true) :
    (σ.moveTo k heap phase).KeepsPost := by
  intro p hp i hi
  show ∃ runtime, heap.published[i]? = some (.active runtime) ∧ runtime.hasPostHook = true
  rw [hheap]
  rcases List.mem_or_eq_of_mem_set hp with hp | rfl
  · exact h p hp i hi
  · exact hphase i hi

theorem keepsPost_beforeReturns {heap : RuntimeHeap Manager} {i : ℕ} {ok : Bool} :
    ∀ j ∈ (beforeReturns heap i ok).2.runtimes,
      ∃ runtime, heap.published[j]? = some (.active runtime) ∧ runtime.hasPostHook = true := by
  intro j hj
  unfold beforeReturns at hj
  split at hj
  · rename_i runtime hi
    split at hj
    · rename_i hpost
      obtain rfl := Multiset.mem_singleton.1 hj
      exact ⟨runtime, hi, hpost⟩
    · exact absurd hj (Multiset.notMem_zero j)
  · exact absurd hj (Multiset.notMem_zero j)

theorem KeepsPost.next (h : σ.KeepsPost) (event : LifetimeEvent Manager) :
    (σ.next event).KeepsPost := by
  have hsame : ∀ σ' : Lifetimes Manager, σ'.calls = σ.calls →
      σ'.heap.published = σ.heap.published → σ'.KeepsPost := by
    intro σ' hcalls hpublished
    unfold KeepsPost
    rw [hcalls, hpublished]
    exact h
  cases event with
  | handle | startWatcher =>
    simp only [Lifetimes.next]
    split
    · exact hsame _ rfl rfl
    · exact h
  | dropHandle | dropRegistry | sleep =>
    simp only [Lifetimes.next]
    split
    · exact hsame _ (dropSwap_calls _) (dropSwap_published _)
    · exact h
  | wake =>
    simp only [Lifetimes.next]
    split
    · split
      · exact hsame _ rfl rfl
      · exact hsame _ rfl rfl
    · exact h
  | abortWatcher =>
    simp only [Lifetimes.next]
    split
    · exact hsame _ rfl rfl
    · exact hsame _ (dropSwap_calls _) (dropSwap_published _)
    · exact h
  | publish publisher state =>
    simp only [Lifetimes.next]
    split
    · intro p hp i hi
      obtain ⟨runtime, hruntime, hpost⟩ := h p hp i hi
      obtain ⟨hlt, -⟩ := List.getElem?_eq_some_iff.1 hruntime
      refine ⟨runtime, ?_, hpost⟩
      rw [← hruntime]
      exact List.getElem?_append_left hlt
    · exact h
  | release k =>
    simp only [Lifetimes.next]
    split
    · exact hsame _ rfl (published_dropState _ _)
    · exact h
  | call =>
    simp only [Lifetimes.next]
    split
    · split
      · intro p hp i hi
        rcases List.mem_cons.1 hp with rfl | hp
        · exact absurd hi (Multiset.notMem_zero i)
        · exact h p hp i hi
      · exact h
    · exact h
  | beforeReturns k ok =>
    simp only [Lifetimes.next]
    split
    · exact h.moveTo (published_beforeReturns _ _ _) keepsPost_beforeReturns
    · exact h
  | respond k =>
    simp only [Lifetimes.next]
    split
    · rename_i i hi
      have hmem : CallPhase.waiting (some i) ∈ σ.calls := List.mem_of_getElem? hi
      exact h.moveTo rfl (h (.waiting (some i)) hmem)
    · exact h.moveTo rfl fun i hi => absurd hi (Multiset.notMem_zero i)
    · exact h
  | finish k =>
    simp only [Lifetimes.next]
    split
    · exact h.moveTo (published_dropState _ _) fun i hi => absurd hi (Multiset.notMem_zero i)
    · exact h.moveTo rfl fun i hi => absurd hi (Multiset.notMem_zero i)
    · exact h.moveTo rfl fun i hi => absurd hi (Multiset.notMem_zero i)
    · exact h.moveTo rfl fun i hi => absurd hi (Multiset.notMem_zero i)
    · exact h

theorem keepsPost_run [Inhabited Manager] (events : List (LifetimeEvent Manager)) :
    (run next new events).KeepsPost :=
  run_invariant (I := KeepsPost) (fun _ event h => h.next event)
    (fun _ hp => absurd hp List.not_mem_nil) events

/-- The phase after `before_tool_call` is that of its result: what the source keeps is the runtime of
the state that the call has loaded. -/
theorem beforeReturns_result {Value Ctx : Type} [DecidableEq Value] {heap : RuntimeHeap Manager}
    {i : ℕ} {state : RuntimeState Manager} (hi : heap.published[i]? = some state)
    (invoke : Invocation Value Manager Ctx → PipelineResult Value Ctx)
    (request : CallToolRequestParams Value) (toolName backendName : String) (counter : UInt64) :
    let result := (GatewayPluginRuntimeHandle.beforeToolCall state invoke request toolName backendName
      counter).result
    (beforeReturns heap i result.isOk).2 =
        (match result with
          | .ok pre => .waiting ((pre.state.bind RuntimeHookState.asRegistry).map fun _ => i)
          | .error _ => .done) ∧
      ∀ pre runtime kept, result = .ok pre →
        pre.state.bind RuntimeHookState.asRegistry = some (runtime, kept) → state = .active runtime := by
  cases state with
  | failed error =>
    refine ⟨by simp [beforeReturns, hi, GatewayPluginRuntimeHandle.beforeToolCall], ?_⟩
    rintro pre runtime kept ⟨⟩
  | active runtime =>
    simp only [GatewayPluginRuntimeHandle.beforeToolCall, beforeReturns, hi]
    cases (runtime.beforeToolCall invoke request toolName backendName counter).result with
    | error e =>
      refine ⟨rfl, ?_⟩
      rintro pre runtime' kept ⟨⟩
    | ok pre =>
      by_cases hpost : runtime.hasPostHook = true
      · refine ⟨by simp [Except.map, Except.isOk, Except.toBool,
          GatewayPluginRuntimeHandle.wrapState, hpost, RuntimeHookState.asRegistry], ?_⟩
        rintro pre' runtime' kept ⟨⟩ hkept
        simp only [GatewayPluginRuntimeHandle.wrapState, hpost, if_true, Option.bind_some,
          RuntimeHookState.asRegistry, Option.some.injEq, Prod.mk.injEq] at hkept
        rw [hkept.1]
      · refine ⟨by simp [Except.map, Except.isOk, Except.toBool,
          GatewayPluginRuntimeHandle.wrapState, hpost], ?_⟩
        rintro pre' runtime' kept ⟨⟩ hkept
        simp [GatewayPluginRuntimeHandle.wrapState, hpost] at hkept

/-! ### The results -/

/-- Whatever the interleaving: a runtime is dropped at most once, exactly when nothing can reach it any
more; and a call whose `after_tool_call` is still to come, or under way, has an undropped runtime with a
post hook. -/
theorem runtimes_dropped [Inhabited Manager] (events : List (LifetimeEvent Manager)) :
    let σ := run next new events
    σ.heap.runtimes.dropped.Nodup ∧
      (∀ i, i ∈ σ.heap.runtimes.dropped ↔ σ.heap.isActive i = true ∧ ¬ σ.Reaches i) ∧
      ∀ phase ∈ σ.calls, ∀ i, phase = .waiting (some i) ∨ phase = .after i →
        i ∉ σ.heap.runtimes.dropped ∧
          ∃ runtime, σ.heap.published[i]? = some (.active runtime) ∧ runtime.hasPostHook = true := by
  intro σ
  have h : σ.Inv := inv_run events
  refine ⟨h.heap.runtimes.nodup, fun i => h.mem_dropped, fun phase hphase i hi => ⟨?_, ?_⟩⟩
  · intro hdropped
    exact (h.mem_dropped.1 hdropped).2 (Or.inr (Or.inr ⟨phase, hphase, Or.inr hi⟩))
  · exact keepsPost_run events phase hphase i (mem_runtimes.2 hi)

/-- The registry and the handles are gone, and the watcher is between two ticks. -/
structure Abandoned (σ : Lifetimes Manager) : Prop where
  registry : σ.registry = false
  handles : σ.handles = 0
  watcher : σ.watcher ≠ .ticking

theorem Inv.strong_of_abandoned (h : σ.Inv) (ha : σ.Abandoned) : σ.strong = 0 ∧ σ.current = none := by
  have hstrong : σ.strong = 0 := by
    rw [h.strong, ofSwap, ha.registry, ha.handles, decide_eq_false ha.watcher]
    rfl
  refine ⟨hstrong, ?_⟩
  have hnot : ¬ σ.current.isSome = true := fun hsome => by
    have hpos := h.current.1 hsome
    omega
  simpa using hnot

/-- Nothing brings back the `ArcSwap`, and no call begins. -/
theorem Abandoned.next (ha : σ.Abandoned) (h : σ.Inv) (event : LifetimeEvent Manager) :
    (σ.next event).Abandoned ∧ (σ.next event).heap.published = σ.heap.published ∧
      (σ.next event).calls.length = σ.calls.length := by
  obtain ⟨hstrong, hcurrent⟩ := h.strong_of_abandoned ha
  have hregistry := ha.registry
  have hhandles := ha.handles
  have hwatcher := ha.watcher
  have hmove : ∀ (heap : RuntimeHeap Manager) (k : ℕ) (phase : CallPhase),
      heap.published = σ.heap.published → (σ.moveTo k heap phase).Abandoned ∧
        (σ.moveTo k heap phase).heap.published = σ.heap.published ∧
        (σ.moveTo k heap phase).calls.length = σ.calls.length :=
    fun heap k phase hheap => ⟨⟨hregistry, hhandles, hwatcher⟩, hheap, List.length_set⟩
  cases event with
  | handle | dropHandle | dropRegistry | startWatcher | sleep | call =>
    simp [Lifetimes.next, hregistry, hhandles, hwatcher, hcurrent, ha]
  | wake =>
    simp only [Lifetimes.next, hstrong, Nat.lt_irrefl, if_false]
    split
    · exact ⟨⟨hregistry, hhandles, by simp⟩, rfl, rfl⟩
    · exact ⟨ha, rfl, rfl⟩
  | abortWatcher =>
    simp only [Lifetimes.next]
    split
    · exact ⟨⟨hregistry, hhandles, by simp⟩, rfl, rfl⟩
    · rename_i hticking
      exact absurd hticking hwatcher
    · exact ⟨ha, rfl, rfl⟩
  | publish publisher state =>
    simp [Lifetimes.next, hcurrent, ha]
  | release k =>
    simp only [Lifetimes.next]
    split
    · exact ⟨⟨hregistry, hhandles, hwatcher⟩, published_dropState _ _, rfl⟩
    · exact ⟨ha, rfl, rfl⟩
  | beforeReturns k ok =>
    simp only [Lifetimes.next]
    split
    · exact hmove _ _ _ (published_beforeReturns _ _ _)
    · exact ⟨ha, rfl, rfl⟩
  | respond k =>
    simp only [Lifetimes.next]
    split
    · exact hmove _ _ _ rfl
    · exact hmove _ _ _ rfl
    · exact ⟨ha, rfl, rfl⟩
  | finish k =>
    simp only [Lifetimes.next]
    split
    · exact hmove _ _ _ (published_dropState _ _)
    · exact hmove _ _ _ rfl
    · exact hmove _ _ _ rfl
    · exact hmove _ _ _ rfl
    · exact ⟨ha, rfl, rfl⟩

/-- Once the registry and the handles are gone, nothing is published and no call begins any more,
however often the watcher wakes up; and when the calls there were are done and the states that were
swapped out are released, every runtime that was ever published has been dropped exactly once. -/
theorem runtimes_released [Inhabited Manager] (events later : List (LifetimeEvent Manager))
    (habandoned : (run next new events).Abandoned) :
    let σ := run next new events
    let τ := run next σ later
    τ.Abandoned ∧ τ.current = none ∧ τ.heap.published = σ.heap.published ∧
      τ.calls.length = σ.calls.length ∧
      (τ.retired = [] → (∀ phase ∈ τ.calls, phase = .done) →
        ∀ i, τ.heap.runtimes.dropped.count i = if τ.heap.isActive i then 1 else 0) := by
  intro σ τ
  have hτ : τ.Inv := by
    show (run next (run next new events) later).Inv
    rw [← run_append]
    exact inv_run (events ++ later)
  have hkept : (τ.Inv ∧ τ.Abandoned) ∧ τ.heap.published = σ.heap.published ∧
      τ.calls.length = σ.calls.length := by
    refine run_invariant
      (I := fun ρ : Lifetimes Manager => (ρ.Inv ∧ ρ.Abandoned) ∧ ρ.heap.published = σ.heap.published ∧
        ρ.calls.length = σ.calls.length) ?_ ⟨⟨inv_run events, habandoned⟩, rfl, rfl⟩ later
    rintro ρ event ⟨⟨hρ, ha⟩, hpublished, hcalls⟩
    obtain ⟨ha', hpublished', hcalls'⟩ := ha.next hρ event
    exact ⟨⟨hρ.next event, ha'⟩, hpublished'.trans hpublished, hcalls'.trans hcalls⟩
  obtain ⟨⟨-, ha⟩, hpublished, hcalls⟩ := hkept
  have hcurrent := (hτ.strong_of_abandoned ha).2
  refine ⟨ha, hcurrent, hpublished, hcalls, fun hretired hdone i => ?_⟩
  have hreaches : ¬ τ.Reaches i := by
    rintro (hi | hi | ⟨phase, hphase, hi⟩)
    · rw [hcurrent] at hi
      cases hi
    · rw [hretired] at hi
      exact List.not_mem_nil hi
    · rw [hdone phase hphase] at hi
      rcases hi with hi | hi | hi <;> cases hi
  by_cases hactive : τ.heap.isActive i = true
  · rw [if_pos hactive]
    exact List.count_eq_one_of_mem hτ.heap.runtimes.nodup (hτ.mem_dropped.2 ⟨hactive, hreaches⟩)
  · rw [if_neg hactive]
    exact List.count_eq_zero_of_not_mem fun hmem => hactive (hτ.mem_dropped.1 hmem).1

/-- A call that keeps the default runtime while another one is published. -/
theorem runtimes_released_sample :
    let σ : Lifetimes Unit := run next new
      [.handle, .publish .registry (.active ⟨(), false, true⟩), .release 0, .call,
        .beforeReturns 0 true, .startWatcher, .wake, .publish .watcher (.failed "gone"), .release 0,
        .sleep, .dropHandle, .dropRegistry]
    let τ := run next σ [.wake, .respond 0, .finish 0]
    σ.Abandoned ∧ σ.heap.runtimes.dropped = [0] ∧ τ.heap.runtimes.dropped = [1, 0] ∧
      ∀ i, τ.heap.runtimes.dropped.count i = if τ.heap.isActive i then 1 else 0 := by
  intro σ τ
  have ha : σ.Abandoned := ⟨rfl, rfl, by decide⟩
  have hreleased := runtimes_released _ [.wake, .respond 0, .finish 0] ha
  exact ⟨ha, by decide, by decide, hreleased.2.2.2.2 rfl (by decide)⟩

end Lifetimes

end ContextForge
