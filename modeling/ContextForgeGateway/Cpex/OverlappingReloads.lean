import ContextForgeGateway.Cpex.Registry

/-!
# Overlapping reloads

A `reload` reads the store, builds a runtime for as long as that takes, and then publishes the
outcome by a swap. Any number of them may overlap, with each other and with changes to the stored
document. Nothing orders the swaps, so what is published is the outcome of the reload that
published last (`published_run`); it is the one that read last if they publish in the order in
which they read. Otherwise a reload that read an older document undoes a newer one
(`crossedReloads_publish_older`).
-/

namespace ContextForge

namespace CpexRuntimeRegistry

open Runs

variable (Value Manager : Type)

/-- A reload in flight, or finished: the answer it has read, and how many reads there were before
its own. -/
inductive ReloadCall
  | building (n : ℕ) (answer : StoreAnswer)
  | done (n : ℕ) (answer : StoreAnswer) (env : CpexEnv Value Manager)

variable {Value Manager} in
/-- How many reads there were before the call's own. -/
def ReloadCall.number : ReloadCall Value Manager → ℕ
  | building n _ => n
  | done n _ _ => n

/-- The registry, the store, the reloads by number, and the number of reads so far. -/
structure Reloads where
  registry : CpexRuntimeRegistry Manager
  stored : StoreAnswer
  calls : ℕ → Option (ReloadCall Value Manager)
  reads : ℕ

/-- The steps: the store changes, the reload `i` reads it (in vain, if it is not `reachable`), or
publishes what it has built. -/
inductive ReloadEvent
  | store (answer : StoreAnswer)
  | read (i : ℕ) (reachable : Bool)
  | publish (i : ℕ) (env : CpexEnv Value Manager)

variable {Value Manager}

namespace Reloads

/-- A new registry over a store that answers `stored`. -/
def new [Inhabited Manager] (stored : StoreAnswer) : Reloads Value Manager :=
  ⟨CpexRuntimeRegistry.new true, stored, fun _ => none, 0⟩

variable [Inhabited Manager]

/-- The next state. -/
def next (σ : Reloads Value Manager) : ReloadEvent Value Manager → Reloads Value Manager
  | .store answer => { σ with stored := answer }
  | .read i reachable =>
    match σ.calls i with
    | some _ => σ
    | none =>
      let answer := if reachable then σ.stored else .unavailable
      { σ with
        calls := Function.update σ.calls i (some (.building σ.reads answer))
        reads := σ.reads + 1 }
  | .publish i env =>
    match σ.calls i with
    | some (.building n answer) =>
      { σ with
        registry := (σ.registry.reload env answer).1
        calls := Function.update σ.calls i (some (.done n answer env)) }
    | _ => σ

/-- The event is the publication of a reload that is in flight. -/
def publishesNow (σ : Reloads Value Manager) : ReloadEvent Value Manager → Bool
  | .publish i _ =>
    match σ.calls i with
    | some (.building _ _) => true
    | _ => false
  | _ => false

/-- The reload that publishes has read after every reload that has published. -/
def InOrder (σ : Reloads Value Manager) : ReloadEvent Value Manager → Prop
  | .publish i _ => ∀ n answer, σ.calls i = some (.building n answer) →
      ∀ j m answer' env', σ.calls j = some (.done m answer' env') → m < n
  | _ => True

/-- No reload is in flight. -/
def Quiescent (σ : Reloads Value Manager) : Prop :=
  ∀ i n answer, σ.calls i ≠ some (.building n answer)

/-- What holds in every state: reads are numbered apart, and the registry has its store. -/
structure Numbered (σ : Reloads Value Manager) : Prop where
  hasStore : σ.registry.hasConfigStore = true
  lt_reads : ∀ i call, σ.calls i = some call → call.number < σ.reads

/-- The published reload that read last has its outcome published. -/
def LatestWins (σ : Reloads Value Manager) : Prop :=
  ∀ i n answer env, σ.calls i = some (.done n answer env) →
    (∀ j m answer' env', σ.calls j = some (.done m answer' env') → m ≤ n) →
    σ.registry.runtime = RuntimeState.ofResult (load env answer)

/-- One step of the reloads. -/
theorem next_cases (σ : Reloads Value Manager) (e : ReloadEvent Value Manager) :
    (publishesNow σ e = false ∧ (next σ e).registry = σ.registry ∧ (next σ e).calls = σ.calls ∧
      (next σ e).reads = σ.reads) ∨
    (∃ i answer, publishesNow σ e = false ∧ σ.calls i = none ∧ (next σ e).registry = σ.registry ∧
      (next σ e).calls = Function.update σ.calls i (some (.building σ.reads answer)) ∧
      (next σ e).reads = σ.reads + 1) ∨
    (∃ i env n answer, e = .publish i env ∧ publishesNow σ e = true ∧
      σ.calls i = some (.building n answer) ∧
      (next σ e).registry = (σ.registry.reload env answer).1 ∧
      (next σ e).calls = Function.update σ.calls i (some (.done n answer env)) ∧
      (next σ e).reads = σ.reads) := by
  cases e with
  | store answer => exact Or.inl ⟨rfl, rfl, rfl, rfl⟩
  | read i reachable =>
    cases hi : σ.calls i with
    | some call => exact Or.inl (by simp [next, publishesNow, hi])
    | none =>
      refine Or.inr (Or.inl ⟨i, if reachable then σ.stored else .unavailable, rfl, hi, ?_⟩)
      simp [next, hi]
  | publish i env =>
    cases hi : σ.calls i with
    | none => exact Or.inl (by simp [next, publishesNow, hi])
    | some call =>
      cases call with
      | done n answer env' => exact Or.inl (by simp [next, publishesNow, hi])
      | building n answer =>
        exact Or.inr (Or.inr ⟨i, env, n, answer, rfl, by simp [publishesNow, hi], hi,
          by simp [next, hi]⟩)

/-- `reload` on a registry with a store publishes the outcome of the load. -/
theorem reload_fst {env : CpexEnv Value Manager} {registry : CpexRuntimeRegistry Manager}
    (hs : registry.hasConfigStore = true) (answer : StoreAnswer) :
    (registry.reload env answer).1 =
      { registry with runtime := RuntimeState.ofResult (load env answer) } :=
  reloadRuntime_fst hs answer

theorem numbered_next {σ : Reloads Value Manager} (h : Numbered σ)
    (e : ReloadEvent Value Manager) : Numbered (next σ e) := by
  rcases next_cases σ e with ⟨-, hr, hc, hn⟩ | ⟨i, answer, -, hi, hr, hc, hn⟩ |
    ⟨i, env, n, answer, rfl, -, hi, hr, hc, hn⟩
  · exact ⟨hr ▸ h.hasStore, by rw [hc, hn]; exact h.lt_reads⟩
  · refine ⟨hr ▸ h.hasStore, fun j call hj => ?_⟩
    rw [hc] at hj
    rw [hn]
    by_cases hji : j = i
    · subst hji
      rw [Function.update_self] at hj
      cases hj
      exact Nat.lt_succ_self _
    · rw [Function.update_of_ne hji] at hj
      exact Nat.lt_succ_of_lt (h.lt_reads j call hj)
  · refine ⟨by rw [hr, reload_fst h.hasStore]; exact h.hasStore, fun j call hj => ?_⟩
    rw [hc] at hj
    rw [hn]
    by_cases hji : j = i
    · subst hji
      rw [Function.update_self] at hj
      cases hj
      exact h.lt_reads j (.building n answer) hi
    · rw [Function.update_of_ne hji] at hj
      exact h.lt_reads j call hj

/-- A publication in the order of the reads leaves the latest reader's outcome published. -/
theorem latestWins_next {σ : Reloads Value Manager} (hnum : Numbered σ) (h : LatestWins σ)
    (e : ReloadEvent Value Manager) (ho : InOrder σ e) : LatestWins (next σ e) := by
  rcases next_cases σ e with ⟨-, hr, hc, -⟩ | ⟨i, answer, -, hi, hr, hc, -⟩ |
    ⟨i, env, n, answer, rfl, -, hi, hr, hc, -⟩
  · intro j m answer env hj hmax
    rw [hc] at hj hmax
    rw [hr]
    exact h j m answer env hj hmax
  · intro j m answer' env hj hmax
    rw [hc] at hj hmax
    rw [hr]
    have hji : j ≠ i := by
      rintro rfl
      rw [Function.update_self] at hj
      cases hj
    rw [Function.update_of_ne hji] at hj
    refine h j m answer' env hj fun k l a e' hk => hmax k l a e' ?_
    have hki : k ≠ i := by
      rintro rfl
      rw [hi] at hk
      cases hk
    rwa [Function.update_of_ne hki]
  · intro j m answer' env' hj hmax
    rw [hc] at hj hmax
    rw [hr, reload_fst hnum.hasStore]
    by_cases hji : j = i
    · subst hji
      rw [Function.update_self] at hj
      cases hj
      rfl
    · -- another reload has published before, so it has read before
      rw [Function.update_of_ne hji] at hj
      have hlt : m < n := ho n answer hi j m answer' env' hj
      have hle : n ≤ m := hmax i n answer env (by rw [Function.update_self])
      omega

/-! ### Runs -/

/-- The last publication of a run, with the state before it. -/
def lastPublisher (σ : Reloads Value Manager) (es : List (ReloadEvent Value Manager)) :
    Option (Reloads Value Manager × ReloadEvent Value Manager) :=
  last? next publishesNow σ es

theorem numbered_new (stored : StoreAnswer) : Numbered (new stored : Reloads Value Manager) :=
  ⟨rfl, fun _ _ h => by cases h⟩

theorem numbered_run (stored : StoreAnswer) (es : List (ReloadEvent Value Manager)) :
    Numbered (run next (new stored) es) := by
  have hstep : ∀ (σ : Reloads Value Manager) e, Numbered σ → Numbered (next σ e) :=
    fun _ e h => numbered_next h e
  exact run_invariant hstep (numbered_new stored) es

/-- The state published is the outcome of the reload that published last. -/
theorem runtime_of_lastPublisher (stored : StoreAnswer) (es : List (ReloadEvent Value Manager))
    {τ : Reloads Value Manager} {i : ℕ} {env : CpexEnv Value Manager}
    (h : lastPublisher (new stored) es = some (τ, .publish i env)) :
    ∃ n answer, τ.calls i = some (.building n answer) ∧
      (run next (new stored) es).registry.runtime = RuntimeState.ofResult (load env answer) := by
  unfold lastPublisher at h
  induction es using List.reverseRecOn with
  | nil => cases h
  | append_singleton es e ih =>
    rw [last?_concat] at h
    rw [run_concat]
    rcases next_cases (run next (new stored) es) e with ⟨hp, hr, -⟩ | ⟨j, answer, hp, -, hr, -⟩ |
      ⟨j, env', n, answer, rfl, hp, hj, hr, -⟩
    · rw [hp] at h
      rw [hr]
      exact ih h
    · rw [hp] at h
      rw [hr]
      exact ih h
    · rw [hp] at h
      cases h
      exact ⟨n, answer, hj, by rw [hr, reload_fst (numbered_run stored es).hasStore]⟩

theorem runtime_of_no_publisher (stored : StoreAnswer) (es : List (ReloadEvent Value Manager))
    (h : lastPublisher (new stored) es = none) :
    (run next (new stored) es).registry.runtime = .active default := by
  unfold lastPublisher at h
  induction es using List.reverseRecOn with
  | nil => rfl
  | append_singleton es e ih =>
    rw [last?_concat] at h
    rw [run_concat]
    rcases next_cases (run next (new stored) es) e with ⟨hp, hr, -⟩ | ⟨j, answer, hp, -, hr, -⟩ |
      ⟨j, env', n, answer, rfl, hp, hj, hr, -⟩
    · rw [hp] at h
      rw [hr]
      exact ih h
    · rw [hp] at h
      rw [hr]
      exact ih h
    · rw [hp] at h
      cases h

theorem latestWins_run (stored : StoreAnswer) {es : List (ReloadEvent Value Manager)}
    (h : Along next InOrder (new stored) es) : LatestWins (run next (new stored) es) := by
  have hstep : ∀ (σ : Reloads Value Manager) e, Numbered σ ∧ LatestWins σ → InOrder σ e →
      Numbered (next σ e) ∧ LatestWins (next σ e) :=
    fun σ e hs ho => ⟨numbered_next hs.1 e, latestWins_next hs.1 hs.2 e ho⟩
  have hnew : LatestWins (new stored : Reloads Value Manager) := fun _ _ _ _ h => by cases h
  exact (along_invariant hstep ⟨numbered_new stored, hnew⟩ h).2

/-- **Overlapping reloads.** After every run, what is published is the outcome of the reload that
published last; and once no reload is in flight, it is the outcome of the reload that read last,
if the reloads published in the order in which they had read. -/
theorem published_run (stored : StoreAnswer) (es : List (ReloadEvent Value Manager)) :
    (lastPublisher (new stored) es = none →
      (run next (new stored) es).registry.runtime = .active default) ∧
    (∀ τ i env, lastPublisher (new stored) es = some (τ, .publish i env) →
      ∃ n answer, τ.calls i = some (.building n answer) ∧
        (run next (new stored) es).registry.runtime = RuntimeState.ofResult (load env answer)) ∧
    (Along next InOrder (new stored) es → Quiescent (run next (new stored) es) →
      ∀ i n answer env, (run next (new stored) es).calls i = some (.done n answer env) →
        n + 1 = (run next (new stored) es).reads →
        (run next (new stored) es).registry.runtime =
          RuntimeState.ofResult (load env answer)) := by
  refine ⟨runtime_of_no_publisher stored es, fun τ i env h => runtime_of_lastPublisher stored es h,
    fun ho _ i n answer env hi hlast => latestWins_run stored ho i n answer env hi ?_⟩
  intro j m answer' env' hj
  have hlt : m < (run next (new stored) es).reads := (numbered_run stored es).lt_reads j _ hj
  omega

/-! ### Two reloads that cross -/

/-- The reload 0 reads a document, the document is removed, the reload 1 reads that and publishes
its failure, and then the reload 0 publishes. -/
def crossedReloads : List (ReloadEvent Unit Unit) :=
  [.read 0 true, .store .absent, .read 1 true, .publish 1 Sample.cpexEnv,
    .publish 0 Sample.cpexEnv]

/-- Nothing is in flight and the reload 1 has read last, but the runtime of the removed document is
published. -/
theorem crossedReloads_publish_older :
    Quiescent (run next (new (.bytes Sample.document)) crossedReloads) ∧
      (run next (new (.bytes Sample.document)) crossedReloads).calls 1 =
        some (.done 1 .absent Sample.cpexEnv) ∧
      (run next (new (.bytes Sample.document)) crossedReloads).reads = 2 ∧
      load Sample.cpexEnv .absent = .error .configMissing ∧
      (run next (new (.bytes Sample.document)) crossedReloads).registry.runtime =
        .active default := by
  refine ⟨fun i n answer hi => ?_, rfl, rfl, rfl, rfl⟩
  match i with
  | 0 => cases hi
  | 1 => cases hi
  | i + 2 => cases hi

end Reloads

end CpexRuntimeRegistry

end ContextForge
