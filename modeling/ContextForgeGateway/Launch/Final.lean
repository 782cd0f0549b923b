import ContextForgeGateway.Launch
import Mathlib.Algebra.BigOperators.Group.Finset.Basic
import Mathlib.Algebra.Order.BigOperators.Group.Finset

/-!
# Starting the gateway comes to an end

Every step of a thread takes the thread nearer to its end: `rank` counts the steps that are left, of
`execute` and of each gateway thread, also of those that are still to be spawned. So from every state
of a run the threads can go on until none of them can take a step, and the states in which a launch
is over are there to be reached.
-/

namespace ContextForge

/-- The steps that are left at a point of the closure of a gateway thread. -/
@[simp] def GatewayPhase.rank : GatewayPhase → ℕ
  | building => 6
  | initializing => 5
  | reporting _ => 4
  | starting => 3
  | serving => 2
  | ending => 1

/-- The steps of a gateway thread that are left. -/
@[simp] def GatewayThread.rank : GatewayThread → ℕ
  | notSpawned => 7
  | running _ phase => phase.rank
  | terminated => 0

/-- The steps of `execute` that are left, with `n` threads to be spawned in all. -/
@[simp] def ExecutePhase.rank (n : ℕ) : ExecutePhase → ℕ
  | building => 4
  | initializing => 3
  | starting => 2
  | serving => 1
  | spawningFirst => 2 * n + 5
  | receiving => 2 * n + 4
  | spawning i handles => 2 * (n - i) + handles.length + 2
  | joining handles => handles.length + 1
  | returned _ => 0

/-- The gateway threads from here on have not been spawned. -/
@[simp] def ExecutePhase.spawned (n : ℕ) : ExecutePhase → ℕ
  | building | initializing | starting | serving | spawningFirst => 0
  | receiving => 1
  | spawning i _ => i
  | joining _ | returned _ => max 1 n

namespace Launch

variable {Value Manager : Type} [Inhabited Manager]

/-- No gateway thread runs but those that `execute` has spawned. -/
structure Bounded (rt : Runtime) (s : Launch Value Manager) : Prop where
  notSpawned : ∀ i, s.main.spawned rt.numberOfThreads ≤ i → s.threads i = .notSpawned
  le : s.main.spawned rt.numberOfThreads ≤ max 1 rt.numberOfThreads

/-- A step of `execute` has taken it on, and no thread back. -/
structure Onward (rt : Runtime) (s s' : Launch Value Manager) : Prop extends Bounded rt s' where
  main : s'.main.rank rt.numberOfThreads < s.main.rank rt.numberOfThreads
  threads : ∀ i, (s'.threads i).rank ≤ (s.threads i).rank

/-- The steps that are left. -/
def rank (rt : Runtime) (s : Launch Value Manager) : ℕ :=
  s.main.rank rt.numberOfThreads +
    ∑ i ∈ Finset.range (max 1 rt.numberOfThreads), (s.threads i).rank

variable {rt : Runtime} {o : Outcomes Value Manager} {s s' : Launch Value Manager}

omit [Inhabited Manager] in
/-- `execute` goes on, and spawns no thread. -/
theorem Bounded.onward_of_threads_eq (hb : Bounded rt s) {main : ExecutePhase} (hm : s.main = main)
    (hthreads : s'.threads = s.threads)
    (hle : main.spawned rt.numberOfThreads ≤ s'.main.spawned rt.numberOfThreads)
    (hmax : s'.main.spawned rt.numberOfThreads ≤ max 1 rt.numberOfThreads)
    (hlt : s'.main.rank rt.numberOfThreads < main.rank rt.numberOfThreads) : Onward rt s s' where
  notSpawned i hi := by
    rw [hthreads]
    exact hb.notSpawned i ((hm ▸ hle).trans hi)
  le := hmax
  main := hm ▸ hlt
  threads i := by rw [hthreads]

omit [Inhabited Manager] in
/-- `execute` goes on, and spawns the next thread. -/
theorem Bounded.onward_of_spawn (hb : Bounded rt s) {main : ExecutePhase} (hm : s.main = main)
    {i : ℕ} {initSender : Bool}
    (hthreads : s'.threads = Function.update s.threads i (.running initSender .building))
    (hi : main.spawned rt.numberOfThreads = i)
    (hi' : s'.main.spawned rt.numberOfThreads = i + 1)
    (hmax : i < max 1 rt.numberOfThreads)
    (hlt : s'.main.rank rt.numberOfThreads < main.rank rt.numberOfThreads) : Onward rt s s' where
  notSpawned j hj := by
    rw [hi'] at hj
    rw [hthreads, Function.update_of_ne (by omega)]
    apply hb.notSpawned j
    rw [hm, hi]
    exact Nat.le_of_succ_le hj
  le := hi' ▸ hmax
  main := hm ▸ hlt
  threads j := by
    rw [hthreads]
    by_cases hj : j = i
    · have hnot : s.threads j = .notSpawned := hb.notSpawned j (by rw [hm, hi, hj])
      rw [hnot, hj, Function.update_self]
      simp
    · rw [Function.update_of_ne hj]

/-- A step of a gateway thread takes it on, and leaves the others and `execute` where they are. -/
theorem gatewayStep_rank {i : ℕ} (h : s.gatewayStep o i = some s') :
    s'.main = s.main ∧ (s'.threads i).rank < (s.threads i).rank ∧
      ∀ j, j ≠ i → s'.threads j = s.threads j := by
  have hset : ∀ thread : GatewayThread, thread.rank < (s.threads i).rank →
      s'.main = s.main → s'.threads = Function.update s.threads i thread →
      s'.main = s.main ∧ (s'.threads i).rank < (s.threads i).rank ∧
        ∀ j, j ≠ i → s'.threads j = s.threads j := by
    intro thread hrank hmain hthreads
    refine ⟨hmain, ?_, fun j hj => ?_⟩
    · rw [hthreads, Function.update_self]
      exact hrank
    · rw [hthreads, Function.update_of_ne hj]
  cases hi : s.threads i with
  | notSpawned =>
    simp only [gatewayStep, hi] at h
    cases h
  | terminated =>
    simp only [gatewayStep, hi] at h
    cases h
  | running initSender phase =>
    rw [hi] at hset
    cases phase with
    | building =>
      simp only [gatewayStep, hi] at h
      split at h
      · cases h
        exact hset _ (by cases initSender <;> simp) rfl rfl
      · cases h
        exact hset _ (by simp) rfl rfl
    | initializing =>
      simp only [gatewayStep, hi] at h
      cases h
      exact hset _ (by simp) rfl rfl
    | reporting result =>
      simp only [gatewayStep, hi] at h
      cases h
      exact hset _ (by cases result <;> simp) rfl rfl
    | starting | serving | ending =>
      simp only [gatewayStep, hi] at h
      cases h
      exact hset _ (by simp) rfl rfl

theorem executeStep_onward (hb : Bounded rt s) (h : s.executeStep rt o = some s') :
    Onward rt s s' := by
  cases hm : s.main with
  | building | initializing | serving | starting =>
    simp only [executeStep, hm] at h
    repeat' split at h
    all_goals cases h
    all_goals exact hb.onward_of_threads_eq hm rfl (by simp) (by simp) (by simp)
  | spawningFirst =>
    simp only [executeStep, hm] at h
    split at h
    · cases h
      exact hb.onward_of_spawn hm rfl rfl rfl (by simp) (by simp)
    · cases h
      exact hb.onward_of_threads_eq hm rfl (by simp) (by simp) (by simp)
  | receiving =>
    simp only [executeStep, hm] at h
    repeat' split at h
    all_goals cases h
    all_goals refine hb.onward_of_threads_eq hm rfl (by simp) (by simp) ?_
    all_goals simp only [ExecutePhase.rank, List.length_singleton]
    all_goals omega
  | spawning i handles =>
    simp only [executeStep, hm] at h
    split at h
    next hi =>
      split at h
      · cases h
        refine hb.onward_of_spawn hm rfl rfl rfl (hi.trans_le (le_max_right _ _)) ?_
        simp only [ExecutePhase.rank, List.length_append, List.length_singleton]
        omega
      · cases h
        refine hb.onward_of_threads_eq hm rfl (Nat.le_succ i)
          ((Nat.succ_le_of_lt hi).trans (le_max_right _ _)) ?_
        simp only [ExecutePhase.rank]
        omega
    next =>
      have hle := hb.le
      rw [hm] at hle
      cases h
      refine hb.onward_of_threads_eq hm rfl hle le_rfl ?_
      simp only [ExecutePhase.rank]
      omega
  | joining handles =>
    cases handles with
    | nil =>
      simp only [executeStep, hm] at h
      cases h
      exact hb.onward_of_threads_eq hm rfl le_rfl le_rfl (by simp)
    | cons i handles =>
      simp only [executeStep, hm] at h
      split at h
      · cases h
        exact hb.onward_of_threads_eq hm rfl le_rfl le_rfl (by simp)
      · cases h
  | returned result =>
    simp only [executeStep, hm] at h
    cases h

/-- Every step of a thread lowers the number of steps that are left. -/
theorem step?_rank {thread : LaunchThread} (hb : Bounded rt s)
    (h : step? rt o s thread = some s') : Bounded rt s' ∧ s'.rank rt < s.rank rt := by
  cases thread with
  | main =>
    have hon : Onward rt s s' := executeStep_onward hb h
    exact ⟨hon.toBounded,
      add_lt_add_of_lt_of_le hon.main (Finset.sum_le_sum fun i _ => hon.threads i)⟩
  | gateway i =>
    obtain ⟨hmain, hi, hne⟩ := gatewayStep_rank h
    have hspawned : i < s.main.spawned rt.numberOfThreads := by
      by_contra hle
      have hnot := hb.notSpawned i (not_lt.1 hle)
      simp only [step?, gatewayStep, hnot] at h
      cases h
    refine ⟨⟨fun j hj => ?_, hmain ▸ hb.le⟩, ?_⟩
    · rw [hmain] at hj
      rw [hne j (by omega)]
      exact hb.notSpawned j hj
    · have hsum : ∑ j ∈ Finset.range (max 1 rt.numberOfThreads), (s'.threads j).rank <
          ∑ j ∈ Finset.range (max 1 rt.numberOfThreads), (s.threads j).rank := by
        apply Finset.sum_lt_sum
        · intro j _
          by_cases hj : j = i
          · rw [hj]
            exact hi.le
          · rw [hne j hj]
        · exact ⟨i, Finset.mem_range.2 (hspawned.trans_le hb.le), hi⟩
      rw [rank, rank, hmain]
      exact Nat.add_lt_add_left hsum _

theorem next_bounded (hb : Bounded rt s) (e : Event Value Manager) : Bounded rt (next rt o s e) := by
  cases e with
  | step thread =>
    exact Runs.tryStep_invariant (fun _ _ _ hb hs => (step?_rank hb hs).1) s thread hb
  | tick env answer =>
    simp only [next]
    repeat' split
    all_goals exact ⟨hb.notSpawned, hb.le⟩

theorem run_bounded (rt : Runtime) (o : Outcomes Value Manager)
    (registry : Option (CpexRuntimeRegistry Manager)) (es : List (Event Value Manager)) :
    Bounded rt (Runs.run (next rt o) (start rt registry) es) := by
  apply Runs.run_invariant (I := Bounded rt) fun _ e hb => next_bounded hb e
  refine ⟨fun _ _ => rfl, ?_⟩
  rw [start]
  split <;> simp

/-- **Every launch can be brought to its end.** After any run of `execute` there are steps of the
threads that lead to a final state. -/
theorem exists_final (rt : Runtime) (o : Outcomes Value Manager)
    (registry : Option (CpexRuntimeRegistry Manager)) (es : List (Event Value Manager)) :
    ∃ threads : List LaunchThread,
      Final rt o (Runs.run (next rt o) (start rt registry) (es ++ threads.map .step)) := by
  obtain ⟨threads, hstuck⟩ := Runs.exists_stuck (rank rt) (fun _ _ _ hb hs => step?_rank hb hs)
    (run_bounded rt o registry es)
  refine ⟨threads, ?_⟩
  rw [Runs.run_append]
  have hmap : ∀ s : Launch Value Manager, Runs.run (next rt o) s (threads.map .step) =
      Runs.run (Runs.tryStep (step? rt o)) s threads := by
    intro s
    simp only [Runs.run, List.foldl_map]
    rfl
  rw [hmap]
  exact hstuck

/-- From there `execute` has returned, and `Ok` exactly if the initialization succeeds. -/
theorem exists_final_returned (rt : Runtime) (o : Outcomes Value Manager)
    (registry : Option (CpexRuntimeRegistry Manager)) (es : List (Event Value Manager)) :
    ∃ threads : List LaunchThread, ∃ result,
      (Runs.run (next rt o) (start rt registry) (es ++ threads.map .step)).main =
        .returned result ∧ (result = .ok () ↔ Initializes rt o registry) := by
  obtain ⟨threads, hfinal⟩ := exists_final rt o registry es
  have hiff := (run_inv rt o registry (es ++ threads.map .step)).final_iff hfinal
  by_cases hi : Initializes rt o registry
  · exact ⟨threads, .ok (), (hiff.1 hi).2, iff_of_true rfl hi⟩
  · obtain ⟨-, e, he⟩ := hiff.2 hi
    exact ⟨threads, .error e, he, iff_of_false (by simp) hi⟩

end Launch

end ContextForge
