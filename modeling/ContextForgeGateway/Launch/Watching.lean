import ContextForgeGateway.Launch

/-!
# On which thread the plugin configuration is watched

`initialize` spawns the config watcher on the tokio runtime that it runs on itself: that of the thread
that calls `execute`, or, with several gateway threads, that of thread 0. The other threads only read
what is published. A tokio runtime that is dropped drops its tasks, so the watcher does not outlive the
`run_gateway` of its thread, whatever the others do.

In Launch.lean the watcher may tick at any time; `nextHosted` lets it tick only as long as its runtime
runs, so that its runs are runs of Launch.lean (`run_nextHosted`). `registry_frozen` is what follows for
the threads that go on serving when thread 0 has ended, as it does when its `run_gateway` cannot start.
-/

namespace ContextForge

/-- The closure of `spawn_gateway_thread` has left `block_on`. -/
def GatewayThread.Ended : GatewayThread → Prop
  | running _ .ending | terminated => True
  | _ => False

namespace Launch

variable {Value Manager : Type} [Inhabited Manager]

/-- The runtime on which `initialize` has been called is running. -/
def hosts (rt : Runtime) (s : Launch Value Manager) : Bool :=
  if rt.singleRuntime then
    match s.main with
    | .starting | .serving => true
    | _ => false
  else
    match s.threads 0 with
    | .running _ (.reporting _) | .running _ .starting | .running _ .serving => true
    | _ => false

/-- What can happen: the watcher ticks on that runtime only. -/
def hosted (rt : Runtime) (s : Launch Value Manager) : Event Value Manager → Option (Event Value Manager)
  | .step thread => some (.step thread)
  | .tick env answer => if s.hosts rt then some (.tick env answer) else none

/-- The state after one event. -/
def nextHosted (rt : Runtime) (o : Outcomes Value Manager) (s : Launch Value Manager)
    (e : Event Value Manager) : Launch Value Manager :=
  ((s.hosted rt e).map (next rt o s)).getD s

/-- Such a run is one of Launch.lean. -/
theorem run_nextHosted (rt : Runtime) (o : Outcomes Value Manager) (s : Launch Value Manager)
    (es : List (Event Value Manager)) :
    Runs.run (nextHosted rt o) s es =
      Runs.run (next rt o) s (Runs.outputs (nextHosted rt o) (hosted rt) s es).reduceOption := by
  have hcomponent : ∀ s e, id (nextHosted rt o s e) =
      ((hosted rt s e).map (next rt o (id s))).getD (id s) := fun _ _ => rfl
  exact Runs.run_component hcomponent s es

variable {rt : Runtime} {o : Outcomes Value Manager} {registry : Option (CpexRuntimeRegistry Manager)}
  {s s' : Launch Value Manager}

/-- What the registry finds, it finds when it is initialized, or at a tick. -/
theorem found_nextHosted {e : Event Value Manager} {x : CpexEnv Value Manager × StoreAnswer}
    (h : x ∈ (nextHosted rt o s e).found) :
    x ∈ s.found ∨ x = (o.env, o.answer) ∨ e = .tick x.1 x.2 := by
  cases e with
  | step thread =>
    change x ∈ (Runs.tryStep (step? rt o) s thread).found at h
    unfold Runs.tryStep at h
    cases hs : step? rt o s thread with
    | none =>
      rw [hs] at h
      exact Or.inl h
    | some s' =>
      rw [hs] at h
      rcases step?_registry hs with ⟨-, -, hfound⟩ | ⟨-, hfound⟩ <;>
        rw [Option.getD_some, hfound] at h
      · exact Or.inl h
      · rcases List.mem_cons.1 h with h | h
        exacts [Or.inr (Or.inl h), Or.inl h]
  | tick env answer =>
    simp only [nextHosted, hosted] at h
    by_cases hhosts : s.hosts rt = true
    · simp only [hhosts, if_true, Option.map_some, Option.getD_some, Launch.next] at h
      split at h
      next registry hregistry =>
        split at h
        · rcases List.mem_cons.1 h with rfl | h
          exacts [Or.inr (Or.inr rfl), Or.inl h]
        · exact Or.inl h
      next => exact Or.inl h
    · rw [if_neg hhosts] at h
      exact Or.inl h

/-! ### What a step does to the threads and to the registry -/

/-- What a step of `execute` may do. -/
structure MainStep (s s' : Launch Value Manager) : Prop where
  building : s'.main ≠ .building
  initializing : s'.main = .initializing → s.main = .building
  threads : ∀ i, s'.threads i = s.threads i ∨ (∃ initSender, s'.threads i = .running initSender .building) ∧
    (s.main = .spawningFirst ∨ ∃ handles, s.main = .spawning i handles)
  registry : s.main ≠ .initializing → s'.registry = s.registry

omit [Inhabited Manager] in
/-- Most steps of `execute` only take it to another point. -/
theorem MainStep.of_eq (hbuilding : s'.main ≠ .building)
    (hinitializing : s'.main = .initializing → s.main = .building) (hthreads : s'.threads = s.threads)
    (hregistry : s.main ≠ .initializing → s'.registry = s.registry) : MainStep s s' :=
  ⟨hbuilding, hinitializing, fun i => Or.inl (by rw [hthreads]), hregistry⟩

omit [Inhabited Manager] in
/-- The others spawn a thread. -/
theorem MainStep.spawn {i : ℕ} {initSender : Bool} {phase : ExecutePhase}
    (hmain : s.main = .spawningFirst ∨ ∃ handles, s.main = .spawning i handles)
    (hphase : phase ≠ .building) (hphase' : phase ≠ .initializing) :
    MainStep s { s.setThread i (.running initSender .building) with main := phase } where
  building := hphase
  initializing h := absurd h hphase'
  threads j := by
    by_cases hji : j = i
    · subst hji
      exact Or.inr ⟨⟨initSender, setThread_self s j _⟩, hmain⟩
    · exact Or.inl (setThread_of_ne s hji _)
  registry _ := rfl

theorem executeStep_mainStep (hs : s.executeStep rt o = some s') : MainStep s s' := by
  unfold executeStep at hs
  cases hm : s.main with
  | building =>
    cases hb : o.build 0 <;> simp only [hm, hb, Option.some.injEq] at hs <;> subst hs
    · exact .of_eq nofun nofun rfl fun _ => rfl
    · exact .of_eq nofun (fun _ => hm) rfl fun _ => rfl
  | initializing =>
    cases hr : (initializeCpexRuntime o.env o.answer s.registry).2 <;>
      simp only [hm, hr, Option.some.injEq] at hs <;> subst hs
    · exact .of_eq nofun nofun rfl fun h => absurd hm h
    · exact .of_eq nofun nofun rfl fun h => absurd hm h
  | starting | serving =>
    simp only [hm, Option.some.injEq] at hs
    subst hs
    exact .of_eq nofun nofun rfl fun _ => rfl
  | spawningFirst =>
    cases hsp : o.spawn 0 <;> simp only [hm, hsp, Option.some.injEq] at hs <;> subst hs
    · exact .of_eq nofun nofun rfl fun _ => rfl
    · exact .spawn (Or.inl hm) nofun nofun
  | receiving =>
    cases hq : s.queue with
    | nil =>
      by_cases ha : s.senderAlive = true
      · simp [hm, hq, ha] at hs
      · simp only [hm, hq, ha, Bool.false_eq_true, if_false, Option.some.injEq] at hs
        subst hs
        exact .of_eq nofun nofun rfl fun _ => rfl
    | cons r queue =>
      cases r <;> simp only [hm, hq, Option.some.injEq] at hs <;> subst hs
      · exact .of_eq nofun nofun rfl fun _ => rfl
      · exact .of_eq nofun nofun rfl fun _ => rfl
  | spawning i handles =>
    by_cases hlt : i < rt.numberOfThreads
    · cases hsp : o.spawn i <;> simp only [hm, hlt, if_true, hsp, Option.some.injEq] at hs <;> subst hs
      · exact .of_eq nofun nofun rfl fun _ => rfl
      · exact .spawn (Or.inr ⟨handles, hm⟩) nofun nofun
    · simp only [hm, hlt, if_false, Option.some.injEq] at hs
      subst hs
      exact .of_eq nofun nofun rfl fun _ => rfl
  | joining handles =>
    cases handles with
    | nil =>
      simp only [hm, Option.some.injEq] at hs
      subst hs
      exact .of_eq nofun nofun rfl fun _ => rfl
    | cons i handles =>
      cases hi : s.threads i with
      | terminated =>
        simp only [hm, hi, Option.some.injEq] at hs
        subst hs
        exact .of_eq nofun nofun rfl fun _ => rfl
      | notSpawned | running => simp [hm, hi] at hs
  | returned r => simp [hm] at hs

/-- What a step of gateway thread `i` may do. -/
structure GatewayStep (i : ℕ) (s s' : Launch Value Manager) : Prop where
  main : s'.main = s.main
  others : ∀ j, j ≠ i → s'.threads j = s.threads j
  initializing : ∀ initSender, s'.threads i = .running initSender .initializing → initSender = true
  ended : (s.threads i).Ended → (s'.threads i).Ended
  registry : (∀ initSender, s.threads i ≠ .running initSender .initializing) → s'.registry = s.registry

omit [Inhabited Manager] in
/-- A step of a gateway thread takes it to another point. -/
theorem GatewayStep.of_update {i : ℕ} {thread : GatewayThread} (hmain : s'.main = s.main)
    (hthreads : s'.threads = Function.update s.threads i thread)
    (hinitializing : ∀ initSender, thread = .running initSender .initializing → initSender = true)
    (hended : (s.threads i).Ended → thread.Ended)
    (hregistry : (∀ initSender, s.threads i ≠ .running initSender .initializing) →
      s'.registry = s.registry) : GatewayStep i s s' := by
  have hi : s'.threads i = thread := by rw [hthreads, Function.update_self]
  refine ⟨hmain, fun j hj => ?_, fun b hb => hinitializing b (hi.symm.trans hb), ?_, hregistry⟩
  · rw [hthreads, Function.update_of_ne hj]
  · rw [hi]
    exact hended

theorem gatewayStep_gatewayStep {i : ℕ} (hs : s.gatewayStep o i = some s') : GatewayStep i s s' := by
  unfold gatewayStep at hs
  cases hi : s.threads i with
  | notSpawned | terminated => simp [hi] at hs
  | running initSender phase =>
    have hgoing : ∀ {thread : GatewayThread}, phase ≠ .ending → (s.threads i).Ended → thread.Ended := by
      intro thread hne he
      rw [hi] at he
      cases phase with
      | ending => exact absurd rfl hne
      | _ => exact he.elim
    cases phase with
    | building =>
      cases hb : o.build i <;> simp only [hi, hb, Option.some.injEq] at hs <;> subst hs
      · exact .of_update rfl rfl nofun (fun _ => trivial) fun _ => rfl
      · refine .of_update rfl rfl (fun b hb' => ?_) (hgoing nofun) fun _ => rfl
        cases initSender <;> cases hb'
        rfl
    | initializing =>
      simp only [hi, Option.some.injEq] at hs
      subst hs
      exact .of_update rfl rfl nofun (hgoing nofun) fun h => absurd hi (h initSender)
    | reporting result =>
      simp only [hi, Option.some.injEq] at hs
      subst hs
      refine .of_update rfl rfl (fun b hb => ?_) (hgoing nofun) fun _ => rfl
      cases result <;> cases hb
    | starting =>
      simp only [hi, Option.some.injEq] at hs
      subst hs
      exact .of_update rfl rfl nofun (hgoing nofun) fun _ => rfl
    | serving =>
      simp only [hi, Option.some.injEq] at hs
      subst hs
      exact .of_update rfl rfl nofun (fun _ => trivial) fun _ => rfl
    | ending =>
      simp only [hi, Option.some.injEq] at hs
      subst hs
      exact .of_update rfl rfl nofun (fun _ => trivial) fun _ => rfl

/-! ### After the runtime of the watcher -/

/-- Only one thread initializes. -/
structure InitializesOnce (rt : Runtime) (s : Launch Value Manager) : Prop where
  building : s.main = .building → rt.singleRuntime = true
  initializing : s.main = .initializing → rt.singleRuntime = true
  threads : ∀ i initSender, s.threads i = .running initSender .initializing → initSender = true

omit [Inhabited Manager] in
theorem initializesOnce_start (rt : Runtime) (registry : Option (CpexRuntimeRegistry Manager)) :
    InitializesOnce rt (start rt registry : Launch Value Manager) := by
  refine ⟨fun h => ?_, fun h => ?_, nofun⟩
  · unfold start at h
    cases hr : rt.singleRuntime <;> simp [hr] at h
    rfl
  · unfold start at h
    cases hr : rt.singleRuntime <;> simp [hr] at h

theorem InitializesOnce.step? (h : InitializesOnce rt s) {thread : LaunchThread}
    (hs : step? rt o s thread = some s') : InitializesOnce rt s' := by
  cases thread with
  | main =>
    have hstep : MainStep s s' := executeStep_mainStep hs
    refine ⟨fun hb => absurd hb hstep.building, fun hi => h.building (hstep.initializing hi), ?_⟩
    intro i b hb
    rcases hstep.threads i with hi | ⟨⟨b', hi⟩, -⟩
    · exact h.threads i b (hi.symm.trans hb)
    · cases hi.symm.trans hb
  | gateway i =>
    have hstep : GatewayStep i s s' := gatewayStep_gatewayStep hs
    refine ⟨fun hb => h.building (hstep.main.symm.trans hb),
      fun hi => h.initializing (hstep.main.symm.trans hi), fun j b hb => ?_⟩
    by_cases hji : j = i
    · subst hji
      exact hstep.initializing b hb
    · exact h.threads j b ((hstep.others j hji).symm.trans hb)

theorem InitializesOnce.next (h : InitializesOnce rt s) (e : Event Value Manager) :
    InitializesOnce rt (next rt o s e) := by
  cases e with
  | step thread => exact Runs.tryStep_invariant (fun _ _ _ h hs => h.step? hs) s thread h
  | tick env answer =>
    cases hr : s.registry with
    | none =>
      simp only [Launch.next, hr]
      exact h
    | some r =>
      simp only [Launch.next, hr]
      split
      · exact ⟨h.building, h.initializing, h.threads⟩
      · exact h

/-- There are several gateway threads, and thread 0 has ended. -/
structure Unwatched (rt : Runtime) (o : Outcomes Value Manager)
    (registry current : Option (CpexRuntimeRegistry Manager)) (s : Launch Value Manager) : Prop where
  inv : Inv rt o registry s
  once : InitializesOnce rt s
  ended : (s.threads 0).Ended
  current : s.registry = current

/-- No step of a thread changes the registry any more, or brings back thread 0. -/
theorem Unwatched.step? {current : Option (CpexRuntimeRegistry Manager)}
    (hmulti : rt.singleRuntime = false) (h : Unwatched rt o registry current s) {thread : LaunchThread}
    (hs : step? rt o s thread = some s') : Unwatched rt o registry current s' := by
  have hinv := step?_inv h.inv hs
  have honce := h.once.step? hs
  have hended := h.ended
  cases thread with
  | main =>
    have hstep : MainStep s s' := executeStep_mainStep hs
    have hnot : s.main ≠ .initializing := fun hm => by
      rw [h.once.initializing hm] at hmulti
      cases hmulti
    refine ⟨hinv, honce, ?_, (hstep.registry hnot).trans h.current⟩
    rcases hstep.threads 0 with h0 | ⟨-, hm⟩
    · rw [h0]
      exact hended
    · -- `execute` spawns thread 0 once, and before all others
      have hat := h.inv.main
      rcases hm with hm | ⟨handles, hm⟩ <;> rw [hm] at hat
      · rw [hat.2.2] at hended
        exact hended.elim
      · exact absurd hat.1 (Nat.lt_irrefl 0)
  | gateway i =>
    have hstep : GatewayStep i s s' := gatewayStep_gatewayStep hs
    have hnot : ∀ initSender, s.threads i ≠ .running initSender .initializing := by
      intro b hb
      have hat := h.inv.threads i
      rw [hb] at hat
      obtain rfl : i = 0 := hat.1.1 (h.once.threads i b hb)
      rw [hb] at hended
      exact hended
    refine ⟨hinv, honce, ?_, (hstep.registry hnot).trans h.current⟩
    by_cases h0 : 0 = i
    · subst h0
      exact hstep.ended hended
    · rw [hstep.others 0 h0]
      exact hended

/-- The watcher has no runtime any more. -/
theorem Unwatched.hosts {current : Option (CpexRuntimeRegistry Manager)}
    (hmulti : rt.singleRuntime = false) (h : Unwatched rt o registry current s) : s.hosts rt = false := by
  have hended := h.ended
  unfold Launch.hosts
  rw [hmulti]
  cases h0 : s.threads 0 with
  | notSpawned | terminated => rfl
  | running b phase =>
    rw [h0] at hended
    cases phase with
    | ending => rfl
    | _ => exact hended.elim

theorem Unwatched.next {current : Option (CpexRuntimeRegistry Manager)}
    (hmulti : rt.singleRuntime = false) (h : Unwatched rt o registry current s)
    (e : Event Value Manager) : Unwatched rt o registry current (nextHosted rt o s e) := by
  cases e with
  | step thread =>
    exact Runs.tryStep_invariant (I := Unwatched rt o registry current)
      (fun _ _ _ h hs => h.step? hmulti hs) s thread h
  | tick env answer =>
    have hnone : s.hosted rt (.tick env answer) = none := by
      rw [hosted, h.hosts hmulti]
      rfl
    rw [nextHosted, hnone]
    exact h

/-- **Frozen plugins.** Where there are several gateway threads, nothing is published any more once thread 0
has ended: every tool call on the others finds the state that was published last, however long they go on
serving. -/
theorem registry_frozen (rt : Runtime) (o : Outcomes Value Manager)
    (registry : Option (CpexRuntimeRegistry Manager)) (hmulti : rt.singleRuntime = false)
    (es later : List (Event Value Manager)) :
    let s := Runs.run (nextHosted rt o) (start rt registry) es
    (s.threads 0).Ended → (Runs.run (nextHosted rt o) s later).registry = s.registry := by
  intro s hended
  have hrun : ∃ js, s = Runs.run (next rt o) (start rt registry) js := ⟨_, run_nextHosted rt o _ es⟩
  obtain ⟨js, hjs⟩ := hrun
  have hinv : Inv rt o registry s := by
    rw [hjs]
    exact run_inv rt o registry js
  have honce : InitializesOnce rt s := by
    rw [hjs]
    exact Runs.run_invariant (fun _ e h => h.next e) (initializesOnce_start rt registry) js
  have h : Unwatched rt o registry s.registry s := ⟨hinv, honce, hended, rfl⟩
  exact (Runs.run_invariant (I := Unwatched rt o registry s.registry) (fun _ e h => h.next hmulti e) h
    later).current

/-! ### A gateway that serves on alone -/

namespace TwoThreads

/-- Everything succeeds. -/
def outcomes : Outcomes Unit Unit :=
  ⟨fun _ => .ok (), fun _ => .ok (), Sample.cpexEnv, .bytes Sample.document⟩

/-- Thread 0 initializes, both threads begin to serve, and thread 0 ends. -/
def run : List (Event Unit Unit) :=
  [.step .main, .step (.gateway 0), .step (.gateway 0), .step (.gateway 0), .step .main, .step .main,
    .step (.gateway 0), .step (.gateway 1), .step (.gateway 1), .step (.gateway 0)]

/-- Then. -/
def state : Launch Unit Unit :=
  Runs.run (nextHosted ⟨false, 2⟩ outcomes)
    (start ⟨false, 2⟩ (some (CpexRuntimeRegistry.new true))) run

end TwoThreads

open TwoThreads in
theorem registry_frozen_twoThreads :
    state.Serving (.gateway 1) ∧ state.current = some (.active ⟨(), false, false⟩) ∧
      (Runs.run (nextHosted ⟨false, 2⟩ outcomes) state [.tick Sample.cpexEnv .unavailable]).registry =
        state.registry := by
  have hthread : state.threads 0 = .running true .ending := rfl
  have hended : (state.threads 0).Ended := by
    rw [hthread]
    trivial
  have hfrozen := registry_frozen ⟨false, 2⟩ outcomes (some (CpexRuntimeRegistry.new true)) rfl run
    [.tick Sample.cpexEnv .unavailable] hended
  exact ⟨⟨false, rfl⟩, rfl, hfrozen⟩

end Launch

end ContextForge
