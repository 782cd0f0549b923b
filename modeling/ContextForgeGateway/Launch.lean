import ContextForgeGateway.Cpex.Registry
import Mathlib.Logic.Function.Basic

/-!
# Starting the gateway

`Runtime::execute` serves either on one runtime, on the thread that calls it, or on several gateway
threads. In the second mode thread 0 initializes the plugin runtime and reports the outcome on a
channel; the calling thread waits for it before it spawns the others. The calling thread is released
by a report, or by the sender being dropped on one of the ways out of thread 0.

A state has the thread that runs `execute`, the gateway threads, the channel and the registry; what
it meets outside is an `Outcomes`. One step is a step of one thread, taken in any order, or a tick of
the watcher. Two fields are history: what `initialize_cpex_runtime` has returned, and the threads on
which `run_gateway` has begun.

`Launch.Inv` has an assertion for each point at which `execute` or a gateway thread may stand; a step
of one thread establishes the assertion of its next point and leaves those of the others as they are.
`Inv.final_returned` and `Inv.final_iff` are read off it, and `no_serving_before_initialization` puts
them together with where the state that a tool call reads has come from.
-/

namespace ContextForge

/-! ### runtime.rs -/

/-- `struct Runtime`. -/
structure Runtime where
  singleRuntime : Bool
  numberOfThreads : ℕ

/-- What `execute` meets outside: whether gateway thread `i` can be spawned and its runtime built (the
calling thread builds the runtime `0` in single-runtime mode), with the text of the `io::Error` if
not; and what `initialize` finds. -/
structure Outcomes (Value Manager : Type) where
  spawn : ℕ → Except String Unit
  build : ℕ → Except String Unit
  env : CpexEnv Value Manager
  answer : StoreAnswer

/-- Where the closure of `spawn_gateway_thread` stands. -/
inductive GatewayPhase
  | building
  | initializing
  | reporting (result : Except String Unit)
  | starting
  | serving
  | ending

/-- A gateway thread; a running one may own the `init_sender`. -/
inductive GatewayThread
  | notSpawned
  | running (initSender : Bool) (phase : GatewayPhase)
  | terminated

/-- Where `execute` stands: the first four in single-runtime mode, the next four otherwise. -/
inductive ExecutePhase
  | building
  | initializing
  | starting
  | serving
  | spawningFirst
  | receiving
  | spawning (i : ℕ) (handles : List ℕ)
  | joining (handles : List ℕ)
  | returned (result : Except String Unit)

/-- The thread that calls `execute`, and the gateway threads. -/
inductive LaunchThread
  | main
  | gateway (i : ℕ)
  deriving DecidableEq

/-- The process from the call of `execute` on. -/
structure Launch (Value Manager : Type) where
  main : ExecutePhase
  threads : ℕ → GatewayThread
  /-- The messages in the channel, and whether the `init_sender` has not been dropped. -/
  queue : List (Except String Unit)
  senderAlive : Bool
  registry : Option (CpexRuntimeRegistry Manager)
  initialized : Option (Except String Unit)
  began : List LaunchThread
  /-- What the operations on the registry have found: the environment, and the store's answer. -/
  found : List (CpexEnv Value Manager × StoreAnswer)

/-- What `recv` returns when all senders are dropped, as `execute` reports it. -/
def receiveError : String :=
  "CPEX plugin initialization result unavailable: receiving on a closed channel"

variable {Value Manager : Type} [Inhabited Manager]

/-- `Runtime::initialize_cpex_runtime`. -/
def initializeCpexRuntime (env : CpexEnv Value Manager) (answer : StoreAnswer) :
    Option (CpexRuntimeRegistry Manager) →
      Option (CpexRuntimeRegistry Manager) × Except String Unit
  | none => (none, .ok ())
  | some registry =>
    (some (registry.initializeRegistry env answer).1,
      (registry.initializeRegistry env answer).2.mapError GatewayPluginRuntimeError.toString)

namespace Launch

/-- The call of `execute`. -/
def start (rt : Runtime) (registry : Option (CpexRuntimeRegistry Manager)) : Launch Value Manager where
  main := if rt.singleRuntime then .building else .spawningFirst
  threads _ := .notSpawned
  queue := []
  senderAlive := true
  registry := registry
  initialized := none
  began := []
  found := []

/-- Gateway thread `i` goes on as `thread`. -/
def setThread (s : Launch Value Manager) (i : ℕ) (thread : GatewayThread) : Launch Value Manager :=
  { s with threads := Function.update s.threads i thread }

omit [Inhabited Manager] in
@[simp] theorem setThread_self (s : Launch Value Manager) (i : ℕ) (thread : GatewayThread) :
    (s.setThread i thread).threads i = thread := Function.update_self _ _ _

omit [Inhabited Manager] in
theorem setThread_of_ne (s : Launch Value Manager) {i j : ℕ} (h : j ≠ i) (thread : GatewayThread) :
    (s.setThread i thread).threads j = s.threads j := Function.update_of_ne h _ _

/-- The state in which `initialize_cpex_runtime` has returned. -/
def initializeRuntime (o : Outcomes Value Manager) (s : Launch Value Manager) :
    Launch Value Manager :=
  { s with
    registry := (initializeCpexRuntime o.env o.answer s.registry).1
    initialized := some (initializeCpexRuntime o.env o.answer s.registry).2
    found := (o.env, o.answer) :: s.found }

/-- The next step of `execute`; `none` if it waits, or has returned. -/
def executeStep (rt : Runtime) (o : Outcomes Value Manager) (s : Launch Value Manager) :
    Option (Launch Value Manager) :=
  match s.main with
  | .building =>
    match o.build 0 with
    | .ok () => some { s with main := .initializing }
    | .error error => some { s with main := .returned (.error error) }
  | .initializing =>
    match (initializeCpexRuntime o.env o.answer s.registry).2 with
    | .ok () => some { s.initializeRuntime o with main := .starting }
    | .error error => some { s.initializeRuntime o with main := .returned (.error error) }
  | .starting => some { s with main := .serving, began := .main :: s.began }
  | .serving => some { s with main := .returned (.ok ()) }
  | .spawningFirst =>
    match o.spawn 0 with
    | .ok () => some { s.setThread 0 (.running true .building) with main := .receiving }
    -- the closure, and the sender in it, are dropped
    | .error error => some { s with main := .returned (.error error), senderAlive := false }
  | .receiving =>
    match s.queue with
    | .ok () :: queue => some { s with main := .spawning 1 [0], queue }
    | .error error :: queue => some { s with main := .returned (.error error), queue }
    | [] => if s.senderAlive then none else some { s with main := .returned (.error receiveError) }
  | .spawning i handles =>
    if i < rt.numberOfThreads then
      match o.spawn i with
      | .ok () =>
        some { s.setThread i (.running false .building) with
          main := .spawning (i + 1) (handles ++ [i]) }
      | .error _ => some { s with main := .spawning (i + 1) handles }
    else some { s with main := .joining handles }
  | .joining [] => some { s with main := .returned (.ok ()) }
  | .joining (i :: handles) =>
    match s.threads i with
    | .terminated => some { s with main := .joining handles }
    | _ => none
  | .returned _ => none

/-- The next step of gateway thread `i`: the closure of `spawn_gateway_thread`. -/
def gatewayStep (o : Outcomes Value Manager) (s : Launch Value Manager) (i : ℕ) :
    Option (Launch Value Manager) :=
  match s.threads i with
  | .running initSender .building =>
    match o.build i with
    | .ok () =>
      some (s.setThread i (.running initSender (if initSender then .initializing else .starting)))
    | .error _ => some (s.setThread i (.running initSender .ending))
  | .running initSender .initializing =>
    some ((s.initializeRuntime o).setThread i
      (.running initSender (.reporting (initializeCpexRuntime o.env o.answer s.registry).2)))
  | .running initSender (.reporting result) =>
    some { s.setThread i
        (.running initSender (match result with | .ok () => .starting | .error _ => .ending)) with
      queue := s.queue ++ [result] }
  | .running initSender .starting =>
    some { s.setThread i (.running initSender .serving) with began := .gateway i :: s.began }
  | .running initSender .serving => some (s.setThread i (.running initSender .ending))
  | .running initSender .ending =>
    some { s.setThread i .terminated with senderAlive := s.senderAlive && !initSender }
  | .notSpawned | .terminated => none

/-- The next step of a thread. -/
def step? (rt : Runtime) (o : Outcomes Value Manager) (s : Launch Value Manager) :
    LaunchThread → Option (Launch Value Manager)
  | .main => s.executeStep rt o
  | .gateway i => s.gatewayStep o i

variable (Value Manager) in
/-- A step of a thread, or a tick of the watcher of the registry. -/
inductive Event
  | step (thread : LaunchThread)
  | tick (env : CpexEnv Value Manager) (answer : StoreAnswer)

/-- The state after one event. -/
def next (rt : Runtime) (o : Outcomes Value Manager) (s : Launch Value Manager) :
    Event Value Manager → Launch Value Manager
  | .step thread => Runs.tryStep (step? rt o) s thread
  | .tick env answer =>
    match s.registry with
    | some registry =>
      if registry.watcher.isSome then
        { s with registry := some (registry.tick env answer), found := (env, answer) :: s.found }
      else s
    | none => s

/-- No thread can take a step. -/
def Final (rt : Runtime) (o : Outcomes Value Manager) (s : Launch Value Manager) : Prop :=
  Runs.Stuck (step? rt o) s

/-- `run_gateway` is running on the thread. -/
def Serving (s : Launch Value Manager) : LaunchThread → Prop
  | .main => s.main = .serving
  | .gateway i => ∃ initSender, s.threads i = .running initSender .serving

/-- What the gateway's handle reads when a tool call is processed: `GatewayPluginRuntimeHandle::current`. -/
def current (s : Launch Value Manager) : Option (RuntimeState Manager) :=
  s.registry.map (·.runtime)

/-- The initialization succeeds: thread 0 is spawned, its runtime is built, and `initialize` returns
`Ok`. -/
def Initializes (rt : Runtime) (o : Outcomes Value Manager)
    (registry : Option (CpexRuntimeRegistry Manager)) : Prop :=
  (rt.singleRuntime = false → o.spawn 0 = .ok ()) ∧ o.build 0 = .ok () ∧
    (initializeCpexRuntime o.env o.answer registry).2 = .ok ()

/-! ### Assertions at the program points -/

/-- A gateway thread that has still to report. -/
@[simp] def unreported : GatewayThread → Bool
  | .running _ .building | .running _ .initializing | .running _ (.reporting _) => true
  | _ => false

section

variable (rt : Runtime) (o : Outcomes Value Manager)
  (registry : Option (CpexRuntimeRegistry Manager)) (s : Launch Value Manager)

/-- `run_gateway` has begun, unless there was a reason for it not to. -/
def BeganOrFailed : Prop := s.began ≠ [] ∨ ¬ Initializes rt o registry

/-- While `execute` waits for the report: thread 0 has still to give it, or it is in the channel, or
the sender will be dropped. -/
structure Waiting : Prop where
  spawned : s.threads 0 ≠ .notSpawned
  report : unreported (s.threads 0) = true ∨ s.queue ≠ [] ∨ ¬ Initializes rt o registry
  dropped : s.senderAlive = false ↔ s.threads 0 = .terminated

/-- While `execute` has the threads `handles` to join. -/
structure Joining (handles : List ℕ) : Prop where
  initialized : s.initialized = some (.ok ())
  spawned : ∀ i ∈ handles, s.threads i ≠ .notSpawned
  first : 0 ∈ handles ∨ BeganOrFailed rt o registry s

/-- The initialization is reached. -/
def Reached : Prop := (rt.singleRuntime = false → o.spawn 0 = .ok ()) ∧ o.build 0 = .ok ()

/-- What holds when `execute` stands at a point. -/
def MainAt : ExecutePhase → Prop
  | .building => rt.singleRuntime = true
  | .initializing => Reached rt o
  | .starting => s.initialized = some (.ok ())
  | .serving => s.initialized = some (.ok ()) ∧ .main ∈ s.began
  | .spawningFirst =>
    rt.singleRuntime = false ∧ s.senderAlive = true ∧ s.threads 0 = .notSpawned
  | .receiving => Waiting rt o registry s
  | .spawning i handles => 0 < i ∧ Joining rt o registry s handles
  | .joining handles => Joining rt o registry s handles
  | .returned (.ok ()) => s.initialized = some (.ok ()) ∧ BeganOrFailed rt o registry s
  | .returned (.error _) => ¬ Initializes rt o registry

/-- What holds when gateway thread `i` stands at a point of the closure. -/
def PhaseAt (i : ℕ) : GatewayPhase → Prop
  | .building => True
  | .initializing => Reached rt o
  | .reporting result => s.initialized = some result
  | .starting => s.initialized = some (.ok ())
  | .serving => s.initialized = some (.ok ()) ∧ .gateway i ∈ s.began
  | .ending => i = 0 → BeganOrFailed rt o registry s

/-- What holds of gateway thread `i`. -/
def ThreadAt (i : ℕ) : GatewayThread → Prop
  | .notSpawned => True
  | .running initSender phase =>
    (initSender = true ↔ i = 0) ∧ (initSender = true → o.spawn 0 = .ok ()) ∧
      (initSender = false → s.initialized = some (.ok ())) ∧ PhaseAt rt o registry s i phase
  | .terminated => i = 0 → BeganOrFailed rt o registry s

/-- The invariant of a run of `execute`. -/
structure Inv : Prop where
  store : s.registry.map (·.hasConfigStore) = registry.map (·.hasConfigStore)
  result : ∀ r, s.initialized = some r → r = (initializeCpexRuntime o.env o.answer registry).2
  queue : ∀ r ∈ s.queue, s.initialized = some r
  reached : s.initialized ≠ none → Reached rt o
  began : s.began ≠ [] → s.initialized = some (.ok ())
  main : MainAt rt o registry s s.main
  threads : ∀ i, ThreadAt rt o registry s i (s.threads i)

end

/-- What `initialize_cpex_runtime` returns depends on the registry only through its store. -/
theorem initializeCpexRuntime_snd {env : CpexEnv Value Manager} {answer : StoreAnswer}
    {a b : Option (CpexRuntimeRegistry Manager)}
    (h : a.map (·.hasConfigStore) = b.map (·.hasConfigStore)) :
    (initializeCpexRuntime env answer a).2 = (initializeCpexRuntime env answer b).2 := by
  cases a with
  | none =>
    cases b with
    | none => rfl
    | some b => cases h
  | some a =>
    cases b with
    | none => cases h
    | some b =>
      have hab : a.hasConfigStore = b.hasConfigStore := by simpa using h
      simp only [initializeCpexRuntime, CpexRuntimeRegistry.initializeRegistry_snd, hab]

theorem initializeCpexRuntime_store (env : CpexEnv Value Manager) (answer : StoreAnswer)
    (registry : Option (CpexRuntimeRegistry Manager)) :
    (initializeCpexRuntime env answer registry).1.map (·.hasConfigStore) =
      registry.map (·.hasConfigStore) := by
  cases registry with
  | none => rfl
  | some registry => exact congrArg some (registry.step_hasConfigStore env (.init answer))

section

variable {rt : Runtime} {o : Outcomes Value Manager}
  {registry : Option (CpexRuntimeRegistry Manager)} {s s' : Launch Value Manager}

/-! What one thread does leaves the assertions of the others as they are. -/

/-- The history has only grown. -/
structure Extends (s s' : Launch Value Manager) : Prop where
  initialized : ∀ r, s.initialized = some r → s'.initialized = some r
  began : ∀ thread ∈ s.began, thread ∈ s'.began

omit [Inhabited Manager] in
theorem Extends.of_eq (hi : s'.initialized = s.initialized) (hb : s'.began = s.began) :
    Extends s s' :=
  ⟨fun _ hr => hi.trans hr, fun _ ht => hb ▸ ht⟩

theorem BeganOrFailed.extends (h : BeganOrFailed rt o registry s) (he : Extends s s') :
    BeganOrFailed rt o registry s' := by
  refine h.imp_left fun hb => ?_
  obtain ⟨thread, hthread⟩ := List.exists_mem_of_ne_nil _ hb
  exact List.ne_nil_of_mem (he.began thread hthread)

theorem ThreadAt.extends {i : ℕ} {thread : GatewayThread} (h : ThreadAt rt o registry s i thread)
    (he : Extends s s') : ThreadAt rt o registry s' i thread := by
  cases thread with
  | notSpawned => trivial
  | terminated => exact fun hi => (h hi).extends he
  | running initSender phase =>
    obtain ⟨howner, hspawn, hlate, hphase⟩ := h
    refine ⟨howner, hspawn, fun hb => he.initialized _ (hlate hb), ?_⟩
    cases phase with
    | building => trivial
    | initializing => exact hphase
    | reporting result => exact he.initialized _ hphase
    | starting => exact he.initialized _ hphase
    | serving => exact ⟨he.initialized _ hphase.1, he.began _ hphase.2⟩
    | ending => exact fun hi => (hphase hi).extends he

theorem Joining.extends {handles : List ℕ} (h : Joining rt o registry s handles)
    (he : Extends s s') (hspawned : ∀ i, s.threads i ≠ .notSpawned → s'.threads i ≠ .notSpawned) :
    Joining rt o registry s' handles :=
  ⟨he.initialized _ h.initialized, fun i hi => hspawned i (h.spawned i hi),
    h.first.imp_right fun hf => hf.extends he⟩

theorem MainAt.extends {phase : ExecutePhase} (h : MainAt rt o registry s phase)
    (he : Extends s s') (hspawned : ∀ i, s.threads i ≠ .notSpawned → s'.threads i ≠ .notSpawned)
    (hfirst : s.threads 0 = .notSpawned → s'.threads 0 = .notSpawned ∧ s'.senderAlive = s.senderAlive)
    (hwaiting : Waiting rt o registry s → Waiting rt o registry s') :
    MainAt rt o registry s' phase := by
  cases phase with
  | building => exact h
  | initializing => exact h
  | starting => exact he.initialized _ h
  | serving => exact ⟨he.initialized _ h.1, he.began _ h.2⟩
  | spawningFirst =>
    obtain ⟨hmulti, halive, hnot⟩ := h
    obtain ⟨hnot', halive'⟩ := hfirst hnot
    exact ⟨hmulti, halive'.trans halive, hnot'⟩
  | receiving => exact hwaiting h
  | spawning i handles => exact ⟨h.1, h.2.extends he hspawned⟩
  | joining handles => exact Joining.extends h he hspawned
  | returned result =>
    cases result with
    | ok _ => exact ⟨he.initialized _ h.1, h.2.extends he⟩
    | error e => exact h

/-- A step that touches neither the threads nor the channel keeps what holds at every point. -/
theorem MainAt.of_eq {phase : ExecutePhase} (h : MainAt rt o registry s phase) (he : Extends s s')
    (hthreads : s'.threads = s.threads) (hqueue : s'.queue = s.queue)
    (hsender : s'.senderAlive = s.senderAlive) : MainAt rt o registry s' phase := by
  apply h.extends he
  · intro i hi
    rw [hthreads]
    exact hi
  · intro h0
    rw [hthreads]
    exact ⟨h0, hsender⟩
  · rintro ⟨hspawned, hreport, hdropped⟩
    rw [← hthreads] at hspawned hreport hdropped
    rw [← hqueue] at hreport
    rw [← hsender] at hdropped
    exact ⟨hspawned, hreport, hdropped⟩

theorem Waiting.reported (h : Waiting rt o registry s) {thread : GatewayThread}
    (h0 : s.threads 0 = thread) (hthread : unreported thread = false) {b : Bool} :
    b = true ∨ s.queue ≠ [] ∨ ¬ Initializes rt o registry := by
  rcases h.report with hrep | hrep
  · rw [h0, hthread] at hrep
    cases hrep
  · exact Or.inr hrep

/-- The sender is dropped without a report only if there was a reason for it. -/
theorem Waiting.not_initializes (h : Waiting rt o registry s) (hqueue : s.queue = [])
    (hsender : s.senderAlive = false) : ¬ Initializes rt o registry := by
  rcases h.reported (h.dropped.1 hsender) rfl (b := false) with hfalse | hne | hfails
  · cases hfalse
  · exact absurd hqueue hne
  · exact hfails

/-- After the report of thread 0 there is this thread to join. -/
theorem Waiting.joining (h : Waiting rt o registry s) (hok : s.initialized = some (.ok ())) :
    Joining rt o registry s [0] where
  initialized := hok
  spawned i hi := by
    rw [List.mem_singleton.1 hi]
    exact h.spawned
  first := Or.inl List.mem_cons_self

/-- A further thread is spawned, and is to be joined. -/
theorem Joining.spawn {handles : List ℕ} (h : Joining rt o registry s handles) (i : ℕ)
    (initSender : Bool) (phase : GatewayPhase) :
    Joining rt o registry (s.setThread i (.running initSender phase)) (handles ++ [i]) where
  initialized := h.initialized
  spawned j hj := by
    by_cases hji : j = i
    · rw [hji, setThread_self]
      exact GatewayThread.noConfusion
    · have hjh : j ∈ handles := by
        rcases List.mem_append.1 hj with hj | hj
        · exact hj
        · exact absurd (List.mem_singleton.1 hj) hji
      rw [setThread_of_ne s hji]
      exact h.spawned j hjh
  first := h.first.imp_left (List.mem_append_left _)

/-- The first of the threads is joined when it is at its end. -/
theorem Joining.join {i : ℕ} {handles : List ℕ} (h : Joining rt o registry s (i :: handles))
    (hi : i = 0 → BeganOrFailed rt o registry s) : Joining rt o registry s handles where
  initialized := h.initialized
  spawned j hj := h.spawned j (List.mem_cons_of_mem _ hj)
  first := by
    rcases h.first with hfirst | hfirst
    · rcases List.mem_cons.1 hfirst with h0 | h0
      · exact Or.inr (hi h0.symm)
      · exact Or.inl h0
    · exact Or.inr hfirst

/-! ### One step -/

theorem Inv.not_initializes (h : Inv rt o registry s) {e : String}
    (he : (initializeCpexRuntime o.env o.answer s.registry).2 = .error e) :
    ¬ Initializes rt o registry := by
  intro hi
  rw [initializeCpexRuntime_snd h.store, hi.2.2] at he
  cases he

theorem Inv.not_initializes_of_error (h : Inv rt o registry s) {e : String}
    (he : s.initialized = some (.error e)) : ¬ Initializes rt o registry := by
  intro hi
  cases (h.result _ he).trans hi.2.2

theorem not_initializes_of_build {e : String} (he : o.build 0 = .error e) :
    ¬ Initializes rt o registry := by
  intro hi
  cases he.symm.trans hi.2.1

/-- A second initialization returns what the first has returned. -/
theorem Inv.extends_initializeRuntime (h : Inv rt o registry s) :
    Extends s (s.initializeRuntime o) := by
  refine ⟨fun r hr => ?_, fun _ hb => hb⟩
  rw [h.result r hr, ← initializeCpexRuntime_snd h.store]
  rfl

theorem Inv.initializeRuntime (h : Inv rt o registry s) (hr : Reached rt o) :
    Inv rt o registry (s.initializeRuntime o) := by
  have he := h.extends_initializeRuntime
  exact {
    store := (initializeCpexRuntime_store _ _ _).trans h.store
    result := fun r hr => (Option.some.inj hr).symm.trans (initializeCpexRuntime_snd h.store)
    queue := fun r hr => he.initialized r (h.queue r hr)
    reached := fun _ => hr
    began := fun hb => he.initialized _ (h.began hb)
    main := h.main.of_eq he rfl rfl rfl
    threads := fun i => (h.threads i).extends he }

/-- `execute` goes on at another point; it may have taken a message or dropped the sender. -/
theorem Inv.setMain (h : Inv rt o registry s) {phase : ExecutePhase}
    {queue : List (Except String Unit)} {senderAlive : Bool} (hqueue : ∀ r ∈ queue, r ∈ s.queue)
    (hm : MainAt rt o registry { s with queue, senderAlive } phase) :
    Inv rt o registry { s with main := phase, queue, senderAlive } := by
  exact { h with
    queue := fun r hr => h.queue r (hqueue r hr)
    main := hm.of_eq (.of_eq rfl rfl) rfl rfl rfl
    threads := fun i => (h.threads i).extends (.of_eq rfl rfl) }

/-- `execute` spawns gateway thread `i`. -/
theorem Inv.spawn (h : Inv rt o registry s) {i : ℕ} {initSender : Bool}
    (howner : initSender = true ↔ i = 0) (hspawn : initSender = true → o.spawn 0 = .ok ())
    (hlate : initSender = false → s.initialized = some (.ok ())) {phase : ExecutePhase}
    (hm : MainAt rt o registry (s.setThread i (.running initSender .building)) phase) :
    Inv rt o registry { s.setThread i (.running initSender .building) with main := phase } := by
  refine { h with main := ?_, threads := fun j => ?_ }
  · exact hm.of_eq (.of_eq rfl rfl) rfl rfl rfl
  · by_cases hji : j = i
    · subst hji
      simp only [setThread_self]
      exact ⟨howner, hspawn, hlate, trivial⟩
    · simp only [setThread_of_ne s hji]
      exact (h.threads j).extends (.of_eq rfl rfl)

/-- A gateway thread that runs goes on at another point. -/
theorem Inv.setThread (h : Inv rt o registry s) {i : ℕ} {initSender : Bool}
    {phase phase' : GatewayPhase} (hi : s.threads i = .running initSender phase)
    (hphase : PhaseAt rt o registry s i phase')
    (hreport : i = 0 → Waiting rt o registry s →
      unreported (.running initSender phase') = true ∨ s.queue ≠ [] ∨ ¬ Initializes rt o registry) :
    Inv rt o registry (s.setThread i (.running initSender phase')) := by
  have he : Extends s (s.setThread i (.running initSender phase')) :=
    .of_eq rfl rfl
  have hat := h.threads i
  rw [hi] at hat
  refine { h with main := ?_, threads := fun j => ?_ }
  · apply h.main.extends he
    · intro j hj
      by_cases hji : j = i
      · rw [hji, setThread_self]
        exact GatewayThread.noConfusion
      · rw [setThread_of_ne s hji]
        exact hj
    · intro h0
      have hi0 : 0 ≠ i := by
        rintro rfl
        cases h0.symm.trans hi
      exact ⟨(setThread_of_ne s hi0 _).trans h0, rfl⟩
    · intro hw
      by_cases hi0 : 0 = i
      · subst hi0
        have halive : s.senderAlive ≠ false := fun hd => by cases (hw.dropped.1 hd).symm.trans hi
        refine ⟨?_, ?_, ?_⟩
        · rw [setThread_self]
          exact GatewayThread.noConfusion
        · rw [setThread_self]
          exact hreport rfl hw
        · rw [setThread_self]
          exact iff_of_false halive GatewayThread.noConfusion
      · refine ⟨?_, ?_, ?_⟩ <;> rw [setThread_of_ne s hi0]
        · exact hw.spawned
        · exact hw.report
        · exact hw.dropped
  · by_cases hji : j = i
    · subst hji
      rw [setThread_self]
      exact ThreadAt.extends ⟨hat.1, hat.2.1, hat.2.2.1, hphase⟩ he
    · rw [setThread_of_ne s hji]
      exact (h.threads j).extends he

/-- A thread sends what the initialization has returned. -/
theorem Inv.send (h : Inv rt o registry s) {r : Except String Unit} (hr : s.initialized = some r) :
    Inv rt o registry { s with queue := s.queue ++ [r] } := by
  have he : Extends s { s with queue := s.queue ++ [r] } := .of_eq rfl rfl
  refine { h with queue := fun r' hr' => ?_, main := ?_, threads := fun i => (h.threads i).extends he }
  · rcases List.mem_append.1 hr' with hr' | hr'
    · exact h.queue r' hr'
    · rw [List.mem_singleton.1 hr']
      exact hr
  · apply h.main.extends he (fun _ hi => hi) (fun h0 => ⟨h0, rfl⟩)
    intro hw
    exact ⟨hw.spawned, Or.inr (Or.inl (List.append_ne_nil_of_right_ne_nil _ (List.cons_ne_nil _ _))),
      hw.dropped⟩

/-- `run_gateway` begins on a thread. -/
theorem Inv.begin (h : Inv rt o registry s) (hi : s.initialized = some (.ok ()))
    (thread : LaunchThread) : Inv rt o registry { s with began := thread :: s.began } := by
  have he : Extends s { s with began := thread :: s.began } :=
    ⟨fun _ hr => hr, fun _ hb => List.mem_cons_of_mem _ hb⟩
  exact { h with
    began := fun _ => hi
    main := h.main.of_eq he rfl rfl rfl
    threads := fun i => (h.threads i).extends he }

/-- The closure is dropped at its end, and the sender in it. -/
theorem Inv.terminate (h : Inv rt o registry s) {i : ℕ} {initSender : Bool}
    (hi : s.threads i = .running initSender .ending) :
    Inv rt o registry { s.setThread i .terminated with
      senderAlive := s.senderAlive && !initSender } := by
  have hat := h.threads i
  rw [hi] at hat
  obtain ⟨howner, -, -, hended⟩ := hat
  have halive : 0 ≠ i → (s.senderAlive && !initSender) = s.senderAlive := by
    intro hi0
    have hb : initSender = false := by
      cases initSender with
      | true => exact absurd (howner.1 rfl).symm hi0
      | false => rfl
    simp only [hb, Bool.not_false, Bool.and_true]
  have he : Extends s { s.setThread i .terminated with
      senderAlive := s.senderAlive && !initSender } := .of_eq rfl rfl
  refine { h with main := ?_, threads := fun j => ?_ }
  · apply h.main.extends he
    · intro j hj
      by_cases hji : j = i
      · rw [hji]
        simp only [setThread_self]
        exact GatewayThread.noConfusion
      · simp only [setThread_of_ne s hji]
        exact hj
    · intro h0
      have hi0 : 0 ≠ i := by
        rintro rfl
        cases h0.symm.trans hi
      exact ⟨(setThread_of_ne s hi0 _).trans h0, halive hi0⟩
    · rintro ⟨hspawned, hrep, hdropped⟩
      by_cases hi0 : 0 = i
      · subst hi0
        have hb : initSender = true := howner.2 rfl
        refine ⟨?_, ?_, ?_⟩
        · simp only [setThread_self]
          exact GatewayThread.noConfusion
        · rcases hrep with hrep | hrep
          · rw [hi] at hrep
            cases hrep
          · exact Or.inr hrep
        · simp only [setThread_self, hb, Bool.not_true, Bool.and_false]
      · refine ⟨?_, ?_, ?_⟩ <;> simp only [setThread_of_ne s hi0, halive hi0]
        · exact hspawned
        · exact hrep
        · exact hdropped
  · by_cases hji : j = i
    · subst hji
      simp only [setThread_self]
      exact hended
    · simp only [setThread_of_ne s hji]
      exact (h.threads j).extends he

theorem gatewayStep_inv (h : Inv rt o registry s) {i : ℕ} (hs : s.gatewayStep o i = some s') :
    Inv rt o registry s' := by
  cases hi : s.threads i with
  | notSpawned => simp only [gatewayStep, hi] at hs; cases hs
  | terminated => simp only [gatewayStep, hi] at hs; cases hs
  | running initSender phase =>
    have hat := h.threads i
    rw [hi] at hat
    obtain ⟨howner, hspawn, hlate, hphase⟩ := hat
    cases phase with
    | building =>
      cases hb : o.build i with
      | ok _ =>
        simp only [gatewayStep, hi, hb, Option.some.injEq] at hs
        subst hs
        cases initSender with
        | true =>
          have hr : Reached rt o := ⟨fun _ => hspawn rfl, howner.1 rfl ▸ hb⟩
          exact h.setThread hi hr fun _ _ => Or.inl rfl
        | false =>
          -- only the sender's owner initializes, and the others are spawned after its report
          refine h.setThread hi (hlate rfl) fun hi0 _ => ?_
          cases howner.2 hi0
      | error e =>
        have hfails : i = 0 → ¬ Initializes rt o registry := by
          rintro rfl
          exact not_initializes_of_build hb
        simp only [gatewayStep, hi, hb, Option.some.injEq] at hs
        subst hs
        exact h.setThread hi (fun hi0 => Or.inr (hfails hi0)) fun hi0 _ => Or.inr (Or.inr (hfails hi0))
    | initializing =>
      simp only [gatewayStep, hi, Option.some.injEq] at hs
      subst hs
      exact (h.initializeRuntime hphase).setThread hi rfl fun _ _ => Or.inl rfl
    | reporting result =>
      have hsent : s.queue ++ [result] ≠ [] :=
        List.append_ne_nil_of_right_ne_nil _ (List.cons_ne_nil _ _)
      cases result with
      | ok _ =>
        simp only [gatewayStep, hi, Option.some.injEq] at hs
        subst hs
        exact (h.send hphase).setThread hi hphase fun _ _ => Or.inr (Or.inl hsent)
      | error e =>
        have hfails := h.not_initializes_of_error hphase
        simp only [gatewayStep, hi, Option.some.injEq] at hs
        subst hs
        exact (h.send hphase).setThread hi (fun _ => Or.inr hfails) fun _ _ => Or.inr (Or.inl hsent)
    | starting =>
      simp only [gatewayStep, hi, Option.some.injEq] at hs
      subst hs
      refine (h.begin hphase (.gateway i)).setThread hi ⟨hphase, List.mem_cons_self⟩ ?_
      rintro rfl hw
      exact hw.reported hi rfl
    | serving =>
      simp only [gatewayStep, hi, Option.some.injEq] at hs
      subst hs
      refine h.setThread hi (fun _ => Or.inl (List.ne_nil_of_mem hphase.2)) ?_
      rintro rfl hw
      exact hw.reported hi rfl
    | ending =>
      simp only [gatewayStep, hi, Option.some.injEq] at hs
      subst hs
      exact h.terminate hi

theorem executeStep_inv (h : Inv rt o registry s) (hs : s.executeStep rt o = some s') :
    Inv rt o registry s' := by
  have hat := h.main
  have hqueue : ∀ r ∈ s.queue, r ∈ s.queue := fun _ hr => hr
  cases hm : s.main with
  | building =>
    rw [hm] at hat
    cases hb : o.build 0 with
    | ok _ =>
      have hr : Reached rt o := ⟨fun hmulti => Bool.noConfusion (hat.symm.trans hmulti), hb⟩
      simp only [executeStep, hm, hb, Option.some.injEq] at hs
      subst hs
      exact h.setMain hqueue hr
    | error e =>
      simp only [executeStep, hm, hb, Option.some.injEq] at hs
      subst hs
      exact h.setMain hqueue (not_initializes_of_build hb)
  | initializing =>
    rw [hm] at hat
    cases hr : (initializeCpexRuntime o.env o.answer s.registry).2 with
    | ok _ =>
      simp only [executeStep, hm, hr, Option.some.injEq] at hs
      subst hs
      exact (h.initializeRuntime hat).setMain hqueue (congrArg some hr)
    | error e =>
      simp only [executeStep, hm, hr, Option.some.injEq] at hs
      subst hs
      exact (h.initializeRuntime hat).setMain hqueue (h.not_initializes hr)
  | starting =>
    rw [hm] at hat
    simp only [executeStep, hm, Option.some.injEq] at hs
    subst hs
    exact (h.begin hat .main).setMain hqueue ⟨hat, List.mem_cons_self⟩
  | serving =>
    rw [hm] at hat
    simp only [executeStep, hm, Option.some.injEq] at hs
    subst hs
    exact h.setMain hqueue ⟨hat.1, Or.inl (List.ne_nil_of_mem hat.2)⟩
  | spawningFirst =>
    rw [hm] at hat
    obtain ⟨hmulti, halive, hnot⟩ := hat
    cases hsp : o.spawn 0 with
    | ok _ =>
      simp only [executeStep, hm, hsp, Option.some.injEq] at hs
      subst hs
      apply h.spawn (iff_of_true rfl rfl) (fun _ => hsp) nofun
      refine ⟨?_, ?_, ?_⟩ <;> rw [setThread_self]
      · exact GatewayThread.noConfusion
      · exact Or.inl rfl
      · exact iff_of_false (fun hd => by cases hd.symm.trans halive) GatewayThread.noConfusion
    | error e =>
      have hfails : ¬ Initializes rt o registry := fun hi => by cases hsp.symm.trans (hi.1 hmulti)
      simp only [executeStep, hm, hsp, Option.some.injEq] at hs
      subst hs
      exact h.setMain hqueue hfails
  | receiving =>
    rw [hm] at hat
    cases hq : s.queue with
    | nil =>
      cases ha : s.senderAlive with
      | true =>
        simp only [executeStep, hm, hq, ha, if_true] at hs
        cases hs
      | false =>
        have hfails : ¬ Initializes rt o registry := hat.not_initializes hq ha
        simp only [executeStep, hm, hq, ha, Bool.false_eq_true, if_false, Option.some.injEq] at hs
        subst hs
        exact h.setMain (fun _ hr => absurd hr List.not_mem_nil) hfails
    | cons r queue =>
      have hr : s.initialized = some r := h.queue r (by rw [hq]; exact List.mem_cons_self)
      have htail : ∀ r' ∈ queue, r' ∈ s.queue := by
        intro r' hr'
        rw [hq]
        exact List.mem_cons_of_mem _ hr'
      cases r with
      | ok _ =>
        simp only [executeStep, hm, hq, Option.some.injEq] at hs
        subst hs
        have hjoin : Joining rt o registry s [0] := hat.joining hr
        exact h.setMain htail ⟨Nat.zero_lt_one, hjoin.1, hjoin.2, hjoin.3⟩
      | error e =>
        simp only [executeStep, hm, hq, Option.some.injEq] at hs
        subst hs
        exact h.setMain htail (h.not_initializes_of_error hr)
  | spawning i handles =>
    rw [hm] at hat
    obtain ⟨hpos, hjoin⟩ := hat
    by_cases hlt : i < rt.numberOfThreads
    · cases hsp : o.spawn i with
      | ok _ =>
        simp only [executeStep, hm, hlt, if_true, hsp, Option.some.injEq] at hs
        subst hs
        apply h.spawn (iff_of_false Bool.false_ne_true (Nat.ne_of_gt hpos)) nofun fun _ => hjoin.initialized
        exact ⟨Nat.succ_pos i, hjoin.spawn i false .building⟩
      | error e =>
        simp only [executeStep, hm, hlt, if_true, hsp, Option.some.injEq] at hs
        subst hs
        exact h.setMain hqueue ⟨Nat.succ_pos i, hjoin.1, hjoin.2, hjoin.3⟩
    · simp only [executeStep, hm, hlt, if_false, Option.some.injEq] at hs
      subst hs
      exact h.setMain hqueue ⟨hjoin.1, hjoin.2, hjoin.3⟩
  | joining handles =>
    rw [hm] at hat
    cases handles with
    | nil =>
      have hbegan : BeganOrFailed rt o registry s :=
        hat.first.resolve_left (List.not_mem_nil)
      simp only [executeStep, hm, Option.some.injEq] at hs
      subst hs
      exact h.setMain hqueue ⟨hat.initialized, hbegan⟩
    | cons i handles =>
      cases hi : s.threads i with
      | notSpawned =>
        simp only [executeStep, hm, hi] at hs
        cases hs
      | running initSender phase =>
        simp only [executeStep, hm, hi] at hs
        cases hs
      | terminated =>
        have hat' := h.threads i
        rw [hi] at hat'
        simp only [executeStep, hm, hi, Option.some.injEq] at hs
        subst hs
        have hjoin : Joining rt o registry s handles := Joining.join hat hat'
        exact h.setMain hqueue ⟨hjoin.1, hjoin.2, hjoin.3⟩
  | returned r =>
    simp only [executeStep, hm] at hs
    cases hs

theorem step?_inv (h : Inv rt o registry s) {thread : LaunchThread}
    (hs : step? rt o s thread = some s') : Inv rt o registry s' := by
  cases thread with
  | main => exact executeStep_inv h hs
  | gateway i => exact gatewayStep_inv h hs

theorem next_inv (h : Inv rt o registry s) (e : Event Value Manager) :
    Inv rt o registry (next rt o s e) := by
  cases e with
  | step thread =>
    exact Runs.tryStep_invariant (fun _ _ _ h hs => step?_inv h hs) s thread h
  | tick env answer =>
    cases hr : s.registry with
    | none =>
      simp only [next, hr]
      exact h
    | some r =>
      by_cases hw : r.watcher.isSome = true
      · have hstore := r.step_hasConfigStore env (.tick answer)
        have he : Extends s { s with
            registry := some (r.tick env answer), found := (env, answer) :: s.found } :=
          .of_eq rfl rfl
        simp only [next, hr, hw, if_true]
        refine { h with store := ?_, main := ?_, threads := fun i => (h.threads i).extends he }
        · rw [← h.store, hr]
          exact congrArg some hstore
        · exact h.main.of_eq he rfl rfl rfl
      · simp only [next, hr, hw, Bool.false_eq_true, if_false]
        exact h

theorem start_inv (rt : Runtime) (o : Outcomes Value Manager)
    (registry : Option (CpexRuntimeRegistry Manager)) : Inv rt o registry (start rt registry) where
  store := rfl
  result := nofun
  queue := nofun
  reached := fun h => absurd rfl h
  began := fun h => absurd rfl h
  main := by
    unfold start
    cases hr : rt.singleRuntime with
    | true => exact hr
    | false => exact ⟨hr, rfl, rfl⟩
  threads := fun _ => trivial

theorem run_inv (rt : Runtime) (o : Outcomes Value Manager)
    (registry : Option (CpexRuntimeRegistry Manager)) (es : List (Event Value Manager)) :
    Inv rt o registry (Runs.run (next rt o) (start rt registry) es) :=
  Runs.run_invariant (I := Inv rt o registry) (fun _ e h => next_inv h e) (start_inv rt o registry) es

/-! ### Final states -/

theorem gatewayStep_eq_none {i : ℕ} (hs : s.gatewayStep o i = none) :
    s.threads i = .notSpawned ∨ s.threads i = .terminated := by
  cases hi : s.threads i with
  | notSpawned => exact Or.inl rfl
  | terminated => exact Or.inr rfl
  | running initSender phase =>
    cases phase with
    | building => cases hb : o.build i <;> simp only [gatewayStep, hi, hb] at hs <;> cases hs
    | initializing | reporting _ | starting | serving | ending =>
      simp only [gatewayStep, hi] at hs
      cases hs

/-- In a final state `execute` has returned: a thread that it waits for could take a step. -/
theorem Inv.final_returned (h : Inv rt o registry s) (hfinal : Final rt o s) :
    ∃ r, s.main = .returned r := by
  have hat := h.main
  have hmain : s.executeStep rt o = none := hfinal .main
  have hthread : ∀ i, s.threads i = .notSpawned ∨ s.threads i = .terminated :=
    fun i => gatewayStep_eq_none (hfinal (.gateway i))
  cases hm : s.main with
  | building => cases hb : o.build 0 <;> simp only [executeStep, hm, hb] at hmain <;> cases hmain
  | initializing =>
    cases hr : (initializeCpexRuntime o.env o.answer s.registry).2 <;>
      simp only [executeStep, hm, hr] at hmain <;> cases hmain
  | starting | serving =>
    simp only [executeStep, hm] at hmain
    cases hmain
  | spawningFirst =>
    cases hsp : o.spawn 0 <;> simp only [executeStep, hm, hsp] at hmain <;> cases hmain
  | receiving =>
    rw [hm] at hat
    have hdropped : s.senderAlive = false :=
      hat.dropped.2 ((hthread 0).resolve_left hat.spawned)
    cases hq : s.queue with
    | nil =>
      simp only [executeStep, hm, hq, hdropped, Bool.false_eq_true, if_false] at hmain
      cases hmain
    | cons r queue => cases r <;> simp only [executeStep, hm, hq] at hmain <;> cases hmain
  | spawning i handles =>
    by_cases hlt : i < rt.numberOfThreads
    · cases hsp : o.spawn i <;> simp only [executeStep, hm, hlt, if_true, hsp] at hmain <;>
        cases hmain
    · simp only [executeStep, hm, hlt, if_false] at hmain
      cases hmain
  | joining handles =>
    rw [hm] at hat
    cases handles with
    | nil =>
      simp only [executeStep, hm] at hmain
      cases hmain
    | cons i handles =>
      have hi : s.threads i = .terminated :=
        (hthread i).resolve_left (hat.spawned i List.mem_cons_self)
      simp only [executeStep, hm, hi] at hmain
      cases hmain
  | returned r => exact ⟨r, rfl⟩

theorem Inv.initializes_of_ok (h : Inv rt o registry s)
    (hok : s.initialized = some (.ok ())) : Initializes rt o registry := by
  have hr := h.reached (by rw [hok]; exact Option.some_ne_none _)
  exact ⟨hr.1, hr.2, (h.result _ hok).symm⟩

/-- In a final state `run_gateway` has begun and `execute` returned `Ok`, or neither. -/
theorem Inv.final_iff (h : Inv rt o registry s) (hfinal : Final rt o s) :
    (Initializes rt o registry → s.began ≠ [] ∧ s.main = .returned (.ok ())) ∧
      (¬ Initializes rt o registry → s.began = [] ∧ ∃ e, s.main = .returned (.error e)) := by
  have hat := h.main
  obtain ⟨r, hr⟩ := h.final_returned hfinal
  rw [hr] at hat
  cases r with
  | ok _ =>
    have hi := h.initializes_of_ok hat.1
    exact ⟨fun _ => ⟨hat.2.resolve_right fun hn => hn hi, hr⟩, fun hn => absurd hi hn⟩
  | error e =>
    have hnone : s.began = [] := by
      by_contra hb
      exact hat (h.initializes_of_ok (h.began hb))
    exact ⟨fun hi => absurd hi hat, fun _ => ⟨hnone, e, hr⟩⟩

/-! ### What tool calls read -/

/-- The published state is one that was loaded from the configuration store. -/
def Loaded (s : Launch Value Manager) : Prop :=
  ∀ r, s.registry = some r → r.hasConfigStore = true → s.initialized ≠ none →
    ∃ e ∈ s.found, r.runtime = RuntimeState.ofResult (CpexRuntimeRegistry.load e.1 e.2)

/-- Of the threads' steps only those that initialize touch the registry. -/
theorem step?_registry {thread : LaunchThread} (hs : step? rt o s thread = some s') :
    (s'.registry = s.registry ∧ s'.initialized = s.initialized ∧ s'.found = s.found) ∨
    (s'.registry = (s.initializeRuntime o).registry ∧
      s'.found = (s.initializeRuntime o).found) := by
  cases thread with
  | main =>
    simp only [step?, executeStep] at hs
    repeat' split at hs
    all_goals cases hs
    all_goals first | exact Or.inl ⟨rfl, rfl, rfl⟩ | exact Or.inr ⟨rfl, rfl⟩
  | gateway i =>
    simp only [step?, gatewayStep] at hs
    repeat' split at hs
    all_goals cases hs
    all_goals first | exact Or.inl ⟨rfl, rfl, rfl⟩ | exact Or.inr ⟨rfl, rfl⟩

theorem step?_loaded {thread : LaunchThread} (h : Loaded s)
    (hs : step? rt o s thread = some s') : Loaded s' := by
  intro r hr hstore hinit
  rcases step?_registry hs with ⟨hreg, hini, hfound⟩ | ⟨hreg, hfound⟩
  · rw [hfound]
    exact h r (hreg.symm.trans hr) hstore (hini ▸ hinit)
  · refine ⟨(o.env, o.answer), by rw [hfound]; exact List.mem_cons_self, ?_⟩
    cases hold : s.registry with
    | none =>
      rw [hreg, initializeRuntime, hold] at hr
      cases hr
    | some old =>
      rw [hreg, initializeRuntime, hold] at hr
      obtain rfl : old.step o.env (.init o.answer) = r := Option.some.inj hr
      have hp : old.publishes o.env (.init o.answer) =
          some (CpexRuntimeRegistry.load o.env o.answer) := by
        rw [old.step_hasConfigStore] at hstore
        exact if_pos hstore
      rw [CpexRuntimeRegistry.step_of_publishes_some hp]

theorem next_loaded (h : Loaded s) (e : Event Value Manager) : Loaded (next rt o s e) := by
  cases e with
  | step thread => exact Runs.tryStep_invariant (fun _ _ _ h hs => step?_loaded h hs) s thread h
  | tick env answer =>
    cases hr : s.registry with
    | none =>
      simp only [next, hr]
      exact h
    | some old =>
      by_cases hw : old.watcher.isSome = true
      · simp only [next, hr, hw, if_true]
        intro r hr' hstore hinit
        obtain rfl : old.step env (.tick answer) = r := Option.some.inj hr'
        rw [old.step_hasConfigStore] at hstore
        obtain ⟨e, he, hload⟩ := h old hr hstore hinit
        cases hp : old.publishes env (.tick answer) with
        | none =>
          rw [CpexRuntimeRegistry.step_of_publishes_none hp]
          exact ⟨e, List.mem_cons_of_mem _ he, hload⟩
        | some result =>
          rw [CpexRuntimeRegistry.step_of_publishes_some hp]
          rcases CpexRuntimeRegistry.publishes_cases hp with ⟨_, hop | hop, -⟩ |
            ⟨answer', last, hop, -, -, hl⟩ | ⟨hop, -⟩ | ⟨_, _, hop, -⟩
          · cases hop
          · cases hop
          · cases hop
            exact ⟨(env, answer), List.mem_cons_self, congrArg RuntimeState.ofResult hl.symm⟩
          · cases hop
          · cases hop
      · simp only [next, hr, hw, Bool.false_eq_true, if_false]
        exact h

theorem Inv.serving_began (h : Inv rt o registry s) {thread : LaunchThread}
    (hs : s.Serving thread) : thread ∈ s.began := by
  cases thread with
  | main =>
    have hat := h.main
    rw [hs] at hat
    exact hat.2
  | gateway i =>
    obtain ⟨initSender, hi⟩ := hs
    have hat := h.threads i
    rw [hi] at hat
    exact hat.2.2.2.2

end

theorem run_loaded (rt : Runtime) (o : Outcomes Value Manager)
    (registry : Option (CpexRuntimeRegistry Manager)) (es : List (Event Value Manager)) :
    Loaded (Runs.run (next rt o) (start rt registry) es) := by
  apply Runs.run_invariant (I := Loaded) fun _ e h => next_loaded h e
  intro r hr hstore hinit
  exact absurd rfl hinit

theorem initializes_congr {rt rt' : Runtime} {o : Outcomes Value Manager}
    {registry : Option (CpexRuntimeRegistry Manager)} (hspawn : o.spawn 0 = .ok ()) :
    Initializes rt o registry ↔ Initializes rt' o registry :=
  and_congr_left' (iff_of_true (fun _ => hspawn) fun _ => hspawn)

/-- **No serving before the plugins are initialized.** In every run of `execute`, in either mode: a
`run_gateway` has begun only if `initialize` has returned `Ok`; if the initialization does not
succeed none begins, and `execute` has returned an error in every final state; two runs with the same
outcomes end in the same way, whatever their modes; and where a gateway serves, a tool call reads a
state that was loaded from the configuration store. -/
theorem no_serving_before_initialization (rt : Runtime) (o : Outcomes Value Manager)
    (registry : CpexRuntimeRegistry Manager) (es : List (Event Value Manager)) :
    let s := Runs.run (next rt o) (start rt (some registry)) es
    (s.began ≠ [] → s.initialized = some (.ok ())) ∧
    (∀ thread, s.Serving thread → thread ∈ s.began) ∧
    (¬ Initializes rt o (some registry) → s.began = [] ∧
      (Final rt o s → ∃ e, s.main = .returned (.error e))) ∧
    (∀ rt' es', o.spawn 0 = .ok () →
      let s' := Runs.run (next rt' o) (start rt' (some registry)) es'
      Final rt o s → Final rt' o s' →
        ((∃ e, s.main = .returned (.error e)) ↔ ∃ e, s'.main = .returned (.error e)) ∧
        (s.began = [] ↔ s'.began = [])) ∧
    (∀ thread, s.Serving thread → registry.hasConfigStore = true → ∃ e ∈ s.found,
      s.current = some (RuntimeState.ofResult (CpexRuntimeRegistry.load e.1 e.2))) := by
  intro s
  have h : Inv rt o (some registry) s := run_inv rt o (some registry) es
  refine ⟨h.began, fun thread => h.serving_began, fun hn => ⟨?_, fun hf => ((h.final_iff hf).2 hn).2⟩,
    ?_, fun thread hs hstore => ?_⟩
  · by_contra hb
    exact hn (h.initializes_of_ok (h.began hb))
  · intro rt' es' hspawn s' hf hf'
    have h' : Inv rt' o (some registry) s' := run_inv rt' o (some registry) es'
    have hiff := h.final_iff hf
    have hiff' := h'.final_iff hf'
    by_cases hi : Initializes rt o (some registry)
    · obtain ⟨hb, hm⟩ := hiff.1 hi
      obtain ⟨hb', hm'⟩ := hiff'.1 ((initializes_congr hspawn).1 hi)
      rw [hm, hm']
      exact ⟨Iff.rfl, iff_of_false hb hb'⟩
    · obtain ⟨hb, hm⟩ := hiff.2 hi
      obtain ⟨hb', hm'⟩ := hiff'.2 (mt (initializes_congr hspawn).2 hi)
      exact ⟨iff_of_true hm hm', iff_of_true hb hb'⟩
  · have hok : s.initialized = some (.ok ()) := h.began (List.ne_nil_of_mem (h.serving_began hs))
    have hstore' := h.store
    cases hr : s.registry with
    | none =>
      rw [hr] at hstore'
      cases hstore'
    | some r =>
      rw [hr] at hstore'
      have hrs : r.hasConfigStore = true := (Option.some.inj hstore').trans hstore
      obtain ⟨e, he, hload⟩ := run_loaded rt o (some registry) es r hr hrs
        (by rw [hok]; exact Option.some_ne_none _)
      refine ⟨e, he, ?_⟩
      rw [current, hr, ← hload]
      rfl

end Launch

end ContextForge
