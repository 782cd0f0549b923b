import ContextForgeGateway.Gateway.SessionStore
import ContextForgeGateway.Lib.Runs

/-!
# Stored session mappings

Any number of `initialize` calls read the mapping of their session and write it back, and take the
atomic steps of the session store in any order; between them time passes, entries vanish and records
are deleted. Each call remembers what the store held for its session when it began (`held`), when it
last looked (`seen`) and when it returned (`left`).

A session that the store does not hold is written back with the empty mapping, so a call that has been
told so without the store having looked may overwrite what there is (`overwrites_of_blind`), and so may a
call that has looked before a mapping was written. `Inv` is what each call knows between its steps;
`initialize_keeps_mapping` concludes from it that apart from such steps, and from records that are deleted
while an `initialize` of their session is under way, every mapping is kept. Another mapping than the empty
one can come to a session without a record only from a copy that a cache has kept of a deleted one
(`along_upToDate`). `failedRead_not_kept` and `overtaken_not_kept` are runs with a blind read and with such a
copy.
-/

namespace ContextForge

namespace SessionKept

open Runs

variable {S Client : Type}

/-- Where an `initialize` that has been validated stands. -/
inductive InitializePhase
  | reading (op : SessionOp)
  | writing (op : SessionOp)
  | returned (result : Except ErrorData InitializeResult) (left : Option SessionMapping)

/-- The operation on the session store that is under way. -/
def InitializePhase.op : InitializePhase → Option SessionOp
  | reading op | writing op => some op
  | returned _ _ => none

/-- An `initialize` that has been validated; `connect` is what becomes of its connection attempts. -/
structure InitializeCall (Client : Type) where
  ctx : RequestContext
  connect : String → StreamableHttpClientTransportConfig → Option Client
  session : UserSession
  held : Option SessionMapping
  seen : Option SessionMapping
  phase : InitializePhase

/-- The store, and the `initialize` calls by number. -/
structure System (S Client : Type) where
  store : S
  calls : ℕ → Option (InitializeCall Client)

/-- What can happen next. -/
inductive Event (Client : Type)
  | init (i : ℕ) (ctx : RequestContext)
      (connect : String → StreamableHttpClientTransportConfig → Option Client)
  | step (i : ℕ) (ok : Bool)
  | happen (e : SessionStoreEvent)

/-- The session of an `initialize`; a call that is not valid has none, and returns its error without
having used the store. -/
def sessionOf (ctx : RequestContext) : Option UserSession :=
  match InitializeCallValidator.validate ctx with
  | .ok (_, downstreamSessionId) => some (UserSession.new "" downstreamSessionId.sessionId)
  | .error _ => none

variable (M : SessionStoreSteps S)

/-- What the call has seen of the store after a step: an operation without a mapping in hand looks for
one. -/
def InitializeCall.looks (call : InitializeCall Client) (store : S) (op : SessionOp) :
    Option SessionMapping :=
  if op.value = none then M.stored store call.session else call.seen

/-- The next step of an `initialize`. -/
def advanceInitialize (store : S) (ok : Bool) (call : InitializeCall Client) :
    S × InitializeCall Client :=
  match call.phase with
  | .reading op =>
    let (store', op') := M.advance store ok call.session op
    let call := { call with seen := call.looks M store op }
    match op' with
    | .getDone result =>
      match initializeConnect (fun _ => result) call.connect call.ctx with
      | .ok i => (store', { call with phase := .writing (.setStart i.sessionMapping) })
      | .error e => (store', { call with phase := .returned (.error e) (M.stored store' call.session) })
    | op' => (store', { call with phase := .reading op' })
  | .writing op =>
    let (store', op') := M.advance store ok call.session op
    let call := { call with seen := call.looks M store op }
    match op' with
    -- the outcome of the write is ignored
    | .setDone _ =>
      (store', { call with phase := .returned (.ok initializeResult) (M.stored store' call.session) })
    | op' => (store', { call with phase := .writing op' })
  | .returned _ _ => (store, call)

/-- The next state. -/
def next (σ : System S Client) : Event Client → System S Client
  | .init i ctx connect =>
    match σ.calls i, sessionOf ctx with
    | none, some session =>
      { σ with
        calls := Function.update σ.calls i
          (some ⟨ctx, connect, session, M.stored σ.store session, none, .reading .getStart⟩) }
    | _, _ => σ
  | .step i ok =>
    match σ.calls i with
    | none => σ
    | some call =>
      let (store, call') := advanceInitialize M σ.store ok call
      ⟨store, Function.update σ.calls i (some call')⟩
  | .happen e => { σ with store := M.happen σ.store e }

/-- Every `initialize` that has returned left the mapping of its session as it was. -/
def Kept (σ : System S Client) : Prop :=
  ∀ i call result left, σ.calls i = some call → call.phase = .returned result left →
    ∀ m, call.held = some m → left = some m

/-- An `initialize` of the session is under way. -/
def InFlight (σ : System S Client) (u : UserSession) : Prop :=
  ∃ i call, σ.calls i = some call ∧ call.session = u ∧ call.phase.op ≠ none

/-- Nobody deletes the record of a session while an `initialize` of it is under way. -/
def Undeleted (σ : System S Client) : Event Client → Prop
  | .happen e => ∀ u, InFlight σ u → M.stored σ.store u ≠ none → M.stored (M.happen σ.store e) u ≠ none
  | _ => True

/-- The step does not answer blindly for a session of which the store holds a mapping, other than the
empty one. -/
def Sighted (σ : System S Client) : Event Client → Prop
  | .step i ok => ∀ call op, σ.calls i = some call → call.phase.op = some op →
      M.blind σ.store ok call.session op = true →
      ∀ m, M.stored σ.store call.session = some m → m = default
  | _ => True

/-- A call that has seen no record does not write over another mapping that is there by now. -/
def UpToDate (σ : System S Client) : Event Client → Prop
  | .step i ok => ∀ call op v, σ.calls i = some call → call.phase.op = some op → call.seen = none →
      M.writes σ.store ok call.session op = some v →
      ∀ m, M.stored σ.store call.session = some m → m = v
  | _ => True

/-- A deletion leaves no copy of the record in the cache. -/
def LeavesNoCopy (σ : System S Client) : Event Client → Prop
  | .happen e => ∀ u, M.stored σ.store u ≠ none → M.stored (M.happen σ.store e) u = none →
      M.cached σ.store u = none
  | _ => True

/-! ### What a call knows -/

/-- The two copies of the mapping of a session agree, where there are two. -/
def Consistent (s : S) (u : UserSession) : Prop :=
  ∀ m m', M.cached s u = some m → M.stored s u = some m' → m = m'

/-- What a call may rely on that is about to write `v`: the record that it has seen is there and is `v`,
and if there is none, a copy can only be of `v`. -/
structure Stands (s : S) (u : UserSession) (seen : Option SessionMapping) (v : SessionMapping) :
    Prop where
  still : ∀ m, seen = some m → M.stored s u = some m ∧ m = v
  copied : M.stored s u = none → ∀ m, M.cached s u = some m → m = v

/-- What a call may rely on before the next step of its operation. -/
def Knows (s : S) (u : UserSession) (seen : Option SessionMapping) : SessionOp → Prop
  | .getMiss => M.stored s u = none → M.cached s u = none
  | .getFill m => M.stored s u = some m ∧ seen = some m
  | .getDone (.ok maybeSessionMapping) => Stands M s u seen (maybeSessionMapping.getD default)
  | .setStart v => Stands M s u seen v
  | .setFill v => M.stored s u = some v
  | .getStart | .getHit | .getDone (.error _) | .setDone _ => True

/-- What may become of a session while an `initialize` of it is under way: its record stays, a new copy is
a copy of it, and a new record agrees with the copy that there was. -/
structure Grows (s s' : S) (u : UserSession) : Prop where
  stored : ∀ m, M.stored s u = some m → M.stored s' u = some m
  cached : ∀ m, M.cached s' u = some m → M.cached s u = some m ∨ M.stored s u = some m
  written : M.stored s u = none → ∀ m v, M.cached s u = some m → M.stored s' u = some v → m = v

/-- The store holds what a call has found, as long as it has not returned, and then did when it
returned. -/
def HasKept (store : S) (call : InitializeCall Client) : Prop :=
  ∀ m, call.held = some m →
    match call.phase with
    | .returned _ left => left = some m
    | _ => M.stored store call.session = some m

/-- The invariant. -/
structure Inv (σ : System S Client) : Prop where
  consistent : ∀ u, Consistent M σ.store u
  knows : ∀ i call op, σ.calls i = some call → call.phase.op = some op →
    Knows M σ.store call.session call.seen op
  kept : ∀ i call, σ.calls i = some call → HasKept M σ.store call

variable {M}

section

variable {s s' : S} {u : UserSession} {seen : Option SessionMapping} {v : SessionMapping}

theorem Grows.stored_none (h : Grows M s s' u) (hnone : M.stored s' u = none) :
    M.stored s u = none := by
  cases hs : M.stored s u with
  | none => rfl
  | some m => cases hnone.symm.trans (h.stored m hs)

theorem Grows.consistent (h : Grows M s s' u) (hc : Consistent M s u) : Consistent M s' u := by
  intro m m' hm hm'
  rcases h.cached m hm with hm | hm
  · cases hs : M.stored s u with
    | none => exact h.written hs m m' hm hm'
    | some m'' =>
      obtain rfl : m' = m'' := Option.some.inj (hm'.symm.trans (h.stored m'' hs))
      exact hc m m' hm hs
  · cases (h.stored m hm).symm.trans hm'
    rfl

theorem Grows.stands (h : Grows M s s' u) (hv : Stands M s u seen v) : Stands M s' u seen v := by
  refine ⟨fun m hm => ⟨h.stored m (hv.still m hm).1, (hv.still m hm).2⟩, fun hnone m hm => ?_⟩
  have hnone' := h.stored_none hnone
  rcases h.cached m hm with hm | hm
  · exact hv.copied hnone' m hm
  · cases hnone'.symm.trans hm

theorem Grows.knows (h : Grows M s s' u) {op : SessionOp} (hk : Knows M s u seen op) :
    Knows M s' u seen op := by
  cases op with
  | getMiss =>
    intro hnone
    have hnone' := h.stored_none hnone
    cases hc : M.cached s' u with
    | none => rfl
    | some m =>
      rcases h.cached m hc with hm | hm
      · cases (hk hnone').symm.trans hm
      · cases hnone'.symm.trans hm
  | getFill m => exact ⟨h.stored m hk.1, hk.2⟩
  | getDone result =>
    cases result with
    | error e => trivial
    | ok maybeSessionMapping => exact h.stands hk
  | setStart v => exact h.stands hk
  | setFill v => exact h.stored v hk
  | getStart | getHit | setDone => trivial

/-- What a call relies on, the steps of all others leave as it is. -/
theorem Knows.grows (hM : M.Lawful) {ok : Bool} {op : SessionOp} (hk : Knows M s u seen op)
    (hwrites : seen = none → ∀ v, M.writes s ok u op = some v →
      ∀ m, M.stored s u = some m → m = v) (w : UserSession) :
    Grows M s (M.advance s ok u op).1 w := by
  have hcached : ∀ m, M.cached (M.advance s ok u op).1 w = some m →
      M.cached s w = some m ∨ M.stored s w = some m := by
    intro m hm
    rcases hM.cached_of hm with hm | ⟨rfl, rfl | rfl⟩
    · exact Or.inl hm
    · exact Or.inr hk.1
    · exact Or.inr hk
  by_cases hw : w = u
  · subst hw
    cases hv : M.writes s ok w op with
    | none =>
      have heq : M.stored (M.advance s ok w op).1 w = M.stored s w := by
        rw [hM.stored_eq, if_pos rfl, hv, Option.none_or]
      exact ⟨fun m hm => heq.trans hm, hcached, fun hnone m v _ hm =>
        nomatch hnone.symm.trans (heq.symm.trans hm)⟩
    | some v =>
      obtain rfl := hM.op_of_writes hv
      have heq : M.stored (M.advance s ok w (.setStart v)).1 w = some v := by
        rw [hM.stored_eq, if_pos rfl, hv, Option.some_or]
      refine ⟨fun m hm => ?_, hcached, fun hnone m v' hm hv' => ?_⟩
      · rw [heq]
        cases hseen : seen with
        | none => rw [hwrites hseen v hv m hm]
        | some m' =>
          obtain ⟨hstored, rfl⟩ := hk.still m' hseen
          exact hstored.symm.trans hm
      · cases heq.symm.trans hv'
        exact hk.copied hnone m hm
  · have heq : M.stored (M.advance s ok u op).1 w = M.stored s w := by
      rw [hM.stored_eq, if_neg hw]
    exact ⟨fun m hm => heq.trans hm, hcached, fun hnone m v _ hm =>
      nomatch hnone.symm.trans (heq.symm.trans hm)⟩

/-- What a call may rely on after its step. -/
theorem Knows.advance (hM : M.Lawful) {ok : Bool} {op : SessionOp} (hk : Knows M s u seen op)
    (hc : Consistent M s u)
    (hblind : M.blind s ok u op = true → ∀ m, M.stored s u = some m → m = default)
    (hg : Grows M s (M.advance s ok u op).1 u) :
    Knows M (M.advance s ok u op).1 u (if op.value = none then M.stored s u else seen)
      (M.advance s ok u op).2 := by
  have hmissed : M.Missed s u op → M.stored s u = none → M.cached s u = none := by
    rintro (rfl | hcached) hnone
    · exact hk hnone
    · exact hcached
  have hstored := hM.stored_eq s ok u op u
  have hf := hM.follows s ok u op
  generalize (M.advance s ok u op).2 = op' at hf ⊢
  cases hf with
  | stay =>
    apply hg.knows
    cases op with
    | getStart | getHit | setDone => trivial
    | getMiss => exact hk
    | getFill | setStart | setFill => exact hk
    | getDone result =>
      cases result with
      | error e => trivial
      | ok maybeSessionMapping => exact hk
  | hit => trivial
  | miss hcached =>
    have hknows : Knows M s u (M.stored s u) .getMiss := fun _ => hcached
    exact hg.knows hknows
  | @found m hm =>
    have hknows : Knows M s u (M.stored s u) (.getFill m) := ⟨hm, hm⟩
    exact hg.knows hknows
  | filled =>
    refine hg.stands ⟨fun m hm => ?_, fun hnone => ?_⟩
    · cases hk.2.symm.trans hm
      exact ⟨hk.1, rfl⟩
    · cases hnone.symm.trans hk.1
  | fromCache hm =>
    refine hg.stands ⟨fun m hm' => ⟨hm', (hc _ m hm hm').symm⟩, fun _ m hm' => ?_⟩
    cases hm.symm.trans hm'
    rfl
  | fromStore hop hmiss hr =>
    rw [if_pos hop, hr]
    refine hg.stands ⟨fun m hm => ⟨hm, by rw [hm]; rfl⟩, fun hnone m hm => ?_⟩
    cases (hmissed hmiss hnone).symm.trans hm
  | blind hop hmiss hb =>
    rw [if_pos hop]
    refine hg.stands ⟨fun m hm => ⟨hm, hblind hb m hm⟩, fun hnone m hm => ?_⟩
    cases (hmissed hmiss hnone).symm.trans hm
  | getFailed => trivial
  | written hw => exact hstored.trans (by rw [if_pos rfl, hw, Option.some_or])
  | setDone => trivial

end

/-! ### One step -/

/-- What the next step of an `initialize` does: one step of its operation on the store. -/
structure Advanced (s : S) (ok : Bool) (call : InitializeCall Client) (op : SessionOp)
    (r : S × InitializeCall Client) : Prop where
  store : r.1 = (M.advance s ok call.session op).1
  session : r.2.session = call.session
  held : r.2.held = call.held
  seen : r.2.seen = if op.value = none then M.stored s call.session else call.seen
  op : ∀ op', r.2.phase.op = some op' → op' = (M.advance s ok call.session op).2 ∨
    ∃ maybeSessionMapping, (M.advance s ok call.session op).2 = .getDone (.ok maybeSessionMapping) ∧
      op' = .setStart (maybeSessionMapping.getD default)
  left : ∀ result left, r.2.phase = .returned result left → left = M.stored r.1 call.session

theorem advanceInitialize_spec {s : S} {ok : Bool} {call : InitializeCall Client} {op : SessionOp}
    (hop : call.phase.op = some op) :
    Advanced (M := M) s ok call op (advanceInitialize M s ok call) := by
  obtain ⟨ctx, connect, session, held, seen, phase⟩ := call
  cases phase with
  | returned result left => cases hop
  | reading op₀ =>
    cases hop
    cases hadv : M.advance s ok session op with
    | mk s' op' =>
      cases op' with
      | getDone result =>
        cases hi : initializeConnect (fun _ => result) connect ctx with
        | error e =>
          simp only [advanceInitialize, hadv, hi]
          exact ⟨by rw [hadv], rfl, rfl, rfl, nofun, fun _ _ h => by cases h; rfl⟩
        | ok i =>
          obtain ⟨-, ⟨maybeSessionMapping, rfl, hm⟩, -⟩ := initializeConnect_eq_ok hi
          simp only [advanceInitialize, hadv, hi]
          refine ⟨by rw [hadv], rfl, rfl, rfl, fun op' h => ?_, fun _ _ h => by cases h⟩
          cases h
          rw [hadv, hm]
          exact Or.inr ⟨maybeSessionMapping, rfl, rfl⟩
      | getStart | getHit | getMiss | getFill | setStart | setFill | setDone =>
        simp only [advanceInitialize, hadv]
        refine ⟨by rw [hadv], rfl, rfl, rfl, fun op' h => ?_, fun _ _ h => by cases h⟩
        cases h
        exact Or.inl (by rw [hadv])
  | writing op₀ =>
    cases hop
    cases hadv : M.advance s ok session op with
    | mk s' op' =>
      cases op' with
      | setDone result =>
        simp only [advanceInitialize, hadv]
        exact ⟨by rw [hadv], rfl, rfl, rfl, nofun, fun _ _ h => by cases h; rfl⟩
      | getStart | getHit | getMiss | getFill | getDone | setStart | setFill =>
        simp only [advanceInitialize, hadv]
        refine ⟨by rw [hadv], rfl, rfl, rfl, fun op' h => ?_, fun _ _ h => by cases h⟩
        cases h
        exact Or.inl (by rw [hadv])

theorem advanceInitialize_returned {s : S} {ok : Bool} {call : InitializeCall Client}
    (hop : call.phase.op = none) : advanceInitialize M s ok call = (s, call) := by
  obtain ⟨ctx, connect, session, held, seen, phase⟩ := call
  cases phase with
  | returned result left => rfl
  | reading op => cases hop
  | writing op => cases hop

variable {σ : System S Client} {i : ℕ} {ok : Bool}

/-- A step of a call that is under way, or nothing. -/
theorem next_step (σ : System S Client) (i : ℕ) (ok : Bool) : next M σ (.step i ok) = σ ∨
    ∃ call op call', σ.calls i = some call ∧ call.phase.op = some op ∧
      Advanced (M := M) σ.store ok call op ((M.advance σ.store ok call.session op).1, call') ∧
      next M σ (.step i ok) =
        ⟨(M.advance σ.store ok call.session op).1, Function.update σ.calls i (some call')⟩ := by
  cases hi : σ.calls i with
  | none => exact Or.inl (by simp only [next, hi])
  | some call =>
    cases hop : call.phase.op with
    | none =>
      refine Or.inl ?_
      simp only [next, hi, advanceInitialize_returned hop]
      rw [← hi, Function.update_eq_self]
    | some op =>
      have hspec : Advanced (M := M) σ.store ok call op (advanceInitialize M σ.store ok call) :=
        advanceInitialize_spec hop
      refine Or.inr ⟨call, op, (advanceInitialize M σ.store ok call).2, rfl, hop, ?_, ?_⟩
      · rw [← hspec.store]
        exact hspec
      · simp only [next, hi]
        rw [← hspec.store]

theorem eq_or_of_update {calls : ℕ → Option (InitializeCall Client)} {i j : ℕ}
    {call' call'' : InitializeCall Client}
    (hj : Function.update calls i (some call') j = some call'') :
    j = i ∧ call'' = call' ∨ calls j = some call'' := by
  by_cases hji : j = i
  · subst hji
    rw [Function.update_self] at hj
    exact Or.inl ⟨rfl, (Option.some.inj hj).symm⟩
  · rw [Function.update_of_ne hji] at hj
    exact Or.inr hj

theorem HasKept.of_op {s : S} {call : InitializeCall Client} {op : SessionOp}
    (hop : call.phase.op = some op) :
    HasKept M s call ↔ ∀ m, call.held = some m → M.stored s call.session = some m := by
  obtain ⟨ctx, connect, session, held, seen, phase⟩ := call
  cases phase with
  | returned result left => cases hop
  | reading op => exact Iff.rfl
  | writing op => exact Iff.rfl

theorem HasKept.of_returned {s s' : S} {call : InitializeCall Client}
    (hop : call.phase.op = none) (h : HasKept M s call) : HasKept M s' call := by
  obtain ⟨ctx, connect, session, held, seen, phase⟩ := call
  cases phase with
  | returned result left => exact h
  | reading op => cases hop
  | writing op => cases hop

theorem HasKept.grows {s s' : S} {call : InitializeCall Client} (h : HasKept M s call)
    (hg : call.phase.op ≠ none → Grows M s s' call.session) : HasKept M s' call := by
  cases hop : call.phase.op with
  | none => exact h.of_returned hop
  | some op =>
    have hg := hg (by rw [hop]; exact Option.some_ne_none op)
    exact (HasKept.of_op hop).2 fun m hm => hg.stored m ((HasKept.of_op hop).1 h m hm)

/-- What a step does to the sessions, if it writes over nothing that the call has not seen. -/
theorem Inv.grows (hM : M.Lawful) {call : InitializeCall Client} {op : SessionOp} (h : Inv M σ)
    (hi : σ.calls i = some call) (hop : call.phase.op = some op)
    (hu : UpToDate M σ (.step i ok)) (w : UserSession) :
    Grows M σ.store (M.advance σ.store ok call.session op).1 w :=
  (h.knows i call op hi hop).grows hM (fun hseen v hv => hu call op v hi hop hseen hv) w

theorem Inv.step (hM : M.Lawful) (h : Inv M σ) (hs : Sighted M σ (.step i ok))
    (hu : UpToDate M σ (.step i ok)) : Inv M (next M σ (.step i ok)) := by
  rcases next_step (M := M) σ i ok with hnext | ⟨call, op, call', hi, hop, hspec, hnext⟩
  · rw [hnext]
    exact h
  · have hg := h.grows hM hi hop hu
    rw [hnext]
    refine ⟨fun u => (hg u).consistent (h.consistent u), fun j call'' op' hj hop' => ?_,
      fun j call'' hj => ?_⟩
    · rcases eq_or_of_update hj with ⟨rfl, rfl⟩ | hj
      · have hk := (h.knows j call op hi hop).advance hM (h.consistent call.session)
          (hs call op hi hop) (hg call.session)
        rw [hspec.session, hspec.seen]
        rcases hspec.op op' hop' with rfl | ⟨maybeSessionMapping, hdone, rfl⟩
        · exact hk
        · rw [hdone] at hk
          exact hk
      · exact (hg call''.session).knows (h.knows j call'' op' hj hop')
    · rcases eq_or_of_update hj with ⟨rfl, rfl⟩ | hj
      · intro m hm
        have hstored := (hg call.session).stored m
          ((HasKept.of_op hop).1 (h.kept j call hi) m (hspec.held.symm.trans hm))
        cases hp : call''.phase with
        | returned result left => exact (hspec.left result left hp).trans hstored
        | reading op' | writing op' => rw [hspec.session]; exact hstored
      · exact (h.kept j call'' hj).grows fun _ => hg call''.session

theorem next_init (σ : System S Client) (i : ℕ) (ctx : RequestContext)
    (connect : String → StreamableHttpClientTransportConfig → Option Client) :
    next M σ (.init i ctx connect) = σ ∨
      ∃ session, next M σ (.init i ctx connect) = ⟨σ.store, Function.update σ.calls i
        (some ⟨ctx, connect, session, M.stored σ.store session, none, .reading .getStart⟩)⟩ := by
  cases hi : σ.calls i with
  | some call => exact Or.inl (by simp only [next, hi])
  | none =>
    cases hsession : sessionOf ctx with
    | none => exact Or.inl (by simp only [next, hi, hsession])
    | some session => exact Or.inr ⟨session, by simp only [next, hi, hsession]⟩

theorem Inv.init (h : Inv M σ) (i : ℕ) (ctx : RequestContext)
    (connect : String → StreamableHttpClientTransportConfig → Option Client) :
    Inv M (next M σ (.init i ctx connect)) := by
  rcases next_init (M := M) σ i ctx connect with hnext | ⟨session, hnext⟩
  · rw [hnext]
    exact h
  · rw [hnext]
    refine ⟨h.consistent, fun j call op hj hop => ?_, fun j call hj => ?_⟩
    · rcases eq_or_of_update hj with ⟨rfl, rfl⟩ | hj
      · cases hop
        trivial
      · exact h.knows j call op hj hop
    · rcases eq_or_of_update hj with ⟨rfl, rfl⟩ | hj
      · exact fun m hm => hm
      · exact h.kept j call hj

theorem Inv.happen (hM : M.Lawful) {e : SessionStoreEvent} (h : Inv M σ)
    (hd : Undeleted M σ (.happen e)) : Inv M (next M σ (.happen e)) := by
  have hg : ∀ u, InFlight σ u → Grows M σ.store (M.happen σ.store e) u := by
    intro u hu
    refine ⟨fun m hm => ?_, fun m hm => Or.inl (hM.happen_cached hm), fun hnone m v _ hv => ?_⟩
    · obtain ⟨m', hm'⟩ := Option.ne_none_iff_exists'.1
        (hd u hu (by rw [hm]; exact Option.some_ne_none m))
      cases hm.symm.trans (hM.happen_stored hm')
      exact hm'
    · cases hnone.symm.trans (hM.happen_stored hv)
  refine ⟨fun u m m' hm hm' => ?_, fun i call op hi hop => ?_, fun i call hi => ?_⟩
  · exact h.consistent u m m' (hM.happen_cached hm) (hM.happen_stored hm')
  · have hflight : InFlight σ call.session :=
      ⟨i, call, hi, rfl, by rw [hop]; exact Option.some_ne_none op⟩
    exact (hg _ hflight).knows (h.knows i call op hi hop)
  · exact (h.kept i call hi).grows fun hop => hg _ ⟨i, call, hi, rfl, hop⟩

/-! ### Runs -/

theorem Inv.kept_all (h : Inv M σ) : Kept σ := by
  intro i call result left hi hp m hm
  have hkept := h.kept i call hi m hm
  rw [hp] at hkept
  exact hkept

/-- Nobody has begun, and the copies agree where there are two. -/
theorem Inv.of_consistent {s : S} (h : ∀ u, Consistent M s u) :
    Inv M (⟨s, fun _ => none⟩ : System S Client) :=
  ⟨h, fun _ _ _ hi => (nomatch hi), fun _ _ hi => (nomatch hi)⟩

/-- Every mapping is kept in every run in which no record is deleted under an `initialize`, no step reads
blindly, and no call writes over what it has not seen. -/
theorem kept_of_upToDate (hM : M.Lawful) {s : S} (h : ∀ u, Consistent M s u)
    {es : List (Event Client)}
    (hes : Along (next M) (fun σ e => Undeleted M σ e ∧ Sighted M σ e ∧ UpToDate M σ e)
      ⟨s, fun _ => none⟩ es) :
    Kept (run (next M) ⟨s, fun _ => none⟩ es) := by
  apply Inv.kept_all (M := M)
  apply along_invariant ?_ (Inv.of_consistent h) hes
  rintro σ e hinv ⟨hd, hs, hu⟩
  cases e with
  | init i ctx connect => exact hinv.init i ctx connect
  | step i ok => exact hinv.step hM hs hu
  | happen e => exact hinv.happen hM hd

/-! ### A cache without stale copies -/

/-- The cache has only what is stored, and who has seen no record knows of none but the empty mapping. -/
structure Backed (M : SessionStoreSteps S) (σ : System S Client) : Prop where
  cached : ∀ u m, M.cached σ.store u = some m → M.stored σ.store u = some m
  unseen : ∀ i call op v, σ.calls i = some call → call.phase.op = some op → op.value = some v →
    call.seen = none → v = default ∧ ∀ m, M.stored σ.store call.session = some m → m = default

theorem Backed.upToDate (hM : M.Lawful) (h : Backed M σ) (e : Event Client) : UpToDate M σ e := by
  cases e with
  | step i ok =>
    intro call op v hi hop hseen hv m hm
    obtain rfl := hM.op_of_writes hv
    obtain ⟨rfl, hdefault⟩ := h.unseen i call _ v hi hop rfl hseen
    exact hdefault m hm
  | init | happen => trivial

/-- A session without another mapping than the empty one stays so. -/
theorem Backed.default_advance (hM : M.Lawful) (hinv : Inv M σ) (h : Backed M σ)
    {call : InitializeCall Client} {op : SessionOp} (hi : σ.calls i = some call)
    (hop : call.phase.op = some op) {u : UserSession}
    (hu : ∀ m, M.stored σ.store u = some m → m = default) :
    ∀ m, M.stored (M.advance σ.store ok call.session op).1 u = some m → m = default := by
  intro m hm
  rw [hM.stored_eq] at hm
  split at hm
  · next hsession =>
    subst hsession
    cases hv : M.writes σ.store ok call.session op with
    | none =>
      rw [hv, Option.none_or] at hm
      exact hu m hm
    | some v =>
      rw [hv, Option.some_or] at hm
      cases hm
      obtain rfl := hM.op_of_writes hv
      cases hseen : call.seen with
      | none => exact (h.unseen i call _ m hi hop rfl hseen).1
      | some m' =>
        obtain ⟨hstored, rfl⟩ := (hinv.knows i call _ hi hop).still m' hseen
        exact hu m' hstored
  · exact hu m hm

/-- Who has looked and seen no record has nothing but the empty mapping in hand. -/
theorem Backed.unseen_advance (hM : M.Lawful) (h : Backed M σ)
    {call : InitializeCall Client} {op : SessionOp} (hi : σ.calls i = some call)
    (hop : call.phase.op = some op) {v : SessionMapping}
    (hv : (M.advance σ.store ok call.session op).2.value = some v)
    (hseen : (if op.value = none then M.stored σ.store call.session else call.seen) = none) :
    v = default ∧ ∀ m, M.stored σ.store call.session = some m → m = default := by
  have hf := hM.follows σ.store ok call.session op
  cases hvalue : op.value with
  | some v' =>
    rw [hvalue, if_neg (Option.some_ne_none v')] at hseen
    have hv' : v = v' := by
      generalize (M.advance σ.store ok call.session op).2 = op' at hf hv
      cases hf with
      | stay | filled | written => exact Option.some.inj (hv.symm.trans hvalue)
      | hit | miss | found | fromCache => cases hvalue
      | fromStore hnone | blind hnone => cases hvalue.symm.trans hnone
      | getFailed | setDone => cases hv
    rw [hv']
    exact h.unseen i call op v' hi hop hvalue hseen
  | none =>
    rw [hvalue, if_pos rfl] at hseen
    refine ⟨?_, fun m hm => nomatch hseen.symm.trans hm⟩
    generalize (M.advance σ.store ok call.session op).2 = op' at hf hv
    cases hf with
    | stay => cases hvalue.symm.trans hv
    | found hm => cases hseen.symm.trans hm
    | fromCache hm => cases hseen.symm.trans (h.cached _ _ hm)
    | fromStore _ _ hr =>
      cases hv
      rw [hr, hseen]
      rfl
    | blind =>
      cases hv
      rfl
    | filled | written => cases hvalue
    | hit | miss | getFailed | setDone => cases hv

theorem Backed.step (hM : M.Lawful) (hinv : Inv M σ) (h : Backed M σ) :
    Backed M (next M σ (.step i ok)) := by
  rcases next_step (M := M) σ i ok with hnext | ⟨call, op, call', hi, hop, hspec, hnext⟩
  · rw [hnext]
    exact h
  · have hg := hinv.grows hM hi hop (h.upToDate hM (.step i ok))
    rw [hnext]
    refine ⟨fun u m hm => ?_, fun j call'' op' v hj hop' hv hseen => ?_⟩
    · rcases (hg u).cached m hm with hm | hm
      · exact (hg u).stored m (h.cached u m hm)
      · exact (hg u).stored m hm
    · rcases eq_or_of_update hj with ⟨rfl, rfl⟩ | hj
      · -- the operation that comes next has the same mapping in hand as the step has given
        have hvalue : (M.advance σ.store ok call.session op).2.value = some v := by
          rcases hspec.op op' hop' with rfl | ⟨maybeSessionMapping, hdone, rfl⟩
          · exact hv
          · rw [hdone]
            exact hv
        rw [hspec.seen] at hseen
        rw [hspec.session]
        obtain ⟨hdefault, hstored⟩ := h.unseen_advance hM hi hop hvalue hseen
        exact ⟨hdefault, h.default_advance hM hinv hi hop hstored⟩
      · obtain ⟨hdefault, hstored⟩ := h.unseen j call'' op' v hj hop' hv hseen
        exact ⟨hdefault, h.default_advance hM hinv hi hop hstored⟩

theorem Backed.init (h : Backed M σ) (ctx : RequestContext)
    (connect : String → StreamableHttpClientTransportConfig → Option Client) :
    Backed M (next M σ (.init i ctx connect)) := by
  rcases next_init (M := M) σ i ctx connect with hnext | ⟨session, hnext⟩
  · rw [hnext]
    exact h
  · rw [hnext]
    refine ⟨h.cached, fun j call op v hj hop hv hseen => ?_⟩
    rcases eq_or_of_update hj with ⟨rfl, rfl⟩ | hj
    · cases hop
      cases hv
    · exact h.unseen j call op v hj hop hv hseen

theorem Backed.happen (hM : M.Lawful) {e : SessionStoreEvent} (h : Backed M σ)
    (hl : LeavesNoCopy M σ (.happen e)) : Backed M (next M σ (.happen e)) := by
  refine ⟨fun u m hm => ?_, fun i call op v hi hop hv hseen => ?_⟩
  · have hcached := hM.happen_cached hm
    have hstored := h.cached u m hcached
    cases hs : M.stored (M.happen σ.store e) u with
    | none =>
      have hnone := hl u (by rw [hstored]; exact Option.some_ne_none m) hs
      cases hnone.symm.trans hcached
    | some m' =>
      cases hstored.symm.trans (hM.happen_stored hs)
      exact hs
  · obtain ⟨hdefault, hstored⟩ := h.unseen i call op v hi hop hv hseen
    exact ⟨hdefault, fun m hm => hstored m (hM.happen_stored hm)⟩

theorem consistent_of_backed {s : S} (h : ∀ u m, M.cached s u = some m → M.stored s u = some m)
    (u : UserSession) : Consistent M s u := by
  intro m m' hm hm'
  cases (h u m hm).symm.trans hm'
  rfl

/-- No call writes over what it has not seen, unless a cache has kept a copy of a deleted record. -/
theorem along_upToDate (hM : M.Lawful) {s : S}
    (h : ∀ u m, M.cached s u = some m → M.stored s u = some m) {es : List (Event Client)}
    (hes : Along (next M) (fun σ e => Undeleted M σ e ∧ Sighted M σ e ∧ LeavesNoCopy M σ e)
      ⟨s, fun _ => none⟩ es) :
    Along (next M) (fun σ e => Undeleted M σ e ∧ Sighted M σ e ∧ UpToDate M σ e)
      ⟨s, fun _ => none⟩ es := by
  have hinit : Inv M (⟨s, fun _ => none⟩ : System S Client) ∧
      Backed M (⟨s, fun _ => none⟩ : System S Client) :=
    ⟨.of_consistent (consistent_of_backed h), h, fun _ _ _ _ hi => nomatch hi⟩
  apply along_of_invariant (I := fun σ => Inv M σ ∧ Backed M σ) ?_ hinit hes
  rintro σ e ⟨hinv, hbacked⟩ ⟨hd, hs, hl⟩
  have hu := hbacked.upToDate hM e
  refine ⟨⟨hd, hs, hu⟩, ?_⟩
  cases e with
  | init i ctx connect => exact ⟨hinv.init i ctx connect, hbacked.init ctx connect⟩
  | step i ok => exact ⟨hinv.step hM hs hu, hbacked.step hM hinv⟩
  | happen e => exact ⟨hinv.happen hM hd, hbacked.happen hM hl⟩

theorem kept_of_leavesNoCopy (hM : M.Lawful) {s : S}
    (h : ∀ u m, M.cached s u = some m → M.stored s u = some m) {es : List (Event Client)}
    (hes : Along (next M) (fun σ e => Undeleted M σ e ∧ Sighted M σ e ∧ LeavesNoCopy M σ e)
      ⟨s, fun _ => none⟩ es) :
    Kept (run (next M) ⟨s, fun _ => none⟩ es) :=
  kept_of_upToDate hM (consistent_of_backed h) (along_upToDate hM h hes)

/-- Over the local store no read is blind, and there is no cache in front of it. -/
theorem local_sighted (σ : System LocalUserSessionStore Client) (e : Event Client) :
    Sighted LocalUserSessionStore.steps σ e ∧ LeavesNoCopy LocalUserSessionStore.steps σ e := by
  cases e with
  | init i ctx connect => exact ⟨trivial, trivial⟩
  | step i ok => exact ⟨fun _ _ _ _ hblind => (nomatch hblind), trivial⟩
  | happen e => exact ⟨trivial, fun _ _ _ => rfl⟩

/-- **A stored mapping is kept.** Over both stores, every `initialize` leaves the mapping that it has found,
in every run in which no record is deleted while an `initialize` of its session is under way. Over Redis
also no step may read blindly, and no call may write over what it has not seen; the latter takes a copy of a
deleted record in the cache. -/
theorem initialize_keeps_mapping :
    (∀ (store : LocalUserSessionStore) (es : List (Event Client)),
      let M := LocalUserSessionStore.steps
      Along (next M) (Undeleted M) ⟨store, fun _ => none⟩ es →
      Kept (run (next M) ⟨store, fun _ => none⟩ es)) ∧
    (∀ (codec : SessionCodec) (store : RedisUserSessionStore) (es : List (Event Client)),
      let M := RedisUserSessionStore.steps codec
      (∀ u m m', store.cached u = some m → store.stored codec u = some m' → m = m') →
      Along (next M) (fun σ e => Undeleted M σ e ∧ Sighted M σ e ∧ UpToDate M σ e)
        ⟨store, fun _ => none⟩ es →
      Kept (run (next M) ⟨store, fun _ => none⟩ es)) ∧
    ∀ (codec : SessionCodec) (store : RedisUserSessionStore) (es : List (Event Client)),
      let M := RedisUserSessionStore.steps codec
      (∀ u m, store.cached u = some m → store.stored codec u = some m) →
      Along (next M) (fun σ e => Undeleted M σ e ∧ Sighted M σ e ∧ LeavesNoCopy M σ e)
        ⟨store, fun _ => none⟩ es →
      Kept (run (next M) ⟨store, fun _ => none⟩ es) := by
  refine ⟨fun store es hes => ?_, fun codec store es h hes => ?_, fun codec store es h hes => ?_⟩
  · refine kept_of_leavesNoCopy LocalUserSessionStore.lawful nofun ?_
    apply along_of_invariant (I := fun _ => True) ?_ trivial hes
    exact fun σ e _ hd => ⟨⟨hd, local_sighted σ e⟩, trivial⟩
  · exact kept_of_upToDate (RedisUserSessionStore.lawful codec) h hes
  · exact kept_of_leavesNoCopy (RedisUserSessionStore.lawful codec) h hes

/-! ### Blind reads -/

/-- A blind step answers that there is no session. -/
theorem advance_of_blind {codec : SessionCodec} {s : RedisUserSessionStore} {u : UserSession}
    {op : SessionOp} {key : Bytes} (hkey : codec.encodeSession u = some key)
    (hblind : s.blind false u op = true) :
    (RedisUserSessionStore.advance codec s false u op).2 = .getDone (.ok none) := by
  cases op with
  | getHit =>
    have hnone : s.cached u = none := Option.isNone_iff_eq_none.1 hblind
    simp only [RedisUserSessionStore.advance, TimeCache.getMut_fst]
    rw [← RedisUserSessionStore.cached, hnone]
  | getMiss =>
    simp only [RedisUserSessionStore.advance, hkey, RedisUserSessionStore.redisGet,
      RedisUserSessionStore.decodeReply]
    rfl
  | getStart | getFill | getDone | setStart | setFill | setDone => cases hblind

/-- A call that has read blindly writes the empty mapping over whatever Redis holds, as soon as its
`SET` succeeds. -/
theorem overwrites_of_blind {codec : SessionCodec} {σ : System RedisUserSessionStore Client} {i : ℕ}
    {call : InitializeCall Client} {op : SessionOp} {key encoded : Bytes}
    (hi : σ.calls i = some call) (hphase : call.phase = .reading op)
    (hsession : sessionOf call.ctx = some call.session)
    (hkey : codec.encodeSession call.session = some key)
    (hencoded : codec.encodeMapping default = some encoded)
    (hblind : σ.store.blind false call.session op = true) :
    (run (next (RedisUserSessionStore.steps codec)) σ [.step i false, .step i true]).store.stored
      codec call.session = some default := by
  have hread : ((RedisUserSessionStore.steps codec).advance σ.store false call.session op).2 =
      .getDone (.ok none) := advance_of_blind hkey hblind
  cases hadv : (RedisUserSessionStore.steps codec).advance σ.store false call.session op with
  | mk s' op' =>
    rw [hadv] at hread
    subst hread
    cases hvalid : InitializeCallValidator.validate call.ctx with
    | error e =>
      rw [sessionOf, hvalid] at hsession
      cases hsession
    | ok validated =>
      have hfirst : next (RedisUserSessionStore.steps codec) σ (.step i false) =
          ⟨s', Function.update σ.calls i
            (some { call with
              seen := call.looks (RedisUserSessionStore.steps codec) σ.store op
              phase := .writing (.setStart default) })⟩ := by
        simp only [next, hi, advanceInitialize, hphase, hadv, initializeConnect, hvalid,
          Option.getD_none]
      have hsecond : (RedisUserSessionStore.steps codec).advance s' true call.session
          (.setStart default) = (s'.redisSet key encoded, .setFill default) := by
        simp only [RedisUserSessionStore.steps, RedisUserSessionStore.advance, hkey, hencoded, if_true]
      rw [run_cons, hfirst, run_cons, run_nil]
      simp only [next, Function.update_self, advanceInitialize, hsecond]
      rw [RedisUserSessionStore.stored_redisSet hkey hencoded, if_pos rfl]

/-! ### A `GET` that fails -/

namespace FailedRead

def session : UserSession := UserSession.new "" "s"

def mapping : SessionMapping := ⟨[⟨none, "b"⟩]⟩

/-- `rmp_serde::encode::to_vec(&session)`. -/
def sessionKey : Bytes :=
  [0x93, 0xab, 85, 115, 101, 114, 83, 101, 115, 115, 105, 111, 110, 0xa0, 0xa1, 115]

/-- `rmp_serde::encode::to_vec(&mapping)`. -/
def mappingBytes : Bytes := [0x91, 0x91, 0x92, 0xc0, 0xa1, 98]

/-- `rmp_serde::encode::to_vec(&SessionMapping::default())`. -/
def defaultBytes : Bytes := [0x91, 0x90]

/-- `rmp_serde`, as far as the runs below use it. -/
def codec : SessionCodec where
  encodeSession u := if u = session then some sessionKey else none
  encodeMapping m :=
    if m = mapping then some mappingBytes else if m = default then some defaultBytes else none
  decodeMapping b :=
    if b = mappingBytes then some mapping else if b = defaultBytes then some default else none
  encodeSession_inj := by
    intro u v k hu hv
    by_cases hus : u = session
    · by_cases hvs : v = session
      · rw [hus, hvs]
      · rw [if_neg hvs] at hv
        cases hv
    · rw [if_neg hus] at hu
      cases hu
  decode_encode := by
    intro m b h
    by_cases hm : m = mapping
    · rw [if_pos hm] at h
      cases h
      rw [hm]
      rfl
    · rw [if_neg hm] at h
      by_cases hd : m = default
      · rw [if_pos hd] at h
        cases h
        rw [hd]
        rfl
      · rw [if_neg hd] at h
        cases h

/-- A Redis that holds `mapping` for `session`, behind an empty cache. -/
def store : RedisUserSessionStore where
  cache := TimeCache.empty
  redis key := if key = sessionKey then some mappingBytes else none
  now := 0

/-- A local store that holds it. -/
def localStore : LocalUserSessionStore where
  cache u := if u = session then some ⟨mapping, 0⟩ else none
  now := 0

/-- An `initialize` of `session`, for a virtual host without backends. -/
def context : RequestContext where
  parts := some
    { virtualHostId := some ⟨"host"⟩
      sessionId := none
      claims := none
      userConfig := some ⟨⟨[("host", ⟨⟨[], List.nodup_nil⟩⟩)], List.nodup_singleton _⟩⟩ }
  downstreamSessionId := some ⟨"s"⟩

/-- An `initialize` begins. -/
def begins (i : ℕ) : Event Unit := .init i context fun _ _ => none

/-- One `initialize`, whose `GET` succeeds or not; its `SET` succeeds. -/
def events (ok : Bool) : List (Event Unit) :=
  [begins 0, .step 0 true, .step 0 ok, .step 0 true, .step 0 true, .step 0 true]

/-- The record is deleted after an `initialize` has returned, and the next one writes it back from the
cache. -/
def writtenBack : List (Event Unit) :=
  events true ++ [.happen (.delete session), begins 1, .step 1 true, .step 1 true, .step 1 true,
    .step 1 true]

/-- Once the cache entry is gone as well, an `initialize` finds nothing before that, and writes the empty
mapping after it. -/
def overtaken : List (Event Unit) :=
  events true ++ [.happen (.delete session), begins 1, .step 1 true, .step 1 true,
    .happen (.evict session), begins 2, .step 2 true, .step 2 true, .step 1 true,
    begins 3, .step 2 true, .step 2 true, .step 3 true, .step 3 true, .step 3 true, .step 3 true]

theorem not_inFlight_events (u : UserSession) : ¬ InFlight
    (run (next (RedisUserSessionStore.steps codec)) ⟨store, fun _ => none⟩ (events true)) u := by
  rintro ⟨i, call, hi, -, hop⟩
  rcases i with _ | i
  · cases hi
    exact hop rfl
  · cases hi

end FailedRead

open FailedRead in
/-- The `GET` succeeds, or there is none; and a deleted record is written back by a later call. -/
theorem initialize_keeps_mapping_sample :
    Kept (run (next LocalUserSessionStore.steps) ⟨localStore, fun _ => none⟩ (events true)) ∧
      Kept (run (next (RedisUserSessionStore.steps codec)) ⟨store, fun _ => none⟩ writtenBack) ∧
      Kept (run (next (RedisUserSessionStore.steps codec)) ⟨store, fun _ => none⟩ (events true)) := by
  refine ⟨?_, ?_, ?_⟩
  · apply initialize_keeps_mapping.1
    exact ⟨trivial, trivial, trivial, trivial, trivial, trivial, trivial⟩
  · apply initialize_keeps_mapping.2.1 codec store writtenBack nofun
    refine ⟨⟨trivial, trivial, trivial⟩, ?_, ?_, ?_, ?_, ?_, ⟨?_, trivial, trivial⟩,
      ⟨trivial, trivial, trivial⟩, ?_, ?_, ?_, ?_, trivial⟩
    -- the deletion meets no `initialize`
    case refine_6 => exact fun u hu => absurd hu (not_inFlight_events u)
    all_goals
      refine ⟨trivial, fun call op hcall hop hblind => ?_, fun call op v hcall hop hseen hv m hm => ?_⟩
      · cases hcall
        cases hop
        cases hblind
      · cases hcall
        cases hop
        first
        | (cases hv; done)
        | (cases hseen; done)
        | cases hm
  · apply initialize_keeps_mapping.2.2 codec store (events true) nofun
    refine ⟨⟨trivial, trivial, trivial⟩, ?_, ?_, ?_, ?_, ?_, trivial⟩ <;>
    · refine ⟨trivial, fun call op hcall hop hblind => ?_, trivial⟩
      cases hcall
      cases hop
      cases hblind

open FailedRead in
/-- The `GET` fails: `initialize` returns `Ok`, and Redis holds the empty mapping. -/
theorem failedRead_not_kept :
    (∀ e ∈ events false, ∀ happening, e ≠ .happen happening) ∧
      ¬ Kept (run (next (RedisUserSessionStore.steps codec)) ⟨store, fun _ => none⟩ (events false)) := by
  refine ⟨fun e he happening => ?_, fun h => ?_⟩
  · rintro rfl
    simp [events, begins] at he
  · have hcall : (run (next (RedisUserSessionStore.steps codec)) ⟨store, fun _ => none⟩
        (events false)).calls 0 = some ⟨context, fun _ _ => none, session, some mapping, some mapping,
          .returned (.ok initializeResult) (some default)⟩ := by rfl
    cases h 0 _ _ _ hcall rfl mapping rfl

open FailedRead in
/-- A call that has found nothing writes the empty mapping over one that another call has meanwhile written
back from the cache: no step reads blindly, and no record is deleted while an `initialize` is under way. -/
theorem overtaken_not_kept :
    Along (next (RedisUserSessionStore.steps codec))
        (fun σ e => Undeleted (RedisUserSessionStore.steps codec) σ e ∧
          Sighted (RedisUserSessionStore.steps codec) σ e) ⟨store, fun _ => none⟩ overtaken ∧
      ¬ Kept (run (next (RedisUserSessionStore.steps codec)) ⟨store, fun _ => none⟩ overtaken) := by
  refine ⟨?_, fun h => ?_⟩
  · refine ⟨⟨trivial, trivial⟩, ?_, ?_, ?_, ?_, ?_, ⟨?_, trivial⟩, ⟨trivial, trivial⟩, ?_, ?_,
      ⟨?_, trivial⟩, ⟨trivial, trivial⟩, ?_, ?_, ?_, ⟨trivial, trivial⟩, ?_, ?_, ?_, ?_, ?_, ?_, trivial⟩
    -- the deletion meets no `initialize`
    case refine_6 => exact fun u hu => absurd hu (not_inFlight_events u)
    -- an eviction deletes no record
    case refine_9 => exact fun u _ hne => hne
    all_goals
      refine ⟨trivial, fun call op hcall hop hblind => ?_⟩
      cases hcall
      cases hop
      cases hblind
  have hcall : (run (next (RedisUserSessionStore.steps codec)) ⟨store, fun _ => none⟩
      overtaken).calls 3 = some ⟨context, fun _ _ => none, session, some mapping, some default,
        .returned (.ok initializeResult) (some default)⟩ := by rfl
  cases h 3 _ _ _ hcall rfl mapping rfl

end SessionKept

end ContextForge
