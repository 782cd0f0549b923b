import ContextForgeGateway.Cpex.Runtime
import ContextForgeGateway.Lib.Runs
import Mathlib.Algebra.Group.Nat.Defs

/-!
# Tool calls and publications

Any number of tool calls run on one handle, and any state may be published at any moment. A call
loads the published state, draws an id and runs the pre pipeline if that runtime has a pre hook,
waits for its backend, and in `after_tool_call` takes the state that it has carried along apart
again. `toolCalls_pinned`: whatever the interleaving, the post pipeline runs on the runtime that the
call has loaded, with what its own pre pipeline has left; a call whose steps all occur comes to the end
that it has alone (`alone`); and ids are not shared as long as the counter has not wrapped.

`run_before` and `run_after` tie the steps to `before_tool_call` and `after_tool_call`.
-/

namespace ContextForge

open Runs

section

variable (Value Manager Ctx : Type)

/-- How far a tool call has come. -/
inductive Phase
  | loaded
  | drawn (toolCallId : String)
  | waiting (pre : ToolPreCallResult Value Manager Ctx)
  | responded (state : Option (RuntimeHookState Manager Ctx)) (response : CallToolResult Value)
  | posting (runtime : GatewayPluginRuntime Manager) (contextTable : Option Ctx)
      (toolCallId : String) (response : CallToolResult Value)
  | rejected (error : ErrorData)
  | completed (result : Except ErrorData (CallToolResult Value))

/-- A tool call: what it was asked, and the state that `before_tool_call` has loaded. -/
structure PluginCall where
  request : CallToolRequestParams Value
  toolName : String
  backendName : String
  loaded : RuntimeState Manager
  phase : Phase Value Manager Ctx

/-- A pipeline that call number `call` has run, and what it returned. -/
structure PipelineRun where
  call : ℕ
  invocation : Invocation Value Manager Ctx
  result : PipelineResult Value Ctx

/-- The published state, the id counter, the calls by number; and for the record, which calls have
drawn an id and which pipelines have run. -/
structure ToolCalls where
  runtime : RuntimeState Manager
  counter : UInt64
  calls : ℕ → Option (PluginCall Value Manager Ctx)
  draws : List ℕ
  log : List (PipelineRun Value Manager Ctx)

/-- What can happen next. -/
inductive ToolCallEvent
  | publish (state : RuntimeState Manager)
  | start (i : ℕ) (request : CallToolRequestParams Value) (toolName backendName : String)
  | before (i : ℕ)
  | pre (i : ℕ) (invoke : Invocation Value Manager Ctx → PipelineResult Value Ctx)
  | respond (i : ℕ) (response : Except ErrorData (CallToolResult Value))
  | after (i : ℕ)
  | post (i : ℕ) (invoke : Invocation Value Manager Ctx → PipelineResult Value Ctx)

end

variable {Value Manager Ctx : Type}

namespace ToolCalls

/-- Before any call, with `state` published; `TOOL_CALL_ID` starts at one. -/
def new (state : RuntimeState Manager) : ToolCalls Value Manager Ctx :=
  ⟨state, 1, fun _ => none, [], []⟩

/-- Call `i` moves on to `phase`. -/
def moveTo (σ : ToolCalls Value Manager Ctx) (i : ℕ) (c : PluginCall Value Manager Ctx)
    (phase : Phase Value Manager Ctx) : ToolCalls Value Manager Ctx :=
  { σ with calls := Function.update σ.calls i (some { c with phase }) }

/-- Call `i` draws an id. -/
def draw (σ : ToolCalls Value Manager Ctx) (i : ℕ) : ToolCalls Value Manager Ctx :=
  { σ with counter := (nextToolCallId σ.counter).2, draws := σ.draws ++ [i] }

/-- Call `i` runs a pipeline. -/
def record (σ : ToolCalls Value Manager Ctx) (i : ℕ) (invocation : Invocation Value Manager Ctx)
    (result : PipelineResult Value Ctx) : ToolCalls Value Manager Ctx :=
  { σ with log := σ.log ++ [⟨i, invocation, result⟩] }

/-- The event is about call `i`. -/
def concerns (i : ℕ) : ToolCallEvent Value Manager Ctx → Bool
  | .publish _ => false
  | .start j _ _ _ | .before j | .pre j _ | .respond j _ | .after j | .post j _ => j = i

/-- The phase after `before_tool_call` has returned `result`. -/
def phaseOf : Except ErrorData (ToolPreCallResult Value Manager Ctx) → Phase Value Manager Ctx
  | .ok pre => .waiting pre
  | .error e => .rejected e

section

variable [DecidableEq Value] (api : CmfApi Value)

/-- The next state. A step that the call is not ready for does nothing. -/
def next (σ : ToolCalls Value Manager Ctx) :
    ToolCallEvent Value Manager Ctx → ToolCalls Value Manager Ctx
  | .publish state => { σ with runtime := state }
  | .start i request toolName backendName =>
    match σ.calls i with
    | none => σ.moveTo i ⟨request, toolName, backendName, σ.runtime, .loaded⟩ .loaded
    | some _ => σ
  | .before i =>
    match σ.calls i with
    | some c =>
      match c.phase, c.loaded with
      | .loaded, .failed _ => σ.moveTo i c (.rejected runtimeFailedError)
      | .loaded, .active runtime =>
        if runtime.hasPreHook then
          (σ.draw i).moveTo i c (.drawn (nextToolCallId σ.counter).1)
        else
          σ.moveTo i c
            (.waiting (GatewayPluginRuntimeHandle.wrapState runtime ToolPreCallResult.unchanged))
      | _, _ => σ
    | none => σ
  | .pre i invoke =>
    match σ.calls i with
    | some c =>
      match c.phase, c.loaded with
      | .drawn toolCallId, .active runtime =>
        let invocation :=
          runtime.toolPreInvocation c.request c.toolName c.backendName toolCallId
        let result := invoke invocation
        (σ.record i invocation result).moveTo i c
          (phaseOf ((GatewayPluginRuntime.afterToolPre c.request toolCallId result).map
            (GatewayPluginRuntimeHandle.wrapState runtime)))
      | _, _ => σ
    | none => σ
  | .respond i response =>
    match σ.calls i with
    | some c =>
      match c.phase, response with
      | .waiting pre, .ok response => σ.moveTo i c (.responded pre.state response)
      | .waiting _, .error e => σ.moveTo i c (.rejected e)
      | _, _ => σ
    | none => σ
  | .after i =>
    match σ.calls i with
    | some c =>
      match c.phase with
      | .responded state response =>
        match state.bind RuntimeHookState.asRegistry with
        | some (runtime, state) =>
          if runtime.hasPostHook then
            match state.bind RuntimeHookState.asToolCall with
            | some state =>
              σ.moveTo i c (.posting runtime (some state.contextTable) state.toolCallId response)
            | none =>
              (σ.draw i).moveTo i c (.posting runtime none (nextToolCallId σ.counter).1 response)
          else σ.moveTo i c (.completed (.ok response))
        | none => σ.moveTo i c (.completed (.ok response))
      | _ => σ
    | none => σ
  | .post i invoke =>
    match σ.calls i with
    | some c =>
      match c.phase with
      | .posting runtime contextTable toolCallId response =>
        let invocation :=
          runtime.toolPostInvocation api c.toolName response toolCallId contextTable
        let result := invoke invocation
        (σ.record i invocation result).moveTo i c
          (.completed (GatewayPluginRuntime.afterToolPost api response result))
      | _ => σ
    | none => σ

/-! ### The steps are those of the source's functions -/

/-- The two steps of `before_tool_call` in a row are the function. -/
theorem run_before (σ : ToolCalls Value Manager Ctx) (i : ℕ) {c : PluginCall Value Manager Ctx}
    (hi : σ.calls i = some c) (hc : c.phase = .loaded)
    (invoke : Invocation Value Manager Ctx → PipelineResult Value Ctx) :
    let σ' := run (next api) σ [.before i, .pre i invoke]
    let before := GatewayPluginRuntimeHandle.beforeToolCall c.loaded invoke c.request c.toolName
      c.backendName σ.counter
    σ'.counter = before.counter ∧
      σ'.log = σ.log ++ before.invoked.map (fun v => ⟨i, v, invoke v⟩) ∧
      σ'.calls i = some { c with phase := phaseOf before.result } := by
  intro σ' before
  simp only [σ', before]
  cases hl : c.loaded with
  | failed e =>
    simp [next, hi, hc, hl, moveTo, GatewayPluginRuntimeHandle.beforeToolCall, phaseOf]
  | active runtime =>
    by_cases hp : runtime.hasPreHook = true
    · simp [next, hi, hc, hl, hp, moveTo, draw, record, GatewayPluginRuntimeHandle.beforeToolCall,
        GatewayPluginRuntime.beforeToolCall]
    · simp [next, hi, hc, hl, hp, moveTo, GatewayPluginRuntimeHandle.beforeToolCall,
        GatewayPluginRuntime.beforeToolCall, phaseOf, Except.map]

/-- The two steps of `after_tool_call` in a row are the function. -/
theorem run_after (σ : ToolCalls Value Manager Ctx) (i : ℕ) {c : PluginCall Value Manager Ctx}
    {state : Option (RuntimeHookState Manager Ctx)} {response : CallToolResult Value}
    (hi : σ.calls i = some c) (hc : c.phase = .responded state response)
    (invoke : Invocation Value Manager Ctx → PipelineResult Value Ctx) :
    let σ' := run (next api) σ [.after i, .post i invoke]
    let after := GatewayPluginRuntimeHandle.afterToolCall api invoke c.toolName response state
      σ.counter
    σ'.counter = after.counter ∧
      σ'.log = σ.log ++ after.invoked.map (fun v => ⟨i, v, invoke v⟩) ∧
      σ'.calls i = some { c with phase := .completed after.result } := by
  intro σ' after
  simp only [σ', after]
  cases hr : state.bind RuntimeHookState.asRegistry with
  | none => simp [next, hi, hc, hr, moveTo, GatewayPluginRuntimeHandle.afterToolCall]
  | some kept =>
    obtain ⟨runtime, st⟩ := kept
    by_cases hp : runtime.hasPostHook = true
    · cases ht : st.bind RuntimeHookState.asToolCall <;>
        simp [next, hi, hc, hr, hp, ht, moveTo, draw, record,
          GatewayPluginRuntimeHandle.afterToolCall, GatewayPluginRuntime.afterToolCall,
          GatewayPluginRuntime.postState]
    · simp [next, hi, hc, hr, hp, moveTo, GatewayPluginRuntimeHandle.afterToolCall,
        GatewayPluginRuntime.afterToolCall]

/-- The end of a call of a tool whose backend answers `response`, if the call has loaded `state` and is
alone: the two functions in a row, which find the counter at `m` and at `n`. -/
def alone (i : ℕ) (state : RuntimeState Manager) (request : CallToolRequestParams Value)
    (toolName backendName : String) (response : CallToolResult Value)
    (pre post : Invocation Value Manager Ctx → PipelineResult Value Ctx) (m n : UInt64) :
    Phase Value Manager Ctx × List (PipelineRun Value Manager Ctx) :=
  let before := GatewayPluginRuntimeHandle.beforeToolCall state pre request toolName backendName m
  let first := before.invoked.map fun v => ⟨i, v, pre v⟩
  match before.result with
  | .error e => (.rejected e, first)
  | .ok kept =>
    let after := GatewayPluginRuntimeHandle.afterToolCall api post toolName response kept.state n
    (.completed after.result, first ++ after.invoked.map fun v => ⟨i, v, post v⟩)

end

/-! ### Ids -/

/-- The id of the draw number `k`. -/
def idAt (k : ℕ) : String := (nextToolCallId (UInt64.ofNat (k + 1))).1

/-- Call `i` has drawn `toolCallId`. -/
def Owned (draws : List ℕ) (i : ℕ) (toolCallId : String) : Prop :=
  ∃ k, draws[k]? = some i ∧ toolCallId = idAt k

theorem Owned.mono {draws draws' : List ℕ} (hp : draws <+: draws') {i : ℕ} {id : String}
    (h : Owned draws i id) : Owned draws' i id := by
  obtain ⟨k, hk, rfl⟩ := h
  refine ⟨k, ?_, rfl⟩
  obtain ⟨l, rfl⟩ := hp
  obtain ⟨hlt, -⟩ := List.getElem?_eq_some_iff.1 hk
  rwa [List.getElem?_append_left hlt]

theorem owned_concat (draws : List ℕ) (i : ℕ) : Owned (draws ++ [i]) i (idAt draws.length) :=
  ⟨draws.length, by simp, rfl⟩

/-- Different numbers are written differently. -/
theorem repr_injective {m n : ℕ} (h : Nat.repr m = Nat.repr n) : m = n := by
  have hdigits : Nat.toDigits 10 m = Nat.toDigits 10 n := by
    simpa [Nat.repr] using congrArg String.toList h
  simpa using congrArg (Nat.ofDigitChars 10 · 0) hdigits

/-- Two of fewer than `2 ^ 64` draws have different ids. -/
theorem idAt_inj {n k l : ℕ} (hn : n < 2 ^ 64) (hk : k < n) (hl : l < n) (h : idAt k = idAt l) :
    k = l := by
  have hrepr : Nat.repr (UInt64.ofNat (k + 1)).toNat = Nat.repr (UInt64.ofNat (l + 1)).toNat :=
    (String.append_right_inj _).1 h
  have hnat := repr_injective hrepr
  rw [UInt64.toNat_ofNat', UInt64.toNat_ofNat', Nat.mod_eq_of_lt (by omega),
    Nat.mod_eq_of_lt (by omega)] at hnat
  omega

/-! ### The history of a call -/

/-- The pipelines that call `i` has run. -/
def runsOf (log : List (PipelineRun Value Manager Ctx)) (i : ℕ) :
    List (PipelineRun Value Manager Ctx) :=
  log.filter fun r => r.call = i

theorem runsOf_append_self (log : List (PipelineRun Value Manager Ctx)) (i : ℕ)
    (v : Invocation Value Manager Ctx) (r : PipelineResult Value Ctx) :
    runsOf (log ++ [⟨i, v, r⟩]) i = runsOf log i ++ [⟨i, v, r⟩] := by
  simp [runsOf, List.filter_append]

theorem runsOf_append_of_ne (log : List (PipelineRun Value Manager Ctx)) {i j : ℕ} (h : j ≠ i)
    (v : Invocation Value Manager Ctx) (r : PipelineResult Value Ctx) :
    runsOf (log ++ [⟨i, v, r⟩]) j = runsOf log j := by
  simp [runsOf, List.filter_append, h.symm]

/-- The invocation of the call's pre pipeline on `runtime`, for an id. -/
def preInvocation (c : PluginCall Value Manager Ctx) (runtime : GatewayPluginRuntime Manager)
    (toolCallId : String) : Invocation Value Manager Ctx :=
  runtime.toolPreInvocation c.request c.toolName c.backendName toolCallId

/-- What the first half of call `i` on `runtime` has left: the pipelines it has run, and the state
it keeps for the second half. -/
inductive FirstHalf (draws : List ℕ) (i : ℕ) (runtime : GatewayPluginRuntime Manager)
    (invocation : String → Invocation Value Manager Ctx) :
    List (PipelineRun Value Manager Ctx) → Option (ToolCallState Ctx) → Prop
  | skipped (h : runtime.hasPreHook = false) : FirstHalf draws i runtime invocation [] none
  | ran (h : runtime.hasPreHook = true) (toolCallId : String) (howned : Owned draws i toolCallId)
      (result : PipelineResult Value Ctx) :
      FirstHalf draws i runtime invocation [⟨i, invocation toolCallId, result⟩]
        (some ⟨result.contextTable, toolCallId⟩)

/-- The state in which the handle keeps `kept`. -/
def keep (runtime : GatewayPluginRuntime Manager) (kept : Option (ToolCallState Ctx)) :
    Option (RuntimeHookState Manager Ctx) :=
  if runtime.hasPostHook then some (.registry runtime (kept.map .toolCall)) else none

/-- The context table and the id of a post pipeline are those kept, or a new id. -/
def Continues (draws : List ℕ) (i : ℕ) (kept : Option (ToolCallState Ctx))
    (contextTable : Option Ctx) (toolCallId : String) : Prop :=
  match kept with
  | some state => contextTable = some state.contextTable ∧ toolCallId = state.toolCallId
  | none => contextTable = none ∧ Owned draws i toolCallId

/-- The history of call `i`, phase by phase: `runs` are the pipelines it has run. -/
def History (api : CmfApi Value) (draws : List ℕ) (runs : List (PipelineRun Value Manager Ctx)) (i : ℕ)
    (c : PluginCall Value Manager Ctx) : Prop :=
  match c.phase with
  | .loaded => runs = []
  | .drawn toolCallId => runs = [] ∧ Owned draws i toolCallId ∧
      ∃ runtime, c.loaded = .active runtime ∧ runtime.hasPreHook = true
  | .waiting pre => ∃ runtime kept, c.loaded = .active runtime ∧
      FirstHalf draws i runtime (preInvocation c runtime) runs kept ∧ pre.state = keep runtime kept
  | .responded state _ => ∃ runtime kept, c.loaded = .active runtime ∧
      FirstHalf draws i runtime (preInvocation c runtime) runs kept ∧ state = keep runtime kept
  | .posting runtime contextTable toolCallId _ => c.loaded = .active runtime ∧
      runtime.hasPostHook = true ∧ ∃ kept,
        FirstHalf draws i runtime (preInvocation c runtime) runs kept ∧
        Continues draws i kept contextTable toolCallId
  | .rejected _ => runs = [] ∨ ∃ runtime kept, c.loaded = .active runtime ∧
      FirstHalf draws i runtime (preInvocation c runtime) runs kept
  | .completed _ => ∃ runtime kept, c.loaded = .active runtime ∧
      ((runtime.hasPostHook = false ∧
          FirstHalf draws i runtime (preInvocation c runtime) runs kept) ∨
        (runtime.hasPostHook = true ∧ ∃ first contextTable toolCallId response result,
          FirstHalf draws i runtime (preInvocation c runtime) first kept ∧
          Continues draws i kept contextTable toolCallId ∧
          runs = first ++ [⟨i, runtime.toolPostInvocation api c.toolName response toolCallId
            contextTable, result⟩]))

/-- Every call has a history, the calls that have not begun an empty one, and the counter follows
the draws. -/
structure Inv (api : CmfApi Value) (σ : ToolCalls Value Manager Ctx) : Prop where
  counter : σ.counter = UInt64.ofNat (σ.draws.length + 1)
  fresh : ∀ i, σ.calls i = none → runsOf σ.log i = []
  history : ∀ i c, σ.calls i = some c → History api σ.draws (runsOf σ.log i) i c

theorem FirstHalf.mono {draws draws' : List ℕ} (hp : draws <+: draws') {i : ℕ}
    {runtime : GatewayPluginRuntime Manager} {invocation : String → Invocation Value Manager Ctx}
    {runs : List (PipelineRun Value Manager Ctx)} {kept : Option (ToolCallState Ctx)}
    (h : FirstHalf draws i runtime invocation runs kept) :
    FirstHalf draws' i runtime invocation runs kept := by
  cases h with
  | skipped h => exact .skipped h
  | ran h toolCallId howned result => exact .ran h toolCallId (howned.mono hp) result

theorem Continues.mono {draws draws' : List ℕ} (hp : draws <+: draws') {i : ℕ}
    {kept : Option (ToolCallState Ctx)} {contextTable : Option Ctx} {toolCallId : String}
    (h : Continues draws i kept contextTable toolCallId) :
    Continues draws' i kept contextTable toolCallId := by
  cases kept with
  | some state => exact h
  | none => exact ⟨h.1, h.2.mono hp⟩

theorem History.mono {api : CmfApi Value} {draws draws' : List ℕ} (hp : draws <+: draws')
    {runs : List (PipelineRun Value Manager Ctx)} {i : ℕ} {c : PluginCall Value Manager Ctx}
    (h : History api draws runs i c) : History api draws' runs i c := by
  unfold History at h ⊢
  cases hc : c.phase with
  | loaded => simpa only [hc] using h
  | drawn toolCallId =>
    simp only [hc] at h ⊢
    exact ⟨h.1, h.2.1.mono hp, h.2.2⟩
  | waiting pre =>
    simp only [hc] at h ⊢
    obtain ⟨runtime, kept, hl, hf, hs⟩ := h
    exact ⟨runtime, kept, hl, hf.mono hp, hs⟩
  | responded state response =>
    simp only [hc] at h ⊢
    obtain ⟨runtime, kept, hl, hf, hs⟩ := h
    exact ⟨runtime, kept, hl, hf.mono hp, hs⟩
  | posting runtime contextTable toolCallId response =>
    simp only [hc] at h ⊢
    obtain ⟨hl, hpost, kept, hf, hk⟩ := h
    exact ⟨hl, hpost, kept, hf.mono hp, hk.mono hp⟩
  | rejected error =>
    simp only [hc] at h ⊢
    rcases h with h | ⟨runtime, kept, hl, hf⟩
    · exact Or.inl h
    · exact Or.inr ⟨runtime, kept, hl, hf.mono hp⟩
  | completed result =>
    simp only [hc] at h ⊢
    obtain ⟨runtime, kept, hl, h⟩ := h
    refine ⟨runtime, kept, hl, ?_⟩
    rcases h with ⟨hpost, hf⟩ | ⟨hpost, first, ctx, id, response, r, hf, hk, hr⟩
    · exact Or.inl ⟨hpost, hf.mono hp⟩
    · exact Or.inr ⟨hpost, first, ctx, id, response, r, hf.mono hp, hk.mono hp, hr⟩

/-! ### The steps keep the invariant -/

variable {api : CmfApi Value}

/-- A step of call `i` is all right if it leaves the other calls alone and gives call `i` a
history. -/
theorem Inv.update {σ σ' : ToolCalls Value Manager Ctx} (h : Inv api σ) {i : ℕ}
    {c : PluginCall Value Manager Ctx} (hcalls : σ'.calls = Function.update σ.calls i (some c))
    (hdraws : σ.draws <+: σ'.draws) (hlog : ∀ j, j ≠ i → runsOf σ'.log j = runsOf σ.log j)
    (hcounter : σ'.counter = UInt64.ofNat (σ'.draws.length + 1))
    (hi : History api σ'.draws (runsOf σ'.log i) i c) : Inv api σ' := by
  refine ⟨hcounter, fun j hj => ?_, fun j c' hj => ?_⟩
  · have hji : j ≠ i := by
      rintro rfl
      rw [hcalls, Function.update_self] at hj
      cases hj
    rw [hcalls, Function.update_of_ne hji] at hj
    rw [hlog j hji]
    exact h.fresh j hj
  · by_cases hji : j = i
    · subst hji
      rw [hcalls, Function.update_self] at hj
      cases hj
      exact hi
    · rw [hcalls, Function.update_of_ne hji] at hj
      rw [hlog j hji]
      exact (h.history j c' hj).mono hdraws

theorem Inv.moveTo {σ : ToolCalls Value Manager Ctx} (h : Inv api σ) {i : ℕ}
    {c : PluginCall Value Manager Ctx} {phase : Phase Value Manager Ctx}
    (hi : History api σ.draws (runsOf σ.log i) i { c with phase }) :
    Inv api (σ.moveTo i c phase) :=
  h.update rfl List.prefix_rfl (fun _ _ => rfl) h.counter hi

theorem Inv.draw {σ : ToolCalls Value Manager Ctx} (h : Inv api σ) {i : ℕ}
    {c : PluginCall Value Manager Ctx} {phase : Phase Value Manager Ctx}
    (hi : History api (σ.draws ++ [i]) (runsOf σ.log i) i { c with phase }) :
    Inv api ((σ.draw i).moveTo i c phase) := by
  refine h.update rfl (List.prefix_append _ _) (fun _ _ => rfl) ?_ hi
  show σ.counter + 1 = UInt64.ofNat ((σ.draws ++ [i]).length + 1)
  rw [h.counter, List.length_append, List.length_singleton]
  exact (UInt64.ofNat_add _ 1).symm

theorem Inv.record {σ : ToolCalls Value Manager Ctx} (h : Inv api σ) {i : ℕ}
    {c : PluginCall Value Manager Ctx} {phase : Phase Value Manager Ctx}
    {v : Invocation Value Manager Ctx} {r : PipelineResult Value Ctx}
    (hi : History api σ.draws (runsOf σ.log i ++ [⟨i, v, r⟩]) i { c with phase }) :
    Inv api ((σ.record i v r).moveTo i c phase) := by
  refine h.update rfl List.prefix_rfl (fun j hji => runsOf_append_of_ne σ.log hji v r) h.counter ?_
  show History api σ.draws (runsOf (σ.log ++ [⟨i, v, r⟩]) i) i { c with phase }
  rw [runsOf_append_self]
  exact hi

/-- The next id is that of the next draw. -/
theorem Inv.nextToolCallId {σ : ToolCalls Value Manager Ctx} (h : Inv api σ) (i : ℕ) :
    Owned (σ.draws ++ [i]) i (nextToolCallId σ.counter).1 := by
  rw [h.counter]
  exact owned_concat σ.draws i

theorem wrapState_state (runtime : GatewayPluginRuntime Manager)
    (pre : ToolPreCallResult Value Manager Ctx) {kept : Option (ToolCallState Ctx)}
    (h : pre.state = kept.map .toolCall) :
    (GatewayPluginRuntimeHandle.wrapState runtime pre).state = keep runtime kept := by
  unfold GatewayPluginRuntimeHandle.wrapState keep
  by_cases hp : runtime.hasPostHook = true
  · simp [hp, h]
  · simp [hp]

variable [DecidableEq Value]

theorem afterToolPre_cases (request : CallToolRequestParams Value) (toolCallId : String)
    (result : PipelineResult Value Ctx) :
    (∃ e, (GatewayPluginRuntime.afterToolPre request toolCallId result :
      Except ErrorData (ToolPreCallResult Value Manager Ctx)) = .error e) ∨
    ∃ arguments, (GatewayPluginRuntime.afterToolPre request toolCallId result :
      Except ErrorData (ToolPreCallResult Value Manager Ctx)) =
        .ok ⟨arguments, some (.toolCall ⟨result.contextTable, toolCallId⟩)⟩ := by
  unfold GatewayPluginRuntime.afterToolPre
  by_cases hd : result.isDenied = true
  · exact Or.inl ⟨_, if_pos hd⟩
  · rw [if_neg hd]
    cases effectivePreArgs request.arguments result with
    | error e => exact Or.inl ⟨e, rfl⟩
    | ok arguments => exact Or.inr ⟨arguments, rfl⟩

theorem inv_before {σ : ToolCalls Value Manager Ctx} (h : Inv api σ) (i : ℕ) :
    Inv api (next api σ (.before i)) := by
  cases hi : σ.calls i with
  | none => simpa [next, hi] using h
  | some c =>
    have hhist := h.history i c hi
    cases hc : c.phase with
    | loaded =>
      have hruns : runsOf σ.log i = [] := by simpa [History, hc] using hhist
      cases hl : c.loaded with
      | failed e =>
        simp only [next, hi, hc, hl]
        exact h.moveTo (Or.inl hruns)
      | active runtime =>
        by_cases hp : runtime.hasPreHook = true
        · simp only [next, hi, hc, hl, hp, if_true]
          exact h.draw ⟨hruns, h.nextToolCallId i, runtime, hl, hp⟩
        · simp only [next, hi, hc, hl, hp]
          refine h.moveTo ⟨runtime, none, hl, ?_, wrapState_state runtime _ rfl⟩
          rw [hruns]
          exact .skipped (by simpa using hp)
    | _ => simpa [next, hi, hc] using h

theorem inv_pre {σ : ToolCalls Value Manager Ctx} (h : Inv api σ) (i : ℕ)
    (invoke : Invocation Value Manager Ctx → PipelineResult Value Ctx) :
    Inv api (next api σ (.pre i invoke)) := by
  cases hi : σ.calls i with
  | none => simpa [next, hi] using h
  | some c =>
    have hhist := h.history i c hi
    cases hc : c.phase with
    | drawn toolCallId =>
      obtain ⟨hruns, howned, runtime, hl, hp⟩ : runsOf σ.log i = [] ∧
          Owned σ.draws i toolCallId ∧
          ∃ runtime, c.loaded = .active runtime ∧ runtime.hasPreHook = true := by
        simpa [History, hc] using hhist
      simp only [next, hi, hc, hl]
      generalize hv : runtime.toolPreInvocation c.request c.toolName c.backendName toolCallId = v
      have hfirst : FirstHalf σ.draws i runtime (preInvocation c runtime)
          (runsOf σ.log i ++ [⟨i, v, invoke v⟩])
          (some ⟨(invoke v).contextTable, toolCallId⟩) := by
        rw [hruns, List.nil_append, ← hv]
        exact .ran hp toolCallId howned _
      rcases afterToolPre_cases c.request toolCallId (invoke v) with ⟨e, he⟩ | ⟨arguments, ha⟩
      · rw [he]
        exact h.record (Or.inr ⟨runtime, _, hl, hfirst⟩)
      · rw [ha]
        exact h.record ⟨runtime, _, hl, hfirst, wrapState_state runtime _ rfl⟩
    | _ => simpa [next, hi, hc] using h

theorem inv_respond {σ : ToolCalls Value Manager Ctx} (h : Inv api σ) (i : ℕ)
    (response : Except ErrorData (CallToolResult Value)) :
    Inv api (next api σ (.respond i response)) := by
  cases hi : σ.calls i with
  | none => simpa [next, hi] using h
  | some c =>
    have hhist := h.history i c hi
    cases hc : c.phase with
    | waiting pre =>
      obtain ⟨runtime, kept, hl, hf, hs⟩ : ∃ runtime kept, c.loaded = .active runtime ∧
          FirstHalf σ.draws i runtime (preInvocation c runtime) (runsOf σ.log i) kept ∧
          pre.state = keep runtime kept := by
        simpa [History, hc] using hhist
      cases response with
      | ok response =>
        simp only [next, hi, hc]
        exact h.moveTo ⟨runtime, kept, hl, hf, hs⟩
      | error e =>
        simp only [next, hi, hc]
        exact h.moveTo (Or.inr ⟨runtime, kept, hl, hf⟩)
    | _ => simpa [next, hi, hc] using h

theorem inv_after {σ : ToolCalls Value Manager Ctx} (h : Inv api σ) (i : ℕ) :
    Inv api (next api σ (.after i)) := by
  cases hi : σ.calls i with
  | none => simpa [next, hi] using h
  | some c =>
    have hhist := h.history i c hi
    cases hc : c.phase with
    | responded state response =>
      obtain ⟨runtime, kept, hl, hf, rfl⟩ : ∃ runtime kept, c.loaded = .active runtime ∧
          FirstHalf σ.draws i runtime (preInvocation c runtime) (runsOf σ.log i) kept ∧
          state = keep runtime kept := by
        simpa [History, hc] using hhist
      by_cases hp : runtime.hasPostHook = true
      · cases kept with
        | some state =>
          have hkeep : keep runtime (some state) =
              some (.registry runtime (some (.toolCall state))) := if_pos hp
          simp only [next, hi, hc, hkeep, Option.bind_some, RuntimeHookState.asRegistry,
            RuntimeHookState.asToolCall, hp, if_true]
          exact h.moveTo ⟨hl, hp, some state, hf, rfl, rfl⟩
        | none =>
          have hkeep : (keep runtime none : Option (RuntimeHookState Manager Ctx)) =
              some (.registry runtime none) := if_pos hp
          simp only [next, hi, hc, hkeep, Option.bind_some, Option.bind_none,
            RuntimeHookState.asRegistry, hp, if_true]
          exact h.draw ⟨hl, hp, none, hf.mono (List.prefix_append _ _), rfl, h.nextToolCallId i⟩
      · have hkeep : keep runtime kept = none := if_neg hp
        simp only [next, hi, hc, hkeep, Option.bind_none]
        exact h.moveTo ⟨runtime, kept, hl, Or.inl ⟨by simpa using hp, hf⟩⟩
    | _ => simpa [next, hi, hc] using h

theorem inv_post {σ : ToolCalls Value Manager Ctx} (h : Inv api σ) (i : ℕ)
    (invoke : Invocation Value Manager Ctx → PipelineResult Value Ctx) :
    Inv api (next api σ (.post i invoke)) := by
  cases hi : σ.calls i with
  | none => simpa [next, hi] using h
  | some c =>
    have hhist := h.history i c hi
    cases hc : c.phase with
    | posting runtime contextTable toolCallId response =>
      obtain ⟨hl, hp, kept, hf, hk⟩ : c.loaded = .active runtime ∧
          runtime.hasPostHook = true ∧ ∃ kept,
            FirstHalf σ.draws i runtime (preInvocation c runtime) (runsOf σ.log i) kept ∧
            Continues σ.draws i kept contextTable toolCallId := by
        simpa [History, hc] using hhist
      simp only [next, hi, hc]
      exact h.record ⟨runtime, kept, hl, Or.inr ⟨hp, _, _, _, _, _, hf, hk, rfl⟩⟩
    | _ => simpa [next, hi, hc] using h

theorem inv_next {σ : ToolCalls Value Manager Ctx} (h : Inv api σ)
    (e : ToolCallEvent Value Manager Ctx) : Inv api (next api σ e) := by
  cases e with
  | publish state => exact ⟨h.counter, h.fresh, h.history⟩
  | start i request toolName backendName =>
    cases hi : σ.calls i with
    | some c => simpa [next, hi] using h
    | none =>
      simp only [next, hi]
      exact h.moveTo (h.fresh i hi)
  | before i => exact inv_before h i
  | pre i invoke => exact inv_pre h i invoke
  | respond i response => exact inv_respond h i response
  | after i => exact inv_after h i
  | post i invoke => exact inv_post h i invoke

/-- A step changes at most the phase of one call, or begins one with the published state. -/
theorem next_calls (σ : ToolCalls Value Manager Ctx) (e : ToolCallEvent Value Manager Ctx) :
    (next api σ e).calls = σ.calls ∨
    (∃ j c phase, σ.calls j = some c ∧
      (next api σ e).calls = Function.update σ.calls j (some { c with phase })) ∨
    (∃ j request toolName backendName, e = .start j request toolName backendName ∧
      σ.calls j = none ∧ (next api σ e).calls = Function.update σ.calls j
        (some ⟨request, toolName, backendName, σ.runtime, .loaded⟩)) := by
  cases e with
  | publish state => exact Or.inl rfl
  | start i request toolName backendName =>
    simp only [next]
    split
    · exact Or.inr (Or.inr ⟨_, _, _, _, rfl, ‹_›, rfl⟩)
    · exact Or.inl rfl
  | before i | pre i _ | respond i _ | after i | post i _ =>
    simp only [next]
    -- every branch leaves the calls as they are or moves the call it has found
    repeat' split
    all_goals first
      | exact Or.inl rfl
      | exact Or.inr (Or.inl ⟨_, _, _, ‹_›, rfl⟩)

omit [DecidableEq Value] in
/-- The pipelines that a call has run: none, those of its first half, or those and then one for
the post hook. -/
theorem History.cases {draws : List ℕ} {runs : List (PipelineRun Value Manager Ctx)} {i : ℕ}
    {c : PluginCall Value Manager Ctx} (h : History api draws runs i c) :
    runs = [] ∨
    (∃ runtime kept, c.loaded = .active runtime ∧
      FirstHalf draws i runtime (preInvocation c runtime) runs kept) ∨
    (∃ runtime kept first contextTable toolCallId response result, c.loaded = .active runtime ∧
      runtime.hasPostHook = true ∧
      FirstHalf draws i runtime (preInvocation c runtime) first kept ∧
      Continues draws i kept contextTable toolCallId ∧
      runs = first ++ [⟨i, runtime.toolPostInvocation api c.toolName response toolCallId
        contextTable, result⟩]) := by
  unfold History at h
  cases hc : c.phase with
  | loaded =>
    rw [hc] at h
    exact Or.inl h
  | drawn toolCallId =>
    rw [hc] at h
    exact Or.inl h.1
  | waiting pre =>
    rw [hc] at h
    obtain ⟨runtime, kept, hl, hf, -⟩ := h
    exact Or.inr (Or.inl ⟨runtime, kept, hl, hf⟩)
  | responded state response =>
    rw [hc] at h
    obtain ⟨runtime, kept, hl, hf, -⟩ := h
    exact Or.inr (Or.inl ⟨runtime, kept, hl, hf⟩)
  | posting runtime contextTable toolCallId response =>
    rw [hc] at h
    obtain ⟨hl, -, kept, hf, -⟩ := h
    exact Or.inr (Or.inl ⟨runtime, kept, hl, hf⟩)
  | rejected error =>
    rw [hc] at h
    rcases h with h | ⟨runtime, kept, hl, hf⟩
    · exact Or.inl h
    · exact Or.inr (Or.inl ⟨runtime, kept, hl, hf⟩)
  | completed result =>
    rw [hc] at h
    obtain ⟨runtime, kept, hl, h⟩ := h
    rcases h with ⟨-, hf⟩ | ⟨hp, first, ctx, id, response, r, hf, hk, hr⟩
    · exact Or.inr (Or.inl ⟨runtime, kept, hl, hf⟩)
    · exact Or.inr (Or.inr ⟨runtime, kept, first, ctx, id, response, r, hl, hp, hf, hk, hr⟩)

end ToolCalls

/-- The tool call id that a pipeline was given. -/
def PipelineRun.toolCallId (r : PipelineRun Value Manager Ctx) : Option String :=
  match r.invocation.payload.message.content.head? with
  | some (.toolCall content) => some content.toolCallId
  | some (.toolResult content) => some content.toolCallId
  | _ => none

namespace ToolCalls

theorem toolPostInvoke_ne : toolPostInvoke ≠ toolPreInvoke := by decide

theorem FirstHalf.hook {draws : List ℕ} {i : ℕ} {c : PluginCall Value Manager Ctx}
    {runtime : GatewayPluginRuntime Manager} {runs : List (PipelineRun Value Manager Ctx)}
    {kept : Option (ToolCallState Ctx)}
    (h : FirstHalf draws i runtime (preInvocation c runtime) runs kept)
    {r : PipelineRun Value Manager Ctx} (hr : r ∈ runs) : r.invocation.hook = toolPreInvoke := by
  cases h with
  | skipped _ => cases hr
  | ran _ toolCallId _ result =>
    obtain rfl := List.mem_singleton.1 hr
    rfl

/-- The ids of a call's pipelines are its own. -/
theorem History.owned {api : CmfApi Value} {draws : List ℕ}
    {runs : List (PipelineRun Value Manager Ctx)} {i : ℕ} {c : PluginCall Value Manager Ctx}
    (h : History api draws runs i c) {r : PipelineRun Value Manager Ctx} (hr : r ∈ runs) :
    ∃ toolCallId, r.toolCallId = some toolCallId ∧ Owned draws i toolCallId := by
  have hfirst : ∀ {runtime first kept},
      FirstHalf draws i runtime (preInvocation c runtime) first kept → r ∈ first →
      ∃ toolCallId, r.toolCallId = some toolCallId ∧ Owned draws i toolCallId := by
    intro runtime first kept hf hr
    cases hf with
    | skipped _ => cases hr
    | ran _ toolCallId howned result =>
      obtain rfl := List.mem_singleton.1 hr
      exact ⟨toolCallId, rfl, howned⟩
  rcases h.cases with rfl | ⟨runtime, kept, -, hf⟩ |
    ⟨runtime, kept, first, ctx, id, response, result, -, -, hf, hk, rfl⟩
  · cases hr
  · exact hfirst hf hr
  · rcases List.mem_append.1 hr with hr | hr
    · exact hfirst hf hr
    · obtain rfl := List.mem_singleton.1 hr
      refine ⟨id, rfl, ?_⟩
      cases hf with
      | skipped _ => exact hk.2
      | ran _ toolCallId howned result => exact hk.2 ▸ howned

/-- A post pipeline runs on the runtime that its call has loaded, with the context table and the
id of the call's own pre pipeline, if that runtime has a pre hook. -/
theorem History.post {api : CmfApi Value} {draws : List ℕ}
    {runs : List (PipelineRun Value Manager Ctx)} {i : ℕ} {c : PluginCall Value Manager Ctx}
    (h : History api draws runs i c) {r : PipelineRun Value Manager Ctx} (hr : r ∈ runs)
    (hhook : r.invocation.hook = toolPostInvoke) :
    c.loaded = .active r.invocation.runtime ∧ r.invocation.runtime.hasPostHook = true ∧
      (r.invocation.runtime.hasPreHook = true →
        ∃ p ∈ runs, p.invocation.hook = toolPreInvoke ∧
          p.invocation.runtime = r.invocation.runtime ∧
          r.invocation.contextTable = some p.result.contextTable ∧
          r.toolCallId = p.toolCallId) := by
  rcases h.cases with rfl | ⟨runtime, kept, -, hf⟩ |
    ⟨runtime, kept, first, ctx, id, response, result, hl, hp, hf, hk, rfl⟩
  · cases hr
  · exact absurd (hhook.symm.trans (hf.hook hr)) toolPostInvoke_ne
  · rcases List.mem_append.1 hr with hr | hr
    · exact absurd (hhook.symm.trans (hf.hook hr)) toolPostInvoke_ne
    · obtain rfl := List.mem_singleton.1 hr
      refine ⟨hl, hp, fun hpre => ?_⟩
      cases hf with
      | skipped hno => cases hno.symm.trans hpre
      | ran _ toolCallId howned pre =>
        obtain ⟨rfl, rfl⟩ := hk
        exact ⟨_, List.mem_append_left _ (List.mem_singleton_self _), rfl, rfl, rfl, rfl⟩

/-- When `after_tool_call` has returned, the post pipeline has run if and only if the runtime has
a post hook. -/
theorem History.completed {api : CmfApi Value} {draws : List ℕ}
    {runs : List (PipelineRun Value Manager Ctx)} {i : ℕ} {c : PluginCall Value Manager Ctx}
    (h : History api draws runs i c) {result : Except ErrorData (CallToolResult Value)}
    (hc : c.phase = .completed result) :
    ∃ runtime, c.loaded = .active runtime ∧
      (runtime.hasPostHook = true ↔ ∃ r ∈ runs, r.invocation.hook = toolPostInvoke) := by
  unfold History at h
  rw [hc] at h
  obtain ⟨runtime, kept, hl, ⟨hp, hf⟩ | ⟨hp, first, ctx, id, response, r, hf, hk, rfl⟩⟩ := h
  · refine ⟨runtime, hl, fun hpost => absurd hpost (by simp [hp]), ?_⟩
    rintro ⟨r, hr, hhook⟩
    exact absurd (hhook.symm.trans (hf.hook hr)) toolPostInvoke_ne
  · exact ⟨runtime, hl, fun _ => ⟨_, List.mem_append_right _ (List.mem_singleton_self _), rfl⟩,
      fun _ => hp⟩

/-! ### Runs -/

variable [DecidableEq Value]

theorem inv_run (api : CmfApi Value) (state : RuntimeState Manager)
    (es : List (ToolCallEvent Value Manager Ctx)) : Inv api (run (next api) (new state) es) := by
  have hstep : ∀ (σ : ToolCalls Value Manager Ctx) e, Inv api σ → Inv api (next api σ e) :=
    fun _ e h => inv_next h e
  exact run_invariant hstep ⟨rfl, fun _ _ => rfl, fun _ _ h => by cases h⟩ es

/-- A call keeps the state that it has loaded. -/
theorem loaded_run (api : CmfApi Value) {σ : ToolCalls Value Manager Ctx} {i : ℕ}
    {state : RuntimeState Manager} (h : ∃ c, σ.calls i = some c ∧ c.loaded = state)
    (es : List (ToolCallEvent Value Manager Ctx)) :
    ∃ c, (run (next api) σ es).calls i = some c ∧ c.loaded = state := by
  have hstep : ∀ (σ : ToolCalls Value Manager Ctx) e,
      (∃ c, σ.calls i = some c ∧ c.loaded = state) →
      ∃ c, (next api σ e).calls i = some c ∧ c.loaded = state := by
    rintro σ e ⟨c, hi, hl⟩
    rcases next_calls σ e with hc | ⟨j, d, phase, hj, hc⟩ |
      ⟨j, request, toolName, backendName, -, hj, hc⟩
    · exact ⟨c, by rw [hc]; exact hi, hl⟩
    · by_cases hij : i = j
      · subst hij
        obtain rfl : d = c := Option.some.inj (hj.symm.trans hi)
        exact ⟨{ d with phase }, by rw [hc, Function.update_self], hl⟩
      · exact ⟨c, by rw [hc, Function.update_of_ne hij]; exact hi, hl⟩
    · have hij : i ≠ j := by
        rintro rfl
        rw [hj] at hi
        cases hi
      exact ⟨c, by rw [hc, Function.update_of_ne hij]; exact hi, hl⟩
  exact run_invariant hstep h es

/-- Call `i` is pinned to `state`. Its post pipeline runs only if `state` is an active runtime with
a post hook, on that runtime, and with the context table and the id of its own pre pipeline if the
runtime has a pre hook; and once its `after_tool_call` has returned, the post pipeline has run if
and only if the runtime has a post hook. -/
structure PinnedTo (σ : ToolCalls Value Manager Ctx) (i : ℕ) (state : RuntimeState Manager) :
    Prop where
  post : ∀ r ∈ σ.log, r.call = i → r.invocation.hook = toolPostInvoke →
    state = .active r.invocation.runtime ∧ r.invocation.runtime.hasPostHook = true ∧
      (r.invocation.runtime.hasPreHook = true →
        ∃ p ∈ σ.log, p.call = i ∧ p.invocation.hook = toolPreInvoke ∧
          p.invocation.runtime = r.invocation.runtime ∧
          r.invocation.contextTable = some p.result.contextTable ∧
          r.toolCallId = p.toolCallId)
  completed : ∀ c result, σ.calls i = some c → c.phase = .completed result →
    ∃ runtime, state = .active runtime ∧
      (runtime.hasPostHook = true ↔
        ∃ r ∈ σ.log, r.call = i ∧ r.invocation.hook = toolPostInvoke)

omit [DecidableEq Value] in
theorem mem_runsOf {log : List (PipelineRun Value Manager Ctx)} {i : ℕ}
    {r : PipelineRun Value Manager Ctx} : r ∈ runsOf log i ↔ r ∈ log ∧ r.call = i := by
  simp [runsOf]

omit [DecidableEq Value] in
theorem pinnedTo_of_inv {api : CmfApi Value} {σ : ToolCalls Value Manager Ctx} (h : Inv api σ)
    {i : ℕ} {c : PluginCall Value Manager Ctx} (hi : σ.calls i = some c) :
    PinnedTo σ i c.loaded := by
  have hhist := h.history i c hi
  refine ⟨fun r hr hri hhook => ?_, fun c' result hc' hphase => ?_⟩
  · obtain ⟨hl, hp, hpre⟩ := hhist.post (mem_runsOf.2 ⟨hr, hri⟩) hhook
    refine ⟨hl, hp, fun h => ?_⟩
    obtain ⟨p, hmem, hrest⟩ := hpre h
    exact ⟨p, (mem_runsOf.1 hmem).1, (mem_runsOf.1 hmem).2, hrest⟩
  · obtain rfl : c = c' := Option.some.inj (hi.symm.trans hc')
    obtain ⟨runtime, hl, hiff⟩ := hhist.completed hphase
    refine ⟨runtime, hl, hiff.trans ?_⟩
    simp only [mem_runsOf, and_assoc]

omit [DecidableEq Value] in
/-- Pipelines that were given the same id belong to one call. -/
theorem ids_distinct {api : CmfApi Value} {σ : ToolCalls Value Manager Ctx} (h : Inv api σ)
    (hn : σ.draws.length < 2 ^ 64) {r r' : PipelineRun Value Manager Ctx} (hr : r ∈ σ.log)
    (hr' : r' ∈ σ.log) (hid : r.toolCallId = r'.toolCallId) : r.call = r'.call := by
  have howned : ∀ q ∈ σ.log, ∃ id, q.toolCallId = some id ∧ Owned σ.draws q.call id := by
    intro q hq
    have hmem : q ∈ runsOf σ.log q.call := mem_runsOf.2 ⟨hq, rfl⟩
    cases hc : σ.calls q.call with
    | none =>
      rw [h.fresh q.call hc] at hmem
      cases hmem
    | some c => exact (h.history q.call c hc).owned hmem
  obtain ⟨id, h₁, k, hk, rfl⟩ := howned r hr
  obtain ⟨id', h₂, l, hl, rfl⟩ := howned r' hr'
  have hkl : k = l := idAt_inj hn (List.getElem?_eq_some_iff.1 hk).1
    (List.getElem?_eq_some_iff.1 hl).1 (Option.some.inj (h₁.symm.trans (hid.trans h₂)))
  subst hkl
  exact Option.some.inj (hk.symm.trans hl)

/-! ### A call comes to its end -/

/-- Call `i` is at `c`, and has run the pipelines `runs`. -/
def At (i : ℕ) (c : PluginCall Value Manager Ctx) (runs : List (PipelineRun Value Manager Ctx))
    (σ : ToolCalls Value Manager Ctx) : Prop :=
  σ.calls i = some c ∧ runsOf σ.log i = runs

/-- The call has been rejected or completed. -/
def Ended (c : PluginCall Value Manager Ctx) : Prop :=
  (∃ e, c.phase = .rejected e) ∨ ∃ result, c.phase = .completed result

section

variable {api : CmfApi Value} {σ : ToolCalls Value Manager Ctx} {i : ℕ}
  {c : PluginCall Value Manager Ctx} {runs : List (PipelineRun Value Manager Ctx)}

omit [DecidableEq Value] in
theorem At.moveTo (h : At i c runs σ) (phase : Phase Value Manager Ctx) :
    At i { c with phase } runs (σ.moveTo i c phase) :=
  ⟨Function.update_self _ _ _, h.2⟩

omit [DecidableEq Value] in
theorem At.record (h : At i c runs σ) (v : Invocation Value Manager Ctx) (r : PipelineResult Value Ctx) :
    At i c (runs ++ [⟨i, v, r⟩]) (σ.record i v r) :=
  ⟨h.1, by rw [← h.2]; exact runsOf_append_self σ.log i v r⟩

omit [DecidableEq Value] in
theorem At.moveTo_of_ne (h : At i c runs σ) {j : ℕ} (hij : i ≠ j) (d : PluginCall Value Manager Ctx)
    (phase : Phase Value Manager Ctx) : At i c runs (σ.moveTo j d phase) :=
  ⟨(Function.update_of_ne hij _ _).trans h.1, h.2⟩

omit [DecidableEq Value] in
theorem At.record_of_ne (h : At i c runs σ) {j : ℕ} (hij : i ≠ j) (v : Invocation Value Manager Ctx)
    (r : PipelineResult Value Ctx) : At i c runs (σ.record j v r) :=
  ⟨h.1, (runsOf_append_of_ne σ.log hij v r).trans h.2⟩

/-- What is about other calls leaves the call where it is. -/
theorem At.next_of_other (h : At i c runs σ) {e : ToolCallEvent Value Manager Ctx}
    (he : concerns i e = false) : At i c runs (next api σ e) := by
  cases e with
  | publish state => exact h
  | start j | before j | pre j | respond j | after j | post j =>
    have hij : i ≠ j := fun hij => of_decide_eq_false he hij.symm
    simp only [next]
    -- every branch leaves the calls as they are or moves call `j`, which may have run a pipeline
    repeat' split
    all_goals first
      | exact h
      | exact h.moveTo_of_ne hij _ _
      | exact (h.record_of_ne hij _ _).moveTo_of_ne hij _ _

/-- A call that has ended stays where it is. -/
theorem At.next_of_ended (h : At i c runs σ) (hc : Ended c) (e : ToolCallEvent Value Manager Ctx) :
    At i c runs (next api σ e) := by
  cases he : concerns i e with
  | false => exact h.next_of_other he
  | true =>
    cases e with
    | publish state => cases he
    | start j | before j | pre j | respond j | after j | post j =>
      obtain rfl : j = i := of_decide_eq_true he
      rcases hc with ⟨_, hc⟩ | ⟨_, hc⟩ <;> simpa [next, h.1, hc] using h

theorem At.run_of_ended (h : At i c runs σ) (hc : Ended c) (es : List (ToolCallEvent Value Manager Ctx)) :
    At i c runs (run (next api) σ es) :=
  run_invariant (fun _ e h => h.next_of_ended hc e) h es

variable (api) in
/-- The next step of the call finds it where it is. -/
theorem At.run_filter_cons (h : At i c runs σ) {es rest : List (ToolCallEvent Value Manager Ctx)}
    {e : ToolCallEvent Value Manager Ctx} (hes : es.filter (concerns i) = e :: rest) :
    ∃ σ' es', At i c runs σ' ∧ es'.filter (concerns i) = rest ∧
      run (next api) σ es = run (next api) (next api σ' e) es' :=
  Runs.run_filter_cons (concerns i) (fun _ _ he h => h.next_of_other he) h hes

/-- From `before_tool_call` on: the response arrives, and `after_tool_call` takes its steps. -/
theorem At.run_of_waiting (h : At i c runs σ) {kept : ToolPreCallResult Value Manager Ctx}
    (hc : c.phase = .waiting kept) {response : CallToolResult Value}
    {post : Invocation Value Manager Ctx → PipelineResult Value Ctx}
    {es : List (ToolCallEvent Value Manager Ctx)}
    (hes : es.filter (concerns i) = [.respond i (.ok response), .after i, .post i post]) :
    ∃ n, let after := GatewayPluginRuntimeHandle.afterToolCall api post c.toolName response kept.state n
      At i { c with phase := .completed after.result }
        (runs ++ after.invoked.map fun v => ⟨i, v, post v⟩) (run (next api) σ es) := by
  obtain ⟨σ₁, es₁, h₁, hes₁, hrun₁⟩ := h.run_filter_cons api hes
  have hresponded : At i { c with phase := .responded kept.state response } runs
      (next api σ₁ (.respond i (.ok response))) := by
    simp only [next, h₁.1, hc]
    exact h₁.moveTo _
  obtain ⟨σ₂, es₂, h₂, hes₂, hrun₂⟩ := hresponded.run_filter_cons api hes₁
  refine ⟨σ₂.counter, ?_⟩
  rw [hrun₁, hrun₂]
  -- what is left is `post`, and what is about others
  cases hr : kept.state.bind RuntimeHookState.asRegistry with
  | none =>
    have hafter : At i { c with phase := .completed (.ok response) } runs (next api σ₂ (.after i)) := by
      simp only [next, h₂.1, hr]
      exact h₂.moveTo _
    simp only [GatewayPluginRuntimeHandle.afterToolCall, hr, List.map_nil, List.append_nil]
    exact hafter.run_of_ended (Or.inr ⟨_, rfl⟩) es₂
  | some registered =>
    obtain ⟨runtime, state⟩ := registered
    by_cases hp : runtime.hasPostHook = true
    · let posted := GatewayPluginRuntime.postState state σ₂.counter
      have hafter : At i { c with phase := .posting runtime posted.1 posted.2.1 response } runs
          (next api σ₂ (.after i)) := by
        cases ht : state.bind RuntimeHookState.asToolCall with
        | none =>
          simp only [posted, next, h₂.1, hr, hp, ht, if_true, GatewayPluginRuntime.postState]
          exact h₂.moveTo _
        | some toolCall =>
          simp only [posted, next, h₂.1, hr, hp, ht, if_true, GatewayPluginRuntime.postState]
          exact h₂.moveTo _
      obtain ⟨σ₃, es₃, h₃, -, hrun₃⟩ := hafter.run_filter_cons api hes₂
      rw [hrun₃]
      simp only [GatewayPluginRuntimeHandle.afterToolCall, GatewayPluginRuntime.afterToolCall, hr, hp,
        if_true, List.map_cons, List.map_nil]
      refine At.run_of_ended ?_ (Or.inr ⟨_, rfl⟩) es₃
      simp only [next, h₃.1]
      exact (h₃.record _ _).moveTo _
    · have hafter : At i { c with phase := .completed (.ok response) } runs (next api σ₂ (.after i)) := by
        simp only [next, h₂.1, hr, hp]
        exact h₂.moveTo _
      simp only [GatewayPluginRuntimeHandle.afterToolCall, GatewayPluginRuntime.afterToolCall, hr, hp,
        Bool.false_eq_true, if_false, List.map_nil, List.append_nil]
      exact hafter.run_of_ended (Or.inr ⟨_, rfl⟩) es₂

variable (api) in
/-- A call whose steps all occur comes to the end that it has alone. -/
theorem At.run_of_loaded {state : RuntimeState Manager} {request : CallToolRequestParams Value}
    {toolName backendName : String} (h : At i ⟨request, toolName, backendName, state, .loaded⟩ [] σ)
    {response : CallToolResult Value}
    {pre post : Invocation Value Manager Ctx → PipelineResult Value Ctx}
    {es : List (ToolCallEvent Value Manager Ctx)}
    (hes : es.filter (concerns i) =
      [.before i, .pre i pre, .respond i (.ok response), .after i, .post i post]) :
    ∃ m n, let ended := alone api i state request toolName backendName response pre post m n
      At i ⟨request, toolName, backendName, state, ended.1⟩ ended.2 (run (next api) σ es) := by
  obtain ⟨σ₁, es₁, h₁, hes₁, hrun₁⟩ := h.run_filter_cons api hes
  refine ⟨σ₁.counter, ?_⟩
  rw [hrun₁]
  cases state with
  | failed e =>
    have hbefore : At i ⟨request, toolName, backendName, .failed e, .rejected runtimeFailedError⟩ []
        (next api σ₁ (.before i)) := by
      simp only [next, h₁.1]
      exact h₁.moveTo _
    exact ⟨σ₁.counter, hbefore.run_of_ended (Or.inl ⟨_, rfl⟩) es₁⟩
  | active runtime =>
    by_cases hp : runtime.hasPreHook = true
    · have hbefore : At i ⟨request, toolName, backendName, .active runtime,
          .drawn (nextToolCallId σ₁.counter).1⟩ [] (next api σ₁ (.before i)) := by
        simp only [next, h₁.1, hp, if_true]
        exact h₁.moveTo _
      obtain ⟨σ₂, es₂, h₂, hes₂, hrun₂⟩ := hbefore.run_filter_cons api hes₁
      rw [hrun₂]
      simp only [alone, GatewayPluginRuntimeHandle.beforeToolCall, GatewayPluginRuntime.beforeToolCall, hp,
        if_true, List.map_cons, List.map_nil]
      generalize hid : (nextToolCallId σ₁.counter).1 = toolCallId at h₂ ⊢
      generalize hv : runtime.toolPreInvocation request toolName backendName toolCallId = v
      have hpre : At i ⟨request, toolName, backendName, .active runtime,
          phaseOf ((GatewayPluginRuntime.afterToolPre request toolCallId (pre v)).map
            (GatewayPluginRuntimeHandle.wrapState runtime))⟩ [⟨i, v, pre v⟩]
          (next api σ₂ (.pre i pre)) := by
        simp only [next, h₂.1, hv]
        exact (h₂.record v (pre v)).moveTo _
      cases hr : (GatewayPluginRuntime.afterToolPre request toolCallId (pre v)).map
          (GatewayPluginRuntimeHandle.wrapState runtime) with
      | error e =>
        rw [hr] at hpre
        exact ⟨σ₁.counter, hpre.run_of_ended (Or.inl ⟨_, rfl⟩) es₂⟩
      | ok kept =>
        rw [hr] at hpre
        exact hpre.run_of_waiting rfl hes₂
    · have hbefore : At i ⟨request, toolName, backendName, .active runtime,
          .waiting (GatewayPluginRuntimeHandle.wrapState runtime ToolPreCallResult.unchanged)⟩ [] (next api σ₁ (.before i)) := by
        simp only [next, h₁.1, hp]
        exact h₁.moveTo _
      obtain ⟨σ₂, es₂, h₂, hes₂, hrun₂⟩ := hbefore.run_filter_cons api hes₁
      have hpre : next api σ₂ (.pre i pre) = σ₂ := by simp only [next, h₂.1]
      rw [hrun₂, hpre]
      simp only [alone, GatewayPluginRuntimeHandle.beforeToolCall, GatewayPluginRuntime.beforeToolCall, hp,
        Bool.false_eq_true, if_false, List.map_nil]
      exact h₂.run_of_waiting rfl hes₂

end

/-- The pre pipeline lets the call through, whatever id it draws. -/
def LetsThrough (runtime : GatewayPluginRuntime Manager) (request : CallToolRequestParams Value)
    (toolName backendName : String) (pre : Invocation Value Manager Ctx → PipelineResult Value Ctx) : Prop :=
  ∀ toolCallId, ∃ kept : ToolPreCallResult Value Manager Ctx, GatewayPluginRuntime.afterToolPre request
    toolCallId (pre (runtime.toolPreInvocation request toolName backendName toolCallId)) = .ok kept

/-- Call `i`, which has loaded `state`, has come to the end that it has alone, with the ids of some two
moments; and unless its pre pipeline has rejected it, it is completed, with its post pipeline run if and
only if the runtime has a post hook. -/
structure ComesToEnd (api : CmfApi Value) (σ : ToolCalls Value Manager Ctx) (i : ℕ)
    (state : RuntimeState Manager) (request : CallToolRequestParams Value) (toolName backendName : String)
    (response : CallToolResult Value)
    (pre post : Invocation Value Manager Ctx → PipelineResult Value Ctx) : Prop where
  alone : ∃ m n c, σ.calls i = some c ∧
    (c.phase, runsOf σ.log i) = alone api i state request toolName backendName response pre post m n
  completed : ∀ runtime, state = .active runtime →
    (runtime.hasPreHook = true → LetsThrough runtime request toolName backendName pre) →
    ∃ c result, σ.calls i = some c ∧ c.phase = .completed result ∧
      (runtime.hasPostHook = true ↔ ∃ r ∈ σ.log, r.call = i ∧ r.invocation.hook = toolPostInvoke)

/-- A call that is let through is completed. -/
theorem alone_completed (api : CmfApi Value) (i : ℕ) {runtime : GatewayPluginRuntime Manager}
    {request : CallToolRequestParams Value} {toolName backendName : String}
    {pre : Invocation Value Manager Ctx → PipelineResult Value Ctx}
    (hpre : runtime.hasPreHook = true → LetsThrough runtime request toolName backendName pre)
    (response : CallToolResult Value) (post : Invocation Value Manager Ctx → PipelineResult Value Ctx)
    (m n : UInt64) :
    ∃ result, (alone api i (.active runtime) request toolName backendName response pre post m n).1 =
      .completed result := by
  unfold alone GatewayPluginRuntimeHandle.beforeToolCall GatewayPluginRuntime.beforeToolCall
  by_cases hp : runtime.hasPreHook = true
  · obtain ⟨kept, hkept⟩ := hpre hp (nextToolCallId m).1
    simp only [hp, if_true, hkept, Except.map]
    exact ⟨_, rfl⟩
  · simp only [hp, Bool.false_eq_true, if_false, Except.map]
    exact ⟨_, rfl⟩

/-- The state in which a call begins. -/
theorem at_start {api : CmfApi Value} {σ : ToolCalls Value Manager Ctx} (h : Inv api σ) {i : ℕ}
    (hi : σ.calls i = none) (request : CallToolRequestParams Value) (toolName backendName : String) :
    At i ⟨request, toolName, backendName, σ.runtime, .loaded⟩ []
      (next api σ (.start i request toolName backendName)) := by
  simp only [next, hi]
  exact ⟨Function.update_self _ _ _, h.fresh i hi⟩

/-- **A tool call is pinned to one runtime.** Whatever the interleaving of tool calls and
publications, each call is pinned to the state that was published when its `before_tool_call`
started; a call whose steps have all occurred, with a response of its backend, has come to its end; and
while fewer than `2 ^ 64` ids have been drawn, no two calls share one. -/
theorem toolCalls_pinned (api : CmfApi Value) (state : RuntimeState Manager)
    (es : List (ToolCallEvent Value Manager Ctx)) :
    (∀ es₁ i request toolName backendName es₂,
      es = es₁ ++ .start i request toolName backendName :: es₂ →
      (run (next api) (new state) es₁).calls i = none →
      PinnedTo (run (next api) (new state) es) i (run (next api) (new state) es₁).runtime ∧
      ∀ response pre post,
        es₂.filter (concerns i) =
          [.before i, .pre i pre, .respond i (.ok response), .after i, .post i post] →
        ComesToEnd api (run (next api) (new state) es) i (run (next api) (new state) es₁).runtime request
          toolName backendName response pre post) ∧
    ((run (next api) (new state) es).draws.length < 2 ^ 64 →
      ∀ r ∈ (run (next api) (new state) es).log, ∀ r' ∈ (run (next api) (new state) es).log,
        r.toolCallId = r'.toolCallId → r.call = r'.call) := by
  have hinv := inv_run api state es
  refine ⟨?_, fun hn r hr r' hr' hid => ids_distinct hinv hn hr hr' hid⟩
  rintro es₁ i request toolName backendName es₂ rfl hfresh
  have hstart := at_start (inv_run api state es₁) hfresh request toolName backendName
  obtain ⟨c, hi, hl⟩ := loaded_run api ⟨_, hstart.1, rfl⟩ es₂
  rw [← run_cons, ← run_append] at hi
  have hpinned := hl ▸ pinnedTo_of_inv hinv hi
  refine ⟨hpinned, fun response pre post hes₂ => ?_⟩
  obtain ⟨m, n, hcalls, hruns⟩ := hstart.run_of_loaded api hes₂
  rw [← run_cons, ← run_append] at hcalls hruns
  refine ⟨⟨m, n, _, hcalls, by rw [hruns]⟩, fun runtime hactive hpre => ?_⟩
  rw [hactive] at hcalls hpinned
  obtain ⟨result, hresult⟩ := alone_completed api i hpre response post m n
  obtain ⟨runtime', hruntime, hiff⟩ := hpinned.completed _ result hcalls hresult
  obtain rfl := RuntimeState.active.inj hruntime
  exact ⟨_, result, hcalls, hresult, hiff⟩

/-! ### A call across a reload that fails -/

namespace AcrossReload

/-- A runtime with both hooks. -/
def twoHooks : GatewayPluginRuntime Unit := ⟨(), true, true⟩

def request : CallToolRequestParams Unit := ⟨"echo", none, none, none⟩

def response : CallToolResult Unit := ⟨[], none, none, none⟩

def api : CmfApi Unit :=
  ⟨(), fun _ => none, fun _ => "", fun _ => none, fun _ => none, fun _ => (), fun _ => ""⟩

/-- Pipelines that neither deny nor modify. -/
def untouched : Invocation Unit Unit Unit → PipelineResult Unit Unit := fun _ => ⟨false, none, none, ()⟩

/-- A reload fails while the call waits for its backend. -/
def steps : List (ToolCallEvent Unit Unit Unit) :=
  [.before 0, .pre 0 untouched, .publish (.failed "reload"), .respond 0 (.ok response), .after 0,
    .post 0 untouched]

/-- The state at the end. -/
def state : ToolCalls Unit Unit Unit :=
  run (next api) (new (.active twoHooks)) (.start 0 request "echo" "tools" :: steps)

end AcrossReload

open AcrossReload in
theorem toolCalls_pinned_acrossReload :
    ∃ c result, state.calls 0 = some c ∧ c.phase = .completed result ∧
      ∃ r ∈ state.log, r.call = 0 ∧ r.invocation.hook = toolPostInvoke := by
  have hcalls := (toolCalls_pinned api (.active twoHooks) (.start 0 request "echo" "tools" :: steps)).1
  have hend := (hcalls [] 0 request "echo" "tools" steps rfl rfl).2 response untouched untouched rfl
  obtain ⟨c, result, hcall, hphase, hpost⟩ := hend.completed twoHooks rfl fun _ toolCallId => ⟨_, rfl⟩
  exact ⟨c, result, hcall, hphase, hpost.1 rfl⟩

end ToolCalls

end ContextForge
