import ContextForgeGateway.Mcp
import Mathlib.Data.List.Perm.Basic

/-!
# Plugin payloads

A plugin sees a tool call and its result as a message. This module builds the messages that the
gateway hands to the plugin pipelines and reads back the ones that the plugins hand to the
gateway: `cmf.rs`, `hooks.rs` and `pipeline.rs`.
-/

namespace ContextForge

/-- `cpex_core::cmf::Role`, as far as the gateway sets it. -/
inductive Role
  | assistant
  | tool
  | user
  deriving DecidableEq

section

variable (Value : Type)

/-- `cpex_core::cmf::ToolCall`. Its arguments are a hash map. -/
structure ToolCall where
  toolCallId : String
  name : String
  arguments : KeyedList String Value
  toolNamespace : Option String

/-- `cpex_core::cmf::ToolResult`. -/
structure ToolResult where
  toolCallId : String
  toolName : String
  content : Value
  isError : Bool

/-- `cpex_core::cmf::ContentPart`. -/
inductive ContentPart
  | toolCall (content : ToolCall Value)
  | toolResult (content : ToolResult Value)
  | text (text : String)
  | other (content : Value)

/-- `cpex_core::cmf::Message`. -/
structure Message where
  schemaVersion : String
  role : Role
  content : List (ContentPart Value)
  channel : Option String

/-- `cpex_core::cmf::MessagePayload`. -/
structure MessagePayload where
  message : Message Value

/-- What a pipeline may return as the modified payload: a message, or a value of another type. -/
inductive PluginPayload
  | message (payload : MessagePayload Value)
  | other

/-- `cpex_core::error::PluginViolation`, as far as the gateway reads it. -/
structure PluginViolation where
  protoErrorCode : Option ℤ

/-- `cpex_core::executor::PipelineResult`; `Ctx` is the plugin context table. -/
structure PipelineResult (Ctx : Type) where
  isDenied : Bool
  violation : Option PluginViolation
  modifiedPayload : Option (PluginPayload Value)
  contextTable : Ctx

/-- What `cmf.rs` uses of the JSON library and of the SDK. -/
structure CmfApi where
  null : Value
  /-- The text of a `Value::String`. -/
  asStr : Value → Option String
  /-- `value.to_string()` -/
  display : Value → String
  toValue : CallToolResult Value → Option Value
  fromValue : Value → Option (CallToolResult Value)
  /-- `Content::text` -/
  contentText : String → Value
  getTextContent : Message Value → String

end

variable {Value Ctx : Type}

/-! ### cmf.rs -/

/-- `Message::get_tool_calls`. -/
def Message.getToolCalls (m : Message Value) : List (ToolCall Value) :=
  m.content.filterMap fun
    | .toolCall content => some content
    | _ => none

/-- `Message::get_tool_results`. -/
def Message.getToolResults (m : Message Value) : List (ToolResult Value) :=
  m.content.filterMap fun
    | .toolResult content => some content
    | _ => none

/-- `tool_call_payload`. -/
def toolCallPayload (request : CallToolRequestParams Value)
    (toolName backendName toolCallId : String) : MessagePayload Value :=
  { message :=
      { schemaVersion := "2.0"
        role := .assistant
        content := [.toolCall
          { toolCallId
            name := toolName
            arguments := request.arguments.getD JsonMap.empty
            toolNamespace := some backendName }]
        channel := none } }

/-- `tool_result_payload`. -/
def toolResultPayload (api : CmfApi Value) (toolName : String) (response : CallToolResult Value)
    (toolCallId : String) : MessagePayload Value :=
  { message :=
      { schemaVersion := "2.0"
        role := .tool
        content := [.toolResult
          { toolCallId
            toolName
            content := (api.toValue response).getD api.null
            isError := response.isError.getD false }]
        channel := none } }

/-- `tool_call_arguments`. -/
def toolCallArguments (payload : MessagePayload Value) : Option (JsonMap Value) :=
  payload.message.getToolCalls.head?.map (·.arguments)

/-- `CallToolResult::success` and `CallToolResult::structured`, or their error forms. -/
def rawToolResult (api : CmfApi Value) (isError : Bool) (value : Value) : CallToolResult Value :=
  match api.asStr value with
  | some text => ⟨[api.contentText text], none, some isError, none⟩
  | none => ⟨[api.contentText (api.display value)], some value, some isError, none⟩

/-- `raw_success_tool_result`. -/
def rawSuccessToolResult (api : CmfApi Value) : Value → CallToolResult Value :=
  rawToolResult api false

/-- `raw_error_tool_result`. -/
def rawErrorToolResult (api : CmfApi Value) : Value → CallToolResult Value :=
  rawToolResult api true

/-- `tool_result_response`. -/
def toolResultResponse (api : CmfApi Value) (original : CallToolResult Value)
    (payload : MessagePayload Value) : CallToolResult Value :=
  let result :=
    match payload.message.getToolResults.head? with
    | none => original
    | some toolResult =>
      match api.fromValue toolResult.content with
      | some result => { result with isError := some toolResult.isError }
      | none =>
        if toolResult.isError then rawErrorToolResult api toolResult.content
        else rawSuccessToolResult api toolResult.content
  let text := api.getTextContent payload.message
  if text.isEmpty then result
  else { result with content := result.content ++ [api.contentText text] }

/-! ### hooks.rs -/

variable (Value) in
/-- `enum ToolArgumentsUpdate`. -/
inductive ToolArgumentsUpdate
  | unchanged
  | replace (arguments : Option (JsonMap Value))

/-- `ToolArgumentsUpdate::apply_to_request`. -/
def ToolArgumentsUpdate.applyToRequest (update : ToolArgumentsUpdate Value)
    (request : CallToolRequestParams Value) (routedToolName : String) :
    CallToolRequestParams Value :=
  let request := { request with name := routedToolName }
  match update with
  | .unchanged => request
  | .replace arguments => { request with arguments }

/-! ### pipeline.rs -/

/-- `modified_message_payload`. -/
def modifiedMessagePayload (result : PipelineResult Value Ctx) : Option (MessagePayload Value) :=
  match result.modifiedPayload with
  | some (.message payload) => some payload
  | _ => none

theorem modifiedMessagePayload_of_none {result : PipelineResult Value Ctx}
    (h : result.modifiedPayload = none) : modifiedMessagePayload result = none := by
  unfold modifiedMessagePayload
  rw [h]

theorem modifiedMessagePayload_of_message {result : PipelineResult Value Ctx}
    {payload : MessagePayload Value} (h : result.modifiedPayload = some (.message payload)) :
    modifiedMessagePayload result = some payload := by
  unfold modifiedMessagePayload
  rw [h]

/-- The error for a modified payload that has lost its tool call. -/
def withoutToolCallError : ErrorData :=
  ⟨ErrorCode.invalidParams, "Plugin modified tool payload without a tool call"⟩

/-- `effective_pre_args`. -/
def effectivePreArgs [DecidableEq Value] (originalArgs : Option (JsonMap Value))
    (preResult : PipelineResult Value Ctx) : Except ErrorData (ToolArgumentsUpdate Value) :=
  match modifiedMessagePayload preResult with
  | none => .ok .unchanged
  | some modifiedPayload =>
    match toolCallArguments modifiedPayload with
    | none => .error withoutToolCallError
    | some arguments =>
      match originalArgs with
      | some original =>
        -- equality of two JSON objects does not see the order of their entries
        if original.entries.Perm arguments.entries then .ok .unchanged
        else .ok (.replace (some arguments))
      | none =>
        if arguments.entries.isEmpty then .ok .unchanged else .ok (.replace (some arguments))

/-- `effective_post_result`. -/
def effectivePostResult (api : CmfApi Value) (original : CallToolResult Value)
    (result : PipelineResult Value Ctx) : CallToolResult Value :=
  match modifiedMessagePayload result with
  | some payload => toolResultResponse api original payload
  | none => original

/-- `i32::try_from`. -/
def i32TryFrom (code : ℤ) : Option ℤ :=
  if -2147483648 ≤ code ∧ code ≤ 2147483647 then some code else none

/-- `plugin_denied_error`. -/
def pluginDeniedError (result : PipelineResult Value Ctx) : ErrorData :=
  let code := (result.violation.bind fun violation =>
    violation.protoErrorCode.bind i32TryFrom).getD ErrorCode.invalidRequest
  ⟨code, "Plugin denied tool call"⟩

/-! ### What the backend will be asked -/

/-- Two optional argument maps that a tool cannot tell apart: the same map, where an absent map
counts as an empty one. -/
def SameArgs (a b : Option (JsonMap Value)) : Prop :=
  (a.getD JsonMap.empty).Same (b.getD JsonMap.empty)

theorem SameArgs.refl (a : Option (JsonMap Value)) : SameArgs a a := KeyedList.Same.refl _

@[simp] theorem applyToRequest_name (update : ToolArgumentsUpdate Value)
    (request : CallToolRequestParams Value) (routedToolName : String) :
    (update.applyToRequest request routedToolName).name = routedToolName := by
  cases update <;> rfl

@[simp] theorem applyToRequest_metaMap (update : ToolArgumentsUpdate Value)
    (request : CallToolRequestParams Value) (routedToolName : String) :
    (update.applyToRequest request routedToolName).metaMap = request.metaMap := by
  cases update <;> rfl

@[simp] theorem applyToRequest_task (update : ToolArgumentsUpdate Value)
    (request : CallToolRequestParams Value) (routedToolName : String) :
    (update.applyToRequest request routedToolName).task = request.task := by
  cases update <;> rfl

/-- The arguments that the plugins leave a request with: those of the first tool call of the
modified payload, and the client's own if no message was modified. -/
def pluginArgs (original : Option (JsonMap Value)) (preResult : PipelineResult Value Ctx) :
    Option (Option (JsonMap Value)) :=
  match modifiedMessagePayload preResult with
  | none => some original
  | some payload => (toolCallArguments payload).map some

/-- `effective_pre_args` fails only on a modified payload without a tool call; the update it
returns leaves the request with the plugins' arguments. -/
theorem effectivePreArgs_cases [DecidableEq Value] (request : CallToolRequestParams Value)
    (preResult : PipelineResult Value Ctx) (routedToolName : String) :
    (pluginArgs request.arguments preResult = none ∧
      effectivePreArgs request.arguments preResult = .error withoutToolCallError) ∨
    (∃ args update, pluginArgs request.arguments preResult = some args ∧
      effectivePreArgs request.arguments preResult = .ok update ∧
      SameArgs (update.applyToRequest request routedToolName).arguments args) := by
  cases hm : modifiedMessagePayload preResult with
  | none =>
    refine Or.inr ⟨request.arguments, .unchanged, ?_, ?_, SameArgs.refl _⟩
    · simp [pluginArgs, hm]
    · simp [effectivePreArgs, hm]
  | some payload =>
    cases ht : toolCallArguments payload with
    | none => exact Or.inl ⟨by simp [pluginArgs, hm, ht], by simp [effectivePreArgs, hm, ht]⟩
    | some args =>
      refine Or.inr ?_
      have hargs : pluginArgs request.arguments preResult = some (some args) := by
        simp [pluginArgs, hm, ht]
      cases ho : request.arguments with
      | some original =>
        by_cases hsame : original.entries.Perm args.entries
        · refine ⟨some args, .unchanged, ho ▸ hargs, ?_, ?_⟩
          · simp [effectivePreArgs, hm, ht, hsame]
          · show SameArgs request.arguments (some args)
            rw [ho]
            exact hsame
        · refine ⟨some args, .replace (some args), ho ▸ hargs, ?_, SameArgs.refl _⟩
          simp [effectivePreArgs, hm, ht, hsame]
      | none =>
        by_cases hempty : args.entries.isEmpty = true
        · refine ⟨some args, .unchanged, ho ▸ hargs, ?_, ?_⟩
          · simp [effectivePreArgs, hm, ht, hempty]
          · show SameArgs request.arguments (some args)
            rw [ho]
            have hnil : args.entries = [] := List.isEmpty_iff.1 hempty
            show List.Perm [] args.entries
            rw [hnil]
        · refine ⟨some args, .replace (some args), ho ▸ hargs, ?_, SameArgs.refl _⟩
          simp [effectivePreArgs, hm, ht, hempty]

end ContextForge
