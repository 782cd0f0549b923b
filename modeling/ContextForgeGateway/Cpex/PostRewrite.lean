import ContextForgeGateway.Cpex.Cmf

/-!
# What a post hook makes of an answer

A post hook that modifies the payload decides with it what the client receives. The gateway reads
the first tool result of the payload, and appends the text of the payload to it.

* `toolResultResponse_verdict`: the error flag of that tool result is the error flag of the answer,
  its content is kept in full whatever it is, and the text comes last.
* `replaces_iff`: the answer depends on nothing but the payload exactly if the payload has a tool
  result. Without one the gateway falls back on the answer of the backend, which the hook had taken
  out of the payload. The pre side refuses a payload without its tool call.
-/

namespace ContextForge

variable {Value : Type}

/-- What the text of a payload adds to the content of an answer. -/
def addedText (api : CmfApi Value) (payload : MessagePayload Value) : List Value :=
  let text := api.getTextContent payload.message
  if text.isEmpty then [] else [api.contentText text]

/-- `tool_result_response`, before the text of the payload is appended. -/
def firstToolResult (api : CmfApi Value) (toolResult : ToolResult Value) : CallToolResult Value :=
  match api.fromValue toolResult.content with
  | some result => { result with isError := some toolResult.isError }
  | none => rawToolResult api toolResult.isError toolResult.content

/-- The answer is made of the first tool result of the payload, or else of the original answer, with
the text of the payload behind its content. -/
theorem toolResultResponse_eq (api : CmfApi Value) (original : CallToolResult Value)
    (payload : MessagePayload Value) :
    toolResultResponse api original payload =
      let result := (payload.message.getToolResults.head?.map (firstToolResult api)).getD original
      { result with content := result.content ++ addedText api payload } := by
  have hraw : ∀ toolResult : ToolResult Value,
      (if toolResult.isError then rawErrorToolResult api toolResult.content
        else rawSuccessToolResult api toolResult.content) =
        rawToolResult api toolResult.isError toolResult.content := by
    intro toolResult
    cases toolResult.isError <;> rfl
  have htext : ∀ result : CallToolResult Value,
      (if (api.getTextContent payload.message).isEmpty then result
        else { result with
          content := result.content ++ [api.contentText (api.getTextContent payload.message)] }) =
        { result with content := result.content ++ addedText api payload } := by
    intro result
    cases hempty : (api.getTextContent payload.message).isEmpty with
    | true => simp [addedText, hempty]
    | false => simp [addedText, hempty]
  unfold toolResultResponse
  cases payload.message.getToolResults.head? with
  | none => exact htext original
  | some toolResult =>
    simp only [hraw]
    exact htext (firstToolResult api toolResult)

/-- The error flag of a tool result is that of the answer that is made of it. -/
theorem firstToolResult_isError (api : CmfApi Value) (toolResult : ToolResult Value) :
    (firstToolResult api toolResult).isError = some toolResult.isError := by
  unfold firstToolResult rawToolResult
  cases api.fromValue toolResult.content with
  | some result => rfl
  | none => cases api.asStr toolResult.content <;> rfl

/-- The plugin's verdict reaches the client: for a payload with a tool result, the answer has the
error flag of the first one and its content, with the text of the payload as one more item behind
it. -/
theorem toolResultResponse_verdict (api : CmfApi Value) (original : CallToolResult Value)
    (payload : MessagePayload Value) (toolResult : ToolResult Value)
    (h : payload.message.getToolResults.head? = some toolResult) :
    let response := toolResultResponse api original payload
    response.isError = some toolResult.isError ∧
    (∀ result, api.fromValue toolResult.content = some result →
      response = { result with
        content := result.content ++ addedText api payload
        isError := some toolResult.isError }) ∧
    (api.fromValue toolResult.content = none →
      (∀ text, api.asStr toolResult.content = some text →
        response.content = [api.contentText text] ++ addedText api payload) ∧
      (api.asStr toolResult.content = none →
        response.structuredContent = some toolResult.content ∧
          response.content =
            [api.contentText (api.display toolResult.content)] ++ addedText api payload)) ∧
    ∀ (Ctx : Type) (postResult : PipelineResult Value Ctx),
      effectivePostResult api original
        { postResult with modifiedPayload := some (.message payload) } = response := by
  have heq : toolResultResponse api original payload =
      { firstToolResult api toolResult with
        content := (firstToolResult api toolResult).content ++ addedText api payload } := by
    rw [toolResultResponse_eq, h]
    rfl
  refine ⟨?_, ?_, ?_, fun _ _ => rfl⟩
  · rw [heq]
    exact firstToolResult_isError api toolResult
  · intro result hresult
    rw [heq, firstToolResult, hresult]
  · intro hresult
    rw [heq, firstToolResult, hresult]
    refine ⟨fun text htext => ?_, fun htext => ?_⟩
    · simp only [rawToolResult, htext]
    · simp only [rawToolResult, htext, and_self]

/-! ### Payloads of some tool results -/

namespace CmfSample

/-- JSON, as far as the payloads below use it: an encoded `CallToolResult` has text items only. -/
inductive Json
  | null
  | str (text : String)
  | number (n : ℤ)
  | textItem (text : String)
  | result (texts : List String) (isError : Option Bool)
  deriving DecidableEq

def Json.text? : Json → Option String
  | textItem text => some text
  | _ => none

/-- `serde_json` and `rmcp`, on these values. -/
def api : CmfApi Json where
  null := .null
  asStr
    | .str text => some text
    | _ => none
  display
    | .number n => toString n
    | _ => "null"
  toValue r := some (.result (r.content.filterMap Json.text?) r.isError)
  fromValue
    | .result texts isError => some ⟨texts.map .textItem, none, isError, none⟩
    | _ => none
  contentText := .textItem
  getTextContent m := String.join (m.content.filterMap fun
    | .text text => some text
    | _ => none)

/-- `CallToolResult::success` of one text. -/
def success (text : String) : CallToolResult Json := ⟨[.textItem text], none, some false, none⟩

/-- The encoding of `CallToolResult::success`. -/
def changed : Json := .result ["changed"] (some false)

/-- A tool result with that content and the error flag set. -/
def failed : ToolResult Json := ⟨"call-1", "sum", changed, true⟩

/-- Its payload. -/
def failedPayload : MessagePayload Json where
  message := ⟨"2.0", .tool, [.toolResult failed], none⟩

/-- The payload of a message with a text and nothing else. -/
def textPayload (text : String) : MessagePayload Json where
  message := ⟨"2.0", .tool, [.text text], none⟩

end CmfSample

open CmfSample

theorem nestedResult_verdict :
    let response := toolResultResponse api (success "original") failedPayload
    response.isError = some true ∧
    (∀ result, api.fromValue changed = some result →
      response = { result with
        content := result.content ++ addedText api failedPayload
        isError := some true }) ∧
    (api.fromValue changed = none →
      (∀ text, api.asStr changed = some text →
        response.content = [api.contentText text] ++ addedText api failedPayload) ∧
      (api.asStr changed = none →
        response.structuredContent = some changed ∧
          response.content =
            [api.contentText (api.display changed)] ++ addedText api failedPayload)) ∧
    ∀ (Ctx : Type) (postResult : PipelineResult Json Ctx),
      effectivePostResult api (success "original")
        { postResult with modifiedPayload := some (.message failedPayload) } = response :=
  toolResultResponse_verdict api (success "original") failedPayload failed rfl

/-! ### Two runs -/

/-- What the client receives depends on nothing but the payload: the answers to two backend
responses are the same. -/
def Replaces (api : CmfApi Value) (payload : MessagePayload Value) : Prop :=
  ∀ (Ctx : Type) (postResult : PipelineResult Value Ctx) (r₁ r₂ : CallToolResult Value),
    effectivePostResult api r₁ { postResult with modifiedPayload := some (.message payload) } =
      effectivePostResult api r₂ { postResult with modifiedPayload := some (.message payload) }

/-- A modified payload replaces the backend's response exactly if it has a tool result. -/
theorem replaces_iff (api : CmfApi Value) (payload : MessagePayload Value) :
    Replaces api payload ↔ payload.message.getToolResults ≠ [] := by
  constructor
  · intro hreplaces hnone
    -- two responses that differ in their error flag
    have hsame := hreplaces Unit ⟨false, none, none, ()⟩ ⟨[], none, some true, none⟩
      ⟨[], none, some false, none⟩
    have heq : ∀ original, toolResultResponse api original payload =
        { original with content := original.content ++ addedText api payload } := by
      intro original
      rw [toolResultResponse_eq, hnone]
      rfl
    have hflags : some true = some false := by
      have hflag := congrArg CallToolResult.isError hsame
      unfold effectivePostResult modifiedMessagePayload at hflag
      simpa only [heq] using hflag
    exact absurd hflags (by decide)
  · intro hsome Ctx postResult r₁ r₂
    obtain ⟨toolResult, hhead⟩ : ∃ toolResult,
        payload.message.getToolResults.head? = some toolResult :=
      Option.isSome_iff_exists.1 (List.isSome_head?.2 hsome)
    show toolResultResponse api r₁ payload = toolResultResponse api r₂ payload
    rw [toolResultResponse_eq, toolResultResponse_eq, hhead]
    rfl

/-- A hook that leaves nothing but the text `redacted` of an answer: the client receives the answer
with that text behind it. -/
theorem textPayload_not_replaces :
    (toolResultResponse api (success "secret") (textPayload "redacted")).content =
        [.textItem "secret", .textItem "redacted"] ∧
      ¬ Replaces api (textPayload "redacted") := by
  refine ⟨by decide, ?_⟩
  rw [replaces_iff]
  intro hsome
  exact hsome rfl

end ContextForge
