import ContextForgeGateway.Cpex.PostRewrite
import ContextForgeGateway.Cpex.Runtime

/-!
# Payloads that come back

A pipeline that modifies nothing may still hand on a payload: a copy of the one that it was given. The
gateway then decodes the copy, and both halves of a call make of it what they would make of no payload:
the arguments are unchanged (`afterToolPre_of_copies`), and the answer is that of the backend, in which an
absent error flag has become `false` (`effectivePostResult_of_copies`).
-/

namespace ContextForge

variable {Value Manager Ctx : Type}

/-! ### Copies -/

/-- A copy of a part of a message. The arguments of a tool call are a hash map, and a copy of them may
be iterated in another order. -/
def ContentPart.IsCopy : ContentPart Value → ContentPart Value → Prop
  | .toolCall call, .toolCall copy =>
    copy.toolCallId = call.toolCallId ∧ copy.name = call.name ∧
      copy.toolNamespace = call.toolNamespace ∧ call.arguments.Same copy.arguments
  | part, copy => copy = part

/-- A copy of a payload. -/
structure MessagePayload.IsCopy (payload copy : MessagePayload Value) : Prop where
  schemaVersion_eq : copy.message.schemaVersion = payload.message.schemaVersion
  role_eq : copy.message.role = payload.message.role
  channel_eq : copy.message.channel = payload.message.channel
  content_eq : List.Forall₂ ContentPart.IsCopy payload.message.content copy.message.content

/-- A pipeline lets a payload pass, and hands on a copy of it as the modified payload. -/
structure PipelineResult.Copies (result : PipelineResult Value Ctx)
    (payload : MessagePayload Value) : Prop where
  allowed : result.isDenied = false
  copied : ∃ copy, payload.IsCopy copy ∧ result.modifiedPayload = some (.message copy)

theorem ContentPart.IsCopy.refl (part : ContentPart Value) : part.IsCopy part := by
  cases part with
  | toolCall call => exact ⟨rfl, rfl, rfl, KeyedList.Same.refl _⟩
  | toolResult content => rfl
  | text text => rfl
  | other content => rfl

theorem MessagePayload.IsCopy.refl (payload : MessagePayload Value) : payload.IsCopy payload :=
  ⟨rfl, rfl, rfl, List.forall₂_same.2 fun part _ => ContentPart.IsCopy.refl part⟩

theorem ContentPart.isCopy_toolCall {call : ToolCall Value} {copy : ContentPart Value}
    (h : ContentPart.IsCopy (.toolCall call) copy) :
    ∃ call', copy = .toolCall call' ∧ call.arguments.Same call'.arguments := by
  cases copy with
  | toolCall call' => exact ⟨call', rfl, h.2.2.2⟩
  | toolResult content => cases h
  | text text => cases h
  | other content => cases h

theorem ContentPart.isCopy_toolResult {content : ToolResult Value} {copy : ContentPart Value}
    (h : ContentPart.IsCopy (.toolResult content) copy) : copy = .toolResult content := by
  cases copy with
  | toolCall call => cases h
  | toolResult content' => exact h
  | text text => cases h
  | other other => cases h

/-- A list that copies a single part. -/
theorem forall₂_singleton {α β : Type} {r : α → β → Prop} {a : α} {bs : List β}
    (h : List.Forall₂ r [a] bs) : ∃ b, r a b ∧ bs = [b] := by
  obtain ⟨b, bs', hb, hnil, rfl⟩ := List.forall₂_cons_left_iff.1 h
  obtain rfl := List.forall₂_nil_left_iff.1 hnil
  exact ⟨b, hb, rfl⟩

/-- The arguments of a copied tool call are those of the request. -/
theorem toolCallArguments_of_isCopy {request : CallToolRequestParams Value}
    {toolName backendName toolCallId : String} {copy : MessagePayload Value}
    (h : (toolCallPayload request toolName backendName toolCallId).IsCopy copy) :
    ∃ arguments, toolCallArguments copy = some arguments ∧
      (request.arguments.getD JsonMap.empty).Same arguments := by
  obtain ⟨part, hpart, hcontent⟩ := forall₂_singleton h.content_eq
  obtain ⟨call, rfl, hsame⟩ := ContentPart.isCopy_toolCall hpart
  refine ⟨call.arguments, ?_, hsame⟩
  unfold toolCallArguments Message.getToolCalls
  rw [hcontent]
  rfl

/-- A copied tool result is the one of the payload, and the message has no other part. -/
theorem content_of_isCopy {api : CmfApi Value} {toolName toolCallId : String}
    {response : CallToolResult Value} {copy : MessagePayload Value}
    (h : (toolResultPayload api toolName response toolCallId).IsCopy copy) :
    copy.message.content = (toolResultPayload api toolName response toolCallId).message.content := by
  obtain ⟨part, hpart, hcontent⟩ := forall₂_singleton h.content_eq
  rw [hcontent, ContentPart.isCopy_toolResult hpart]
  rfl

/-! ### The request -/

/-- Arguments that come back as they were are not replaced, whatever the request had. -/
theorem effectivePreArgs_of_copies [DecidableEq Value] {request : CallToolRequestParams Value}
    {toolName backendName toolCallId : String} {preResult : PipelineResult Value Ctx}
    (h : preResult.Copies (toolCallPayload request toolName backendName toolCallId)) :
    effectivePreArgs request.arguments preResult = .ok .unchanged := by
  obtain ⟨copy, hcopy, hmodified⟩ := h.copied
  obtain ⟨arguments, harguments, hsame⟩ := toolCallArguments_of_isCopy hcopy
  unfold effectivePreArgs
  rw [modifiedMessagePayload_of_message hmodified]
  simp only [harguments]
  cases horiginal : request.arguments with
  | some original =>
    rw [horiginal] at hsame
    exact if_pos hsame
  | none =>
    -- the payload had an empty map for the absent one
    rw [horiginal] at hsame
    have hempty : arguments.entries = [] := List.Perm.eq_nil (List.Perm.symm hsame)
    exact if_pos (List.isEmpty_iff.2 hempty)

theorem afterToolPre_of_copies [DecidableEq Value] {request : CallToolRequestParams Value}
    {toolName backendName toolCallId : String} {preResult : PipelineResult Value Ctx}
    (h : preResult.Copies (toolCallPayload request toolName backendName toolCallId)) :
    (GatewayPluginRuntime.afterToolPre request toolCallId preResult :
        Except ErrorData (ToolPreCallResult Value Manager Ctx)) =
      .ok ⟨.unchanged, some (.toolCall ⟨preResult.contextTable, toolCallId⟩)⟩ := by
  unfold GatewayPluginRuntime.afterToolPre
  rw [h.allowed, effectivePreArgs_of_copies h]
  rfl

/-! ### The answer -/

/-- `get_text_content` is empty for a message without text parts. -/
def CmfApi.TextOfParts (api : CmfApi Value) : Prop :=
  ∀ message : Message Value, (∀ text, .text text ∉ message.content) →
    api.getTextContent message = ""

/-- `serde_json::from_value` undoes `serde_json::to_value` on this answer. -/
def CmfApi.RoundTrips (api : CmfApi Value) (response : CallToolResult Value) : Prop :=
  (api.toValue response).bind api.fromValue = some response

/-- Two answers that a client cannot tell apart if it reads an absent error flag as `false`. -/
structure SameAnswer (response answer : CallToolResult Value) : Prop where
  content_eq : answer.content = response.content
  structuredContent_eq : answer.structuredContent = response.structuredContent
  metaMap_eq : answer.metaMap = response.metaMap
  isError_eq : answer.isError.getD false = response.isError.getD false

theorem SameAnswer.refl (response : CallToolResult Value) : SameAnswer response response :=
  ⟨rfl, rfl, rfl, rfl⟩

/-- The tool result of an answer is decoded to that answer, with the error flag filled in. -/
theorem firstToolResult_of_roundTrips {api : CmfApi Value} {response : CallToolResult Value}
    (h : api.RoundTrips response) (toolCallId toolName : String) :
    firstToolResult api ⟨toolCallId, toolName, (api.toValue response).getD api.null,
      response.isError.getD false⟩ =
      { response with isError := some (response.isError.getD false) } := by
  obtain ⟨value, hencode, hdecode⟩ := Option.bind_eq_some_iff.1 h
  unfold firstToolResult
  simp only [hencode, Option.getD_some, hdecode]

/-- After a post pipeline that copies, the answer is that of the backend. -/
theorem effectivePostResult_of_copies {api : CmfApi Value} (htext : api.TextOfParts)
    {toolName toolCallId : String} {response : CallToolResult Value}
    (hround : api.RoundTrips response) {postResult : PipelineResult Value Ctx}
    (h : postResult.Copies (toolResultPayload api toolName response toolCallId)) :
    SameAnswer response (effectivePostResult api response postResult) := by
  obtain ⟨copy, hcopy, hmodified⟩ := h.copied
  have hcontent := content_of_isCopy hcopy
  have hhead : copy.message.getToolResults.head? = some ⟨toolCallId, toolName,
      (api.toValue response).getD api.null, response.isError.getD false⟩ := by
    unfold Message.getToolResults
    rw [hcontent]
    rfl
  have hnoText : addedText api copy = [] := by
    have hempty : api.getTextContent copy.message = "" := by
      apply htext
      intro text hmem
      rw [hcontent] at hmem
      exact nomatch List.mem_singleton.1 hmem
    unfold addedText
    rw [hempty]
    rfl
  have heq : effectivePostResult api response postResult =
      { response with isError := some (response.isError.getD false) } := by
    unfold effectivePostResult
    rw [modifiedMessagePayload_of_message hmodified]
    simp only [toolResultResponse_eq, hhead, Option.map_some, Option.getD_some,
      firstToolResult_of_roundTrips hround, hnoText, List.append_nil]
  rw [heq]
  exact ⟨rfl, rfl, rfl, rfl⟩

end ContextForge
