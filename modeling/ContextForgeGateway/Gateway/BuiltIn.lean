import ContextForgeGateway.Mcp
import Mathlib.Data.Finset.Basic

/-!
# What the gateway answers without a backend

Prompts, completions, resource templates, subscriptions and the log level are the gateway's own. None of
these handlers looks at the session, at the user or at the configuration of a request.

`getPrompt_ok_iff` and `getPrompt_congr` compare `get_prompt` with what `list_prompts` announces: exactly
the prompts of the list can be got, and of the arguments only those of the list matter.
-/

namespace ContextForge

/-- `PromptArgument`. -/
structure PromptArgument where
  name : String
  description : Option String
  required : Option Bool
  deriving DecidableEq

/-- `Prompt`. -/
structure Prompt where
  name : String
  description : Option String
  arguments : Option (List PromptArgument)
  deriving DecidableEq

/-- `ListPromptsResult`. -/
structure ListPromptsResult where
  nextCursor : Option String
  prompts : List Prompt
  deriving DecidableEq

/-- `PromptMessageContent`, as far as the gateway makes it. -/
inductive PromptMessageContent
  | text (text : String)
  | resource (uri : String) (mimeType text : Option String)
  | image (data mimeType : String)
  deriving DecidableEq

/-- `PromptMessageRole`. -/
inductive PromptMessageRole
  | user
  | assistant
  deriving DecidableEq

/-- `PromptMessage`. -/
structure PromptMessage where
  role : PromptMessageRole
  content : PromptMessageContent
  deriving DecidableEq

/-- `GetPromptResult`. -/
structure GetPromptResult where
  description : Option String
  messages : List PromptMessage
  deriving DecidableEq

/-- `GetPromptRequestParams`. -/
structure GetPromptRequestParams (Value : Type) where
  name : String
  arguments : Option (JsonMap Value)

/-- `Reference`, of a completion. -/
inductive Reference
  | resource (uri : String)
  | prompt (name : String)
  deriving DecidableEq

/-- `CompleteRequestParams`, with the name of its argument. -/
structure CompleteRequestParams where
  ref : Reference
  argumentName : String

/-- `RawResourceTemplate`. -/
structure ResourceTemplate where
  uriTemplate : String
  name : String
  title : Option String
  description : Option String
  mimeType : Option String
  deriving DecidableEq

/-- `LoggingLevel`. -/
inductive LoggingLevel
  | debug
  | info
  | notice
  | warning
  | error
  | critical
  | alert
  | emergency
  deriving DecidableEq

namespace McpService

/-! ### Prompts -/

/-- `TEST_IMAGE_DATA`. -/
def testImageData : String :=
  "iVBORw0KGgoAAAANSUhEUgAAAAEAAAABCAYAAAAfFcSJAAAADUlEQVR42mP8/5+hHgAHggJ/PchI7wAAAABJRU5ErkJggg=="

/-- `McpService::list_prompts`. -/
def listPrompts : ListPromptsResult where
  nextCursor := none
  prompts :=
    [⟨"test_simple_prompt", some "A simple test prompt with no arguments", none⟩,
      ⟨"test_prompt_with_arguments", some "A test prompt that accepts arguments",
        some [⟨"name", some "The name to greet", some true⟩,
          ⟨"style", some "The greeting style", some false⟩]⟩,
      ⟨"test_prompt_with_embedded_resource", some "A test prompt that includes an embedded resource",
        none⟩,
      ⟨"test_prompt_with_image", some "A test prompt that includes an image", none⟩]

/-- A message of the user. -/
def userMessage (content : PromptMessageContent) : PromptMessage := ⟨.user, content⟩

/-- The text of an argument; `asStr` is `Value::as_str`. -/
def textArgument {Value : Type} (asStr : Value → Option String) (request : GetPromptRequestParams Value)
    (name : String) : Option String :=
  ((request.arguments.getD JsonMap.empty).get name).bind asStr

/-- The error for a prompt that does not exist. -/
def unknownPrompt (name : String) : ErrorData := ⟨ErrorCode.invalidParams, "Unknown prompt: " ++ name⟩

/-- `McpService::get_prompt`. -/
def getPrompt {Value : Type} (asStr : Value → Option String) (request : GetPromptRequestParams Value) :
    Except ErrorData GetPromptResult :=
  match request.name with
  | "test_simple_prompt" =>
    .ok ⟨some "A simple test prompt", [userMessage (.text "This is a simple test prompt.")]⟩
  | "test_prompt_with_arguments" =>
    let name := (textArgument asStr request "name").getD "World"
    let style := (textArgument asStr request "style").getD "friendly"
    .ok ⟨some "A prompt with arguments",
      [userMessage (.text ("Please greet " ++ name ++ " in a " ++ style ++ " style."))]⟩
  | "test_prompt_with_embedded_resource" =>
    .ok ⟨some "A prompt with an embedded resource",
      [userMessage (.text "Here is a resource:"),
        userMessage (.resource "test://static-text" (some "text/plain")
          (some "Resource content for prompt"))]⟩
  | "test_prompt_with_image" =>
    .ok ⟨some "A prompt with an image",
      [userMessage (.text "Here is an image:"), userMessage (.image testImageData "image/png")]⟩
  | _ => .error (unknownPrompt request.name)

/-- A prompt that is not listed is an error, which names it. -/
theorem getPrompt_of_not_listed {Value : Type} {asStr : Value → Option String}
    {request : GetPromptRequestParams Value}
    (h : request.name ∉ listPrompts.prompts.map Prompt.name) :
    getPrompt asStr request = .error (unknownPrompt request.name) := by
  simp only [listPrompts, List.map_cons, List.map_nil, List.mem_cons, List.not_mem_nil, or_false,
    not_or] at h
  obtain ⟨hsimple, harguments, hresource, himage⟩ := h
  unfold getPrompt
  split
  next heq => exact absurd heq hsimple
  next heq => exact absurd heq harguments
  next heq => exact absurd heq hresource
  next heq => exact absurd heq himage
  next => rfl

/-- Exactly the prompts of the list can be got. -/
theorem getPrompt_ok_iff {Value : Type} (asStr : Value → Option String)
    (request : GetPromptRequestParams Value) :
    (∃ result, getPrompt asStr request = .ok result) ↔
      request.name ∈ listPrompts.prompts.map Prompt.name := by
  constructor
  · rintro ⟨result, hok⟩
    by_contra hnot
    rw [getPrompt_of_not_listed hnot] at hok
    cases hok
  · intro h
    simp only [listPrompts, List.map_cons, List.map_nil, List.mem_cons, List.not_mem_nil,
      or_false] at h
    unfold getPrompt
    rcases h with h | h | h | h <;> simp only [h] <;> exact ⟨_, rfl⟩

/-- Of the arguments only those that the list has for the prompt matter. -/
theorem getPrompt_congr {Value : Type} {asStr : Value → Option String} {prompt : Prompt}
    (hprompt : prompt ∈ listPrompts.prompts) {request request' : GetPromptRequestParams Value}
    (hname : request.name = prompt.name) (hname' : request'.name = prompt.name)
    (h : ∀ argument ∈ prompt.arguments.getD [],
      textArgument asStr request argument.name = textArgument asStr request' argument.name) :
    getPrompt asStr request = getPrompt asStr request' := by
  simp only [listPrompts, List.mem_cons, List.not_mem_nil, or_false] at hprompt
  unfold getPrompt
  rw [hname, hname']
  rcases hprompt with rfl | rfl | rfl | rfl
  · rfl
  · have hfirst := h _ List.mem_cons_self
    have hsecond := h _ (List.mem_cons_of_mem _ List.mem_cons_self)
    simp only [hfirst, hsecond]
  · rfl
  · rfl

/-! ### Completions -/

/-- `McpService::complete`; `completionInfo` is `CompletionInfo::new`. -/
def complete (completionInfo : List String → Except String (List String))
    (request : CompleteRequestParams) : Except ErrorData (List String) :=
  let values :=
    match request.ref with
    | .resource _ => if request.argumentName = "id" then ["1", "2", "3"] else []
    | .prompt name =>
      if request.argumentName = "name" then ["Alice", "Bob", "Charlie"]
      else if request.argumentName = "style" then ["friendly", "formal", "casual"]
      else [name]
  (completionInfo values).mapError fun e => ⟨ErrorCode.internalError, e⟩

/-! ### Resource templates -/

/-- `McpService::list_resource_templates`. -/
def listResourceTemplates : List ResourceTemplate :=
  [⟨"test://template/\x7bid\x7d/data", "Dynamic Resource", none,
    some "A dynamic resource with parameter substitution", some "application/json"⟩]

/-! ### Subscriptions and the log level -/

/-- The part of `McpService` that these handlers use. -/
structure OwnState where
  subscriptions : Finset String
  logLevel : LoggingLevel

/-- The state with which `McpService` is built. -/
def OwnState.new : OwnState := ⟨∅, .debug⟩

/-- `McpService::subscribe`. -/
def subscribe (uri : String) (own : OwnState) : OwnState :=
  { own with subscriptions := insert uri own.subscriptions }

/-- `McpService::unsubscribe`. -/
def unsubscribe (uri : String) (own : OwnState) : OwnState :=
  { own with subscriptions := own.subscriptions.erase uri }

/-- `McpService::set_level`. -/
def setLevel (level : LoggingLevel) (own : OwnState) : OwnState := { own with logLevel := level }

end McpService

end ContextForge
