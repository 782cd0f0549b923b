import ContextForgeGateway.Lib.PrefixCode
import ContextForgeGateway.Lib.Text
import ContextForgeGateway.Mcp
import Mathlib.Data.List.Sort
import Mathlib.Data.String.Basic

/-!
# Names of tools and resources

The gateway shows the tools of its backends in one list, each under the name of its backend, a
hyphen and its own name (`merge_tools`, `merge_resources`). When such a name comes back, the first
backend name, in the order in which the backends are iterated, that the name starts with is taken
to be the backend (`split_tool_name`, `split_resource_name`).

The two halves are the encoder and the first-match decoder of a prefix code, with the code word
`backendWord b` of a backend (`splitName_eq_decode`, `prefixName_toList`).
-/

namespace ContextForge

/-! ### Splitting -/

/-- `struct BackendToolPair`. -/
structure BackendToolPair where
  backendName : String
  toolName : String
  deriving DecidableEq

/-- `struct BackendResourcePair`. -/
structure BackendResourcePair where
  backendName : String
  resourceUri : String
  deriving DecidableEq

/-- The loop of `split_tool_name` and `split_resource_name`. The slice behind the matched prefix is
in range, so taking it does not panic. -/
def splitName (name : String) : List String → Option (String × String)
  | [] => none
  | backendName :: backendNames =>
    let extendedName := backendName ++ "-"
    if h : Text.startsWith name extendedName = true then
      some (backendName,
        (Text.sliceFrom name (Text.len extendedName)).get (Text.sliceFrom_isSome h))
    else splitName name backendNames

/-- `split_tool_name`. -/
def splitToolName (toolName : String) (backendNames : List String) : Option BackendToolPair :=
  (splitName toolName backendNames).map fun pair => ⟨pair.1, pair.2⟩

/-- `split_resource_name`. -/
def splitResourceName (resourceUri : String) (backendNames : List String) :
    Option BackendResourcePair :=
  (splitName resourceUri backendNames).map fun pair => ⟨pair.1, pair.2⟩

/-! ### Merging -/

variable {Value : Type}

/-- `format!("{backend_name}-{name}")`. -/
def prefixName (backendName name : String) : String := backendName ++ "-" ++ name

/-- What `merge_tools` does to a tool of a backend. -/
def prefixTool (backendName : String) (t : Tool Value) : Tool Value :=
  { t with name := prefixName backendName t.name }

/-- What `merge_resources` does to a resource of a backend. -/
def prefixResource (backendName : String) (t : Resource Value) : Resource Value :=
  { t with name := prefixName backendName t.name, uri := prefixName backendName t.uri }

/-- The body of `merge_tools` and `merge_resources`: the `items` of every response, each with
its prefix, in a stable sort by name. -/
def mergeItems {Result Item : Type} (items : Result → List Item)
    (prefixItem : String → Item → Item) (name : Item → String)
    (responses : List (String × Result)) : List Item :=
  (responses.flatMap fun response => (items response.2).map (prefixItem response.1)).insertionSort
    fun t o => name t ≤ name o

/-- `merge_tools`. -/
def mergeTools (tools : List (String × ListToolsResult Value)) : List (Tool Value) :=
  mergeItems ListToolsResult.tools prefixTool Tool.name tools

/-- `merge_resources`. -/
def mergeResources (resources : List (String × ListResourcesResult Value)) :
    List (Resource Value) :=
  mergeItems ListResourcesResult.resources prefixResource Resource.name resources

/-- What is listed is what the backends have, each item under the name of its backend. -/
theorem mem_mergeItems {Result Item : Type} {items : Result → List Item}
    {prefixItem : String → Item → Item} {name : Item → String}
    {responses : List (String × Result)} {listed : Item} :
    listed ∈ mergeItems items prefixItem name responses ↔
      ∃ backendName result, (backendName, result) ∈ responses ∧
        ∃ t ∈ items result, prefixItem backendName t = listed := by
  unfold mergeItems
  rw [List.mem_insertionSort, List.mem_flatMap]
  constructor
  · rintro ⟨⟨backendName, result⟩, hresponse, hlisted⟩
    exact ⟨backendName, result, hresponse, List.mem_map.1 hlisted⟩
  · rintro ⟨backendName, result, hresponse, hlisted⟩
    exact ⟨(backendName, result), hresponse, List.mem_map.2 hlisted⟩

/-! ### The prefix code -/

/-- The code word of a backend name. -/
def backendWord (backendName : String) : List Char := (backendName ++ "-").toList

theorem prefixName_toList (backendName name : String) :
    (prefixName backendName name).toList = backendWord backendName ++ name.toList := by
  unfold prefixName backendWord
  rw [String.toList_append]

theorem startsWith_word {name backendName : String} :
    Text.startsWith name (backendName ++ "-") = true ↔ backendWord backendName <+: name.toList :=
  Text.startsWith_iff

/-- Splitting is first-match decoding. -/
theorem splitName_eq_decode (name : String) (backendNames : List String) :
    splitName name backendNames =
      (PrefixCode.decode backendWord backendNames name.toList).map
        fun pair => (pair.1, String.ofList pair.2) := by
  induction backendNames with
  | nil => rfl
  | cons backendName backendNames ih =>
    by_cases h : Text.startsWith name (backendName ++ "-") = true
    · obtain ⟨rest, hrest⟩ := startsWith_word.1 h
      have hname : name = (backendName ++ "-") ++ String.ofList rest := by
        rw [← String.toList_inj, String.toList_append, String.toList_ofList]
        exact hrest.symm
      have hslice : Text.sliceFrom name (Text.len (backendName ++ "-")) =
          some (String.ofList rest) := by
        rw [hname]
        exact Text.sliceFrom_append _ _
      -- what the slice leaves is what decoding leaves: the rest behind the matched word
      rw [PrefixCode.decode_cons_pos (startsWith_word.1 h), splitName, dif_pos h]
      simp only [hslice, Option.get_some, Option.map_some]
      rw [← hrest, List.drop_left]
    · rw [PrefixCode.decode_cons_neg (fun hword => h (startsWith_word.2 hword)), splitName,
        dif_neg h, ih]

/-- What a name is split into gives the name back, and the backend is one of those tried. -/
theorem splitName_eq_some {name backendName rest : String} {backendNames : List String}
    (h : splitName name backendNames = some (backendName, rest)) :
    backendName ∈ backendNames ∧ name = prefixName backendName rest := by
  rw [splitName_eq_decode] at h
  obtain ⟨⟨b, cs⟩, hd, heq⟩ := Option.map_eq_some_iff.1 h
  obtain ⟨rfl, rfl⟩ := Prod.mk.inj heq
  obtain ⟨hmem, hname⟩ := PrefixCode.decode_eq_some hd
  refine ⟨hmem, ?_⟩
  rw [← String.toList_inj, prefixName_toList, String.toList_ofList, hname]

example : splitToolName "counter-one-increment" ["counter-on", "counter-oneee", "counter-one"] =
    some ⟨"counter-one", "increment"⟩ := by decide

theorem splitToolName_eq_some {name backendName toolName : String} {backendNames : List String} :
    splitToolName name backendNames = some ⟨backendName, toolName⟩ ↔
      splitName name backendNames = some (backendName, toolName) := by
  have hinj : Function.Injective fun pair : String × String =>
      (⟨pair.1, pair.2⟩ : BackendToolPair) := by
    rintro ⟨b, t⟩ ⟨b', t'⟩ h
    cases h
    rfl
  exact (Option.map_injective hinj).eq_iff' rfl

theorem splitResourceName_eq_some {uri backendName resourceUri : String}
    {backendNames : List String} :
    splitResourceName uri backendNames = some ⟨backendName, resourceUri⟩ ↔
      splitName uri backendNames = some (backendName, resourceUri) := by
  have hinj : Function.Injective fun pair : String × String =>
      (⟨pair.1, pair.2⟩ : BackendResourcePair) := by
    rintro ⟨b, r⟩ ⟨b', r'⟩ h
    cases h
    rfl
  exact (Option.map_injective hinj).eq_iff' rfl

end ContextForge
