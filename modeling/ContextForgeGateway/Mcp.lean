import ContextForgeGateway.Lib.KeyedList
import Mathlib.Data.Int.Notation

/-!
# Protocol types

The types of the MCP SDK that pass through the gateway, with the fields it reads or changes. What
a value of JSON is does not matter to the gateway, so it is a type parameter `Value`, and equality
of values is its decidable equality. A JSON object is a finite map: its entries have an order, but
two objects are equal when they are the same map.
-/

namespace ContextForge

/-- `serde_json::Map<String, Value>`. -/
abbrev JsonMap (Value : Type) := KeyedList String Value

namespace JsonMap

/-- The empty object. -/
def empty {Value : Type} : JsonMap Value := ⟨[], List.nodup_nil⟩

end JsonMap

/-- `ErrorData`, as a client gets it. The gateway leaves its `data` empty. -/
structure ErrorData where
  code : ℤ
  message : String
  deriving DecidableEq

namespace ErrorCode

def resourceNotFound : ℤ := -32002

def invalidRequest : ℤ := -32600

def invalidParams : ℤ := -32602

def internalError : ℤ := -32603

end ErrorCode

variable (Value : Type)

/-- `CallToolRequestParams`. -/
structure CallToolRequestParams where
  name : String
  arguments : Option (JsonMap Value)
  metaMap : Option (JsonMap Value)
  task : Option (JsonMap Value)

/-- `CallToolResult`; a `Content` is the JSON it stands for. -/
structure CallToolResult where
  content : List Value
  structuredContent : Option Value
  isError : Option Bool
  metaMap : Option (JsonMap Value)

/-- `Tool`: its name, and the rest of it. -/
structure Tool where
  name : String
  rest : Value

/-- `Resource`: its uri, its name, and the rest of it. -/
structure Resource where
  uri : String
  name : String
  rest : Value

/-- `ReadResourceRequestParams`. -/
structure ReadResourceRequestParams where
  uri : String
  metaMap : Option (JsonMap Value)

/-- `ReadResourceResult`. -/
structure ReadResourceResult where
  contents : List Value

/-- `PaginatedRequestParams`. -/
structure PaginatedRequestParams where
  metaMap : Option (JsonMap Value)
  cursor : Option String

/-- `ListToolsResult`. -/
structure ListToolsResult where
  metaMap : Option (JsonMap Value)
  nextCursor : Option String
  tools : List (Tool Value)

/-- `ListResourcesResult`. -/
structure ListResourcesResult where
  metaMap : Option (JsonMap Value)
  nextCursor : Option String
  resources : List (Resource Value)

end ContextForge
