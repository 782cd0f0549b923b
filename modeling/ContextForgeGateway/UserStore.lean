import ContextForgeGateway.Lib.KeyedList
import Mathlib.Data.Nat.Notation

/-!
# Users and their configuration

The data model of the `apis` crate. A user is configured with virtual hosts, and a virtual host
with the backends it aggregates, each under a name. Both levels are hash maps, so they are
iterated in some order that nothing fixes.
-/

namespace ContextForge

/-- Raw bytes: encoded keys and values, header values. -/
abbrev Bytes := List UInt8

/-- `enum Transport`. -/
inductive Transport
  | streamableHttp
  | sse
  | stdio
  deriving DecidableEq

/-- What the gateway reads of a parsed `url::Url`: its serialization and three of its parts. -/
structure Url where
  asStr : String
  scheme : String
  hostStr : Option String
  port : Option ℕ
  deriving DecidableEq

/-- `struct BackendMCPGateway`. -/
structure BackendMCPGateway where
  name : String
  url : Url
  transport : Transport
  passthroughHeaders : List String
  allowedToolNames : List String
  allowedResourceNames : List String
  allowedPromptNames : List String
  deriving DecidableEq

/-- `struct VirtualHost`. -/
structure VirtualHost where
  backends : KeyedList String BackendMCPGateway
  deriving DecidableEq

/-- `struct UserConfig`. -/
structure UserConfig where
  virtualHosts : KeyedList String VirtualHost
  deriving DecidableEq

/-- `enum KeyType`. -/
inductive KeyType
  | userConfig
  deriving DecidableEq

/-- `struct User`: the key under which a user's configuration is stored. -/
structure User where
  name : KeyType
  key : String
  deriving DecidableEq

/-- `User::new`. -/
def User.new (key : String) : User := ⟨.userConfig, key⟩

theorem User.ext_key {u v : User} (h : u.key = v.key) : u = v := by
  obtain ⟨⟨⟩, k⟩ := u
  obtain ⟨⟨⟩, l⟩ := v
  cases h
  rfl

/-- `enum ConfigStoreError`. -/
inductive ConfigStoreError
  | invalidConnection
  | noDataForKey
  | dataWrongFormat
  | dataEncoding
  | cantWriteData
  deriving DecidableEq

end ContextForge
