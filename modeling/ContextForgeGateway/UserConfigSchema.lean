import ContextForgeGateway.UserStore
import ContextForgeGateway.Lib.JsonSchema
import Mathlib.Data.Set.Defs

/-!
# The schema of user configurations

`schemas/user_config.json` is published for those who write user configurations. `configure_user`
decodes what they write with the `Deserialize` derived for `UserConfig`. The schema calls the virtual
hosts `virtualHosts` and asks of a backend only its url; the derived code calls them `virtual_hosts`,
passes over every other member, and asks for all fields of a backend.

`fieldOutline` and `schemaOutline` are the virtual hosts, backends and urls of a document, found by
the names of either side. A document that is valid under the schema is decoded to what it says
exactly if it says it under the other names as well, and in full. What the derived `Serialize` writes
is never valid.
-/

namespace ContextForge

open Serde (object readStruct readString readStrings readMap IsJson readString_eq_some
  readStrings_eq_some)
open JsonSchema (Schema Accepts At)

/-! ### schemas/user_config.json -/

/-- `#/$defs/BackendMCPGateway`. -/
def backendSchema : Schema := .object [("url", .string "uri")] ["url"] .any

/-- `#/$defs/VirtualHost`. -/
def virtualHostSchema : Schema := .mapRecord "backends" backendSchema

/-- `schemas/user_config.json`. -/
def userConfigSchema : Schema := .mapRecord "virtualHosts" virtualHostSchema

/-! ### The derived `Serialize` and `Deserialize` -/

/-- The names of the variants of `Transport`. -/
def Transport.name : Transport → String
  | streamableHttp => "STREAMABLEHTTP"
  | sse => "SSE"
  | stdio => "STDIO"

/-- The variant with the given name. -/
def Transport.ofName (s : String) : Option Transport :=
  [streamableHttp, sse, stdio].find? fun transport => transport.name = s

/-- `Transport::deserialize`, of what JSON can express: a variant without fields is its name, or a
map from its name to nothing. -/
def Transport.deserialize : Serde.Value → Option Transport
  | .str s => ofName s
  | .map [(.str s, .unit)] => ofName s
  | _ => none

/-- The fields of `BackendMCPGateway`. -/
def BackendMCPGateway.fieldNames : List String :=
  ["name", "url", "transport", "passthrough_headers", "allowed_tool_names",
    "allowed_resource_names", "allowed_prompt_names"]

/-- `BackendMCPGateway::deserialize`, from `Url::parse`. -/
def BackendMCPGateway.deserialize (parseUrl : String → Option Url) (v : Serde.Value) :
    Option BackendMCPGateway :=
  match readStruct fieldNames v with
  | some [name, url, transport, headers, tools, resources, prompts] => do
    let name ← readString name
    let url ← (readString url).bind parseUrl
    let transport ← Transport.deserialize transport
    let headers ← readStrings headers
    let tools ← readStrings tools
    let resources ← readStrings resources
    let prompts ← readStrings prompts
    return ⟨name, url, transport, headers, tools, resources, prompts⟩
  | _ => none

/-- A struct whose only field is a map. -/
def readMapStruct {α : Type} (name : String) (read : Serde.Value → Option α) (v : Serde.Value) :
    Option (KeyedList String α) :=
  match readStruct [name] v with
  | some [field] => readMap read field
  | _ => none

/-- `VirtualHost::deserialize`. -/
def VirtualHost.deserialize (parseUrl : String → Option Url) (v : Serde.Value) :
    Option VirtualHost :=
  (readMapStruct "backends" (BackendMCPGateway.deserialize parseUrl) v).map VirtualHost.mk

/-- `UserConfig::deserialize`. -/
def UserConfig.deserialize (parseUrl : String → Option Url) (v : Serde.Value) : Option UserConfig :=
  (readMapStruct "virtual_hosts" (VirtualHost.deserialize parseUrl) v).map UserConfig.mk

/-- A sequence of strings. -/
def strings (ss : List String) : Serde.Value := .seq (ss.map .str)

/-- `BackendMCPGateway::serialize`. -/
def BackendMCPGateway.serialize (backend : BackendMCPGateway) : Serde.Value :=
  object [("name", .str backend.name), ("url", .str backend.url.asStr),
    ("transport", .str backend.transport.name),
    ("passthrough_headers", strings backend.passthroughHeaders),
    ("allowed_tool_names", strings backend.allowedToolNames),
    ("allowed_resource_names", strings backend.allowedResourceNames),
    ("allowed_prompt_names", strings backend.allowedPromptNames)]

/-- `VirtualHost::serialize`. -/
def VirtualHost.serialize (host : VirtualHost) : Serde.Value :=
  object [("backends", object (host.backends.entries.map fun e => (e.1, e.2.serialize)))]

/-- `UserConfig::serialize`. -/
def UserConfig.serialize (config : UserConfig) : Serde.Value :=
  object [("virtual_hosts", object (config.virtualHosts.entries.map fun e => (e.1, e.2.serialize)))]

theorem Transport.ofName_eq_some {s : String} {transport : Transport} :
    ofName s = some transport ↔ transport.name = s := by
  constructor
  · intro h
    simpa using List.find?_some h
  · rintro rfl
    cases transport <;> rfl

theorem Transport.deserialize_eq_some {v : Serde.Value} {transport : Transport} :
    deserialize v = some transport ↔
      v = .str transport.name ∨ v = .map [(.str transport.name, .unit)] := by
  constructor
  · intro h
    unfold deserialize at h
    split at h
    · exact Or.inl (congrArg _ (ofName_eq_some.1 h).symm)
    · rw [ofName_eq_some.1 h]
      exact Or.inr rfl
    · cases h
  · rintro (rfl | rfl)
    · exact ofName_eq_some.2 rfl
    · exact ofName_eq_some.2 rfl

/-- A backend is decoded from the seven fields, written in full. -/
theorem BackendMCPGateway.deserialize_eq_some {parseUrl : String → Option Url} {v : Serde.Value}
    {backend : BackendMCPGateway} :
    deserialize parseUrl v = some backend ↔
      ∃ url transport, readStruct fieldNames v = some [.str backend.name, .str url, transport,
          strings backend.passthroughHeaders, strings backend.allowedToolNames,
          strings backend.allowedResourceNames, strings backend.allowedPromptNames] ∧
        parseUrl url = some backend.url ∧
        Transport.deserialize transport = some backend.transport := by
  unfold deserialize
  constructor
  · intro h
    split at h
    next hfields =>
      simp only [Option.bind_eq_bind, Option.bind_eq_some_iff, readString_eq_some,
        readStrings_eq_some] at h
      obtain ⟨name, rfl, url, ⟨s, rfl, hurl⟩, transport, htransport, headers, rfl, tools, rfl,
        resources, rfl, prompts, rfl, hbackend⟩ := h
      cases hbackend
      exact ⟨s, _, hfields, hurl, htransport⟩
    next => cases h
  · rintro ⟨url, transport, hfields, hurl, htransport⟩
    have hstrings : ∀ ss, readStrings (strings ss) = some ss := by
      intro ss
      exact readStrings_eq_some.2 rfl
    rw [hfields]
    simp only [readString, Option.bind_eq_bind, Option.bind_some, hurl, htransport, hstrings]
    rfl

/-- What is serialized is decoded again. -/
theorem BackendMCPGateway.deserialize_serialize {parseUrl : String → Option Url}
    {backend : BackendMCPGateway} (h : parseUrl backend.url.asStr = some backend.url) :
    deserialize parseUrl backend.serialize = some backend :=
  deserialize_eq_some.2 ⟨_, _, rfl, h, Transport.deserialize_eq_some.2 (Or.inl rfl)⟩

/-- What is serialized is decoded again, with the same hosts in the same order. -/
theorem UserConfig.deserialize_serialize {parseUrl : String → Option Url} {config : UserConfig}
    (h : ∀ host ∈ config.virtualHosts.entries, ∀ backend ∈ host.2.backends.entries,
      parseUrl backend.2.url.asStr = some backend.2.url) :
    deserialize parseUrl config.serialize = some config := by
  have hhost : ∀ host ∈ config.virtualHosts.entries,
      VirtualHost.deserialize parseUrl host.2.serialize = some host.2 := by
    intro host hhost
    have hbackends := Serde.readMap_entries (m := host.2.backends) fun backend hbackend =>
      BackendMCPGateway.deserialize_serialize (h host hhost backend hbackend)
    exact Option.map_eq_some_iff.2 ⟨_, hbackends, rfl⟩
  exact Option.map_eq_some_iff.2 ⟨_, Serde.readMap_entries hhost, rfl⟩

/-! ### What a document says -/

/-- The ids of the virtual hosts, the names of their backends, and the urls of these. -/
@[ext]
structure Outline where
  hosts : Set String
  backends : Set (String × String)
  urls : Set (String × String × Url)

/-- The outline of a decoded configuration. -/
def UserConfig.outline (config : UserConfig) : Outline where
  hosts := {id | ∃ host, config.virtualHosts.get id = some host}
  backends := {p | ∃ host backend, config.virtualHosts.get p.1 = some host ∧
    host.backends.get p.2 = some backend}
  urls := {p | ∃ host backend, config.virtualHosts.get p.1 = some host ∧
    host.backends.get p.2.1 = some backend ∧ backend.url = p.2.2}

/-- The outline of a document, by the names of the schema. -/
def schemaOutline (parseUrl : String → Option Url) (document : Serde.Value) : Outline where
  hosts := {id | ∃ v, At ["virtualHosts", id] document v}
  backends := {p | ∃ v, At ["virtualHosts", p.1, "backends", p.2] document v}
  urls := {p | ∃ s, At ["virtualHosts", p.1, "backends", p.2.1, "url"] document (.str s) ∧
    parseUrl s = some p.2.2}

/-- The only field of `v` is a map with the entry `(key, w)`. -/
def FieldEntry (field key : String) (v w : Serde.Value) : Prop :=
  ∃ members, readStruct [field] v = some [object members] ∧ (key, w) ∈ members

/-- The url of a backend. -/
def FieldUrl (v : Serde.Value) (s : String) : Prop :=
  ∃ name fields, readStruct BackendMCPGateway.fieldNames v = some (name :: .str s :: fields)

/-- The outline of a document, by the names of the derived code. -/
def fieldOutline (parseUrl : String → Option Url) (document : Serde.Value) : Outline where
  hosts := {id | ∃ host, FieldEntry "virtual_hosts" id document host}
  backends := {p | ∃ host backend, FieldEntry "virtual_hosts" p.1 document host ∧
    FieldEntry "backends" p.2 host backend}
  urls := {p | ∃ host backend s, FieldEntry "virtual_hosts" p.1 document host ∧
    FieldEntry "backends" p.2.1 host backend ∧ FieldUrl backend s ∧ parseUrl s = some p.2.2}

/-- A transport is written as its name. -/
def IsTransport (v : Serde.Value) : Prop :=
  ∃ transport : Transport, v = .str transport.name ∨ v = .map [(.str transport.name, .unit)]

/-- All fields of the backend are there, and the url is one. -/
def BackendInFull (parseUrl : String → Option Url) (v : Serde.Value) : Prop :=
  ∃ name url transport headers tools resources prompts,
    readStruct BackendMCPGateway.fieldNames v = some [.str name, .str url, transport,
      strings headers, strings tools, strings resources, strings prompts] ∧
    (∃ u, parseUrl url = some u) ∧ IsTransport transport

/-- The virtual hosts are there under `virtual_hosts`, and their backends are in full. -/
structure WrittenInFull (parseUrl : String → Option Url) (document : Serde.Value) : Prop where
  hosts : ∃ members, readStruct ["virtual_hosts"] document = some [object members]
  backends : ∀ {id host}, FieldEntry "virtual_hosts" id document host →
    ∃ members, readStruct ["backends"] host = some [object members]
  fields : ∀ {id host name backend}, FieldEntry "virtual_hosts" id document host →
    FieldEntry "backends" name host backend → BackendInFull parseUrl backend

/-! ### What is decoded -/

section

variable {α : Type} {field : String} {read : Serde.Value → Option α} {v : Serde.Value}

theorem exists_map {β : Type} {f : α → β} {o : Option α} :
    (∃ y, o.map f = some y) ↔ ∃ x, o = some x := by
  cases o <;> simp

theorem readMapStruct_eq_some {m : KeyedList String α} :
    readMapStruct field read v = some m ↔
      ∃ w, readStruct [field] v = some [w] ∧ readMap read w = some m := by
  unfold readMapStruct
  constructor
  · intro h
    split at h
    next w hw => exact ⟨w, hw, h⟩
    next => cases h
  · rintro ⟨w, hw, hm⟩
    rw [hw]
    exact hm

theorem object_of_readMapStruct (hv : IsJson v) {m : KeyedList String α}
    (h : readMapStruct field read v = some m) :
    ∃ members, readStruct [field] v = some [object members] ∧ readMap read (object members) = some m ∧
      IsJson (object members) := by
  obtain ⟨w, hw, hm⟩ := readMapStruct_eq_some.1 h
  have hjson := Serde.isJson_of_readStruct hv hw (List.mem_singleton_self w)
  obtain ⟨members, rfl⟩ := Serde.object_of_readMap hjson hm
  exact ⟨members, hw, hm, hjson⟩

theorem FieldEntry.isJson (hv : IsJson v) {key : String} {w : Serde.Value}
    (h : FieldEntry field key v w) : IsJson w := by
  obtain ⟨members, hfield, hmem⟩ := h
  have hjson := Serde.isJson_of_readStruct hv hfield (List.mem_singleton_self _)
  exact (Serde.isJson_object.1 hjson).2 _ hmem

/-- The entries of the map that is read are the entries of the field. -/
theorem get_readMapStruct (hv : IsJson v) {m : KeyedList String α}
    (h : readMapStruct field read v = some m) {key : String} {x : α} :
    m.get key = some x ↔ ∃ w, FieldEntry field key v w ∧ read w = some x := by
  obtain ⟨members, hfield, hm, hjson⟩ := object_of_readMapStruct hv h
  rw [Serde.get_readMap (Serde.isJson_object.1 hjson).1 hm]
  constructor
  · rintro ⟨w, hmem, hx⟩
    exact ⟨w, ⟨members, hfield, hmem⟩, hx⟩
  · rintro ⟨w, ⟨members', hfield', hmem⟩, hx⟩
    rw [hfield] at hfield'
    cases Serde.object_injective (List.singleton_inj.1 (Option.some.inj hfield'))
    exact ⟨w, hmem, hx⟩

theorem exists_readMapStruct (hv : IsJson v) :
    (∃ m, readMapStruct field read v = some m) ↔
      (∃ members, readStruct [field] v = some [object members]) ∧
      ∀ key w, FieldEntry field key v w → ∃ x, read w = some x := by
  constructor
  · rintro ⟨m, h⟩
    obtain ⟨members, hfield, hm, -⟩ := object_of_readMapStruct hv h
    refine ⟨⟨members, hfield⟩, ?_⟩
    rintro key w ⟨members', hfield', hmem⟩
    rw [hfield] at hfield'
    cases Serde.object_injective (List.singleton_inj.1 (Option.some.inj hfield'))
    exact Serde.exists_readMap.1 ⟨m, hm⟩ _ hmem
  · rintro ⟨⟨members, hfield⟩, hread⟩
    have hall : ∀ m ∈ members, ∃ x, read m.2 = some x := by
      rintro ⟨key, w⟩ hmem
      exact hread key w ⟨members, hfield, hmem⟩
    obtain ⟨m, hm⟩ := Serde.exists_readMap.2 hall
    exact ⟨m, readMapStruct_eq_some.2 ⟨_, hfield, hm⟩⟩

end

section

variable {parseUrl : String → Option Url}

theorem VirtualHost.deserialize_eq_some {v : Serde.Value} {host : VirtualHost} :
    deserialize parseUrl v = some host ↔
      readMapStruct "backends" (BackendMCPGateway.deserialize parseUrl) v = some host.backends := by
  unfold deserialize
  constructor
  · intro h
    obtain ⟨m, hm, rfl⟩ := Option.map_eq_some_iff.1 h
    exact hm
  · intro h
    exact Option.map_eq_some_iff.2 ⟨_, h, rfl⟩

theorem UserConfig.deserialize_eq_some {v : Serde.Value} {config : UserConfig} :
    deserialize parseUrl v = some config ↔
      readMapStruct "virtual_hosts" (VirtualHost.deserialize parseUrl) v =
        some config.virtualHosts := by
  unfold deserialize
  constructor
  · intro h
    obtain ⟨m, hm, rfl⟩ := Option.map_eq_some_iff.1 h
    exact hm
  · intro h
    exact Option.map_eq_some_iff.2 ⟨_, h, rfl⟩

theorem backendInFull_iff {v : Serde.Value} :
    (∃ backend, BackendMCPGateway.deserialize parseUrl v = some backend) ↔
      BackendInFull parseUrl v := by
  constructor
  · rintro ⟨backend, h⟩
    obtain ⟨url, transport, hfields, hurl, htransport⟩ :=
      BackendMCPGateway.deserialize_eq_some.1 h
    exact ⟨_, _, _, _, _, _, _, hfields, ⟨_, hurl⟩, _, Transport.deserialize_eq_some.1 htransport⟩
  · rintro ⟨name, url, transport, headers, tools, resources, prompts, hfields, ⟨u, hurl⟩,
      variant, hvariant⟩
    exact ⟨⟨name, u, variant, headers, tools, resources, prompts⟩,
      BackendMCPGateway.deserialize_eq_some.2
        ⟨url, transport, hfields, hurl, Transport.deserialize_eq_some.2 hvariant⟩⟩

/-- The url of a decoded backend is the one in its field. -/
theorem fieldUrl_iff {v : Serde.Value} {backend : BackendMCPGateway}
    (h : BackendMCPGateway.deserialize parseUrl v = some backend) {url : Url} :
    backend.url = url ↔ ∃ s, FieldUrl v s ∧ parseUrl s = some url := by
  obtain ⟨s, transport, hfields, hurl, -⟩ := BackendMCPGateway.deserialize_eq_some.1 h
  constructor
  · rintro rfl
    exact ⟨s, ⟨_, _, hfields⟩, hurl⟩
  · rintro ⟨s', ⟨name, fields, hfields'⟩, hurl'⟩
    rw [hfields] at hfields'
    cases hfields'
    exact Option.some.inj (hurl.symm.trans hurl')

theorem exists_virtualHost {v : Serde.Value} (hv : IsJson v) :
    (∃ host, VirtualHost.deserialize parseUrl v = some host) ↔
      (∃ members, readStruct ["backends"] v = some [object members]) ∧
      ∀ name backend, FieldEntry "backends" name v backend → BackendInFull parseUrl backend := by
  unfold VirtualHost.deserialize
  rw [exists_map, exists_readMapStruct hv]
  simp only [backendInFull_iff]

/-- A document is decoded exactly if it is written in full, by the names of the derived code. -/
theorem exists_userConfig {document : Serde.Value} (hdocument : IsJson document) :
    (∃ config, UserConfig.deserialize parseUrl document = some config) ↔
      WrittenInFull parseUrl document := by
  unfold UserConfig.deserialize
  rw [exists_map, exists_readMapStruct hdocument]
  constructor
  · rintro ⟨hhosts, hread⟩
    have hhost : ∀ {id host}, FieldEntry "virtual_hosts" id document host → _ :=
      fun h => (exists_virtualHost (h.isJson hdocument)).1 (hread _ _ h)
    exact ⟨hhosts, fun h => (hhost h).1, fun h => (hhost h).2 _ _⟩
  · intro h
    refine ⟨h.hosts, fun id host hhost => ?_⟩
    exact (exists_virtualHost (hhost.isJson hdocument)).2
      ⟨h.backends hhost, fun name backend hbackend => h.fields hhost hbackend⟩

section

variable {document : Serde.Value} (hdocument : IsJson document) {config : UserConfig}
  (h : UserConfig.deserialize parseUrl document = some config)

include hdocument h

theorem get_virtualHosts {id : String} {host : VirtualHost} :
    config.virtualHosts.get id = some host ↔
      ∃ v, FieldEntry "virtual_hosts" id document v ∧
        VirtualHost.deserialize parseUrl v = some host :=
  get_readMapStruct hdocument (UserConfig.deserialize_eq_some.1 h)

theorem get_backends {id name : String} {backend : BackendMCPGateway} :
    (∃ host, config.virtualHosts.get id = some host ∧ host.backends.get name = some backend) ↔
      ∃ v w, FieldEntry "virtual_hosts" id document v ∧ FieldEntry "backends" name v w ∧
        BackendMCPGateway.deserialize parseUrl w = some backend := by
  constructor
  · rintro ⟨host, hhost, hbackend⟩
    obtain ⟨v, hv, hdecoded⟩ := (get_virtualHosts hdocument h).1 hhost
    obtain ⟨w, hw, hread⟩ := (get_readMapStruct (hv.isJson hdocument)
      (VirtualHost.deserialize_eq_some.1 hdecoded)).1 hbackend
    exact ⟨v, w, hv, hw, hread⟩
  · rintro ⟨v, w, hv, hw, hread⟩
    have hfull := (exists_userConfig hdocument).1 ⟨config, h⟩
    obtain ⟨host, hhost⟩ := (exists_virtualHost (hv.isJson hdocument)).2
      ⟨hfull.backends hv, fun name backend hbackend => hfull.fields hv hbackend⟩
    exact ⟨host, (get_virtualHosts hdocument h).2 ⟨v, hv, hhost⟩,
      (get_readMapStruct (hv.isJson hdocument) (VirtualHost.deserialize_eq_some.1 hhost)).2
        ⟨w, hw, hread⟩⟩

/-- What is decoded is the outline by the names of the derived code. -/
theorem outline_of_deserialize : config.outline = fieldOutline parseUrl document := by
  have hfull := (exists_userConfig hdocument).1 ⟨config, h⟩
  ext p
  case hosts =>
    constructor
    · rintro ⟨host, hhost⟩
      obtain ⟨v, hv, -⟩ := (get_virtualHosts hdocument h).1 hhost
      exact ⟨v, hv⟩
    · rintro ⟨v, hv⟩
      obtain ⟨host, hhost⟩ := (exists_virtualHost (hv.isJson hdocument)).2
        ⟨hfull.backends hv, fun name backend hbackend => hfull.fields hv hbackend⟩
      exact ⟨host, (get_virtualHosts hdocument h).2 ⟨v, hv, hhost⟩⟩
  case backends =>
    constructor
    · rintro ⟨host, backend, hhost, hbackend⟩
      obtain ⟨v, w, hv, hw, -⟩ := (get_backends hdocument h).1 ⟨host, hhost, hbackend⟩
      exact ⟨v, w, hv, hw⟩
    · rintro ⟨v, w, hv, hw⟩
      obtain ⟨backend, hbackend⟩ := backendInFull_iff.2 (hfull.fields hv hw)
      obtain ⟨host, hhost, hget⟩ := (get_backends hdocument h).2 ⟨v, w, hv, hw, hbackend⟩
      exact ⟨host, backend, hhost, hget⟩
  case urls =>
    constructor
    · rintro ⟨host, backend, hhost, hbackend, hurl⟩
      obtain ⟨v, w, hv, hw, hdecoded⟩ := (get_backends hdocument h).1 ⟨host, hhost, hbackend⟩
      obtain ⟨s, hs, hparse⟩ := (fieldUrl_iff hdecoded).1 hurl
      exact ⟨v, w, s, hv, hw, hs, hparse⟩
    · rintro ⟨v, w, s, hv, hw, hs, hparse⟩
      obtain ⟨backend, hbackend⟩ := backendInFull_iff.2 (hfull.fields hv hw)
      obtain ⟨host, hhost, hget⟩ := (get_backends hdocument h).2 ⟨v, w, hv, hw, hbackend⟩
      exact ⟨host, backend, hhost, hget, (fieldUrl_iff hbackend).2 ⟨s, hs, hparse⟩⟩

end

/-! ### The two descriptions -/

/-- Valid under `schemas/user_config.json`, where a url is what `Url::parse` accepts. -/
def SchemaValid (parseUrl : String → Option Url) (document : Serde.Value) : Prop :=
  Accepts (fun _ s => (parseUrl s).isSome = true) userConfigSchema document

/-- What the derived `Serialize` writes is not valid. -/
theorem not_schemaValid_serialize (config : UserConfig) :
    ¬ SchemaValid parseUrl config.serialize := by
  intro h
  obtain ⟨members, hmembers, hrequired, -⟩ := JsonSchema.accepts_mapRecord.1 h
  cases Serde.object_injective hmembers
  have hmissing : "virtualHosts" ∉ ["virtual_hosts"] := by decide
  exact hmissing hrequired

section

variable {members : List (String × Serde.Value)} (hnodup : (members.map Prod.fst).Nodup)

include hnodup

/-- The field of an object is its member. -/
theorem readStruct_singleton {field : String} {w : Serde.Value} :
    readStruct [field] (object members) = some [w] ↔ (field, w) ∈ members := by
  rw [Serde.readStruct_object, Serde.mapM_cons_eq_some, ← Serde.member_eq_some hnodup]
  constructor
  · rintro ⟨y, ys, hy, -, hw⟩
    cases hw
    exact hy
  · intro h
    exact ⟨w, [], h, rfl, rfl⟩

theorem fieldEntry_object {field key : String} {w : Serde.Value} :
    FieldEntry field key (object members) w ↔ At [field, key] (object members) w := by
  rw [JsonSchema.at_object]
  constructor
  · rintro ⟨entries, hfield, hmem⟩
    exact ⟨_, (readStruct_singleton hnodup).1 hfield, entries, w, rfl, hmem, rfl⟩
  · rintro ⟨v, hfield, entries, w', rfl, hmem, hw⟩
    cases hw
    exact ⟨entries, (readStruct_singleton hnodup).2 hfield, hmem⟩

theorem fieldUrl_object (hfull : BackendInFull parseUrl (object members)) {s : String} :
    FieldUrl (object members) s ↔ At ["url"] (object members) (.str s) := by
  have hurl : ∀ {name url : Serde.Value} {fields},
      readStruct BackendMCPGateway.fieldNames (object members) = some (name :: url :: fields) →
        ("url", url) ∈ members := by
    intro name url fields h
    rw [Serde.readStruct_object] at h
    obtain ⟨_, _, -, hrest, hfields⟩ := Serde.mapM_cons_eq_some.1 h
    cases hfields
    obtain ⟨_, _, hmember, -, hfields⟩ := Serde.mapM_cons_eq_some.1 hrest
    cases hfields
    exact (Serde.member_eq_some hnodup).1 hmember
  rw [JsonSchema.at_object]
  constructor
  · rintro ⟨name, fields, hfields⟩
    exact ⟨_, hurl hfields, rfl⟩
  · rintro ⟨v, hmem, hv⟩
    cases hv
    obtain ⟨name, url, _, _, _, _, _, hfields, -⟩ := hfull
    have hsame : some (Serde.Value.str s) = some (.str url) :=
      ((Serde.member_eq_some hnodup).2 hmem).symm.trans
        ((Serde.member_eq_some hnodup).2 (hurl hfields))
    cases hsame
    exact ⟨_, _, hfields⟩

end

/-- The virtual hosts and the backends of a valid document are objects. -/
theorem SchemaValid.virtualHost {document : Serde.Value} (h : SchemaValid parseUrl document)
    {id : String} {host : Serde.Value} (hhost : At ["virtualHosts", id] document host) :
    ∃ members backends, host = object members ∧ ("backends", object backends) ∈ members ∧
      ∀ name backend, At ["backends", name] host backend → ∃ fields, backend = object fields := by
  obtain ⟨documentMembers, rfl, -, hhosts⟩ := JsonSchema.accepts_mapRecord.1 h
  obtain ⟨v, hv, hat⟩ := JsonSchema.at_object.1 hhost
  obtain ⟨hosts, rfl, hvalid⟩ := hhosts v hv
  obtain ⟨host', hmem, hsame⟩ := JsonSchema.at_object.1 hat
  cases hsame
  obtain ⟨members, rfl, hrequired, hbackends⟩ := JsonSchema.accepts_mapRecord.1 (hvalid _ hmem)
  obtain ⟨⟨name, w⟩, hw, rfl⟩ := List.mem_map.1 hrequired
  obtain ⟨backends, rfl, -⟩ := hbackends w hw
  refine ⟨members, backends, rfl, hw, ?_⟩
  intro name backend hbackend
  obtain ⟨w', hw', hat'⟩ := JsonSchema.at_object.1 hbackend
  obtain ⟨backends', rfl, hvalid'⟩ := hbackends w' hw'
  obtain ⟨backend', hmem', hsame'⟩ := JsonSchema.at_object.1 hat'
  cases hsame'
  obtain ⟨fields, hfields, -⟩ := JsonSchema.accepts_object.1 (hvalid' _ hmem')
  exact ⟨fields, hfields⟩

section

variable {members hosts : List (String × Serde.Value)} (hjson : IsJson (object members))
  (hschema : ("virtualHosts", object hosts) ∈ members)
  (hfield : ("virtual_hosts", object hosts) ∈ members)

include hjson hschema hfield

/-- Virtual hosts that are there under both names are read by either of them. -/
theorem fieldEntry_of_repeated {id : String} {host : Serde.Value} :
    FieldEntry "virtual_hosts" id (object members) host ↔
      At ["virtualHosts", id] (object members) host := by
  have hnodup := (Serde.isJson_object.1 hjson).1
  have hmember : ∀ {name v}, (name, v) ∈ members → (name, object hosts) ∈ members →
      v = object hosts := by
    intro name v hv hhosts
    exact Option.some.inj (((Serde.member_eq_some hnodup).2 hv).symm.trans
      ((Serde.member_eq_some hnodup).2 hhosts))
  rw [fieldEntry_object hnodup, JsonSchema.at_object, JsonSchema.at_object]
  constructor
  · rintro ⟨v, hv, hat⟩
    exact ⟨_, hschema, hmember hv hfield ▸ hat⟩
  · rintro ⟨v, hv, hat⟩
    exact ⟨_, hfield, hmember hv hschema ▸ hat⟩

/-- A valid document that repeats its virtual hosts under `virtual_hosts`, with every backend in
full, says the same under both names. -/
theorem writtenInFull_of_repeated (hvalid : SchemaValid parseUrl (object members))
    (hfull : ∀ id name backend,
      At ["virtualHosts", id, "backends", name] (object members) backend →
        BackendInFull parseUrl backend) :
    WrittenInFull parseUrl (object members) ∧
      fieldOutline parseUrl (object members) = schemaOutline parseUrl (object members) := by
  have hnodup := (Serde.isJson_object.1 hjson).1
  have hentry : ∀ {id host}, FieldEntry "virtual_hosts" id (object members) host ↔
      At ["virtualHosts", id] (object members) host :=
    fieldEntry_of_repeated hjson hschema hfield
  have hbackend : ∀ {id host}, At ["virtualHosts", id] (object members) host → ∀ {name backend},
      FieldEntry "backends" name host backend ↔ At ["backends", name] host backend := by
    intro id host hhost name backend
    obtain ⟨hostMembers, -, rfl, -⟩ := hvalid.virtualHost hhost
    exact fieldEntry_object (Serde.isJson_object.1 (JsonSchema.isJson_of_at hjson hhost)).1
  have hurl : ∀ {id host name backend}, At ["virtualHosts", id] (object members) host →
      At ["backends", name] host backend → ∀ {s},
        (FieldUrl backend s ↔ At ["url"] backend (.str s)) := by
    intro id host name backend hhost hat s
    have hinFull := hfull id name backend (JsonSchema.at_cons_cons.2 ⟨host, hhost, hat⟩)
    have hisJson := JsonSchema.isJson_of_at (JsonSchema.isJson_of_at hjson hhost) hat
    obtain ⟨-, -, -, -, hobject⟩ := hvalid.virtualHost hhost
    obtain ⟨fields, rfl⟩ := hobject name backend hat
    exact fieldUrl_object (Serde.isJson_object.1 hisJson).1 hinFull
  constructor
  · constructor
    case hosts => exact ⟨hosts, (readStruct_singleton hnodup).2 hfield⟩
    case backends =>
      intro id host hhost
      have hat := hentry.1 hhost
      obtain ⟨hostMembers, backends, rfl, hmem, -⟩ := hvalid.virtualHost hat
      have hhostNodup := (Serde.isJson_object.1 (JsonSchema.isJson_of_at hjson hat)).1
      exact ⟨backends, (readStruct_singleton hhostNodup).2 hmem⟩
    case fields =>
      intro id host name backend hhost hmem
      have hat := hentry.1 hhost
      exact hfull id name backend (JsonSchema.at_cons_cons.2 ⟨host, hat, (hbackend hat).1 hmem⟩)
  · ext p
    case hosts => exact exists_congr fun host => hentry
    case backends =>
      constructor
      · rintro ⟨host, backend, hhost, hmem⟩
        have hat := hentry.1 hhost
        exact ⟨backend, JsonSchema.at_cons_cons.2 ⟨host, hat, (hbackend hat).1 hmem⟩⟩
      · rintro ⟨backend, hat⟩
        obtain ⟨host, hhost, hmem⟩ := JsonSchema.at_cons_cons.1 hat
        exact ⟨host, backend, hentry.2 hhost, (hbackend hhost).2 hmem⟩
    case urls =>
      constructor
      · rintro ⟨host, backend, s, hhost, hmem, hs, hparse⟩
        have hat := hentry.1 hhost
        have hatBackend := (hbackend hat).1 hmem
        have hatUrl := (hurl hat hatBackend).1 hs
        have hatRest := JsonSchema.at_cons_cons.2 ⟨backend, hatBackend, hatUrl⟩
        exact ⟨s, JsonSchema.at_cons_cons.2 ⟨host, hat, hatRest⟩, hparse⟩
      · rintro ⟨s, hat, hparse⟩
        obtain ⟨host, hhost, hrest⟩ := JsonSchema.at_cons_cons.1 hat
        obtain ⟨backend, hatBackend, hatUrl⟩ := JsonSchema.at_cons_cons.1 hrest
        exact ⟨host, backend, s, hentry.2 hhost, (hbackend hhost).2 hatBackend,
          (hurl hhost hatBackend).2 hatUrl, hparse⟩

end

end

/-- **The schema and the decoder.** -/
theorem userConfig_schema (parseUrl : String → Option Url) :
    (∀ document, IsJson document → SchemaValid parseUrl document →
      ((∃ config, UserConfig.deserialize parseUrl document = some config ∧
          config.outline = schemaOutline parseUrl document) ↔
        WrittenInFull parseUrl document ∧
          fieldOutline parseUrl document = schemaOutline parseUrl document)) ∧
    ∀ config : UserConfig, ¬ SchemaValid parseUrl config.serialize := by
  refine ⟨fun document hdocument _ => ?_, not_schemaValid_serialize⟩
  constructor
  · rintro ⟨config, hconfig, houtline⟩
    refine ⟨(exists_userConfig hdocument).1 ⟨config, hconfig⟩, ?_⟩
    rw [← outline_of_deserialize hdocument hconfig]
    exact houtline
  · rintro ⟨hfull, houtline⟩
    obtain ⟨config, hconfig⟩ := (exists_userConfig hdocument).2 hfull
    refine ⟨config, hconfig, ?_⟩
    rw [outline_of_deserialize hdocument hconfig]
    exact houtline

/-! ### The configuration of the README -/

namespace Readme

def url : Url := ⟨"http://127.0.0.1:5555/mcp", "http", some "127.0.0.1", some 5555⟩

def parseUrl (s : String) : Option Url := if s = url.asStr then some url else none

/-- A virtual host with one backend. -/
def hosts (backend : List (String × Serde.Value)) : List (String × Serde.Value) :=
  [("c0ffee00f001f00lf00ldeadbeefdead",
    object [("backends", object [("gateway-one", object backend)])])]

/-- The backend as the README has it. -/
def backend : List (String × Serde.Value) := [("url", .str url.asStr)]

/-- The configuration that the README posts. -/
def document : Serde.Value := object [("virtualHosts", object (hosts backend))]

/-- The backend with all fields. -/
def inFull : List (String × Serde.Value) :=
  [("name", .str "gateway-one"), ("url", .str url.asStr), ("transport", .str "STREAMABLEHTTP"),
    ("passthrough_headers", strings []), ("allowed_tool_names", strings []),
    ("allowed_resource_names", strings []), ("allowed_prompt_names", strings [])]

/-- A configuration under both names. -/
def repeated : Serde.Value :=
  object [("virtualHosts", object (hosts inFull)), ("virtual_hosts", object (hosts inFull))]

theorem isJson_hosts {backend : List (String × Serde.Value)} (h : IsJson (object backend)) :
    IsJson (object (hosts backend)) :=
  Serde.isJson_singleton (Serde.isJson_singleton (Serde.isJson_singleton h))

theorem accepts_hosts {backend : List (String × Serde.Value)}
    (h : ∀ w, ("url", w) ∈ backend → w = .str url.asStr) (hurl : "url" ∈ backend.map Prod.fst) :
    ∀ e ∈ hosts backend, Accepts (fun _ s => (parseUrl s).isSome = true) virtualHostSchema e.2 := by
  have hbackend : Accepts (fun _ s => (parseUrl s).isSome = true) backendSchema (object backend) := by
    refine JsonSchema.accepts_object.2
      ⟨backend, rfl, List.forall_mem_singleton.2 hurl, ?_, fun m _ _ => Accepts.any m.2⟩
    rintro ⟨name, w⟩ hw schema hschema
    by_cases hname : name = "url"
    · subst hname
      rw [List.lookup_cons_self] at hschema
      cases hschema
      rw [h w hw]
      exact Accepts.string rfl
    · have hbeq : (name == "url") = false := beq_false_of_ne hname
      rw [List.lookup_cons, hbeq] at hschema
      cases hschema
  refine List.forall_mem_singleton.2 ?_
  exact JsonSchema.accepts_mapRecord_of_mem (List.nodup_singleton _) (List.mem_singleton_self _)
    (List.forall_mem_singleton.2 hbackend)

theorem isJson_document : IsJson document :=
  Serde.isJson_singleton (isJson_hosts (Serde.isJson_singleton (IsJson.str _)))

theorem schemaValid_document : SchemaValid parseUrl document := by
  refine JsonSchema.accepts_mapRecord_of_mem (List.nodup_singleton _) (List.mem_singleton_self _) ?_
  refine accepts_hosts ?_ (List.mem_singleton_self _)
  intro w hw
  cases List.mem_singleton.1 hw
  rfl

theorem isJson_inFull : IsJson (object inFull) := by
  have hstrings : IsJson (strings []) := IsJson.seq fun v hv => absurd hv List.not_mem_nil
  have hnodup : (inFull.map Prod.fst).Nodup := by decide
  refine Serde.isJson_object.2 ⟨hnodup, ?_⟩
  intro m hm
  simp only [inFull, List.mem_cons, List.not_mem_nil, or_false] at hm
  rcases hm with rfl | rfl | rfl | rfl | rfl | rfl | rfl
  · exact IsJson.str _
  · exact IsJson.str _
  · exact IsJson.str _
  all_goals exact hstrings

theorem nodup_repeated : ["virtualHosts", "virtual_hosts"].Nodup := by decide

theorem isJson_repeated : IsJson repeated := by
  have hhosts := isJson_hosts isJson_inFull
  exact Serde.isJson_object.2
    ⟨nodup_repeated, List.forall_mem_cons.2 ⟨hhosts, List.forall_mem_singleton.2 hhosts⟩⟩

theorem schemaValid_repeated : SchemaValid parseUrl repeated := by
  refine JsonSchema.accepts_mapRecord_of_mem nodup_repeated List.mem_cons_self ?_
  refine accepts_hosts ?_ (by decide)
  intro w hw
  simpa [inFull] using hw

theorem inFull_of_at {id name : String} {backend : Serde.Value}
    (h : At ["virtualHosts", id, "backends", name] repeated backend) :
    BackendInFull parseUrl backend := by
  obtain ⟨v, hv, h⟩ := JsonSchema.at_object.1 h
  obtain rfl : v = object (hosts inFull) := by simpa using hv
  obtain ⟨host, hhost, h⟩ := JsonSchema.at_object.1 h
  cases List.mem_singleton.1 hhost
  obtain ⟨v, hv, h⟩ := JsonSchema.at_object.1 h
  cases List.mem_singleton.1 hv
  obtain ⟨v, hv, h⟩ := JsonSchema.at_object.1 h
  cases List.mem_singleton.1 hv
  cases h
  exact ⟨_, _, _, [], [], [], [], rfl, ⟨url, rfl⟩, .streamableHttp, Or.inl rfl⟩

end Readme

/-- With the hosts under both names and all fields, it is decoded to what it says. -/
theorem userConfig_schema_repeated :
    ∃ config, UserConfig.deserialize Readme.parseUrl Readme.repeated = some config ∧
      config.outline = schemaOutline Readme.parseUrl Readme.repeated :=
  have hsecond : ("virtual_hosts", object (Readme.hosts Readme.inFull)) ∈
      [("virtualHosts", object (Readme.hosts Readme.inFull)),
        ("virtual_hosts", object (Readme.hosts Readme.inFull))] :=
    List.mem_cons_of_mem _ (List.mem_singleton_self _)
  have hsame := writtenInFull_of_repeated Readme.isJson_repeated List.mem_cons_self hsecond
    Readme.schemaValid_repeated fun _ _ _ => Readme.inFull_of_at
  ((userConfig_schema Readme.parseUrl).1 Readme.repeated Readme.isJson_repeated
    Readme.schemaValid_repeated).2 hsame

/-- The configuration of the README is valid and not decoded; what the gateway writes for no virtual
host at all is not valid. -/
theorem readme_not_decoded :
    IsJson Readme.document ∧ SchemaValid Readme.parseUrl Readme.document ∧
    UserConfig.deserialize Readme.parseUrl Readme.document = none ∧
    ¬ SchemaValid Readme.parseUrl (UserConfig.serialize ⟨⟨[], List.nodup_nil⟩⟩) :=
  ⟨Readme.isJson_document, Readme.schemaValid_document, rfl, not_schemaValid_serialize _⟩

end ContextForge
