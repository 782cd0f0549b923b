import ContextForgeGateway.ConfigStore.RedisKeys
import ContextForgeGateway.Gateway.SessionStore
import ContextForgeGateway.Lib.MessagePack.Value
import ContextForgeGateway.UserConfigSchema

/-!
# The records in Redis

User configurations and session mappings are stored as what `rmp_serde::to_vec` makes of them: a struct is
the array of its fields in order, a unit variant its name, an `Option` its value or nil. They are read by
the `Deserialize` derived for them, which is the one that reads JSON as well.

`UserConfig.fromSlice_toVec` and `SessionMapping.fromSlice_toVec` are the round trips, for records whose
strings and lists have a length that MessagePack can express, and, of a configuration, whose urls
`Url::parse` reads back; a configuration that was decoded from a document is such a record. Together with the
keys the round trips make the two stores of the code instances of the general ones: `userConfigCodec` and
`sessionCodec`.

Only what `rmp_serde` writes is of interest here. It reads more: strings as `bin`, variants by their number,
and records with extension types in fields that are passed over, none of which it ever writes.
-/

namespace ContextForge

open MessagePack (Writable)
open Serde (object readStruct readString readStrings isField isIdentifier only)

/-! ### Values -/

/-- The bytes of a `Short` string fit behind a header. -/
theorem writable_str {s : String} (h : Short s) : Writable (.str s) := Writable.str h

/-- A list of strings that MessagePack can express. -/
structure ShortList (ss : List String) : Prop where
  length : ss.length < 2 ^ 32
  short : ∀ s ∈ ss, Short s

instance (ss : List String) : Decidable (ShortList ss) :=
  decidable_of_iff (ss.length < 2 ^ 32 ∧ ∀ s ∈ ss, Short s)
    ⟨fun h => ⟨h.1, h.2⟩, fun h => ⟨h.length, h.short⟩⟩

theorem ShortList.writable {ss : List String} (h : ShortList ss) : Writable (strings ss) := by
  refine Writable.seq (by rw [List.length_map]; exact h.length) fun v hv => ?_
  obtain ⟨s, hs, rfl⟩ := List.mem_map.1 hv
  exact writable_str (h.short s hs)

/-- An object of few members with short names is written, if its members are. -/
theorem writable_object {members : List (String × Serde.Value)} (hlength : members.length < 2 ^ 32)
    (hname : ∀ m ∈ members, Short m.1) (hvalue : ∀ m ∈ members, Writable m.2) :
    Writable (object members) := by
  refine Writable.map (by rw [List.length_map]; exact hlength) ?_ ?_
  · intro e he
    obtain ⟨m, hm, rfl⟩ := List.mem_map.1 he
    exact writable_str (hname m hm)
  · intro e he
    obtain ⟨m, hm, rfl⟩ := List.mem_map.1 he
    exact hvalue m hm

/-- A map whose values are written by `write`. -/
def mapRecord {α : Type} (write : α → Serde.Value) (m : KeyedList String α) : Serde.Value :=
  object (m.entries.map fun e => (e.1, write e.2))

/-- The entries of a map are few, have short keys, and their values satisfy `P`. -/
structure ShortMap {α : Type} (P : α → Prop) (m : KeyedList String α) : Prop where
  length : m.entries.length < 2 ^ 32
  short : ∀ e ∈ m.entries, Short e.1
  values : ∀ e ∈ m.entries, P e.2

instance {α : Type} (P : α → Prop) [DecidablePred P] (m : KeyedList String α) :
    Decidable (ShortMap P m) :=
  decidable_of_iff (m.entries.length < 2 ^ 32 ∧ (∀ e ∈ m.entries, Short e.1) ∧
      ∀ e ∈ m.entries, P e.2)
    ⟨fun h => ⟨h.1, h.2.1, h.2.2⟩, fun h => ⟨h.length, h.short, h.values⟩⟩

theorem ShortMap.writable {α : Type} {P : α → Prop} {write : α → Serde.Value}
    {m : KeyedList String α} (h : ShortMap P m) (hP : ∀ x, P x → Writable (write x)) :
    Writable (mapRecord write m) := by
  refine writable_object (by rw [List.length_map]; exact h.length) ?_ ?_
  · intro e he
    obtain ⟨e', he', rfl⟩ := List.mem_map.1 he
    exact h.short e' he'
  · intro e he
    obtain ⟨e', he', rfl⟩ := List.mem_map.1 he
    exact hP _ (h.values e' he')

theorem length_lt_of_le {n : ℕ} (h : n ≤ 7) : n < 2 ^ 32 := by omega

/-! ### User configurations -/

/-- A `BackendMCPGateway` as the array of its fields. -/
def BackendMCPGateway.record (backend : BackendMCPGateway) : Serde.Value :=
  .seq [.str backend.name, .str backend.url.asStr, .str backend.transport.name,
    strings backend.passthroughHeaders, strings backend.allowedToolNames,
    strings backend.allowedResourceNames, strings backend.allowedPromptNames]

/-- A `VirtualHost` as the array of its fields. -/
def VirtualHost.record (host : VirtualHost) : Serde.Value :=
  .seq [mapRecord BackendMCPGateway.record host.backends]

/-- A `UserConfig` as the array of its fields. -/
def UserConfig.record (config : UserConfig) : Serde.Value :=
  .seq [mapRecord VirtualHost.record config.virtualHosts]

/-- `rmp_serde::encode::to_vec::<UserConfig>`. -/
def UserConfig.toVec (config : UserConfig) : Bytes := MessagePack.write config.record

/-- `rmp_serde::decode::from_slice::<UserConfig>`. -/
def UserConfig.fromSlice (parseUrl : String → Option Url) (b : Bytes) : Option UserConfig :=
  (MessagePack.read b).bind (UserConfig.deserialize parseUrl)

/-- A backend that MessagePack can express, with a url that is read back. -/
structure BackendMCPGateway.Storable (parseUrl : String → Option Url) (backend : BackendMCPGateway) :
    Prop where
  name : Short backend.name
  url : Short backend.url.asStr ∧ parseUrl backend.url.asStr = some backend.url
  passthroughHeaders : ShortList backend.passthroughHeaders
  allowedToolNames : ShortList backend.allowedToolNames
  allowedResourceNames : ShortList backend.allowedResourceNames
  allowedPromptNames : ShortList backend.allowedPromptNames

/-- A virtual host whose backends are so. -/
def VirtualHost.Storable (parseUrl : String → Option Url) (host : VirtualHost) : Prop :=
  ShortMap (BackendMCPGateway.Storable parseUrl) host.backends

/-- A configuration whose virtual hosts are so. -/
def UserConfig.Storable (parseUrl : String → Option Url) (config : UserConfig) : Prop :=
  ShortMap (VirtualHost.Storable parseUrl) config.virtualHosts

section

variable {parseUrl : String → Option Url}

instance : DecidablePred (BackendMCPGateway.Storable parseUrl) := fun backend =>
  decidable_of_iff (Short backend.name ∧
      (Short backend.url.asStr ∧ parseUrl backend.url.asStr = some backend.url) ∧
      ShortList backend.passthroughHeaders ∧ ShortList backend.allowedToolNames ∧
      ShortList backend.allowedResourceNames ∧ ShortList backend.allowedPromptNames)
    ⟨fun h => ⟨h.1, h.2.1, h.2.2.1, h.2.2.2.1, h.2.2.2.2.1, h.2.2.2.2.2⟩,
      fun h => ⟨h.name, h.url, h.passthroughHeaders, h.allowedToolNames, h.allowedResourceNames,
        h.allowedPromptNames⟩⟩

instance : DecidablePred (VirtualHost.Storable parseUrl) := fun host =>
  inferInstanceAs (Decidable (ShortMap (BackendMCPGateway.Storable parseUrl) host.backends))

instance : DecidablePred (UserConfig.Storable parseUrl) := fun config =>
  inferInstanceAs (Decidable (ShortMap (VirtualHost.Storable parseUrl) config.virtualHosts))

theorem Transport.short_name (transport : Transport) : Short transport.name := by
  cases transport <;> decide

theorem BackendMCPGateway.writable_record {backend : BackendMCPGateway}
    (h : backend.Storable parseUrl) : Writable backend.record := by
  refine Writable.seq (length_lt_of_le (Nat.le_refl 7)) fun v hv => ?_
  simp only [List.mem_cons, List.not_mem_nil, or_false] at hv
  rcases hv with rfl | rfl | rfl | rfl | rfl | rfl | rfl
  · exact writable_str h.name
  · exact writable_str h.url.1
  · exact writable_str (Transport.short_name _)
  · exact h.passthroughHeaders.writable
  · exact h.allowedToolNames.writable
  · exact h.allowedResourceNames.writable
  · exact h.allowedPromptNames.writable

theorem VirtualHost.writable_record {host : VirtualHost} (h : host.Storable parseUrl) :
    Writable host.record :=
  Writable.seq (length_lt_of_le (show 1 ≤ 7 by decide)) (List.forall_mem_singleton.2
    (ShortMap.writable h fun _ => BackendMCPGateway.writable_record))

theorem UserConfig.writable_record {config : UserConfig} (h : config.Storable parseUrl) :
    Writable config.record :=
  Writable.seq (length_lt_of_le (show 1 ≤ 7 by decide)) (List.forall_mem_singleton.2
    (ShortMap.writable h fun _ => VirtualHost.writable_record))

/-- The fields of a backend are read from the array as they are from an object. -/
theorem BackendMCPGateway.deserialize_record {backend : BackendMCPGateway}
    (h : backend.Storable parseUrl) : deserialize parseUrl backend.record = some backend :=
  deserialize_eq_some.2 ⟨_, _, rfl, h.url.2, Transport.deserialize_eq_some.2 (Or.inl rfl)⟩

theorem VirtualHost.deserialize_record {host : VirtualHost} (h : host.Storable parseUrl) :
    deserialize parseUrl host.record = some host :=
  deserialize_eq_some.2 (readMapStruct_eq_some.2 ⟨_, rfl,
    Serde.readMap_entries fun e he => BackendMCPGateway.deserialize_record (h.values e he)⟩)

theorem UserConfig.deserialize_record {config : UserConfig} (h : config.Storable parseUrl) :
    deserialize parseUrl config.record = some config :=
  deserialize_eq_some.2 (readMapStruct_eq_some.2 ⟨_, rfl,
    Serde.readMap_entries fun e he => VirtualHost.deserialize_record (h.values e he)⟩)

/-- A stored configuration is read back. -/
theorem UserConfig.fromSlice_toVec {config : UserConfig} (h : config.Storable parseUrl) :
    fromSlice parseUrl config.toVec = some config := by
  rw [fromSlice, toVec, MessagePack.read_write (writable_record h), Option.bind_some]
  exact deserialize_record h

end

/-! ### What is decoded can be stored -/

theorem short_of_writable {s : String} (h : Writable (.str s)) : Short s := by
  cases h with
  | str hs => exact hs

theorem shortList_of_writable {ss : List String} (h : Writable (strings ss)) : ShortList ss := by
  cases h with
  | seq hlength hitems =>
    rw [List.length_map] at hlength
    exact ⟨hlength, fun s hs => short_of_writable (hitems _ (List.mem_map_of_mem hs))⟩

theorem writable_of_readStruct {names : List String} {v : Serde.Value} {fields : List Serde.Value}
    (hv : Writable v) (h : readStruct names v = some fields) : ∀ w ∈ fields, Writable w := by
  intro w hw
  rcases Serde.mem_of_readStruct h hw with ⟨items, rfl, hmem⟩ | ⟨entries, k, rfl, hmem⟩
  · cases hv with
    | seq _ hitems => exact hitems w hmem
  · cases hv with
    | map _ _ hvalues => exact hvalues _ hmem

theorem shortMap_of_readMap {α : Type} {P : α → Prop} {read : Serde.Value → Option α}
    (hread : ∀ v x, Writable v → read v = some x → P x) {v : Serde.Value} {m : KeyedList String α}
    (hv : Writable v) (h : Serde.readMap read v = some m) : ShortMap P m := by
  cases hv with
  | map hlength hkeys hvalues =>
    obtain ⟨es, hes, rfl⟩ := Option.map_eq_some_iff.1 h
    have hsublist := KeyedList.ofList_sublist es
    have hentry : ∀ e ∈ (KeyedList.ofList es).entries, Short e.1 ∧ P e.2 := by
      rintro ⟨k, x⟩ he
      obtain ⟨⟨key, v⟩, hmem, hkey⟩ := (Serde.mem_mapM hes).1 (hsublist.subset he)
      obtain ⟨rfl, hx⟩ := Serde.readEntry_eq_some.1 hkey
      exact ⟨short_of_writable (hkeys _ hmem), hread v x (hvalues _ hmem) hx⟩
    refine ⟨?_, fun e he => (hentry e he).1, fun e he => (hentry e he).2⟩
    exact (hsublist.length_le.trans_eq (Serde.length_mapM hes)).trans_lt hlength
  | _ => cases h

/-- `Url::parse` reads back what it has parsed, and parses no url of 4 GB or more. -/
def ParsesBack (parseUrl : String → Option Url) : Prop :=
  ∀ s url, parseUrl s = some url → Short url.asStr ∧ parseUrl url.asStr = some url

section

variable {parseUrl : String → Option Url}

theorem BackendMCPGateway.storable_of_deserialize (hurl : ParsesBack parseUrl) (v : Serde.Value)
    (backend : BackendMCPGateway) (hv : Writable v) (h : deserialize parseUrl v = some backend) :
    backend.Storable parseUrl := by
  obtain ⟨url, transport, hfields, hparse, -⟩ := deserialize_eq_some.1 h
  have hw := writable_of_readStruct hv hfields
  simp only [List.forall_mem_cons] at hw
  obtain ⟨hname, -, -, hheaders, htools, hresources, hprompts, -⟩ := hw
  exact
    { name := short_of_writable hname
      url := hurl url backend.url hparse
      passthroughHeaders := shortList_of_writable hheaders
      allowedToolNames := shortList_of_writable htools
      allowedResourceNames := shortList_of_writable hresources
      allowedPromptNames := shortList_of_writable hprompts }

theorem VirtualHost.storable_of_deserialize (hurl : ParsesBack parseUrl) (v : Serde.Value)
    (host : VirtualHost) (hv : Writable v) (h : deserialize parseUrl v = some host) :
    host.Storable parseUrl := by
  obtain ⟨w, hfields, hmap⟩ := readMapStruct_eq_some.1 (deserialize_eq_some.1 h)
  exact shortMap_of_readMap (BackendMCPGateway.storable_of_deserialize hurl)
    (writable_of_readStruct hv hfields w (List.mem_singleton_self w)) hmap

/-- A configuration that is decoded, from a document whose lengths MessagePack can express, can be
stored. -/
theorem UserConfig.storable_of_deserialize (hurl : ParsesBack parseUrl) {v : Serde.Value}
    {config : UserConfig} (hv : Writable v) (h : deserialize parseUrl v = some config) :
    config.Storable parseUrl := by
  obtain ⟨w, hfields, hmap⟩ := readMapStruct_eq_some.1 (deserialize_eq_some.1 h)
  exact shortMap_of_readMap (VirtualHost.storable_of_deserialize hurl)
    (writable_of_readStruct hv hfields w (List.mem_singleton_self w)) hmap

end

/-! ### Session mappings -/

/-- `Option::<Arc<str>>::serialize`. -/
def optionRecord : Option String → Serde.Value
  | none => .unit
  | some s => .str s

/-- `Option::<Arc<str>>::deserialize`. -/
def readOption : Serde.Value → Option (Option String)
  | .unit => some none
  | v => (readString v).map some

/-- `SessionMap::deserialize`. A map may leave out the field that is an `Option`. -/
def SessionMap.deserialize : Serde.Value → Option SessionMap
  | .seq [upstreamSessionId, backendName] =>
    (readOption upstreamSessionId).bind fun upstreamSessionId =>
      (readString backendName).map fun backendName => ⟨upstreamSessionId, backendName⟩
  | .map entries =>
    if entries.all fun e => isIdentifier e.1 then
      let upstreamSessionId :=
        match entries.filter fun e => isField "upstream_session_id" 0 e.1 with
        | [] => some none
        | [e] => readOption e.2
        | _ => none
      upstreamSessionId.bind fun upstreamSessionId =>
        ((only (isField "backend_name" 1) entries).bind readString).map fun backendName =>
          ⟨upstreamSessionId, backendName⟩
    else none
  | _ => none

/-- `Vec::<SessionMap>::deserialize`. -/
def readSessionMaps : Serde.Value → Option (List SessionMap)
  | .seq items => items.mapM SessionMap.deserialize
  | _ => none

/-- `SessionMapping::deserialize`. -/
def SessionMapping.deserialize (v : Serde.Value) : Option SessionMapping :=
  match readStruct ["sessionMapping"] v with
  | some [field] => (readSessionMaps field).map SessionMapping.mk
  | _ => none

/-- A `SessionMap` as the array of its fields. -/
def SessionMap.record (map : SessionMap) : Serde.Value :=
  .seq [optionRecord map.upstreamSessionId, .str map.backendName]

/-- A `SessionMapping` as the array of its fields. -/
def SessionMapping.record (mapping : SessionMapping) : Serde.Value :=
  .seq [.seq (mapping.sessionMapping.map SessionMap.record)]

/-- `rmp_serde::encode::to_vec::<SessionMapping>`. -/
def SessionMapping.toVec (mapping : SessionMapping) : Bytes := MessagePack.write mapping.record

/-- `rmp_serde::decode::from_slice::<SessionMapping>`. -/
def SessionMapping.fromSlice (b : Bytes) : Option SessionMapping :=
  (MessagePack.read b).bind SessionMapping.deserialize

/-- A session map that MessagePack can express. -/
def SessionMap.Storable (map : SessionMap) : Prop :=
  (∀ s ∈ map.upstreamSessionId, Short s) ∧ Short map.backendName

/-- A mapping of few session maps that are so. -/
structure SessionMapping.Storable (mapping : SessionMapping) : Prop where
  length : mapping.sessionMapping.length < 2 ^ 32
  storable : ∀ map ∈ mapping.sessionMapping, map.Storable

instance (mapping : SessionMapping) : Decidable mapping.Storable :=
  decidable_of_iff (mapping.sessionMapping.length < 2 ^ 32 ∧ ∀ map ∈ mapping.sessionMapping,
      (∀ s ∈ map.upstreamSessionId, Short s) ∧ Short map.backendName)
    ⟨fun h => ⟨h.1, h.2⟩, fun h => ⟨h.length, h.storable⟩⟩

theorem SessionMap.writable_record {map : SessionMap} (h : map.Storable) : Writable map.record := by
  refine Writable.seq (length_lt_of_le (show 2 ≤ 7 by decide)) fun v hv => ?_
  rcases List.mem_pair.1 hv with rfl | rfl
  · cases hs : map.upstreamSessionId with
    | none => exact Writable.unit
    | some s => exact writable_str (h.1 s (by rw [hs]; rfl))
  · exact writable_str h.2

theorem SessionMapping.writable_record {mapping : SessionMapping} (h : mapping.Storable) :
    Writable mapping.record := by
  refine Writable.seq (length_lt_of_le (show 1 ≤ 7 by decide)) (List.forall_mem_singleton.2 ?_)
  refine Writable.seq (by rw [List.length_map]; exact h.length) fun v hv => ?_
  obtain ⟨map, hmap, rfl⟩ := List.mem_map.1 hv
  exact SessionMap.writable_record (h.storable map hmap)

theorem SessionMap.deserialize_record (map : SessionMap) : deserialize map.record = some map := by
  obtain ⟨upstreamSessionId, backendName⟩ := map
  cases upstreamSessionId <;> rfl

theorem SessionMapping.deserialize_record (mapping : SessionMapping) :
    deserialize mapping.record = some mapping := by
  have hmaps : (mapping.sessionMapping.map SessionMap.record).mapM SessionMap.deserialize =
      some mapping.sessionMapping := by
    have hread : SessionMap.deserialize ∘ SessionMap.record = fun map => some (id map) :=
      funext SessionMap.deserialize_record
    rw [List.mapM_map, hread]
    exact List.mapM_pure.trans (congrArg some (List.map_id _))
  show ((mapping.sessionMapping.map SessionMap.record).mapM SessionMap.deserialize).map
    SessionMapping.mk = some mapping
  rw [hmaps]
  rfl

/-- A stored mapping is read back. -/
theorem SessionMapping.fromSlice_toVec {mapping : SessionMapping} (h : mapping.Storable) :
    fromSlice mapping.toVec = some mapping := by
  rw [fromSlice, toVec, MessagePack.read_write (writable_record h), Option.bind_some]
  exact deserialize_record mapping

/-- The bytes are those of a default mapping. -/
example : (default : SessionMapping).toVec = [0x91, 0x90] := by decide

/-! ### The codecs of the two stores -/

theorem User.toVec_inj {u v : User} (hu : Short u.key) (hv : Short v.key) (h : u.toVec = v.toVec) :
    u = v := by
  have htwo : 2 < 2 ^ 32 := by decide
  have hfields : u.fields = v.fields :=
    writeStrs_utf8_inj (User.short_fields hu) (User.short_fields hv) htwo htwo h
  exact User.ext_key (List.cons.inj (List.cons.inj hfields).2).1

/-- `rmp_serde`, for user configurations. -/
def userConfigCodec (parseUrl : String → Option Url) : Codec UserConfig where
  encodeUser u := if Short u.key then some u.toVec else none
  encodeConfig config := if config.Storable parseUrl then some config.toVec else none
  decodeConfig := UserConfig.fromSlice parseUrl
  encodeUser_inj := by
    intro u v k hu hv
    rw [Option.ite_none_right_eq_some] at hu hv
    exact User.toVec_inj hu.1 hv.1 ((Option.some.inj hu.2).trans (Option.some.inj hv.2).symm)
  decode_encode := by
    intro config b h
    obtain ⟨hstorable, hb⟩ := Option.ite_none_right_eq_some.1 h
    rw [← Option.some.inj hb]
    exact UserConfig.fromSlice_toVec hstorable

/-- The fields of a session are short. -/
def UserSession.ShortFields (session : UserSession) : Prop := ∀ s ∈ session.fields, Short s

instance (session : UserSession) : Decidable session.ShortFields :=
  inferInstanceAs (Decidable (∀ s ∈ session.fields, Short s))

theorem UserSession.toVec_inj {u v : UserSession} (hu : u.ShortFields) (hv : v.ShortFields)
    (h : u.toVec = v.toVec) : u = v := by
  have hthree : 3 < 2 ^ 32 := by decide
  have hfields : u.fields = v.fields := writeStrs_utf8_inj hu hv hthree hthree h
  obtain ⟨name, principal, downstreamSessionId⟩ := u
  obtain ⟨name', principal', downstreamSessionId'⟩ := v
  cases hfields
  rfl

/-- `rmp_serde`, for session mappings. -/
def sessionCodec : SessionCodec where
  encodeSession u := if u.ShortFields then some u.toVec else none
  encodeMapping mapping := if mapping.Storable then some mapping.toVec else none
  decodeMapping := SessionMapping.fromSlice
  encodeSession_inj := by
    intro u v k hu hv
    rw [Option.ite_none_right_eq_some] at hu hv
    exact UserSession.toVec_inj hu.1 hv.1 ((Option.some.inj hu.2).trans (Option.some.inj hv.2).symm)
  decode_encode := by
    intro mapping b h
    obtain ⟨hstorable, hb⟩ := Option.ite_none_right_eq_some.1 h
    rw [← Option.some.inj hb]
    exact SessionMapping.fromSlice_toVec hstorable

end ContextForge
