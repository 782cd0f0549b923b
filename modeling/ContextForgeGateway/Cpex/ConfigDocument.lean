import ContextForgeGateway.Cpex.Registry
import ContextForgeGateway.Lib.MessagePack.Value

/-!
# The formats of the configuration document

`decode_config_document` reads the bytes as JSON, and as MessagePack if that fails. Both formats
give a value of serde's data model, from which the derived `Deserialize` of
`RuntimePluginConfigDocument` takes the fields.

The parsers of the two formats, which bytes are a JSON text of a value, and how a `CpexConfig` is written
and read in each of them, are parameters; `Formats.Documented` is what is documented of them. Nothing in it
relates one format to the other. That a document of one format is never taken for one of the other rests on the first byte
that is not whitespace: JSON begins with a character of ASCII, and MessagePack with a marker of a map
or of an array, which is none.
-/

namespace ContextForge

open Serde (depth object readStruct)
open MessagePack (Writable)

variable {Value Manager : Type}

/-! ### The derived `Deserialize` -/

/-- `u8`. -/
def readU8 : Serde.Value → Option ℕ
  | .int n => if 0 ≤ n ∧ n < 256 then some n.toNat else none
  | _ => none

/-- `RuntimePluginConfigDocument::deserialize`, from what reads the field `cpex`. -/
def RuntimePluginConfigDocument.deserialize (cpex : Serde.Value → Option (CpexConfig Value))
    (v : Serde.Value) : Option (RuntimePluginConfigDocument Value) :=
  match readStruct ["version", "cpex"] v with
  | some [version, config] =>
    (readU8 version).bind fun version => (cpex config).map fun config => ⟨version, config⟩
  | _ => none

/-- The fields of a document, as `Serialize` writes them, if `config` is what it makes of `cpex`. -/
def RuntimePluginConfigDocument.members (document : RuntimePluginConfigDocument Value)
    (config : Serde.Value) : List (String × Serde.Value) :=
  [("version", .int document.version), ("cpex", config)]

theorem readU8_ofNat {n : ℕ} (h : n < 256) : readU8 (.int n) = some n := by
  rw [readU8, if_pos ⟨Int.natCast_nonneg n, by omega⟩, Int.toNat_natCast]

/-- The members of a document are read back, in any order. -/
theorem RuntimePluginConfigDocument.deserialize_members
    {document : RuntimePluginConfigDocument Value} (hversion : document.version < 256)
    {cpex : Serde.Value → Option (CpexConfig Value)} {config : Serde.Value}
    (hcpex : cpex config = some document.cpex) {members : List (String × Serde.Value)}
    (h : members.Perm (document.members config)) :
    RuntimePluginConfigDocument.deserialize cpex (object members) = some document := by
  have hfields : readStruct ["version", "cpex"] (object members) =
      some [.int document.version, config] := by
    rw [Serde.readStruct_perm _ h]
    rfl
  unfold deserialize
  rw [hfields]
  simp only [readU8_ofNat hversion, hcpex, Option.bind_some, Option.map_some]

theorem RuntimePluginConfigDocument.writable_members
    {document : RuntimePluginConfigDocument Value} (hversion : document.version < 256)
    {config : Serde.Value} (hconfig : Writable config) :
    Writable (object (document.members config)) := by
  have htwo : 2 < 2 ^ 32 := by decide
  have hversionName : (Serde.strBytes "version").length < 2 ^ 32 := by decide
  have hcpexName : (Serde.strBytes "cpex").length < 2 ^ 32 := by decide
  apply Writable.map
  · exact htwo
  · intro e he
    obtain ⟨m, hm, rfl⟩ := List.mem_map.1 he
    rcases List.mem_pair.1 hm with rfl | rfl
    · exact Writable.str hversionName
    · exact Writable.str hcpexName
  · intro e he
    obtain ⟨m, hm, rfl⟩ := List.mem_map.1 he
    rcases List.mem_pair.1 hm with rfl | rfl
    · exact Writable.ofNat (by omega)
    · exact hconfig

/-- A document is nested as deeply as its configuration, and once more. -/
theorem RuntimePluginConfigDocument.depth_members {document : RuntimePluginConfigDocument Value}
    {config : Serde.Value} {limit : ℕ} (hconfig : depth config < limit)
    {members : List (String × Serde.Value)} (h : members.Perm (document.members config)) :
    depth (object members) ≤ limit := by
  have hmembers : ∀ m ∈ members, depth m.2 ≤ depth config := by
    intro m hm
    rcases List.mem_pair.1 (h.mem_iff.1 hm) with rfl | rfl
    · exact Nat.zero_le _
    · exact Nat.le_refl _
  exact Nat.le_trans (Serde.depth_object_le hmembers) hconfig

/-! ### The formats -/

variable (Value) in
/-- `CpexConfig` in a format: what a configuration is written as, what a value is read as, and how deeply
nested values the parser of the format reads. -/
structure CpexSerde where
  serialized : CpexConfig Value → Serde.Value → Prop
  deserialize : Serde.Value → Option (CpexConfig Value)
  depthLimit : ℕ

/-- The format round-trips configurations: they are read back, and as members of a document they are not
nested too deeply for the parser. -/
structure CpexSerde.RoundTrips (serde : CpexSerde Value) : Prop where
  deserialize_of_serialized : ∀ config v, serde.serialized config v → serde.deserialize v = some config
  depth_lt : ∀ config v, serde.serialized config v → depth v < serde.depthLimit

variable (Value) in
/-- JSON, with `serde_json`, and MessagePack, with `rmp_serde`. -/
structure Formats where
  /-- The bytes are a text of the value, by the grammar of JSON. -/
  text : Bytes → Serde.Value → Prop
  parse : Bytes → Option Serde.Value
  unpack : Bytes → Option Serde.Value
  json : CpexSerde Value
  messagePack : CpexSerde Value

/-- The whitespace of JSON. -/
def isWhitespace (b : UInt8) : Bool := b = 0x20 || b = 0x09 || b = 0x0a || b = 0x0d

/-- The first bytes of JSON values: brackets, quotes, digits, the minus sign and the literals. -/
def startsJsonValue (b : UInt8) : Bool :=
  b = 0x7b || b = 0x5b || b = 0x22 || b = 0x2d || (0x30 ≤ b && b ≤ 0x39) ||
    b = 0x74 || b = 0x66 || b = 0x6e

namespace Formats

/-- What is documented of the two formats. -/
structure Documented (formats : Formats Value) : Prop where
  json_roundTrips : formats.json.RoundTrips
  messagePack_roundTrips : formats.messagePack.RoundTrips
  /-- A JSON text is read as its value. -/
  parse_text : ∀ b v, formats.text b v → depth v ≤ formats.json.depthLimit → formats.parse b = some v
  /-- Whitespace around a JSON text is passed over. -/
  whitespace : ∀ l b r, l.all isWhitespace = true → r.all isWhitespace = true →
    formats.parse (l ++ b ++ r) = formats.parse b
  /-- What is read as JSON is a value, perhaps behind whitespace. -/
  json_start : ∀ b v, formats.parse b = some v →
    ∃ l c rest, b = l ++ c :: rest ∧ l.all isWhitespace = true ∧ startsJsonValue c = true
  /-- The MessagePack encoding of a value is read back. -/
  unpack_write : ∀ v, Writable v → depth v ≤ formats.messagePack.depthLimit →
    formats.unpack (MessagePack.write v) = some v
  /-- Maps and sequences are behind their markers. -/
  unpack_kind : ∀ b v k, formats.unpack b = some v → MessagePack.container v = some k →
    ∃ c rest, b = c :: rest ∧ MessagePack.kind c.toNat = some k

variable (formats : Formats Value)

/-- The environment whose decoders are `serde_json::from_slice` and `rmp_serde::from_slice`. -/
def env (env : CpexEnv Value Manager) : CpexEnv Value Manager :=
  { env with
    decodeJson := fun b =>
      (formats.parse b).bind (RuntimePluginConfigDocument.deserialize formats.json.deserialize)
    decodeMessagePack := fun b =>
      (formats.unpack b).bind
        (RuntimePluginConfigDocument.deserialize formats.messagePack.deserialize) }

/-- The bytes are a JSON text of the document, its members in any order. -/
def JsonText (document : RuntimePluginConfigDocument Value) (b : Bytes) : Prop :=
  ∃ config members, formats.json.serialized document.cpex config ∧
    members.Perm (document.members config) ∧ formats.text b (object members)

/-- The bytes are `rmp_serde::to_vec_named` of the document. -/
def NamedMessagePack (document : RuntimePluginConfigDocument Value) (b : Bytes) : Prop :=
  ∃ config, formats.messagePack.serialized document.cpex config ∧ Writable config ∧
    b = MessagePack.write (object (document.members config))

end Formats

/-! ### First bytes -/

theorem ascii_of_isWhitespace {c : UInt8} (h : isWhitespace c = true) : c.toNat < 0x80 := by
  simp only [isWhitespace, Bool.or_eq_true, decide_eq_true_eq] at h
  rcases h with ((rfl | rfl) | rfl) | rfl <;> decide

theorem ascii_of_startsJsonValue {c : UInt8} (h : startsJsonValue c = true) : c.toNat < 0x80 := by
  simp only [startsJsonValue, Bool.or_eq_true, Bool.and_eq_true, decide_eq_true_eq] at h
  have hnine : c ≤ 0x39 → c.toNat < 0x80 := by
    intro hle
    exact Nat.lt_of_le_of_lt (UInt8.le_iff_toNat_le.1 hle) (by decide)
  rcases h with ((((((rfl | rfl) | rfl) | rfl) | ⟨-, hle⟩) | rfl) | rfl) | rfl
  any_goals decide
  exact hnine hle

/-- A struct is read from a sequence or a map only. -/
theorem container_of_deserialize {cpex : Serde.Value → Option (CpexConfig Value)} {v : Serde.Value}
    {document : RuntimePluginConfigDocument Value}
    (h : RuntimePluginConfigDocument.deserialize cpex v = some document) :
    MessagePack.container v = some .seq ∨ MessagePack.container v = some .map := by
  cases v with
  | seq items => exact Or.inl rfl
  | map entries => exact Or.inr rfl
  | _ => cases h

namespace Formats

variable {formats : Formats Value}

/-- A JSON text begins with a character of ASCII. -/
theorem Documented.ascii_of_parse (h : formats.Documented) {b : Bytes} {v : Serde.Value}
    (hparse : formats.parse b = some v) : ∃ c rest, b = c :: rest ∧ c.toNat < 0x80 := by
  obtain ⟨l, c, rest, rfl, hl, hc⟩ := h.json_start b v hparse
  cases l with
  | nil => exact ⟨c, rest, rfl, ascii_of_startsJsonValue hc⟩
  | cons w l =>
    rw [List.all_cons, Bool.and_eq_true] at hl
    exact ⟨w, l ++ c :: rest, rfl, ascii_of_isWhitespace hl.1⟩

/-- The MessagePack of a struct does not. -/
theorem Documented.not_ascii_of_unpack (h : formats.Documented) {b : Bytes} {v : Serde.Value}
    (hunpack : formats.unpack b = some v)
    (hv : MessagePack.container v = some .seq ∨ MessagePack.container v = some .map) :
    ∃ c rest, b = c :: rest ∧ 0x80 ≤ c.toNat := by
  have hkind : ∃ c rest k, b = c :: rest ∧ MessagePack.kind c.toNat = some k ∧ k ≠ .uint := by
    rcases hv with hv | hv
    · obtain ⟨c, rest, hb, hk⟩ := h.unpack_kind b v _ hunpack hv
      exact ⟨c, rest, _, hb, hk, by decide⟩
    · obtain ⟨c, rest, hb, hk⟩ := h.unpack_kind b v _ hunpack hv
      exact ⟨c, rest, _, hb, hk, by decide⟩
  obtain ⟨c, rest, k, hb, hk, hne⟩ := hkind
  refine ⟨c, rest, hb, ?_⟩
  by_contra hlt
  rw [MessagePack.ascii_kind c.toNat (by omega)] at hk
  exact hne (Option.some.inj hk).symm

/-- No bytes are accepted by both decoders. -/
theorem Documented.decoders_disjoint (h : formats.Documented) (env : CpexEnv Value Manager)
    {b : Bytes} {document document' : RuntimePluginConfigDocument Value}
    (hjson : (formats.env env).decodeJson b = some document) :
    (formats.env env).decodeMessagePack b ≠ some document' := by
  intro hmessagePack
  obtain ⟨v, hparse, -⟩ := Option.bind_eq_some_iff.1 hjson
  obtain ⟨v', hunpack, hv'⟩ := Option.bind_eq_some_iff.1 hmessagePack
  obtain ⟨c, rest, hb, hascii⟩ := h.ascii_of_parse hparse
  obtain ⟨c', rest', hb', hmarker⟩ := h.not_ascii_of_unpack hunpack (container_of_deserialize hv')
  obtain ⟨rfl, -⟩ := List.cons.inj (hb.symm.trans hb')
  omega

theorem Documented.decodeJson_text (h : formats.Documented) (env : CpexEnv Value Manager)
    {document : RuntimePluginConfigDocument Value} (hversion : document.version < 256)
    {l b r : Bytes} (hb : formats.JsonText document b) (hl : l.all isWhitespace = true)
    (hr : r.all isWhitespace = true) :
    (formats.env env).decodeJson (l ++ b ++ r) = some document := by
  obtain ⟨config, members, hconfig, hmembers, hb⟩ := hb
  have hcpex := h.json_roundTrips.deserialize_of_serialized _ _ hconfig
  have hdepth := RuntimePluginConfigDocument.depth_members (h.json_roundTrips.depth_lt _ _ hconfig) hmembers
  have hdocument := RuntimePluginConfigDocument.deserialize_members hversion hcpex hmembers
  have htext : formats.parse (l ++ b ++ r) = some (object members) :=
    (h.whitespace l b r hl hr).trans (h.parse_text b _ hb hdepth)
  exact Option.bind_eq_some_iff.2 ⟨_, htext, hdocument⟩

theorem Documented.decodeMessagePack_named (h : formats.Documented) (env : CpexEnv Value Manager)
    {document : RuntimePluginConfigDocument Value} (hversion : document.version < 256)
    {b : Bytes} (hb : formats.NamedMessagePack document b) :
    (formats.env env).decodeMessagePack b = some document := by
  obtain ⟨config, hconfig, hwritable, rfl⟩ := hb
  have hsame := List.Perm.refl (document.members config)
  have hcpex := h.messagePack_roundTrips.deserialize_of_serialized _ _ hconfig
  have hdepth := RuntimePluginConfigDocument.depth_members (h.messagePack_roundTrips.depth_lt _ _ hconfig)
    hsame
  have hdocument := RuntimePluginConfigDocument.deserialize_members hversion hcpex hsame
  have hunpack := h.unpack_write _ (document.writable_members hversion hwritable) hdepth
  exact Option.bind_eq_some_iff.2 ⟨_, hunpack, hdocument⟩

end Formats

/-! ### `decode_config_document` -/

/-- The environment in which `decode_config_document` makes its two attempts in the other order. -/
def CpexEnv.swapped (env : CpexEnv Value Manager) : CpexEnv Value Manager :=
  { env with
    decodeJson := env.decodeMessagePack
    decodeMessagePack := env.decodeJson }

variable {env : CpexEnv Value Manager}

theorem decodeConfigDocument_of_decodeJson {b : Bytes}
    {document : RuntimePluginConfigDocument Value} (h : env.decodeJson b = some document) :
    decodeConfigDocument env b = .ok document := by
  unfold decodeConfigDocument
  rw [h]
  rfl

theorem decodeConfigDocument_of_decodeMessagePack {b : Bytes}
    {document : RuntimePluginConfigDocument Value} (hjson : env.decodeJson b = none)
    (h : env.decodeMessagePack b = some document) :
    decodeConfigDocument env b = .ok document := by
  unfold decodeConfigDocument
  rw [hjson, h]
  rfl

/-- Decoders that accept no bytes in common can be tried in either order. -/
theorem decodeConfigDocument_swapped
    (h : ∀ b document document', env.decodeJson b = some document →
      env.decodeMessagePack b ≠ some document') (b : Bytes) :
    decodeConfigDocument env.swapped b = decodeConfigDocument env b := by
  have hor : (env.swapped.decodeJson b).or (env.swapped.decodeMessagePack b) =
      (env.decodeJson b).or (env.decodeMessagePack b) := by
    show (env.decodeMessagePack b).or (env.decodeJson b) = _
    cases hjson : env.decodeJson b with
    | none => rw [Option.or_none, Option.none_or]
    | some document =>
      cases hmessagePack : env.decodeMessagePack b with
      | none => rw [Option.or_none, Option.none_or]
      | some document' => exact absurd hmessagePack (h b document document' hjson)
  unfold decodeConfigDocument
  rw [hor]

theorem LoadedRuntimePluginConfig.decode_eq_ok {b : Bytes}
    {loaded : LoadedRuntimePluginConfig Value} :
    LoadedRuntimePluginConfig.decode env b = .ok loaded ↔
      decodeConfigDocument env b = .ok loaded.document ∧ loaded.fingerprint = b := by
  unfold LoadedRuntimePluginConfig.decode
  cases hdecode : decodeConfigDocument env b with
  | error e =>
    constructor
    · intro h
      cases h
    · rintro ⟨h, -⟩
      cases h
  | ok document =>
    constructor
    · intro h
      cases h
      exact ⟨rfl, rfl⟩
    · rintro ⟨hdocument, rfl⟩
      cases hdocument
      rfl

/-- **Both formats, without confusion.** -/
theorem decodeConfigDocument_formats {formats : Formats Value} (h : formats.Documented)
    (env : CpexEnv Value Manager) :
    (∀ document b l r, document.version < 256 → formats.JsonText document b →
      l.all isWhitespace = true → r.all isWhitespace = true →
      decodeConfigDocument (formats.env env) (l ++ b ++ r) = .ok document) ∧
    (∀ document b, document.version < 256 → formats.NamedMessagePack document b →
      decodeConfigDocument (formats.env env) b = .ok document) ∧
    (∀ b document document', (formats.env env).decodeJson b = some document →
      (formats.env env).decodeMessagePack b ≠ some document') ∧
    (∀ b, decodeConfigDocument (formats.env env).swapped b =
      decodeConfigDocument (formats.env env) b) ∧
    (∀ b b' loaded loaded', LoadedRuntimePluginConfig.decode (formats.env env) b = .ok loaded →
      LoadedRuntimePluginConfig.decode (formats.env env) b' = .ok loaded' →
      (loaded = loaded' ↔ b = b')) := by
  have hdisjoint : ∀ b document document', (formats.env env).decodeJson b = some document →
      (formats.env env).decodeMessagePack b ≠ some document' :=
    fun b document document' => h.decoders_disjoint env
  refine ⟨?_, ?_, hdisjoint, decodeConfigDocument_swapped hdisjoint, ?_⟩
  · intro document b l r hversion hb hl hr
    exact decodeConfigDocument_of_decodeJson (h.decodeJson_text env hversion hb hl hr)
  · intro document b hversion hb
    have hmessagePack := h.decodeMessagePack_named env hversion hb
    cases hjson : (formats.env env).decodeJson b with
    | some document' => exact absurd hmessagePack (hdisjoint b document' document hjson)
    | none => exact decodeConfigDocument_of_decodeMessagePack hjson hmessagePack
  · intro b b' loaded loaded' hloaded hloaded'
    obtain ⟨hdocument, hfingerprint⟩ := LoadedRuntimePluginConfig.decode_eq_ok.1 hloaded
    obtain ⟨hdocument', hfingerprint'⟩ := LoadedRuntimePluginConfig.decode_eq_ok.1 hloaded'
    constructor
    · rintro rfl
      exact hfingerprint.symm.trans hfingerprint'
    · rintro rfl
      cases loaded
      cases loaded'
      rw [hdocument] at hdocument'
      cases hdocument'
      cases hfingerprint
      cases hfingerprint'
      rfl

/-! ### A document without plugins -/

namespace Sample

/-- The value of `document` above. -/
def pluginsValue : Serde.Value := object [("plugins", .seq [])]

/-- `noPlugins` in a format. -/
def noPluginsSerde (depthLimit : ℕ) : CpexSerde Unit where
  serialized config v := config = noPlugins ∧ v = pluginsValue
  deserialize _ := some noPlugins
  depthLimit := depthLimit

/-- The value of the document. -/
def documentValue : Serde.Value := object [("version", .int 1), ("cpex", pluginsValue)]

/-- A parser that knows one text. -/
def parse (b : Bytes) : Option Serde.Value :=
  if b.filter (fun c => !isWhitespace c) = document then some documentValue else none

def formats : Formats Unit where
  text b v := b = document ∧ v = documentValue
  parse := parse
  unpack := MessagePack.read
  json := noPluginsSerde 127
  messagePack := noPluginsSerde 1023

theorem noPluginsSerde_roundTrips {depthLimit : ℕ} (h : 2 < depthLimit) :
    (noPluginsSerde depthLimit).RoundTrips where
  deserialize_of_serialized config v h := congrArg some h.1.symm
  depth_lt config v hv := by
    rw [hv.2]
    exact h

theorem filter_whitespace {l : Bytes} (h : l.all isWhitespace = true) :
    l.filter (fun c => !isWhitespace c) = [] := by
  rw [List.filter_eq_nil_iff]
  intro c hc
  rw [List.all_eq_true.1 h c hc]
  decide

theorem formats_documented : formats.Documented where
  json_roundTrips := noPluginsSerde_roundTrips (by decide)
  messagePack_roundTrips := noPluginsSerde_roundTrips (by decide)
  parse_text b v h _ := by
    obtain ⟨rfl, rfl⟩ := h
    rfl
  whitespace l b r hl hr := by
    unfold formats parse
    simp only [List.filter_append, filter_whitespace hl, filter_whitespace hr, List.nil_append,
      List.append_nil]
  json_start b v h := by
    have hb : b.filter (fun c => !isWhitespace c) = document := by
      by_contra hne
      have hnone : parse b = none := if_neg hne
      exact Option.some_ne_none v (h.symm.trans hnone)
    obtain ⟨l, rest, rfl, hl, hc, -⟩ := List.filter_eq_cons_iff.1 hb
    refine ⟨l, _, rest, rfl, ?_, rfl⟩
    rw [List.all_eq_true]
    intro c hmem
    simpa using hl c hmem
  unpack_write _ hv _ := MessagePack.read_write hv
  unpack_kind _ _ _ := MessagePack.kind_of_read

theorem writable_pluginsValue : Writable pluginsValue := by
  have hone : 1 < 2 ^ 32 := by decide
  have hzero : 0 < 2 ^ 32 := by decide
  have hname : (Serde.strBytes "plugins").length < 2 ^ 32 := by decide
  apply Writable.map
  · exact hone
  · intro e he
    obtain rfl := List.mem_singleton.1 he
    exact Writable.str hname
  · intro e he
    obtain rfl := List.mem_singleton.1 he
    apply Writable.seq
    · exact hzero
    · intro v hv
      cases hv

end Sample

/-- A line break after the JSON text, and the same document as MessagePack. -/
theorem decodeConfigDocument_formats_noPlugins :
    decodeConfigDocument (Sample.formats.env Sample.cpexEnv) (Sample.document ++ [0x0a]) =
      .ok ⟨1, Sample.noPlugins⟩ ∧
    decodeConfigDocument (Sample.formats.env Sample.cpexEnv)
      (MessagePack.write Sample.documentValue) = .ok ⟨1, Sample.noPlugins⟩ := by
  have h := decodeConfigDocument_formats Sample.formats_documented Sample.cpexEnv
  have hone : 1 < 256 := by decide
  constructor
  · exact h.1 _ _ [] [0x0a] hone ⟨_, _, ⟨rfl, rfl⟩, List.Perm.refl _, rfl, rfl⟩ rfl rfl
  · exact h.2.1 _ _ hone ⟨_, ⟨rfl, rfl⟩, Sample.writable_pluginsValue, rfl⟩

end ContextForge
