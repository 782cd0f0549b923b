import ContextForgeGateway.Gateway.McpService
import ContextForgeGateway.Lib.MessagePack

/-!
# The keys in Redis

User configurations, session mappings and the plugin configuration share one Redis. The first two are
stored under what `rmp_serde::to_vec` makes of a `User` and of a `UserSession`, the third under a
constant. `rmp_serde` writes a struct as the array of its fields in order, and a unit variant as its
name; here all fields are strings then.

`redisKeys_disjoint`: no two of these keys are equal, unless they are keys of one kind for the same
user or the same session.
-/

namespace ContextForge

open MessagePack

/-- The bytes of a `&str`. -/
def utf8 (s : String) : Bytes := s.toByteArray.data.toList

theorem utf8_inj {s t : String} (h : utf8 s = utf8 t) : s = t :=
  String.toByteArray_inj.1 (ByteArray.ext (Array.toList_inj.1 h))

/-- `RUNTIME_PLUGIN_CONFIG_KEY`. -/
def runtimePluginConfigKey : String := "ContextForgeGatewayRuntimePluginConfig"

/-- The name of a variant of `KeyType`. -/
def KeyType.variant : KeyType → String
  | userConfig => "UserConfig"

/-- The fields of a `User`, in order. -/
def User.fields (user : User) : List String := [user.name.variant, user.key]

/-- The fields of a `UserSession`, in order. -/
def UserSession.fields (session : UserSession) : List String :=
  [session.name, session.principal, session.downstreamSessionId]

/-- `rmp_serde::encode::to_vec::<User>`. -/
def User.toVec (user : User) : Bytes := writeStrs (user.fields.map utf8)

/-- `rmp_serde::encode::to_vec::<UserSession>`. -/
def UserSession.toVec (session : UserSession) : Bytes := writeStrs (session.fields.map utf8)

example : (User.new "alice").toVec =
    [0x92, 0xaa, 85, 115, 101, 114, 67, 111, 110, 102, 105, 103, 0xa5, 97, 108, 105, 99, 101] := by
  rfl

/-- The length of the string fits into the widest header. -/
abbrev Short (s : String) : Prop := s.utf8ByteSize < 2 ^ 32

/-- Records of strings are written differently if they are different. -/
theorem writeStrs_utf8_inj {ss ts : List String} (hs : ∀ s ∈ ss, Short s) (ht : ∀ t ∈ ts, Short t)
    (hslen : ss.length < 2 ^ 32) (htlen : ts.length < 2 ^ 32)
    (h : writeStrs (ss.map utf8) = writeStrs (ts.map utf8)) : ss = ts := by
  have hbytes : ∀ {fields : List String}, (∀ s ∈ fields, Short s) →
      ∀ b ∈ fields.map utf8, b.length < 2 ^ 32 := by
    intro fields hfields b hb
    obtain ⟨s, hs, rfl⟩ := List.mem_map.1 hb
    exact hfields s hs
  have heq := writeStrs_injective (hbytes hs) (hbytes ht)
    (by rw [List.length_map]; exact hslen) (by rw [List.length_map]; exact htlen) h
  exact List.map_injective_iff.2 (fun _ _ hst => utf8_inj hst) heq

theorem User.short_fields {u : String} (hu : Short u) : ∀ s ∈ (User.new u).fields, Short s := by
  have hname : Short "UserConfig" := by decide
  exact List.forall_mem_cons.2 ⟨hname, List.forall_mem_singleton.2 hu⟩

theorem UserSession.short_fields {p s : String} (hp : Short p) (hs : Short s) :
    ∀ f ∈ (UserSession.new p s).fields, Short f := by
  have hname : Short "UserSession" := by decide
  exact List.forall_mem_cons.2 ⟨hname, List.forall_mem_cons.2 ⟨hp, List.forall_mem_singleton.2 hs⟩⟩

/-- **Redis keys never collide.** -/
theorem redisKeys_disjoint {u u' p p' s s' : String} (hu : Short u) (hu' : Short u') (hp : Short p)
    (hp' : Short p') (hs : Short s) (hs' : Short s') :
    ((User.new u).toVec = (User.new u').toVec → u = u') ∧
    ((UserSession.new p s).toVec = (UserSession.new p' s').toVec → p = p' ∧ s = s') ∧
    (User.new u).toVec ≠ (UserSession.new p s).toVec ∧
    (User.new u).toVec ≠ utf8 runtimePluginConfigKey ∧
    (UserSession.new p s).toVec ≠ utf8 runtimePluginConfigKey := by
  have htwo : 2 < 2 ^ 32 := by decide
  have hthree : 3 < 2 ^ 32 := by decide
  have huser := User.short_fields hu
  have hsession := UserSession.short_fields hp hs
  refine ⟨fun h => ?_, fun h => ?_, fun h => ?_, fun h => ?_, fun h => ?_⟩
  · cases writeStrs_utf8_inj huser (User.short_fields hu') htwo htwo h
    rfl
  · cases writeStrs_utf8_inj hsession (UserSession.short_fields hp' hs') hthree hthree h
    exact ⟨rfl, rfl⟩
  · -- the numbers of fields are different
    have heq := writeStrs_utf8_inj huser hsession htwo hthree h
    exact (by decide : 2 ≠ 3) (congrArg List.length heq)
  · -- a key of text does not begin with the header of an array
    cases h
  · cases h

theorem redisKeys_disjoint_alice :
    (User.new "alice").toVec ≠ (UserSession.new "" "alice").toVec :=
  have hshort : Short "alice" := by decide
  (redisKeys_disjoint hshort hshort (by decide : Short "") (by decide : Short "") hshort
    hshort).2.2.1

end ContextForge
