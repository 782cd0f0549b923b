import ContextForgeGateway.ConfigStore.RedisKeys
import ContextForgeGateway.Gateway.Progress
import ContextForgeGateway.Lib.MessagePack.Value

/-!
# Tokens that the gateway makes itself

`get_token` of the tools signs a token for any user with the private key of the settings, and `claims_layer`
checks the tokens of requests with the public one. What `jsonwebtoken` makes of a pair of keys is
`Decodes`: it gives back the claims of a token that was signed with the one, if the validation accepts them.

`issued_served`: with a token of `get_token` a request is served as a request of that user, if there is a
config for that user, until an hour and the leeway are over, and refused from then on. `issued_confined` is about every run of the gateway: no
request with such a token is ever served later, or with a config that was given for somebody else.
`anyone_served`: in every state of the gateway, the tools make a client without a token any user it likes.
-/

namespace ContextForge

/-! ### common.rs -/

/-- `struct User`, of the claims. -/
structure TokenUser where
  email : String
  fullName : String
  isAdmin : Bool
  authProvider : String
  deriving DecidableEq

/-- `struct Scopes`. -/
structure Scopes (Value : Type) where
  serverId : Option String
  permissions : List String
  ipRestrictions : List String
  timeRestrictions : Option Value
  deriving DecidableEq

/-- `struct ContextForgeClaims` with all its fields; times are seconds since the epoch. -/
structure TokenClaims (Value : Type) where
  sub : String
  jti : String
  tokenUse : String
  iat : Option ℕ
  iss : String
  aud : String
  exp : ℕ
  teams : Option (List String)
  user : TokenUser
  scopes : Scopes Value
  deriving DecidableEq

/-! ### tools.rs -/

/-- `Duration::hours(1).num_seconds()`. -/
def tokenLifetime : ℕ := 3600

/-- `ContextForgeClaims::new`, at the time `now` and with the uuid `jti`. -/
def TokenClaims.new {Value : Type} (userId : String) (now : ℕ) (jti : String) : TokenClaims Value where
  iss := contextForgeGatewayIssuer
  sub := userId
  aud := contextForgeGatewayAudience
  exp := now + tokenLifetime
  iat := some now
  jti := jti
  tokenUse := "api"
  teams := some ["team_awesome"]
  user := ⟨userId, "API Token User", true, "api_token"⟩
  scopes := ⟨some "my_id", ["tools.read", "servers.use"], ["192.169.1.0/24"], none⟩

/-- `jsonwebtoken::Header`, in the fields that the gateway sets. -/
structure TokenHeader where
  alg : Algorithm
  kid : Option String
  deriving DecidableEq

/-- What `get_token` asks of the system and of `jsonwebtoken`. -/
structure TokenEnv (EncodingKey Value : Type) where
  readFile : String → Option Bytes
  /-- `EncodingKey::from_rsa_pem`. -/
  rsaKey : Bytes → Option EncodingKey
  encode : TokenHeader → TokenClaims Value → EncodingKey → Option String

variable {EncodingKey Value RsKey HmacKey : Type}

/-- The key of `token_verification_private_key`. -/
def TokenEnv.encodingKey (env : TokenEnv EncodingKey Value) (privateKey : String) : Option EncodingKey :=
  (env.readFile privateKey).bind env.rsaKey

/-- `get_token`, at the time `now`; `none` is a panic. -/
def getToken (env : TokenEnv EncodingKey Value) (privateKey userId : String) (now : ℕ) (jti : String) :
    Option String := do
  let key ← env.encodingKey privateKey
  env.encode ⟨.rs256, some "test"⟩ (TokenClaims.new userId now jti) key

/-! ### jsonwebtoken -/

/-- `Validation::leeway`, which the gateway leaves as it is. -/
def leeway : ℕ := 60

/-- What `decode` asks of the algorithm of a token and of its claims. -/
def Validation.accepts (v : Validation) (alg : Algorithm) (claims : TokenClaims Value) (now : ℕ) : Bool :=
  v.algorithms.contains alg &&
    (match v.aud with
      | some aud => aud.contains claims.aud
      | none => false) &&
    (match v.iss with
      | some iss => iss.contains claims.iss
      | none => true) &&
    (!v.validateExp || now ≤ claims.exp + leeway)

/-- At the time `now`, a token that was signed with `key` is decoded with `pub` to its claims, if the
validation accepts them. -/
structure Decodes (jwt : Jwt RsKey HmacKey) (now : ℕ) (env : TokenEnv EncodingKey Value) (key : EncodingKey)
    (pub : RsKey) : Prop where
  header : ∀ header claims token, env.encode header claims key = some token →
    jwt.decodeHeader token = some header.alg
  claims : ∀ header claims token validation, header.alg.isRs = true →
    env.encode header claims key = some token →
    jwt.decode token (.rs pub) validation =
      if validation.accepts header.alg claims now then some ⟨claims.sub⟩ else none

/-! ### What such a token is good for -/

/-- The validation of `claims_layer` accepts the claims of `get_token` until they expire. -/
theorem accepts_new (userId : String) (issued now : ℕ) (jti : String) :
    (gatewayValidation .rs256).accepts .rs256 (TokenClaims.new userId issued jti : TokenClaims Value) now =
      decide (now ≤ issued + tokenLifetime + leeway) := by
  simp [Validation.accepts, gatewayValidation, TokenClaims.new]
  rfl

theorem strFromUtf8_utf8 (s : String) : strFromUtf8 (utf8 s) = some s :=
  MessagePack.ofStrBytes_strBytes s

section

variable {Body : Type} {jwt : Jwt RsKey HmacKey} {keys : JwtTokenDecoders RsKey HmacKey} {now issued : ℕ}
  {env : TokenEnv EncodingKey Value} {privateKey : String} {key : EncodingKey} {pub : RsKey}
  {userId jti token : String} {request : HttpRequest Body}

/-- Such a token in a request is verified for its user, until it expires. -/
theorem verified_issued (hdecodes : Decodes jwt now env key pub) (hkeys : keys.rs = some pub)
    (hkey : env.encodingKey privateKey = some key)
    (htoken : getToken env privateKey userId issued jti = some token)
    (hheader : request.header "authorization" = some (bearer ++ utf8 token))
    (claims : ContextForgeClaims) :
    Verified jwt keys request claims ↔
      now ≤ issued + tokenLifetime + leeway ∧ claims = ⟨userId⟩ := by
  have hencode : env.encode ⟨.rs256, some "test"⟩ (TokenClaims.new userId issued jti) key = some token := by
    unfold getToken at htoken
    rwa [hkey] at htoken
  have halg : jwt.decodeHeader token = some .rs256 := hdecodes.header _ _ token hencode
  have hdecode : jwt.decode token (.rs pub) (gatewayValidation .rs256) =
      if now ≤ issued + tokenLifetime + leeway then some ⟨userId⟩ else none := by
    rw [hdecodes.claims _ _ token _ rfl hencode, accepts_new]
    simp only [decide_eq_true_eq]
    rfl
  constructor
  · rintro ⟨token', rawToken, alg, hheader', hutf8, halg', h⟩
    rw [hheader] at hheader'
    obtain rfl : utf8 token = token' := List.append_cancel_left (Option.some.inj hheader')
    rw [strFromUtf8_utf8] at hutf8
    cases hutf8
    rw [halg] at halg'
    cases halg'
    rcases h with ⟨-, key', hkey', h⟩ | ⟨hhs, -⟩
    · rw [hkeys] at hkey'
      cases hkey'
      rw [hdecode] at h
      split_ifs at h with hnow
      cases h
      exact ⟨hnow, rfl⟩
    · cases hhs
  · rintro ⟨hnow, rfl⟩
    refine ⟨utf8 token, token, .rs256, hheader, strFromUtf8_utf8 token, halg,
      Or.inl ⟨rfl, pub, hkeys, ?_⟩⟩
    rw [hdecode, if_pos hnow]

/-- `claims_layer` refuses a request of which no claims are verified. -/
theorem claimsLayer_of_not_verified (next : HttpRequest Body → Outcome Body)
    (h : ∀ claims, ¬ Verified jwt keys request claims) :
    claimsLayer jwt keys next request = .response unauthorizedResponse := by
  unfold claimsLayer
  cases hauthorization : request.header "authorization" with
  | none => rfl
  | some authorization =>
    cases hbearer : stripBearer authorization with
    | none => simp only [hbearer]
    | some token =>
      cases hutf8 : strFromUtf8 token with
      | none => simp only [hbearer, hutf8]
      | some rawToken =>
        cases halg : jwt.decodeHeader rawToken with
        | none => simp only [hbearer, hutf8, halg]
        | some alg =>
          cases hclaims : decodeClaims jwt keys alg rawToken with
          | none => simp only [hbearer, hutf8, halg, hclaims]
          | some claims =>
            refine absurd ⟨token, rawToken, alg, ?_, hutf8, halg, decodeClaims_eq_some.1 hclaims⟩ (h claims)
            rw [hauthorization, stripBearer_eq_some.1 hbearer]

/-- **What a token of `get_token` is good for.** Until it expires, a request with it is served as a request
of its user, if the store has a config for that user, and it is refused from then on, whatever the store
has. -/
theorem issued_served (hdecodes : Decodes jwt now env key pub) (hkeys : keys.rs = some pub)
    (hkey : env.encodingKey privateKey = some key)
    (htoken : getToken env privateKey userId issued jti = some token)
    (hheader : request.header "authorization" = some (bearer ++ utf8 token)) {id : String}
    (hpath : request.path = "/servers/" ++ id ++ "/mcp")
    (getConfig : User → Except ConfigStoreError UserConfig) :
    if now ≤ issued + tokenLifetime + leeway then
      match getConfig (User.new userId) with
      | .ok config => ∃ invoked, mcpRoute jwt keys getConfig request = .invoked invoked ∧
          invoked.extensions.claims = some ⟨userId⟩ ∧ invoked.extensions.userConfig = some config
      | .error _ => Unconfigured (mcpRoute jwt keys getConfig request)
    else mcpRoute jwt keys getConfig request = .response unauthorizedResponse := by
  have hverified : ∀ extensions claims,
      Verified jwt keys { request with extensions } claims ↔
        now ≤ issued + tokenLifetime + leeway ∧ claims = ⟨userId⟩ :=
    fun extensions => verified_issued hdecodes hkeys hkey htoken hheader
  have hid : extractVirtualHostId request.path = some (some ⟨id⟩) := extractVirtualHostId_eq_some.2 hpath
  unfold mcpRoute virtualHostIdLayer
  simp only [hid]
  obtain ⟨sessionId, hs⟩ := sessionIdLayer_eq (claimsLayer jwt keys
    (userConfigStoreLayer getConfig .invoked)) { request with
      extensions := { request.extensions with virtualHostId := some ⟨id⟩ } }
  rw [hs]
  split_ifs with hnow
  · rw [claimsLayer_of_verified _ ((hverified _ ⟨userId⟩).2 ⟨hnow, rfl⟩)]
    cases hconfig : getConfig (User.new userId) with
    | error e => exact userConfigStoreLayer_of_error rfl hconfig .invoked
    | ok config =>
      unfold userConfigStoreLayer
      simp only [hconfig]
      exact ⟨_, rfl, rfl, rfl⟩
  · exact claimsLayer_of_not_verified _ fun claims h => hnow ((hverified _ claims).1 h).1

end

/-- **For whom such a token is good.** Whatever the interleaving, a request with it is served only before it
expires, and with a config that was given for its user. -/
theorem issued_confined {Body Manager Ctx Json : Type} [DecidableEq Json] {codec : Codec UserConfig}
    {jwt : ℕ → Jwt RsKey HmacKey} {keys : JwtTokenDecoders RsKey HmacKey} {unixTime : ℕ → ℕ}
    {env : TokenEnv EncodingKey Value} {privateKey userId jti token : String} {issued : ℕ}
    {key : EncodingKey} {pub : RsKey} (hdecodes : ∀ time, Decodes (jwt time) (unixTime time) env key pub)
    (hkeys : keys.rs = some pub) (hkey : env.encodingKey privateKey = some key)
    (htoken : getToken env privateKey userId issued jti = some token) (redis : Bytes → Option Bytes)
    (toolCallId : UInt64) (es : List (Application.Event Body Json Manager Ctx)) :
    ∀ s ∈ (Runs.run (Application.next codec jwt keys) (Application.State.new redis toolCallId) es).served,
      s.arrived.header "authorization" = some (bearer ++ utf8 token) →
        unixTime s.time ≤ issued + tokenLifetime + leeway ∧
        ∃ config, Application.GivenFor codec redis es (User.new userId) config ∧
          s.invoked.extensions.claims = some ⟨userId⟩ ∧
          s.invoked.extensions.userConfig = some config := by
  intro s hs hheader
  have hinv : Application.Inv codec jwt keys redis es _ := Application.inv_run toolCallId es
  obtain ⟨claims, config, id, hattributed⟩ := hinv.served s hs
  obtain ⟨hnow, rfl⟩ :=
    (verified_issued (hdecodes s.time) hkeys hkey htoken hheader claims).1 hattributed.verified
  obtain ⟨sessionId, hinvoked⟩ := hattributed.seen
  exact ⟨hnow, config, hattributed.given, by rw [hinvoked], by rw [hinvoked]⟩

/-! ### Who may have such a token -/

section

open RedisUserConfigStore (Call System)

variable {Body Manager Ctx Json : Type} [DecidableEq Json] {codec : Codec UserConfig}
  {jwt : ℕ → Jwt RsKey HmacKey} {keys : JwtTokenDecoders RsKey HmacKey} {σ : Application.State Body}

/-- A `configure_user` that nothing interrupts. -/
def configuring (i : ℕ) (userId : String) (config : UserConfig) :
    List (Application.Event Body Json Manager Ctx) :=
  [.configure i userId config, .storeStep i true, .storeStep i true]

/-- A request, up to the end of its `get_config`, that nothing interrupts. -/
def requesting (j : ℕ) (request : HttpRequest Body) : List (Application.Event Body Json Manager Ctx) :=
  [.receive j request, .storeStep j true, .storeStep j true]

/-- It writes the config to Redis and to the cache. -/
theorem run_configuring {i : ℕ} (hi : σ.system.calls i = none) {userId : String} {config : UserConfig}
    {k b : Bytes} (hk : codec.encodeUser (User.new userId) = some k)
    (hb : codec.encodeConfig config = some b) :
    Runs.run (Application.next codec jwt keys) σ
        (configuring i userId config : List (Application.Event Body Json Manager Ctx)) =
      { σ with system :=
          ⟨(σ.system.store.redisSet k b).insertCache (User.new userId) config,
            Function.update σ.system.calls i (some (.setDone (User.new userId) config (.ok ())))⟩ } := by
  simp [configuring, Runs.run, Application.next, Application.storeNext, RedisUserConfigStore.next,
    System.begin, hi, RedisUserConfigStore.advance, hk, hb]

/-- A `get_config` that nothing interrupts takes the live entry of the cache. -/
theorem run_getConfig (codec : Codec UserConfig) {τ : System UserConfig} {j : ℕ} (hj : τ.calls j = none) {u : User}
    {config : UserConfig} (hlive : ∃ e, τ.store.liveEntry u = some e ∧ e.value = config) :
    (Runs.run (RedisUserConfigStore.next codec) τ
      [.getConfig j u, .step j true, .step j true]).calls j = some (.getDone u (.ok config)) := by
  obtain ⟨e, he, rfl⟩ := hlive
  have hcontains : τ.store.cache.containsKey lruCacheExpiryDuration τ.store.now u.key = true :=
    Option.isSome_of_eq_some he
  have hget : (τ.store.cache.getMut lruCacheExpiryDuration τ.store.now u.key).1 = some e.value :=
    TimeCache.getMut_eq_some.2 ⟨e, he, rfl⟩
  simp [Runs.run, RedisUserConfigStore.next, System.begin, hj, RedisUserConfigStore.advance, hcontains,
    hget]

/-- **Anyone is anyone.** With the tools, whatever state the gateway is in: who has it configure any user
with any config, and make a token for that user, is served at once as that user with that config. Neither
asks for a token, as the routes of the tools are added outside of the layers. -/
theorem anyone_served {i j : ℕ} (hij : j ≠ i) (hi : σ.system.calls i = none)
    (hj : σ.system.calls j = none) {now : ℕ} {env : TokenEnv EncodingKey Value}
    {privateKey userId jti token : String} {key : EncodingKey} {pub : RsKey}
    (hdecodes : Decodes (jwt σ.system.store.now) now env key pub) (hkeys : keys.rs = some pub)
    (hkey : env.encodingKey privateKey = some key)
    (htoken : getToken env privateKey userId now jti = some token) {config : UserConfig} {k b : Bytes}
    (hk : codec.encodeUser (User.new userId) = some k) (hb : codec.encodeConfig config = some b)
    {request : HttpRequest Body} (hheader : request.header "authorization" = some (bearer ++ utf8 token))
    {id : String} (hpath : request.path = "/servers/" ++ id ++ "/mcp") :
    ∃ arrival invoked,
      (Runs.run (Application.next codec jwt keys) σ (configuring i userId config ++ requesting j request :
          List (Application.Event Body Json Manager Ctx))).outcome j = some (arrival, .invoked invoked) ∧
      invoked.extensions.claims = some ⟨userId⟩ ∧ invoked.extensions.userConfig = some config := by
  have hverified : Verified (jwt σ.system.store.now) keys request ⟨userId⟩ :=
    (verified_issued hdecodes hkeys hkey htoken hheader ⟨userId⟩).2
      ⟨(Nat.le_add_right now _).trans (Nat.le_add_right _ _), rfl⟩
  obtain ⟨handedOn, hfront, hclaims⟩ := Application.frontLayers_of_verified hverified hpath
  -- since just now, the cache has the config
  let configured : System UserConfig :=
    ⟨(σ.system.store.redisSet k b).insertCache (User.new userId) config,
      Function.update σ.system.calls i (some (.setDone (User.new userId) config (.ok ())))⟩
  have hfree : configured.calls j = none := (Function.update_of_ne hij _ _).trans hj
  have hlive : ∃ e, configured.store.liveEntry (User.new userId) = some e ∧ e.value = config :=
    ⟨_, TimeCache.live_insert_self (by decide) _ _, rfl⟩
  have hdone := run_getConfig codec hfree hlive
  have hreceive := Application.receive_of_invoked codec jwt keys { σ with system := configured } hfree
    hfront hclaims
  have hrun : Runs.run (Application.next codec jwt keys) σ
        (configuring i userId config ++ requesting j request :
          List (Application.Event Body Json Manager Ctx)) =
      { σ with
        system := Runs.run (RedisUserConfigStore.next codec) configured
          [.getConfig j (User.new userId), .step j true, .step j true]
        waiting := Function.update σ.waiting j (some ⟨request, σ.system.store.now, handedOn⟩) } := by
    rw [Runs.run_append, run_configuring hi hk hb, requesting, Runs.run_cons]
    show Runs.run _ (Application.receive codec jwt keys _ j request) _ = _
    rw [hreceive]
    rfl
  refine ⟨⟨request, σ.system.store.now, handedOn⟩, { handedOn with
    extensions := { handedOn.extensions with userConfig := some config } }, ?_, hclaims, rfl⟩
  rw [hrun]
  simp only [Application.State.outcome, Function.update_self, hdone, userConfigStoreLayer, hclaims]

end

/-! ### A token for Alice -/

namespace Issued

open Application.EndToEnd (aliceConfig codec listed request)

def claims : TokenClaims Unit := TokenClaims.new "alice" 0 "9f0c4d3e-8a41-4c7b-9a55-0d6a3a1b2c3d"

/-- A signature, as far as Alice's token needs it. -/
def env : TokenEnv Unit Unit where
  readFile _ := some []
  rsaKey _ := some ()
  encode header c _ := if header = ⟨.rs256, some "test"⟩ ∧ c = claims then some "t" else none

/-- The seconds since the start of the gateway. -/
def unixTime (time : ℕ) : ℕ := time / 1000000000

def jwt (time : ℕ) : Jwt Unit Unit where
  decodeHeader token := if token = "t" then some .rs256 else none
  decode token key validation :=
    match key with
    | .rs _ =>
      if token = "t" ∧ validation.accepts .rs256 claims (unixTime time) = true then some ⟨"alice"⟩ else none
    | .hmac _ => none

def keys : JwtTokenDecoders Unit Unit := ⟨some (), none⟩

theorem decodes (time : ℕ) : Decodes (jwt time) (unixTime time) env () () where
  header header c token h := by
    simp only [env] at h
    split_ifs at h with heq
    cases h
    rw [heq.1]
    rfl
  claims header c token validation _ h := by
    simp only [env] at h
    split_ifs at h with heq
    cases h
    obtain ⟨rfl, rfl⟩ := heq
    simp only [jwt, true_and]
    rfl

theorem token : getToken env "jwt.key" "alice" 0 "9f0c4d3e-8a41-4c7b-9a55-0d6a3a1b2c3d" = some "t" := rfl

/-- Alice's run up to her `initialize`. -/
def state : Application.State Unit :=
  Runs.run (Application.next codec jwt keys) (Application.State.new (fun _ => none) 1) (listed.take 7)

end Issued

open Issued Application.EndToEnd in
theorem issued_served_sample :
    (∃ invoked, mcpRoute (Issued.jwt 0) Issued.keys (fun _ => .ok aliceConfig) (request []) =
        .invoked invoked ∧
      invoked.extensions.claims = some ⟨"alice"⟩ ∧ invoked.extensions.userConfig = some aliceConfig) ∧
    Unconfigured (mcpRoute (Issued.jwt 0) Issued.keys (fun _ => .error .noDataForKey) (request [])) ∧
    mcpRoute (Issued.jwt (3661 * 1000000000)) Issued.keys (fun _ => .error .noDataForKey) (request []) =
      .response unauthorizedResponse := by
  have hkeys : Issued.keys.rs = some () := rfl
  have hkey : env.encodingKey "jwt.key" = some () := rfl
  have hheader : (request []).header "authorization" = some (bearer ++ utf8 "t") := rfl
  have hpath : (request []).path = "/servers/" ++ "alice" ++ "/mcp" := rfl
  have hfirst := issued_served (decodes 0) hkeys hkey token hheader hpath
  have hserved := hfirst fun _ => .ok aliceConfig
  have hunconfigured := hfirst fun _ => .error .noDataForKey
  have hlast := issued_served (decodes (3661 * 1000000000)) hkeys hkey token hheader hpath
    fun _ => .error .noDataForKey
  rw [if_pos (by decide)] at hserved hunconfigured
  rw [if_neg (by decide)] at hlast
  exact ⟨hserved, hunconfigured, hlast⟩

open Issued Application.EndToEnd in
theorem anyone_served_sample :
    ∃ arrival invoked,
      (Runs.run (Application.next codec Issued.jwt Issued.keys) Issued.state
        (configuring 3 "alice" aliceConfig ++ requesting 4 (request []) :
          List (Application.Event Unit Unit Unit Unit))).outcome 4 = some (arrival, .invoked invoked) ∧
      invoked.extensions.claims = some ⟨"alice"⟩ ∧ invoked.extensions.userConfig = some aliceConfig := by
  have hkeys : Issued.keys.rs = some () := rfl
  have hkey : env.encodingKey "jwt.key" = some () := rfl
  have hheader : (request []).header "authorization" = some (bearer ++ utf8 "t") := rfl
  have hpath : (request []).path = "/servers/" ++ "alice" ++ "/mcp" := rfl
  have huser : codec.encodeUser (User.new "alice") = some Sample.aliceKey := by decide
  have hconfig : codec.encodeConfig aliceConfig = some storedBytes := by decide
  exact anyone_served (σ := Issued.state) (i := 3) (j := 4) (by decide) rfl rfl (decodes _) hkeys hkey token
    huser hconfig hheader hpath

open Issued Application.EndToEnd in
theorem issued_confined_sample :
    ∃ s ∈ Issued.state.served, unixTime s.time ≤ 3660 ∧ s.invoked.extensions.claims = some ⟨"alice"⟩ := by
  obtain ⟨s, hs⟩ := List.exists_mem_of_length_pos (l := Issued.state.served) (by decide)
  have hheader : ∀ s ∈ Issued.state.served,
      s.arrived.header "authorization" = some (bearer ++ utf8 "t") := by decide
  have hkey : env.encodingKey "jwt.key" = some () := rfl
  obtain ⟨htime, _, -, hclaims, -⟩ :=
    issued_confined decodes rfl hkey token (fun _ => none) 1 (listed.take 7) s hs (hheader s hs)
  exact ⟨s, hs, htime, hclaims⟩

end ContextForge
