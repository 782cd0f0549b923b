import ContextForgeGateway.Layers.Middleware
import ContextForgeGateway.Gateway.Validator

/-!
# Authentication and configuration of a request

Each layer either refuses a request or hands it on with one extension that it has worked out
itself: `virtualHostIdLayer_cases`, `sessionIdLayer_eq`, `claimsLayer_cases` and
`userConfigStoreLayer_cases` say which. Put together in the order of the stack they say what stands
behind a request that reaches the MCP service (`Authenticated`), whatever extensions it arrived
with, and that every other request on the route is refused.

* `Verified` says that a token of the request names an algorithm and that `jsonwebtoken` decoded it
  with the key of that algorithm's family.
* `OnMcpRoute` is the pattern `/servers/{virtual_host_name}/mcp` under which the service is nested.
  Off it, one path makes the first layer panic.
-/

namespace ContextForge

variable {Body RsKey HmacKey : Type}

/-! ### The path -/

/-- The paths that `/servers/{virtual_host_name}/mcp` matches, when a service is nested there. -/
def OnMcpRoute (path : String) : Prop :=
  ∃ name, name ≠ "" ∧ '/' ∉ name.toList ∧
    (path = "/servers/" ++ name ++ "/mcp" ∨
      ∃ rest, path = "/servers/" ++ name ++ "/mcp/" ++ rest)

/-- The id is what stands between `/servers/` and `/mcp`. -/
theorem extractVirtualHostId_between (id : String) :
    extractVirtualHostId ("/servers/" ++ id ++ "/mcp") = some (some ⟨id⟩) := by
  have hs : Text.startsWith ("/servers/" ++ id ++ "/mcp") "/servers/" = true := by
    rw [String.append_assoc]
    exact Text.startsWith_append _ _
  have he : Text.endsWith ("/servers/" ++ id ++ "/mcp") "/mcp" = true := by
    rw [Text.endsWith_iff, String.toList_append]
    exact List.suffix_append _ _
  have hlen : Text.len ("/servers/" ++ id ++ "/mcp") - Text.len "/mcp" =
      Text.len "/servers/" + Text.len id := by
    rw [Text.len_append, Text.len_append, Nat.add_sub_cancel]
  unfold extractVirtualHostId
  rw [if_pos hs, if_pos he]
  show (Text.slice _ _ (Text.len _ - Text.len _)).map _ = _
  rw [hlen, Text.slice_append]
  rfl

/-- A path of 13 bytes or more does not make `extract_virtual_host_id` panic. -/
theorem extractVirtualHostId_cases {path : String}
    (hlen : Text.len "/servers/" + Text.len "/mcp" ≤ Text.len path) :
    extractVirtualHostId path = some none ∨
      ∃ id, path = "/servers/" ++ id ++ "/mcp" ∧ extractVirtualHostId path = some (some ⟨id⟩) := by
  cases hs : Text.startsWith path "/servers/" with
  | false => exact Or.inl (by simp [extractVirtualHostId, hs])
  | true =>
    cases he : Text.endsWith path "/mcp" with
    | false => exact Or.inl (by simp [extractVirtualHostId, hs, he])
    | true =>
      obtain ⟨id, hid⟩ := Text.exists_between hs he hlen
      refine Or.inr ⟨id, hid, ?_⟩
      rw [hid]
      exact extractVirtualHostId_between id

/-- An id is only ever taken from between `/servers/` and `/mcp`. -/
theorem extractVirtualHostId_eq_some {path : String} {virtualHostId : VirtualHostId} :
    extractVirtualHostId path = some (some virtualHostId) ↔
      path = "/servers/" ++ virtualHostId.value ++ "/mcp" := by
  constructor
  · intro h
    -- a shorter path is not sliced into anything
    have hlen : Text.len "/servers/" + Text.len "/mcp" ≤ Text.len path := by
      by_contra hlt
      have hslice : ¬ Text.len "/servers/" ≤ Text.len path - Text.len "/mcp" := by
        have hs : Text.len "/servers/" = 9 := by decide
        have hm : Text.len "/mcp" = 4 := by decide
        omega
      unfold extractVirtualHostId at h
      split_ifs at h
      · simp [Text.slice, hslice] at h
      · cases h
      · cases h
    rcases extractVirtualHostId_cases hlen with hn | ⟨id, hpath, hid⟩
    · rw [hn] at h
      cases h
    · rw [hid] at h
      cases h
      exact hpath
  · rintro rfl
    exact extractVirtualHostId_between virtualHostId.value

theorem OnMcpRoute.extract_ne_none {path : String} (h : OnMcpRoute path) :
    extractVirtualHostId path ≠ none := by
  have hlen : Text.len "/servers/" + Text.len "/mcp" ≤ Text.len path := by
    obtain ⟨name, -, -, rfl | ⟨rest, rfl⟩⟩ := h
    · rw [Text.len_append, Text.len_append]
      omega
    · have hm : Text.len "/mcp/" = Text.len "/mcp" + 1 := by decide
      rw [Text.len_append, Text.len_append, Text.len_append]
      omega
  rcases extractVirtualHostId_cases hlen with hn | ⟨id, -, hid⟩
  · simp [hn]
  · simp [hid]

/-- Off the route, the prefix and the suffix may overlap. -/
example : extractVirtualHostId "/servers/mcp" = none := by decide

/-! ### What one layer does -/

/-- The outcome is an answer with an error status. -/
def Refused (outcome : Outcome Body) : Prop :=
  ∃ response, outcome = .response response ∧ 400 ≤ response.status ∧ response.status < 600

theorem refused_textResponse {status : ℕ} (body : String) (h : 400 ≤ status ∧ status < 600) :
    Refused (.response (textResponse status body) : Outcome Body) :=
  ⟨_, rfl, h⟩

/-- The outcome is the answer to a request for whose user there is no config. -/
def Unconfigured (outcome : Outcome Body) : Prop :=
  ∃ response, outcome = .response response ∧ (response.status = 400 ∨ response.status = 500)

theorem Unconfigured.refused {outcome : Outcome Body} (h : Unconfigured outcome) : Refused outcome := by
  obtain ⟨response, rfl, hstatus⟩ := h
  exact ⟨response, rfl, by omega, by omega⟩

theorem virtualHostIdLayer_cases (next : HttpRequest Body → Outcome Body)
    (request : HttpRequest Body) :
    (extractVirtualHostId request.path = none ∧ virtualHostIdLayer next request = .panicked) ∨
    Refused (virtualHostIdLayer next request) ∨
    ∃ id : VirtualHostId, request.path = "/servers/" ++ id.value ++ "/mcp" ∧
      virtualHostIdLayer next request =
        next { request with
          extensions := { request.extensions with virtualHostId := some id } } := by
  unfold virtualHostIdLayer
  cases h : extractVirtualHostId request.path with
  | none => exact Or.inl ⟨rfl, rfl⟩
  | some found =>
    cases found with
    | none => exact Or.inr (Or.inl (refused_textResponse _ (by decide)))
    | some id => exact Or.inr (Or.inr ⟨id, extractVirtualHostId_eq_some.1 h, rfl⟩)

/-- `SessionIdLayer` never answers itself: at most it sets the session id. -/
theorem sessionIdLayer_eq (next : HttpRequest Body → Outcome Body) (request : HttpRequest Body) :
    ∃ sessionId, sessionIdLayer next request =
      next { request with extensions := { request.extensions with sessionId } } := by
  unfold sessionIdLayer
  cases (request.header mcpSessionId).bind headerToStr with
  | none => exact ⟨request.extensions.sessionId, rfl⟩
  | some sessionId => exact ⟨some ⟨sessionId⟩, rfl⟩

/-- The `Authorization` header of a request carries a token that names an RS* or HS* algorithm and
that `jsonwebtoken` has decoded to `claims`, with the configured key of that same family. -/
def Verified (jwt : Jwt RsKey HmacKey) (keys : JwtTokenDecoders RsKey HmacKey)
    (request : HttpRequest Body) (claims : ContextForgeClaims) : Prop :=
  ∃ token rawToken alg,
    request.header "authorization" = some (bearer ++ token) ∧
    strFromUtf8 token = some rawToken ∧
    jwt.decodeHeader rawToken = some alg ∧
    ((alg.isRs = true ∧ ∃ key, keys.rs = some key ∧
        jwt.decode rawToken (.rs key) (gatewayValidation alg) = some claims) ∨
      (alg.isHs = true ∧ ∃ key, keys.hmacSha = some key ∧
        jwt.decode rawToken (.hmac key) (gatewayValidation alg) = some claims))

theorem stripBearer_eq_some {value token : Bytes} :
    stripBearer value = some token ↔ value = bearer ++ token := by
  unfold stripBearer
  constructor
  · intro h
    split_ifs at h with hp
    cases h
    exact (List.prefix_iff_eq_append.1 (List.isPrefixOf_iff_prefix.1 hp)).symm
  · rintro rfl
    rw [if_pos (List.isPrefixOf_iff_prefix.2 (List.prefix_append _ _)), List.drop_left]

/-- The key with which a token is decoded is the one of the family of its algorithm. -/
theorem decodeClaims_eq_some {jwt : Jwt RsKey HmacKey} {keys : JwtTokenDecoders RsKey HmacKey}
    {alg : Algorithm} {rawToken : String} {claims : ContextForgeClaims} :
    decodeClaims jwt keys alg rawToken = some claims ↔
      (alg.isRs = true ∧ ∃ key, keys.rs = some key ∧
        jwt.decode rawToken (.rs key) (gatewayValidation alg) = some claims) ∨
      (alg.isHs = true ∧ ∃ key, keys.hmacSha = some key ∧
        jwt.decode rawToken (.hmac key) (gatewayValidation alg) = some claims) := by
  obtain ⟨rs, hmacSha⟩ := keys
  cases alg with
  | rs256 | rs384 | rs512 => cases rs <;> simp [decodeClaims, Algorithm.isRs, Algorithm.isHs]
  | hs256 | hs384 | hs512 => cases hmacSha <;> simp [decodeClaims, Algorithm.isRs, Algorithm.isHs]
  | es256 | es384 | ps256 | ps384 | ps512 | edDSA =>
    simp [decodeClaims, Algorithm.isRs, Algorithm.isHs]

theorem claimsLayer_cases (jwt : Jwt RsKey HmacKey) (keys : JwtTokenDecoders RsKey HmacKey)
    (next : HttpRequest Body → Outcome Body) (request : HttpRequest Body) :
    Refused (claimsLayer jwt keys next request) ∨
    ∃ claims, Verified jwt keys request claims ∧
      claimsLayer jwt keys next request =
        next { request with
          extensions := { request.extensions with claims := some claims } } := by
  have hrefused : Refused (.response unauthorizedResponse : Outcome Body) :=
    refused_textResponse _ (by decide)
  unfold claimsLayer
  cases ha : request.header "authorization" with
  | none => exact Or.inl hrefused
  | some authorization =>
    cases hb : stripBearer authorization with
    | none => exact Or.inl (by simpa [hb] using hrefused)
    | some token =>
      cases hu : strFromUtf8 token with
      | none => exact Or.inl (by simpa [hb, hu] using hrefused)
      | some rawToken =>
        cases hh : jwt.decodeHeader rawToken with
        | none => exact Or.inl (by simpa [hb, hu, hh] using hrefused)
        | some alg =>
          cases hd : decodeClaims jwt keys alg rawToken with
          | none => exact Or.inl (by simpa [hb, hu, hh, hd] using hrefused)
          | some claims =>
            refine Or.inr ⟨claims, ⟨token, rawToken, alg, ?_, hu, hh, ?_⟩, ?_⟩
            · rw [ha, stripBearer_eq_some.1 hb]
            · exact decodeClaims_eq_some.1 hd
            · simp only [hb, hu, hh, hd]

theorem claimsLayer_of_verified {jwt : Jwt RsKey HmacKey} {keys : JwtTokenDecoders RsKey HmacKey}
    (next : HttpRequest Body → Outcome Body) {request : HttpRequest Body}
    {claims : ContextForgeClaims} (h : Verified jwt keys request claims) :
    claimsLayer jwt keys next request =
      next { request with extensions := { request.extensions with claims := some claims } } := by
  obtain ⟨token, rawToken, alg, ha, hu, hh, hd⟩ := h
  have hb : stripBearer (bearer ++ token) = some token := stripBearer_eq_some.2 rfl
  simp only [claimsLayer, ha, hb, hu, hh, decodeClaims_eq_some.2 hd]

theorem userConfigStoreLayer_of_error {getConfig : User → Except ConfigStoreError UserConfig}
    {request : HttpRequest Body} {claims : ContextForgeClaims} {e : ConfigStoreError}
    (hclaims : request.extensions.claims = some claims)
    (hconfig : getConfig (User.new claims.sub) = .error e) (next : HttpRequest Body → Outcome Body) :
    Unconfigured (userConfigStoreLayer getConfig next request) := by
  unfold userConfigStoreLayer
  simp only [hclaims, hconfig]
  cases e with
  | noDataForKey => exact ⟨_, rfl, Or.inl rfl⟩
  | invalidConnection | dataWrongFormat | dataEncoding | cantWriteData => exact ⟨_, rfl, Or.inr rfl⟩

theorem userConfigStoreLayer_cases (getConfig : User → Except ConfigStoreError UserConfig)
    (next : HttpRequest Body → Outcome Body) (request : HttpRequest Body) :
    Unconfigured (userConfigStoreLayer getConfig next request) ∨
    ∃ claims config, request.extensions.claims = some claims ∧
      getConfig (User.new claims.sub) = .ok config ∧
      userConfigStoreLayer getConfig next request =
        next { request with
          extensions := { request.extensions with userConfig := some config } } := by
  cases hc : request.extensions.claims with
  | none =>
    refine Or.inl ⟨textResponse 400 "No claims in the token", ?_, Or.inl rfl⟩
    unfold userConfigStoreLayer
    rw [hc]
  | some claims =>
    cases hg : getConfig (User.new claims.sub) with
    | ok config =>
      refine Or.inr ⟨claims, config, rfl, hg, ?_⟩
      unfold userConfigStoreLayer
      simp only [hc, hg]
    | error e => exact Or.inl (userConfigStoreLayer_of_error hc hg next)

/-! ### The stack -/

/-- What stands behind a request that the MCP service is invoked with: `claims` are verified,
`config` is what the store has for them, and both validators look up, in `config`, the id that
stands in the path. -/
structure Authenticated (jwt : Jwt RsKey HmacKey) (keys : JwtTokenDecoders RsKey HmacKey)
    (getConfig : User → Except ConfigStoreError UserConfig) (request invoked : HttpRequest Body)
    (claims : ContextForgeClaims) (config : UserConfig) (id : VirtualHostId) : Prop where
  verified : Verified jwt keys request claims
  config_of_sub : getConfig (User.new claims.sub) = .ok config
  id_of_path : request.path = "/servers/" ++ id.value ++ "/mcp"
  seen_claims : invoked.extensions.claims = some claims
  seen_config : invoked.extensions.userConfig = some config
  seen_id : invoked.extensions.virtualHostId = some id
  authorized_call : ∀ downstream virtualHost sessionId,
    AuthorizedCallValidator.validate ⟨some invoked.extensions, downstream⟩ =
      .ok (virtualHost, sessionId) →
    config.virtualHosts.get id.value = some virtualHost
  initialize_call : ∀ downstream virtualHost sessionId,
    InitializeCallValidator.validate ⟨some invoked.extensions, downstream⟩ =
      .ok (virtualHost, sessionId) →
    config.virtualHosts.get id.value = some virtualHost
  unchanged : invoked.path = request.path ∧ invoked.headers = request.headers ∧
    invoked.body = request.body

/-- A validator that succeeds has looked up the id of the extensions in their configuration. -/
theorem get_of_validateWith {Session : Type} {maybeSession : Option Session}
    {sessionProblem : ErrorData} {e : Extensions} {virtualHost : VirtualHost} {session : Session}
    {config : UserConfig} {id : VirtualHostId} (hconfig : e.userConfig = some config)
    (hid : e.virtualHostId = some id)
    (h : validateWith maybeSession sessionProblem (some e) = .ok (virtualHost, session)) :
    config.virtualHosts.get id.value = some virtualHost := by
  obtain ⟨-, userConfig, virtualHostId, hu, hv, hget⟩ := validateWith_eq_ok.1 h
  obtain rfl : config = userConfig := Option.some.inj (hconfig.symm.trans hu)
  obtain rfl : id = virtualHostId := Option.some.inj (hid.symm.trans hv)
  exact hget

/-- A verified request for a path of the right form, whose user has a configuration, is served. -/
theorem mcpRoute_of_verified {jwt : Jwt RsKey HmacKey} {keys : JwtTokenDecoders RsKey HmacKey}
    {getConfig : User → Except ConfigStoreError UserConfig} {request : HttpRequest Body}
    {claims : ContextForgeClaims} {config : UserConfig} {id : String}
    (hverified : Verified jwt keys request claims)
    (hconfig : getConfig (User.new claims.sub) = .ok config)
    (hpath : request.path = "/servers/" ++ id ++ "/mcp") :
    ∃ invoked, mcpRoute jwt keys getConfig request = .invoked invoked := by
  have hid : extractVirtualHostId request.path = some (some ⟨id⟩) :=
    extractVirtualHostId_eq_some.2 hpath
  unfold mcpRoute virtualHostIdLayer
  simp only [hid]
  obtain ⟨sessionId, hs⟩ := sessionIdLayer_eq (claimsLayer jwt keys
    (userConfigStoreLayer getConfig .invoked)) { request with
      extensions := { request.extensions with virtualHostId := some ⟨id⟩ } }
  have hserved : Verified jwt keys { request with
      extensions := { request.extensions with virtualHostId := some ⟨id⟩, sessionId } } claims :=
    hverified
  rw [hs, claimsLayer_of_verified _ hserved]
  unfold userConfigStoreLayer
  simp only [hconfig]
  exact ⟨_, rfl⟩

/-- Every request is authenticated and bound to its user's configuration when the service is
invoked, and is refused otherwise; only off the route does a path make a layer panic. -/
theorem mcpRoute_authenticated (jwt : Jwt RsKey HmacKey) (keys : JwtTokenDecoders RsKey HmacKey)
    (getConfig : User → Except ConfigStoreError UserConfig) (request : HttpRequest Body) :
    match mcpRoute jwt keys getConfig request with
    | .invoked invoked =>
      ∃ claims config id, Authenticated jwt keys getConfig request invoked claims config id
    | .response response => 400 ≤ response.status ∧ response.status < 600
    | .panicked => ¬ OnMcpRoute request.path := by
  unfold mcpRoute
  -- layer by layer from the outside: a refusal is the outcome, and what is handed on goes further in
  rcases virtualHostIdLayer_cases (sessionIdLayer (claimsLayer jwt keys
    (userConfigStoreLayer getConfig .invoked))) request with ⟨hnone, h⟩ | hr | ⟨id, hpath, h⟩
  · rw [h]
    exact fun hroute => hroute.extract_ne_none hnone
  · obtain ⟨response, h, hstatus⟩ := hr
    rw [h]
    exact hstatus
  obtain ⟨sessionId, hs⟩ := sessionIdLayer_eq (claimsLayer jwt keys
    (userConfigStoreLayer getConfig .invoked)) { request with
      extensions := { request.extensions with virtualHostId := some id } }
  rw [h, hs]
  rcases claimsLayer_cases jwt keys (userConfigStoreLayer getConfig .invoked) { request with
      extensions := { request.extensions with virtualHostId := some id, sessionId } } with
    ⟨response, h, hstatus⟩ | ⟨claims, hverified, hc⟩
  · rw [h]
    exact hstatus
  rw [hc]
  rcases userConfigStoreLayer_cases getConfig .invoked { request with
      extensions := { request.extensions with
        virtualHostId := some id, sessionId, claims := some claims } } with
    hunconfigured | ⟨claims', config, hclaims, hconfig, hu⟩
  · obtain ⟨response, h, hstatus⟩ := hunconfigured.refused
    rw [h]
    exact hstatus
  obtain rfl : claims = claims' := Option.some.inj hclaims
  rw [hu]
  exact ⟨claims, config, id,
    { verified := hverified
      config_of_sub := hconfig
      id_of_path := hpath
      seen_claims := rfl
      seen_config := rfl
      seen_id := rfl
      authorized_call := fun _ _ _ hv => get_of_validateWith rfl rfl hv
      initialize_call := fun _ _ _ hv => get_of_validateWith rfl rfl hv
      unchanged := ⟨rfl, rfl, rfl⟩ }⟩

end ContextForge
