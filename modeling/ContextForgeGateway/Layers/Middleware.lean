import ContextForgeGateway.Lib.Text
import ContextForgeGateway.UserStore

/-!
# The middleware layers

Every HTTP request to the gateway passes four layers before the MCP service is invoked. A layer
answers the request itself or hands it on with one more extension. Extensions are typed slots, one
for each type that a layer inserts; a handler reads the slot of the type it wants.

The layers are functions of what comes `next`, as they are in the source. `Outcome` is what becomes
of a request; the path is the one that the layers see, from which `/contextforge-rs` has been
stripped.
-/

namespace ContextForge

/-- `VirtualHostId`. -/
structure VirtualHostId where
  value : String
  deriving DecidableEq

/-- `SessionId`. -/
structure SessionId where
  value : String
  deriving DecidableEq

/-- `ContextForgeClaims`, as far as the gateway reads them. -/
structure ContextForgeClaims where
  sub : String
  deriving DecidableEq

/-- The extensions of a request. -/
structure Extensions where
  virtualHostId : Option VirtualHostId
  sessionId : Option SessionId
  claims : Option ContextForgeClaims
  userConfig : Option UserConfig
  deriving DecidableEq

/-- `http::Request`. Header names are in lower case. -/
structure HttpRequest (Body : Type) where
  path : String
  headers : List (String × Bytes)
  body : Body
  extensions : Extensions

/-- `Response`, as a layer builds it. -/
structure HttpResponse where
  status : ℕ
  contentType : String
  body : String
  deriving DecidableEq

/-- What becomes of a request: the handler panics, a layer answers, or the service is invoked. -/
inductive Outcome (Body : Type)
  | panicked
  | response (r : HttpResponse)
  | invoked (request : HttpRequest Body)

variable {Body : Type}

/-- `headers.get(name)`: the first value of a header. -/
def HttpRequest.header (request : HttpRequest Body) (name : String) : Option Bytes :=
  (request.headers.find? fun h => h.1 = name).map Prod.snd

/-- A text answer. -/
def textResponse (status : ℕ) (body : String) : HttpResponse := ⟨status, "text/plain", body⟩

/-! ### virtual_host_id_layer -/

/-- `extract_virtual_host_id`; the outer `none` is a panic. -/
def extractVirtualHostId (path : String) : Option (Option VirtualHostId) :=
  if Text.startsWith path "/servers/" then
    if Text.endsWith path "/mcp" then
      let l1 := Text.len "/servers/"
      let l2 := Text.len path - Text.len "/mcp"
      (Text.slice path l1 l2).map fun vh => some ⟨vh⟩
    else some none
  else some none

/-- `virtual_host_id_layer`. -/
def virtualHostIdLayer (next : HttpRequest Body → Outcome Body) (request : HttpRequest Body) :
    Outcome Body :=
  match extractVirtualHostId request.path with
  | none => .panicked
  | some (some virtualHostId) =>
    next { request with
      extensions := { request.extensions with virtualHostId := some virtualHostId } }
  | some none => .response (textResponse 400 "Problem occured retrieving the configuration")

/-! ### SessionIdLayer -/

/-- `MCP_SESSION_ID`. -/
def mcpSessionId : String := "mcp-session-id"

/-- `HeaderValue::to_str`: visible ASCII only. -/
def headerToStr (value : Bytes) : Option String :=
  if value.all fun b => b == 9 || (32 ≤ b && b < 127) then
    some (String.ofList (value.map fun b => Char.ofNat b.toNat))
  else none

/-- `SessionIdService::call`. -/
def sessionIdLayer (next : HttpRequest Body → Outcome Body) (request : HttpRequest Body) :
    Outcome Body :=
  match (request.header mcpSessionId).bind headerToStr with
  | some sessionId =>
    next { request with extensions := { request.extensions with sessionId := some ⟨sessionId⟩ } }
  | none => next request

/-! ### claims_layer -/

/-- `jsonwebtoken::Algorithm`. -/
inductive Algorithm
  | hs256 | hs384 | hs512
  | es256 | es384
  | rs256 | rs384 | rs512
  | ps256 | ps384 | ps512
  | edDSA
  deriving DecidableEq

/-- One of the RS* algorithms. -/
def Algorithm.isRs : Algorithm → Bool
  | rs256 | rs384 | rs512 => true
  | _ => false

/-- One of the HS* algorithms. -/
def Algorithm.isHs : Algorithm → Bool
  | hs256 | hs384 | hs512 => true
  | _ => false

/-- `jsonwebtoken::Validation`, in the fields that the gateway sets. -/
structure Validation where
  algorithms : List Algorithm
  aud : Option (List String)
  iss : Option (List String)
  validateExp : Bool
  deriving DecidableEq

/-- `CONTEXT_FORGE_GATEWAY_AUDIENCE`. -/
def contextForgeGatewayAudience : String := "mcpgateway-api"

/-- `CONTEXT_FORGE_GATEWAY_ISSUER`. -/
def contextForgeGatewayIssuer : String := "mcpgateway"

/-- `Validation::new`, and what `claims_layer` sets after it. -/
def gatewayValidation (alg : Algorithm) : Validation where
  algorithms := [alg]
  aud := some [contextForgeGatewayAudience]
  iss := some [contextForgeGatewayIssuer]
  validateExp := true

/-- A decoding key, from an RSA public key or from a shared secret. -/
inductive DecodingKey (RsKey HmacKey : Type)
  | rs (key : RsKey)
  | hmac (key : HmacKey)

/-- `JwtTokenDecoders`. -/
structure JwtTokenDecoders (RsKey HmacKey : Type) where
  rs : Option RsKey
  hmacSha : Option HmacKey

/-- `jsonwebtoken`: the algorithm that the header of a token names, and `decode`. -/
structure Jwt (RsKey HmacKey : Type) where
  decodeHeader : String → Option Algorithm
  decode : String → DecodingKey RsKey HmacKey → Validation → Option ContextForgeClaims

variable {RsKey HmacKey : Type}

/-- `b"Bearer "`. -/
def bearer : Bytes := [66, 101, 97, 114, 101, 114, 32]

/-- `strip_prefix(b"Bearer ")`. -/
def stripBearer (value : Bytes) : Option Bytes :=
  if bearer.isPrefixOf value then some (value.drop bearer.length) else none

/-- `str::from_utf8`. -/
def strFromUtf8 (bytes : Bytes) : Option String := String.fromUTF8? ⟨bytes.toArray⟩

/-- `unauthorized_response`. -/
def unauthorizedResponse : HttpResponse := textResponse 401 ""

/-- The `match header.alg` of `claims_layer`. -/
def decodeClaims (jwt : Jwt RsKey HmacKey) (keys : JwtTokenDecoders RsKey HmacKey)
    (alg : Algorithm) (rawToken : String) : Option ContextForgeClaims :=
  match alg with
  | .rs256 | .rs384 | .rs512 =>
    match keys.rs with
    | none => none
    | some key => jwt.decode rawToken (.rs key) (gatewayValidation alg)
  | .hs256 | .hs384 | .hs512 =>
    match keys.hmacSha with
    | none => none
    | some key => jwt.decode rawToken (.hmac key) (gatewayValidation alg)
  | _ => none

/-- `claims_layer`. -/
def claimsLayer (jwt : Jwt RsKey HmacKey) (keys : JwtTokenDecoders RsKey HmacKey)
    (next : HttpRequest Body → Outcome Body) (request : HttpRequest Body) : Outcome Body :=
  match request.header "authorization" with
  | none => .response unauthorizedResponse
  | some authorization =>
    match stripBearer authorization with
    | none => .response unauthorizedResponse
    | some token =>
      match strFromUtf8 token with
      | none => .response unauthorizedResponse
      | some rawToken =>
        match jwt.decodeHeader rawToken with
        | none => .response unauthorizedResponse
        | some alg =>
          match decodeClaims jwt keys alg rawToken with
          | none => .response unauthorizedResponse
          | some claims =>
            next { request with extensions := { request.extensions with claims := some claims } }

/-! ### user_config_store_layer -/

/-- `user_config_store_layer`; `getConfig` is what the configuration store answers. -/
def userConfigStoreLayer (getConfig : User → Except ConfigStoreError UserConfig)
    (next : HttpRequest Body → Outcome Body) (request : HttpRequest Body) : Outcome Body :=
  match request.extensions.claims with
  | some claims =>
    match getConfig (User.new claims.sub) with
    | .ok userConfig =>
      next { request with
        extensions := { request.extensions with userConfig := some userConfig } }
    | .error .noDataForKey =>
      .response (textResponse 400 "Problem occured retrieving the configuration")
    | .error _ => .response (textResponse 500 "Problem occured retrieving the configuration")
  | none => .response (textResponse 400 "No claims in the token")

/-! ### The stack -/

/-- The layers in the order of `run_gateway`, with the MCP service inside. -/
def mcpRoute (jwt : Jwt RsKey HmacKey) (keys : JwtTokenDecoders RsKey HmacKey)
    (getConfig : User → Except ConfigStoreError UserConfig) :
    HttpRequest Body → Outcome Body :=
  virtualHostIdLayer (sessionIdLayer (claimsLayer jwt keys
    (userConfigStoreLayer getConfig .invoked)))

end ContextForge
