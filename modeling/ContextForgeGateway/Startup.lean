import ContextForgeGateway.ConfigStore.RedisKeys
import ContextForgeGateway.Gateway.Application

/-!
# From the configuration to a gateway that listens

`run_gateway` reads keys, certificates and trust bundles from files, opens its connection to Redis, builds
the client for its backends, and only then listens. The file system and the libraries that read keys and
certificates are a `StartupEnv`; everything that can fail returns an `Except`, with the first error.

`runGateway_eq_ok` says exactly when a gateway starts and with what: nothing falls back from a mode of
connection that was asked for to a weaker one. `started_served` and `started_forwarded_https` are about
what such a gateway then does: it serves a request only for a token signed with a key that was configured,
and unless a plain mode was asked for, it forwards a request to backends under https only.
-/

namespace ContextForge

/-! ### common.rs -/

/-- `std::net::SocketAddr`. -/
structure SocketAddr where
  ip : String
  port : ℕ
  deriving DecidableEq

/-- `enum UpstreamConnectionMode`. -/
inductive UpstreamConnectionMode
  | plainTextOrTls
  | plainTextOrMTls
  | tlsOnly
  | mtlsOnly
  deriving DecidableEq

/-- `enum RedisConnectionMode`. -/
inductive RedisConnectionMode
  | plainText
  | tls
  | mtls
  deriving DecidableEq

/-- The `Debug` text of the mode. -/
def RedisConnectionMode.debug : RedisConnectionMode → String
  | plainText => "PlainText"
  | tls => "Tls"
  | mtls => "Mtls"

/-- `struct Config`, without what only the runtime and the logging read. Files are named by their path. -/
structure Config where
  address : Option SocketAddr
  tokenVerificationPublicKey : Option String
  tokenVerificationSecret : Option String
  tlsAddress : Option SocketAddr
  serverPrivateKey : Option String
  serverCertificate : Option String
  upstreamConnectionMode : Option UpstreamConnectionMode
  upstreamPrivateKey : Option String
  upstreamCertificate : Option String
  upstreamTrustBundle : Option String
  redisAddress : String
  redisPort : ℕ
  redisMode : RedisConnectionMode
  redisTlsTrustBundle : Option String
  redisTlsClientPrivateKey : Option String
  redisTlsClientCertificate : Option String

/-- The errors with which a start can end; those of the libraries with their text. -/
inductive StartupError
  | redisConfigurationError (text : String)
  | redisError (text : String)
  | configStoreError (e : ConfigStoreError)
  | io (text : String)
  | library (text : String)
  | text (s : String)
  deriving DecidableEq

/-- `enum RedisConfig`. -/
inductive RedisConfig
  | plainText (host : String) (port : ℕ)
  | tls (host : String) (port : ℕ) (trustBundle : Bytes)
  | mTls (host : String) (port : ℕ) (trustBundle clientCert clientKey : Bytes)

/-- `redis::Client`, as it is built: where it connects to, whether under TLS, the roots that it trusts,
and the certificate and key that it presents. -/
structure RedisClient where
  host : String
  port : ℕ
  tls : Bool
  rootCert : Option Bytes
  clientTls : Option (Bytes × Bytes)
  deriving DecidableEq

/-- `reqwest::Client`, as it is built. -/
structure HttpClient (Identity Cert : Type) where
  httpsOnly : Bool
  identity : Option Identity
  certificates : List Cert

/-- What the gateway asks of the system and of the libraries. -/
structure StartupEnv (Cert Key RsKey HmacKey Identity ServerConfig : Type) where
  /-- The bytes of a file. -/
  readFile : String → Except String Bytes
  parseAuthority : String → Except String Unit
  /-- The certificates in PEM text, one after the other. -/
  pemCerts : Bytes → List (Except String Cert)
  pkcs8Key : Bytes → Bool
  privateKey : Bytes → Except String Key
  /-- `with_single_cert`. -/
  serverConfig : List Cert → Key → Except String ServerConfig
  certificateBundle : Bytes → Except String (List Cert)
  identity : Bytes → Except String Identity
  buildClient : HttpClient Identity Cert → Except String Unit
  rsaKey : Bytes → Option RsKey
  hmacKey : Bytes → HmacKey
  openRedis : RedisClient → Except String Unit
  connectRedis : RedisClient → Bool

section

variable {Cert Key RsKey HmacKey Identity ServerConfig : Type}
  (env : StartupEnv Cert Key RsKey HmacKey Identity ServerConfig)

/-- `validate_certs`. -/
def validateCerts (path : String) : Except StartupError Bytes := do
  let buf ← (env.readFile path).mapError .redisConfigurationError
  let certs ← ((env.pemCerts buf).mapM id).mapError .redisConfigurationError
  if certs.isEmpty then .error (.redisConfigurationError "No certificates provided") else .ok buf

/-- `validate_key`. -/
def validateKey (path : String) : Except StartupError Bytes := do
  let buf ← (env.readFile path).mapError .redisConfigurationError
  if env.pkcs8Key buf then .ok buf else .error (.redisConfigurationError "Private key is invalid")

/-- The value of a setting that the mode of the Redis connection requires. -/
def requiredForRedis (what : String) (mode : RedisConnectionMode) :
    Option String → Except StartupError String
  | some path => .ok path
  | none => .error (.redisConfigurationError (what ++ " is required for Redis " ++ mode.debug))

/-- The certificates of such a setting. -/
def requiredCerts (what : String) (mode : RedisConnectionMode) (setting : Option String) :
    Except StartupError Bytes :=
  requiredForRedis what mode setting >>= validateCerts env

/-- The key of such a setting. -/
def requiredKey (what : String) (mode : RedisConnectionMode) (setting : Option String) :
    Except StartupError Bytes :=
  requiredForRedis what mode setting >>= validateKey env

/-- `RedisConfig::try_from(&Config)`, once the address is known to be one. -/
def RedisConfig.ofMode (config : Config) : RedisConnectionMode → Except StartupError RedisConfig
  | .plainText => .ok (.plainText config.redisAddress config.redisPort)
  | .tls => do
    let trustBundle ← requiredCerts env "Trust bundle" .tls config.redisTlsTrustBundle
    return .tls config.redisAddress config.redisPort trustBundle
  | .mtls => do
    let trustBundle ← requiredCerts env "Trust bundle" .mtls config.redisTlsTrustBundle
    let clientCert ← requiredCerts env "Client certificate" .mtls config.redisTlsClientCertificate
    let clientKey ← requiredKey env "Client key" .mtls config.redisTlsClientPrivateKey
    return .mTls config.redisAddress config.redisPort trustBundle clientCert clientKey

/-- `RedisConfig::try_from(&Config)`. -/
def RedisConfig.tryFrom (config : Config) : Except StartupError RedisConfig := do
  (env.parseAuthority (config.redisAddress ++ ":" ++ toString config.redisPort)).mapError
    .redisConfigurationError
  RedisConfig.ofMode env config config.redisMode

/-- The client that `RedisClient::try_from(RedisConfig)` opens. -/
def RedisConfig.client : RedisConfig → RedisClient
  | plainText host port => ⟨host, port, false, none, none⟩
  | tls host port trustBundle => ⟨host, port, true, some trustBundle, none⟩
  | mTls host port trustBundle clientCert clientKey =>
    ⟨host, port, true, some trustBundle, some (clientCert, clientKey)⟩

/-- `RedisClient::try_from(RedisConfig)`. -/
def RedisClient.tryFrom (redisConfig : RedisConfig) : Except StartupError RedisClient := do
  (env.openRedis redisConfig.client).mapError .redisError
  return redisConfig.client

/-- `extract_identity`. -/
def extractIdentity (config : Config) : Except StartupError Identity :=
  match config.upstreamPrivateKey, config.upstreamCertificate with
  | some privateKey, some certificate => do
    let cert ← (env.readFile certificate).mapError .io
    let key ← (env.readFile privateKey).mapError .io
    (env.identity (cert ++ key)).mapError .library
  | _, _ => .error (.text "Invalid/missing configuration")

/-- The trust bundle for backends. -/
def upstreamCertificates (config : Config) : Except StartupError (List Cert) :=
  match config.upstreamTrustBundle with
  | none => .ok []
  | some trustBundle => do
    let buf ← (env.readFile trustBundle).mapError .io
    (env.certificateBundle buf).mapError .library

/-- The settings that the mode of the upstream connections decides on. -/
def upstreamBuilder (config : Config) : Except StartupError (HttpClient Identity Cert) :=
  match config.upstreamConnectionMode with
  | none | some .tlsOnly => .ok ⟨true, none, []⟩
  | some .plainTextOrTls => .ok ⟨false, none, []⟩
  | some .plainTextOrMTls => do return ⟨false, some (← extractIdentity env config), []⟩
  | some .mtlsOnly => do return ⟨true, some (← extractIdentity env config), []⟩

/-- `reqwest::Client::try_from(&Config)`. -/
def HttpClient.tryFrom (config : Config) : Except StartupError (HttpClient Identity Cert) := do
  let builder ← upstreamBuilder env config
  let certificates ← upstreamCertificates env config
  (env.buildClient { builder with certificates }).mapError .library
  return { builder with certificates }

/-! ### transports -/

/-- `Option::<DownstreamTls>::try_from(&Config)`. -/
def DownstreamTls.tryFrom (config : Config) :
    Except StartupError (Option (SocketAddr × ServerConfig)) :=
  match config.tlsAddress, config.serverCertificate, config.serverPrivateKey with
  | some address, some certificate, some privateKey => do
    let certs ← (env.readFile certificate).mapError .library
    -- what is not a certificate is passed over
    let certificates := (env.pemCerts certs).filterMap Except.toOption
    let key ← (env.readFile privateKey).mapError .library
    let privateKey ← (env.privateKey key).mapError .library
    let serverConfig ← (env.serverConfig certificates privateKey).mapError .library
    if config.address = some address then
      .error (.text "Invalid configuration TCP and TLS ports are the same ")
    else .ok (some (address, serverConfig))
  | none, _, _ => .ok none
  | some _, _, _ => .error (.text "Invalid tls config... configuration missing ")

/-! ### lib.rs -/

/-- A gateway that listens: its connection to Redis, the client for its backends, the keys for tokens, and
its addresses, that for TLS with what is presented there. -/
structure Gateway (Cert RsKey HmacKey Identity ServerConfig : Type) where
  redis : RedisClient
  client : HttpClient Identity Cert
  decoders : JwtTokenDecoders RsKey HmacKey
  tcp : Option SocketAddr
  tls : Option (SocketAddr × ServerConfig)

/-- `get_config_store`, up to the connection of the store. -/
def getConfigStore (config : Config) : Except StartupError RedisClient := do
  let redisConfig ← RedisConfig.tryFrom env config
  let client ← RedisClient.tryFrom env redisConfig
  if env.connectRedis client then .ok client else .error (.configStoreError .invalidConnection)

/-- The RSA key for tokens. -/
def rsDecodingKey (config : Config) : Except StartupError (Option RsKey) :=
  match config.tokenVerificationPublicKey with
  | none => .ok none
  | some path => do
    let buf ← (env.readFile path).mapError fun _ =>
      .text ("Error when creating local decoder. Can't read path " ++ path)
    match env.rsaKey buf with
    | none => .error (.text ("Error when creating local decoder. Can't read the key " ++ path))
    | some key => .ok (some key)

/-- `run_gateway`, until it listens. -/
def runGateway (config : Config) :
    Except StartupError (Gateway Cert RsKey HmacKey Identity ServerConfig) := do
  let redis ← getConfigStore env config
  let client ← HttpClient.tryFrom env config
  let rs ← rsDecodingKey env config
  let hmacSha := config.tokenVerificationSecret.map fun token => env.hmacKey (utf8 token)
  let tls ← DownstreamTls.tryFrom env config
  return { redis, client, decoders := ⟨rs, hmacSha⟩, tcp := config.address, tls }

/-- `plugin_runtime_from_config`: the client of the store of the plugin configuration. -/
def pluginRuntimeFromConfig (config : Config) : Except StartupError RedisClient := do
  let redisConfig ← RedisConfig.tryFrom env config
  RedisClient.tryFrom env redisConfig

end

/-! ### What a gateway starts with -/

section

variable {Cert Key RsKey HmacKey Identity ServerConfig : Type}
  {env : StartupEnv Cert Key RsKey HmacKey Identity ServerConfig} {config : Config}

theorem bind_eq_ok {ε α β : Type} {x : Except ε α} {f : α → Except ε β} {b : β} :
    (x >>= f) = .ok b ↔ ∃ a, x = .ok a ∧ f a = .ok b := by
  cases x with
  | error e => exact ⟨nofun, nofun⟩
  | ok a => exact ⟨fun h => ⟨a, rfl, h⟩, fun ⟨_, ha, h⟩ => Except.ok.inj ha ▸ h⟩

theorem mapError_eq_ok {ε ε' α : Type} {f : ε → ε'} {x : Except ε α} {a : α} :
    x.mapError f = .ok a ↔ x = .ok a := by
  cases x <;> simp [Except.mapError]

/-- The file has one or more certificates, and nothing that is not one. -/
def CertsAt (env : StartupEnv Cert Key RsKey HmacKey Identity ServerConfig) (path : String)
    (buf : Bytes) : Prop :=
  env.readFile path = .ok buf ∧ ∃ certs, (env.pemCerts buf).mapM id = .ok certs ∧ certs ≠ []

/-- The file has a private key. -/
def KeyAt (env : StartupEnv Cert Key RsKey HmacKey Identity ServerConfig) (path : String)
    (buf : Bytes) : Prop :=
  env.readFile path = .ok buf ∧ env.pkcs8Key buf = true

theorem validateCerts_eq_ok {path : String} {buf : Bytes} :
    validateCerts env path = .ok buf ↔ CertsAt env path buf := by
  simp only [validateCerts, CertsAt, bind_eq_ok, mapError_eq_ok]
  constructor
  · rintro ⟨b, hread, certs, hcerts, h⟩
    split at h
    next => cases h
    next hne =>
      cases h
      exact ⟨hread, certs, hcerts, fun hnil => hne (by rw [hnil]; rfl)⟩
  · rintro ⟨hread, certs, hcerts, hne⟩
    refine ⟨buf, hread, certs, hcerts, if_neg ?_⟩
    rwa [List.isEmpty_iff]

theorem validateKey_eq_ok {path : String} {buf : Bytes} :
    validateKey env path = .ok buf ↔ KeyAt env path buf := by
  simp only [validateKey, KeyAt, bind_eq_ok, mapError_eq_ok]
  constructor
  · rintro ⟨b, hread, h⟩
    split at h
    next hkey =>
      cases h
      exact ⟨hread, hkey⟩
    next => cases h
  · rintro ⟨hread, hkey⟩
    exact ⟨buf, hread, if_pos hkey⟩

theorem requiredForRedis_eq_ok {what path : String} {mode : RedisConnectionMode}
    {setting : Option String} : requiredForRedis what mode setting = .ok path ↔ setting = some path := by
  cases setting <;> simp [requiredForRedis]

theorem requiredCerts_eq_ok {what : String} {mode : RedisConnectionMode} {setting : Option String}
    {buf : Bytes} : requiredCerts env what mode setting = .ok buf ↔
      ∃ path, setting = some path ∧ CertsAt env path buf := by
  simp only [requiredCerts, bind_eq_ok, requiredForRedis_eq_ok, validateCerts_eq_ok]

theorem requiredKey_eq_ok {what : String} {mode : RedisConnectionMode} {setting : Option String}
    {buf : Bytes} : requiredKey env what mode setting = .ok buf ↔
      ∃ path, setting = some path ∧ KeyAt env path buf := by
  simp only [requiredKey, bind_eq_ok, requiredForRedis_eq_ok, validateKey_eq_ok]

/-- The trust bundle of the connection to Redis is the one of the setting. -/
def TrustsBundle (env : StartupEnv Cert Key RsKey HmacKey Identity ServerConfig) (config : Config)
    (client : RedisClient) : Prop :=
  ∃ bundle, (∃ path, config.redisTlsTrustBundle = some path ∧ CertsAt env path bundle) ∧
    client.rootCert = some bundle

/-- The certificate and the key that are presented to Redis are those of the settings. -/
def PresentsClient (env : StartupEnv Cert Key RsKey HmacKey Identity ServerConfig) (config : Config)
    (client : RedisClient) : Prop :=
  ∃ cert key, (∃ path, config.redisTlsClientCertificate = some path ∧ CertsAt env path cert) ∧
    (∃ path, config.redisTlsClientPrivateKey = some path ∧ KeyAt env path key) ∧
    client.clientTls = some (cert, key)

/-- The client connects in the mode. -/
def ConnectsIn (env : StartupEnv Cert Key RsKey HmacKey Identity ServerConfig) (config : Config)
    (client : RedisClient) : RedisConnectionMode → Prop
  | .plainText => client.tls = false ∧ client.rootCert = none ∧ client.clientTls = none
  | .tls => client.tls = true ∧ TrustsBundle env config client ∧ client.clientTls = none
  | .mtls => client.tls = true ∧ TrustsBundle env config client ∧ PresentsClient env config client

theorem ofMode_eq_ok {client : RedisClient} {mode : RedisConnectionMode} :
    (∃ redisConfig, RedisConfig.ofMode env config mode = .ok redisConfig ∧
        redisConfig.client = client) ↔
      client.host = config.redisAddress ∧ client.port = config.redisPort ∧
        ConnectsIn env config client mode := by
  obtain ⟨host, port, tls, rootCert, clientTls⟩ := client
  constructor
  · rintro ⟨redisConfig, h, hclient⟩
    cases mode with
    | plainText =>
      cases h
      cases hclient
      exact ⟨rfl, rfl, rfl, rfl, rfl⟩
    | tls =>
      obtain ⟨bundle, hbundle, h⟩ := bind_eq_ok.1 h
      cases h
      cases hclient
      exact ⟨rfl, rfl, rfl, ⟨bundle, requiredCerts_eq_ok.1 hbundle, rfl⟩, rfl⟩
    | mtls =>
      obtain ⟨bundle, hbundle, h⟩ := bind_eq_ok.1 h
      obtain ⟨cert, hcert, h⟩ := bind_eq_ok.1 h
      obtain ⟨key, hkey, h⟩ := bind_eq_ok.1 h
      cases h
      cases hclient
      exact ⟨rfl, rfl, rfl, ⟨bundle, requiredCerts_eq_ok.1 hbundle, rfl⟩, cert, key,
        requiredCerts_eq_ok.1 hcert, requiredKey_eq_ok.1 hkey, rfl⟩
  · rintro ⟨rfl, rfl, h⟩
    cases mode with
    | plainText =>
      obtain ⟨rfl, rfl, rfl⟩ := h
      exact ⟨_, rfl, rfl⟩
    | tls =>
      obtain ⟨rfl, ⟨bundle, hbundle, rfl⟩, rfl⟩ := h
      exact ⟨.tls _ _ bundle, bind_eq_ok.2 ⟨bundle, requiredCerts_eq_ok.2 hbundle, rfl⟩, rfl⟩
    | mtls =>
      obtain ⟨rfl, ⟨bundle, hbundle, rfl⟩, cert, key, hcert, hkey, rfl⟩ := h
      refine ⟨.mTls _ _ bundle cert key, ?_, rfl⟩
      exact bind_eq_ok.2 ⟨bundle, requiredCerts_eq_ok.2 hbundle, bind_eq_ok.2
        ⟨cert, requiredCerts_eq_ok.2 hcert, bind_eq_ok.2 ⟨key, requiredKey_eq_ok.2 hkey, rfl⟩⟩⟩

/-- The connection to Redis goes to the address of the settings, in the mode that was asked for. -/
structure RedisFor (env : StartupEnv Cert Key RsKey HmacKey Identity ServerConfig) (config : Config)
    (client : RedisClient) : Prop where
  authority : env.parseAuthority (config.redisAddress ++ ":" ++ toString config.redisPort) = .ok ()
  host : client.host = config.redisAddress
  port : client.port = config.redisPort
  mode : ConnectsIn env config client config.redisMode
  opens : env.openRedis client = .ok ()

/-- The store of the plugin configuration connects to Redis as the config store does. -/
theorem pluginRuntimeFromConfig_eq_ok {client : RedisClient} :
    pluginRuntimeFromConfig env config = .ok client ↔ RedisFor env config client := by
  unfold pluginRuntimeFromConfig RedisConfig.tryFrom RedisClient.tryFrom
  constructor
  · intro h
    obtain ⟨redisConfig, h, hopen⟩ := bind_eq_ok.1 h
    obtain ⟨⟨⟩, hauthority, hmode⟩ := bind_eq_ok.1 h
    obtain ⟨⟨⟩, hopens, hclient⟩ := bind_eq_ok.1 hopen
    have hclient : redisConfig.client = client := Except.ok.inj hclient
    obtain ⟨hhost, hport, hconnects⟩ := ofMode_eq_ok.1 ⟨redisConfig, hmode, hclient⟩
    exact ⟨mapError_eq_ok.1 hauthority, hhost, hport, hconnects, hclient ▸ mapError_eq_ok.1 hopens⟩
  · rintro ⟨hauthority, hhost, hport, hconnects, hopens⟩
    obtain ⟨redisConfig, hmode, rfl⟩ := ofMode_eq_ok.2 ⟨hhost, hport, hconnects⟩
    exact bind_eq_ok.2 ⟨redisConfig, bind_eq_ok.2 ⟨(), mapError_eq_ok.2 hauthority, hmode⟩,
      bind_eq_ok.2 ⟨(), mapError_eq_ok.2 hopens, rfl⟩⟩

theorem getConfigStore_eq_ok {client : RedisClient} :
    getConfigStore env config = .ok client ↔
      RedisFor env config client ∧ env.connectRedis client = true := by
  have hsplit : getConfigStore env config = pluginRuntimeFromConfig env config >>= fun client =>
      if env.connectRedis client then .ok client else .error (.configStoreError .invalidConnection) := by
    unfold getConfigStore pluginRuntimeFromConfig
    rw [bind_assoc]
  rw [hsplit, bind_eq_ok]
  constructor
  · rintro ⟨c, hc, h⟩
    split at h
    next hconnect =>
      cases h
      exact ⟨pluginRuntimeFromConfig_eq_ok.1 hc, hconnect⟩
    next => cases h
  · rintro ⟨hredis, hconnect⟩
    exact ⟨client, pluginRuntimeFromConfig_eq_ok.2 hredis, if_pos hconnect⟩

/-- The mode keeps the client to https. -/
def keepsToHttps (mode : Option UpstreamConnectionMode) : Bool :=
  mode ≠ some .plainTextOrTls && mode ≠ some .plainTextOrMTls

/-- The mode has the client present a certificate. -/
def presentsIdentity (mode : Option UpstreamConnectionMode) : Bool :=
  mode = some .plainTextOrMTls || mode = some .mtlsOnly

/-- The identity is made of the certificate and the key of the settings. -/
def IdentityAt (env : StartupEnv Cert Key RsKey HmacKey Identity ServerConfig) (config : Config)
    (identity : Identity) : Prop :=
  ∃ keyPath key certPath cert, config.upstreamPrivateKey = some keyPath ∧
    config.upstreamCertificate = some certPath ∧ env.readFile certPath = .ok cert ∧
    env.readFile keyPath = .ok key ∧ env.identity (cert ++ key) = .ok identity

theorem extractIdentity_eq_ok {identity : Identity} :
    extractIdentity env config = .ok identity ↔ IdentityAt env config identity := by
  unfold extractIdentity IdentityAt
  constructor
  · intro h
    split at h
    next keyPath certPath hkeyPath hcertPath =>
      obtain ⟨cert, hcert, h⟩ := bind_eq_ok.1 h
      obtain ⟨key, hkey, h⟩ := bind_eq_ok.1 h
      exact ⟨keyPath, key, certPath, cert, hkeyPath, hcertPath, mapError_eq_ok.1 hcert,
        mapError_eq_ok.1 hkey, mapError_eq_ok.1 h⟩
    next => cases h
  · rintro ⟨keyPath, key, certPath, cert, hkeyPath, hcertPath, hcert, hkey, hidentity⟩
    simp only [hkeyPath, hcertPath]
    exact bind_eq_ok.2 ⟨cert, mapError_eq_ok.2 hcert, bind_eq_ok.2 ⟨key, mapError_eq_ok.2 hkey,
      mapError_eq_ok.2 hidentity⟩⟩

/-- What the client for backends presents. -/
def PresentsIn (env : StartupEnv Cert Key RsKey HmacKey Identity ServerConfig) (config : Config)
    (identity : Option Identity) : Prop :=
  if presentsIdentity config.upstreamConnectionMode then
    ∃ i, IdentityAt env config i ∧ identity = some i
  else identity = none

theorem upstreamBuilder_eq_ok {builder : HttpClient Identity Cert} :
    upstreamBuilder env config = .ok builder ↔
      builder.httpsOnly = keepsToHttps config.upstreamConnectionMode ∧
        PresentsIn env config builder.identity ∧ builder.certificates = [] := by
  obtain ⟨httpsOnly, identity, certificates⟩ := builder
  have hwith : ∀ https : Bool,
      (do return (⟨https, some (← extractIdentity env config), []⟩ : HttpClient Identity Cert)) =
          Except.ok (⟨httpsOnly, identity, certificates⟩ : HttpClient Identity Cert) ↔
        httpsOnly = https ∧ (∃ i, IdentityAt env config i ∧ identity = some i) ∧ certificates = [] := by
    intro https
    rw [bind_eq_ok]
    constructor
    · rintro ⟨i, hi, h⟩
      cases h
      exact ⟨rfl, ⟨i, extractIdentity_eq_ok.1 hi, rfl⟩, rfl⟩
    · rintro ⟨rfl, ⟨i, hi, rfl⟩, rfl⟩
      exact ⟨i, extractIdentity_eq_ok.2 hi, rfl⟩
  unfold upstreamBuilder PresentsIn
  cases config.upstreamConnectionMode with
  | none => simp [keepsToHttps, presentsIdentity, eq_comm]
  | some mode =>
    cases mode with
    | plainTextOrTls | tlsOnly => simp [keepsToHttps, presentsIdentity, eq_comm]
    | plainTextOrMTls => exact hwith false
    | mtlsOnly => exact hwith true

/-- What the client for backends trusts besides the roots of the system. -/
def TrustsIn (env : StartupEnv Cert Key RsKey HmacKey Identity ServerConfig) (config : Config)
    (certificates : List Cert) : Prop :=
  match config.upstreamTrustBundle with
  | none => certificates = []
  | some path => ∃ buf, env.readFile path = .ok buf ∧ env.certificateBundle buf = .ok certificates

theorem upstreamCertificates_eq_ok {certificates : List Cert} :
    upstreamCertificates env config = .ok certificates ↔ TrustsIn env config certificates := by
  unfold upstreamCertificates TrustsIn
  cases config.upstreamTrustBundle with
  | none => simp [eq_comm]
  | some path => simp only [bind_eq_ok, mapError_eq_ok]

/-- The client for backends is of the mode that was asked for. -/
structure ClientFor (env : StartupEnv Cert Key RsKey HmacKey Identity ServerConfig) (config : Config)
    (client : HttpClient Identity Cert) : Prop where
  httpsOnly : client.httpsOnly = keepsToHttps config.upstreamConnectionMode
  identity : PresentsIn env config client.identity
  certificates : TrustsIn env config client.certificates
  builds : env.buildClient client = .ok ()

theorem httpClient_eq_ok {client : HttpClient Identity Cert} :
    HttpClient.tryFrom env config = .ok client ↔ ClientFor env config client := by
  unfold HttpClient.tryFrom
  constructor
  · intro h
    obtain ⟨builder, hbuilder, h⟩ := bind_eq_ok.1 h
    obtain ⟨certificates, hcertificates, h⟩ := bind_eq_ok.1 h
    obtain ⟨⟨⟩, hbuilds, h⟩ := bind_eq_ok.1 h
    obtain ⟨hhttps, hidentity, -⟩ := upstreamBuilder_eq_ok.1 hbuilder
    cases h
    exact ⟨hhttps, hidentity, upstreamCertificates_eq_ok.1 hcertificates, mapError_eq_ok.1 hbuilds⟩
  · rintro ⟨hhttps, hidentity, hcertificates, hbuilds⟩
    exact bind_eq_ok.2 ⟨{ client with certificates := [] },
      upstreamBuilder_eq_ok.2 ⟨hhttps, hidentity, rfl⟩, bind_eq_ok.2
        ⟨client.certificates, upstreamCertificates_eq_ok.2 hcertificates, bind_eq_ok.2
          ⟨(), mapError_eq_ok.2 hbuilds, rfl⟩⟩⟩

/-- What is presented at the address for TLS is made of the certificates and the key of the settings; of
the file, what is not a certificate is passed over. -/
def TlsFor (env : StartupEnv Cert Key RsKey HmacKey Identity ServerConfig) (config : Config) :
    Option (SocketAddr × ServerConfig) → Prop
  | none => config.tlsAddress = none
  | some (address, serverConfig) =>
    config.tlsAddress = some address ∧ config.address ≠ some address ∧
    ∃ certPath certs keyPath key privateKey, config.serverCertificate = some certPath ∧
      config.serverPrivateKey = some keyPath ∧ env.readFile certPath = .ok certs ∧
      env.readFile keyPath = .ok key ∧ env.privateKey key = .ok privateKey ∧
      env.serverConfig ((env.pemCerts certs).filterMap Except.toOption) privateKey = .ok serverConfig

theorem downstreamTls_eq_ok {tls : Option (SocketAddr × ServerConfig)} :
    DownstreamTls.tryFrom env config = .ok tls ↔ TlsFor env config tls := by
  unfold DownstreamTls.tryFrom
  constructor
  · intro h
    split at h
    next address certPath keyPath haddress hcertPath hkeyPath =>
      obtain ⟨certs, hcerts, h⟩ := bind_eq_ok.1 h
      obtain ⟨key, hkey, h⟩ := bind_eq_ok.1 h
      obtain ⟨privateKey, hprivateKey, h⟩ := bind_eq_ok.1 h
      obtain ⟨serverConfig, hserver, h⟩ := bind_eq_ok.1 h
      split at h
      next => cases h
      next hne =>
        cases h
        exact ⟨haddress, hne, certPath, certs, keyPath, key, privateKey, hcertPath, hkeyPath,
          mapError_eq_ok.1 hcerts, mapError_eq_ok.1 hkey, mapError_eq_ok.1 hprivateKey,
          mapError_eq_ok.1 hserver⟩
    next haddress =>
      cases h
      exact haddress
    next => cases h
  · intro h
    cases tls with
    | none =>
      have haddress : config.tlsAddress = none := h
      simp only [haddress]
    | some listener =>
      obtain ⟨haddress, hne, certPath, certs, keyPath, key, privateKey, hcertPath, hkeyPath, hcerts, hkey,
        hprivateKey, hserver⟩ := h
      simp only [haddress, hcertPath, hkeyPath]
      exact bind_eq_ok.2 ⟨certs, mapError_eq_ok.2 hcerts, bind_eq_ok.2 ⟨key, mapError_eq_ok.2 hkey,
        bind_eq_ok.2 ⟨privateKey, mapError_eq_ok.2 hprivateKey, bind_eq_ok.2
          ⟨listener.2, mapError_eq_ok.2 hserver, if_neg hne⟩⟩⟩⟩

/-- The RSA key for tokens is the one of the setting. -/
def RsKeyFor (env : StartupEnv Cert Key RsKey HmacKey Identity ServerConfig) (config : Config)
    (rs : Option RsKey) : Prop :=
  match config.tokenVerificationPublicKey with
  | none => rs = none
  | some path => ∃ buf key, env.readFile path = .ok buf ∧ env.rsaKey buf = some key ∧ rs = some key

theorem rsDecodingKey_eq_ok {rs : Option RsKey} :
    rsDecodingKey env config = .ok rs ↔ RsKeyFor env config rs := by
  unfold rsDecodingKey RsKeyFor
  cases config.tokenVerificationPublicKey with
  | none => simp [eq_comm]
  | some path =>
    simp only [bind_eq_ok, mapError_eq_ok]
    refine exists_congr fun buf => ?_
    cases env.rsaKey buf <;> simp [eq_comm]

/-- The gateway has what the configuration asks for. -/
structure Started (env : StartupEnv Cert Key RsKey HmacKey Identity ServerConfig) (config : Config)
    (gateway : Gateway Cert RsKey HmacKey Identity ServerConfig) : Prop where
  redis : RedisFor env config gateway.redis
  connected : env.connectRedis gateway.redis = true
  client : ClientFor env config gateway.client
  rs : RsKeyFor env config gateway.decoders.rs
  hmacSha : gateway.decoders.hmacSha =
    config.tokenVerificationSecret.map fun token => env.hmacKey (utf8 token)
  tcp : gateway.tcp = config.address
  tls : TlsFor env config gateway.tls

/-- What a gateway starts with is what its configuration asks for. -/
theorem started_of_runGateway {gateway : Gateway Cert RsKey HmacKey Identity ServerConfig}
    (h : runGateway env config = .ok gateway) : Started env config gateway := by
  obtain ⟨redis, hredis, h⟩ := bind_eq_ok.1 h
  obtain ⟨client, hclient, h⟩ := bind_eq_ok.1 h
  obtain ⟨rs, hrs, h⟩ := bind_eq_ok.1 h
  obtain ⟨tls, htls, h⟩ := bind_eq_ok.1 h
  cases h
  obtain ⟨hfor, hconnected⟩ := getConfigStore_eq_ok.1 hredis
  exact ⟨hfor, hconnected, httpClient_eq_ok.1 hclient, rsDecodingKey_eq_ok.1 hrs, rfl, rfl,
    downstreamTls_eq_ok.1 htls⟩

/-- A gateway starts if all that its configuration asks for is there. -/
theorem runGateway_of_started {gateway : Gateway Cert RsKey HmacKey Identity ServerConfig}
    (h : Started env config gateway) : runGateway env config = .ok gateway := by
  obtain ⟨hfor, hconnected, hclient, hrs, hhmac, htcp, htls⟩ := h
  obtain ⟨redis, client, ⟨rs, hmacSha⟩, tcp, tls⟩ := gateway
  cases hhmac
  cases htcp
  exact bind_eq_ok.2 ⟨redis, getConfigStore_eq_ok.2 ⟨hfor, hconnected⟩, bind_eq_ok.2
    ⟨client, httpClient_eq_ok.2 hclient, bind_eq_ok.2 ⟨rs, rsDecodingKey_eq_ok.2 hrs, bind_eq_ok.2
      ⟨tls, downstreamTls_eq_ok.2 htls, rfl⟩⟩⟩⟩

/-- **No fallback.** A gateway starts exactly if everything that its configuration asks for is there, and
with nothing else: connections of the modes that were asked for, made of the files of the settings. -/
theorem runGateway_eq_ok {gateway : Gateway Cert RsKey HmacKey Identity ServerConfig} :
    runGateway env config = .ok gateway ↔ Started env config gateway :=
  ⟨started_of_runGateway, runGateway_of_started⟩

/-! ### For whom a started gateway serves -/

/-- The request carries a token that was decoded with the key of a setting: the RSA key in the file of
`token_verification_public_key`, or the secret of `token_verification_secret`, whichever its algorithm is
of. -/
def VerifiedBySettings (env : StartupEnv Cert Key RsKey HmacKey Identity ServerConfig) (config : Config)
    {Body : Type} (jwt : Jwt RsKey HmacKey) (request : HttpRequest Body) (claims : ContextForgeClaims) :
    Prop :=
  ∃ token rawToken alg,
    request.header "authorization" = some (bearer ++ token) ∧
    strFromUtf8 token = some rawToken ∧
    jwt.decodeHeader rawToken = some alg ∧
    ((alg.isRs = true ∧ ∃ path buf key, config.tokenVerificationPublicKey = some path ∧
        env.readFile path = .ok buf ∧ env.rsaKey buf = some key ∧
        jwt.decode rawToken (.rs key) (gatewayValidation alg) = some claims) ∨
      (alg.isHs = true ∧ ∃ secret, config.tokenVerificationSecret = some secret ∧
        jwt.decode rawToken (.hmac (env.hmacKey (utf8 secret))) (gatewayValidation alg) = some claims))

variable {gateway : Gateway Cert RsKey HmacKey Identity ServerConfig}

theorem RsKeyFor.exists_path {rs : Option RsKey} (h : RsKeyFor env config rs) {key : RsKey}
    (hkey : rs = some key) : ∃ path buf, config.tokenVerificationPublicKey = some path ∧
      env.readFile path = .ok buf ∧ env.rsaKey buf = some key := by
  unfold RsKeyFor at h
  split at h
  next =>
    rw [h] at hkey
    cases hkey
  next path hpath =>
    obtain ⟨buf, key', hread, hrsa, rfl⟩ := h
    cases hkey
    exact ⟨path, buf, hpath, hread, hrsa⟩

/-- The keys of a started gateway are those of the settings. -/
theorem Started.verified (h : Started env config gateway) {Body : Type} {jwt : Jwt RsKey HmacKey}
    {request : HttpRequest Body} {claims : ContextForgeClaims}
    (hverified : Verified jwt gateway.decoders request claims) :
    VerifiedBySettings env config jwt request claims := by
  obtain ⟨token, rawToken, alg, hheader, hutf8, halg, hkey⟩ := hverified
  refine ⟨token, rawToken, alg, hheader, hutf8, halg, ?_⟩
  rcases hkey with ⟨hrs, key, hkey, hdecode⟩ | ⟨hhs, key, hkey, hdecode⟩
  · obtain ⟨path, buf, hpath, hread, hrsa⟩ := h.rs.exists_path hkey
    exact Or.inl ⟨hrs, path, buf, key, hpath, hread, hrsa, hdecode⟩
  · rw [h.hmacSha] at hkey
    obtain ⟨secret, hsecret, rfl⟩ := Option.map_eq_some_iff.1 hkey
    exact Or.inr ⟨hhs, secret, hsecret, hdecode⟩

/-- Without a key in the settings nothing is verified. -/
theorem not_verifiedBySettings (hrs : config.tokenVerificationPublicKey = none)
    (hhmac : config.tokenVerificationSecret = none) {Body : Type} {jwt : Jwt RsKey HmacKey}
    {request : HttpRequest Body} {claims : ContextForgeClaims} :
    ¬ VerifiedBySettings env config jwt request claims := by
  rintro ⟨_, _, _, -, -, -, ⟨-, path, _, _, hpath, -⟩ | ⟨-, secret, hsecret, -⟩⟩
  · rw [hrs] at hpath
    cases hpath
  · rw [hhmac] at hsecret
    cases hsecret

variable {Body Value Manager Ctx : Type} [DecidableEq Value] {codec : Codec UserConfig}
  {jwt : ℕ → Jwt RsKey HmacKey}

/-- **Who is served.** Whatever the interleaving, a started gateway serves a request only for a token that
was decoded with a key of its settings, and with a config that was given for the subject of that token;
with no key in the settings it serves none. -/
theorem started_served (hstarted : runGateway env config = .ok gateway) (redis : Bytes → Option Bytes)
    (toolCallId : UInt64) (es : List (Application.Event Body Value Manager Ctx)) :
    let σ := Runs.run (Application.next codec jwt gateway.decoders)
      (Application.State.new redis toolCallId) es
    (∀ s ∈ σ.served, ∃ claims userConfig,
      VerifiedBySettings env config (jwt s.time) s.arrived claims ∧
      Application.GivenFor codec redis es (User.new claims.sub) userConfig ∧
      s.invoked.extensions.claims = some claims ∧
      s.invoked.extensions.userConfig = some userConfig) ∧
    (config.tokenVerificationPublicKey = none → config.tokenVerificationSecret = none →
      σ.served = []) := by
  intro σ
  have hinv : Application.Inv codec jwt gateway.decoders redis es σ :=
    Application.inv_run toolCallId es
  have hserved : ∀ s ∈ σ.served, ∃ claims userConfig,
      VerifiedBySettings env config (jwt s.time) s.arrived claims ∧
      Application.GivenFor codec redis es (User.new claims.sub) userConfig ∧
      s.invoked.extensions.claims = some claims ∧
      s.invoked.extensions.userConfig = some userConfig := by
    intro s hs
    obtain ⟨claims, userConfig, id, hattributed⟩ := hinv.served s hs
    obtain ⟨sessionId, hinvoked⟩ := hattributed.seen
    exact ⟨claims, userConfig, (started_of_runGateway hstarted).verified hattributed.verified,
      hattributed.given, by rw [hinvoked], by rw [hinvoked]⟩
  refine ⟨hserved, fun hrs hhmac => List.eq_nil_iff_forall_not_mem.2 fun s hs => ?_⟩
  obtain ⟨claims, -, hverified, -⟩ := hserved s hs
  exact not_verifiedBySettings hrs hhmac hverified

/-! ### Over what a started gateway forwards -/

/-- The attempts of an `initialize` are made with the client: one that keeps to https connects to no
backend with another url. -/
def ConnectsBy (client : HttpClient Identity Cert) (σ : Application.State Body)
    (e : Application.Event Body Value Manager Ctx) : Prop :=
  ∀ n getSession accepts ctx virtualHost downstreamSessionId name backend,
    σ.serviceEvent e = some (n, .connect getSession accepts ctx) →
    InitializeCallValidator.validate ctx = .ok (virtualHost, downstreamSessionId) →
    virtualHost.backends.get name = some backend →
    client.httpsOnly = true → accepts name = true → backend.url.scheme = "https"

/-- The connections of the call are to backends with an https url. -/
def OverHttps (call : Service.InitializeCall) : Prop :=
  ∀ name connection backend, (name, some connection) ∈ call.initialization.services →
    call.virtualHost.backends.get name = some backend → backend.url.scheme = "https"

/-- The calls that have connected or finished are so. -/
def CallsOverHttps (τ : Service.State) : Prop :=
  (∀ n call, τ.connected n = some call → OverHttps call) ∧ ∀ call ∈ τ.finished, OverHttps call

theorem callsOverHttps_new (toolCallId : UInt64) : CallsOverHttps (Service.State.new toolCallId) :=
  ⟨fun _ _ h => (nomatch h), fun _ h => (nomatch h)⟩

theorem CallsOverHttps.insert {τ : Service.State} (h : CallsOverHttps τ) (number : ℕ) :
    CallsOverHttps (Service.insert τ number) := by
  unfold Service.insert
  cases hcall : τ.connected number with
  | none => exact h
  | some call =>
    refine ⟨fun n call' hn => ?_, List.forall_mem_cons.2 ⟨h.1 number call hcall, h.2⟩⟩
    by_cases hne : n = number
    · subst hne
      simp at hn
    · exact h.1 n call' (by simpa [hne] using hn)

theorem CallsOverHttps.connect {τ : Service.State} (h : CallsOverHttps τ)
    {getSession : UserSession → Except SessionStoreError (Option SessionMapping)}
    {accepts : String → Bool} {ctx : RequestContext}
    (hconnects : ∀ virtualHost downstreamSessionId name backend,
      InitializeCallValidator.validate ctx = .ok (virtualHost, downstreamSessionId) →
      virtualHost.backends.get name = some backend → accepts name = true →
      backend.url.scheme = "https") :
    CallsOverHttps (Service.connect τ getSession accepts ctx) := by
  unfold Service.connect
  split
  · exact h
  next initialization hok =>
    refine ⟨fun n call hn => ?_, h.2⟩
    by_cases hne : n = τ.started
    · subst hne
      obtain rfl := Option.some.inj (by simpa using hn)
      intro name connection backend hservice hbackend
      obtain ⟨hvalid, -, hservices⟩ := initializeConnect_eq_ok hok
      rw [hservices] at hservice
      obtain ⟨⟨name', backend'⟩, hentry, heq⟩ := List.mem_map.1 hservice
      obtain ⟨rfl, hserve⟩ := Prod.mk.inj heq
      refine hconnects _ _ name' backend hvalid hbackend ?_
      unfold Service.serve at hserve
      split_ifs at hserve with haccepts
      exact haccepts
    · exact h.1 n call (by simpa [hne] using hn)

theorem CallsOverHttps.next {σ : Application.State Body} (h : ∀ n, CallsOverHttps (σ.services n))
    {client : HttpClient Identity Cert} (hclient : client.httpsOnly = true)
    {keys : JwtTokenDecoders RsKey HmacKey} {e : Application.Event Body Value Manager Ctx}
    (he : ConnectsBy client σ e) (n : ℕ) :
    CallsOverHttps ((Application.next codec jwt keys σ e).services n) := by
  rw [Application.next_services]
  rcases hevent : σ.serviceEvent e with - | ⟨m, event⟩
  · exact h n
  by_cases hnm : n = m
  · subst hnm
    have hservice : CallsOverHttps (σ.service n) := h n
    simp only [Function.update_self]
    cases event with
    | connect getSession accepts ctx =>
      exact hservice.connect fun virtualHost downstreamSessionId name backend hvalid hget haccepts =>
        he n getSession accepts ctx virtualHost downstreamSessionId name backend hevent hvalid hget
          hclient haccepts
    | insert number => exact hservice.insert number
    | listTools | listResources | callTool | readResource => exact hservice
  · simp only [Function.update_of_ne hnm]
    exact h n

/-- **https only.** Unless the settings ask for a mode that allows plain connections, a request is never
forwarded over one: whatever the interleaving, the connection that it goes over was opened by an `initialize`
of its session to the url that the config of that one had for the backend, and that is an https url. -/
theorem started_forwarded_https (hstarted : runGateway env config = .ok gateway)
    (hmode : keepsToHttps config.upstreamConnectionMode = true) (redis : Bytes → Option Bytes)
    (toolCallId : UInt64) {es : List (Application.Event Body Value Manager Ctx)}
    (hes : Runs.Along (Application.next codec jwt gateway.decoders) (ConnectsBy gateway.client)
      (Application.State.new redis toolCallId) es)
    (e : Application.Event Body Value Manager Ctx) {f : Service.Forwarded}
    (hf : f ∈ Application.forwarded (Runs.run (Application.next codec jwt gateway.decoders)
      (Application.State.new redis toolCallId) es) e) :
    ∃ virtualHost sessionId openedHost downstreamSessionId backend,
      AuthorizedCallValidator.validate f.ctx = .ok (virtualHost, sessionId) ∧
      InitializeCallValidator.validate f.connection.ctx = .ok (openedHost, downstreamSessionId) ∧
      downstreamSessionId.sessionId = sessionId.value ∧
      openedHost.backends.get f.backendName = some backend ∧
      f.connection.config = transportConfig backend.url ∧ backend.url.scheme = "https" := by
  have hclient : gateway.client.httpsOnly = true :=
    (started_of_runGateway hstarted).client.httpsOnly.trans hmode
  have hcalls : ∀ n, CallsOverHttps ((Runs.run (Application.next codec jwt gateway.decoders)
      (Application.State.new redis toolCallId) es).services n) :=
    Runs.along_invariant (I := fun σ : Application.State Body => ∀ n, CallsOverHttps (σ.services n))
      (fun _ _ h he => CallsOverHttps.next h hclient he) (fun _ => callsOverHttps_new toolCallId) hes
  have hinv : Application.Inv codec jwt gateway.decoders redis es _ :=
    Application.inv_run toolCallId es
  obtain ⟨i, message, s, hforwarded, -⟩ := Application.mem_forwarded hf
  -- the connection is that of a call that has finished, for a backend of its virtual host
  have hhistory : Service.History ((Runs.run (Application.next codec jwt gateway.decoders)
      (Application.State.new redis toolCallId) es).service s.service) :=
    (hinv.history s.service).of_eq rfl rfl
  obtain ⟨⟨_, _, call, -, hlast, hservice, -, hctx⟩, hopened⟩ :=
    hhistory.openedByLast (Service.borrowable_of_forwarded hforwarded)
  obtain ⟨virtualHost, sessionId, openedHost, downstreamSessionId, backend, hauthorized, hvalid, hsession,
    -, hbackend, hconfig⟩ := hopened
  refine ⟨virtualHost, sessionId, openedHost, downstreamSessionId, backend, hauthorized, hvalid, hsession,
    hbackend, hconfig, ?_⟩
  obtain rfl : openedHost = call.virtualHost := by
    rw [hctx, call.validated] at hvalid
    exact (Prod.mk.inj (Except.ok.inj hvalid)).1.symm
  exact (hcalls s.service).2 call (List.mem_of_find?_eq_some hlast) _ _ backend hservice hbackend

end

/-! ### A gateway that keeps to https -/

namespace HttpsOnly

open Application.EndToEnd (codecOf jwt lists listedWith)

/-- A system on which every file can be read and every library is content. -/
def env : StartupEnv Unit Unit Unit Unit Unit Unit where
  readFile _ := .ok []
  parseAuthority _ := .ok ()
  pemCerts _ := [.ok ()]
  pkcs8Key _ := true
  privateKey _ := .ok ()
  serverConfig _ _ := .ok ()
  certificateBundle _ := .ok []
  identity _ := .ok ()
  buildClient _ := .ok ()
  rsaKey _ := some ()
  hmacKey _ := ()
  openRedis _ := .ok ()
  connectRedis _ := true

/-- Settings with a secret for tokens and no mode for backends. -/
def settings : Config where
  address := some ⟨"127.0.0.1", 8001⟩
  tokenVerificationPublicKey := none
  tokenVerificationSecret := some "secret"
  tlsAddress := none
  serverPrivateKey := none
  serverCertificate := none
  upstreamConnectionMode := none
  upstreamPrivateKey := none
  upstreamCertificate := none
  upstreamTrustBundle := none
  redisAddress := "127.0.0.1"
  redisPort := 6379
  redisMode := .plainText
  redisTlsTrustBundle := none
  redisTlsClientPrivateKey := none
  redisTlsClientCertificate := none

def gateway : Gateway Unit Unit Unit Unit Unit where
  redis := ⟨"127.0.0.1", 6379, false, none, none⟩
  client := ⟨true, none, []⟩
  decoders := ⟨none, some ()⟩
  tcp := some ⟨"127.0.0.1", 8001⟩
  tls := none

theorem started : runGateway env settings = .ok gateway := rfl

/-- A backend with an https url. -/
def secure : BackendMCPGateway :=
  { Service.SharedSession.backend "https://a" with url := ⟨"https://a", "https", some "a", none⟩ }

/-- Alice's virtual host, with that backend and one without https. -/
def aliceConfig : UserConfig :=
  ⟨⟨[("alice", ⟨⟨[("counter", secure), ("plain", Service.SharedSession.backend "http://b")],
    by decide⟩⟩)], List.nodup_singleton _⟩⟩

/-- Alice's session, in which only the first of them is connected to. -/
def run : List (Application.Event Unit Unit Unit Unit) :=
  listedWith aliceConfig fun name => name = "counter"

/-- After the first `n` of these steps. -/
def state (n : ℕ) : Application.State Unit :=
  Runs.run (Application.next (codecOf aliceConfig) jwt gateway.decoders)
    (Application.State.new (fun _ => none) 1) (run.take n)

/-- What the handlers see of the request that initializes the session. -/
def context : RequestContext where
  parts := some
    { virtualHostId := some ⟨"alice"⟩
      sessionId := none
      claims := some ⟨"alice"⟩
      userConfig := some aliceConfig }
  downstreamSessionId := some ⟨"s"⟩

/-- The context of an `initialize`. -/
def connectContext : Service.Event Unit Unit Unit → Option RequestContext
  | .connect _ _ ctx => some ctx
  | _ => none

/-- Every connection attempt of the run is one of the client's. -/
theorem connectsBy_run :
    Runs.Along (Application.next (codecOf aliceConfig) jwt gateway.decoders)
      (ConnectsBy gateway.client) (Application.State.new (fun _ => none) 1) run := by
  have hconnect : ConnectsBy gateway.client (state 6)
      (.serve 1 0 (.connect (fun _ => .ok none) fun name => name = "counter") (some ⟨"s"⟩) :
        Application.Event Unit Unit Unit Unit) := by
    intro n getSession accepts ctx virtualHost downstreamSessionId name backend hevent hvalid hget _
      haccepts
    have hctx : (((state 6).serviceEvent
        (.serve 1 0 (.connect (fun _ => .ok none) fun name => name = "counter") (some ⟨"s"⟩) :
          Application.Event Unit Unit Unit Unit)).bind fun p => connectContext p.2) = some context := by
      decide +kernel
    rw [hevent] at hctx
    obtain rfl : ctx = context := Option.some.inj hctx
    cases hevent
    obtain rfl : name = "counter" := of_decide_eq_true haccepts
    have hhost : InitializeCallValidator.validate context =
        .ok (⟨⟨[("counter", secure), ("plain", Service.SharedSession.backend "http://b")], by decide⟩⟩,
          ⟨"s"⟩) := rfl
    rw [hhost] at hvalid
    cases hvalid
    cases hget
    rfl
  have hno : ∀ σ, ∀ e : Application.Event Unit Unit Unit Unit,
      ((σ.serviceEvent e).bind fun p => connectContext p.2) = none →
        ConnectsBy gateway.client σ e := by
    intro σ e hnone n getSession accepts ctx _ _ _ _ hevent
    rw [hevent] at hnone
    cases hnone
  exact ⟨hno _ _ rfl, hno _ _ rfl, hno _ _ rfl, hno _ _ rfl, hno _ _ rfl, hno _ _ rfl, hconnect, hno _ _ rfl,
    hno _ _ rfl, hno _ _ rfl, hno _ _ rfl, trivial⟩

end HttpsOnly

open HttpsOnly Application.EndToEnd in
theorem started_served_sample :
    ∃ s ∈ (state 7).served, ∃ claims userConfig,
      VerifiedBySettings env settings (jwt s.time) s.arrived claims ∧
      s.invoked.extensions.userConfig = some userConfig := by
  obtain ⟨s, hs⟩ := List.exists_mem_of_length_pos (l := (state 7).served) (by decide)
  obtain ⟨claims, userConfig, hverified, -, -, hconfig⟩ :=
    (started_served started (fun _ => none) 1 (run.take 7)).1 s hs
  exact ⟨s, hs, claims, userConfig, hverified, hconfig⟩

open HttpsOnly Application.EndToEnd in
theorem started_forwarded_https_sample :
    ∃ f ∈ Application.forwarded (state 11) lists, f.backendName = "counter" ∧
      ∃ backend, f.connection.config = transportConfig (BackendMCPGateway.url backend) ∧
        backend.url.scheme = "https" := by
  have hnames : (Application.forwarded (state 11) lists).map Service.Forwarded.backendName =
      ["counter"] := by decide
  have hname : "counter" ∈ (Application.forwarded (state 11) lists).map
      Service.Forwarded.backendName := hnames ▸ List.mem_singleton_self _
  obtain ⟨f, hf, hcounter⟩ := List.mem_map.1 hname
  obtain ⟨_, _, _, _, backend, -, -, -, -, hconfig, hscheme⟩ :=
    started_forwarded_https started rfl (fun _ => none) 1 connectsBy_run lists hf
  exact ⟨f, hf, hcounter, backend, hconfig, hscheme⟩

end ContextForge
