import ContextForgeGateway.Layers.Middleware
import ContextForgeGateway.Mcp

/-!
# The call validators

A handler of the MCP service begins by validating the context of its request: the session, the
user's configuration and the id of the virtual host must be there, and the configuration must have
that virtual host. `initialize` comes before the client knows its session, so it asks for the
session id that the transport has just made; the other handlers ask for the one that the client
sent.
-/

namespace ContextForge

/-- `DownstreamSessionId`, of the transport. -/
structure DownstreamSessionId where
  sessionId : String
  deriving DecidableEq

/-- `RequestContext`, in the extensions that the validators read: the `Parts` of the HTTP request,
with the extensions that the layers inserted, and the session id that the transport made. -/
structure RequestContext where
  parts : Option Extensions
  downstreamSessionId : Option DownstreamSessionId
  deriving DecidableEq

/-- The error for a context that lacks `what`. -/
def routingProblem (what : String) : ErrorData :=
  ⟨ErrorCode.internalError, "Routing problem... " ++ what⟩

/-- The error for a virtual host that the user's configuration does not have. -/
def noConfiguration : ErrorData := ⟨ErrorCode.resourceNotFound, "No configuration"⟩

/-- What both validators do once they have looked up their session. -/
def validateWith {Session : Type} (maybeSession : Option Session) (sessionProblem : ErrorData)
    (maybeParts : Option Extensions) : Except ErrorData (VirtualHost × Session) :=
  match maybeSession with
  | none => .error sessionProblem
  | some session =>
    match maybeParts.bind Extensions.userConfig with
    | none => .error (routingProblem "user config not found")
    | some userConfig =>
      match maybeParts.bind Extensions.virtualHostId with
      | none => .error (routingProblem "virutal host not known")
      | some virtualHostId =>
        match userConfig.virtualHosts.get virtualHostId.value with
        | none => .error noConfiguration
        | some virtualHost => .ok (virtualHost, session)

/-- `AuthorizedCallValidator::validate`. -/
def AuthorizedCallValidator.validate (ctx : RequestContext) :
    Except ErrorData (VirtualHost × SessionId) :=
  validateWith (ctx.parts.bind Extensions.sessionId) (routingProblem "session id not created")
    ctx.parts

/-- `InitializeCallValidator::validate`. -/
def InitializeCallValidator.validate (ctx : RequestContext) :
    Except ErrorData (VirtualHost × DownstreamSessionId) :=
  validateWith ctx.downstreamSessionId (routingProblem "downstream session id not created")
    ctx.parts

/-- Everything a validator has checked when it succeeds. -/
theorem validateWith_eq_ok {Session : Type} {maybeSession : Option Session}
    {sessionProblem : ErrorData} {maybeParts : Option Extensions} {virtualHost : VirtualHost}
    {session : Session} :
    validateWith maybeSession sessionProblem maybeParts = .ok (virtualHost, session) ↔
      maybeSession = some session ∧
      ∃ userConfig virtualHostId,
        maybeParts.bind Extensions.userConfig = some userConfig ∧
        maybeParts.bind Extensions.virtualHostId = some virtualHostId ∧
        userConfig.virtualHosts.get virtualHostId.value = some virtualHost := by
  unfold validateWith
  cases maybeSession with
  | none => simp
  | some s =>
    cases hu : maybeParts.bind Extensions.userConfig with
    | none => simp
    | some userConfig =>
      cases hv : maybeParts.bind Extensions.virtualHostId with
      | none => simp
      | some virtualHostId =>
        cases hg : userConfig.virtualHosts.get virtualHostId.value with
        | none => simp [hg]
        | some vh => simp [hg, and_comm]

end ContextForge
