import ContextForgeGateway.Lib.Paging
import ContextForgeGateway.Gateway.Listing
import Mathlib.Algebra.Order.BigOperators.Group.List

/-!
# Paging through an aggregated listing

The backends may serve their tools and resources in pages. The gateway hands the cursor of a request
to every backend as it is, takes the items of their answers, and drops their next cursors: its own
answer never has one. So a client that follows the cursors of the gateway makes one call, and gets
the first page of each backend. That is everything exactly if nothing is behind the first pages
(`receivesAll_iff`, `listings_complete_iff`).
-/

namespace ContextForge

/-- How a client asks for the page at a cursor. -/
structure PagingClient (Value : Type) where
  request : Option String → Option (PaginatedRequestParams Value)
  cursor_request : ∀ cursor, (request cursor).bind PaginatedRequestParams.cursor = cursor

variable {Client Value Listing Item : Type}

/-- Backends that serve a listing in pages: a client of a healthy one answers with the page at the
cursor of the request, and the others fail. -/
structure PagedBackends (kind : ListingKind Client Value Listing Item) where
  backends : BackendApi Client Value
  server : Client → Option (PagedServer Item)
  ask_eq : ∀ request service,
    (kind.ask backends request service).map
        (fun listing => (kind.items listing, kind.nextCursor listing)) =
      (server service).bind fun s => s.page (request.bind PaginatedRequestParams.cursor)

namespace PagedBackends

variable {kind : ListingKind Client Value Listing Item} (paged : PagedBackends kind)
  (transports : Transports Client) (sessionId : SessionId)

/-- The list of a backend that is connected and healthy. -/
def healthy (b : String) : Option (PagedServer Item) :=
  ((transports ⟨b, sessionId.value⟩).bind BackendTransportService.service).bind paged.server

/-- All items of a healthy backend, as they are listed. -/
def allOf (b : String) : List Item :=
  match paged.healthy transports sessionId b with
  | none => []
  | some server => server.items.map (kind.prefixItem b)

/-- What the gateway answers to a client that asks for the page at a cursor. -/
def fetch (client : PagingClient Value) (ctx : RequestContext) (cursor : Option String) :
    Option (List Item × Option String) :=
  match kind.handler ⟨paged.backends, transports, client.request cursor⟩ ctx with
  | .error _ => none
  | .ok listing => some (kind.items listing, kind.nextCursor listing)

/-- A client that begins without a cursor and follows the cursors of the gateway until it gets none
has received every item of every healthy backend exactly once. -/
def ReceivesAll (client : PagingClient Value) (ctx : RequestContext) (virtualHost : VirtualHost) :
    Prop :=
  ∃ received, Collects (paged.fetch transports client ctx) none received ∧
    received.Perm (virtualHost.backends.keys.flatMap (paged.allOf transports sessionId))

/-- The first page of every healthy backend has all its items. -/
def OnePageEach (virtualHost : VirtualHost) : Prop :=
  ∀ b ∈ virtualHost.backends.keys, ∀ server, paged.healthy transports sessionId b = some server →
    server.items.length ≤ server.pageEnd 0

variable {paged transports sessionId}

/-- Asked without a cursor, a healthy backend reports its first page. -/
theorem reported_eq (client : PagingClient Value) (b : String) :
    kind.reported ⟨paged.backends, transports, client.request none⟩ sessionId b =
      match paged.healthy transports sessionId b with
      | none => []
      | some server => (server.items.take (server.pageEnd 0)).map (kind.prefixItem b) := by
  unfold ListingKind.reported ListingKind.outcome healthy
  cases (transports ⟨b, sessionId.value⟩).bind BackendTransportService.service with
  | none => rfl
  | some service =>
    have hask := paged.ask_eq (client.request none) service
    rw [client.cursor_request] at hask
    simp only [Option.bind_some]
    cases hserver : paged.server service with
    | none =>
      rw [hserver] at hask
      rw [Option.map_eq_none_iff.1 hask]
    | some server =>
      rw [hserver] at hask
      obtain ⟨listing, hlisting, hpage⟩ := Option.map_eq_some_iff.1 hask
      have hitems : kind.items listing = server.items.take (server.pageEnd 0) :=
        congrArg Prod.fst hpage
      rw [hlisting]
      simp only [hitems]

/-- A backend reports no more than it has. -/
theorem length_reported_le (paged : PagedBackends kind) (transports : Transports Client)
    (sessionId : SessionId) (client : PagingClient Value) (b : String) :
    (kind.reported ⟨paged.backends, transports, client.request none⟩ sessionId b).length ≤
      (paged.allOf transports sessionId b).length := by
  rw [reported_eq]
  unfold allOf
  cases paged.healthy transports sessionId b with
  | none => exact Nat.le_refl _
  | some server => simp

/-- The answer to the first request has no cursor, so it is all that a client receives. -/
theorem collects_iff (paged : PagedBackends kind) (transports : Transports Client)
    (client : PagingClient Value) {ctx : RequestContext} {virtualHost : VirtualHost}
    {sessionId : SessionId}
    (hvalid : AuthorizedCallValidator.validate ctx = .ok (virtualHost, sessionId)) :
    ∃ items, (∀ received, Collects (paged.fetch transports client ctx) none received ↔
        received = items) ∧
      items.Perm (virtualHost.backends.keys.flatMap
        (kind.reported ⟨paged.backends, transports, client.request none⟩ sessionId)) := by
  obtain ⟨listing, hreturned, hcursor, hitems⟩ :=
    kind.handler_items ⟨paged.backends, transports, client.request none⟩ hvalid
  refine ⟨kind.items listing, fun received => ?_, ?_⟩
  · apply collects_last_iff
    unfold fetch
    rw [hreturned, ← hcursor]
  · rw [hitems]
    exact List.perm_insertionSort _ _

/-- A client receives everything exactly if nothing is behind the first pages. -/
theorem receivesAll_iff (paged : PagedBackends kind) (transports : Transports Client)
    (client : PagingClient Value) {ctx : RequestContext} {virtualHost : VirtualHost}
    {sessionId : SessionId}
    (hvalid : AuthorizedCallValidator.validate ctx = .ok (virtualHost, sessionId)) :
    paged.ReceivesAll transports sessionId client ctx virtualHost ↔
      paged.OnePageEach transports sessionId virtualHost := by
  obtain ⟨items, hcollects, hitems⟩ := paged.collects_iff transports client hvalid
  constructor
  · rintro ⟨received, hreceived, hall⟩ b hb server hserver
    obtain rfl := (hcollects received).1 hreceived
    by_contra hmore
    -- then one backend reports less than it has, and none reports more
    have hless : (kind.reported ⟨paged.backends, transports, client.request none⟩ sessionId
        b).length < (paged.allOf transports sessionId b).length := by
      rw [reported_eq]
      unfold allOf
      simp only [hserver, List.length_map, List.length_take]
      omega
    have hle : ∀ n ∈ virtualHost.backends.keys,
        (kind.reported ⟨paged.backends, transports, client.request none⟩ sessionId n).length ≤
          (paged.allOf transports sessionId n).length :=
      fun n _ => paged.length_reported_le transports sessionId client n
    have hsum := List.sum_lt_sum _ _ hle ⟨b, hb, hless⟩
    have hlength := (hitems.symm.trans hall).length_eq
    rw [List.length_flatMap, List.length_flatMap] at hlength
    omega
  · intro hone
    refine ⟨items, (hcollects items).2 rfl, hitems.trans ?_⟩
    apply List.Perm.of_eq
    apply List.flatMap_congr
    intro b hb
    rw [reported_eq]
    unfold allOf
    cases hserver : paged.healthy transports sessionId b with
    | none => rfl
    | some server =>
      simp only [List.take_of_length_le (hone b hb server hserver)]

end PagedBackends

open PagedBackends

/-- For the tools and for the resources of any backends, with pages of any sizes: a client of the
gateway receives everything exactly if nothing is behind the first pages. -/
theorem listings_complete_iff (transports : Transports Client) (client : PagingClient Value)
    (tools : PagedBackends
      (toolListing : ListingKind Client Value (ListToolsResult Value) (Tool Value)))
    (resources : PagedBackends
      (resourceListing : ListingKind Client Value (ListResourcesResult Value) (Resource Value)))
    {ctx : RequestContext} {virtualHost : VirtualHost} {sessionId : SessionId}
    (hvalid : AuthorizedCallValidator.validate ctx = .ok (virtualHost, sessionId)) :
    (tools.ReceivesAll transports sessionId client ctx virtualHost ↔
        tools.OnePageEach transports sessionId virtualHost) ∧
      (resources.ReceivesAll transports sessionId client ctx virtualHost ↔
        resources.OnePageEach transports sessionId virtualHost) :=
  ⟨tools.receivesAll_iff transports client hvalid,
    resources.receivesAll_iff transports client hvalid⟩

/-! ### Two tools -/

namespace TwoTools

/-- A request to a virtual host with one backend, `counter`. -/
def virtualHost : VirtualHost where
  backends :=
    ⟨[("counter",
      { name := "counter"
        url := ⟨"http://c", "http", some "c", none⟩
        transport := .streamableHttp
        passthroughHeaders := []
        allowedToolNames := []
        allowedResourceNames := []
        allowedPromptNames := [] })], List.nodup_singleton _⟩

def context : RequestContext where
  parts := some
    { virtualHostId := some ⟨"h"⟩
      sessionId := some ⟨"s"⟩
      claims := none
      userConfig := some ⟨⟨[("h", virtualHost)], List.nodup_singleton _⟩⟩ }
  downstreamSessionId := none

theorem context_valid : AuthorizedCallValidator.validate context = .ok (virtualHost, ⟨"s"⟩) := by
  simp [AuthorizedCallValidator.validate, validateWith, context, KeyedList.get]

/-- The tools `increment` and `decrement`, in pages of `size + 1` tools. -/
def server (size : ℕ) : PagedServer (Tool Unit) where
  items := [⟨"increment", ()⟩, ⟨"decrement", ()⟩]
  pageEnd n := n + size + 1
  lt_pageEnd n := by omega
  cursor n := String.ofList (List.replicate n '.')
  offset cursor := some cursor.length
  offset_cursor n := by simp

/-- A backend with these tools, and without resources. -/
def api (size : ℕ) : BackendApi Unit Unit where
  listTools _ request :=
    ((server size).page (request.bind PaginatedRequestParams.cursor)).map fun page =>
      ⟨none, page.2, page.1⟩
  callTool _ _ := none
  listResources _ _ := none
  readResource _ _ := none

def tools (size : ℕ) : PagedBackends
    (toolListing : ListingKind Unit Unit (ListToolsResult Unit) (Tool Unit)) where
  backends := api size
  server _ := some (server size)
  ask_eq request service := by
    show ((((server size).page (request.bind PaginatedRequestParams.cursor)).map _).map _) = _
    rw [Option.map_map, Option.bind_some]
    exact Option.map_id_apply

def resources (size : ℕ) : PagedBackends
    (resourceListing : ListingKind Unit Unit (ListResourcesResult Unit) (Resource Unit)) where
  backends := api size
  server _ := none
  ask_eq _ _ := rfl

def client : PagingClient Unit where
  request cursor := some ⟨none, cursor⟩
  cursor_request _ := rfl

/-- The backend is connected. -/
def transports : Transports Unit := fun _ => some ⟨some ()⟩

end TwoTools

open TwoTools

theorem twoTools_listings_complete_iff :
    ((tools 1).ReceivesAll transports ⟨"s"⟩ client context virtualHost ↔
        (tools 1).OnePageEach transports ⟨"s"⟩ virtualHost) ∧
      ((resources 1).ReceivesAll transports ⟨"s"⟩ client context virtualHost ↔
        (resources 1).OnePageEach transports ⟨"s"⟩ virtualHost) :=
  listings_complete_iff transports client (tools 1) (resources 1) context_valid

/-- In pages of one tool, a client of the backend itself receives both of its tools, and a client of
the gateway does not. -/
theorem smallPages_not_receivesAll :
    Collects (server 0).page none [⟨"increment", ()⟩, ⟨"decrement", ()⟩] ∧
      ¬ (tools 0).ReceivesAll transports ⟨"s"⟩ client context virtualHost := by
  refine ⟨(server 0).collects_page, ?_⟩
  rw [(tools 0).receivesAll_iff transports client context_valid]
  intro hone
  have hfits := hone "counter" (by decide) (server 0) rfl
  exact absurd hfits (by decide)

end ContextForge
