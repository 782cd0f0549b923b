import ContextForgeGateway.Lib.StableSort
import ContextForgeGateway.Gateway.ListedIsCalled

/-!
# Aggregated listings

`list_tools` and `list_resources` do the same thing to different items: they ask the backends of the
session and merge what these report. `ListingKind` is what they have in common, with what each of
them fixes as its fields (`toolListing`, `resourceListing`).

`listings_aggregated` says of both that the merged list has exactly the items of the backends that
answered, sorted by name, and that it does not depend on the order in which the backends are
iterated if their names are unambiguous: items of different backends then have different names, and
the sort leaves those of one backend in their order.
-/

namespace ContextForge

/-- What a listing is made from, apart from the context of the request. -/
structure ListingCall (Client Value : Type) where
  backends : BackendApi Client Value
  transports : Transports Client
  request : Option (PaginatedRequestParams Value)

/-- A listing handler: what it asks of a backend, and what it does with the items of an answer. Its
own answer has the merged items, and no cursor. -/
structure ListingKind (Client Value Listing Item : Type) where
  handler : ListingCall Client Value → RequestContext → Except ErrorData Listing
  ask : BackendApi Client Value → Option (PaginatedRequestParams Value) → Client → Option Listing
  items : Listing → List Item
  nextCursor : Listing → Option String
  name : Item → String
  prefixItem : String → Item → Item
  name_prefixItem : ∀ b t, name (prefixItem b t) = prefixName b (name t)
  handler_eq : ∀ (call : ListingCall Client Value) ctx virtualHost sessionId,
    AuthorizedCallValidator.validate ctx = .ok (virtualHost, sessionId) →
    ∃ listing, handler call ctx = .ok listing ∧ nextCursor listing = none ∧
      items listing = mergeItems items prefixItem name (responsesOf (ask call.backends call.request)
        (SessionManager.borrowTransports ⟨virtualHost, sessionId, call.transports⟩))

variable {Client Value Listing Item : Type}

/-- `list_tools`. -/
def toolListing : ListingKind Client Value (ListToolsResult Value) (Tool Value) where
  handler call ctx := (listTools call.backends call.transports call.request ctx).result
  ask backends request service := backends.listTools service request
  items := ListToolsResult.tools
  nextCursor := ListToolsResult.nextCursor
  name := Tool.name
  prefixItem := prefixTool
  name_prefixItem _ _ := rfl
  handler_eq _ _ _ _ hvalid := ⟨_, listWith_result hvalid, rfl, rfl⟩

/-- `list_resources`. -/
def resourceListing : ListingKind Client Value (ListResourcesResult Value) (Resource Value) where
  handler call ctx := (listResources call.backends call.transports call.request ctx).result
  ask backends request service := backends.listResources service request
  items := ListResourcesResult.resources
  nextCursor := ListResourcesResult.nextCursor
  name := Resource.name
  prefixItem := prefixResource
  name_prefixItem _ _ := rfl
  handler_eq _ _ _ _ hvalid := ⟨_, listWith_result hvalid, rfl, rfl⟩

namespace ListingKind

variable (kind : ListingKind Client Value Listing Item) (call : ListingCall Client Value)
  (sessionId : SessionId)

/-- What has become of the request to a backend: nothing if the session has no connected client for
it, or the client fails. -/
def outcome (b : String) : Option Listing :=
  ((call.transports ⟨b, sessionId.value⟩).bind BackendTransportService.service).bind
    (kind.ask call.backends call.request)

/-- The items that a backend has reported, as they are listed. -/
def reported (b : String) : List Item :=
  match kind.outcome call sessionId b with
  | none => []
  | some listing => (kind.items listing).map (kind.prefixItem b)

/-- What a listing handler returns for a virtual host in a session. -/
structure Aggregated (ctx : RequestContext) (virtualHost : VirtualHost) (listing : Listing) :
    Prop where
  returned : kind.handler call ctx = .ok listing
  sorted : (kind.items listing).Pairwise fun t o => kind.name t ≤ kind.name o
  complete : (kind.items listing).Perm
    (virtualHost.backends.keys.flatMap (kind.reported call sessionId))
  /-- If one backend fails and the others answer as they did, its own items are missing. -/
  failing : ∀ (call' : ListingCall Client Value), ∀ b ∈ virtualHost.backends.keys,
    kind.outcome call' sessionId b = none →
    (∀ n, n ≠ b → kind.outcome call' sessionId n = kind.outcome call sessionId n) →
    ∃ listing', kind.handler call' ctx = .ok listing' ∧
      (kind.items listing).Perm (kind.reported call sessionId b ++ kind.items listing')
  /-- Another iteration order of the backends gives the same list. -/
  orderFree : Unambiguous virtualHost.backends.keys → ∀ ctx' virtualHost',
    AuthorizedCallValidator.validate ctx' = .ok (virtualHost', sessionId) →
    virtualHost'.backends.Same virtualHost.backends →
    ∃ listing', kind.handler call ctx' = .ok listing' ∧ kind.items listing' = kind.items listing

/-- In every valid context, whatever becomes of the requests to the backends, the handler returns
the aggregated list. -/
def Aggregates : Prop :=
  ∀ (call : ListingCall Client Value) (ctx : RequestContext) (virtualHost : VirtualHost)
    (sessionId : SessionId),
    AuthorizedCallValidator.validate ctx = .ok (virtualHost, sessionId) →
    ∃ listing, kind.Aggregated call sessionId ctx virtualHost listing

variable {kind call sessionId}

theorem responsesOf_borrowTransports (virtualHost : VirtualHost) :
    responsesOf (kind.ask call.backends call.request)
        (SessionManager.borrowTransports ⟨virtualHost, sessionId, call.transports⟩) =
      virtualHost.backends.keys.filterMap fun b =>
        (kind.outcome call sessionId b).map fun listing => (b, listing) := by
  unfold responsesOf SessionManager.borrowTransports
  rw [List.filterMap_filterMap]
  apply congrArg fun f => List.filterMap f virtualHost.backends.keys
  funext b
  simp only [outcome, SessionManager.key]
  cases call.transports ⟨b, sessionId.value⟩ with
  | none => rfl
  | some found =>
    obtain ⟨service⟩ := found
    cases service <;> rfl

/-- The items that are merged, backend by backend. -/
theorem flatMap_responses (kind : ListingKind Client Value Listing Item)
    (call : ListingCall Client Value) (sessionId : SessionId) (backendNames : List String) :
    ((backendNames.filterMap fun b => (kind.outcome call sessionId b).map fun listing =>
        (b, listing)).flatMap fun response =>
          (kind.items response.2).map (kind.prefixItem response.1)) =
      backendNames.flatMap (kind.reported call sessionId) := by
  induction backendNames with
  | nil => rfl
  | cons b backendNames ih =>
    rw [List.flatMap_cons, ← ih]
    unfold reported
    cases h : kind.outcome call sessionId b with
    | none =>
      rw [List.filterMap_cons_none (by rw [h]; rfl)]
      rfl
    | some listing =>
      rw [List.filterMap_cons_some (by rw [h]; rfl)]
      rfl

/-- What the handler returns, in terms of what the backends have reported. -/
theorem handler_items (kind : ListingKind Client Value Listing Item)
    (call : ListingCall Client Value) {ctx : RequestContext} {virtualHost : VirtualHost}
    {sessionId : SessionId}
    (hvalid : AuthorizedCallValidator.validate ctx = .ok (virtualHost, sessionId)) :
    ∃ listing, kind.handler call ctx = .ok listing ∧ kind.nextCursor listing = none ∧
      kind.items listing = (virtualHost.backends.keys.flatMap
        (kind.reported call sessionId)).insertionSort fun t o => kind.name t ≤ kind.name o := by
  obtain ⟨listing, hreturned, hcursor, hitems⟩ := kind.handler_eq call _ _ _ hvalid
  refine ⟨listing, hreturned, hcursor, ?_⟩
  rw [hitems, mergeItems, responsesOf_borrowTransports, flatMap_responses]

/-- A listed item has the name of its backend before its own. -/
theorem name_of_mem_reported {b : String} {t : Item} (h : t ∈ kind.reported call sessionId b) :
    ∃ name, kind.name t = prefixName b name := by
  unfold reported at h
  cases houtcome : kind.outcome call sessionId b with
  | none =>
    rw [houtcome] at h
    cases h
  | some listing =>
    rw [houtcome] at h
    obtain ⟨item, -, rfl⟩ := List.mem_map.1 h
    exact ⟨kind.name item, kind.name_prefixItem b item⟩

/-- Under unambiguous names, items of the same name are of the same backend. -/
theorem eq_of_name_eq {backendNames : List String} (h : Unambiguous backendNames) {n m : String}
    (hn : n ∈ backendNames) (hm : m ∈ backendNames) {t o : Item}
    (ht : t ∈ kind.reported call sessionId n) (ho : o ∈ kind.reported call sessionId m)
    (hname : kind.name t = kind.name o) : n = m := by
  obtain ⟨s, hs⟩ := name_of_mem_reported ht
  obtain ⟨s', hs'⟩ := name_of_mem_reported ho
  have hwords : backendWord n ++ s.toList = backendWord m ++ s'.toList := by
    rw [← prefixName_toList, ← prefixName_toList, ← hs, ← hs', hname]
  have hfree := prefixFree_iff_unambiguous.2 h
  exact (PrefixCode.prefixFree_iff_injOn.1 hfree n hn m hm _ _ hwords).1

/-- The items of one backend, and those of the others. -/
theorem flatMap_reported_perm (virtualHost : VirtualHost) {b : String}
    (hb : b ∈ virtualHost.backends.keys) {call' : ListingCall Client Value}
    (hfails : kind.outcome call' sessionId b = none)
    (hothers : ∀ n, n ≠ b → kind.outcome call' sessionId n = kind.outcome call sessionId n) :
    (virtualHost.backends.keys.flatMap (kind.reported call sessionId)).Perm
      (kind.reported call sessionId b ++
        virtualHost.backends.keys.flatMap (kind.reported call' sessionId)) := by
  have hfirst : virtualHost.backends.keys.Perm (b :: virtualHost.backends.keys.erase b) :=
    List.perm_cons_erase hb
  have hnone : kind.reported call' sessionId b = [] := by
    unfold reported
    rw [hfails]
  have hrest : (virtualHost.backends.keys.erase b).flatMap (kind.reported call sessionId) =
      (virtualHost.backends.keys.erase b).flatMap (kind.reported call' sessionId) := by
    apply List.flatMap_congr
    intro n hn
    have hne : n ≠ b := (virtualHost.backends.nodup_keys.mem_erase_iff.1 hn).1
    unfold reported
    rw [hothers n hne]
  have hold := hfirst.flatMap_right (kind.reported call sessionId)
  have hnew := hfirst.flatMap_right (kind.reported call' sessionId)
  rw [List.flatMap_cons] at hold hnew
  rw [hnone, List.nil_append] at hnew
  rw [hrest] at hold
  exact hold.trans (hnew.symm.append_left _)

theorem aggregates (kind : ListingKind Client Value Listing Item) : kind.Aggregates := by
  intro call ctx virtualHost sessionId hvalid
  obtain ⟨listing, hreturned, -, hitems⟩ := kind.handler_items call hvalid
  have htotal : Std.Total fun t o : Item => kind.name t ≤ kind.name o := ⟨fun _ _ => le_total _ _⟩
  have htrans : IsTrans Item fun t o : Item => kind.name t ≤ kind.name o :=
    ⟨fun _ _ _ => le_trans⟩
  have hcomplete : (kind.items listing).Perm
      (virtualHost.backends.keys.flatMap (kind.reported call sessionId)) := by
    rw [hitems]
    exact List.perm_insertionSort _ _
  refine ⟨listing, hreturned, ?_, hcomplete, ?_, ?_⟩
  · rw [hitems]
    exact List.pairwise_insertionSort _ _
  · intro call' b hb hfails hothers
    obtain ⟨listing', hreturned', -, hitems'⟩ := kind.handler_items call' hvalid
    refine ⟨listing', hreturned', ?_⟩
    have hsplit := flatMap_reported_perm virtualHost hb hfails hothers
    rw [hitems']
    exact (hcomplete.trans hsplit).trans ((List.perm_insertionSort _ _).symm.append_left _)
  · intro hnames ctx' virtualHost' hvalid' hsame
    obtain ⟨listing', hreturned', -, hitems'⟩ := kind.handler_items call hvalid'
    refine ⟨listing', hreturned', ?_⟩
    rw [hitems, hitems']
    apply StableSort.insertionSort_flatMap_eq_of_perm hsame.keys_perm
    intro n hn m hm t ht o ho hname
    exact eq_of_name_eq hnames (hsame.keys_perm.mem_iff.1 hn) (hsame.keys_perm.mem_iff.1 hm) ht ho
      hname

end ListingKind

/-- Both listings are exact and, under unambiguous names, independent of the order of the
backends. -/
theorem listings_aggregated (Client Value : Type) :
    (toolListing : ListingKind Client Value (ListToolsResult Value) (Tool Value)).Aggregates ∧
      (resourceListing :
        ListingKind Client Value (ListResourcesResult Value) (Resource Value)).Aggregates :=
  ⟨toolListing.aggregates, resourceListing.aggregates⟩

end ContextForge
