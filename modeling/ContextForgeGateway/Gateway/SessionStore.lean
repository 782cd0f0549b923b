import ContextForgeGateway.ConfigStore.Redis
import ContextForgeGateway.Gateway.McpService

/-!
# The session stores

`initialize` reads the mapping of its session from a `UserSessionStore` and writes it back. There are
two: `LocalUserSessionStore` is a time-based cache and nothing else, `RedisUserSessionStore` keeps the
mappings in Redis behind such a cache. Neither operation of the second holds a lock from end to end, so
an operation is a sequence of atomic steps (`SessionOp`); those of the first are one step each.

`SessionStoreSteps` is what the rest of the development asks of a store, and `Lawful` what it may rely
on: what an operation has in hand was stored or cached, and what it answers without a mapping stands for a
session that the store does not hold, unless it has not looked (`blind`).
-/

namespace ContextForge

/-- A `get_session` or `set_session`, between two of its atomic steps. -/
inductive SessionOp
  | getStart
  | getHit
  | getMiss
  | getFill (mapping : SessionMapping)
  | getDone (result : Except SessionStoreError (Option SessionMapping))
  | setStart (mapping : SessionMapping)
  | setFill (mapping : SessionMapping)
  | setDone (result : Except SessionStoreError Unit)

/-- The mapping that an operation has in hand, as `initialize` takes it. -/
def SessionOp.value : SessionOp → Option SessionMapping
  | getFill mapping | setStart mapping | setFill mapping => some mapping
  | getDone (.ok maybeSessionMapping) => some (maybeSessionMapping.getD default)
  | _ => none

/-- What else happens to a store: time passes, the capacity of its cache is used up, or somebody else
deletes the record of a session. -/
inductive SessionStoreEvent
  | wait (d : ℕ)
  | evict (session : UserSession)
  | delete (session : UserSession)

/-- A session store whose operations take atomic steps. -/
structure SessionStoreSteps (S : Type) where
  /-- The next step of an operation; the flag says whether a Redis command in it succeeds. -/
  advance : S → Bool → UserSession → SessionOp → S × SessionOp
  happen : S → SessionStoreEvent → S
  /-- The mapping that the store holds for a session. -/
  stored : S → UserSession → Option SessionMapping
  /-- The mapping that a cache in front of the store has for a session. -/
  cached : S → UserSession → Option SessionMapping
  /-- The mapping that the step writes into the store. -/
  writes : S → Bool → UserSession → SessionOp → Option SessionMapping
  /-- The step answers that there is no mapping, without having looked at what the store holds. -/
  blind : S → Bool → UserSession → SessionOp → Bool

/-- The operation does without the cache, or found nothing in it. -/
def SessionStoreSteps.Missed {S : Type} (M : SessionStoreSteps S) (s : S) (u : UserSession)
    (op : SessionOp) : Prop :=
  op = .getMiss ∨ M.cached s u = none

/-- How a step of an operation leads to the next one, and where the mapping comes from that this has in
hand. -/
inductive SessionStoreSteps.Follows {S : Type} (M : SessionStoreSteps S) (s : S) (ok : Bool)
    (u : UserSession) : SessionOp → SessionOp → Prop
  | stay {op} : M.Follows s ok u op op
  | hit : M.Follows s ok u .getStart .getHit
  | miss : M.cached s u = none → M.Follows s ok u .getStart .getMiss
  | found {m} : M.stored s u = some m → M.Follows s ok u .getMiss (.getFill m)
  | filled {m} : M.Follows s ok u (.getFill m) (.getDone (.ok (some m)))
  | fromCache {m} : M.cached s u = some m → M.Follows s ok u .getHit (.getDone (.ok (some m)))
  | fromStore {op r} : op.value = none → M.Missed s u op → r = M.stored s u →
      M.Follows s ok u op (.getDone (.ok r))
  | blind {op} : op.value = none → M.Missed s u op → M.blind s ok u op = true →
      M.Follows s ok u op (.getDone (.ok none))
  | getFailed {op e} : M.Follows s ok u op (.getDone (.error e))
  | written {m} : M.writes s ok u (.setStart m) = some m → M.Follows s ok u (.setStart m) (.setFill m)
  | setDone {op r} : M.Follows s ok u op (.setDone r)

/-- What one step can do to the copies of a mapping. -/
structure SessionStoreSteps.Lawful {S : Type} (M : SessionStoreSteps S) : Prop where
  follows : ∀ s ok u op, M.Follows s ok u op (M.advance s ok u op).2
  stored_eq : ∀ s ok u op v, M.stored (M.advance s ok u op).1 v =
    if v = u then (M.writes s ok u op).or (M.stored s v) else M.stored s v
  op_of_writes : ∀ {s ok u op m}, M.writes s ok u op = some m → op = .setStart m
  cached_of : ∀ {s ok u op v m}, M.cached (M.advance s ok u op).1 v = some m →
    M.cached s v = some m ∨ v = u ∧ (op = .getFill m ∨ op = .setFill m)
  happen_stored : ∀ {s e v m}, M.stored (M.happen s e) v = some m → M.stored s v = some m
  happen_cached : ∀ {s e v m}, M.cached (M.happen s e) v = some m → M.cached s v = some m

theorem lruCacheExpiryDuration_pos : 0 < lruCacheExpiryDuration := by decide

/-! ### local_session_store.rs -/

/-- `struct LocalUserSessionStore`, and the clock. -/
structure LocalUserSessionStore where
  cache : TimeCache UserSession SessionMapping
  now : ℕ

namespace LocalUserSessionStore

/-- `LocalUserSessionStore::get_session`. -/
def getSession (s : LocalUserSessionStore) (sessionKey : UserSession) :
    LocalUserSessionStore × Except SessionStoreError (Option SessionMapping) :=
  let (userSession, cache) := s.cache.getMut lruCacheExpiryDuration s.now sessionKey
  ({ s with cache }, .ok userSession)

/-- `LocalUserSessionStore::set_session`. -/
def setSession (s : LocalUserSessionStore) (sessionKey : UserSession) (mapping : SessionMapping) :
    LocalUserSessionStore × Except SessionStoreError Unit :=
  ({ s with cache := s.cache.insert s.now sessionKey mapping }, .ok ())

/-- Each operation is one lock section. -/
def advance (s : LocalUserSessionStore) (sessionKey : UserSession) :
    SessionOp → LocalUserSessionStore × SessionOp
  | .getStart => ((s.getSession sessionKey).1, .getDone (s.getSession sessionKey).2)
  | .setStart mapping =>
    ((s.setSession sessionKey mapping).1, .setDone (s.setSession sessionKey mapping).2)
  | op => (s, op)

/-- The live entry is the mapping that the store holds. -/
def stored (s : LocalUserSessionStore) (sessionKey : UserSession) : Option SessionMapping :=
  (s.cache.live lruCacheExpiryDuration s.now sessionKey).map CacheEntry.value

def happen (s : LocalUserSessionStore) : SessionStoreEvent → LocalUserSessionStore
  | .wait d => { s with now := s.now + d }
  | .evict session | .delete session => { s with cache := s.cache.evict session }

/-- The mapping that a step writes. -/
def writes : SessionOp → Option SessionMapping
  | .setStart mapping => some mapping
  | _ => none

/-- The local store as a store with atomic steps; there is nothing in front of it. -/
def steps : SessionStoreSteps LocalUserSessionStore where
  advance s _ := s.advance
  happen := happen
  stored := stored
  cached _ _ := none
  writes _ _ _ := writes
  blind _ _ _ _ := false

/-- What one step does to the stored mappings: nothing, or one write. -/
theorem stored_advance (s : LocalUserSessionStore) (u v : UserSession) (op : SessionOp) :
    (s.advance u op).1.stored v = if v = u then (writes op).or (s.stored v) else s.stored v := by
  cases op with
  | getStart =>
    simp only [writes, Option.none_or, ite_self]
    exact TimeCache.live_getMut_value lruCacheExpiryDuration_pos u v
  | setStart m =>
    simp only [advance, setSession, stored, writes]
    by_cases hv : v = u
    · subst hv
      rw [if_pos rfl, TimeCache.live_insert_self lruCacheExpiryDuration_pos]
      rfl
    · rw [if_neg hv, TimeCache.live_insert_of_ne hv]
  | getHit | getMiss | getFill | getDone | setFill | setDone =>
    simp only [advance, writes, Option.none_or, ite_self]

/-- A `get_session` answers with what is stored. -/
theorem advance_getStart (s : LocalUserSessionStore) (u : UserSession) :
    (s.advance u .getStart).2 = .getDone (.ok (s.stored u)) := by
  simp only [advance, getSession, TimeCache.getMut_fst, stored]

theorem lawful : steps.Lawful where
  follows := by
    intro s ok u op
    cases op with
    | getStart =>
      simp only [steps, advance_getStart]
      exact .fromStore rfl (Or.inr rfl) rfl
    | setStart mapping => exact .setDone
    | getHit | getMiss | getFill | getDone | setFill | setDone => exact .stay
  stored_eq s _ u op v := stored_advance s u v op
  op_of_writes := by
    intro s ok u op m h
    cases op with
    | setStart mapping =>
      cases h
      rfl
    | getStart | getHit | getMiss | getFill | getDone | setFill | setDone => cases h
  cached_of := nofun
  happen_stored := by
    intro s e v m h
    obtain ⟨entry, hentry, rfl⟩ := Option.map_eq_some_iff.1 h
    cases e with
    | wait d => exact Option.map_eq_some_iff.2 ⟨entry, TimeCache.live_of_later hentry, rfl⟩
    | evict session | delete session =>
      exact Option.map_eq_some_iff.2 ⟨entry, TimeCache.live_of_evict hentry, rfl⟩
  happen_cached := nofun

end LocalUserSessionStore

/-! ### redis_session_store.rs -/

/-- The encodings of `rmp_serde`: the key of a session determines the session, and what was encoded
decodes to what it was. -/
structure SessionCodec where
  encodeSession : UserSession → Option Bytes
  encodeMapping : SessionMapping → Option Bytes
  decodeMapping : Bytes → Option SessionMapping
  encodeSession_inj : ∀ {u v k}, encodeSession u = some k → encodeSession v = some k → u = v
  decode_encode : ∀ {m b}, encodeMapping m = some b → decodeMapping b = some m

/-- `struct RedisUserSessionStore`, with the keys of Redis and the clock. -/
structure RedisUserSessionStore where
  cache : TimeCache UserSession SessionMapping
  redis : Bytes → Option Bytes
  now : ℕ

namespace RedisUserSessionStore

/-- `cache.insert(session_key, mapping)`. -/
def insertCache (s : RedisUserSessionStore) (sessionKey : UserSession) (mapping : SessionMapping) :
    RedisUserSessionStore :=
  { s with cache := s.cache.insert s.now sessionKey mapping }

/-- The reply to `GET key`; a command that fails has no effect. -/
def redisGet (s : RedisUserSessionStore) (ok : Bool) (key : Bytes) : Except Unit (Option Bytes) :=
  if ok then .ok (s.redis key) else .error ()

/-- `SET key value`. -/
def redisSet (s : RedisUserSessionStore) (key value : Bytes) : RedisUserSessionStore :=
  { s with redis := Function.update s.redis key (some value) }

variable (codec : SessionCodec)

/-- What `get_session` makes of a reply to its `GET`. -/
def decodeReply : Except Unit (Option Bytes) → Except SessionStoreError (Option SessionMapping)
  | .ok (some userSession) =>
    match codec.decodeMapping userSession with
    | some mapping => .ok (some mapping)
    | none => .error .dataWrongFormat
  -- an error is taken for a session that is not there
  | _ => .ok none

/-- `RedisUserSessionStore::get_session`; `ok` says whether its `GET` succeeds. -/
def getSession (s : RedisUserSessionStore) (ok : Bool) (sessionKey : UserSession) :
    RedisUserSessionStore × Except SessionStoreError (Option SessionMapping) :=
  if s.cache.containsKey lruCacheExpiryDuration s.now sessionKey then
    let (userSession, cache) := s.cache.getMut lruCacheExpiryDuration s.now sessionKey
    ({ s with cache }, .ok userSession)
  else
    match codec.encodeSession sessionKey with
    | none => (s, .error .dataEncoding)
    | some key =>
      match decodeReply codec (s.redisGet ok key) with
      | .error e => (s, .error e)
      | .ok none => (s, .ok none)
      | .ok (some userSession) => (s.insertCache sessionKey userSession, .ok (some userSession))

/-- `RedisUserSessionStore::set_session`; `ok` says whether its `SET` succeeds. -/
def setSession (s : RedisUserSessionStore) (ok : Bool) (sessionKey : UserSession)
    (mapping : SessionMapping) : RedisUserSessionStore × Except SessionStoreError Unit :=
  match codec.encodeSession sessionKey, codec.encodeMapping mapping with
  | some key, some encoded =>
    if ok then ((s.redisSet key encoded).insertCache sessionKey mapping, .ok ())
    else (s, .error .cantWriteData)
  | _, _ => (s, .error .dataEncoding)

/-- The next atomic step of an operation: one cache lock section, or one Redis command. -/
def advance (s : RedisUserSessionStore) (ok : Bool) (sessionKey : UserSession) :
    SessionOp → RedisUserSessionStore × SessionOp
  | .getStart =>
    (s, if s.cache.containsKey lruCacheExpiryDuration s.now sessionKey then .getHit else .getMiss)
  | .getHit =>
    let (userSession, cache) := s.cache.getMut lruCacheExpiryDuration s.now sessionKey
    -- `None` if the entry vanished between the two lock sections
    ({ s with cache }, .getDone (.ok userSession))
  | .getMiss =>
    match codec.encodeSession sessionKey with
    | none => (s, .getDone (.error .dataEncoding))
    | some key =>
      match decodeReply codec (s.redisGet ok key) with
      | .error e => (s, .getDone (.error e))
      | .ok none => (s, .getDone (.ok none))
      | .ok (some userSession) => (s, .getFill userSession)
  | .getFill mapping => (s.insertCache sessionKey mapping, .getDone (.ok (some mapping)))
  | .setStart mapping =>
    match codec.encodeSession sessionKey, codec.encodeMapping mapping with
    | some key, some encoded =>
      if ok then (s.redisSet key encoded, .setFill mapping)
      else (s, .setDone (.error .cantWriteData))
    | _, _ => (s, .setDone (.error .dataEncoding))
  | .setFill mapping => (s.insertCache sessionKey mapping, .setDone (.ok ()))
  | op => (s, op)

/-- The steps of one operation in a row; three are enough. -/
def drain (s : RedisUserSessionStore) (ok : Bool) (sessionKey : UserSession) (op : SessionOp) :
    RedisUserSessionStore × SessionOp :=
  let (s₁, op₁) := advance codec s ok sessionKey op
  let (s₂, op₂) := advance codec s₁ ok sessionKey op₁
  advance codec s₂ ok sessionKey op₂

/-- A `get_session` that nothing interrupts is the source's function. -/
theorem getSession_eq_drain (s : RedisUserSessionStore) (ok : Bool) (u : UserSession) :
    drain codec s ok u .getStart =
      ((getSession codec s ok u).1, .getDone (getSession codec s ok u).2) := by
  by_cases hk : s.cache.containsKey lruCacheExpiryDuration s.now u = true
  · simp only [drain, advance, getSession, hk, if_true]
  · simp only [drain, advance, getSession, hk]
    cases hu : codec.encodeSession u with
    | none => simp
    | some key =>
      cases hr : decodeReply codec (s.redisGet ok key) with
      | error e => simp [hr]
      | ok userSession => cases userSession <;> simp [hr]

/-- A `set_session` that nothing interrupts is the source's function. -/
theorem setSession_eq_drain (s : RedisUserSessionStore) (ok : Bool) (u : UserSession)
    (m : SessionMapping) :
    drain codec s ok u (.setStart m) =
      ((setSession codec s ok u m).1, .setDone (setSession codec s ok u m).2) := by
  cases hu : codec.encodeSession u with
  | none => simp [drain, advance, setSession, hu]
  | some key =>
    cases hc : codec.encodeMapping m with
    | none => simp [drain, advance, setSession, hu, hc]
    | some encoded => cases ok <;> simp [drain, advance, setSession, hu, hc]

/-- The mapping that Redis holds. -/
def stored (s : RedisUserSessionStore) (sessionKey : UserSession) : Option SessionMapping :=
  ((codec.encodeSession sessionKey).bind s.redis).bind codec.decodeMapping

/-- The mapping of the live cache entry. -/
def cached (s : RedisUserSessionStore) (sessionKey : UserSession) : Option SessionMapping :=
  (s.cache.live lruCacheExpiryDuration s.now sessionKey).map CacheEntry.value

def happen (s : RedisUserSessionStore) : SessionStoreEvent → RedisUserSessionStore
  | .wait d => { s with now := s.now + d }
  | .evict session => { s with cache := s.cache.evict session }
  | .delete session =>
    match codec.encodeSession session with
    | some key => { s with redis := Function.update s.redis key none }
    | none => s

/-- The mapping that a step writes into Redis, if its `SET` succeeds. -/
def writes (ok : Bool) (sessionKey : UserSession) : SessionOp → Option SessionMapping
  | .setStart mapping =>
    match ok, codec.encodeSession sessionKey, codec.encodeMapping mapping with
    | true, some _, some _ => some mapping
    | _, _, _ => none
  | _ => none

/-- A `GET` that fails, or a second lock section that finds the entry gone. -/
def blind (s : RedisUserSessionStore) (ok : Bool) (sessionKey : UserSession) : SessionOp → Bool
  | .getMiss => !ok
  | .getHit => (s.cached sessionKey).isNone
  | _ => false

/-- The Redis store as a store with atomic steps. -/
def steps : SessionStoreSteps RedisUserSessionStore where
  advance := advance codec
  happen := happen codec
  stored := stored codec
  cached := cached
  writes _ := writes codec
  blind := blind

variable {codec} {s : RedisUserSessionStore} {ok : Bool} {u v : UserSession} {m m' : SessionMapping}

theorem stored_eq_some : s.stored codec u = some m ↔
    ∃ k b, codec.encodeSession u = some k ∧ s.redis k = some b ∧ codec.decodeMapping b = some m := by
  unfold stored
  constructor
  · intro h
    obtain ⟨b, hb, hm⟩ := Option.bind_eq_some_iff.1 h
    obtain ⟨k, hk, hkb⟩ := Option.bind_eq_some_iff.1 hb
    exact ⟨k, b, hk, hkb, hm⟩
  · rintro ⟨k, b, hk, hkb, hm⟩
    rw [hk, Option.bind_some, hkb, Option.bind_some, hm]

theorem stored_redisSet {k b : Bytes} (hk : codec.encodeSession u = some k)
    (hb : codec.encodeMapping m = some b) (v : UserSession) :
    (s.redisSet k b).stored codec v = if v = u then some m else s.stored codec v := by
  by_cases hv : v = u
  · subst hv
    rw [if_pos rfl]
    exact stored_eq_some.2 ⟨k, b, hk, Function.update_self _ _ _, codec.decode_encode hb⟩
  · rw [if_neg hv]
    unfold stored
    cases hk' : codec.encodeSession v with
    | none => rfl
    | some k' =>
      have hne : k' ≠ k := by
        rintro rfl
        exact hv (codec.encodeSession_inj hk' hk)
      simp only [redisSet, Option.bind_some, Function.update_of_ne hne]

theorem cached_insertCache (v : UserSession) :
    (s.insertCache u m).cached v = if v = u then some m else s.cached v := by
  simp only [cached, insertCache]
  by_cases hv : v = u
  · subst hv
    rw [if_pos rfl, TimeCache.live_insert_self lruCacheExpiryDuration_pos]
    rfl
  · rw [if_neg hv, TimeCache.live_insert_of_ne hv]

/-- The first step of `set_session` is its `SET`, or fails. -/
theorem advance_setStart (codec : SessionCodec) (s : RedisUserSessionStore) (ok : Bool)
    (u : UserSession) (m : SessionMapping) :
    (∃ k b, codec.encodeSession u = some k ∧ codec.encodeMapping m = some b ∧
      writes codec ok u (.setStart m) = some m ∧
      advance codec s ok u (.setStart m) = (s.redisSet k b, .setFill m)) ∨
    ∃ e, writes codec ok u (.setStart m) = none ∧
      advance codec s ok u (.setStart m) = (s, .setDone (.error e)) := by
  cases hu : codec.encodeSession u with
  | none => exact Or.inr ⟨.dataEncoding, by simp [writes, hu], by simp only [advance, hu]⟩
  | some k =>
    cases hm : codec.encodeMapping m with
    | none => exact Or.inr ⟨.dataEncoding, by simp [writes, hm], by simp only [advance, hu, hm]⟩
    | some b =>
      cases ok with
      | false =>
        exact Or.inr ⟨.cantWriteData, by simp [writes], by simp [advance, hu, hm]⟩
      | true =>
        exact Or.inl ⟨k, b, rfl, rfl, by simp [writes, hu, hm], by simp [advance, hu, hm]⟩

/-- `contains_key` decides whether an operation goes to the cache or to Redis. -/
theorem advance_getStart (codec : SessionCodec) (s : RedisUserSessionStore) (ok : Bool)
    (u : UserSession) : (advance codec s ok u .getStart).2 = .getHit ∨
      s.cached u = none ∧ (advance codec s ok u .getStart).2 = .getMiss := by
  cases hl : s.cache.live lruCacheExpiryDuration s.now u with
  | none => simp [advance, TimeCache.containsKey, cached, hl]
  | some entry => simp [advance, TimeCache.containsKey, hl]

/-- What a `GET` gives: the mapping that Redis holds, an error, or `None`, the last also if it fails. -/
theorem advance_getMiss (codec : SessionCodec) (s : RedisUserSessionStore) (ok : Bool)
    (u : UserSession) : (advance codec s ok u .getMiss).1 = s ∧
      ((∃ m, s.stored codec u = some m ∧ (advance codec s ok u .getMiss).2 = .getFill m) ∨
        (∃ e, (advance codec s ok u .getMiss).2 = .getDone (.error e)) ∨
        (ok = true → s.stored codec u = none) ∧
          (advance codec s ok u .getMiss).2 = .getDone (.ok none)) := by
  cases hu : codec.encodeSession u with
  | none => simp [advance, hu]
  | some key =>
    cases ok with
    -- the failed `GET` is taken for an absent session
    | false => simp [advance, hu, redisGet, decodeReply]
    | true =>
      cases hr : s.redis key with
      | none => simp [advance, hu, redisGet, decodeReply, stored, hr]
      | some b =>
        cases hb : codec.decodeMapping b with
        | none => simp [advance, hu, redisGet, decodeReply, hr, hb]
        | some m => simp [advance, hu, redisGet, decodeReply, stored, hr, hb]

/-- The second lock section of a hit answers with the live entry, if there still is one. -/
theorem advance_getHit (codec : SessionCodec) (s : RedisUserSessionStore) (ok : Bool)
    (u : UserSession) : (advance codec s ok u .getHit).2 = .getDone (.ok (s.cached u)) := by
  simp only [advance, TimeCache.getMut_fst, cached]

/-- Which copies a step makes: none, one in Redis, or one in the cache. -/
theorem advance_cases (codec : SessionCodec) (s : RedisUserSessionStore) (ok : Bool)
    (u : UserSession) (op : SessionOp) :
    (writes codec ok u op = none ∧ (advance codec s ok u op).1.redis = s.redis ∧
      ((advance codec s ok u op).1.cached = s.cached ∨
        ∃ m, (op = .getFill m ∨ op = .setFill m) ∧
          (advance codec s ok u op).1 = s.insertCache u m)) ∨
    ∃ m k b, op = .setStart m ∧ writes codec ok u op = some m ∧
      codec.encodeSession u = some k ∧ codec.encodeMapping m = some b ∧
      advance codec s ok u op = (s.redisSet k b, .setFill m) := by
  cases op with
  | getStart => exact Or.inl ⟨rfl, rfl, Or.inl rfl⟩
  | getHit =>
    refine Or.inl ⟨rfl, rfl, Or.inl ?_⟩
    funext v
    exact TimeCache.live_getMut_value lruCacheExpiryDuration_pos u v
  | getMiss =>
    rw [(advance_getMiss codec s ok u).1]
    exact Or.inl ⟨rfl, rfl, Or.inl rfl⟩
  | getFill m => exact Or.inl ⟨rfl, rfl, Or.inr ⟨m, Or.inl rfl, rfl⟩⟩
  | getDone r => exact Or.inl ⟨rfl, rfl, Or.inl rfl⟩
  | setStart m =>
    rcases advance_setStart codec s ok u m with ⟨k, b, hk, hb, hw, hadv⟩ | ⟨e, hw, hadv⟩
    · exact Or.inr ⟨m, k, b, rfl, hw, hk, hb, hadv⟩
    · rw [hadv]
      exact Or.inl ⟨hw, rfl, Or.inl rfl⟩
  | setFill m => exact Or.inl ⟨rfl, rfl, Or.inr ⟨m, Or.inr rfl, rfl⟩⟩
  | setDone r => exact Or.inl ⟨rfl, rfl, Or.inl rfl⟩

theorem lawful (codec : SessionCodec) : (steps codec).Lawful where
  follows := by
    intro s ok u op
    cases op with
    | getStart =>
      rcases advance_getStart codec s ok u with hadv | ⟨hc, hadv⟩
      · simp only [steps, hadv]
        exact .hit
      · simp only [steps, hadv]
        exact .miss hc
    | getHit =>
      simp only [steps, advance_getHit]
      cases hc : s.cached u with
      | none => exact .blind rfl (Or.inr hc) (by simp only [blind, hc, Option.isNone_none])
      | some m => exact .fromCache hc
    | getMiss =>
      rcases (advance_getMiss codec s ok u).2 with ⟨m, hm, hadv⟩ | ⟨e, hadv⟩ | ⟨hnone, hadv⟩
      · simp only [steps, hadv]
        exact .found hm
      · simp only [steps, hadv]
        exact .getFailed
      · simp only [steps, hadv]
        cases ok with
        | false => exact .blind rfl (Or.inl rfl) rfl
        | true => exact .fromStore rfl (Or.inl rfl) (hnone rfl).symm
    | getFill m => exact .filled
    | setStart m =>
      rcases advance_setStart codec s ok u m with ⟨k, b, -, -, hw, hadv⟩ | ⟨e, -, hadv⟩
      · simp only [steps, hadv]
        exact .written hw
      · simp only [steps, hadv]
        exact .setDone
    | setFill m => exact .setDone
    | getDone | setDone => exact .stay
  stored_eq := by
    intro s ok u op v
    rcases advance_cases codec s ok u op with ⟨hw, hr, -⟩ | ⟨m, k, b, rfl, hw, hk, hb, hadv⟩
    · simp only [steps, hw, Option.none_or, ite_self, stored, hr]
    · simp only [steps, hw, hadv, stored_redisSet hk hb, Option.some_or]
  op_of_writes := by
    intro s ok u op m h
    rcases advance_cases codec s ok u op with ⟨hw, -⟩ | ⟨m', k, b, rfl, hw, -⟩
    · cases hw.symm.trans h
    · cases hw.symm.trans h
      rfl
  cached_of := by
    intro s ok u op v m h
    rcases advance_cases codec s ok u op with ⟨-, -, hc | ⟨m', hop, hadv⟩⟩ |
      ⟨m', k, b, rfl, -, hk, hb, hadv⟩
    · simp only [steps, hc] at h
      exact Or.inl h
    · simp only [steps, hadv, cached_insertCache] at h
      split at h
      · next hv =>
        cases h
        exact Or.inr ⟨hv, hop⟩
      · exact Or.inl h
    · simp only [steps, hadv] at h
      exact Or.inl h
  happen_stored := by
    intro s e v m h
    cases e with
    | wait d => exact h
    | evict session => exact h
    | delete session =>
      cases hk : codec.encodeSession session with
      | none =>
        simp only [steps, happen, hk] at h
        exact h
      | some k =>
        simp only [steps, happen, hk] at h
        obtain ⟨k', b, hk', hb, hm⟩ := stored_eq_some.1 h
        by_cases hkk : k' = k
        · subst hkk
          simp only [Function.update_self] at hb
          cases hb
        · simp only [Function.update_of_ne hkk] at hb
          exact stored_eq_some.2 ⟨k', b, hk', hb, hm⟩
  happen_cached := by
    intro s e v m h
    obtain ⟨entry, hentry, rfl⟩ := Option.map_eq_some_iff.1 h
    cases e with
    | wait d => exact Option.map_eq_some_iff.2 ⟨entry, TimeCache.live_of_later hentry, rfl⟩
    | evict session => exact Option.map_eq_some_iff.2 ⟨entry, TimeCache.live_of_evict hentry, rfl⟩
    | delete session =>
      cases hk : codec.encodeSession session <;> simp only [steps, happen, hk] at h <;> exact h

end RedisUserSessionStore

end ContextForge
