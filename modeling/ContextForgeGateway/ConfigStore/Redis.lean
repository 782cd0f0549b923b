import ContextForgeGateway.Lib.TimeCache
import ContextForgeGateway.UserStore

/-!
# The Redis-backed user-config store

`RedisUserConfigStore` keeps user configs in Redis behind a time-based LRU cache. Neither of its
operations holds a lock from end to end, so a call is a sequence of atomic steps: one cache lock
section or one Redis command each. `Call` lists the points between two steps and `advance` is the
step taken from each of them, written from `get_config` and `set_config`.

`getConfig` and `setConfig` are the two functions as the source has them, for a call that nothing
interrupts; `getConfig_eq_drain` and `setConfig_eq_drain` say that they are the steps of such a
call in a row.

The store never looks inside a config, so its type is a parameter.
-/

namespace ContextForge

/-- `LRU_CACHE_EXPIRY_DURATION` (one hour), in nanoseconds. -/
def lruCacheExpiryDuration : ℕ := 3600 * 1000000000

/-- The encodings of `rmp_serde`: the key of a user determines the user, and what was encoded
decodes to what it was. -/
structure Codec (Config : Type) where
  encodeUser : User → Option Bytes
  encodeConfig : Config → Option Bytes
  decodeConfig : Bytes → Option Config
  encodeUser_inj : ∀ {u v k}, encodeUser u = some k → encodeUser v = some k → u = v
  decode_encode : ∀ {c b}, encodeConfig c = some b → decodeConfig b = some c

/-- The cache, the keys of Redis, and the clock. -/
structure RedisUserConfigStore (Config : Type) where
  cache : TimeCache String Config
  redis : Bytes → Option Bytes
  now : ℕ

namespace RedisUserConfigStore

variable {Config : Type}

/-- `RedisUserConfigStore::new` on a Redis that holds `redis`. -/
def new (redis : Bytes → Option Bytes) : RedisUserConfigStore Config :=
  ⟨TimeCache.empty, redis, 0⟩

/-- `cache.insert(user_key.key(), config)`. -/
def insertCache (s : RedisUserConfigStore Config) (u : User) (c : Config) :
    RedisUserConfigStore Config :=
  { s with cache := s.cache.insert s.now u.key c }

/-- The reply to `GET key`; a command that fails has no effect. -/
def redisGet (s : RedisUserConfigStore Config) (ok : Bool) (key : Bytes) :
    Except Unit (Option Bytes) :=
  if ok then .ok (s.redis key) else .error ()

/-- `SET key value`. -/
def redisSet (s : RedisUserConfigStore Config) (key value : Bytes) :
    RedisUserConfigStore Config :=
  { s with redis := Function.update s.redis key (some value) }

/-- The live cache entry of `u`. -/
def liveEntry (s : RedisUserConfigStore Config) (u : User) : Option (CacheEntry Config) :=
  s.cache.live lruCacheExpiryDuration s.now u.key

/-- The value Redis holds for `u`. -/
def Holds (codec : Codec Config) (s : RedisUserConfigStore Config) (u : User) (c : Config) : Prop :=
  ∃ k b, codec.encodeUser u = some k ∧ s.redis k = some b ∧ codec.decodeConfig b = some c

theorem Holds.unique {codec : Codec Config} {s : RedisUserConfigStore Config} {u : User}
    {c c' : Config} (h : s.Holds codec u c) (h' : s.Holds codec u c') : c = c' := by
  obtain ⟨k, b, hk, hb, hc⟩ := h
  obtain ⟨k', b', hk', hb', hc'⟩ := h'
  obtain rfl : k = k' := Option.some.inj (hk.symm.trans hk')
  obtain rfl : b = b' := Option.some.inj (hb.symm.trans hb')
  exact Option.some.inj (hc.symm.trans hc')

variable (codec : Codec Config)

/-! ### The two operations -/

/-- What `get_config` makes of a reply to its `GET`. -/
def decodeReply : Except Unit (Option Bytes) → Except ConfigStoreError Config
  | .ok (some bytes) =>
    match codec.decodeConfig bytes with
    | some c => .ok c
    | none => .error .dataWrongFormat
  | _ => .error .noDataForKey

/-- `RedisUserConfigStore::get_config`; `ok` says whether its `GET` succeeds. -/
def getConfig (s : RedisUserConfigStore Config) (ok : Bool) (u : User) :
    RedisUserConfigStore Config × Except ConfigStoreError Config :=
  if s.cache.containsKey lruCacheExpiryDuration s.now u.key then
    let (userConfig, cache) := s.cache.getMut lruCacheExpiryDuration s.now u.key
    match userConfig with
    | some c => ({ s with cache }, .ok c)
    | none => ({ s with cache }, .error .noDataForKey)
  else
    match codec.encodeUser u with
    | none => (s, .error .dataEncoding)
    | some key =>
      match decodeReply codec (s.redisGet ok key) with
      | .error e => (s, .error e)
      | .ok c => (s.insertCache u c, .ok c)

/-- `RedisUserConfigStore::set_config`; `ok` says whether its `SET` succeeds. -/
def setConfig (s : RedisUserConfigStore Config) (ok : Bool) (u : User) (c : Config) :
    RedisUserConfigStore Config × Except ConfigStoreError Unit :=
  match codec.encodeUser u, codec.encodeConfig c with
  | some key, some encoded =>
    if ok then ((s.redisSet key encoded).insertCache u c, .ok ()) else (s, .error .cantWriteData)
  | _, _ => (s, .error .dataEncoding)

/-! ### Their atomic steps -/

variable (Config) in
/-- A call of `get_config` or `set_config`, between two of its atomic steps. -/
inductive Call
  | getStart (u : User)
  | getHit (u : User)
  | getMiss (u : User)
  | getFill (u : User) (c : Config)
  | getDone (u : User) (r : Except ConfigStoreError Config)
  | setStart (u : User) (c : Config)
  | setFill (u : User) (c : Config)
  | setDone (u : User) (c : Config) (r : Except ConfigStoreError Unit)

/-- The next atomic step of a call; `ok` says whether a Redis command in it succeeds. -/
def advance (s : RedisUserConfigStore Config) (ok : Bool) :
    Call Config → RedisUserConfigStore Config × Call Config
  | .getStart u =>
    (s, if s.cache.containsKey lruCacheExpiryDuration s.now u.key then .getHit u else .getMiss u)
  | .getHit u =>
    let (userConfig, cache) := s.cache.getMut lruCacheExpiryDuration s.now u.key
    match userConfig with
    | some c => ({ s with cache }, .getDone u (.ok c))
    -- the entry vanished between the two lock sections
    | none => ({ s with cache }, .getDone u (.error .noDataForKey))
  | .getMiss u =>
    match codec.encodeUser u with
    | none => (s, .getDone u (.error .dataEncoding))
    | some key =>
      match decodeReply codec (s.redisGet ok key) with
      | .error e => (s, .getDone u (.error e))
      | .ok c => (s, .getFill u c)
  | .getFill u c => (s.insertCache u c, .getDone u (.ok c))
  | .setStart u c =>
    match codec.encodeUser u, codec.encodeConfig c with
    | some key, some encoded =>
      if ok then (s.redisSet key encoded, .setFill u c)
      else (s, .setDone u c (.error .cantWriteData))
    | _, _ => (s, .setDone u c (.error .dataEncoding))
  | .setFill u c => (s.insertCache u c, .setDone u c (.ok ()))
  | done => (s, done)

/-- The steps of one call in a row; three are enough. -/
def drain (s : RedisUserConfigStore Config) (ok : Bool) (call : Call Config) :
    RedisUserConfigStore Config × Call Config :=
  let (s₁, call₁) := advance codec s ok call
  let (s₂, call₂) := advance codec s₁ ok call₁
  advance codec s₂ ok call₂

/-- A `get_config` that nothing interrupts is the source's function. -/
theorem getConfig_eq_drain (s : RedisUserConfigStore Config) (ok : Bool) (u : User) :
    drain codec s ok (.getStart u) =
      ((getConfig codec s ok u).1, .getDone u (getConfig codec s ok u).2) := by
  by_cases hk : s.cache.containsKey lruCacheExpiryDuration s.now u.key = true
  · simp only [drain, advance, getConfig, hk, if_true]
    cases (s.cache.getMut lruCacheExpiryDuration s.now u.key).1 <;> rfl
  · simp only [drain, advance, getConfig, hk]
    cases hu : codec.encodeUser u with
    | none => simp [hu]
    | some key =>
      cases hr : decodeReply codec (s.redisGet ok key) with
      | error e => simp [hu, hr]
      | ok c => simp [hu, hr]

/-- A `set_config` that nothing interrupts is the source's function. -/
theorem setConfig_eq_drain (s : RedisUserConfigStore Config) (ok : Bool) (u : User) (c : Config) :
    drain codec s ok (.setStart u c) =
      ((setConfig codec s ok u c).1, .setDone u c (setConfig codec s ok u c).2) := by
  cases hu : codec.encodeUser u with
  | none => simp [drain, advance, setConfig, hu]
  | some key =>
    cases hc : codec.encodeConfig c with
    | none => simp [drain, advance, setConfig, hu, hc]
    | some encoded => cases ok <;> simp [drain, advance, setConfig, hu, hc]

end RedisUserConfigStore

/-! ### The encodings of one user and two configs -/

namespace Sample

def alice : User := User.new "alice"

def noHosts : UserConfig := ⟨⟨[], by decide⟩⟩

def oneHost : UserConfig := ⟨⟨[("h", ⟨⟨[], by decide⟩⟩)], by decide⟩⟩

/-- `rmp_serde::encode::to_vec(&alice)`. -/
def aliceKey : Bytes :=
  [0x92, 0xaa, 85, 115, 101, 114, 67, 111, 110, 102, 105, 103, 0xa5, 97, 108, 105, 99, 101]

/-- `rmp_serde::encode::to_vec(&noHosts)`. -/
def noHostsBytes : Bytes := [0x91, 0x80]

/-- `rmp_serde::encode::to_vec(&oneHost)`. -/
def oneHostBytes : Bytes := [0x91, 0x81, 0xa1, 0x68, 0x91, 0x80]

/-- `rmp_serde`, as far as the runs below use it. -/
def codec : Codec UserConfig where
  encodeUser u := if u = alice then some aliceKey else none
  encodeConfig c :=
    if c = noHosts then some noHostsBytes else if c = oneHost then some oneHostBytes else none
  decodeConfig b :=
    if b = noHostsBytes then some noHosts else if b = oneHostBytes then some oneHost else none
  encodeUser_inj := by
    intro u v k hu hv
    by_cases hua : u = alice
    · by_cases hva : v = alice
      · rw [hua, hva]
      · simp [hva] at hv
    · simp [hua] at hu
  decode_encode := by
    intro c b h
    by_cases hn : c = noHosts
    · obtain rfl : noHostsBytes = b := by simpa [hn] using h
      simp [hn]
    · by_cases ho : c = oneHost
      · obtain rfl : oneHostBytes = b := by simpa [ho, show oneHost ≠ noHosts by decide] using h
        simp [ho, show oneHostBytes ≠ noHostsBytes by decide]
      · simp [hn, ho] at h

theorem holds_oneHost {s : RedisUserConfigStore UserConfig}
    (h : s.redis aliceKey = some oneHostBytes) : s.Holds codec alice oneHost :=
  ⟨aliceKey, oneHostBytes, by decide, h, by decide⟩

/-- A Redis that holds `noHosts` for `alice`. -/
def redis : Bytes → Option Bytes := fun k => if k = aliceKey then some noHostsBytes else none

end Sample

end ContextForge
