import ContextForgeGateway.ConfigStore.Redis
import ContextForgeGateway.Lib.Runs
import Mathlib.Data.List.Induction

/-!
# How old a cached user config can be

Runs of whole `get_config` and `set_config` calls in which time passes, the cache drops entries,
and the control plane writes to Redis behind the store's back.

A cached config lives for `LRU_CACHE_EXPIRY_DURATION` after its last use, and every `get_config`
that finds it is a use, since it takes the entry with `get_mut`. So a config that is requested
often enough is never read from Redis again (`halfHourReads_stale`), and what bounds the age of
the answer is the longest gap between two requests: `getConfig_age`.
-/

namespace ContextForge

namespace RedisUserConfigStore

open Runs

/-- One thing that happens to a store. -/
inductive Op (Config : Type)
  | getConfig (ok : Bool) (u : User)
  | setConfig (ok : Bool) (u : User) (c : Config)
  | externalWrite (key : Bytes) (value : Option Bytes)
  | wait (d : ℕ)
  | evict (key : String)

variable {Config : Type} (codec : Codec Config)

/-- The store after it. -/
def act (s : RedisUserConfigStore Config) : Op Config → RedisUserConfigStore Config
  | .getConfig ok u => (s.getConfig codec ok u).1
  | .setConfig ok u c => (s.setConfig codec ok u c).1
  | .externalWrite key value => { s with redis := Function.update s.redis key value }
  | .wait d => { s with now := s.now + d }
  | .evict key => { s with cache := s.cache.evict key }

/-- The operation is a `get_config` or `set_config` of `u` that returns `Ok`. -/
def Requests (s : RedisUserConfigStore Config) (u : User) : Op Config → Prop
  | .getConfig ok v => v = u ∧ ∃ c, (s.getConfig codec ok v).2 = .ok c
  | .setConfig ok v c => v = u ∧ (s.setConfig codec ok v c).2 = .ok ()
  | _ => False

/-! ### What the two operations do -/

/-- A `get_config` takes the live entry, or fills the cache from Redis, or fails and changes
nothing. -/
theorem getConfig_cases (s : RedisUserConfigStore Config) (ok : Bool) (u : User) :
    (∃ e, s.liveEntry u = some e ∧ s.getConfig codec ok u = (s.insertCache u e.value, .ok e.value)) ∨
    (∃ c, s.Holds codec u c ∧ s.getConfig codec ok u = (s.insertCache u c, .ok c)) ∨
    (∃ e, s.getConfig codec ok u = (s, .error e)) := by
  cases hl : s.cache.live lruCacheExpiryDuration s.now u.key with
  | some e =>
    refine Or.inl ⟨e, hl, ?_⟩
    simp [getConfig, TimeCache.containsKey, TimeCache.getMut, hl, insertCache]
  | none =>
    right
    cases hu : codec.encodeUser u with
    | none => exact Or.inr ⟨.dataEncoding, by simp [getConfig, TimeCache.containsKey, hl, hu]⟩
    | some key =>
      cases hr : decodeReply codec (s.redisGet ok key) with
      | error e => exact Or.inr ⟨e, by simp [getConfig, TimeCache.containsKey, hl, hu, hr]⟩
      | ok c =>
        refine Or.inl ⟨c, ?_, by simp [getConfig, TimeCache.containsKey, hl, hu, hr]⟩
        cases ok with
        | false => cases hr
        | true =>
          cases hb : s.redis key with
          | none => simp [decodeReply, redisGet, hb] at hr
          | some b =>
            cases hc : codec.decodeConfig b with
            | none => simp [decodeReply, redisGet, hb, hc] at hr
            | some d =>
              obtain rfl : d = c := by simpa [decodeReply, redisGet, hb, hc] using hr
              exact ⟨key, b, hu, hb, hc⟩

/-- A `set_config` writes Redis and the cache, or fails and changes nothing. -/
theorem setConfig_cases (s : RedisUserConfigStore Config) (ok : Bool) (u : User) (c : Config) :
    (∃ s' : RedisUserConfigStore Config, s'.Holds codec u c ∧ s'.cache = s.cache ∧ s'.now = s.now ∧
      s.setConfig codec ok u c = (s'.insertCache u c, .ok ())) ∨
    (∃ e, s.setConfig codec ok u c = (s, .error e)) := by
  cases hu : codec.encodeUser u with
  | none => exact Or.inr ⟨.dataEncoding, by simp [setConfig, hu]⟩
  | some key =>
    cases hc : codec.encodeConfig c with
    | none => exact Or.inr ⟨.dataEncoding, by simp [setConfig, hu, hc]⟩
    | some b =>
      cases ok with
      | false => exact Or.inr ⟨.cantWriteData, by simp [setConfig, hu, hc]⟩
      | true =>
        refine Or.inl ⟨s.redisSet key b, ?_, rfl, rfl, by simp [setConfig, hu, hc]⟩
        exact ⟨key, b, hu, by simp [redisSet], codec.decode_encode hc⟩

/-! ### The history of a cache entry -/

variable (s₀ : RedisUserConfigStore Config) (ops : List (Op Config))

/-- At some moment of the run, at time `t`, Redis held `c` for `u`. -/
def HeldAt (u : User) (c : Config) (t : ℕ) : Prop :=
  ∃ ops', ops' <+: ops ∧ (run (act codec) s₀ ops').now = t ∧
    (run (act codec) s₀ ops').Holds codec u c

/-- At time `t` of the run, a `get_config` or `set_config` of `u` returned `Ok`. -/
def RequestedAt (u : User) (t : ℕ) : Prop :=
  ∃ ops' op, ops' ++ [op] <+: ops ∧ (run (act codec) s₀ ops').now = t ∧
    Requests codec (run (act codec) s₀ ops') u op

/-- From `t` up to `t'`, no interval as long as the expiry duration passes without a request. -/
def KeptAlive (u : User) (t t' : ℕ) : Prop :=
  ∀ x, t ≤ x → x < t' → ∃ a, x < a ∧ a ≤ x + lruCacheExpiryDuration ∧
    RequestedAt codec s₀ ops u a

/-- Redis held `c` for `u` at some time, and `u` has been requested often enough up to time `t` to
keep it in the cache. -/
def Remembered (u : User) (c : Config) (t : ℕ) : Prop :=
  ∃ t₀ ≤ t, HeldAt codec s₀ ops u c t₀ ∧ KeptAlive codec s₀ ops u t₀ t

variable {codec s₀ ops}

theorem HeldAt.mono {ops' : List (Op Config)} (hp : ops <+: ops') {u : User} {c : Config} {t : ℕ}
    (h : HeldAt codec s₀ ops u c t) : HeldAt codec s₀ ops' u c t := by
  obtain ⟨l, hl, ht, hc⟩ := h
  exact ⟨l, hl.trans hp, ht, hc⟩

theorem RequestedAt.mono {ops' : List (Op Config)} (hp : ops <+: ops') {u : User} {t : ℕ}
    (h : RequestedAt codec s₀ ops u t) : RequestedAt codec s₀ ops' u t := by
  obtain ⟨l, op, hl, ht, hr⟩ := h
  exact ⟨l, op, hl.trans hp, ht, hr⟩

theorem Remembered.mono {ops' : List (Op Config)} (hp : ops <+: ops') {u : User} {c : Config}
    {t : ℕ} (h : Remembered codec s₀ ops u c t) : Remembered codec s₀ ops' u c t := by
  obtain ⟨t₀, ht, hheld, hkept⟩ := h
  refine ⟨t₀, ht, hheld.mono hp, fun x hx hxt => ?_⟩
  obtain ⟨a, ha, hax, hr⟩ := hkept x hx hxt
  exact ⟨a, ha, hax, hr.mono hp⟩

/-- What Redis holds now is remembered now. -/
theorem remembered_of_holds {u : User} {c : Config}
    (h : (run (act codec) s₀ ops).Holds codec u c) :
    Remembered codec s₀ ops u c (run (act codec) s₀ ops).now :=
  ⟨_, Nat.le_refl _, ⟨ops, List.prefix_rfl, rfl, h⟩, fun x hx hxt => absurd hxt (by omega)⟩

/-- A request before the entry expires keeps it remembered. -/
theorem Remembered.request {u : User} {c : Config} {t : ℕ} (h : Remembered codec s₀ ops u c t)
    {t' : ℕ} (ht : t ≤ t') (hlive : t' < t + lruCacheExpiryDuration)
    (hr : RequestedAt codec s₀ ops u t') : Remembered codec s₀ ops u c t' := by
  obtain ⟨t₀, ht₀, hheld, hkept⟩ := h
  refine ⟨t₀, by omega, hheld, fun x hx hxt => ?_⟩
  by_cases hxt₀ : x < t
  · exact hkept x hx hxt₀
  · exact ⟨t', hxt, by omega, hr⟩

variable (codec s₀ ops)

/-- The invariant: every cache entry is remembered since it was last touched. -/
def Traced : Prop :=
  ∀ (u : User) (e : CacheEntry Config), (run (act codec) s₀ ops).cache u.key = some e →
    e.touched ≤ (run (act codec) s₀ ops).now ∧ Remembered codec s₀ ops u e.value e.touched

variable {codec s₀ ops}

/-- An operation that leaves the cache alone. -/
theorem Traced.of_cache_eq (h : Traced codec s₀ ops) {op : Op Config}
    (hc : ∀ k e, (act codec (run (act codec) s₀ ops) op).cache k = some e →
      (run (act codec) s₀ ops).cache k = some e)
    (hnow : (run (act codec) s₀ ops).now ≤ (act codec (run (act codec) s₀ ops) op).now) :
    Traced codec s₀ (ops ++ [op]) := by
  intro u e he
  rw [run_concat] at he ⊢
  obtain ⟨ht, hr⟩ := h u e (hc _ _ he)
  exact ⟨Nat.le_trans ht hnow, hr.mono (List.prefix_append ops [op])⟩

/-- An operation that inserts, without time passing, a config that is remembered now. -/
theorem Traced.of_insert (h : Traced codec s₀ ops) {op : Op Config} {v : User} {c : Config}
    (hc : (act codec (run (act codec) s₀ ops) op).cache =
      (run (act codec) s₀ ops).cache.insert (run (act codec) s₀ ops).now v.key c)
    (hnow : (act codec (run (act codec) s₀ ops) op).now = (run (act codec) s₀ ops).now)
    (hr : Remembered codec s₀ (ops ++ [op]) v c (run (act codec) s₀ ops).now) :
    Traced codec s₀ (ops ++ [op]) := by
  intro u e he
  rw [run_concat] at he ⊢
  rw [hc] at he
  rw [hnow]
  by_cases huv : u = v
  · subst huv
    rw [TimeCache.insert_self] at he
    cases he
    exact ⟨Nat.le_refl _, hr⟩
  · rw [TimeCache.insert_of_ne fun hk => huv (User.ext_key hk)] at he
    obtain ⟨ht, hr'⟩ := h u e he
    exact ⟨ht, hr'.mono (List.prefix_append ops [op])⟩

theorem Traced.getConfig (h : Traced codec s₀ ops) (ok : Bool) (u : User) :
    Traced codec s₀ (ops ++ [.getConfig ok u]) := by
  rcases getConfig_cases codec (run (act codec) s₀ ops) ok u with
    ⟨e, hl, hg⟩ | ⟨c, hc, hg⟩ | ⟨e, hg⟩
  · obtain ⟨he, hlive⟩ := TimeCache.live_eq_some.1 hl
    obtain ⟨ht, hr⟩ := h u e he
    refine h.of_insert (by simp only [act, hg]; rfl) (by simp only [act, hg]; rfl) ?_
    refine (hr.mono (List.prefix_append ops _)).request ht hlive ?_
    exact ⟨ops, _, List.prefix_rfl, rfl, rfl, _, by rw [hg]⟩
  · refine h.of_insert (by simp only [act, hg]; rfl) (by simp only [act, hg]; rfl) ?_
    exact (remembered_of_holds hc).mono (List.prefix_append ops _)
  · exact h.of_cache_eq (by simp only [act, hg]; exact fun _ _ he => he) (by simp [act, hg])

theorem Traced.setConfig (h : Traced codec s₀ ops) (ok : Bool) (u : User) (c : Config) :
    Traced codec s₀ (ops ++ [.setConfig ok u c]) := by
  rcases setConfig_cases codec (run (act codec) s₀ ops) ok u c with
    ⟨s', hc, hcache, hnow, hs⟩ | ⟨e, hs⟩
  · have hrun : run (act codec) s₀ (ops ++ [.setConfig ok u c]) = s'.insertCache u c := by
      rw [run_concat]
      simp only [act, hs]
    have hins : (act codec (run (act codec) s₀ ops) (.setConfig ok u c)).cache =
        (run (act codec) s₀ ops).cache.insert (run (act codec) s₀ ops).now u.key c := by
      simp only [act, hs, insertCache, hcache, hnow]
    refine h.of_insert hins (by simp only [act, hs, insertCache, hnow]) ?_
    -- the config is what Redis holds after the operation
    have hr : Remembered codec s₀ (ops ++ [.setConfig ok u c]) u c _ :=
      remembered_of_holds (hrun ▸ hc)
    rwa [hrun, show (s'.insertCache u c).now = (run (act codec) s₀ ops).now from hnow] at hr
  · exact h.of_cache_eq (by simp only [act, hs]; exact fun _ _ he => he) (by simp [act, hs])

theorem traced_run (redis : Bytes → Option Bytes) (ops : List (Op Config)) :
    Traced codec (new redis) ops := by
  induction ops using List.reverseRecOn with
  | nil =>
    intro u e he
    simp [new, TimeCache.empty] at he
  | append_singleton ops op ih =>
    cases op with
    | getConfig ok u => exact ih.getConfig ok u
    | setConfig ok u c => exact ih.setConfig ok u c
    | externalWrite key value => exact ih.of_cache_eq (fun _ _ he => he) (Nat.le_refl _)
    | wait d => exact ih.of_cache_eq (fun _ _ he => he) (Nat.le_add_right _ _)
    | evict key =>
      refine ih.of_cache_eq (fun k e he => ?_) (Nat.le_refl _)
      by_cases hk : k = key
      · simp [act, hk] at he
      · simpa [act, TimeCache.evict_of_ne hk] using he

/-- **The age of an answer.** A `get_config(u)` that returns `Ok(c)` at time `T` returns what Redis
held for `u` at some time `t₀ ≤ T`, and from `t₀` on every interval as long as the expiry duration
that ends by `T` has a request of `u` in it. -/
theorem getConfig_age (codec : Codec Config) (redis : Bytes → Option Bytes)
    (ops : List (Op Config)) (ok : Bool) (u : User) (c : Config)
    (h : ((run (act codec) (new redis) ops).getConfig codec ok u).2 = .ok c) :
    ∃ t₀ ≤ (run (act codec) (new redis) ops).now, HeldAt codec (new redis) ops u c t₀ ∧
      ∀ x, t₀ ≤ x → x + lruCacheExpiryDuration ≤ (run (act codec) (new redis) ops).now →
        ∃ a, x < a ∧ a ≤ x + lruCacheExpiryDuration ∧ RequestedAt codec (new redis) ops u a := by
  rcases getConfig_cases codec (run (act codec) (new redis) ops) ok u with
    ⟨e, hl, hg⟩ | ⟨d, hd, hg⟩ | ⟨e, hg⟩
  · rw [hg] at h
    obtain rfl : e.value = c := Except.ok.inj h
    obtain ⟨he, hlive⟩ := TimeCache.live_eq_some.1 hl
    obtain ⟨ht, t₀, ht₀, hheld, hkept⟩ := traced_run redis ops u e he
    refine ⟨t₀, Nat.le_trans ht₀ ht, hheld, fun x hx hxT => hkept x hx ?_⟩
    omega
  · rw [hg] at h
    obtain rfl : d = c := Except.ok.inj h
    refine ⟨_, Nat.le_refl _, ⟨ops, List.prefix_rfl, rfl, hd⟩, fun x hx hxT => ?_⟩
    have : 0 < lruCacheExpiryDuration := by simp [lruCacheExpiryDuration]
    omega
  · rw [hg] at h
    cases h

/-! ### A revoked config that is read every half hour -/

/-- Half an hour, in nanoseconds. -/
def halfHour : ℕ := 1800 * 1000000000

/-- `alice` is cached, then her config is replaced in Redis; she is requested every half hour. -/
def halfHourReads : List (Op UserConfig) :=
  [.getConfig true Sample.alice, .externalWrite Sample.aliceKey (some Sample.oneHostBytes),
    .wait halfHour, .getConfig true Sample.alice, .wait halfHour, .getConfig true Sample.alice,
    .wait halfHour]

theorem getConfig_age_halfHourReads :
    ∃ t₀ ≤ 3 * halfHour, HeldAt Sample.codec (new Sample.redis) halfHourReads Sample.alice
        Sample.noHosts t₀ ∧
      ∀ x, t₀ ≤ x → x + lruCacheExpiryDuration ≤ 3 * halfHour →
        ∃ a, x < a ∧ a ≤ x + lruCacheExpiryDuration ∧
          RequestedAt Sample.codec (new Sample.redis) halfHourReads Sample.alice a :=
  getConfig_age Sample.codec Sample.redis halfHourReads true Sample.alice Sample.noHosts rfl

/-- After ninety minutes `get_config` still returns the replaced config, which Redis has not held
at any time in the last hour. -/
theorem halfHourReads_stale :
    ((run (act Sample.codec) (new Sample.redis) halfHourReads).getConfig Sample.codec true
        Sample.alice).2 = .ok Sample.noHosts ∧
      (run (act Sample.codec) (new Sample.redis) halfHourReads).now = 3 * halfHour ∧
      ¬ ∃ t, 3 * halfHour ≤ t + lruCacheExpiryDuration ∧
        HeldAt Sample.codec (new Sample.redis) halfHourReads Sample.alice Sample.noHosts t := by
  refine ⟨rfl, rfl, ?_⟩
  rintro ⟨t, ht, ops', hops, rfl, hc⟩
  have hnot : (run (act Sample.codec) (new Sample.redis) ops').redis Sample.aliceKey ≠
      some Sample.oneHostBytes :=
    fun h => absurd (hc.unique (Sample.holds_oneHost h)) (by decide)
  have hlen : ops'.length ≤ 7 := hops.length_le
  obtain hops := List.prefix_iff_eq_take.1 hops
  -- the first two prefixes are more than an hour old, after the others Redis holds `oneHost`
  generalize ops'.length = n at hlen hops
  subst hops
  match n with
  | 0 | 1 =>
    have hnow : 3 * halfHour ≤ 0 + lruCacheExpiryDuration := ht
    simp [halfHour, lruCacheExpiryDuration] at hnow
  | 2 | 3 | 4 | 5 | 6 | 7 => exact hnot (by decide)
  | n + 8 => omega

end RedisUserConfigStore

end ContextForge
