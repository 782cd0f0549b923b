import ContextForgeGateway.ConfigStore.Redis
import ContextForgeGateway.Lib.Runs

/-!
# Concurrent calls on one user-config store

Any number of `get_config` and `set_config` calls take their atomic steps in any order; between
them time passes and the cache may drop entries. `coherent_of_fresh` is what holds of every such
run: if each cache insert writes what Redis holds, or some `set_config` of that user is about to
insert what Redis holds, then the cache agrees with Redis whenever no call is in flight, and a
`get_config` that starts after the last `set_config` of its user reads what that call wrote.

Nothing in the store makes the condition true. `get_config` may fill the cache with a value that a
`set_config` has replaced in the meantime (`fillAfterSet_not_coherent`).
-/

namespace ContextForge

namespace RedisUserConfigStore

open Runs

/-- The calls on a store, by number, and the store. -/
structure System (Config : Type) where
  store : RedisUserConfigStore Config
  calls : ℕ → Option (Call Config)

/-- What can happen next. -/
inductive Event (Config : Type)
  | getConfig (i : ℕ) (u : User)
  | setConfig (i : ℕ) (u : User) (c : Config)
  | step (i : ℕ) (ok : Bool)
  | wait (d : ℕ)
  | evict (key : String)

variable {Config : Type}

/-- A new store on a Redis that holds `redis`, before any call. -/
def System.new (redis : Bytes → Option Bytes) : System Config :=
  ⟨RedisUserConfigStore.new redis, fun _ => none⟩

/-- Begin the call number `i`, unless there is one. -/
def System.begin (σ : System Config) (i : ℕ) (call : Call Config) : System Config :=
  match σ.calls i with
  | none => { σ with calls := Function.update σ.calls i (some call) }
  | some _ => σ

variable (codec : Codec Config)

/-- The next state. -/
def next (σ : System Config) : Event Config → System Config
  | .getConfig i u => σ.begin i (.getStart u)
  | .setConfig i u c => σ.begin i (.setStart u c)
  | .step i ok =>
    match σ.calls i with
    | none => σ
    | some call =>
      let (store, call') := advance codec σ.store ok call
      ⟨store, Function.update σ.calls i (some call')⟩
  | .wait d => { σ with store := { σ.store with now := σ.store.now + d } }
  | .evict key => { σ with store := { σ.store with cache := σ.store.cache.evict key } }

/-! ### What a call does to the store -/

/-- The insert into the cache that is the next step of a call. -/
def Call.inserts : Call Config → Option (User × Config)
  | .getFill u c => some (u, c)
  | .setFill u c => some (u, c)
  | _ => none

/-- The user whose config a call still has to write, in Redis or in the cache. -/
def Call.sets : Call Config → Option User
  | .setStart u _ => some u
  | .setFill u _ => some u
  | _ => none

/-- `Holds` reads nothing but Redis. -/
theorem Holds.congr {codec : Codec Config} {s s' : RedisUserConfigStore Config} {u : User}
    {c : Config} (h : s'.redis = s.redis) : s'.Holds codec u c ↔ s.Holds codec u c := by
  simp only [Holds, h]

theorem holds_redisSet {s : RedisUserConfigStore Config} {u : User} {c : Config} {k b : Bytes}
    (hk : codec.encodeUser u = some k) (hb : codec.encodeConfig c = some b) :
    (s.redisSet k b).Holds codec u c :=
  ⟨k, b, hk, by simp [redisSet], codec.decode_encode hb⟩

theorem holds_redisSet_of_ne {s : RedisUserConfigStore Config} {u v : User} {c : Config}
    {k b : Bytes} (hk : codec.encodeUser u = some k) (hv : v ≠ u) :
    (s.redisSet k b).Holds codec v c ↔ s.Holds codec v c := by
  have hne : ∀ k', codec.encodeUser v = some k' → k' ≠ k := by
    rintro k' hk' rfl
    exact hv (codec.encodeUser_inj hk' hk)
  constructor
  · rintro ⟨k', b', hk', hb', hc⟩
    exact ⟨k', b', hk', by simpa [redisSet, hne k' hk'] using hb', hc⟩
  · rintro ⟨k', b', hk', hb', hc⟩
    exact ⟨k', b', hk', by simpa [redisSet, hne k' hk'] using hb', hc⟩

/-- A step that neither writes Redis nor puts a new value in the cache. -/
structure Quiet (s s' : RedisUserConfigStore Config) : Prop where
  redis : s'.redis = s.redis
  cache : ∀ key e, s'.cache key = some e → ∃ e', s.cache key = some e' ∧ e'.value = e.value

theorem Quiet.refl (s : RedisUserConfigStore Config) : Quiet s s := ⟨rfl, fun _ e h => ⟨e, h, rfl⟩⟩

theorem quiet_getMut (s : RedisUserConfigStore Config) (u : User) :
    Quiet s { s with cache := (s.cache.getMut lruCacheExpiryDuration s.now u.key).2 } := by
  refine ⟨rfl, fun key e h => ?_⟩
  rcases TimeCache.getMut_entry h with h | ⟨e', rfl, hl, rfl⟩
  · exact ⟨e, h, rfl⟩
  · exact ⟨e', (TimeCache.live_eq_some.1 hl).1, rfl⟩

/-- What one step of a call can do: nothing that matters, one `SET`, or one insert. -/
theorem advance_cases (s : RedisUserConfigStore Config) (ok : Bool) (call : Call Config) :
    (Quiet s (advance codec s ok call).1 ∧ call.inserts = none ∧
      ∀ u, (advance codec s ok call).2.sets = some u → call.sets = some u) ∨
    (∃ u c k b, call = .setStart u c ∧ codec.encodeUser u = some k ∧
      codec.encodeConfig c = some b ∧ advance codec s ok call = (s.redisSet k b, .setFill u c)) ∨
    (∃ u c, call.inserts = some (u, c) ∧ (advance codec s ok call).1 = s.insertCache u c ∧
      (advance codec s ok call).2.sets = none) := by
  cases call with
  | getStart u =>
    refine Or.inl ⟨Quiet.refl s, rfl, fun v h => ?_⟩
    by_cases hk : s.cache.containsKey lruCacheExpiryDuration s.now u.key = true
    · simp [advance, hk, Call.sets] at h
    · simp [advance, hk, Call.sets] at h
  | getHit u =>
    have hq := quiet_getMut s u
    refine Or.inl ?_
    cases hg : (s.cache.getMut lruCacheExpiryDuration s.now u.key).1 with
    | none => simpa [advance, hg, Call.sets, Call.inserts] using hq
    | some c => simpa [advance, hg, Call.sets, Call.inserts] using hq
  | getMiss u =>
    have hq := Quiet.refl s
    refine Or.inl ?_
    cases hu : codec.encodeUser u with
    | none => simpa [advance, hu, Call.sets, Call.inserts] using hq
    | some key =>
      cases hr : decodeReply codec (s.redisGet ok key) with
      | error e => simpa [advance, hu, hr, Call.sets, Call.inserts] using hq
      | ok c => simpa [advance, hu, hr, Call.sets, Call.inserts] using hq
  | getFill u c => exact Or.inr (Or.inr ⟨u, c, rfl, rfl, rfl⟩)
  | setStart u c =>
    have hq := Quiet.refl s
    cases hu : codec.encodeUser u with
    | none => exact Or.inl (by simpa [advance, hu, Call.sets, Call.inserts] using hq)
    | some key =>
      cases hc : codec.encodeConfig c with
      | none => exact Or.inl (by simpa [advance, hu, hc, Call.sets, Call.inserts] using hq)
      | some encoded =>
        cases ok with
        | false => exact Or.inl (by simpa [advance, hu, hc, Call.sets, Call.inserts] using hq)
        | true => exact Or.inr (Or.inl ⟨u, c, key, encoded, rfl, hu, hc, by simp [advance, hu, hc]⟩)
  | setFill u c => exact Or.inr (Or.inr ⟨u, c, rfl, rfl, rfl⟩)
  | getDone u r => exact Or.inl ⟨Quiet.refl s, rfl, fun v h => h⟩
  | setDone u c r => exact Or.inl ⟨Quiet.refl s, rfl, fun v h => h⟩

/-! ### The race that leaves a stale entry -/

/-- A `set_config(u)` other than call `i` has done its `SET`, but not its insert, and Redis holds
what it will insert. -/
def Repaired (σ : System Config) (i : ℕ) (u : User) : Prop :=
  ∃ j c, j ≠ i ∧ σ.calls j = some (.setFill u c) ∧ σ.store.Holds codec u c

/-- An insert of the step, if it has one, writes what Redis holds, or will be repaired. -/
def Fresh (σ : System Config) : Event Config → Prop
  | .step i _ => ∀ call u c, σ.calls i = some call → call.inserts = some (u, c) →
      σ.store.Holds codec u c ∨ Repaired codec σ i u
  | _ => True

/-- No call is in flight. -/
def Quiescent (σ : System Config) : Prop :=
  ∀ i call, σ.calls i = some call → (∃ u r, call = .getDone u r) ∨ ∃ u c r, call = .setDone u c r

/-- Every live cache entry is what Redis holds for its user. -/
def Coherent (σ : System Config) : Prop :=
  ∀ u e, σ.store.liveEntry u = some e → σ.store.Holds codec u e.value

/-- The invariant: an entry is what Redis holds, or a `set_config` is about to replace it by what
Redis holds. -/
def Tracks (σ : System Config) : Prop :=
  ∀ u e, σ.store.cache u.key = some e → σ.store.Holds codec u e.value ∨
    ∃ j c, σ.calls j = some (.setFill u c) ∧ σ.store.Holds codec u c

theorem tracks_new (redis : Bytes → Option Bytes) : Tracks codec (System.new redis) := by
  intro u e h
  simp [System.new, RedisUserConfigStore.new, TimeCache.empty] at h

theorem Tracks.begin {codec : Codec Config} {σ : System Config} (h : Tracks codec σ) (i : ℕ)
    (call : Call Config) : Tracks codec (σ.begin i call) := by
  unfold System.begin
  cases hi : σ.calls i with
  | some call' => exact h
  | none =>
    intro u e he
    rcases h u e he with hu | ⟨j, c, hj, hc⟩
    · exact Or.inl hu
    · have hne : j ≠ i := by
        rintro rfl
        rw [hi] at hj
        cases hj
      exact Or.inr ⟨j, c, by simpa [hne] using hj, hc⟩

theorem Tracks.step {codec : Codec Config} {σ : System Config} (h : Tracks codec σ) (i : ℕ)
    (ok : Bool) (hf : Fresh codec σ (.step i ok)) : Tracks codec (next codec σ (.step i ok)) := by
  cases hi : σ.calls i with
  | none => simpa [next, hi] using h
  | some call =>
    simp only [next, hi]
    intro v e he
    rcases advance_cases codec σ.store ok call with
      ⟨hq, hins, -⟩ | ⟨u, c, k, b, rfl, hk, hb, hadv⟩ | ⟨u, c, hins, hadv, -⟩
    · -- the same Redis and the same values; a pending insert is still pending
      obtain ⟨e', he', hv⟩ := hq.cache v.key e he
      rcases h v e' he' with hu | ⟨j, c, hj, hc⟩
      · exact Or.inl ((Holds.congr hq.redis).2 (hv ▸ hu))
      · have hne : j ≠ i := by
          rintro rfl
          rw [hi] at hj
          cases hj
          cases hins
        exact Or.inr ⟨j, c, by simpa [hne] using hj, (Holds.congr hq.redis).2 hc⟩
    · -- a `SET` leaves its own insert pending
      rw [hadv] at he ⊢
      by_cases hvu : v = u
      · subst hvu
        exact Or.inr ⟨i, c, by simp, holds_redisSet codec hk hb⟩
      · rcases h v e he with hu | ⟨j, c', hj, hc⟩
        · exact Or.inl ((holds_redisSet_of_ne codec hk hvu).2 hu)
        · have hne : j ≠ i := by
            rintro rfl
            rw [hi] at hj
            cases hj
          exact Or.inr ⟨j, c', by simpa [hne] using hj, (holds_redisSet_of_ne codec hk hvu).2 hc⟩
    · -- an insert is where `Fresh` is needed
      rw [hadv] at he ⊢
      by_cases hvu : v = u
      · subst hvu
        rcases hf call v c hi hins with hc | ⟨j, c', hne, hj, hc⟩
        · obtain rfl : (⟨c, σ.store.now⟩ : CacheEntry Config) = e := by
            simpa [insertCache] using he
          exact Or.inl hc
        · exact Or.inr ⟨j, c', by simpa [hne] using hj, hc⟩
      · have hkey : v.key ≠ u.key := fun hk => hvu (User.ext_key hk)
        rcases h v e (by simpa [insertCache, TimeCache.insert_of_ne hkey] using he) with
          hu | ⟨j, c', hj, hc⟩
        · exact Or.inl hu
        · have hne : j ≠ i := by
            rintro rfl
            rw [hi] at hj
            cases hj
            cases hins
            exact hvu rfl
          exact Or.inr ⟨j, c', by simpa [hne] using hj, hc⟩

theorem Tracks.next {codec : Codec Config} {σ : System Config} (h : Tracks codec σ)
    (e : Event Config) (hf : Fresh codec σ e) : Tracks codec (next codec σ e) := by
  cases e with
  | getConfig i u => exact h.begin i _
  | setConfig i u c => exact h.begin i _
  | step i ok => exact h.step i ok hf
  | wait d => exact h
  | evict key =>
    intro u e he
    by_cases hk : u.key = key
    · simp [RedisUserConfigStore.next, hk] at he
    · exact h u e (by simpa [RedisUserConfigStore.next, TimeCache.evict_of_ne hk] using he)

/-- An insert that is not `Fresh` breaks the invariant: `Fresh` asks for no more than it needs. -/
theorem fresh_of_tracks_next {codec : Codec Config} {σ : System Config} {e : Event Config}
    (h : Tracks codec (RedisUserConfigStore.next codec σ e)) : Fresh codec σ e := by
  cases e with
  | step i ok =>
    intro call u c hi hins
    have hnext : RedisUserConfigStore.next codec σ (.step i ok) =
        ⟨(advance codec σ.store ok call).1,
          Function.update σ.calls i (some (advance codec σ.store ok call).2)⟩ := by
      simp [RedisUserConfigStore.next, hi]
    have hadv : (advance codec σ.store ok call).1 = σ.store.insertCache u c ∧
        (advance codec σ.store ok call).2.sets = none := by
      cases call <;> cases hins <;> exact ⟨rfl, rfl⟩
    rw [hnext, hadv.1] at h
    rcases h u ⟨c, σ.store.now⟩ (by simp [insertCache]) with hc | ⟨j, c', hj, hc⟩
    · exact Or.inl hc
    · have hne : j ≠ i := by
        rintro rfl
        have hd : (advance codec σ.store ok call).2 = .setFill u c' := by simpa using hj
        rw [hd] at hadv
        cases hadv.2
      exact Or.inr ⟨j, c', hne, by simpa [hne] using hj, hc⟩
  | getConfig i u => trivial
  | setConfig i u c => trivial
  | wait d => trivial
  | evict key => trivial

/-- At rest, the invariant is coherence. -/
theorem Tracks.coherent {codec : Codec Config} {σ : System Config} (h : Tracks codec σ)
    (hq : Quiescent σ) : Coherent codec σ := by
  intro u e he
  rcases h u e (TimeCache.live_eq_some.1 he).1 with hu | ⟨j, c, hj, -⟩
  · exact hu
  · rcases hq j _ hj with ⟨v, r, hd⟩ | ⟨v, c', r, hd⟩ <;> cases hd

/-! ### Reading what was written last -/

/-- Redis and the cache hold `c` for `u`, and no `set_config(u)` is in flight. -/
structure Settled (u : User) (c : Config) (σ : System Config) : Prop where
  noSet : ∀ j call, σ.calls j = some call → call.sets ≠ some u
  holds : σ.store.Holds codec u c
  entry : ∀ e, σ.store.cache u.key = some e → e.value = c

/-- The user for whom an event begins a `set_config`. -/
def Event.sets : Event Config → Option User
  | .setConfig _ u _ => some u
  | _ => none

theorem Settled.begin {codec : Codec Config} {σ : System Config} {u : User} {c : Config}
    (h : Settled codec u c σ) (i : ℕ) {call : Call Config} (hc : call.sets ≠ some u) :
    Settled codec u c (σ.begin i call) := by
  unfold System.begin
  cases hi : σ.calls i with
  | some call' => exact h
  | none =>
    refine ⟨fun j call' hj => ?_, h.holds, h.entry⟩
    by_cases hji : j = i
    · subst hji
      obtain rfl : call = call' := by simpa using hj
      exact hc
    · exact h.noSet j call' (by simpa [hji] using hj)

theorem Settled.step {codec : Codec Config} {σ : System Config} {u : User} {c : Config}
    (h : Settled codec u c σ) (i : ℕ) (ok : Bool) (hf : Fresh codec σ (.step i ok)) :
    Settled codec u c (RedisUserConfigStore.next codec σ (.step i ok)) := by
  cases hi : σ.calls i with
  | none => simpa [RedisUserConfigStore.next, hi] using h
  | some call =>
    simp only [RedisUserConfigStore.next, hi]
    have hnot : call.sets ≠ some u := h.noSet i call hi
    -- whatever the step does, the other calls stay as they are
    have hothers : (advance codec σ.store ok call).2.sets ≠ some u → ∀ j call',
        Function.update σ.calls i (some (advance codec σ.store ok call).2) j = some call' →
        call'.sets ≠ some u := by
      intro hnew j call' hj
      by_cases hji : j = i
      · subst hji
        obtain rfl : (advance codec σ.store ok call).2 = call' := by simpa using hj
        exact hnew
      · exact h.noSet j call' (by simpa [hji] using hj)
    rcases advance_cases codec σ.store ok call with
      ⟨hq, -, hsets⟩ | ⟨v, d, k, b, rfl, hk, hb, hadv⟩ | ⟨v, d, hins, hadv, hsets⟩
    · refine ⟨hothers fun hu => hnot (hsets u hu), (Holds.congr hq.redis).2 h.holds, fun e he => ?_⟩
      obtain ⟨e', he', hv⟩ := hq.cache u.key e he
      exact hv ▸ h.entry e' he'
    · have hvu : u ≠ v := by
        rintro rfl
        exact hnot rfl
      refine ⟨hothers ?_, ?_, fun e he => h.entry e ?_⟩
      · rw [hadv]
        simpa [Call.sets] using hvu.symm
      · rw [hadv]
        exact (holds_redisSet_of_ne codec hk hvu).2 h.holds
      · rwa [hadv] at he
    · refine ⟨hothers (by simp [hsets]), by rw [hadv]; exact h.holds, fun e he => ?_⟩
      rw [hadv] at he
      by_cases huv : u = v
      · subst huv
        obtain rfl : (⟨d, σ.store.now⟩ : CacheEntry Config) = e := by
          simpa [insertCache] using he
        -- no `set_config(u)` is in flight, so what is inserted is what Redis holds
        rcases hf call u d hi hins with hd | ⟨j, c', -, hj, -⟩
        · exact hd.unique h.holds
        · exact absurd rfl (h.noSet j _ hj)
      · have hkey : u.key ≠ v.key := fun hk => huv (User.ext_key hk)
        exact h.entry e (by simpa [insertCache, TimeCache.insert_of_ne hkey] using he)

theorem Settled.next {codec : Codec Config} {σ : System Config} {u : User} {c : Config}
    (h : Settled codec u c σ) (e : Event Config) (hf : Fresh codec σ e) (he : e.sets ≠ some u) :
    Settled codec u c (next codec σ e) := by
  cases e with
  | getConfig i v => exact h.begin i (by simp [Call.sets])
  | setConfig i v d => exact h.begin i he
  | step i ok => exact h.step i ok hf
  | wait d => exact ⟨h.noSet, h.holds, h.entry⟩
  | evict key =>
    refine ⟨h.noSet, h.holds, fun e he => ?_⟩
    by_cases hk : u.key = key
    · simp [RedisUserConfigStore.next, hk] at he
    · exact h.entry e (by simpa [RedisUserConfigStore.next, TimeCache.evict_of_ne hk] using he)

/-- The call `i` inserts what it has written: if no other `set_config(u)` is in flight, Redis
still holds it, so the system is settled. -/
theorem settled_of_setFill {codec : Codec Config} {σ : System Config} {i : ℕ} {u : User}
    {c : Config} (ok : Bool) (hi : σ.calls i = some (.setFill u c))
    (hothers : ∀ k call, k ≠ i → σ.calls k = some call → call.sets ≠ some u)
    (hf : Fresh codec σ (.step i ok)) : Settled codec u c (next codec σ (.step i ok)) := by
  have hc : σ.store.Holds codec u c := by
    rcases hf _ u c hi rfl with hc | ⟨j, c', hne, hj, -⟩
    · exact hc
    · exact absurd rfl (hothers j _ hne hj)
  simp only [RedisUserConfigStore.next, hi, advance]
  refine ⟨fun j call hj => ?_, hc, fun e he => ?_⟩
  · by_cases hji : j = i
    · subst hji
      obtain rfl : (Call.setDone u c (.ok ()) : Call Config) = call := by simpa using hj
      simp [Call.sets]
    · exact hothers j call hji (by simpa [hji] using hj)
  · obtain rfl : (⟨c, σ.store.now⟩ : CacheEntry Config) = e := by simpa [insertCache] using he
    rfl

/-- A `get_config(u)` on its way to `Ok(c)`. -/
inductive Reads (u : User) (c : Config) : Call Config → Prop
  | start : Reads u c (.getStart u)
  | hit : Reads u c (.getHit u)
  | miss : Reads u c (.getMiss u)
  | fill : Reads u c (.getFill u c)
  | done : Reads u c (.getDone u (.ok c))

/-- What a `get_config` needs to return `Ok`: its `GET` succeeds, and the entry it has seen is
still there when it takes it. -/
def Answers (s : RedisUserConfigStore Config) (ok : Bool) : Call Config → Prop
  | .getMiss _ => ok = true
  | .getHit u => (s.liveEntry u).isSome
  | _ => True

/-- `Answers`, for the steps of call `j`. -/
def Answered (j : ℕ) (σ : System Config) : Event Config → Prop
  | .step i ok => i = j → ∀ call, σ.calls i = some call → Answers σ.store ok call
  | _ => True

theorem decodeReply_eq_ok {s : RedisUserConfigStore Config} {u : User} {c : Config} {k : Bytes}
    (hk : codec.encodeUser u = some k) (h : s.Holds codec u c) :
    decodeReply codec (s.redisGet true k) = .ok c := by
  obtain ⟨k', b, hk', hb, hc⟩ := h
  obtain rfl : k' = k := Option.some.inj (hk'.symm.trans hk)
  simp [decodeReply, redisGet, hb, hc]

/-- Over a store that holds `c` for `u`, a `get_config(u)` stays on its way to `Ok(c)`; only
without an answer does it return `NoDataForKey`. -/
theorem Reads.advance {codec : Codec Config} {s : RedisUserConfigStore Config} {u : User}
    {c : Config} (hs : s.Holds codec u c) (hentry : ∀ e, s.cache u.key = some e → e.value = c)
    (ok : Bool) {call : Call Config} (h : Reads u c call) :
    Reads u c (advance codec s ok call).2 ∨
      ((advance codec s ok call).2 = .getDone u (.error .noDataForKey) ∧ ¬ Answers s ok call) := by
  cases h with
  | start =>
    refine Or.inl ?_
    by_cases hk : s.cache.containsKey lruCacheExpiryDuration s.now u.key = true
    · simpa [RedisUserConfigStore.advance, hk] using Reads.hit
    · simpa [RedisUserConfigStore.advance, hk] using Reads.miss
  | hit =>
    cases hg : (s.cache.getMut lruCacheExpiryDuration s.now u.key).1 with
    | none =>
      refine Or.inr ⟨by simp [RedisUserConfigStore.advance, hg], fun ha => ?_⟩
      obtain ⟨e, he⟩ := Option.isSome_iff_exists.1 ha
      have := TimeCache.getMut_eq_some.2 ⟨e, he, rfl⟩
      rw [hg] at this
      cases this
    | some d =>
      obtain ⟨e, he, rfl⟩ := TimeCache.getMut_eq_some.1 hg
      have hd : e.value = c := hentry e (TimeCache.live_eq_some.1 he).1
      exact Or.inl (by simpa [RedisUserConfigStore.advance, hg, hd] using Reads.done)
  | miss =>
    obtain ⟨k, -, hk, -, -⟩ := id hs
    cases ok with
    | true =>
      have hr := decodeReply_eq_ok codec hk hs
      exact Or.inl (by simpa [RedisUserConfigStore.advance, hk, hr] using Reads.fill)
    | false =>
      refine Or.inr ⟨?_, by simp [Answers]⟩
      simp [RedisUserConfigStore.advance, hk, decodeReply, redisGet]
  | fill => exact Or.inl Reads.done
  | done => exact Or.inl Reads.done

theorem next_calls_step {σ : System Config} {j : ℕ} {call : Call Config}
    (h : σ.calls j = some call) (ok : Bool) :
    (next codec σ (.step j ok)).calls j = some (advance codec σ.store ok call).2 := by
  simp [next, h]

theorem begin_calls {σ : System Config} {j : ℕ} {call : Call Config} (h : σ.calls j = some call)
    (i : ℕ) (call' : Call Config) : (σ.begin i call').calls j = some call := by
  unfold System.begin
  cases hi : σ.calls i with
  | some call' => exact h
  | none =>
    have hne : j ≠ i := by
      rintro rfl
      rw [hi] at h
      cases h
    simpa [hne] using h

theorem begin_calls_self {σ : System Config} {i : ℕ} (h : σ.calls i = none) (call : Call Config) :
    (σ.begin i call).calls i = some call := by
  simp [System.begin, h]

/-- A call only moves when it takes a step. -/
theorem next_calls_of_ne {σ : System Config} {j : ℕ} {call : Call Config}
    (h : σ.calls j = some call) {e : Event Config} (he : ∀ ok, e ≠ .step j ok) :
    (next codec σ e).calls j = some call := by
  cases e with
  | getConfig i u => exact begin_calls h i _
  | setConfig i u c => exact begin_calls h i _
  | step i ok =>
    have hne : j ≠ i := by
      rintro rfl
      exact he ok rfl
    cases hi : σ.calls i <;> simp [next, hi, hne, h]
  | wait d => exact h
  | evict key => exact h

/-- Call `j` is on its way to `Ok(c)`, or has returned `NoDataForKey`. -/
def ReadsOrMisses (j : ℕ) (u : User) (c : Config) (σ : System Config) : Prop :=
  ∃ call, σ.calls j = some call ∧ (Reads u c call ∨ call = .getDone u (.error .noDataForKey))

theorem Settled.reads_next {codec : Codec Config} {σ : System Config} {u : User} {c : Config}
    (h : Settled codec u c σ) {j : ℕ} {call : Call Config} (hj : σ.calls j = some call)
    (hr : Reads u c call) (e : Event Config) :
    ∃ call', (RedisUserConfigStore.next codec σ e).calls j = some call' ∧
      (Reads u c call' ∨ (call' = .getDone u (.error .noDataForKey) ∧ ¬ Answered j σ e)) := by
  by_cases he : ∃ ok, e = .step j ok
  · obtain ⟨ok, rfl⟩ := he
    refine ⟨_, next_calls_step codec hj ok, ?_⟩
    rcases hr.advance h.holds h.entry ok with hr' | ⟨hd, hn⟩
    · exact Or.inl hr'
    · exact Or.inr ⟨hd, fun ha => hn (ha rfl call hj)⟩
  · exact ⟨call, next_calls_of_ne codec hj fun ok hok => he ⟨ok, hok⟩, Or.inl hr⟩

theorem Settled.readsOrMisses_next {codec : Codec Config} {σ : System Config} {u : User}
    {c : Config} (h : Settled codec u c σ) {j : ℕ} (hj : ReadsOrMisses j u c σ)
    (e : Event Config) : ReadsOrMisses j u c (RedisUserConfigStore.next codec σ e) := by
  obtain ⟨call, hcall, hr | rfl⟩ := hj
  · obtain ⟨call', hcall', hr'⟩ := h.reads_next hcall hr e
    exact ⟨call', hcall', hr'.imp_right And.left⟩
  · by_cases he : ∃ ok, e = .step j ok
    · obtain ⟨ok, rfl⟩ := he
      exact ⟨_, next_calls_step codec hcall ok, Or.inr rfl⟩
    · exact ⟨_, next_calls_of_ne codec hcall fun ok hok => he ⟨ok, hok⟩, Or.inr rfl⟩

/-! ### The run theorem -/

/-- After a `set_config(u, c)` that returned `Ok`, with no other `set_config(u)` in flight then or
begun later, a `get_config(u)` that starts reads `c`. It returns anything else only as the error
`NoDataForKey`, and only if its `GET` fails or the entry it has seen is gone when it takes it. -/
def ReadsLastWrite (σ₀ : System Config) (es : List (Event Config)) : Prop :=
  ∀ es₁ i ok es₂ j es₃ u c, es = es₁ ++ .step i ok :: (es₂ ++ .getConfig j u :: es₃) →
    -- the step in which call `i` returns `Ok`
    (run (next codec) σ₀ es₁).calls i = some (.setFill u c) →
    (∀ k call, k ≠ i → (run (next codec) σ₀ es₁).calls k = some call → call.sets ≠ some u) →
    (∀ e ∈ es₂ ++ es₃, e.sets ≠ some u) →
    (run (next codec) σ₀ (es₁ ++ .step i ok :: es₂)).calls j = none →
    ∀ r, (run (next codec) σ₀ es).calls j = some (.getDone u r) →
      (r = .ok c ∨ r = .error .noDataForKey) ∧
        (Along (next codec) (Answered j) σ₀ es → r = .ok c)

theorem tracks_run {codec : Codec Config} {redis : Bytes → Option Bytes} {es : List (Event Config)}
    (h : Along (next codec) (Fresh codec) (System.new redis) es) :
    Tracks codec (run (next codec) (System.new redis) es) :=
  along_invariant (fun _ e hs hf => hs.next e hf) (tracks_new codec redis) h

theorem settled_run {codec : Codec Config} {σ : System Config} {es : List (Event Config)} {u : User}
    {c : Config} (hσ : Settled codec u c σ) (h : Along (next codec) (Fresh codec) σ es)
    (hu : ∀ e ∈ es, e.sets ≠ some u) : Settled codec u c (run (next codec) σ es) := by
  induction es generalizing σ with
  | nil => exact hσ
  | cons e es ih =>
    obtain ⟨he, hes⟩ := List.forall_mem_cons.1 hu
    exact ih (hσ.next e h.1 he) h.2 hes

theorem readsOrMisses_run {codec : Codec Config} {σ : System Config} {es : List (Event Config)}
    {j : ℕ} {u : User} {c : Config} (hσ : Settled codec u c σ)
    (h : Along (next codec) (Fresh codec) σ es) (hu : ∀ e ∈ es, e.sets ≠ some u)
    (hj : ReadsOrMisses j u c σ) : ReadsOrMisses j u c (run (next codec) σ es) := by
  induction es generalizing σ with
  | nil => exact hj
  | cons e es ih =>
    obtain ⟨he, hes⟩ := List.forall_mem_cons.1 hu
    exact ih (hσ.next e h.1 he) h.2 hes (hσ.readsOrMisses_next hj e)

theorem reads_run {codec : Codec Config} {σ : System Config} {es : List (Event Config)}
    {j : ℕ} {u : User} {c : Config} (hσ : Settled codec u c σ)
    (h : Along (next codec) (Fresh codec) σ es) (hu : ∀ e ∈ es, e.sets ≠ some u)
    (ha : Along (next codec) (Answered j) σ es)
    (hj : ∃ call, σ.calls j = some call ∧ Reads u c call) :
    ∃ call, (run (next codec) σ es).calls j = some call ∧ Reads u c call := by
  induction es generalizing σ with
  | nil => exact hj
  | cons e es ih =>
    obtain ⟨he, hes⟩ := List.forall_mem_cons.1 hu
    obtain ⟨call, hcall, hr⟩ := hj
    obtain ⟨call', hcall', hr' | ⟨-, hn⟩⟩ := hσ.reads_next hcall hr e
    · exact ih (hσ.next e h.1 he) h.2 hes ha.2 ⟨call', hcall', hr'⟩
    · exact absurd ha.1 hn

theorem readsLastWrite_of_fresh {codec : Codec Config} {σ₀ : System Config}
    {es : List (Event Config)} (h : Along (next codec) (Fresh codec) σ₀ es) :
    ReadsLastWrite codec σ₀ es := by
  rintro es₁ i ok es₂ j es₃ u c rfl hi hothers hsets hj r hr
  obtain ⟨-, hstep, h⟩ := (along_append _ _ _ _).1 h
  obtain ⟨h₂, -, h₃⟩ := (along_append _ _ _ _).1 h
  obtain ⟨hsets₂, hsets₃⟩ := List.forall_mem_append.1 hsets
  rw [run_append, run_cons] at hj
  rw [run_append, run_cons, run_append, run_cons] at hr
  have hset := settled_run (settled_of_setFill ok hi hothers hstep) h₂ hsets₂
  have hset' := hset.next (.getConfig j u) trivial (by simp [Event.sets])
  have hbegun := begin_calls_self hj (.getStart u)
  refine ⟨?_, fun ha => ?_⟩
  · obtain ⟨call, hcall, hread⟩ :=
      readsOrMisses_run hset' h₃ hsets₃ ⟨_, hbegun, Or.inl Reads.start⟩
    obtain rfl : Call.getDone u r = call := Option.some.inj (hr.symm.trans hcall)
    rcases hread with hread | hread
    · cases hread
      exact Or.inl rfl
    · cases hread
      exact Or.inr rfl
  · obtain ⟨-, -, ha⟩ := (along_append _ _ _ _).1 ha
    obtain ⟨-, -, ha⟩ := (along_append _ _ _ _).1 ha
    obtain ⟨call, hcall, hread⟩ := reads_run hset' h₃ hsets₃ ha ⟨_, hbegun, Reads.start⟩
    obtain rfl : Call.getDone u r = call := Option.some.inj (hr.symm.trans hcall)
    cases hread
    rfl

/-- **Cache coherence.** In every run in which each cache insert writes what Redis holds, or is
about to be replaced by it, the cache agrees with Redis whenever no call is in flight, and a
`get_config` reads the last write of its user. -/
theorem coherent_of_fresh (codec : Codec Config) (redis : Bytes → Option Bytes)
    (es : List (Event Config)) (h : Along (next codec) (Fresh codec) (System.new redis) es) :
    (Quiescent (run (next codec) (System.new redis) es) →
      Coherent codec (run (next codec) (System.new redis) es)) ∧
    ReadsLastWrite codec (System.new redis) es :=
  ⟨(tracks_run h).coherent, readsLastWrite_of_fresh h⟩

/-- A `set_config` and then a `get_config`. -/
def setThenGet : List (Event UserConfig) :=
  [.setConfig 0 Sample.alice Sample.oneHost, .step 0 true, .step 0 true,
    .getConfig 1 Sample.alice, .step 1 true, .step 1 true]

theorem setThenGet_coherent :
    Coherent Sample.codec (run (next Sample.codec) (System.new Sample.redis) setThenGet) ∧
      ReadsLastWrite Sample.codec (System.new Sample.redis) setThenGet := by
  have h := coherent_of_fresh Sample.codec Sample.redis setThenGet (by
    refine ⟨trivial, ?_, ?_, trivial, ?_, ?_, trivial⟩
    · rintro _ u c ⟨⟩ ⟨⟩
    · rintro _ u c ⟨⟩ ⟨⟩
      exact Or.inl (Sample.holds_oneHost (by decide))
    · rintro _ u c ⟨⟩ ⟨⟩
    · rintro _ u c ⟨⟩ ⟨⟩)
  refine ⟨h.1 fun i call hi => ?_, h.2⟩
  match i with
  | 0 =>
    cases hi
    exact Or.inr ⟨_, _, _, rfl⟩
  | 1 =>
    cases hi
    exact Or.inl ⟨_, _, rfl⟩
  | i + 2 => cases hi

/-! ### A fill that overtakes a write -/

/-- The call 0 misses the cache and reads Redis, the call 1 writes Redis and the cache, and then
the call 0 fills the cache with what it has read. The call 2 reads that. -/
def fillAfterSet : List (Event UserConfig) :=
  [.getConfig 0 Sample.alice, .step 0 true, .step 0 true,
    .setConfig 1 Sample.alice Sample.oneHost, .step 1 true, .step 1 true, .step 0 true,
    .getConfig 2 Sample.alice, .step 2 true, .step 2 true]

/-- Nothing is in flight, the cache holds the replaced config, and the call 2 has returned it
although it began after the only `set_config` had returned `Ok`. -/
theorem fillAfterSet_not_coherent :
    Quiescent (run (next Sample.codec) (System.new Sample.redis) fillAfterSet) ∧
      ¬ Coherent Sample.codec (run (next Sample.codec) (System.new Sample.redis) fillAfterSet) ∧
      ¬ ReadsLastWrite Sample.codec (System.new Sample.redis) fillAfterSet := by
  refine ⟨fun i call hi => ?_, fun hc => ?_, fun hr => ?_⟩
  · match i with
    | 0 =>
      cases hi
      exact Or.inl ⟨_, _, rfl⟩
    | 1 =>
      cases hi
      exact Or.inr ⟨_, _, _, rfl⟩
    | 2 =>
      cases hi
      exact Or.inl ⟨_, _, rfl⟩
    | i + 3 => cases hi
  · have hold := hc Sample.alice ⟨Sample.noHosts, 0⟩
      (TimeCache.live_eq_some.2 ⟨rfl, show 0 < 0 + lruCacheExpiryDuration by
        simp [lruCacheExpiryDuration]⟩)
    exact absurd (hold.unique (Sample.holds_oneHost (by decide))) (by decide)
  · have h := hr (fillAfterSet.take 5) 1 true [.step 0 true] 2 [.step 2 true, .step 2 true]
      Sample.alice Sample.oneHost rfl rfl ?_ ?_ rfl (.ok Sample.noHosts) rfl
    · rcases h.1 with h | h
      · exact absurd (Except.ok.inj h) (by decide)
      · cases h
    · intro k call hk hcall
      match k with
      | 0 =>
        cases hcall
        simp [Call.sets]
      | 1 => exact absurd rfl hk
      | k + 2 => cases hcall
    · simp [Event.sets]

end RedisUserConfigStore

end ContextForge
