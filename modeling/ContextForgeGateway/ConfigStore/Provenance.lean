import ContextForgeGateway.ConfigStore.Coherence

/-!
# Where a user config comes from

Between Redis, the cache and the calls in flight, a config is copied any number of times, under keys
that are made in two ways: the cache has the key of the user, and Redis has its encoding. Calls on one
store are interleaved, entries vanish, Redis commands fail, and others write to Redis as well.

`getConfig_provenance`: whatever the interleaving, a `get_config` of a user returns only what Redis held
for that user at some moment of the run, and so what it held in the beginning, what some `set_config` of
that user has written, or what somebody else has written under that user's key.
-/

namespace ContextForge

namespace RedisUserConfigStore

open Runs

variable {Config : Type}

/-- The config that a call has in hand, unless it has yet to write it to Redis. -/
def Call.config : Call Config → Option (User × Config)
  | .getFill u c | .getDone u (.ok c) | .setFill u c => some (u, c)
  | _ => none

/-- Whatever Redis, the cache or a call has for a user satisfies `P`. -/
structure Provided (codec : Codec Config) (P : User → Config → Prop) (σ : System Config) : Prop where
  redis : ∀ u c, σ.store.Holds codec u c → P u c
  cache : ∀ u e, σ.store.cache u.key = some e → P u e.value
  calls : ∀ i call u c, σ.calls i = some call → call.config = some (u, c) → P u c

variable {codec : Codec Config} {P Q : User → Config → Prop} {σ : System Config}

theorem Provided.mono (h : Provided codec P σ) (hPQ : ∀ u c, P u c → Q u c) : Provided codec Q σ where
  redis u c hc := hPQ u c (h.redis u c hc)
  cache u e he := hPQ u e.value (h.cache u e he)
  calls i call u c hi hc := hPQ u c (h.calls i call u c hi hc)

theorem provided_new {redis : Bytes → Option Bytes}
    (h : ∀ u c, (RedisUserConfigStore.new redis).Holds codec u c → P u c) :
    Provided codec P (System.new redis) where
  redis := h
  cache _ _ he := nomatch he
  calls _ _ _ _ hi := nomatch hi

/-! ### One step -/

/-- A reply that decodes is what Redis holds. -/
theorem holds_of_decodeReply {s : RedisUserConfigStore Config} {ok : Bool} {u : User} {k : Bytes}
    {c : Config} (hk : codec.encodeUser u = some k)
    (h : decodeReply codec (s.redisGet ok k) = .ok c) : s.Holds codec u c := by
  cases ok with
  | false => cases h
  | true =>
    cases hb : s.redis k with
    | none => simp [decodeReply, redisGet, hb] at h
    | some b =>
      cases hd : codec.decodeConfig b with
      | none => simp [decodeReply, redisGet, hb, hd] at h
      | some d =>
        obtain rfl : d = c := by simpa [decodeReply, redisGet, hb, hd] using h
        exact ⟨k, b, hk, hb, hd⟩

/-- What a step puts into the hands of a call was there before, in the cache or in Redis, or is in Redis
after it. -/
theorem advance_config {s : RedisUserConfigStore Config} {ok : Bool} {call : Call Config} {u : User}
    {c : Config} (h : (advance codec s ok call).2.config = some (u, c)) :
    call.config = some (u, c) ∨ (∃ e, s.cache u.key = some e ∧ e.value = c) ∨
      s.Holds codec u c ∨ (advance codec s ok call).1.Holds codec u c := by
  cases call with
  | getStart v =>
    simp only [advance] at h
    split at h <;> cases h
  | getHit v =>
    simp only [advance] at h
    cases hg : (s.cache.getMut lruCacheExpiryDuration s.now v.key).1 with
    | none => simp [hg, Call.config] at h
    | some d =>
      obtain ⟨rfl, rfl⟩ : v = u ∧ d = c := by simpa [hg, Call.config] using h
      obtain ⟨e, he, rfl⟩ := TimeCache.getMut_eq_some.1 hg
      exact Or.inr (Or.inl ⟨e, (TimeCache.live_eq_some.1 he).1, rfl⟩)
  | getMiss v =>
    simp only [advance] at h
    cases hk : codec.encodeUser v with
    | none => simp [hk, Call.config] at h
    | some k =>
      cases hr : decodeReply codec (s.redisGet ok k) with
      | error e => simp [hk, hr, Call.config] at h
      | ok d =>
        obtain ⟨rfl, rfl⟩ : v = u ∧ d = c := by simpa [hk, hr, Call.config] using h
        exact Or.inr (Or.inr (Or.inl (holds_of_decodeReply hk hr)))
  | getFill v d => exact Or.inl h
  | setStart v d =>
    cases hk : codec.encodeUser v with
    | none => simp [advance, hk, Call.config] at h
    | some k =>
      cases hb : codec.encodeConfig d with
      | none => simp [advance, hk, hb, Call.config] at h
      | some b =>
        cases ok with
        | false => simp [advance, hk, hb, Call.config] at h
        | true =>
          obtain ⟨rfl, rfl⟩ : v = u ∧ d = c := by simpa [advance, hk, hb, Call.config] using h
          refine Or.inr (Or.inr (Or.inr ?_))
          simpa [advance, hk, hb] using holds_redisSet codec hk hb
  | setFill v d => cases h
  | getDone v r => exact Or.inl h
  | setDone v d r => cases h

theorem Provided.begin (h : Provided codec P σ) (i : ℕ) {call : Call Config}
    (hcall : call.config = none) : Provided codec P (σ.begin i call) := by
  unfold System.begin
  cases hi : σ.calls i with
  | some call' => exact h
  | none =>
    refine ⟨h.redis, h.cache, fun j call' u c hj hc => ?_⟩
    by_cases hji : j = i
    · subst hji
      obtain rfl : call = call' := by simpa using hj
      rw [hcall] at hc
      cases hc
    · exact h.calls j call' u c (by simpa [hji] using hj) hc

theorem Provided.step (h : Provided codec P σ) (i : ℕ) (ok : Bool)
    (hP : ∀ u c, (next codec σ (.step i ok)).store.Holds codec u c → P u c) :
    Provided codec P (next codec σ (.step i ok)) := by
  cases hi : σ.calls i with
  | none => simpa [RedisUserConfigStore.next, hi] using h
  | some call =>
    simp only [RedisUserConfigStore.next, hi] at hP ⊢
    refine ⟨hP, fun u e he => ?_, fun j call' u c hj hc => ?_⟩
    · rcases advance_cases codec σ.store ok call with
        ⟨hq, -, -⟩ | ⟨v, d, k, b, rfl, -, -, hadv⟩ | ⟨v, d, hins, hadv, -⟩
      · obtain ⟨e', he', hv⟩ := hq.cache u.key e he
        exact hv ▸ h.cache u e' he'
      · rw [hadv] at he
        exact h.cache u e he
      · rw [hadv] at he
        have hconfig : call.config = some (v, d) := by
          cases call <;> cases hins <;> rfl
        by_cases huv : u = v
        · subst huv
          obtain rfl : (⟨d, σ.store.now⟩ : CacheEntry Config) = e := by simpa [insertCache] using he
          exact h.calls i call u d hi hconfig
        · have hkey : u.key ≠ v.key := fun hk => huv (User.ext_key hk)
          exact h.cache u e (by simpa [insertCache, TimeCache.insert_of_ne hkey] using he)
    · by_cases hji : j = i
      · subst hji
        obtain rfl : (advance codec σ.store ok call).2 = call' := by simpa using hj
        rcases advance_config hc with hc | ⟨e, he, rfl⟩ | hc | hc
        · exact h.calls j call u c hi hc
        · exact h.cache u e he
        · exact h.redis u c hc
        · exact hP u c hc
      · exact h.calls j call' u c (by simpa [hji] using hj) hc

/-- A step adds nothing but what Redis then holds. -/
theorem Provided.next (h : Provided codec P σ) (e : Event Config)
    (hP : ∀ u c, (next codec σ e).store.Holds codec u c → P u c) :
    Provided codec P (next codec σ e) := by
  cases e with
  | getConfig i u => exact h.begin i rfl
  | setConfig i u c => exact h.begin i rfl
  | step i ok => exact h.step i ok hP
  | wait d => exact ⟨h.redis, h.cache, h.calls⟩
  | evict key =>
    refine ⟨h.redis, fun u e he => ?_, h.calls⟩
    by_cases hk : u.key = key
    · simp [RedisUserConfigStore.next, hk] at he
    · exact h.cache u e (by simpa [RedisUserConfigStore.next, TimeCache.evict_of_ne hk] using he)

/-- The user for whom a call reads. -/
def Call.gets : Call Config → Option User
  | .getStart u | .getHit u | .getMiss u | .getFill u _ | .getDone u _ => some u
  | _ => none

theorem advance_gets (s : RedisUserConfigStore Config) (ok : Bool) (call : Call Config) :
    (advance codec s ok call).2.gets = call.gets := by
  cases call with
  | getStart u =>
    simp only [advance]
    split <;> rfl
  | getHit u =>
    cases hg : (s.cache.getMut lruCacheExpiryDuration s.now u.key).1 <;> simp [advance, hg, Call.gets]
  | getMiss u =>
    cases hk : codec.encodeUser u with
    | none => simp [advance, hk, Call.gets]
    | some k => cases hr : decodeReply codec (s.redisGet ok k) <;> simp [advance, hk, hr, Call.gets]
  | setStart u c =>
    cases hk : codec.encodeUser u with
    | none => simp [advance, hk, Call.gets]
    | some k =>
      cases hb : codec.encodeConfig c with
      | none => simp [advance, hk, hb, Call.gets]
      | some b => cases ok <;> simp [advance, hk, hb, Call.gets]
  | getFill u c | setFill u c | getDone u r | setDone u c r => rfl

/-- A call goes on reading for the user for whom it has begun. -/
theorem gets_next {i : ℕ} {call : Call Config} (h : σ.calls i = some call) (e : Event Config) :
    ∃ call', (next codec σ e).calls i = some call' ∧ call'.gets = call.gets := by
  by_cases he : ∃ ok, e = .step i ok
  · obtain ⟨ok, rfl⟩ := he
    exact ⟨_, next_calls_step codec h ok, advance_gets σ.store ok call⟩
  · exact ⟨call, next_calls_of_ne codec h fun ok hok => he ⟨ok, hok⟩, rfl⟩

/-! ### Runs in which others write as well -/

/-- A step of the calls on the store, or a write of somebody else to Redis. -/
inductive SharedEvent (Config : Type)
  | own (e : Event Config)
  | write (key : Bytes) (value : Option Bytes)

/-- Somebody else writes to Redis. -/
def System.write (σ : System Config) (key : Bytes) (value : Option Bytes) : System Config :=
  { σ with store := { σ.store with redis := Function.update σ.store.redis key value } }

/-- The next state. -/
def sharedNext (codec : Codec Config) (σ : System Config) : SharedEvent Config → System Config
  | .own e => next codec σ e
  | .write key value => σ.write key value

theorem Provided.write (h : Provided codec P σ) {key : Bytes} {value : Option Bytes}
    (hP : ∀ u c, (σ.write key value).store.Holds codec u c → P u c) :
    Provided codec P (σ.write key value) := ⟨hP, h.cache, h.calls⟩

theorem Provided.sharedNext (h : Provided codec P σ) (e : SharedEvent Config)
    (hP : ∀ u c, (sharedNext codec σ e).store.Holds codec u c → P u c) :
    Provided codec P (sharedNext codec σ e) := by
  cases e with
  | own e => exact h.next e hP
  | write key value => exact h.write hP

variable (codec) in
/-- Redis held `c` for `u` in the beginning, or a `set_config` of `u` was begun with it, or somebody else
wrote it under the key of `u`. -/
def WrittenFor (redis : Bytes → Option Bytes) (es : List (SharedEvent Config)) (u : User)
    (c : Config) : Prop :=
  (RedisUserConfigStore.new redis).Holds codec u c ∨ (∃ i, .own (.setConfig i u c) ∈ es) ∨
    ∃ key b, .write key (some b) ∈ es ∧ codec.encodeUser u = some key ∧ codec.decodeConfig b = some c

theorem WrittenFor.concat {redis : Bytes → Option Bytes} {es : List (SharedEvent Config)} {u : User}
    {c : Config} (h : WrittenFor codec redis es u c) (e : SharedEvent Config) :
    WrittenFor codec redis (es ++ [e]) u c := by
  have hmem : ∀ {e'}, e' ∈ es → e' ∈ es ++ [e] := fun he => List.mem_append_left _ he
  rcases h with h | ⟨i, h⟩ | ⟨key, b, h, hk, hb⟩
  · exact Or.inl h
  · exact Or.inr (Or.inl ⟨i, hmem h⟩)
  · exact Or.inr (Or.inr ⟨key, b, hmem h, hk, hb⟩)

/-- What a step adds to Redis is what some `set_config` was begun with. -/
theorem holds_next {e : Event Config} {u : User} {c : Config}
    (h : (next codec σ e).store.Holds codec u c) :
    σ.store.Holds codec u c ∨ ∃ i, σ.calls i = some (.setStart u c) := by
  cases e with
  | getConfig i v =>
    left
    simp only [next, System.begin] at h
    split at h <;> exact h
  | setConfig i v d =>
    left
    simp only [next, System.begin] at h
    split at h <;> exact h
  | step i ok =>
    cases hi : σ.calls i with
    | none => exact Or.inl (by simpa [next, hi] using h)
    | some call =>
      simp only [next, hi] at h
      rcases advance_cases codec σ.store ok call with
        ⟨hq, -, -⟩ | ⟨v, d, k, b, rfl, hk, hb, hadv⟩ | ⟨v, d, -, hadv, -⟩
      · exact Or.inl ((Holds.congr hq.redis).1 h)
      · rw [hadv] at h
        by_cases huv : u = v
        · subst huv
          obtain rfl := h.unique (holds_redisSet codec hk hb)
          exact Or.inr ⟨i, hi⟩
        · exact Or.inl ((holds_redisSet_of_ne codec hk huv).1 h)
      · rw [hadv] at h
        exact Or.inl h
  | wait d => exact Or.inl h
  | evict key => exact Or.inl h

/-- No step makes a call that has yet to write. -/
theorem advance_ne_setStart {s : RedisUserConfigStore Config} {ok : Bool} {call : Call Config}
    {u : User} {c : Config} (h : (advance codec s ok call).2 = .setStart u c) : False := by
  cases call with
  | getStart v =>
    simp only [advance] at h
    split at h <;> cases h
  | getHit v =>
    cases hg : (s.cache.getMut lruCacheExpiryDuration s.now v.key).1 <;> simp [advance, hg] at h
  | getMiss v =>
    cases hk : codec.encodeUser v with
    | none => simp [advance, hk] at h
    | some k => cases hr : decodeReply codec (s.redisGet ok k) <;> simp [advance, hk, hr] at h
  | setStart v d =>
    cases hk : codec.encodeUser v with
    | none => simp [advance, hk] at h
    | some k =>
      cases hb : codec.encodeConfig d with
      | none => simp [advance, hk, hb] at h
      | some b => cases ok <;> simp [advance, hk, hb] at h
  | getFill v d => cases h
  | setFill v d => cases h
  | getDone v r => cases h
  | setDone v d r => cases h

/-- A `set_config` in flight was begun. -/
theorem setStart_next {e : Event Config} {i : ℕ} {u : User} {c : Config}
    (h : (next codec σ e).calls i = some (.setStart u c)) :
    σ.calls i = some (.setStart u c) ∨ e = .setConfig i u c := by
  have hbegin : ∀ {j : ℕ} {call : Call Config}, (σ.begin j call).calls i = some (.setStart u c) →
      σ.calls i = some (.setStart u c) ∨ i = j ∧ call = .setStart u c := by
    intro j call hi
    unfold System.begin at hi
    cases hj : σ.calls j with
    | some call' => exact Or.inl (by simpa [hj] using hi)
    | none =>
      by_cases hij : i = j
      · subst hij
        exact Or.inr ⟨rfl, by simpa [hj] using hi⟩
      · exact Or.inl (by simpa [hj, hij] using hi)
  cases e with
  | getConfig j v =>
    rcases hbegin h with h | ⟨-, hcall⟩
    · exact Or.inl h
    · cases hcall
  | setConfig j v d =>
    rcases hbegin h with h | ⟨rfl, hcall⟩
    · exact Or.inl h
    · cases hcall
      exact Or.inr rfl
  | step j ok =>
    cases hj : σ.calls j with
    | none => exact Or.inl (by simpa [next, hj] using h)
    | some call =>
      by_cases hij : i = j
      · subst hij
        exact (advance_ne_setStart (by simpa [next, hj] using h)).elim
      · exact Or.inl (by simpa [next, hj, hij] using h)
  | wait d => exact Or.inl h
  | evict key => exact Or.inl h

variable {redis : Bytes → Option Bytes} {es : List (SharedEvent Config)}

/-- Whatever Redis holds was written for that user, and a `set_config` in flight was begun. -/
theorem writtenFor_run :
    (∀ u c, (run (sharedNext codec) (System.new redis) es).store.Holds codec u c →
      WrittenFor codec redis es u c) ∧
    ∀ i u c, (run (sharedNext codec) (System.new redis) es).calls i = some (.setStart u c) →
      ∃ j, .own (.setConfig j u c) ∈ es := by
  induction es using List.reverseRecOn with
  | nil => exact ⟨fun u c h => Or.inl h, fun i u c h => nomatch h⟩
  | append_singleton es e ih =>
    obtain ⟨hholds, hbegun⟩ := ih
    rw [run_concat]
    have hmem : ∀ {e'}, e' ∈ es → e' ∈ es ++ [e] := fun he => List.mem_append_left _ he
    cases e with
    | own e =>
      constructor
      · intro u c h
        rcases holds_next h with h | ⟨i, h⟩
        · exact (hholds u c h).concat _
        · obtain ⟨j, hj⟩ := hbegun i u c h
          exact Or.inr (Or.inl ⟨j, hmem hj⟩)
      · intro i u c h
        rcases setStart_next h with h | rfl
        · obtain ⟨j, hj⟩ := hbegun i u c h
          exact ⟨j, hmem hj⟩
        · exact ⟨i, List.mem_append_right _ (List.mem_singleton_self _)⟩
    | write key value =>
      refine ⟨?_, fun i u c h => ?_⟩
      · rintro u c ⟨k, b, hk, hb, hc⟩
        by_cases hkey : k = key
        · subst hkey
          obtain rfl : value = some b := by simpa [sharedNext, System.write] using hb
          exact Or.inr (Or.inr
            ⟨k, b, List.mem_append_right _ (List.mem_singleton_self _), hk, hc⟩)
        · refine (hholds u c ⟨k, b, hk, ?_, hc⟩).concat _
          simpa [sharedNext, System.write, hkey] using hb
      · obtain ⟨j, hj⟩ := hbegun i u c h
        exact ⟨j, hmem hj⟩

/-- At some moment of the run Redis held `c` for `u`. -/
def EverHeld (codec : Codec Config) (redis : Bytes → Option Bytes) (es : List (SharedEvent Config))
    (u : User) (c : Config) : Prop :=
  Ever (sharedNext codec) (fun τ => τ.store.Holds codec u c) (System.new redis) es

theorem provided_run :
    Provided codec (EverHeld codec redis es) (run (sharedNext codec) (System.new redis) es) := by
  induction es using List.reverseRecOn with
  | nil => exact provided_new fun u c h => ever_last h
  | append_singleton es e ih =>
    rw [run_concat]
    refine (ih.mono fun u c h => ever_concat.2 (Or.inl h)).sharedNext e fun u c h => ?_
    refine ever_last ?_
    rw [run_concat]
    exact h

theorem EverHeld.writtenFor {u : User} {c : Config} (h : EverHeld codec redis es u c) :
    WrittenFor codec redis es u c := by
  obtain ⟨js, ⟨l, rfl⟩, hc⟩ := h
  rcases writtenFor_run.1 u c hc with h | ⟨i, h⟩ | ⟨key, b, h, hk, hb⟩
  · exact Or.inl h
  · exact Or.inr (Or.inl ⟨i, List.mem_append_left _ h⟩)
  · exact Or.inr (Or.inr ⟨key, b, List.mem_append_left _ h, hk, hb⟩)

/-- **Provenance.** Whatever the interleaving, a `get_config` returns what Redis held for its user at
some moment of the run, which was written for that user. -/
theorem getConfig_provenance (codec : Codec Config) (redis : Bytes → Option Bytes)
    (es : List (SharedEvent Config)) {i : ℕ} {u : User} {c : Config}
    (h : (run (sharedNext codec) (System.new redis) es).calls i = some (.getDone u (.ok c))) :
    EverHeld codec redis es u c ∧ WrittenFor codec redis es u c := by
  have hheld : EverHeld codec redis es u c := provided_run.calls i _ u c h rfl
  exact ⟨hheld, hheld.writtenFor⟩

/-- A `get_config` of a config that a `set_config` in between has replaced. -/
theorem getConfig_provenance_sample :
    EverHeld Sample.codec Sample.redis (fillAfterSet.map .own) Sample.alice Sample.noHosts ∧
      WrittenFor Sample.codec Sample.redis (fillAfterSet.map .own) Sample.alice Sample.noHosts :=
  getConfig_provenance (i := 2) Sample.codec Sample.redis (fillAfterSet.map .own) rfl

end RedisUserConfigStore

end ContextForge
