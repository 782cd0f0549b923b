import ContextForgeGateway.ConfigStore.Coherence
import ContextForgeGateway.Layers.Middleware

/-!
# Users without a configuration

`get_config` answers `NoDataForKey` for a user of whom Redis holds nothing, and the gateway tells
the client so. Two of its steps give the same answer without having looked: a `GET` that fails, and
a cache entry that is gone when it is taken (`Blind`). The store has another error for a connection
that is lost, and the gateway another status.

`reportsTruly_iff`: in a run from any cache and any Redis, every `NoDataForKey` is true of some
moment of its call exactly if the blind steps are taken only in calls that have begun without a
value in Redis. `failedGet` and `vanishedEntry` are runs in which one is not.
-/

namespace ContextForge

namespace RedisUserConfigStore

open Runs

variable {Config : Type} (codec : Codec Config)

/-- Redis holds no value for `u`. -/
def HoldsNothing (u : User) (σ : System Config) : Prop :=
  ∀ k, codec.encodeUser u = some k → σ.store.redis k = none

/-- The user of a `get_config` that has not returned. -/
def Call.reads : Call Config → Option User
  | .getStart u => some u
  | .getHit u => some u
  | .getMiss u => some u
  | .getFill u _ => some u
  | _ => none

/-- Call `i` is a `get_config(u)` that has not returned. -/
def Reading (i : ℕ) (u : User) (σ : System Config) : Prop :=
  ∃ call, σ.calls i = some call ∧ call.reads = some u

/-- At some moment during the `get_config(u)` with the number `i`, Redis held no value for `u`. -/
def AbsentDuring (σ₀ : System Config) (es : List (Event Config)) (i : ℕ) (u : User) : Prop :=
  Ever (next codec) (fun σ => Reading i u σ ∧ HoldsNothing codec u σ) σ₀ es

/-- Redis held no value for `u` before the first step of the `get_config(u)` with the number `i`. -/
def AbsentAtStart (σ₀ : System Config) (es : List (Event Config)) (i : ℕ) (u : User) : Prop :=
  Ever (next codec) (fun σ => σ.calls i = some (.getStart u) ∧ HoldsNothing codec u σ) σ₀ es

/-- Whenever a `get_config(u)` has returned `NoDataForKey`, Redis held no value for `u` at some moment
during the call. -/
def ReportsTruly (σ₀ : System Config) (es : List (Event Config)) : Prop :=
  ∀ es₁, es₁ <+: es → ∀ i u,
    (run (next codec) σ₀ es₁).calls i = some (.getDone u (.error .noDataForKey)) →
    AbsentDuring codec σ₀ es₁ i u

/-- The next step of call `i` is a `GET` that fails, or takes an entry that has vanished. -/
def Blind (σ : System Config) (i : ℕ) (ok : Bool) (u : User) : Prop :=
  (σ.calls i = some (.getMiss u) ∧ ok = false ∧ codec.encodeUser u ≠ none) ∨
  (σ.calls i = some (.getHit u) ∧ σ.store.liveEntry u = none)

/-- The blind steps of a run are taken in calls that have begun without a value in Redis. -/
def BlindIfAbsent (σ₀ : System Config) (es : List (Event Config)) : Prop :=
  ∀ es₁ i ok u, es₁ ++ [.step i ok] <+: es → Blind codec (run (next codec) σ₀ es₁) i ok u →
    AbsentAtStart codec σ₀ es₁ i u

variable {codec}

/-! ### Redis only gains values -/

theorem redis_advance {s : RedisUserConfigStore Config} {ok : Bool} {call : Call Config} {k : Bytes}
    (h : (advance codec s ok call).1.redis k = none) : s.redis k = none := by
  rcases advance_cases codec s ok call with
    ⟨hq, -, -⟩ | ⟨u, c, k', b, -, -, -, hadv⟩ | ⟨u, c, -, hadv, -⟩
  · rw [hq.redis] at h
    exact h
  · rw [hadv] at h
    have hne : k ≠ k' := by
      rintro rfl
      simp [redisSet] at h
    simpa [redisSet, hne] using h
  · rw [hadv] at h
    exact h

@[simp] theorem begin_store (σ : System Config) (i : ℕ) (call : Call Config) :
    (σ.begin i call).store = σ.store := by
  unfold System.begin
  cases σ.calls i <;> rfl

theorem holdsNothing_next {u : User} (σ : System Config) (e : Event Config)
    (h : HoldsNothing codec u (next codec σ e)) : HoldsNothing codec u σ := by
  intro k hk
  have hnext := h k hk
  cases e with
  | getConfig i v => simpa [next] using hnext
  | setConfig i v c => simpa [next] using hnext
  | wait d => exact hnext
  | evict key => exact hnext
  | step i ok =>
    cases hi : σ.calls i with
    | none => simpa [next, hi] using hnext
    | some call =>
      apply redis_advance
      simpa [next, hi] using hnext

/-! ### What a step does to a `get_config` -/

/-- A call that is still reading was reading before its step. -/
theorem reads_advance {s : RedisUserConfigStore Config} {ok : Bool} {call : Call Config} {u : User}
    (h : (advance codec s ok call).2.reads = some u) : call.reads = some u := by
  cases call with
  | getStart v =>
    have hv : (advance codec s ok (.getStart v)).2.reads = some v := by
      unfold advance
      dsimp only
      split <;> rfl
    exact hv.symm.trans h
  | getHit v =>
    unfold advance at h
    dsimp only at h
    split at h <;> cases h
  | getMiss v =>
    unfold advance at h
    dsimp only at h
    split at h
    · cases h
    · split at h
      · cases h
      · exact h
  | getFill v c => cases h
  | getDone v r => cases h
  | setStart v c =>
    unfold advance at h
    dsimp only at h
    split at h
    · split at h <;> cases h
    · cases h
  | setFill v c => cases h
  | setDone v c r => cases h

/-- A reply that reads as `NoDataForKey`: the `GET` has failed, or found nothing. A value is decoded,
or refused with another error. -/
theorem decodeReply_noDataForKey {s : RedisUserConfigStore Config} {ok : Bool} {key : Bytes}
    (h : decodeReply codec (s.redisGet ok key) = .error .noDataForKey) :
    ok = false ∨ s.redis key = none := by
  cases ok with
  | false => exact Or.inl rfl
  | true =>
    cases hget : s.redis key with
    | none => exact Or.inr rfl
    | some bytes =>
      simp only [decodeReply, redisGet, hget, if_true] at h
      split at h <;> cases h

/-- A step that ends in `NoDataForKey`: the `GET` found nothing, or the step was blind. -/
theorem noDataForKey_advance {s : RedisUserConfigStore Config} {ok : Bool} {call : Call Config}
    {u : User} (h : (advance codec s ok call).2 = .getDone u (.error .noDataForKey)) :
    call = .getDone u (.error .noDataForKey) ∨
    (call = .getMiss u ∧ ∀ k, codec.encodeUser u = some k → s.redis k = none) ∨
    (call = .getMiss u ∧ ok = false ∧ codec.encodeUser u ≠ none) ∨
    (call = .getHit u ∧ s.liveEntry u = none) := by
  cases call with
  | getStart v =>
    unfold advance at h
    dsimp only at h
    split at h <;> cases h
  | getHit v =>
    unfold advance at h
    dsimp only at h
    split at h
    · cases h
    · next hnone =>
      cases h
      exact Or.inr (Or.inr (Or.inr ⟨rfl, TimeCache.getMut_eq_none.1 hnone⟩))
  | getMiss v =>
    unfold advance at h
    dsimp only at h
    split at h
    · cases h
    · next key hkey =>
      split at h
      · next e hreply =>
        cases h
        rcases decodeReply_noDataForKey hreply with hfails | hnothing
        · exact Or.inr (Or.inr (Or.inl ⟨rfl, hfails, by simp [hkey]⟩))
        · refine Or.inr (Or.inl ⟨rfl, fun k hk => ?_⟩)
          obtain rfl : key = k := Option.some.inj (hkey.symm.trans hk)
          exact hnothing
      · cases h
  | getFill v c => cases h
  | getDone v r => exact Or.inl h
  | setStart v c =>
    unfold advance at h
    dsimp only at h
    split at h
    · split at h <;> cases h
    · cases h
  | setFill v c => cases h
  | setDone v c r => cases h

/-- A blind step ends in `NoDataForKey`. -/
theorem Blind.noDataForKey {σ : System Config} {i : ℕ} {ok : Bool} {u : User}
    (h : Blind codec σ i ok u) :
    (next codec σ (.step i ok)).calls i = some (.getDone u (.error .noDataForKey)) := by
  rcases h with ⟨hi, rfl, hkey⟩ | ⟨hi, hlive⟩
  · rw [next_calls_step codec hi]
    obtain ⟨key, hkey⟩ := Option.ne_none_iff_exists'.1 hkey
    simp [advance, hkey, decodeReply, redisGet]
  · rw [next_calls_step codec hi]
    have hnone : (σ.store.cache.getMut lruCacheExpiryDuration σ.store.now u.key).1 = none :=
      TimeCache.getMut_eq_none.2 hlive
    simp [advance, hnone]

/-- Beginning a call changes nothing but that call. -/
theorem begin_calls_cases {σ : System Config} {i j : ℕ} {call call' : Call Config}
    (h : (σ.begin j call).calls i = some call') : σ.calls i = some call' ∨ call = call' := by
  unfold System.begin at h
  cases hσ : σ.calls j with
  | some other =>
    rw [hσ] at h
    exact Or.inl h
  | none =>
    rw [hσ] at h
    by_cases hij : i = j
    · subst hij
      exact Or.inr (by simpa using h)
    · exact Or.inl (by simpa [hij] using h)

/-- Where a call comes from: it was there, it has just begun, or it has taken a step. -/
theorem calls_next {σ : System Config} {e : Event Config} {i : ℕ} {call' : Call Config}
    (h : (next codec σ e).calls i = some call') :
    σ.calls i = some call' ∨
    (∃ u, call' = .getStart u) ∨ (∃ u c, call' = .setStart u c) ∨
    (∃ ok call, e = .step i ok ∧ σ.calls i = some call ∧
      (advance codec σ.store ok call).2 = call') := by
  cases e with
  | getConfig j u =>
    rcases begin_calls_cases h with hsame | rfl
    · exact Or.inl hsame
    · exact Or.inr (Or.inl ⟨u, rfl⟩)
  | setConfig j u c =>
    rcases begin_calls_cases h with hsame | rfl
    · exact Or.inl hsame
    · exact Or.inr (Or.inr (Or.inl ⟨u, c, rfl⟩))
  | wait d => exact Or.inl h
  | evict key => exact Or.inl h
  | step j ok =>
    cases hσ : σ.calls j with
    | none =>
      simp only [next, hσ] at h
      exact Or.inl h
    | some call =>
      by_cases hij : i = j
      · subst hij
        rw [next_calls_step codec hσ] at h
        exact Or.inr (Or.inr (Or.inr ⟨ok, call, rfl, hσ, Option.some.inj h⟩))
      · simp only [next, hσ] at h
        exact Or.inl (by simpa [hij] using h)

/-- A call that is reading was reading, or has just begun. -/
theorem reading_next {σ : System Config} {e : Event Config} {i : ℕ} {u : User}
    (h : Reading i u (next codec σ e)) :
    Reading i u σ ∨ (next codec σ e).calls i = some (.getStart u) := by
  obtain ⟨call', hcall', hreads⟩ := h
  rcases calls_next hcall' with hsame | ⟨v, rfl⟩ | ⟨v, c, rfl⟩ | ⟨ok, call, -, hcall, rfl⟩
  · exact Or.inl ⟨call', hsame, hreads⟩
  · cases hreads
    exact Or.inr hcall'
  · cases hreads
  · exact Or.inl ⟨call, hcall, reads_advance hreads⟩

/-- A call that has returned `NoDataForKey` has just done so after a `GET` that found nothing, or in
a blind step, or it had done so before. -/
theorem noDataForKey_next {σ : System Config} {e : Event Config} {i : ℕ} {u : User}
    (h : (next codec σ e).calls i = some (.getDone u (.error .noDataForKey))) :
    σ.calls i = some (.getDone u (.error .noDataForKey)) ∨
    (Reading i u σ ∧ HoldsNothing codec u σ) ∨
    (∃ ok, e = .step i ok ∧ Blind codec σ i ok u) := by
  rcases calls_next h with hsame | ⟨v, hv⟩ | ⟨v, c, hv⟩ | ⟨ok, call, rfl, hcall, hadv⟩
  · exact Or.inl hsame
  · cases hv
  · cases hv
  · rcases noDataForKey_advance hadv with
      rfl | ⟨rfl, hnothing⟩ | ⟨rfl, hfails, hkey⟩ | ⟨rfl, hlive⟩
    · exact Or.inl hcall
    · exact Or.inr (Or.inl ⟨⟨_, hcall, rfl⟩, hnothing⟩)
    · exact Or.inr (Or.inr ⟨ok, rfl, Or.inl ⟨hcall, hfails, hkey⟩⟩)
    · exact Or.inr (Or.inr ⟨ok, rfl, Or.inr ⟨hcall, hlive⟩⟩)

/-! ### Runs -/

/-- A store before any call. -/
def System.idle (store : RedisUserConfigStore Config) : System Config := ⟨store, fun _ => none⟩

section

variable {store : RedisUserConfigStore Config} {es : List (Event Config)} {i : ℕ} {u : User}

/-- A call that is reading has had its first step before it. -/
theorem reading_started (h : Reading i u (run (next codec) (System.idle store) es)) :
    Ever (next codec) (fun σ => σ.calls i = some (.getStart u)) (System.idle store) es := by
  induction es using List.reverseRecOn with
  | nil =>
    obtain ⟨call, hcall, -⟩ := h
    cases hcall
  | append_singleton es e ih =>
    rw [run_concat] at h
    rw [ever_concat, run_concat]
    rcases reading_next h with hreading | hstart
    · exact Or.inl (ih hreading)
    · exact Or.inr hstart

/-- As Redis only gains values, the first moment of a call is as good as any. -/
theorem absentDuring_iff :
    AbsentDuring codec (System.idle store) es i u ↔
      AbsentAtStart codec (System.idle store) es i u := by
  constructor
  · rintro ⟨es₁, hes₁, hreading, hnothing⟩
    obtain ⟨es₀, hes₀, hstart⟩ := reading_started hreading
    exact ⟨es₀, hes₀.trans hes₁, hstart, run_backward holdsNothing_next hnothing hes₀⟩
  · intro h
    exact h.imp fun σ hσ => ⟨⟨_, hσ.1, rfl⟩, hσ.2⟩

/-- If Redis held a value for `u` at the beginning of the run, no call finds it absent. -/
theorem not_absentDuring (h : ¬ HoldsNothing codec u (System.idle store)) :
    ¬ AbsentDuring codec (System.idle store) es i u := by
  rintro ⟨es₁, -, -, hnothing⟩
  exact h (run_backward holdsNothing_next hnothing (List.nil_prefix))

end

/-- If the blind steps are taken in calls that began without a value in Redis, what a call that has
returned `NoDataForKey` says is true. -/
theorem BlindIfAbsent.absentDuring {store : RedisUserConfigStore Config} {es : List (Event Config)}
    (h : BlindIfAbsent codec (System.idle store) es) {es₁ : List (Event Config)} (hes₁ : es₁ <+: es)
    {i : ℕ} {u : User} (hdone : (run (next codec) (System.idle store) es₁).calls i =
      some (.getDone u (.error .noDataForKey))) :
    AbsentDuring codec (System.idle store) es₁ i u := by
  induction es₁ using List.reverseRecOn with
  | nil => cases hdone
  | append_singleton es₁ e ih =>
    have hwithin : es₁ <+: es := (List.prefix_append es₁ [e]).trans hes₁
    rw [run_concat] at hdone
    apply ever_concat.2
    apply Or.inl
    rcases noDataForKey_next hdone with hbefore | hnothing | ⟨ok, rfl, hblind⟩
    · exact ih hwithin hbefore
    · exact ever_last hnothing
    · exact absentDuring_iff.2 (h es₁ i ok u hes₁ hblind)

/-- In a run from any cache and any Redis, every `NoDataForKey` is true of some moment of its call
exactly if the blind steps are taken in calls that have begun without a value in Redis. Of the errors
of the store, the gateway answers that one as a mistake of the client. -/
theorem reportsTruly_iff (codec : Codec Config) (store : RedisUserConfigStore Config)
    (es : List (Event Config)) :
    (ReportsTruly codec (System.idle store) es ↔ BlindIfAbsent codec (System.idle store) es) ∧
    ∀ (Body : Type) (getConfig : User → Except ConfigStoreError UserConfig)
      (next : HttpRequest Body → Outcome Body) (request : HttpRequest Body) (e : ConfigStoreError)
      (claims : ContextForgeClaims), request.extensions.claims = some claims →
      getConfig (User.new claims.sub) = .error e →
      userConfigStoreLayer getConfig next request =
        .response (textResponse (if e = .noDataForKey then 400 else 500)
          "Problem occured retrieving the configuration") := by
  constructor
  · constructor
    · intro h es₁ i ok u hes₁ hblind
      have hdone : (run (RedisUserConfigStore.next codec) (System.idle store)
          (es₁ ++ [.step i ok])).calls i = some (.getDone u (.error .noDataForKey)) := by
        rw [run_concat]
        exact hblind.noDataForKey
      rcases ever_concat.1 (absentDuring_iff.1 (h _ hes₁ i u hdone)) with hever | ⟨hstart, -⟩
      · exact hever
      · -- the call has returned
        rw [hdone] at hstart
        cases hstart
    · intro h es₁ hes₁ i u hdone
      exact h.absentDuring hes₁ hdone
  · intro Body getConfig next request e claims hclaims hget
    unfold userConfigStoreLayer
    rw [hclaims]
    simp only [hget]
    cases e <;> rfl

/-! ### Two runs in which Redis holds a value throughout -/

theorem sample_holds : ¬ HoldsNothing Sample.codec Sample.alice
    (System.idle (RedisUserConfigStore.new Sample.redis)) := by
  intro h
  have hnone := h Sample.aliceKey (by decide)
  simp [System.idle, RedisUserConfigStore.new, Sample.redis] at hnone

/-- The connection is lost. -/
def failedGet : List (Event UserConfig) :=
  [.getConfig 0 Sample.alice, .step 0 true, .step 0 false]

/-- An entry is dropped between the two lock sections. -/
def vanishedEntry : List (Event UserConfig) :=
  [.getConfig 0 Sample.alice, .step 0 true, .step 0 true, .step 0 true,
    .getConfig 1 Sample.alice, .step 1 true, .evict "alice", .step 1 true]

theorem absence_reported_falsely :
    ¬ ReportsTruly Sample.codec (System.idle (RedisUserConfigStore.new Sample.redis)) failedGet ∧
    ¬ ReportsTruly Sample.codec (System.idle (RedisUserConfigStore.new Sample.redis))
      vanishedEntry := by
  constructor
  · intro h
    exact not_absentDuring sample_holds (h failedGet List.prefix_rfl 0 Sample.alice rfl)
  · intro h
    exact not_absentDuring sample_holds (h vanishedEntry List.prefix_rfl 1 Sample.alice rfl)

end RedisUserConfigStore

end ContextForge
