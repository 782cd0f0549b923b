import Mathlib.Data.List.Induction
import Mathlib.Data.List.ReduceOption
import Mathlib.Tactic.TypeStar

/-!
# Runs of a step function

A system is a total function `step : σ → ι → σ`: the next state after one input. An input that is
not enabled leaves the state as it is, so every list of inputs is a run, and what holds for every
list holds for every interleaving of the inputs.

* `run step s is` is the state after the inputs `is`.
* `outputs step out s is` lists what `out` reads off its steps.
* `Along step P s is` says that every step of that run meets `P`, read in the state from which the
  step is taken.
* `last? step p s is` is the last step of the run that meets `p`, with the state before it.
* `Ever step P s is` says that some state of that run, the first and the last included, meets `P`.
* `tryStep step?` is the total function of a step that may be disabled, and `Stuck step? s` says that
  every step is disabled in `s`.

`run_invariant` and `along_invariant` carry what one step preserves to a whole run, `along_of_invariant`
what one step is then known to meet, `run_filter_cons` from one input of a kind to the next, and
`along_countdown` what some steps bring nearer. `outputs_map` says when a run cannot be told from another
whose states and inputs are changed, `run_component` takes a component out of a run, `run_filter` relates a
run to one from which some steps are left out, `run_backward` carries what no step can bring about back to
its beginning, and `exists_stuck` continues a run until no step is left.
-/

namespace Runs

variable {σ ι : Type*} (step : σ → ι → σ)

/-- The state after the inputs `is`. -/
def run (s : σ) (is : List ι) : σ := is.foldl step s

@[simp] theorem run_nil (s : σ) : run step s [] = s := rfl

@[simp] theorem run_cons (s : σ) (i : ι) (is : List ι) :
    run step s (i :: is) = run step (step s i) is := rfl

theorem run_append (s : σ) (is js : List ι) :
    run step s (is ++ js) = run step (run step s is) js := by
  simp [run, List.foldl_append]

@[simp] theorem run_concat (s : σ) (is : List ι) (i : ι) :
    run step s (is ++ [i]) = step (run step s is) i := by
  rw [run_append]; rfl

/-- What every step preserves holds after every run. -/
theorem run_invariant {step : σ → ι → σ} {I : σ → Prop} (hstep : ∀ s i, I s → I (step s i))
    {s : σ} (hs : I s) (is : List ι) : I (run step s is) := by
  induction is generalizing s with
  | nil => exact hs
  | cons i is ih => exact ih (hstep s i hs)

/-- Two runs stay related if some of the steps of the first are left out of the second, provided that
these keep the relation on their own. -/
theorem run_filter {τ : Type*} {step : σ → ι → σ} {step' : τ → ι → τ} {R : σ → τ → Prop}
    (p : ι → Bool) (hsame : ∀ s t i, p i = true → R s t → R (step s i) (step' t i))
    (hskip : ∀ s t i, p i = false → R s t → R (step s i) t) {s : σ} {t : τ} (h : R s t)
    (is : List ι) : R (run step s is) (run step' t (is.filter p)) := by
  induction is generalizing s t with
  | nil => exact h
  | cons i is ih =>
    cases hi : p i with
    | true =>
      rw [List.filter_cons_of_pos hi]
      exact ih (hsame s t i hi h)
    | false =>
      rw [List.filter_cons_of_neg (by simp [hi])]
      exact ih (hskip s t i hi h)

/-- The first of the inputs that meet `p` finds what all other inputs preserve. -/
theorem run_filter_cons {step : σ → ι → σ} {I : σ → Prop} (p : ι → Bool)
    (hskip : ∀ s i, p i = false → I s → I (step s i)) {s : σ} (hs : I s) {is rest : List ι} {i : ι}
    (h : is.filter p = i :: rest) :
    ∃ s' js, I s' ∧ js.filter p = rest ∧ run step s is = run step (step s' i) js := by
  obtain ⟨before, js, rfl, hbefore, -, hjs⟩ := List.filter_eq_cons_iff.1 h
  refine ⟨run step s before, js, ?_, hjs, run_append step s before (i :: js)⟩
  clear h
  induction before generalizing s with
  | nil => exact hs
  | cons j before ih =>
    obtain ⟨hj, hbefore⟩ := List.forall_mem_cons.1 hbefore
    exact ih (hskip s j (Bool.eq_false_iff.2 hj) hs) hbefore

/-! ### What the steps of a run give out -/

section

variable {ο : Type*} (out : σ → ι → ο)

/-- What `out` reads off every step of the run from `s`. -/
def outputs : σ → List ι → List ο
  | _, [] => []
  | s, i :: is => out s i :: outputs (step s i) is

theorem outputs_concat (s : σ) (is : List ι) (i : ι) :
    outputs step out s (is ++ [i]) = outputs step out s is ++ [out (run step s is) i] := by
  induction is generalizing s with
  | nil => rfl
  | cons j is ih =>
    show out s j :: outputs step out (step s j) (is ++ [i]) =
      out s j :: outputs step out (step s j) is ++ [out (run step (step s j) is) i]
    rw [ih, List.cons_append]

/-- Nobody sees of a run what a map of the states and of the inputs takes away, if the map commutes with
every step and `out` does not see it in one step. -/
theorem outputs_map {f : σ → σ} {g : ι → ι} (hstep : ∀ s i, step (f s) (g i) = f (step s i))
    (hout : ∀ s i, out (f s) (g i) = out s i) (s : σ) (is : List ι) :
    outputs step out (f s) (is.map g) = outputs step out s is := by
  induction is generalizing s with
  | nil => rfl
  | cons i is ih =>
    show out (f s) (g i) :: outputs step out (step (f s) (g i)) (is.map g) =
      out s i :: outputs step out (step s i) is
    rw [hout, hstep, ih]

end

/-- A component of the state, which steps with what `out` reads off the steps of the whole, runs on its own
over these. -/
theorem run_component {τ κ : Type*} {step : σ → ι → σ} {step' : τ → κ → τ} {comp : σ → τ}
    {out : σ → ι → Option κ}
    (h : ∀ s i, comp (step s i) = ((out s i).map (step' (comp s))).getD (comp s)) (s : σ)
    (is : List ι) :
    comp (run step s is) = run step' (comp s) (outputs step out s is).reduceOption := by
  induction is generalizing s with
  | nil => rfl
  | cons i is ih =>
    have hstep := h s i
    rw [run_cons, ih, hstep, outputs]
    cases out s i with
    | none => rw [List.reduceOption_cons_of_none]; rfl
    | some k => rw [List.reduceOption_cons_of_some, run_cons]; rfl

/-! ### Conditions on the steps of a run -/

/-- Every step of the run from `s` meets `P` in the state from which it is taken. -/
def Along (P : σ → ι → Prop) : σ → List ι → Prop
  | _, [] => True
  | s, i :: is => P s i ∧ Along P (step s i) is

instance decidableAlong (P : σ → ι → Prop) [∀ s i, Decidable (P s i)] :
    ∀ s is, Decidable (Along step P s is)
  | _, [] => .isTrue trivial
  | s, i :: is =>
    have := decidableAlong P (step s i) is
    inferInstanceAs (Decidable (P s i ∧ Along step P (step s i) is))

variable {step}

@[simp] theorem along_nil (P : σ → ι → Prop) (s : σ) : Along step P s [] := trivial

@[simp] theorem along_cons (P : σ → ι → Prop) (s : σ) (i : ι) (is : List ι) :
    Along step P s (i :: is) ↔ P s i ∧ Along step P (step s i) is := Iff.rfl

theorem along_append (P : σ → ι → Prop) (s : σ) (is js : List ι) :
    Along step P s (is ++ js) ↔ Along step P s is ∧ Along step P (run step s is) js := by
  induction is generalizing s with
  | nil => simp
  | cons i is ih => simp [ih, and_assoc]

/-- What every step that meets `P` preserves holds after every run all of whose steps meet `P`. -/
theorem along_invariant {P : σ → ι → Prop} {I : σ → Prop}
    (hstep : ∀ s i, I s → P s i → I (step s i)) {s : σ} (hs : I s) {is : List ι}
    (h : Along step P s is) : I (run step s is) := by
  induction is generalizing s with
  | nil => exact hs
  | cons i is ih => exact ih (hstep s i hs h.1) h.2

/-- Every step meets `Q` as well, if an invariant of the run says so. -/
theorem along_of_invariant {P Q : σ → ι → Prop} {I : σ → Prop}
    (hstep : ∀ s i, I s → P s i → Q s i ∧ I (step s i)) {s : σ} (hs : I s) {is : List ι}
    (h : Along step P s is) : Along step Q s is := by
  induction is generalizing s with
  | nil => trivial
  | cons i is ih =>
    obtain ⟨hi, his⟩ := hstep s i hs h.1
    exact ⟨hi, ih his h.2⟩

theorem along_of_forall {P : σ → ι → Prop} {is : List ι} (h : ∀ i ∈ is, ∀ s, P s i) (s : σ) :
    Along step P s is := by
  induction is generalizing s with
  | nil => trivial
  | cons i is ih =>
    obtain ⟨hi, his⟩ := List.forall_mem_cons.1 h
    exact ⟨hi s, ih his (step s i)⟩

/-- What is left of `n` after a run that counts it down by one at each of the inputs that meet `p`. -/
theorem along_countdown {P : σ → ι → Prop} {R : ℕ → σ → Prop} (p : ι → Bool)
    (hstep : ∀ n s i, R n s → P s i → R (n - if p i then 1 else 0) (step s i)) {n : ℕ} {s : σ}
    (hs : R n s) {is : List ι} (h : Along step P s is) : R (n - is.countP p) (run step s is) := by
  induction is generalizing n s with
  | nil => exact hs
  | cons i is ih =>
    have hrest := ih (hstep n s i hs h.1) h.2
    rwa [Nat.sub_sub, Nat.add_comm, ← List.countP_cons] at hrest

/-! ### The last step of a kind -/

variable (step)

/-- The last step of the run from `s` that meets `p`, with the state from which it was taken. -/
def last? (p : σ → ι → Bool) : σ → List ι → Option (σ × ι)
  | _, [] => none
  | s, i :: is => (last? p (step s i) is).or (if p s i then some (s, i) else none)

theorem last?_concat (p : σ → ι → Bool) (s : σ) (is : List ι) (i : ι) :
    last? step p s (is ++ [i]) =
      if p (run step s is) i then some (run step s is, i) else last? step p s is := by
  induction is generalizing s with
  | nil => cases h : p s i <;> simp [last?, h]
  | cons j is ih =>
    rw [List.cons_append, last?, ih, run_cons, last?]
    cases p (run step (step s j) is) i <;> simp

/-- Steps that do not meet `p` do not change which step was the last to meet it. -/
theorem last?_append {p : σ → ι → Bool} {s : σ} {is js : List ι}
    (h : Along step (fun t i => p t i = false) (run step s is) js) :
    last? step p s (is ++ js) = last? step p s is := by
  induction js using List.reverseRecOn with
  | nil => rw [List.append_nil]
  | append_singleton js j ih =>
    rw [along_append] at h
    obtain ⟨hjs, hj, -⟩ := h
    rw [← List.append_assoc, last?_concat, run_append, hj, ih hjs]
    rfl

/-! ### States on the way -/

/-- Some state of the run from `s` meets `P`. -/
def Ever (P : σ → Prop) (s : σ) (is : List ι) : Prop := ∃ js, js <+: is ∧ P (run step s js)

variable {step} {P : σ → Prop} {s : σ} {is : List ι}

theorem ever_last (h : P (run step s is)) : Ever step P s is := ⟨is, List.prefix_rfl, h⟩

theorem ever_concat {i : ι} :
    Ever step P s (is ++ [i]) ↔ Ever step P s is ∨ P (run step s (is ++ [i])) := by
  constructor
  · rintro ⟨js, hjs, h⟩
    rcases List.prefix_concat_iff.1 hjs with rfl | hjs
    · exact Or.inr h
    · exact Or.inl ⟨js, hjs, h⟩
  · rintro (⟨js, hjs, h⟩ | h)
    · exact ⟨js, hjs.trans (List.prefix_append is [i]), h⟩
    · exact ever_last h

theorem Ever.imp {Q : σ → Prop} (h : ∀ s, P s → Q s) (hP : Ever step P s is) : Ever step Q s is := by
  obtain ⟨js, hjs, hs⟩ := hP
  exact ⟨js, hjs, h _ hs⟩

/-- What no step can bring about held before every step of a run after which it holds. -/
theorem run_backward (hback : ∀ s i, P (step s i) → P s) (h : P (run step s is)) {js : List ι}
    (hjs : js <+: is) : P (run step s js) := by
  induction is using List.reverseRecOn with
  | nil =>
    obtain rfl := List.prefix_nil.1 hjs
    exact h
  | append_singleton is i ih =>
    rcases List.prefix_concat_iff.1 hjs with rfl | hjs
    · exact h
    · apply ih _ hjs
      apply hback _ i
      rw [run_concat] at h
      exact h

/-! ### Steps that may be disabled -/

variable (step? : σ → ι → Option σ)

/-- The next state if the input is enabled, and the same state if it is not. -/
def tryStep (s : σ) (i : ι) : σ := (step? s i).getD s

/-- No input is enabled. -/
def Stuck (s : σ) : Prop := ∀ i, step? s i = none

variable {step?}

theorem tryStep_invariant {I : σ → Prop} (hstep : ∀ s i s', I s → step? s i = some s' → I s')
    (s : σ) (i : ι) (hs : I s) : I (tryStep step? s i) := by
  unfold tryStep
  cases h : step? s i with
  | none => exact hs
  | some s' => exact hstep s i s' hs h

/-- If every enabled step lowers a measure, a run can be continued until no step is left. -/
theorem exists_stuck {I : σ → Prop} (measure : σ → ℕ)
    (hstep : ∀ s i s', I s → step? s i = some s' → I s' ∧ measure s' < measure s)
    {s : σ} (hs : I s) : ∃ is, Stuck step? (run (tryStep step?) s is) := by
  induction hm : measure s using Nat.strongRecOn generalizing s with
  | _ m ih =>
    by_cases hstuck : Stuck step? s
    · exact ⟨[], hstuck⟩
    · obtain ⟨i, hi⟩ := not_forall.1 hstuck
      obtain ⟨s', hs'⟩ := Option.ne_none_iff_exists'.1 hi
      obtain ⟨hI, hlt⟩ := hstep s i s' hs hs'
      obtain ⟨is, his⟩ := ih (measure s') (hm ▸ hlt) hI rfl
      refine ⟨i :: is, ?_⟩
      have hi' : tryStep step? s i = s' := by simp only [tryStep, hs', Option.getD_some]
      rw [run_cons, hi']
      exact his

end Runs
