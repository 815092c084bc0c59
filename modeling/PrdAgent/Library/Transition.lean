import Mathlib.Order.Defs.Unbundled
import Mathlib.Data.List.Basic

/-!
# Runs of a machine with replies

A machine takes an input in a state and returns the next state with a reply. A `Run` is a
finite sequence of steps; each step is recorded as an `Event` with the states around it. The
predicate `ok` says which inputs the environment may give in which states, so one definition
serves both for all runs and for the runs whose steps meet some condition.
-/

namespace Transition

/-- One step of a machine: the input and reply, with the states before and after. -/
structure Event (σ ι ρ : Type) where
  before : σ
  input : ι
  reply : ρ
  after : σ

variable {σ ι ρ : Type}

def Event.of (step : ι → σ → σ × ρ) (s : σ) (i : ι) : Event σ ι ρ :=
  ⟨s, i, (step i s).2, (step i s).1⟩

/-- `Run step ok s evs t`: the machine goes from `s` to `t` by the events `evs`, each of whose
inputs is allowed in its state. -/
inductive Run (step : ι → σ → σ × ρ) (ok : σ → ι → Prop) :
    σ → List (Event σ ι ρ) → σ → Prop
  | nil (s : σ) : Run step ok s [] s
  | cons {s t : σ} {evs : List (Event σ ι ρ)} (i : ι) (allowed : ok s i)
      (rest : Run step ok (step i s).1 evs t) : Run step ok s (Event.of step s i :: evs) t

variable {step : ι → σ → σ × ρ} {ok ok' : σ → ι → Prop} {s t u : σ}
  {evs evs' : List (Event σ ι ρ)}

namespace Run

theorem append (first : Run step ok s evs t) (second : Run step ok t evs' u) :
    Run step ok s (evs ++ evs') u := by
  induction first with
  | nil s => exact second
  | cons i allowed _ ih => exact .cons i allowed (ih second)

theorem single (i : ι) (allowed : ok s i) :
    Run step ok s [Event.of step s i] (step i s).1 :=
  .cons i allowed (.nil _)

/-- A run over a joined event list passes through a state at the joint. -/
theorem split {s u : σ} {evs evs' : List (Event σ ι ρ)}
    (run : Run step ok s (evs ++ evs') u) :
    ∃ t, Run step ok s evs t ∧ Run step ok t evs' u := by
  induction evs generalizing s with
  | nil => exact ⟨s, .nil s, run⟩
  | cons e evs ih =>
    cases run with
    | cons i allowed rest =>
      obtain ⟨t, first, second⟩ := ih rest
      exact ⟨t, .cons i allowed first, second⟩

/-- The first event of a run is a step of the machine from the run's first state. -/
theorem uncons {e : Event σ ι ρ} (run : Run step ok s (e :: evs) t) :
    e = Event.of step s e.input ∧ ok s e.input ∧ Run step ok e.after evs t := by
  cases run with
  | cons i allowed rest => exact ⟨rfl, allowed, rest⟩

/-- An event of a run is an allowed step, with a run up to it and a run from it on. -/
theorem of_mem {e : Event σ ι ρ} (run : Run step ok s evs t) (mem : e ∈ evs) :
    ∃ early late, e = Event.of step e.before e.input ∧ ok e.before e.input ∧
      Run step ok s early e.before ∧ Run step ok e.after late t := by
  obtain ⟨early, late, rfl⟩ := List.append_of_mem mem
  obtain ⟨u, first, rest⟩ := run.split
  obtain ⟨same, allowed, after⟩ := rest.uncons
  have before : e.before = u := congrArg (·.before) same
  subst before
  exact ⟨early, late, same, allowed, first, after⟩

/-- Every run that meets a condition is a run that meets a weaker one. -/
theorem mono (weaker : ∀ s i, ok s i → ok' s i) (run : Run step ok s evs t) :
    Run step ok' s evs t := by
  induction run with
  | nil s => exact .nil s
  | cons i allowed _ ih => exact .cons i (weaker _ _ allowed) ih

/-- A run all of whose events meet a condition is a run that meets it. -/
theorem of_events (run : Run step ok s evs t) (meets : ∀ e ∈ evs, ok' e.before e.input) :
    Run step ok' s evs t := by
  induction run with
  | nil s => exact .nil s
  | cons i _ _ ih =>
    exact .cons i (meets _ (.head _)) (ih fun e mem => meets e (.tail _ mem))

/-- What every allowed step keeps is kept by every run. -/
theorem invariant {I : σ → Prop}
    (preserved : ∀ s i, ok s i → I s → I (step i s).1)
    (run : Run step ok s evs t) (start : I s) : I t := by
  induction run with
  | nil s => exact start
  | cons i allowed _ ih => exact ih (preserved _ i allowed start)

/-- A condition that allows less in every state of an invariant has fewer runs. -/
theorem mono_of_invariant {I : σ → Prop} (preserved : ∀ s i, ok s i → I s → I (step i s).1)
    (weaker : ∀ s i, I s → ok s i → ok' s i) (run : Run step ok s evs t) (start : I s) :
    Run step ok' s evs t := by
  induction run with
  | nil s => exact .nil s
  | cons i allowed _ ih => exact .cons i (weaker _ i start allowed) (ih (preserved _ i allowed start))

/-- What every allowed step keeps of the state and the events up to it is kept by every run. -/
theorem invariant_events {I : List (Event σ ι ρ) → σ → Prop}
    (preserved : ∀ past s i, ok s i → I past s → I (past ++ [Event.of step s i]) (step i s).1)
    (run : Run step ok s evs t) {past : List (Event σ ι ρ)} (start : I past s) :
    I (past ++ evs) t := by
  induction run generalizing past with
  | nil s =>
    rw [List.append_nil]
    exact start
  | cons i allowed _ ih =>
    rw [List.append_cons]
    exact ih (preserved past _ i allowed start)

/-- A preorder that every allowed step from an `I`-state respects relates the ends of every
run from an `I`-state, when steps keep `I`. -/
theorem relates {I : σ → Prop} {R : σ → σ → Prop} (refl : ∀ s, R s s)
    (trans : ∀ {a b c}, R a b → R b c → R a c)
    (preserved : ∀ s i, ok s i → I s → I (step i s).1)
    (respects : ∀ s i, ok s i → I s → R s (step i s).1)
    (run : Run step ok s evs t) (start : I s) : R s t := by
  induction run with
  | nil s => exact refl s
  | cons i allowed _ ih =>
    exact trans (respects _ i allowed start) (ih (preserved _ i allowed start))

/-- What holds at the end and not at the start came about at some event. -/
theorem exists_change {P : σ → Prop} (run : Run step ok s evs t) (start : ¬ P s) (finish : P t) :
    ∃ e ∈ evs, ¬ P e.before ∧ P e.after := by
  induction run with
  | nil s => exact absurd finish start
  | @cons s t evs i allowed _ ih =>
    by_cases next : P (step i s).1
    · exact ⟨_, .head _, start, next⟩
    · obtain ⟨e, mem, change⟩ := ih next finish
      exact ⟨e, .tail _ mem, change⟩

end Run

/-- Events of a kind that none follows in the run happen at most once. -/
theorem countP_le_one_of_once {p : Event σ ι ρ → Bool}
    (once : ∀ early e late, evs = early ++ e :: late → p e = true →
      ∀ later ∈ late, ¬ p later = true) : evs.countP p ≤ 1 := by
  by_cases some : ∃ e ∈ evs, p e = true
  · obtain ⟨e, mem, is⟩ := some
    obtain ⟨first, early, late, before, is, rfl, -⟩ := List.exists_of_eraseP mem is
    rw [List.countP_append, List.countP_cons, List.countP_eq_zero.mpr before,
      List.countP_eq_zero.mpr (once early first late rfl is)]
    split <;> simp
  · rw [List.countP_eq_zero.mpr fun e mem is => some ⟨e, mem, is⟩]
    exact Nat.zero_le 1

/-! ## Runs from given inputs -/

section Inputs

variable (step : ι → σ → σ × ρ) (ok : σ → ι → Prop)

/-- The events of giving the inputs one after the other. -/
def eventsFrom : List ι → σ → List (Event σ ι ρ)
  | [], _ => []
  | i :: rest, s => Event.of step s i :: eventsFrom rest (step i s).1

/-- The state after giving the inputs one after the other. -/
def stateFrom : List ι → σ → σ
  | [], s => s
  | i :: rest, s => stateFrom rest (step i s).1

/-- Each input is allowed in the state it is given in. -/
def AllowedFrom : List ι → σ → Prop
  | [], _ => True
  | i :: rest, s => ok s i ∧ AllowedFrom rest (step i s).1

instance decidableAllowedFrom [∀ s i, Decidable (ok s i)] :
    ∀ (inputs : List ι) (s : σ), Decidable (AllowedFrom step ok inputs s)
  | [], _ => .isTrue trivial
  | i :: rest, s => by
    have := decidableAllowedFrom rest (step i s).1
    exact inferInstanceAs (Decidable (ok s i ∧ AllowedFrom step ok rest (step i s).1))

variable {step ok}

theorem Run.ofInputs {inputs : List ι} {s : σ} (allowed : AllowedFrom step ok inputs s) :
    Run step ok s (eventsFrom step inputs s) (stateFrom step inputs s) := by
  induction inputs generalizing s with
  | nil => exact .nil s
  | cons i rest ih => exact .cons i allowed.1 (ih allowed.2)

theorem eventsFrom_concat (inputs : List ι) (i : ι) (s : σ) :
    eventsFrom step (inputs ++ [i]) s =
      eventsFrom step inputs s ++ [Event.of step (stateFrom step inputs s) i] := by
  induction inputs generalizing s with
  | nil => rfl
  | cons first rest ih => exact congrArg _ (ih (step first s).1)

theorem stateFrom_concat (inputs : List ι) (i : ι) (s : σ) :
    stateFrom step (inputs ++ [i]) s = (step i (stateFrom step inputs s)).1 := by
  induction inputs generalizing s with
  | nil => rfl
  | cons first rest ih => exact ih (step first s).1

instance decidableExistsOk {ε α : Type} {P : α → Prop} [DecidablePred P] :
    (result : Except ε α) → Decidable (∃ value, result = .ok value ∧ P value)
  | .ok value => decidable_of_iff (P value) ⟨fun is => ⟨value, rfl, is⟩,
      fun ⟨_, same, is⟩ => Except.ok.inj same ▸ is⟩
  | .error _ => .isFalse fun ⟨_, same, _⟩ => nomatch same

instance decidableExistsSome {α : Type} {P : α → Prop} [DecidablePred P] (found : Option α) :
    Decidable (∃ value, found = some value ∧ P value) :=
  inferInstanceAs (Decidable (∃ value ∈ found, P value))

/-- The run of giving the inputs, with what evaluating them gives. -/
theorem exists_run {P : List (Event σ ι ρ) → σ → Prop} (inputs : List ι) {s : σ}
    (evaluated : AllowedFrom step ok inputs s ∧
      P (eventsFrom step inputs s) (stateFrom step inputs s)) :
    ∃ evs t, Run step ok s evs t ∧ P evs t :=
  ⟨_, _, .ofInputs evaluated.1, evaluated.2⟩

/-- The run of giving the first inputs, and the run that goes on with the second. -/
theorem exists_runs {P : List (Event σ ι ρ) → σ → List (Event σ ι ρ) → σ → Prop}
    (first second : List ι) {s : σ}
    (evaluated : AllowedFrom step ok first s ∧ AllowedFrom step ok second (stateFrom step first s) ∧
      P (eventsFrom step first s) (stateFrom step first s)
        (eventsFrom step second (stateFrom step first s))
        (stateFrom step second (stateFrom step first s))) :
    ∃ evs t, Run step ok s evs t ∧ ∃ late u, Run step ok t late u ∧ P evs t late u :=
  ⟨_, _, .ofInputs evaluated.1, _, _, .ofInputs evaluated.2.1, evaluated.2.2⟩

theorem exists_run_concat {P : Event σ ι ρ → Prop} (inputs : List ι) (i : ι) {s : σ}
    (evaluated : AllowedFrom step ok (inputs ++ [i]) s ∧
      P (Event.of step (stateFrom step inputs s) i)) :
    ∃ evs event, Run step ok s (evs ++ [event]) event.after ∧ P event := by
  refine ⟨eventsFrom step inputs s, _, ?_, evaluated.2⟩
  rw [← eventsFrom_concat, show (Event.of step _ i).after = _ from (stateFrom_concat inputs i s).symm]
  exact .ofInputs evaluated.1

end Inputs

end Transition
