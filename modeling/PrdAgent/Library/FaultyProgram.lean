import Mathlib.Tactic.TypeStar

/-!
# Programs with faults

A program works on a state, asks an unreliable medium to write, calls callbacks, and returns, raises or
crashes. The fate of every write is given in advance by a list, so a program is a function. A write that
raises, or in which the process crashes, may have been carried out or not.

`Triple P m Q` says that `m`, started in a state with `P`, ends in a way and in a state with `Q`,
whatever the fates of its writes. `Keeps I m` is the special case of an invariant.
-/

namespace Faulty

/-- The fate of one write. -/
inductive Fate
  | returned
  | raised (written : Bool)
  | crashed (written : Bool)
deriving DecidableEq

/-- How a program ends. -/
inductive Outcome (ε α : Type)
  | returned (value : α)
  | raised (error : ε)
  | crashed
deriving DecidableEq

/-- A program over the states `σ` that raises errors in `ε`. It takes the fates of its writes from the
front of the list; a list that is too short goes on with writes that return. -/
def Program (σ ε α : Type) : Type := σ → List Fate → Outcome ε α × σ × List Fate

variable {σ ε α β : Type}

namespace Program

instance : Monad (Program σ ε) where
  pure value := fun s fates => (.returned value, s, fates)
  bind m next := fun s fates => match m s fates with
    | (.returned value, s, fates) => next value s fates
    | (.raised error, s, fates) => (.raised error, s, fates)
    | (.crashed, s, fates) => (.crashed, s, fates)

def outcome (m : Program σ ε α) (s : σ) (fates : List Fate) : Outcome ε α := (m s fates).1

def final (m : Program σ ε α) (s : σ) (fates : List Fate) : σ := (m s fates).2.1

def get : Program σ ε σ := fun s fates => (.returned s, s, fates)

def modify (f : σ → σ) : Program σ ε Unit := fun s fates => (.returned (), f s, fates)

def raise (error : ε) : Program σ ε α := fun s fates => (.raised error, s, fates)

def ofExcept (result : Except ε α) : Program σ ε α :=
  match result with
  | .ok value => pure value
  | .error error => raise error

/-- Ask the medium to write. -/
def write (request : σ → σ) (error : ε) : Program σ ε Unit := fun s fates =>
  match fates with
  | [] => (.returned (), request s, [])
  | .returned :: rest => (.returned (), request s, rest)
  | .raised written :: rest => (.raised error, if written then request s else s, rest)
  | .crashed written :: rest => (.crashed, if written then request s else s, rest)

/-- Start a callback that ends as given; the start is noted in the state. -/
def call (note : σ → σ) (reply : Outcome ε α) : Program σ ε α := fun s fates => (reply, note s, fates)

/-- Run a handler when the program raises, and then raise its error, unless the handler ends
otherwise. -/
def onRaise (m : Program σ ε α) (handler : Program σ ε Unit) : Program σ ε α := fun s fates =>
  match m s fates with
  | (.raised error, s, fates) => (handler >>= fun _ => raise error : Program σ ε α) s fates
  | ended => ended

end Program

/-- Started in a state with `P`, the program ends in a way and in a state with `Q`. -/
def Triple (P : σ → Prop) (m : Program σ ε α) (Q : Outcome ε α → σ → Prop) : Prop :=
  ∀ s fates, P s → Q (m.outcome s fates) (m.final s fates)

namespace Triple

open Program

variable {P I : σ → Prop} {m : Program σ ε α} {Q Q' : Outcome ε α → σ → Prop} {s : σ}

theorem mono (triple : Triple P m Q) (after : ∀ outcome s, Q outcome s → Q' outcome s) :
    Triple P m Q' :=
  fun s fates is => after _ _ (triple s fates is)

theorem at_state (triple : Triple P m Q) (is : P s) : Triple (· = s) m Q :=
  fun _ fates same => triple _ fates (same ▸ is)

theorem of_state (each : ∀ s, P s → Triple (· = s) m Q) : Triple P m Q :=
  fun s fates is => each s is s fates rfl

theorem of_exists {ι : Type} {p : ι → Prop} {P : ι → σ → Prop}
    (each : ∀ i, p i → Triple (P i) m Q) : Triple (fun s => ∃ i, p i ∧ P i s) m Q :=
  fun s fates ⟨i, fixed, is⟩ => each i fixed s fates is

theorem pure {value : α} (is : ∀ s, P s → Q (.returned value) s) :
    Triple P (Pure.pure value : Program σ ε α) Q :=
  fun s _ before => is s before

theorem raise {error : ε} (is : ∀ s, P s → Q (.raised error) s) :
    Triple P (Program.raise error : Program σ ε α) Q :=
  fun s _ before => is s before

/-- What a part of a program has to establish for the rest: a value for the rest to go on with, or the
end of the whole. -/
def Then (next : α → σ → Prop) (Q : Outcome ε β → σ → Prop) : Outcome ε α → σ → Prop
  | .returned value, s => next value s
  | .raised error, s => Q (.raised error) s
  | .crashed, s => Q .crashed s

theorem bind {next : α → Program σ ε β} {R : α → σ → Prop} {Q : Outcome ε β → σ → Prop}
    (first : Triple P m (Then R Q)) (rest : ∀ value, Triple (R value) (next value) Q) :
    Triple P (m >>= next) Q := by
  intro s fates before
  have step := first s fates before
  unfold outcome final at step ⊢
  change Q (match m s fates with
    | (.returned value, s, fates) => next value s fates
    | (.raised error, s, fates) => (.raised error, s, fates)
    | (.crashed, s, fates) => (.crashed, s, fates)).1 (match m s fates with
    | (.returned value, s, fates) => next value s fates
    | (.raised error, s, fates) => (.raised error, s, fates)
    | (.crashed, s, fates) => (.crashed, s, fates)).2.1
  generalize m s fates = result at step ⊢
  rcases result with ⟨value | error | _, s', fates'⟩
  · exact rest value s' fates' step
  · exact step
  · exact step

theorem then_self (triple : Triple P m fun _ => I) :
    Triple P m (Then (fun _ => I) fun _ : Outcome ε β => I) :=
  triple.mono fun outcome _ is => by cases outcome <;> exact is

theorem of_then (triple : Triple P m (Then (fun _ => I) fun _ : Outcome ε β => I)) :
    Triple P m fun _ => I :=
  triple.mono fun outcome _ is => by cases outcome <;> exact is

theorem bind_of_stopped {next : α → Program σ ε β} {R : α → σ → Prop} {Q : Outcome ε β → σ → Prop}
    (first : Triple P m (Then R fun _ : Outcome ε β => I))
    (stopped : ∀ outcome s, (∀ value, outcome ≠ .returned value) → I s → Q outcome s)
    (rest : ∀ value, Triple (R value) (next value) Q) : Triple P (m >>= next) Q := by
  refine bind (first.mono fun outcome s is => ?_) rest
  cases outcome with
  | returned value => exact is
  | raised error | crashed => exact stopped _ s (fun _ => nofun) is

theorem get_bind {next : σ → Program σ ε β} {Q : Outcome ε β → σ → Prop}
    (rest : ∀ s, P s → Triple (· = s) (next s) Q) : Triple P (Program.get >>= next) Q :=
  fun s fates before => rest s before s fates rfl

theorem get_bind_at {next : σ → Program σ ε β} {Q : Outcome ε β → σ → Prop}
    (rest : Triple (· = s) (next s) Q) : Triple (· = s) (Program.get >>= next) Q :=
  get_bind fun _ same => same ▸ rest

theorem modify {f : σ → σ} {Q : Outcome ε Unit → σ → Prop}
    (is : ∀ s, P s → Q (.returned ()) (f s)) : Triple P (Program.modify f : Program σ ε Unit) Q :=
  fun s _ before => is s before

theorem ofExcept_bind {result : Except ε α} {next : α → Program σ ε β} {Q : Outcome ε β → σ → Prop}
    (raised : ∀ error, result = .error error → ∀ s, P s → Q (.raised error) s)
    (rest : ∀ value, result = .ok value → Triple P (next value) Q) :
    Triple P (Program.ofExcept result >>= next) Q := by
  cases result with
  | ok value => exact fun s fates before => rest value rfl s fates before
  | error error => exact fun s fates before => raised error rfl s before

theorem write {request : σ → σ} {error : ε} {Q : Outcome ε Unit → σ → Prop}
    (returned : ∀ s, P s → Q (.returned ()) (request s))
    (written : ∀ s, P s → Q (.raised error) (request s) ∧ Q .crashed (request s))
    (lost : ∀ s, P s → Q (.raised error) s ∧ Q .crashed s) :
    Triple P (Program.write request error) Q := by
  intro s fates before
  match fates with
  | [] | .returned :: _ => exact returned s before
  | .raised true :: _ => exact (written s before).1
  | .raised false :: _ => exact (lost s before).1
  | .crashed true :: _ => exact (written s before).2
  | .crashed false :: _ => exact (lost s before).2

theorem call {note : σ → σ} {reply : Outcome ε α} (is : ∀ s, P s → Q reply (note s)) :
    Triple P (Program.call note reply) Q := fun s _ before => is s before

theorem onRaise {handler : Program σ ε Unit} {R : ε → σ → Prop}
    (body : Triple P m fun outcome s => match outcome with
      | .raised error => R error s
      | ended => Q ended s)
    (handles : ∀ error, Triple (R error) handler (Then (fun _ => Q (.raised error)) Q)) :
    Triple P (m.onRaise handler) Q := by
  intro s fates before
  have step := body s fates before
  unfold outcome final at step ⊢
  unfold Program.onRaise
  generalize m s fates = result at step ⊢
  rcases result with ⟨value | error | _, s', fates'⟩
  · exact step
  · exact bind (handles error) (fun _ => raise fun _ is => is) s' fates' step
  · exact step

end Triple

/-- The program keeps the invariant, however it ends. -/
def Keeps (I : σ → Prop) (m : Program σ ε α) : Prop := Triple I m fun _ s => I s

namespace Keeps

open Program

variable {I : σ → Prop} {m : Program σ ε α}

theorem pure {value : α} : Keeps I (Pure.pure value : Program σ ε α) := Triple.pure fun _ is => is

theorem raise {error : ε} : Keeps I (Program.raise error : Program σ ε α) :=
  Triple.raise fun _ is => is

theorem ofExcept {result : Except ε α} : Keeps I (Program.ofExcept result : Program σ ε α) := by
  cases result with
  | ok value => exact pure
  | error error => exact raise

theorem bind {next : α → Program σ ε β} (first : Keeps I m) (rest : ∀ value, Keeps I (next value)) :
    Keeps I (m >>= next) :=
  Triple.bind (Triple.then_self first) rest

theorem modify {f : σ → σ} (keeps : ∀ s, I s → I (f s)) :
    Keeps I (Program.modify f : Program σ ε Unit) := Triple.modify keeps

theorem write {request : σ → σ} {error : ε} (keeps : ∀ s, I s → I (request s)) :
    Keeps I (Program.write request error) :=
  Triple.write keeps (fun s is => ⟨keeps s is, keeps s is⟩) fun _ is => ⟨is, is⟩

theorem call {note : σ → σ} {reply : Outcome ε α} (keeps : ∀ s, I s → I (note s)) :
    Keeps I (Program.call note reply) := Triple.call keeps

theorem onRaise {handler : Program σ ε Unit} (body : Keeps I m) (handles : Keeps I handler) :
    Keeps I (m.onRaise handler) :=
  Triple.onRaise (R := fun _ => I)
    (Triple.mono body fun outcome _ is => by cases outcome <;> exact is)
    fun _ => Triple.then_self handles

theorem get_bind {next : σ → Program σ ε β} (rest : ∀ s, I s → Keeps I (next s)) :
    Keeps I (Program.get >>= next) :=
  fun s fates is => rest s is s fates is

end Keeps

end Faulty
