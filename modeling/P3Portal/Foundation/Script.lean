import Mathlib.Tactic.Common

namespace P3Portal.Foundation

/-- A script changes a state and may raise; its changes survive the exception. -/
def Script (State A : Type) := State → Except Unit A × State

namespace Script
variable {State A B : Type}

def answer (value : A) : Script State A := fun state => (.ok value, state)

/-- An exception ends the whole sequence. -/
def andThen (first : Script State A) (next : A → Script State B) : Script State B := fun state =>
  match first state with
  | (.ok value, after) => next value after
  | (.error failure, after) => (.error failure, after)

instance : Monad (Script State) where
  pure := answer
  bind := andThen

theorem bind_of_ok {first : Script State A} {state after : State} {value : A}
    (done : first state = (.ok value, after)) (next : A → Script State B) :
    (first >>= next) state = next value after := by
  show andThen first next state = next value after
  unfold andThen
  rw [done]

theorem bind_of_error {first : Script State A} {state after : State} {failure : Unit}
    (failed : first state = (.error failure, after)) (next : A → Script State B) :
    (first >>= next) state = (.error failure, after) := by
  show andThen first next state = (.error failure, after)
  unfold andThen
  rw [failed]

/-- A call that leaves the state alone and may raise. -/
def call (raised : Bool) : Script State Unit := fun state => (if raised then .error () else .ok (), state)

/-- A transaction that raises changes nothing. -/
def write (raised : Bool) (change : State → State) : Script State Unit := fun state =>
  if raised then (.error (), state) else (.ok (), change state)

/-- An exception of the body starts the handler. -/
def recover (body handler : Script State A) : Script State A := fun state =>
  match body state with
  | (.ok value, after) => (.ok value, after)
  | (.error _, after) => handler after

/-- An exception of the body is ignored. -/
def protect (body : Script State Unit) : Script State Unit := recover body (answer ())

theorem recover_of_ok {body : Script State A} {state after : State} {value : A}
    (done : body state = (.ok value, after)) (handler : Script State A) :
    recover body handler state = (.ok value, after) := by
  unfold recover
  rw [done]

theorem recover_of_error {body : Script State A} {state after : State} {failure : Unit}
    (failed : body state = (.error failure, after)) (handler : Script State A) :
    recover body handler state = handler after := by
  unfold recover
  rw [failed]

/-- The state that a run leaves behind, with or without an exception. -/
def final (script : Script State A) (state : State) : State := (script state).2

theorem final_call_bind (raised : Bool) (next : Unit → Script State B) (state : State) :
    final (call raised >>= next) state = if raised then state else final (next ()) state := by
  cases raised <;> rfl

theorem final_write_bind (raised : Bool) (change : State → State) (next : Unit → Script State B) (state : State) :
    final (write raised change >>= next) state = if raised then state else final (next ()) (change state) := by
  cases raised <;> rfl

theorem final_bind_bind {C : Type} (first : Script State A) (middle : A → Script State B) (next : B → Script State C)
    (state : State) : final ((first >>= middle) >>= next) state =
      final (first >>= fun value => middle value >>= next) state := by
  show final (andThen (andThen first middle) next) state =
    final (andThen first fun value => andThen (middle value) next) state
  unfold final andThen
  cases first state with
  | mk result after => cases result <;> rfl

theorem final_protect_call_bind (raised : Bool) (next : Unit → Script State B) (state : State) :
    final (protect (call raised) >>= next) state = final (next ()) state := by
  cases raised <;> rfl

/-- The handler of a call answers another value, unless it raises as well. -/
theorem final_recover_bind (raised handlerRaised : Bool) (value other : A) (next : A → Script State B)
    (state : State) :
    final (recover (call raised >>= fun _ => pure value) (call handlerRaised >>= fun _ => pure other) >>= next) state =
      if raised then (if handlerRaised then state else final (next other) state) else final (next value) state := by
  cases raised <;> cases handlerRaised <;> rfl

/-- The view shows the same before and after a run, whatever raises. -/
def Keeps (view : State → B) (script : Script State A) : Prop := ∀ state, view (final script state) = view state

theorem Keeps.bind {view : State → B} {C : Type} {first : Script State A} {next : A → Script State C}
    (start : Keeps view first) (rest : ∀ value, Keeps view (next value)) : Keeps view (first >>= next) := by
  intro state
  show view (andThen first next state).2 = view state
  have kept := start state
  unfold final at kept
  unfold andThen
  cases result : first state with
  | mk outcome after =>
      rw [result] at kept
      cases outcome with
      | error failure => exact kept
      | ok value => exact (rest value after).trans kept

theorem Keeps.call (view : State → B) (raised : Bool) : Keeps view (Script.call raised : Script State Unit) := fun _ => rfl

theorem Keeps.pure (view : State → B) (value : A) : Keeps view (Pure.pure value : Script State A) := fun _ => rfl

/-- The script ends in this state without an exception. -/
def RunsTo (script : Script State Unit) (state after : State) : Prop := script state = (.ok (), after)

theorem runsTo_bind {first : Script State Unit} {next : Unit → Script State Unit} {state after : State} :
    RunsTo (first >>= next) state after ↔ ∃ middle, RunsTo first state middle ∧ RunsTo (next ()) middle after := by
  show andThen first next state = (.ok (), after) ↔ _
  unfold RunsTo andThen
  cases result : first state with
  | mk outcome middle => cases outcome <;> simp

theorem exists_runsTo_iff {script : Script State Unit} {state : State} :
    (∃ after, RunsTo script state after) ↔ (script state).1.isOk = true := by
  unfold RunsTo
  cases ran : script state with
  | mk result after =>
      cases result with
      | ok value => simp [Except.isOk, Except.toBool]
      | error failure => simp [Except.isOk, Except.toBool]

@[simp] theorem runsTo_call {raised : Bool} {state after : State} :
    RunsTo (call raised) state after ↔ raised = false ∧ after = state := by
  unfold RunsTo call
  cases raised <;> simp [eq_comm]

@[simp] theorem runsTo_pure {state after : State} : RunsTo (pure ()) state after ↔ after = state := by
  show ((.ok (), state) : Except Unit Unit × State) = (.ok (), after) ↔ _
  simp [eq_comm]

/-- A silent script leaves the state alone, whatever raises. -/
def Silent (script : Script State A) : Prop := ∀ state, final script state = state

theorem Silent.call (raised : Bool) : Silent (Script.call raised : Script State Unit) := fun _ => rfl

theorem Silent.answer (value : A) : Silent (Script.answer value : Script State A) := fun _ => rfl

theorem Silent.bind {first : Script State A} {next : A → Script State B} (start : Silent first)
    (rest : ∀ value, Silent (next value)) : Silent (first >>= next) := by
  have kept : Keeps id (first >>= next) := Keeps.bind start rest
  exact kept

theorem Silent.protect {body : Script State Unit} (silent : Silent body) : Silent (Script.protect body) := by
  intro state
  have kept := silent state
  unfold final at kept
  unfold final Script.protect recover
  cases result : body state with
  | mk outcome after =>
      rw [result] at kept
      cases outcome <;> exact kept

end Script

end P3Portal.Foundation
