/-!
# Steps that may crash

Everything that talks to a platform service is a step on a state. The service
may crash in the middle of a step; the step then has no answer, but whatever it
changed before that moment stays changed.
-/

namespace Hotplug

/-- Why a step stopped before it had an answer. -/
structure Crash where
  message : String
  deriving DecidableEq, Repr

/-- A step on a state of type `σ` that answers with an `α` or crashes. -/
abbrev Run (σ α : Type) : Type := ExceptT Crash (StateM σ) α

namespace Run

variable {σ τ α : Type}

/-- Start a step in a given state: its answer, and the state it leaves. -/
def start (step : Run σ α) (state : σ) : Except Crash α × σ :=
  StateT.run (ExceptT.run step) state

/-- The step with a given effect on every state. -/
def ofStart (effect : σ → Except Crash α × σ) : Run σ α :=
  ExceptT.mk (fun state => effect state)

def crash (message : String) : Run σ α :=
  throw ⟨message⟩

/-- A step on a part of the state, as a step on the whole. -/
def zoom (view : τ → σ) (put : σ → τ → τ) (step : Run σ α) : Run τ α :=
  ofStart fun whole =>
    let (answer, part) := step.start (view whole)
    (answer, put part whole)

/-- A step on a part that the state may lack. Without the part, `absent` is
answered and nothing changes. -/
def zoom? (view : τ → Option σ) (put : σ → τ → τ) (absent : α)
    (step : Run σ α) :
    Run τ α :=
  ofStart fun whole =>
    match view whole with
    | none => (.ok absent, whole)
    | some present =>
        let (answer, part) := step.start present
        (answer, put part whole)

/-- A change made after a step, whether the step answered or crashed. -/
def ensuring (step : Run σ α) (after : σ → σ) : Run σ α :=
  ofStart fun state =>
    let (answer, left) := step.start state
    (answer, after left)

/-- A change made only after a crash. -/
def onCrash (step : Run σ α) (after : σ → σ) : Run σ α :=
  ofStart fun state =>
    match step.start state with
    | (.ok answer, left) => (.ok answer, left)
    | (.error reason, left) => (.error reason, after left)

@[simp] theorem start_ofStart (effect : σ → Except Crash α × σ) (state : σ) :
    (ofStart effect).start state = effect state := rfl

@[simp] theorem start_pure (answer : α) (state : σ) :
    (pure answer : Run σ α).start state = (.ok answer, state) :=
  rfl

theorem start_bind {β : Type} (step : Run σ α) (next : α → Run σ β)
    (state : σ) :
    (step >>= next).start state =
      match step.start state with
      | (.ok answer, left) => (next answer).start left
      | (.error reason, left) => (.error reason, left) := by
  simp only [start, bind, ExceptT.bind, ExceptT.mk, ExceptT.run,
    StateT.bind, StateT.run]
  generalize (step state : Except Crash α × σ) = outcome
  rcases outcome with ⟨answer, left⟩
  cases answer <;> rfl

@[simp] theorem start_crash (message : String) (state : σ) :
    (crash message : Run σ α).start state = (.error ⟨message⟩, state) :=
  rfl

end Run

end Hotplug
