import Hotplug.DeviceEvent
import Hotplug.Proofs.Yields

/-!
# What callbacks do

A callback is a program on the whole state. It may look at the state before each
of its actions, and actions may run callbacks in turn. What is done can be noted
in a list, to which notes are added at the end.
-/

namespace Hotplug

variable {σ α κ : Type}

/-- One action after the other, where each may depend on the state after the one
before. -/
inductive Script (σ α : Type) where
  | done
  | act (action : α) (next : σ → Script σ α)

namespace Script

def follow (perform : α → Run σ Unit) : Script σ α → Run σ Unit
  | done => return ()
  | act action next => do
      perform action
      (next (← get)).follow perform

theorem keeps_follow {property : σ → Prop} {perform : α → Run σ Unit}
    (each : ∀ action, (perform action).Keeps property) (script : Script σ α) :
    (script.follow perform).Keeps property := by
  -- By induction on the script, with the state general.
  induction script with
  | done => exact fun _ holds => holds
  | act action next induction =>
      intro state holds
      rw [follow, Run.yields_bind]
      refine (each action state holds).mono ?_ fun _ failed => failed
      intro _ left holdsLeft
      rw [Run.yields_bind, Run.yields_get]
      exact induction left left holdsLeft

end Script

/-- Callbacks that follow a script, and let others be called at most so many
levels deep. -/
def reactionsTo (perform : (κ → DeviceEvent → Run σ Unit) → α → Run σ Unit)
    (react : κ → DeviceEvent → σ → Script σ α) :
    Nat → κ → DeviceEvent → Run σ Unit
  | 0, _, _ => .crash "callbacks nest too deep"
  | depth + 1, callback, event => do
      (react callback event (← get)).follow
        (perform (reactionsTo perform react depth))

/-- The state after several actions. An action that crashes leaves its
traces. -/
def afterActions (perform : (κ → DeviceEvent → Run σ Unit) → α → Run σ Unit)
    (react : κ → DeviceEvent → σ → Script σ α) (depth : Nat) (actions : List α)
    (state : σ) :
    σ :=
  actions.foldl (fun left action =>
    ((perform (reactionsTo perform react depth) action).start left).2) state

section Keeping

variable {ι : Type} {property : ι → σ → Prop}
  {perform : (κ → DeviceEvent → Run σ Unit) → α → Run σ Unit}
  {react : κ → DeviceEvent → σ → Script σ α}

/-- Each property is kept by every action, if callbacks within the action keep
all of them. -/
def KeptByActions (property : ι → σ → Prop)
    (perform : (κ → DeviceEvent → Run σ Unit) → α → Run σ Unit) : Prop :=
  ∀ callbacks, (∀ index callback event,
    (callbacks callback event).Keeps (property index)) →
    ∀ index action, (perform callbacks action).Keeps (property index)

theorem KeptByActions.keeps_reactionsTo (kept : KeptByActions property perform)
    (depth : Nat) (index : ι) (callback : κ) (event : DeviceEvent) :
    (reactionsTo perform react depth callback event).Keeps
      (property index) := by
  -- Callbacks keep what actions keep, by induction on how deep they nest.
  induction depth generalizing index callback event with
  | zero => exact fun _ holds => holds
  | succ depth induction =>
      intro state holds
      rw [reactionsTo, Run.yields_bind, Run.yields_get]
      exact Script.keeps_follow (kept _ induction index) _ state holds

theorem KeptByActions.afterActions (kept : KeptByActions property perform)
    (depth : Nat) (actions : List α) {index : ι} {state : σ}
    (holds : property index state) :
    property index (afterActions perform react depth actions state) := by
  induction actions generalizing state with
  | nil => exact holds
  | cons action actions induction =>
      exact induction (kept _ (kept.keeps_reactionsTo depth) index
        action state holds).left

end Keeping

section Noting

variable {notes : List α} {last note : α} {place : Nat}

theorem getElem?_concat_cases (found : (notes ++ [last])[place]? = some note) :
    place < notes.length ∧ notes[place]? = some note ∨ place = notes.length ∧
      note = last := by
  rw [List.getElem?_append] at found
  split at found
  · next below => exact .inl ⟨below, found⟩
  · next above =>
      obtain ⟨single, same⟩ := List.getElem?_eq_some_iff.mp found
      rw [List.length_singleton] at single
      exact .inr ⟨by omega, by simpa using same.symm⟩

end Noting

end Hotplug
