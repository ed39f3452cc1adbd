import Hotplug.Proofs.Yields
import Hotplug.Service

/-!
# Services that record their calls

Any service can be made to record the calls that it gets. It answers as it did,
so what is said of the calls to such a service is said of every service.
-/

namespace Hotplug

/-- A service with the calls that were made to it, oldest first. -/
structure Traced (σ : Type) where
  service : σ
  calls : List ServiceCall := []

namespace Traced

variable {σ α : Type}

def record (call : ServiceCall) (step : Run σ α) : Run (Traced σ) α := do
  modify fun traced => { traced with calls := traced.calls ++ [call] }
  step.zoom (fun traced => traced.service) fun service traced =>
    { traced with service := service }

theorem start_record (call : ServiceCall) (step : Run σ α) (traced : Traced σ) :
    (record call step).start traced =
      ((step.start traced.service).1,
        ⟨(step.start traced.service).2, traced.calls ++ [call]⟩) := rfl

theorem yields_record (call : ServiceCall) (step : Run σ α)
    (traced : Traced σ) :
    (record call step).Yields traced
      (fun _ left => left.calls = traced.calls ++ [call])
      fun left => left.calls = traced.calls ++ [call] := by
  rw [record, Run.yields_bind, Run.yields_modify, Run.yields_zoom]
  unfold Run.Yields
  split <;> rfl

end Traced

instance {σ : Type} [Service σ] : Service (Traced σ) where
  managedObjects := Traced.record .managedObjects Service.managedObjects
  getProperty key := Traced.record (.getProperty key) (Service.getProperty key)
  getAll udi interface := Traced.record (.getAll udi interface)
    (Service.getAll udi interface)

theorem Traced.start_mapM_getAll {σ : Type} [Service σ] {udi : String}
    {names : List String} {replies : List (Except ServiceError Properties)}
    {service left : σ}
    (answered : (names.mapM (Service.getAll udi)).start service =
      (.ok replies, left))
    (calls : List ServiceCall) :
    (names.mapM (Service.getAll udi)).start (⟨service, calls⟩ : Traced σ) =
      (.ok replies, ⟨left, calls ++ names.map (.getAll udi)⟩) := by
  induction names generalizing service replies calls with
  | nil =>
      cases answered
      simp
  | cons name names induction =>
      obtain ⟨reply, middle, later, first, others, rfl⟩ :=
        Run.start_mapM_cons_eq_ok_iff.mp answered
      refine Run.start_mapM_cons_eq_ok_iff.mpr
        ⟨reply, ⟨middle, calls ++ [.getAll udi name]⟩, later, ?_, ?_, rfl⟩
      · change (record _ _).start _ = _
        rw [start_record, first]
      · rw [induction others]
        simp

end Hotplug
