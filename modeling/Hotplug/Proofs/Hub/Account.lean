import Hotplug.Proofs.Hub.Steps
import Hotplug.Proofs.Predicate.Evaluation

/-!
# What queries keep

Queries get handles, give some of them up, and ask backends in between. A
property of the hub and of the handles that are out is kept by every query if it
is kept by each of these steps, also when a backend crashes.
-/

namespace Hotplug

namespace Hub

variable {n : Nat} {β ο κ ω : Type} [Backend β ο]

section Holding

variable {account : List Handle → Hub n β ο κ ω → Prop}
  {out found : List Handle} {hub : Hub n β ο κ ω}

theorem releaseAll_of
    (releasing : ∀ out hub handle, account (handle :: out) hub →
      account out (hub.release handle))
    (handles : List Handle) (holds : account (handles ++ out) hub) :
    account out (hub.releaseAll handles) := by
  induction handles generalizing hub with
  | nil => exact holds
  | cons handle handles induction =>
      exact induction (releasing _ _ handle holds)

theorem yields_findAll_of
    (shuffled : ∀ out shuffled hub, out.Perm shuffled → account out hub →
      account shuffled hub)
    (releasing : ∀ out hub handle, account (handle :: out) hub →
      account out (hub.release handle))
    {ids : List String}
    (finding : ∀ udi ∈ ids, ∀ out hub, account out hub →
      (find udi).Yields hub (fun handle => account (handle :: out))
      (account out))
    (holds : account (found ++ out) hub) :
    (findAll found ids).Yields hub (fun all => account (all ++ out))
      (account out) := by
  refine Run.yields_foldlM (fun all => account (all ++ out)) holds ?_
  intro udi member all left holdsLeft
  rw [Run.yields_bind, yields_whileHolding]
  refine (finding udi member _ left holdsLeft).mono ?_ ?_
  · intro handle final holdsFinal
    apply shuffled _ _ final _ holdsFinal
    rw [List.append_assoc]
    exact List.perm_middle.symm
  · intro final holdsFinal
    exact releaseAll_of releasing all holdsFinal

end Holding

/-- The property follows the handles that are got and given up, and no question
to a backend changes it. Reloading is no question. -/
structure Account (account : List Handle → Hub n β ο κ ω → Prop) : Prop where
  shuffled : ∀ {out shuffled hub}, out.Perm shuffled → account out hub →
    account shuffled hub
  finding : ∀ {out hub} udi, account out hub →
    (find udi).Yields hub (fun handle => account (handle :: out)) (account out)
  releasing : ∀ {out hub} handle, account (handle :: out) hub →
    account out (hub.release handle)
  listing : ∀ out i parent capability,
    (atBackend i (Backend.list parent (some capability))).Keeps (account out)
  answering : ∀ out ref, (deviceAt ref).Preserves (account out)
  naming : ∀ out ref, (deviceAt ref).parent.Keeps (account out)

namespace Account

variable {account : List Handle → Hub n β ο κ ω → Prop}
  {out found : List Handle} {hub : Hub n β ο κ ω}

theorem withNull (keeps : Account account) (holds : account out hub) :
    account (.null :: out) hub :=
  yields_find_null.mp (keeps.finding "" holds)

theorem releasingAll (keeps : Account account) (handles : List Handle)
    (holds : account (handles ++ out) hub) :
    account out (hub.releaseAll handles) :=
  @releaseAll_of _ _ _ _ _ _ account _ _
    (fun _ _ => keeps.releasing) handles holds

theorem yields_findAll (keeps : Account account) (ids : List String)
    (holds : account (found ++ out) hub) :
    (findAll found ids).Yields hub (fun all => account (all ++ out))
      (account out) :=
  @yields_findAll_of _ _ _ _ _ _ account _ _ _ (fun _ _ _ => keeps.shuffled)
    (fun _ _ => keeps.releasing) ids (fun udi _ _ _ => keeps.finding udi) holds

theorem yields_everyDevice (keeps : Account account)
    (reloading : ∀ out i, (atBackend i Backend.reload).Keeps (account out))
    (holds : account out hub) :
    everyDevice.Yields hub (fun all => account (all ++ out)) (account out) := by
  rw [everyDevice, Run.yields_bind, Run.yields_get]
  refine Run.yields_foldlM (fun all => account (all ++ out)) holds ?_
  intro i _ all left holdsLeft
  rw [Run.yields_bind, yields_whileHolding]
  refine (reloading _ i left holdsLeft).mono ?_ ?_
  · intro ids final holdsFinal
    exact keeps.yields_findAll ids holdsFinal
  · intro final holdsFinal
    exact keeps.releasingAll all holdsFinal

theorem yields_reload
    (reloading : ∀ i, (atBackend i Backend.reload).Keeps (account out))
    (holds : account out hub) :
    reload.Yields hub (fun _ => account out) (account out) := by
  rw [reload, Run.yields_bind, Run.yields_get]
  refine Run.yields_foldlM (fun _ => account out) holds ?_
  intro i _ count left holdsLeft
  rw [Run.yields_bind]
  exact reloading i left holdsLeft

theorem yields_ask_selects (keeps : Account account) (handle : Handle)
    (predicate : Predicate) :
    (ask handle false fun device => predicate.selects device).Keeps
      (account out) := by
  intro left holds
  rw [yields_ask]
  cases left.object? handle with
  | none => exact holds
  | some ref =>
      exact Predicate.keeps_selects (keeps.answering out ref)
        predicate left holds

theorem yields_examine (keeps : Account account) (predicate : Predicate)
    (udi : String) (holds : account out hub) :
    (examine predicate udi).Yields hub
      (fun found => account (found.toList ++ out)) (account out) := by
  rw [examine, Run.yields_bind]
  refine (keeps.finding udi holds).mono ?_ fun _ failed => failed
  intro handle left holdsLeft
  rw [Run.yields_bind, yields_whileHolding]
  refine (keeps.yields_ask_selects handle predicate left holdsLeft).mono ?_ ?_
  · intro matched final holdsFinal
    cases matched with
    | true => exact holdsFinal
    | false => exact keeps.releasing handle holdsFinal
  · intro final holdsFinal
    exact keeps.releasing handle holdsFinal

theorem yields_examineOnce (keeps : Account account) (predicate : Predicate)
    (state : QueryState) (udi : String)
    (holds : account (state.found ++ out) hub) :
    (examineOnce predicate state udi).Yields hub
      (fun after => account (after.found ++ out)) (account out) := by
  rw [examineOnce]
  split
  · exact holds
  · rw [Run.yields_bind, yields_whileHolding]
    refine (keeps.yields_examine predicate udi holds).mono ?_ ?_
    · intro handle final holdsFinal
      apply keeps.shuffled _ holdsFinal
      rw [← List.append_assoc]
      exact List.perm_append_comm.append_right out
    · intro final holdsFinal
      exact keeps.releasingAll state.found holdsFinal

theorem yields_queryCapability (keeps : Account account) (predicate : Predicate)
    (parent : Option String) (i : Fin n) (state : QueryState)
    (capability : Capability) (holds : account (state.found ++ out) hub) :
    (queryCapability predicate parent i state capability).Yields hub
      (fun after => account (after.found ++ out)) (account out) := by
  rw [queryCapability, Run.yields_bind, yields_whileHolding]
  refine (keeps.listing _ i parent capability hub holds).mono ?_ ?_
  · intro ids left holdsLeft
    refine Run.yields_foldlM
      (fun (after : QueryState) => account (after.found ++ out)) holdsLeft ?_
    intro udi _ after final holdsFinal
    exact keeps.yields_examineOnce predicate after udi holdsFinal
  · intro left holdsLeft
    exact keeps.releasingAll state.found holdsLeft

theorem yields_queryBackend (keeps : Account account) (predicate : Predicate)
    (parent : Option String) (i : Fin n) (holds : account (found ++ out) hub) :
    (queryBackend predicate parent found i).Yields hub
      (fun all => account (all ++ out)) (account out) := by
  simp only [queryBackend, Run.yields_bind, Run.yields_get, Run.yields_pure]
  refine Run.yields_foldlM
    (fun (after : QueryState) => account (after.found ++ out)) holds ?_
  intro capability _ after left holdsLeft
  exact keeps.yields_queryCapability predicate parent i after
    capability holdsLeft

/-- What a query selects is out afterwards, and nothing is if it crashes. A
predicate other than the empty one reloads nothing. -/
theorem yields_select_of_filled (keeps : Account account)
    {predicate : Predicate} (filled : predicate.isEmpty = false)
    (parent : Option String) (holds : account out hub) :
    (select predicate parent).Yields hub (fun all => account (all ++ out))
      (account out) := by
  rw [select, filled]
  split
  · exact holds
  · rw [if_neg Bool.false_ne_true, Run.yields_bind, Run.yields_get]
    refine Run.yields_foldlM (fun all => account (all ++ out)) holds ?_
    intro i _ all left holdsLeft
    exact keeps.yields_queryBackend predicate parent i holdsLeft

theorem yields_select (keeps : Account account)
    (reloading : ∀ out i, (atBackend i Backend.reload).Keeps (account out))
    (predicate : Predicate) (parent : Option String) (holds : account out hub) :
    (select predicate parent).Yields hub (fun all => account (all ++ out))
      (account out) := by
  cases empty : predicate.isEmpty with
  | false => exact keeps.yields_select_of_filled empty parent holds
  | true =>
      rw [select, empty]
      split
      · exact holds
      · exact keeps.yields_everyDevice reloading holds

theorem yields_devicesWith (keeps : Account account) (capability : Capability)
    (parent : Option String) (holds : account out hub) :
    (devicesWith capability parent).Yields hub (fun all => account (all ++ out))
      (account out) := by
  rw [devicesWith, Run.yields_bind, Run.yields_get]
  refine Run.yields_foldlM (fun all => account (all ++ out)) holds ?_
  intro i _ all left holdsLeft
  rw [Run.yields_bind, Run.yields_get]
  split
  · rw [Run.yields_bind, yields_whileHolding]
    refine (keeps.listing _ i parent capability left holdsLeft).mono ?_ ?_
    · intro ids final holdsFinal
      exact keeps.yields_findAll ids holdsFinal
    · intro final holdsFinal
      exact keeps.releasingAll all holdsFinal
  · exact holdsLeft

theorem yields_mountOf (keeps : Account account) (handle : Handle) :
    (mountOf handle).Keeps (account out) := by
  intro left holds
  rw [mountOf, Run.yields_bind, storage?, yields_ask]
  cases left.object? handle with
  | none => exact holds
  | some ref =>
      have preserves := keeps.answering out ref
      simp only [Device.storage?, Run.yields_bind]
      refine (Predicate.keeps_reports preserves .storageAccess left holds).mono
        ?_ fun _ failed => failed
      intro reported final holdsFinal
      cases reported with
      | false => exact holdsFinal
      | true =>
          simp only [if_true, Run.yields_pure, StorageView.mountPath,
            StorageView.read, Run.yields_bind]
          exact preserves.property _ _ final holdsFinal

theorem yields_innermost (keeps : Account account) (path : String)
    (handles : List Handle) (best : Handle) (length : Nat)
    (holds : account (best :: handles ++ out) hub) :
    (innermost path best length handles).Yields hub
      (fun handle => account (handle :: out)) (account out) := by
  induction handles generalizing best length hub with
  | nil => exact holds
  | cons handle rest induction =>
      rw [innermost, Run.yields_bind, yields_whileHolding]
      refine (keeps.yields_mountOf handle hub holds).mono ?_ ?_
      · intro reported left holdsLeft
        dsimp only
        split
        · rw [Run.yields_bind, Run.yields_modify]
          exact induction handle _ (keeps.releasing best holdsLeft)
        · rw [Run.yields_bind, Run.yields_modify]
          apply induction best _ (keeps.releasing handle _)
          exact keeps.shuffled (List.Perm.swap _ _ _) holdsLeft
      · intro left holdsLeft
        exact keeps.releasingAll (best :: handle :: rest) holdsLeft

theorem yields_storageFromPath (keeps : Account account)
    (pathExists : String → Bool) (path : String) (holds : account out hub) :
    (storageFromPath pathExists path).Yields hub
      (fun handle => account (handle :: out)) (account out) := by
  rw [storageFromPath]
  split
  · rw [Run.yields_bind]
    refine (keeps.yields_devicesWith .storageAccess none holds).mono ?_
      fun _ failed => failed
    intro handles left holdsLeft
    exact keeps.yields_innermost _ handles .null 0 (keeps.withNull holdsLeft)
  · exact keeps.withNull holds

theorem yields_parent (keeps : Account account) (handle : Handle)
    (holds : account out hub) :
    (parent handle).Yields hub (fun above => account (above :: out))
      (account out) := by
  have asked : (parentUdi handle).Yields hub (fun _ => account out)
      (account out) := by
    rw [parentUdi, yields_ask]
    cases hub.object? handle with
    | none => exact holds
    | some ref => exact keeps.naming out ref hub holds
  rw [parent, Run.yields_bind]
  refine asked.mono ?_ fun _ failed => failed
  intro answer left holdsLeft
  cases answer with
  | none => exact keeps.withNull holdsLeft
  | some udi => exact keeps.finding udi holdsLeft

end Account

end Hub

end Hotplug
