import Mathlib.Data.List.Nodup
import Hotplug.Backend.Service
import Hotplug.Cache.RemovableMedia
import Hotplug.Proofs.Hub.Steps
import Hotplug.Service.Memory

/-!
# Devices that are found again

A query goes from backend to backend, and what it has seen at one of them is
forgotten at the next. So it is as good as one query for each backend: a device
is found once at most at each of them, whatever the backend lists and for
however many capabilities, and found again at every other backend that lists it
too.
-/

namespace Hotplug

namespace Hub

variable {n : Nat} {α β ο κ ω : Type} [Backend β ο] {hub left : Hub n β ο κ ω}
  {predicate : Predicate} {parent : Option String} {i : Fin n} {udi : String}
  {found : List Handle}

theorem start_whileHolding_eq_ok_iff {step : Run (Hub n β ο κ ω) α}
    {answer : α} :
    (whileHolding found step).start hub = (.ok answer, left) ↔
      step.start hub = (.ok answer, left) :=
  Run.start_onCrash_eq_ok_iff

section Carrying

/-- The handles that were found before have no influence on what is found
next. -/
def Carries (step : QueryState → Run (Hub n β ο κ ω) QueryState) : Prop :=
  ∀ {seen found hub after left}, (step ⟨seen, found⟩).start hub =
    (.ok after, left) → ∃ more, after.found = found ++ more ∧ ∀ other,
      (step ⟨seen, other⟩).start hub = (.ok ⟨after.seen, other ++ more⟩, left)

omit [Backend β ο] in
theorem carries_foldlM {step : QueryState → α → Run (Hub n β ο κ ω) QueryState}
    {items : List α} (each : ∀ item, Carries fun state => step state item) :
    Carries fun state => items.foldlM step state := by
  induction items with
  | nil =>
      intro seen found hub after left ran
      cases ran
      exact ⟨[], (List.append_nil _).symm,
        fun other => by rw [List.append_nil]; rfl⟩
  | cons item items induction =>
      intro seen found hub after left ran
      dsimp only at ran
      rw [List.foldlM_cons] at ran
      obtain ⟨⟨seenThen, foundThen⟩, middle, first, rest⟩ :=
        Run.start_bind_eq_ok_iff.mp ran
      obtain ⟨more, rfl, again⟩ := each item first
      obtain ⟨later, all, againLater⟩ := induction rest
      refine ⟨more ++ later, by rw [all, List.append_assoc], fun other => ?_⟩
      dsimp only
      rw [List.foldlM_cons, ← List.append_assoc]
      exact Run.start_bind_eq_ok_iff.mpr ⟨_, _, again other, againLater _⟩

theorem carries_examineOnce (predicate : Predicate) (udi : String) :
    Carries fun state : QueryState =>
      (examineOnce predicate state udi : Run (Hub n β ο κ ω) QueryState) := by
  intro seen found hub after left ran
  simp only [examineOnce] at ran ⊢
  split at ran
  · next member =>
      cases ran
      exact ⟨[], (List.append_nil _).symm,
        fun other => by rw [if_pos member, List.append_nil]; rfl⟩
  · next fresh =>
      obtain ⟨handle, middle, examined, ended⟩ :=
        Run.start_bind_eq_ok_iff.mp ran
      cases ended
      refine ⟨handle.toList, rfl, fun other => ?_⟩
      rw [if_neg fresh]
      exact Run.start_bind_eq_ok_iff.mpr ⟨handle, left,
        start_whileHolding_eq_ok_iff.mpr
          (start_whileHolding_eq_ok_iff.mp examined), rfl⟩

theorem carries_queryCapability (predicate : Predicate) (parent : Option String)
    (i : Fin n) (capability : Capability) :
    Carries fun state : QueryState =>
      (queryCapability predicate parent i state capability :
        Run (Hub n β ο κ ω) QueryState) := by
  intro seen found hub after left ran
  obtain ⟨ids, middle, listed, examined⟩ := Run.start_bind_eq_ok_iff.mp ran
  obtain ⟨more, all, again⟩ :=
    carries_foldlM (fun udi => carries_examineOnce predicate udi) examined
  refine ⟨more, all, fun other => ?_⟩
  exact Run.start_bind_eq_ok_iff.mpr ⟨ids, middle,
    start_whileHolding_eq_ok_iff.mpr (start_whileHolding_eq_ok_iff.mp listed),
      again other⟩

/-- A backend is asked as if it were the first one. -/
theorem start_queryBackend_eq_ok {all : List Handle}
    (ran : (queryBackend predicate parent found i).start hub =
      (.ok all, left)) :
    ∃ part, (queryBackend predicate parent [] i).start hub = (.ok part, left) ∧
      all = found ++ part := by
  obtain ⟨_, _, got, ran⟩ := Run.start_bind_eq_ok_iff.mp ran
  obtain ⟨after, middle, asked, ended⟩ := Run.start_bind_eq_ok_iff.mp ran
  cases ended
  obtain ⟨more, all, again⟩ :=
    carries_foldlM (fun capability => carries_queryCapability predicate parent
      i capability) asked
  refine ⟨more, ?_, all⟩
  exact Run.start_bind_eq_ok_iff.mpr ⟨_, _, got,
    Run.start_bind_eq_ok_iff.mpr ⟨_, _, again [], rfl⟩⟩

/-- A query of all backends is one query for each of them. -/
theorem start_foldlM_queryBackend_eq_ok {roster : List (Fin n)}
    {all : List Handle}
    (ran : (roster.foldlM (queryBackend predicate parent) found).start hub =
      (.ok all, left)) :
    ∃ parts, (roster.mapM (queryBackend predicate parent [])).start hub =
      (.ok parts, left) ∧ all = found ++ parts.flatten := by
  induction roster generalizing hub found with
  | nil =>
      cases ran
      exact ⟨[], rfl, (List.append_nil _).symm⟩
  | cons i roster induction =>
      rw [List.foldlM_cons] at ran
      obtain ⟨foundThen, middle, first, rest⟩ := Run.start_bind_eq_ok_iff.mp ran
      obtain ⟨part, alone, rfl⟩ := start_queryBackend_eq_ok first
      obtain ⟨parts, others, rfl⟩ := induction rest
      refine ⟨part :: parts, ?_, by rw [List.flatten_cons, List.append_assoc]⟩
      exact Run.start_mapM_cons_eq_ok_iff.mpr ⟨part, middle, parts,
        alone, others, rfl⟩

end Carrying

section Seeing

/-- The handles that were found are those of different devices, which were all
seen. -/
def QueryState.Distinct (state : QueryState) : Prop :=
  (state.found.map Handle.udi).Nodup ∧ ∀ handle ∈ state.found,
    handle.udi ∈ state.seen

theorem yields_find_udi (udi : String) (hub : Hub n β ο κ ω) :
    (find udi).Yields hub (fun handle _ => handle.udi = udi) fun _ => True := by
  rw [find]
  split
  · next null => exact null.symm
  · rw [Run.yields_bind, Run.yields_get]
    split
    · exact rfl
    · rw [Run.yields_bind]
      exact (Run.yields_start _ _).mono (fun _ _ _ => rfl) fun _ _ => trivial

theorem yields_examine_udi (predicate : Predicate) (udi : String)
    (hub : Hub n β ο κ ω) :
    (examine predicate udi).Yields hub (fun found _ => ∀ handle ∈ found,
      handle.udi = udi) fun _ => True := by
  rw [examine, Run.yields_bind]
  refine (yields_find_udi udi hub).mono ?_ fun _ _ => trivial
  intro handle left named
  rw [Run.yields_bind]
  refine (Run.yields_start _ _).mono ?_ fun _ _ => trivial
  intro matched final _
  split
  · simpa using named
  · simp

/-- What was seen before is not examined again. -/
theorem yields_examineOnce_distinct {state : QueryState}
    (distinct : state.Distinct) (predicate : Predicate) (udi : String)
    (hub : Hub n β ο κ ω) :
    (examineOnce predicate state udi).Yields hub (fun after _ => after.Distinct)
      fun _ => True := by
  rw [examineOnce]
  split
  · exact distinct
  · next fresh =>
      rw [Run.yields_bind, yields_whileHolding]
      refine (yields_examine_udi predicate udi hub).mono ?_ fun _ _ => trivial
      intro handle left named
      have unseen : udi ∉ state.seen := by simpa using fresh
      obtain ⟨nodup, seen⟩ := distinct
      cases handle with
      | none =>
          change QueryState.Distinct ⟨udi :: state.seen, state.found ++ []⟩
          rw [List.append_nil]
          exact ⟨nodup, fun other member => List.mem_cons_of_mem _
            (seen other member)⟩
      | some handle =>
          obtain rfl : handle.udi = udi := named handle rfl
          constructor
          · change ((state.found ++ [handle]).map Handle.udi).Nodup
            rw [List.map_append, List.map_singleton, ← List.concat_eq_append]
            refine List.Nodup.concat ?_ nodup
            intro member
            obtain ⟨other, found, same⟩ := List.mem_map.mp member
            exact unseen (same ▸ seen other found)
          · intro other member
            rcases List.mem_append.mp member with before | new
            · exact List.mem_cons_of_mem _ (seen other before)
            · obtain rfl : other = handle := by simpa using new
              exact List.mem_cons_self

/-- Whatever a backend lists, and for however many capabilities, each device is
found once. -/
theorem nodup_of_start_queryBackend {part : List Handle}
    (ran : (queryBackend predicate parent [] i).start hub = (.ok part, left)) :
    (part.map Handle.udi).Nodup := by
  have yields : (queryBackend predicate parent [] i).Yields hub
      (fun part _ => (part.map Handle.udi).Nodup) fun _ => True := by
    have initially : QueryState.Distinct ⟨[], []⟩ :=
      ⟨List.nodup_nil, List.forall_mem_nil _⟩
    simp only [queryBackend, Run.yields_bind, Run.yields_get, Run.yields_pure]
    refine (Run.yields_foldlM (fun (state : QueryState) _ => state.Distinct)
      initially ?_).mono (fun _ _ => And.left) fun _ => id
    intro capability _ state moment distinct
    simp only [queryCapability, Run.yields_bind, yields_whileHolding]
    refine (Run.yields_start _ _).mono ?_ fun _ _ => trivial
    intro ids listed _
    exact Run.yields_foldlM (fun (state : QueryState) _ => state.Distinct)
      distinct fun udi _ state left distinct => yields_examineOnce_distinct
        distinct predicate udi left
  exact yields.of_start_ok ran

end Seeing

theorem start_foldlM_queryBackend_invalid (roster : List (Fin n))
    (hub : Hub n β ο κ ω) :
    (roster.foldlM (queryBackend .invalid parent) []).start hub =
      (.ok [], hub) := by
  induction roster with
  | nil => rfl
  | cons i roster induction =>
      rw [List.foldlM_cons]
      exact Run.start_bind_eq_ok_iff.mpr ⟨[], hub, rfl, induction⟩

theorem start_select_eq_ok_iff (filled : predicate.isEmpty = false) :
    (select predicate parent).start hub = (.ok found, left) ↔
      (hub.registry.roster.foldlM (queryBackend predicate parent)
        []).start hub = (.ok found, left) := by
  cases predicate with
  | empty => cases filled
  | invalid =>
      rw [start_foldlM_queryBackend_invalid]
      exact Iff.rfl
  | _ => exact Iff.rfl

/-- A query answers what the attached backends would answer alone, one after the
other, and each of them would answer no device twice. So the handles that are
answered are for different devices exactly if no two backends have found the
same device. -/
theorem exists_parts_of_start_select (filled : predicate.isEmpty = false)
    (answered : (select predicate parent).start hub = (.ok found, left)) :
    ∃ parts : List (List Handle),
      (hub.registry.roster.mapM (queryBackend predicate parent [])).start hub =
        (.ok parts, left) ∧
      found = parts.flatten ∧
      (∀ part ∈ parts, (part.map Handle.udi).Nodup) ∧
      ((found.map Handle.udi).Nodup ↔ parts.Pairwise fun part later =>
        (part.map Handle.udi).Disjoint (later.map Handle.udi)) := by
  obtain ⟨parts, separate, rfl⟩ :=
    start_foldlM_queryBackend_eq_ok
      ((start_select_eq_ok_iff filled).mp answered)
  have distinct : ∀ part ∈ parts, (part.map Handle.udi).Nodup :=
    Run.forall_mem_of_start_mapM
      (fun _ _ _ _ => nodup_of_start_queryBackend) separate
  refine ⟨parts, separate, rfl, distinct, ?_⟩
  rw [List.nil_append, List.map_flatten, List.nodup_flatten, List.pairwise_map,
    List.forall_mem_map]
  exact and_iff_right distinct

section Twins

def sharedUdi : String := "/s/b/sda1"

/-- A partition, which is a block device too. -/
def sharedDisk : MemoryService where
  objects := Std.ExtTreeMap.ofList [(sharedUdi, Std.ExtTreeMap.ofList [
    ("s.Block", ∅), ("s.Partition", ∅)])]

/-- Two backends of one service, and so of the same disk. -/
def twins : Hub 2 (ServiceBackend MemoryService) ServiceObject Unit Unit where
  backends := Vector.replicate 2
    { settings := .ofConfig .compact, cache := { service := sharedDisk } }
  registry := { roster := List.finRange 2 }
  client := ()

/-- What is found of the twins. -/
def twofold : List Handle := [⟨sharedUdi, true⟩, ⟨sharedUdi, true⟩]

/-- Both capabilities of the partition are asked for, and each backend answers
it once. -/
theorem exists_parts_of_start_select_twins :
    ∃ left parts,
      (select (.any [.is .block, .is .storageVolume]) none).start twins =
        (.ok twofold, left) ∧
      ((List.finRange 2).mapM
        (queryBackend (.any [.is .block, .is .storageVolume]) none [])).start
          twins = (.ok parts, left) ∧
      twofold = parts.flatten ∧
      (∀ part ∈ parts, (part.map Handle.udi).Nodup) ∧
      ¬parts.Pairwise fun part later =>
        (part.map Handle.udi).Disjoint (later.map Handle.udi) := by
  have answered : (select (.any [.is .block, .is .storageVolume]) none).start
    twins = (.ok twofold, _) := Run.start_eq_of_toOption (by decide +kernel)
  obtain ⟨parts, separate, all, distinct, iff⟩ :=
    exists_parts_of_start_select rfl answered
  exact ⟨_, parts, answered, separate, all, distinct, fun apart =>
    absurd (iff.mpr apart) (by decide)⟩

/-- The handle of the partition is answered twice. -/
theorem not_nodup_of_start_query_twins :
    ∃ found left, (query "IS Block" none).start twins = (.ok found, left) ∧
      ¬(found.map Handle.udi).Nodup :=
  ⟨twofold, _, Run.start_eq_of_toOption (by decide +kernel), by decide⟩

end Twins

end Hub

end Hotplug
