import Hotplug.Hub.Delivery
import Hotplug.Proofs.Script

/-!
# A journal of subscriptions

What is done to the subscriptions of a hub is noted, and so are the broadcasts
and the calls they make. From the notes alone it can be told which subscriptions
stand: those that were not taken back later.
-/

namespace Hotplug

/-- What is noted, each time after it was done. -/
inductive Notice (κ : Type) where
  | subscribed (kind : EventKind) (id : Nat) (callback : κ)
  | unsubscribed (id : Nat) (before : Audience κ) (answer : Bool)
    (after : Audience κ)
  | cleared
  /-- A broadcast is about to begin. Its number is that of the notices before
  this one. -/
  | started (event : DeviceEvent)
  /-- A broadcast is about to call a callback. -/
  | called (broadcast : Nat) (callback : κ) (event : DeviceEvent)
  | ended (broadcast : Nat)

/-- The oldest notice comes first. -/
abbrev Journal (κ : Type) : Type := List (Notice κ)

variable {κ : Type}

namespace Notice

/-- The subscription of this number is no more. -/
def ends (id : Nat) : Notice κ → Bool
  | unsubscribed other _ _ _ => other == id
  | cleared => true
  | _ => false

def entry (kind : EventKind) : Notice κ → List (Subscription κ)
  | subscribed other id callback =>
      if other = kind then [⟨id, callback⟩] else []
  | _ => []

def ids : Notice κ → List Nat
  | subscribed _ id _ => [id]
  | _ => []

def callsOf (broadcast : Nat) : Notice κ → List (κ × DeviceEvent)
  | called other callback event =>
      if other = broadcast then [(callback, event)] else []
  | _ => []

/-- The notice tells of this broadcast. -/
def concerns (broadcast : Nat) : Notice κ → Prop
  | called other _ _ => other = broadcast
  | ended other => other = broadcast
  | _ => False

theorem eq_of_mem_entry {kind : EventKind} {notice : Notice κ}
    {subscription : Subscription κ}
    (member : subscription ∈ notice.entry kind) :
    notice = .subscribed kind subscription.id subscription.callback := by
  cases notice with
  | subscribed other id callback =>
      rw [entry] at member
      split at member
      · next same =>
          cases List.mem_singleton.mp member
          rw [same]
      · cases member
  | _ => cases member

end Notice

namespace Journal

/-- The subscriptions of a kind that were not ended later, in the order of their
notices. -/
def standing (kind : EventKind) : Journal κ → List (Subscription κ)
  | [] => []
  | notice :: later =>
      (notice.entry kind).filter
        (fun subscription => !later.any (Notice.ends subscription.id))
        ++ standing kind later

/-- The numbers that were handed out. -/
def ids (journal : Journal κ) : List Nat := journal.flatMap Notice.ids

/-- The calls of a broadcast, in order. -/
def callsOf (broadcast : Nat) (journal : Journal κ) : List (κ × DeviceEvent) :=
  journal.flatMap (Notice.callsOf broadcast)

/-- The calls that an event is due to if it is broadcast now. -/
def due (event : DeviceEvent) (journal : Journal κ) : List (κ × DeviceEvent) :=
  (standing event.kind journal).map
    fun subscription => (subscription.callback, event)

@[simp] theorem ids_append (first second : Journal κ) :
    ids (first ++ second) = ids first ++ ids second :=
  List.flatMap_append

@[simp] theorem callsOf_append (broadcast : Nat) (first second : Journal κ) :
    callsOf broadcast (first ++ second) =
      callsOf broadcast first ++ callsOf broadcast second :=
  List.flatMap_append

theorem callsOf_eq_nil {broadcast : Nat} {journal : Journal κ}
    (silent : ∀ notice ∈ journal, ¬notice.concerns broadcast) :
    callsOf broadcast journal = [] := by
  refine List.flatMap_eq_nil_iff.mpr fun notice member => ?_
  cases notice with
  | called other callback event => exact if_neg (silent _ member)
  | _ => rfl

/-- One more notice ends some subscriptions, or adds one at the end. -/
theorem standing_concat (kind : EventKind) (journal : Journal κ)
    (last : Notice κ) :
    standing kind (journal ++ [last]) =
      (standing kind journal).filter
        (fun subscription => !last.ends subscription.id)
        ++ last.entry kind := by
  induction journal with
  | nil => simp [standing]
  | cons notice journal induction =>
      rw [List.cons_append, standing, induction, standing, List.filter_append,
        List.filter_filter, List.append_assoc]
      congr 1
      refine List.filter_congr fun subscription _ => ?_
      rw [List.any_append, List.any_cons, List.any_nil, Bool.or_false,
        Bool.not_or, Bool.and_comm]

theorem standing_concat_of_lasting {kind : EventKind} {journal : Journal κ}
    {last : Notice κ} (lasting : ∀ id, last.ends id = false) :
    standing kind (journal ++ [last]) =
      standing kind journal ++ last.entry kind := by
  rw [standing_concat, List.filter_eq_self.mpr]
  intro subscription _
  rw [lasting, Bool.not_false]

theorem standing_sublist (kind : EventKind) (journal : Journal κ) :
    ((standing kind journal).map Subscription.id).Sublist (ids journal) := by
  induction journal with
  | nil => exact List.Sublist.slnil
  | cons notice later induction =>
      rw [standing, List.map_append]
      refine List.Sublist.append
        ((List.filter_sublist.map _).trans ?_) induction
      cases notice with
      | subscribed other id callback =>
          rw [Notice.entry]
          split
          · exact List.Sublist.refl _
          · exact List.nil_sublist _
      | _ => exact List.nil_sublist _

theorem nodup_standing {journal : Journal κ} (distinct : (ids journal).Nodup)
    (kind : EventKind) :
    ((standing kind journal).map Subscription.id).Nodup :=
  distinct.sublist (standing_sublist kind journal)

theorem mem_ids_of_mem_standing {kind : EventKind} {journal : Journal κ}
    {subscription : Subscription κ}
    (member : subscription ∈ standing kind journal) :
    subscription.id ∈ ids journal :=
  (standing_sublist kind journal).subset (List.mem_map_of_mem member)

/-- A number that was handed out once belongs to one kind. -/
theorem kind_eq_of_mem_standing {journal : Journal κ}
    (distinct : (ids journal).Nodup) {kind other : EventKind}
    {one another : Subscription κ} (member : one ∈ standing kind journal)
    (otherMember : another ∈ standing other journal)
    (same : one.id = another.id) :
    kind = other := by
  induction journal with
  | nil => cases member
  | cons notice later induction =>
      rw [ids, List.flatMap_cons] at distinct
      obtain ⟨_, distinctLater, apart⟩ := List.nodup_append.mp distinct
      rw [standing, List.mem_append] at member otherMember
      rcases member with here | there <;>
        rcases otherMember with otherHere | otherThere
      · have entered := Notice.eq_of_mem_entry (List.mem_filter.mp here).1
        have otherEntered := Notice.eq_of_mem_entry
          (List.mem_filter.mp otherHere).1
        rw [entered] at otherEntered
        injection otherEntered
      · have entered := Notice.eq_of_mem_entry (List.mem_filter.mp here).1
        exact absurd same
          (apart _ (by simp [entered, Notice.ids]) _
            (mem_ids_of_mem_standing otherThere))
      · have entered := Notice.eq_of_mem_entry (List.mem_filter.mp otherHere).1
        exact absurd same.symm
          (apart _ (by simp [entered, Notice.ids]) _
            (mem_ids_of_mem_standing there))
      · exact induction distinctLater there otherThere

end Journal

end Hotplug
