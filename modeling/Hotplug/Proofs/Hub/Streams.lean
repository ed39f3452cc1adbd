import Hotplug.Proofs.Hub.Errands

/-!
# What streams are sent

What was taken from a stream and what waits in it are together what was told
since it was opened. Opening, reading and closing other streams does not change
this.
-/

namespace Hotplug

variable {n : Nat} {σ κ ω : Type}

namespace Chronicle

variable {chronicle more : Chronicle n σ κ ω} {i : Fin n} {stream : Nat}

@[simp] theorem returnedBy_append :
    returnedBy i (chronicle ++ more) =
      returnedBy i chronicle ++ returnedBy i more :=
  List.flatMap_append

@[simp] theorem toldOf_append :
    toldOf i (chronicle ++ more) = toldOf i chronicle ++ toldOf i more :=
  List.flatMap_append

@[simp] theorem told_append :
    told (chronicle ++ more) = told chronicle ++ told more :=
  List.flatMap_append

@[simp] theorem receivedFrom_append :
    receivedFrom stream (chronicle ++ more) =
      receivedFrom stream chronicle ++ receivedFrom stream more :=
  List.flatMap_append

end Chronicle

open Chronicle

variable {audience later : Audience κ} {stream other : Nat}
  {event : DeviceEvent} {sending : List DeviceEvent}
  {chronicle more : Chronicle n σ κ ω}

/-- Open streams are numbered apart, and below the next number. -/
structure Audience.Orderly (audience : Audience κ) : Prop where
  apart : audience.streams.Nodup
  numbered : ∀ stream ∈ audience.streams, stream < audience.nextStream

/-- As long as its reader does not give the stream up, what was taken from it,
what waits in it and what is being sent are together what was told. -/
structure Watched (stream : Nat) (sending : List DeviceEvent)
    (audience : Audience κ) (chronicle : Chronicle n σ κ ω) :
    Prop where
  numbered : stream < audience.nextStream
  sent : .closed stream ∉ chronicle →
    stream ∈ audience.streams ∧ ∃ waiting,
      audience.inboxes[stream]? = some waiting ∧
      receivedFrom stream chronicle ++ waiting ++ sending = told chronicle

namespace Audience.Orderly

theorem openStream (orderly : audience.Orderly) :
    audience.openStream.2.Orderly where
  apart := by
    refine List.nodup_append.mpr ⟨orderly.apart, by simp, ?_⟩
    intro stream member next isNext same
    have below := orderly.numbered stream member
    have isNumber := List.mem_singleton.mp isNext
    omega
  numbered := by
    intro stream member
    rcases List.mem_append.mp member with earlier | new
    · exact Nat.lt_succ_of_lt (orderly.numbered stream earlier)
    · rw [List.mem_singleton.mp new]
      exact Nat.lt_succ_self _

theorem send (orderly : audience.Orderly) (event : DeviceEvent) :
    (audience.send event).Orderly where
  apart := orderly.apart.filter _
  numbered stream member :=
    orderly.numbered stream (List.mem_filter.mp member).1

theorem congr (orderly : audience.Orderly)
    (streams : later.streams = audience.streams)
    (next : later.nextStream = audience.nextStream) :
    later.Orderly :=
  ⟨streams ▸ orderly.apart, by rw [streams, next]; exact orderly.numbered⟩

end Audience.Orderly

namespace Audience

theorem receive_streams (other : Nat) (audience : Audience κ) :
    (audience.receive other).2.streams = audience.streams ∧
    (audience.receive other).2.nextStream = audience.nextStream := by
  unfold receive
  split <;> exact ⟨rfl, rfl⟩

theorem receive_inboxes {waiting : List DeviceEvent}
    (found : audience.inboxes[stream]? = some waiting) :
    ∃ left, (audience.receive other).2.inboxes[stream]? = some left ∧
      (if other = stream then (audience.receive other).1.toList else []) ++
        left = waiting := by
  unfold receive
  by_cases same : other = stream
  · subst same
    cases waiting with
    | nil => exact ⟨[], by simp [found], by simp [found]⟩
    | cons event rest => exact ⟨rest, by simp [found], by simp [found]⟩
  · refine ⟨waiting, ?_, by simp [same]⟩
    split
    · simp [Std.ExtTreeMap.getElem?_insert, same, found]
    · exact found

theorem receiveAll_inboxes {waiting : List DeviceEvent}
    (found : audience.inboxes[stream]? = some waiting) :
    ∃ left, (audience.receiveAll other).2.inboxes[stream]? = some left ∧
      (if other = stream then (audience.receiveAll other).1 else []) ++
        left = waiting := by
  unfold receiveAll
  by_cases same : other = stream
  · subst same
    exact ⟨[], by simp [found], by simp [found]⟩
  · exact ⟨waiting, by simp [Std.ExtTreeMap.getElem?_modify, same,
      found], by simp [same]⟩

theorem getElem?_foldl_modify {streams : List Nat} (apart : streams.Nodup)
    (inboxes : Std.ExtTreeMap Nat (List DeviceEvent) compare)
    (event : DeviceEvent) :
    (streams.foldl (fun left other => left.modify other
      fun events => events ++ [event]) inboxes)[stream]? =
      if stream ∈ streams then inboxes[stream]?.map
        fun events => events ++ [event]
      else inboxes[stream]? := by
  induction streams generalizing inboxes with
  | nil => simp
  | cons next streams induction =>
      obtain ⟨notAgain, apart⟩ := List.nodup_cons.mp apart
      rw [List.foldl_cons, induction apart, Std.ExtTreeMap.getElem?_modify]
      by_cases same : next = stream
      · subst same
        simp [notAgain]
      · have different : stream ≠ next := fun equal => same equal.symm
        simp [same, different]

end Audience

namespace Watched

theorem extend (watched : Watched stream sending audience chronicle)
    (number : audience.nextStream ≤ later.nextStream)
    (streams : ∀ member ∈ audience.streams, member ∈ later.streams)
    (inboxes : .closed stream ∉ more → ∀ waiting, audience.inboxes[stream]? =
      some waiting → ∃ left, later.inboxes[stream]? = some left ∧
      receivedFrom stream more ++ left = waiting)
    (silent : told more = []) :
    Watched stream sending later (chronicle ++ more) where
  numbered := Nat.lt_of_lt_of_le watched.numbered number
  sent := by
    intro kept
    obtain ⟨keptBefore, keptNow⟩ := not_or.mp (mt List.mem_append.mpr kept)
    obtain ⟨isOpen, waiting, found, whole⟩ := watched.sent keptBefore
    obtain ⟨left, foundLater, rest⟩ := inboxes keptNow waiting found
    refine ⟨streams stream isOpen, left, foundLater, ?_⟩
    rw [receivedFrom_append, told_append, silent, List.append_nil,
      ← whole, ← rest]
    simp only [List.append_assoc]

theorem congr (watched : Watched stream sending audience chronicle)
    (number : later.nextStream = audience.nextStream)
    (streams : later.streams = audience.streams)
    (inboxes : later.inboxes = audience.inboxes) (silent : told more = [])
    (unread : receivedFrom stream more = []) :
    Watched stream sending later (chronicle ++ more) := by
  refine watched.extend (Nat.le_of_eq number.symm)
    (fun _ => streams ▸ id) ?_ silent
  intro _ waiting found
  exact ⟨waiting, inboxes ▸ found, by rw [unread, List.nil_append]⟩

theorem openStream (watched : Watched stream sending audience chronicle) :
    Watched stream sending audience.openStream.2 chronicle := by
  have extended : Watched stream sending audience.openStream.2
      (chronicle ++ []) := by
    refine watched.extend (Nat.le_succ _)
      (fun _ member => List.mem_append_left _ member) ?_ rfl
    intro _ waiting found
    have different : audience.nextStream ≠ stream :=
      Nat.ne_of_gt watched.numbered
    refine ⟨waiting, ?_, rfl⟩
    simp [Audience.openStream, Std.ExtTreeMap.getElem?_insert, different, found]
  rwa [List.append_nil] at extended

theorem closeStream (watched : Watched stream sending audience chronicle)
    (other : Nat) :
    Watched stream sending (audience.closeStream other)
      (chronicle ++ [.closed other]) := by
  refine watched.extend (Nat.le_refl _) (fun _ => id) ?_ rfl
  intro kept waiting found
  have different : other ≠ stream := by
    rintro rfl
    exact kept (List.mem_singleton_self _)
  refine ⟨waiting, ?_, rfl⟩
  simp [Audience.closeStream, Std.ExtTreeMap.getElem?_erase, different, found]

theorem receivedFrom_singleton {events : List DeviceEvent} :
    receivedFrom stream ([.received other events] : Chronicle n σ κ ω) =
      if other = stream then events else [] := by
  simp [receivedFrom]

theorem receive (watched : Watched stream sending audience chronicle)
    (other : Nat) :
    Watched stream sending (audience.receive other).2
      (chronicle ++ [.received other (audience.receive other).1.toList]) := by
  obtain ⟨streams, number⟩ := Audience.receive_streams other audience
  refine watched.extend (Nat.le_of_eq number.symm)
    (fun _ => streams ▸ id) ?_ rfl
  intro _ waiting found
  rw [receivedFrom_singleton]
  exact Audience.receive_inboxes found

theorem receiveAll (watched : Watched stream sending audience chronicle)
    (other : Nat) :
    Watched stream sending (audience.receiveAll other).2
      (chronicle ++ [.received other (audience.receiveAll other).1]) := by
  refine watched.extend (Nat.le_refl _) (fun _ => id) ?_ rfl
  intro _ waiting found
  rw [receivedFrom_singleton]
  exact Audience.receiveAll_inboxes found

/-- An event that is told is being sent, until it waits in the stream. -/
theorem tell (watched : Watched stream [] audience chronicle)
    (number : later.nextStream = audience.nextStream)
    (streams : later.streams = audience.streams)
    (inboxes : later.inboxes = audience.inboxes) (i : Fin n)
    (found started : ServiceHub n σ κ ω) :
    Watched stream [event] later
      (chronicle ++ [.told i event found started]) where
  numbered := number ▸ watched.numbered
  sent := by
    intro kept
    obtain ⟨isOpen, waiting, inbox, whole⟩ :=
      watched.sent fun member => kept (List.mem_append_left _ member)
    refine ⟨streams ▸ isOpen, waiting, inboxes ▸ inbox, ?_⟩
    rw [List.append_nil] at whole
    rw [receivedFrom_append, told_append, ← whole]
    simp [receivedFrom, told]

theorem send (watched : Watched stream [event] audience chronicle)
    (orderly : audience.Orderly) :
    Watched stream [] (audience.send event) chronicle where
  numbered := watched.numbered
  sent := by
    intro kept
    obtain ⟨isOpen, waiting, found, whole⟩ := watched.sent kept
    have live : stream ∈ audience.streams.filter
        fun other => audience.inboxes.contains other := by
      refine List.mem_filter.mpr ⟨isOpen, ?_⟩
      rw [← Std.ExtTreeMap.isSome_getElem?_eq_contains, found]
      rfl
    refine ⟨live, waiting ++ [event], ?_, ?_⟩
    · rw [Audience.send, Audience.getElem?_foldl_modify
        (orderly.apart.filter _), if_pos live, found]
      rfl
    · rw [List.append_nil, ← List.append_assoc]
      exact whole

theorem ofOpened (audience : Audience κ) :
    Watched audience.nextStream [] audience.openStream.2
      ([] : Chronicle n σ κ ω) where
  numbered := Nat.lt_succ_self _
  sent _ :=
    ⟨by simp [Audience.openStream], [], by simp [Audience.openStream], rfl⟩

end Watched

end Hotplug
