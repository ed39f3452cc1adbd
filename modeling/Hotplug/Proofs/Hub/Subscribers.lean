import Mathlib.Algebra.Group.Nat.Defs
import Mathlib.Data.List.Nodup
import Hotplug.Hub
import Hotplug.Proofs.Hub.Journal

/-!
# Callbacks see a snapshot of the subscriptions

While an event is broadcast, callbacks may subscribe, take subscriptions back,
clear them all, and broadcast in turn. Still a broadcast calls what stood when
it was started, and nothing else.
-/

namespace Hotplug

open Journal

namespace Audience

variable {κ : Type} {audience : Audience κ} {id : Nat}

/-- Some subscription has this number. -/
def Has (id : Nat) (audience : Audience κ) : Prop :=
  ∃ kind, ∃ subscription ∈ audience.subscriptions kind, subscription.id = id

/-- One subscription, with this number, is gone, and all others are there as
they were. -/
def Loses (id : Nat) (before after : Audience κ) : Prop :=
  ∃ kind earlier gone later, gone.id = id ∧
    before.subscriptions kind = earlier ++ gone :: later ∧
    after.subscriptions kind = earlier ++ later ∧
    ∀ other, other ≠ kind → after.subscriptions other =
      before.subscriptions other

/-- A number belongs to at most one subscription. -/
structure Distinct (audience : Audience κ) : Prop where
  within : ∀ kind, ((audience.subscriptions kind).map Subscription.id).Nodup
  across : ∀ {kind other one another}, one ∈ audience.subscriptions kind →
    another ∈ audience.subscriptions other → one.id = another.id → kind = other

theorem subscriptions_subscribe (kind other : EventKind) (callback : κ)
    (audience : Audience κ) :
    (audience.subscribe kind callback).2.subscriptions other =
      audience.subscriptions other ++
        Notice.entry other (.subscribed kind audience.nextId callback) := by
  cases kind <;> cases other <;> simp [subscribe, subscriptions, Notice.entry]

theorem subscriptions_unsubscribe (id : Nat) (audience : Audience κ)
    (kind : EventKind) :
    (audience.unsubscribe id).2.subscriptions kind =
      (audience.subscriptions kind).filter
        fun subscription => subscription.id != id := by
  cases kind <;> rfl

theorem nextId_subscribe (kind : EventKind) (callback : κ)
    (audience : Audience κ) :
    (audience.subscribe kind callback).2.nextId = audience.nextId + 1 := by
  cases kind <;> rfl

theorem callbackCount_eq (audience : Audience κ) :
    audience.callbackCount = (audience.subscriptions .added).length
      + (audience.subscriptions .removed).length +
        (audience.subscriptions .changed).length := rfl

/-- No filter adds to the count, so it is the same only if each list is. -/
theorem answer_unsubscribe :
    (audience.unsubscribe id).1 = true ↔ audience.Has id := by
  have bound (kind : EventKind) := List.length_filter_le
    (fun subscription : Subscription κ => subscription.id != id)
      (audience.subscriptions kind)
  have full (kind : EventKind) := List.length_filter_eq_length_iff
    (p := fun subscription : Subscription κ => subscription.id != id)
    (l := audience.subscriptions kind)
  have count : (audience.unsubscribe id).1 = true ↔
      (audience.unsubscribe id).2.callbackCount ≠ audience.callbackCount :=
  bne_iff_ne
  rw [count, callbackCount_eq, callbackCount_eq]
  simp only [subscriptions_unsubscribe]
  constructor
  · intro differs
    by_cases has : audience.Has id
    · exact has
    have all (kind : EventKind) : ((audience.subscriptions kind).filter
        fun subscription => subscription.id != id).length
          = (audience.subscriptions kind).length := by
      refine (full kind).mpr fun subscription member => bne_iff_ne.mpr
        fun same => ?_
      exact has ⟨kind, subscription, member, same⟩
    exact absurd (by rw [all, all, all]) differs
  · rintro ⟨kind, subscription, member, same⟩ equal
    have shorter : ((audience.subscriptions kind).filter
        fun subscription => subscription.id != id).length
          ≠ (audience.subscriptions kind).length := by
      intro all
      exact bne_iff_ne.mp ((full kind).mp all subscription member) same
    have added := bound .added
    have removed := bound .removed
    have changed := bound .changed
    cases kind <;> omega

theorem loses_unsubscribe (distinct : audience.Distinct)
    (has : audience.Has id) :
    audience.Loses id (audience.unsubscribe id).2 := by
  obtain ⟨kind, gone, member, same⟩ := has
  obtain ⟨earlier, later, split⟩ := List.append_of_mem member
  have within := distinct.within kind
  rw [split, List.map_append, List.map_cons] at within
  have others (subscription : Subscription κ)
    (among : subscription ∈ earlier ++ later) :
      (subscription.id != id) = true := by
    refine bne_iff_ne.mpr fun equal => ?_
    have alone := (List.nodup_middle.mp within).notMem
    rw [← List.map_append] at alone
    exact alone (List.mem_map.mpr ⟨subscription, among, equal.trans same.symm⟩)
  refine ⟨kind, earlier, gone, later, same, split, ?_, ?_⟩
  · rw [subscriptions_unsubscribe, split, List.filter_append,
      List.filter_cons_of_neg (by simp [same]),
      ← List.filter_append, List.filter_eq_self.mpr others]
  · intro other different
    rw [subscriptions_unsubscribe, List.filter_eq_self.mpr]
    intro subscription among
    refine bne_iff_ne.mpr fun equal => different ?_
    exact distinct.across among member (equal.trans same.symm)

end Audience

namespace Journal

variable {κ : Type}

/-- What is right about a notice at a place of the journal. -/
def LawfulAt (journal : Journal κ) (place : Nat) : Notice κ → Prop
  | .started event =>
      callsOf place journal <+: due event (journal.take place) ∧
        (.ended place ∈ journal → callsOf place journal =
          due event (journal.take place))
  | .unsubscribed id before answer after =>
      (∀ kind, before.subscriptions kind = standing kind (journal.take place)) ∧
        (answer = true ↔ before.Has id) ∧
          (answer = true → before.Loses id after) ∧
        (answer = false → ∀ kind, after.subscriptions kind =
          before.subscriptions kind)
  | _ => True

/-- The journal has grown, and what it has since been told of is later than
that. -/
def GrownFrom (base journal : Journal κ) : Prop :=
  ∃ more, journal = base ++ more ∧
    ∀ notice ∈ more, ∀ broadcast, Notice.concerns broadcast notice →
      base.length ≤ broadcast

/-- The journal agrees with the lists of the audience. -/
structure Agrees (journal : Journal κ) (audience : Audience κ) : Prop where
  listed : ∀ kind, audience.subscriptions kind = standing kind journal
  numbered : ids journal = List.range audience.nextId
  earlier : ∀ place (notice : Notice κ), journal[place]? =
    some notice → ∀ broadcast, notice.concerns broadcast → broadcast < place
  lawful : ∀ place notice, journal[place]? = some notice →
    LawfulAt journal place notice

theorem GrownFrom.refl (journal : Journal κ) : GrownFrom journal journal :=
  ⟨[], (List.append_nil _).symm, by simp⟩

theorem GrownFrom.trans {base middle journal : Journal κ}
    (first : GrownFrom base middle) (second : GrownFrom middle journal) :
    GrownFrom base journal := by
  obtain ⟨more, rfl, later⟩ := first
  obtain ⟨most, rfl, latest⟩ := second
  refine ⟨more ++ most, List.append_assoc _ _ _, ?_⟩
  intro notice member broadcast concerned
  rcases List.mem_append.mp member with here | there
  · exact later notice here broadcast concerned
  · have reached := latest notice there broadcast concerned
    rw [List.length_append] at reached
    omega

theorem GrownFrom.concat {base journal : Journal κ}
    (grown : GrownFrom base journal) {last : Notice κ}
    (later : ∀ broadcast, last.concerns broadcast → base.length ≤ broadcast) :
    GrownFrom base (journal ++ [last]) := by
  obtain ⟨more, rfl, before⟩ := grown
  refine ⟨more ++ [last], List.append_assoc _ _ _, ?_⟩
  intro notice member
  rcases List.mem_append.mp member with here | now
  · exact before notice here
  · cases List.mem_singleton.mp now
    exact later

theorem GrownFrom.length_le {base journal : Journal κ}
    (grown : GrownFrom base journal) :
    base.length ≤ journal.length := by
  obtain ⟨more, rfl, _⟩ := grown
  rw [List.length_append]
  exact Nat.le_add_right _ _

namespace Agrees

variable {journal : Journal κ} {audience left : Audience κ} {last : Notice κ}

theorem initial : Agrees [] ({} : Audience κ) where
  listed kind := by cases kind <;> rfl
  numbered := rfl
  earlier := by simp
  lawful := by simp

theorem congr (agrees : Agrees journal audience)
    (lists : ∀ kind, left.subscriptions kind = audience.subscriptions kind)
    (nextId : left.nextId = audience.nextId) : Agrees journal left where
  listed kind := (lists kind).trans (agrees.listed kind)
  numbered := by rw [agrees.numbered, nextId]
  earlier := agrees.earlier
  lawful := agrees.lawful

theorem nodup (agrees : Agrees journal audience) : (ids journal).Nodup := by
  rw [agrees.numbered]
  exact List.nodup_range

theorem distinct (agrees : Agrees journal audience) : audience.Distinct where
  within kind := by
    rw [agrees.listed]
    exact nodup_standing agrees.nodup kind
  across member otherMember same := by
    rw [agrees.listed] at member otherMember
    exact kind_eq_of_mem_standing agrees.nodup member otherMember same

theorem lawfulAt_concat {place : Nat} {notice : Notice κ}
    (lawful : LawfulAt journal place notice) (below : place < journal.length)
    (unconcerned : ¬last.concerns place) :
    LawfulAt (journal ++ [last]) place notice := by
  have taken : (journal ++ [last]).take place = journal.take place :=
    List.take_append_of_le_length (Nat.le_of_lt below)
  cases notice with
  | started event =>
      have silent : callsOf place [last] = [] :=
        callsOf_eq_nil fun _ member => List.mem_singleton.mp member ▸
          unconcerned
      rw [LawfulAt, callsOf_append, silent, List.append_nil, taken]
      refine ⟨lawful.1, fun ended => lawful.2 ?_⟩
      rcases List.mem_append.mp ended with before | now
      · exact before
      · rw [← List.mem_singleton.mp now] at unconcerned
        exact absurd rfl unconcerned
  | unsubscribed id before answer after =>
      rw [LawfulAt, taken]
      exact lawful
  | _ => trivial

theorem concat (agrees : Agrees journal audience)
    (listed : ∀ kind, left.subscriptions kind =
      standing kind (journal ++ [last]))
    (numbered : ids journal ++ last.ids = List.range left.nextId)
    (lawful : LawfulAt (journal ++ [last]) journal.length last)
    (told : ∀ broadcast, last.concerns broadcast → ∃ event,
      journal[broadcast]? = some (.started event) ∧
      LawfulAt (journal ++ [last]) broadcast (.started event)) :
    Agrees (journal ++ [last]) left where
  listed := listed
  numbered := by rw [ids_append, ← numbered, ids, ids, List.flatMap_singleton]
  earlier place notice found broadcast concerned := by
    rcases getElem?_concat_cases found with ⟨_, before⟩ | ⟨rfl, rfl⟩
    · exact agrees.earlier place notice before broadcast concerned
    · obtain ⟨event, started, _⟩ := told broadcast concerned
      exact (List.getElem?_eq_some_iff.mp started).1
  lawful place notice found := by
    rcases getElem?_concat_cases found with ⟨below, before⟩ | ⟨rfl, rfl⟩
    · by_cases concerned : last.concerns place
      · obtain ⟨event, started, lawfulStill⟩ := told place concerned
        rw [before] at started
        injection started with same
        rw [same]
        exact lawfulStill
      · exact lawfulAt_concat (agrees.lawful place notice before)
          below concerned
    · exact lawful

theorem concat_of_silent (agrees : Agrees journal audience)
    (listed : ∀ kind, left.subscriptions kind =
      standing kind (journal ++ [last]))
    (numbered : ids journal ++ last.ids = List.range left.nextId)
    (lawful : LawfulAt (journal ++ [last]) journal.length last)
    (silent : ∀ broadcast, ¬last.concerns broadcast) :
    Agrees (journal ++ [last]) left :=
  agrees.concat listed numbered lawful fun broadcast concerned =>
    absurd concerned (silent broadcast)

theorem concat_of_idle (agrees : Agrees journal audience)
    (entry : ∀ kind, last.entry kind = []) (ends : ∀ id, last.ends id = false)
    (numbers : last.ids = [])
    (lawful : LawfulAt (journal ++ [last]) journal.length last)
    (told : ∀ broadcast, last.concerns broadcast → ∃ event,
      journal[broadcast]? = some (.started event) ∧
        LawfulAt (journal ++ [last]) broadcast (.started event)) :
    Agrees (journal ++ [last]) audience := by
  refine agrees.concat (fun kind => ?_) ?_ lawful told
  · rw [standing_concat_of_lasting ends, entry, List.append_nil]
    exact agrees.listed kind
  · rw [numbers, List.append_nil]
    exact agrees.numbered

theorem subscribe (agrees : Agrees journal audience) (kind : EventKind)
    (callback : κ) :
    Agrees (journal ++ [.subscribed kind audience.nextId callback])
      (audience.subscribe kind callback).2 := by
  refine agrees.concat_of_silent (fun other => ?_) ?_ trivial fun _ => id
  · rw [Audience.subscriptions_subscribe, agrees.listed,
      standing_concat_of_lasting fun _ => rfl]
  · rw [Audience.nextId_subscribe, List.range_succ, agrees.numbered]
    rfl

theorem unsubscribe (agrees : Agrees journal audience) (id : Nat) :
    Agrees (journal ++ [.unsubscribed id audience (audience.unsubscribe id).1
      (audience.unsubscribe id).2]) (audience.unsubscribe id).2 := by
  refine agrees.concat_of_silent (fun kind => ?_) ?_
    ⟨?_, Audience.answer_unsubscribe, ?_, ?_⟩ fun _ concerned => concerned
  · rw [Audience.subscriptions_unsubscribe, agrees.listed, standing_concat]
    refine (List.filter_congr fun subscription _ => ?_).trans
      (List.append_nil _).symm
    rw [Notice.ends, bne, BEq.comm]
  · exact (List.append_nil _).trans agrees.numbered
  · intro kind
    rw [List.take_left]
    exact agrees.listed kind
  · intro answered
    exact Audience.loses_unsubscribe agrees.distinct
      (Audience.answer_unsubscribe.mp answered)
  · intro answered kind
    rw [Audience.subscriptions_unsubscribe, List.filter_eq_self.mpr]
    intro subscription member
    refine bne_iff_ne.mpr fun same => ?_
    rw [Audience.answer_unsubscribe.mpr ⟨kind, subscription, member,
      same⟩] at answered
    cases answered

theorem clear (agrees : Agrees journal audience) :
    Agrees (journal ++ [.cleared]) audience.clear := by
  refine agrees.concat_of_silent (fun kind => ?_) ?_ trivial fun _ => id
  · rw [standing_concat, List.filter_eq_nil_iff.mpr (by simp [Notice.ends])]
    cases kind <;> rfl
  · exact (List.append_nil _).trans agrees.numbered

theorem unconcerned (agrees : Agrees journal audience) (notice : Notice κ)
    (member : notice ∈ journal) : ¬notice.concerns journal.length := by
  intro concerned
  obtain ⟨place, below, found⟩ := List.mem_iff_getElem.mp member
  have earlier := agrees.earlier place notice
    (List.getElem?_eq_some_iff.mpr ⟨below, found⟩) journal.length concerned
  omega

end Agrees

/-- A broadcast was started, and what it has called and still is to call is
together what was due then. -/
structure Calling (journal : Journal κ) (broadcast : Nat) (event : DeviceEvent)
    (rest : List (κ × DeviceEvent)) : Prop where
  started : journal[broadcast]? = some (.started event)
  whole : callsOf broadcast journal ++ rest = due event (journal.take broadcast)
  unended : .ended broadcast ∉ journal

section Broadcasting

variable {journal base : Journal κ} {audience : Audience κ} {broadcast : Nat}
  {event : DeviceEvent} {rest : List (κ × DeviceEvent)} {callback : κ}

theorem Agrees.start (agrees : Agrees journal audience) (event : DeviceEvent) :
    Agrees (journal ++ [.started event]) audience ∧
      Calling (journal ++ [.started event]) journal.length event
        (due event journal) := by
  have silent : callsOf journal.length (journal ++ [.started event]) = [] := by
    rw [callsOf_append, callsOf_eq_nil agrees.unconcerned]
    rfl
  have unended : Notice.ended journal.length ∉ journal ++ [.started event] := by
    intro member
    rcases List.mem_append.mp member with before | now
    · exact agrees.unconcerned _ before rfl
    · cases List.mem_singleton.mp now
  constructor
  · refine agrees.concat_of_idle (fun _ => rfl) (fun _ => rfl) rfl ⟨?_, ?_⟩
      fun _ => False.elim
    · rw [silent]
      exact List.nil_prefix
    · intro ended
      exact absurd ended unended
  · refine ⟨List.getElem?_concat_length, ?_, unended⟩
    rw [silent, List.take_left, List.nil_append]

theorem Calling.below (calling : Calling journal broadcast event rest) :
    broadcast < journal.length :=
  (List.getElem?_eq_some_iff.mp calling.started).1

/-- A broadcast learns nothing from others that are made meanwhile. -/
theorem Calling.grow (calling : Calling base broadcast event rest)
    (grown : GrownFrom base journal) :
    Calling journal broadcast event rest := by
  obtain ⟨more, rfl, later⟩ := grown
  have silent (notice : Notice κ) (member : notice ∈ more) :
      ¬notice.concerns broadcast := by
    intro concerned
    exact absurd calling.below
      (Nat.not_lt.mpr (later notice member broadcast concerned))
  refine ⟨?_, ?_, ?_⟩
  · rw [List.getElem?_append_left calling.below]
    exact calling.started
  · rw [callsOf_append, callsOf_eq_nil silent, List.append_nil,
      List.take_append_of_le_length (Nat.le_of_lt calling.below)]
    exact calling.whole
  · intro member
    rcases List.mem_append.mp member with before | now
    · exact calling.unended before
    · exact silent _ now rfl

theorem Calling.call
    (calling : Calling journal broadcast event ((callback, event) :: rest)) :
    Calling (journal ++ [.called broadcast callback event])
      broadcast event rest where
  started := by
    rw [List.getElem?_append_left calling.below]
    exact calling.started
  whole := by
    have called : callsOf broadcast [Notice.called broadcast callback event] =
        [(callback, event)] := by
      simp [callsOf, Notice.callsOf]
    rw [callsOf_append, called, List.append_assoc, List.singleton_append,
      calling.whole, List.take_append_of_le_length (Nat.le_of_lt calling.below)]
  unended member := by
    rcases List.mem_append.mp member with before | now
    · exact calling.unended before
    · cases List.mem_singleton.mp now

theorem Agrees.call (agrees : Agrees journal audience)
    (calling : Calling journal broadcast event ((callback, event) :: rest)) :
    Agrees (journal ++ [.called broadcast callback event]) audience := by
  refine agrees.concat_of_idle (fun _ => rfl)
    (fun _ => rfl) rfl trivial fun other same => ?_
  obtain rfl := same
  refine ⟨event, calling.started, ⟨rest, calling.call.whole⟩, fun ended => ?_⟩
  exact absurd ended calling.call.unended

theorem Agrees.finish (agrees : Agrees journal audience)
    (calling : Calling journal broadcast event []) :
    Agrees (journal ++ [.ended broadcast]) audience := by
  refine agrees.concat_of_idle (fun _ => rfl)
    (fun _ => rfl) rfl trivial fun other same => ?_
  obtain rfl := same
  have calls : callsOf broadcast (journal ++ [Notice.ended broadcast]) =
      due event ((journal ++ [Notice.ended broadcast]).take broadcast) := by
    rw [List.take_append_of_le_length (Nat.le_of_lt calling.below),
      ← calling.whole, callsOf_append]
    rfl
  exact ⟨event, calling.started, calls ▸ List.prefix_rfl, fun _ => calls⟩

end Broadcasting

end Journal

/-- A hub whose journal is what its client keeps. -/
abbrev JournalHub (n : Nat) (β ο κ : Type) : Type := Hub n β ο κ (Journal κ)

namespace JournalHub

variable {n : Nat} {β ο κ : Type}

def note (notice : Notice κ) : Run (JournalHub n β ο κ) Unit :=
  modify fun hub => { hub with client := hub.client ++ [notice] }

/-- The subscriptions, the next number, and the journal. -/
def books (hub : JournalHub n β ο κ) :
    (EventKind → List (Subscription κ)) × Nat × Journal κ :=
  (hub.registry.audience.subscriptions, hub.registry.audience.nextId,
    hub.client)

/-- What can be done to the subscriptions.  Anything else may be done aside. -/
inductive Act (n : Nat) (β ο κ : Type) where
  | subscribe (kind : EventKind) (callback : κ)
  | unsubscribe (id : Nat)
  | clear
  | broadcast (event : DeviceEvent)
  | aside (step : Run (JournalHub n β ο κ) Unit) (apart : step.Preserves books)

namespace Act

/-- Do it and note it.  The callbacks are those of broadcasts. -/
def perform (callbacks : κ → DeviceEvent → Run (JournalHub n β ο κ) Unit) :
    Act n β ο κ → Run (JournalHub n β ο κ) Unit
  | subscribe kind callback => do
      let id ← Hub.modifyAudience (Audience.subscribe kind callback)
      note (.subscribed kind id callback)
  | unsubscribe id => do
      let before := (← get).registry.audience
      let answer ← Hub.modifyAudience (Audience.unsubscribe id)
      note (.unsubscribed id before answer (← get).registry.audience)
  | clear => do
      modify (Hub.onAudience Audience.clear)
      note .cleared
  | broadcast event => do
      let number := (← get).client.length
      note (.started event)
      Hub.broadcast
        (fun callback told => do
          note (.called number callback told)
          callbacks callback told)
        event
      note (.ended number)
  | aside step _ => step

end Act

section Acting

variable {base journal : Journal κ} {hub left : JournalHub n β ο κ}
  {state : JournalHub n β ο κ} {failed : JournalHub n β ο κ → Prop}
  {callbacks : κ → DeviceEvent → Run (JournalHub n β ο κ) Unit}

@[simp] theorem yields_note {notice : Notice κ}
    {after : Unit → JournalHub n β ο κ → Prop} :
    (note notice).Yields hub after failed ↔
      after () { hub with client := hub.client ++ [notice] } := Iff.rfl

@[simp] theorem yields_modifyAudience {α : Type}
    {change : Audience κ → α × Audience κ}
    {after : α → JournalHub n β ο κ → Prop} :
    (Hub.modifyAudience change).Yields hub after failed ↔
      after (change hub.registry.audience).1
        (hub.onAudience fun _ => (change hub.registry.audience).2) := Iff.rfl

/-- The journal agrees with the lists, and has grown from an earlier one. -/
structure Since (base : Journal κ) (hub : JournalHub n β ο κ) : Prop where
  agrees : Agrees hub.client hub.registry.audience
  grown : GrownFrom base hub.client

theorem Since.trans {middle : Journal κ} (since : Since middle hub)
    (grown : GrownFrom base middle) :
    Since base hub :=
  ⟨since.agrees, grown.trans since.grown⟩

theorem Since.silent (since : Since base hub) {notice : Notice κ}
    {left : JournalHub n β ο κ} (noted : left.client = hub.client ++ [notice])
    (agrees : Agrees (hub.client ++ [notice]) left.registry.audience)
    (silent : ∀ broadcast, ¬notice.concerns broadcast) : Since base left := by
  refine ⟨?_, ?_⟩
  · rw [noted]
    exact agrees
  · rw [noted]
    exact since.grown.concat fun broadcast concerned => absurd concerned
      (silent broadcast)

/-- Each of the calls that are due is made, whatever the callbacks do. -/
theorem yields_calls
    (keep : ∀ base callback event,
      (callbacks callback event).Keeps (Since base))
    {number : Nat} {event : DeviceEvent} (rest : List (Subscription κ))
    (since : Since base hub) (later : base.length ≤ number)
    (calling : Calling hub.client number event
      (rest.map fun subscription => (subscription.callback, event))) :
    (rest.forM fun subscription => do
        note (.called number subscription.callback event)
        callbacks subscription.callback event :
        Run (JournalHub n β ο κ) Unit).Yields hub
      (fun _ left => Since base left ∧ Calling left.client number event [])
      (Since base) := by
  induction rest generalizing hub with
  | nil => exact ⟨since, calling⟩
  | cons subscription rest induction =>
      let noted : JournalHub n β ο κ :=
        { hub with client := hub.client ++ [.called number
          subscription.callback event] }
      have grown : GrownFrom base noted.client := since.grown.concat
        fun _ same => same ▸ later
      have sinceNoted : Since noted.client noted :=
        ⟨since.agrees.call calling, .refl _⟩
      rw [Run.yields_forM_cons, Run.yields_bind, yields_note]
      refine (keep noted.client subscription.callback event noted
        sinceNoted).mono ?_ ?_
      · intro _ left sinceLeft
        exact induction (sinceLeft.trans grown)
          (calling.call.grow sinceLeft.grown)
      · intro left sinceLeft
        exact sinceLeft.trans grown

theorem yields_broadcast
    (keep : ∀ base callback event,
      (callbacks callback event).Keeps (Since base))
    (event : DeviceEvent) (since : Since base hub) :
    ((Act.broadcast event : Act n β ο κ).perform callbacks).Yields hub
      (fun _ => Since base) (Since base) := by
  simp only [Act.perform, Hub.broadcast, Run.yields_bind, Run.yields_get,
    Run.yields_modify, yields_note]
  obtain ⟨agrees, calling⟩ := since.agrees.start event
  have started : Since base
      { hub with client := hub.client ++ [.started event] } :=
    since.silent rfl agrees fun _ => False.elim
  rw [due, ← since.agrees.listed] at calling
  refine (yields_calls keep _ started since.grown.length_le calling).mono ?_
    fun _ failed => failed
  intro _ left reached
  obtain ⟨sinceLeft, finished⟩ := reached
  refine ⟨?_, ?_⟩
  · exact (sinceLeft.agrees.finish finished).congr
      (fun kind => by cases kind <;> rfl) rfl
  · exact sinceLeft.grown.concat fun _ same => same ▸ since.grown.length_le

theorem keptByActions : KeptByActions (Since (n :=
  n) (β := β) (ο := ο) (κ := κ)) Act.perform := by
  intro callbacks keep base act hub since
  cases act with
  | subscribe kind callback =>
      exact since.silent rfl (since.agrees.subscribe kind callback)
        fun _ => False.elim
  | unsubscribe id =>
      exact since.silent rfl (since.agrees.unsubscribe id) fun _ => False.elim
  | clear => exact since.silent rfl since.agrees.clear fun _ => False.elim
  | broadcast event => exact yields_broadcast keep event since
  | aside step apart =>
      have same (left : JournalHub n β ο κ) (books : left.books = hub.books) :
          Since base left := by
        injection books with lists others
        injection others with nextId journal
        refine ⟨?_, ?_⟩
        · rw [journal]
          exact since.agrees.congr (congrFun lists) nextId
        · rw [journal]
          exact since.grown
      exact (apart hub.books hub rfl).mono (fun _ => same) same

end Acting

variable {n : Nat} {β ο κ : Type}

/-- A new hub of these backends. -/
def fresh (backends : Vector β n) : JournalHub n β ο κ where
  backends := backends
  client := []

/-- What can be relied on, told by the journal of a hub. -/
structure Reliable (hub : JournalHub n β ο κ) : Prop where
  /-- A broadcast calls the callbacks that stood for the kind of its event when
  it was started, once each and in the order of subscription, and nothing else.
  One that does not end has called the first of them. -/
  calls : ∀ place event, hub.client[place]? = some (.started event) →
    callsOf place hub.client <+: due event (hub.client.take place) ∧
      (.ended place ∈ hub.client → callsOf place hub.client =
        due event (hub.client.take place))
  /-- No number is handed out twice. -/
  distinct : (ids hub.client).Nodup
  /-- Nor is it if numbers are words, as long as there are enough of them. -/
  distinctWords : (ids hub.client).length ≤ 2 ^ 64 →
    ((ids hub.client).map UInt64.ofNat).Nodup
  /-- A subscription is taken back exactly if it is there, and nothing else
  is. -/
  takenBack : ∀ place id before answer after,
    hub.client[place]? = some (.unsubscribed id before answer after) →
      (∀ kind, before.subscriptions kind =
        standing kind (hub.client.take place)) ∧
        (answer = true ↔ before.Has id) ∧
          (answer = true → before.Loses id after) ∧
        (answer = false → ∀ kind, after.subscriptions kind =
          before.subscriptions kind)
  /-- The lists hold what stands. -/
  listed : ∀ kind, hub.registry.audience.subscriptions kind =
    standing kind hub.client

theorem Since.reliable {hub : JournalHub n β ο κ} {base : Journal κ}
    (since : Since base hub) :
    Reliable hub where
  calls place event := since.agrees.lawful place (.started event)
  distinct := since.agrees.nodup
  distinctWords few := by
    refine since.agrees.nodup.map_on fun id member other otherMember same => ?_
    have below {id : Nat} (member : id ∈ ids hub.client) : id < 2 ^ 64 := by
      rw [since.agrees.numbered] at member few
      rw [List.length_range] at few
      exact Nat.lt_of_lt_of_le (List.mem_range.mp member) few
    have number := congrArg UInt64.toNat same
    rwa [UInt64.toNat_ofNat_of_lt' (below member),
      UInt64.toNat_ofNat_of_lt' (below otherMember)] at number
  takenBack place id before answer after :=
    since.agrees.lawful place (.unsubscribed id before answer after)
  listed := since.agrees.listed

/-- Whatever is done to a new hub, and whatever its callbacks do meanwhile:
broadcasts call what stood when they were started, no number is handed out
twice, and a subscription is taken back alone. -/
theorem reliable_afterActions (backends : Vector β n)
    (react : κ → DeviceEvent → JournalHub n β ο κ → Script (JournalHub n β ο κ)
      (Act n β ο κ))
    (depth : Nat) (acts : List (Act n β ο κ)) :
    Reliable (afterActions Act.perform react depth acts (fresh backends)) := by
  have since : Since [] (afterActions Act.perform react depth acts
      (fresh backends)) :=
    keptByActions.afterActions depth acts ⟨Agrees.initial, .refl _⟩
  exact since.reliable

section Rearranging

/-- The first callback takes the second one back, has another one follow it, and
tells of a removal meanwhile. The callback for this removal clears all, and has
one more follow. -/
def rearrange (callback : Nat) (_ : DeviceEvent)
    (_ : JournalHub 0 Unit Unit Nat) :
    Script (JournalHub 0 Unit Unit Nat) (Act 0 Unit Unit Nat) :=
  match callback with
  | 0 => .act (.unsubscribe 1) fun _ => .act (.subscribe .added 3) fun _ =>
      .act (.broadcast (.removed "y")) fun _ => .done
  | 2 => .act .clear fun _ => .act (.subscribe .added 4) fun _ => .done
  | _ => .done

def rearranged : JournalHub 0 Unit Unit Nat :=
  afterActions Act.perform rearrange 2
    [.subscribe .added 0, .subscribe .added 1, .subscribe .removed 2,
      .broadcast (.added "x"), .unsubscribe 3, .broadcast (.added "z")]
    (fresh #v[])

/-- The second callback is still called, by the broadcast that was under way. -/
theorem reliable_rearranged :
    rearranged.client[3]? = some (.started (.added "x")) ∧
      callsOf 3 rearranged.client = [(0, .added "x"), (1, .added "x")] ∧
      rearranged.registry.audience.subscriptions .added = [⟨4, 4⟩] ∧
      (ids rearranged.client).Nodup ∧
      ∃ before after, rearranged.client[5]? =
        some (.unsubscribed 1 before true after) ∧ before.Loses 1 after := by
  have reliable : Reliable rearranged := reliable_afterActions _ rearrange 2 _
  have started : rearranged.client[3]? = some (.started (.added "x")) := by
    obtain ⟨notice, found, holds⟩ := (Option.any_eq_true _ _).mp
      (by decide +kernel : rearranged.client[3]?.any (fun
        | .started event => event == .added "x"
        | _ => false) = true)
    cases notice with
    | started event => rw [found, eq_of_beq holds]
    | _ => cases holds
  have ended : Notice.ended 3 ∈ rearranged.client := by
    obtain ⟨notice, member, holds⟩ := List.any_eq_true.mp (by decide +kernel :
      rearranged.client.any (fun
        | .ended broadcast => broadcast == 3
        | _ => false) = true)
    cases notice with
    | ended broadcast => rwa [eq_of_beq holds] at member
    | _ => cases holds
  refine ⟨started, ((reliable.calls 3 _ started).2 ended).trans
    (by decide +kernel),
    (reliable.listed .added).trans (by decide +kernel), reliable.distinct, ?_⟩
  obtain ⟨notice, found, holds⟩ := (Option.any_eq_true _ _).mp
    (by decide +kernel : rearranged.client[5]?.any (fun
      | .unsubscribed id _ answer _ => id == 1 && answer
      | _ => false) = true)
  cases notice with
  | unsubscribed id before answer after =>
      obtain ⟨same, rfl⟩ := Bool.and_eq_true_iff.mp holds
      rw [eq_of_beq same] at found
      exact ⟨before, after, found,
        (reliable.takenBack 5 1 before true after found).2.2.1 rfl⟩
  | _ => cases holds

end Rearranging

end JournalHub

end Hotplug
