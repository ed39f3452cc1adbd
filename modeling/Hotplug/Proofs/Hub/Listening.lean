import Mathlib.Data.List.Basic
import Hotplug.Proofs.Hub.Streams
import Hotplug.Proofs.Script

/-!
# When streams listen

An event is sent to the streams at the end of its broadcast, after the
callbacks. So a stream that a callback opens is sent the event that is in
flight, and a stream that a callback ends with all others is not sent it any
more. What is done to the streams is noted, and from the notes it can be told
what each stream has got, and when this is what was broadcast while it listened.
-/

namespace Hotplug

/-- What is noted, each time after it was done. -/
inductive StreamNotice where
  | opened (stream : Nat)
  /-- The reader of the stream gave it up. -/
  | closed (stream : Nat)
  /-- Every stream was ended. -/
  | cleared
  /-- A broadcast is about to begin. Its number is that of the notices before
  this one. -/
  | started (event : DeviceEvent)
  /-- At the end of a broadcast its event was sent to the streams. -/
  | sent (broadcast : Nat) (event : DeviceEvent)
  | received (stream : Nat) (events : List DeviceEvent)
  deriving DecidableEq

/-- The oldest notice comes first. -/
abbrev StreamJournal : Type := List StreamNotice

namespace StreamNotice

/-- Whether the stream is sent events after the notice. -/
def listening (stream : Nat) (before : Bool) : StreamNotice → Bool
  | opened other => before || other == stream
  | cleared => false
  | _ => before

/-- Whether the stream has a reader after the notice. -/
def reading (stream : Nat) (before : Bool) : StreamNotice → Bool
  | opened other => before || other == stream
  | closed other => before && other != stream
  | _ => before

def taken (stream : Nat) : StreamNotice → List DeviceEvent
  | received other events => if other = stream then events else []
  | _ => []

/-- The event that was sent, if its broadcast is chosen. -/
def sentIf (chosen : Nat → Bool) : StreamNotice → List DeviceEvent
  | sent broadcast event => if chosen broadcast then [event] else []
  | _ => []

end StreamNotice

namespace Audience

variable {κ : Type} {audience : Audience κ} {stream : Nat}

theorem mem_streams_send {event : DeviceEvent} :
    stream ∈ (audience.send event).streams ↔
      stream ∈ audience.streams ∧ audience.inboxes[stream]?.isSome = true := by
  rw [send, List.mem_filter, Std.ExtTreeMap.isSome_getElem?_eq_contains]

theorem getElem?_inboxes_send (orderly : audience.Orderly)
    {event : DeviceEvent} :
    (audience.send event).inboxes[stream]? =
      if stream ∈ audience.streams then
        audience.inboxes[stream]?.map fun events => events ++ [event]
      else audience.inboxes[stream]? := by
  rw [send, getElem?_foldl_modify (orderly.apart.filter _)]
  simp only [List.mem_filter, ← Std.ExtTreeMap.isSome_getElem?_eq_contains]
  cases audience.inboxes[stream]? <;> simp

end Audience

namespace StreamJournal

open StreamNotice

variable {stream place broadcast : Nat} {journal : StreamJournal}
  {last : StreamNotice}

/-- The stream was opened, and nothing was cleared since. -/
def listens (stream : Nat) (journal : StreamJournal) : Bool :=
  journal.foldl (StreamNotice.listening stream) false

/-- The stream was opened, and its reader has not given it up. -/
def isRead (stream : Nat) (journal : StreamJournal) : Bool :=
  journal.foldl (StreamNotice.reading stream) false

/-- What the reader of a stream has taken from it. -/
def takenFrom (stream : Nat) (journal : StreamJournal) : List DeviceEvent :=
  journal.flatMap (StreamNotice.taken stream)

/-- What was sent while the stream listened. -/
def sentTo (stream : Nat) (journal : StreamJournal) : List DeviceEvent :=
  journal.zipIdx.flatMap fun entry =>
    entry.1.sentIf fun _ => listens stream (journal.take entry.2)

/-- What was sent of the broadcasts at whose start the stream listened. -/
def dueTo (stream : Nat) (journal : StreamJournal) : List DeviceEvent :=
  journal.zipIdx.flatMap fun entry =>
    entry.1.sentIf fun broadcast => listens stream (journal.take broadcast)

/-- From the start of a broadcast until it was sent, at this place, the stream
was not opened and nothing was cleared. -/
def Undisturbed (stream broadcast place : Nat) (journal : StreamJournal) :
    Prop :=
  ∀ notice ∈ (journal.take place).drop broadcast, notice ≠ .opened stream ∧
    notice ≠ .cleared

@[simp] theorem listens_concat :
    listens stream (journal ++ [last]) =
      last.listening stream (listens stream journal) := by
  simp [listens]

@[simp] theorem isRead_concat :
    isRead stream (journal ++ [last]) =
      last.reading stream (isRead stream journal) := by
  simp [isRead]

@[simp] theorem takenFrom_concat :
    takenFrom stream (journal ++ [last]) =
      takenFrom stream journal ++ last.taken stream := by
  simp [takenFrom]

/-- Whether a stream listened at an earlier place is not changed by one more
notice. -/
@[simp] theorem sentTo_concat :
    sentTo stream (journal ++ [last]) =
      sentTo stream journal ++ last.sentIf fun _ => listens stream journal := by
  rw [sentTo, List.zipIdx_append, List.flatMap_append]
  congr 1
  · apply List.flatMap_congr
    intro entry member
    have below : entry.2 < journal.length :=
      (List.getElem?_eq_some_iff.mp (List.mem_zipIdx_iff_getElem?.mp member)).1
    rw [List.take_append_of_le_length (Nat.le_of_lt below)]
  · simp

theorem listens_of_undisturbed (later : broadcast ≤ place)
    (undisturbed : Undisturbed stream broadcast place journal) :
    listens stream (journal.take place) =
      listens stream (journal.take broadcast) := by
  have idle (notices : List StreamNotice) (before : Bool)
      (silent : ∀ notice ∈ notices, notice ≠ .opened stream ∧
        notice ≠ .cleared) :
      notices.foldl (StreamNotice.listening stream) before = before := by
    induction notices with
    | nil => rfl
    | cons notice notices induction =>
        obtain ⟨here, rest⟩ := List.forall_mem_cons.mp silent
        have same : notice.listening stream before = before := by
          cases notice with
          | opened other =>
              have apart : other ≠ stream :=
                fun same => here.1 (congrArg StreamNotice.opened same)
              simp [listening, apart]
          | cleared => exact (here.2 rfl).elim
          | _ => rfl
        rw [List.foldl_cons, same]
        exact induction rest
  have split := List.take_append_drop broadcast (journal.take place)
  rw [List.take_take, Nat.min_eq_left later] at split
  rw [← split, listens, List.foldl_append]
  exact idle _ _ undisturbed

/-- If no broadcast was disturbed, what was sent is what was due. -/
theorem sentTo_eq_dueTo
    (same : ∀ place broadcast event,
      journal[place]? = some (.sent broadcast event) →
      listens stream (journal.take place) =
        listens stream (journal.take broadcast)) :
    sentTo stream journal = dueTo stream journal := by
  apply List.flatMap_congr
  rintro ⟨notice, place⟩ member
  have found := List.mem_zipIdx_iff_getElem?.mp member
  cases notice with
  | sent broadcast event =>
      rw [sentIf, sentIf, same place broadcast event found]
  | _ => rfl

/-- What a stream has got, and whether it is sent more, is what the journal
tells of it. -/
structure Follows {κ : Type} (stream : Nat) (audience : Audience κ)
    (journal : StreamJournal) :
    Prop where
  unopened : audience.nextStream ≤ stream → audience.inboxes[stream]? = none ∧
    isRead stream journal = false ∧ listens stream journal = false ∧
      takenFrom stream journal = [] ∧ sentTo stream journal = []
  listed : isRead stream journal = true →
    (stream ∈ audience.streams ↔ listens stream journal = true)
  got : isRead stream journal = true → ∃ waiting,
    audience.inboxes[stream]? = some waiting ∧
    takenFrom stream journal ++ waiting = sentTo stream journal

namespace Follows

variable {κ : Type} {audience later : Audience κ} {event : DeviceEvent}

theorem initial : Follows stream ({} : Audience κ) [] where
  unopened _ := ⟨by simp, rfl, rfl, rfl, rfl⟩
  listed read := by cases read
  got read := by cases read

theorem aside (follows : Follows stream audience journal)
    (number : audience.nextStream ≤ later.nextStream)
    (streams : stream ∈ later.streams ↔ stream ∈ audience.streams)
    (inbox : later.inboxes[stream]? = audience.inboxes[stream]?)
    (read : last.reading stream (isRead stream journal) = isRead stream journal)
    (listening : last.listening stream (listens stream journal) =
      listens stream journal)
    (taken : last.taken stream = [])
    (sent : (last.sentIf fun _ => listens stream journal) = []) :
    Follows stream later (journal ++ [last]) := by
  have same : takenFrom stream (journal ++ [last]) = takenFrom stream journal ∧
      sentTo stream (journal ++ [last]) = sentTo stream journal := by
    rw [takenFrom_concat, taken, List.append_nil, sentTo_concat,
      sent, List.append_nil]
    exact ⟨rfl, rfl⟩
  constructor
  · intro fresh
    rw [isRead_concat, read, listens_concat, listening, same.1, same.2, inbox]
    exact follows.unopened (Nat.le_trans number fresh)
  · rw [isRead_concat, read, listens_concat, listening, streams]
    exact follows.listed
  · rw [isRead_concat, read, same.1, same.2, inbox]
    exact follows.got

theorem start (follows : Follows stream audience journal)
    (event : DeviceEvent) :
    Follows stream audience (journal ++ [.started event]) :=
  follows.aside (Nat.le_refl _) Iff.rfl rfl rfl rfl rfl rfl

theorem openStream (follows : Follows stream audience journal) :
    Follows stream audience.openStream.2
      (journal ++ [.opened audience.nextStream]) := by
  by_cases here : audience.nextStream = stream
  · obtain ⟨_, _, _, taken, sent⟩ := follows.unopened (Nat.le_of_eq here)
    constructor
    · intro beyond
      have : audience.nextStream + 1 ≤ stream := beyond
      omega
    · intro _
      simp [Audience.openStream, listening, here]
    · intro _
      refine ⟨[], by simp [Audience.openStream, here], ?_⟩
      simp [taken, sent, StreamNotice.taken, sentIf]
  · have apart : (audience.nextStream == stream) = false := by simpa using here
    apply follows.aside (Nat.le_succ _)
    · simp [Audience.openStream, Ne.symm here]
    · simp [Audience.openStream, Std.ExtTreeMap.getElem?_insert, here]
    · simp [reading, apart]
    · simp [listening, apart]
    · rfl
    · rfl

theorem closeStream (follows : Follows stream audience journal) (other : Nat) :
    Follows stream (audience.closeStream other)
      (journal ++ [.closed other]) := by
  by_cases here : other = stream
  · subst here
    have unread : isRead other (journal ++ [.closed other]) = false := by
      simp [reading]
    constructor
    · intro fresh
      obtain ⟨_, _, listens, taken, sent⟩ := follows.unopened fresh
      refine ⟨by simp [Audience.closeStream], unread, ?_⟩
      simp [listening, listens, taken, sent, StreamNotice.taken, sentIf]
    · intro read
      rw [unread] at read
      cases read
    · intro read
      rw [unread] at read
      cases read
  · have apart : (other != stream) = true := by simpa using here
    refine follows.aside (Nat.le_refl _) Iff.rfl ?_ ?_ rfl rfl rfl
    · simp [Audience.closeStream, Std.ExtTreeMap.getElem?_erase, here]
    · simp [reading, apart]

theorem clear (follows : Follows stream audience journal) :
    Follows stream audience.clear (journal ++ [.cleared]) where
  unopened fresh := by
    obtain ⟨inbox, read, _, taken, sent⟩ := follows.unopened fresh
    exact ⟨inbox, by simp [reading, read], by simp [listening],
      by simp [taken, StreamNotice.taken], by simp [sent, sentIf]⟩
  listed _ := by simp [Audience.clear, listening]
  got read := by
    rw [isRead_concat] at read
    obtain ⟨waiting, inbox, whole⟩ := follows.got read
    refine ⟨waiting, inbox, ?_⟩
    simpa [StreamNotice.taken, sentIf] using whole

theorem send (follows : Follows stream audience journal)
    (orderly : audience.Orderly) (broadcast : Nat) (event : DeviceEvent) :
    Follows stream (audience.send event)
      (journal ++ [.sent broadcast event]) where
  unopened fresh := by
    obtain ⟨nothing, read, listens, taken, sent⟩ := follows.unopened fresh
    refine ⟨?_, by simp [reading, read], by simp [listening, listens],
      by simp [taken, StreamNotice.taken], by simp [sent, sentIf, listens]⟩
    rw [Audience.getElem?_inboxes_send orderly, nothing]
    simp
  listed read := by
    rw [isRead_concat] at read
    obtain ⟨waiting, found, _⟩ := follows.got read
    rw [Audience.mem_streams_send, found, listens_concat]
    simpa [listening] using follows.listed read
  got read := by
    rw [isRead_concat] at read
    obtain ⟨waiting, found, whole⟩ := follows.got read
    have listed := follows.listed read
    have untaken : (StreamNotice.sent broadcast event).taken stream = [] := rfl
    rw [Audience.getElem?_inboxes_send orderly, found, takenFrom_concat,
      untaken, List.append_nil, sentTo_concat, sentIf, ← whole]
    by_cases listens : listens stream journal = true
    · refine ⟨waiting ++ [event], if_pos (listed.mpr listens), ?_⟩
      rw [if_pos listens, List.append_assoc]
    · refine ⟨waiting, if_neg (mt listed.mp listens), ?_⟩
      rw [if_neg listens, List.append_nil]

theorem take (follows : Follows stream audience journal) {other : Nat}
    {events : List DeviceEvent}
    (number : later.nextStream = audience.nextStream)
    (streams : later.streams = audience.streams)
    (nothing : audience.inboxes[stream]? = none → later.inboxes[stream]? =
      none ∧ (if other = stream then events else []) = [])
    (inbox : ∀ waiting, audience.inboxes[stream]? = some waiting → ∃ left,
      later.inboxes[stream]? = some left ∧
      (if other = stream then events else []) ++ left = waiting) :
    Follows stream later (journal ++ [.received other events]) where
  unopened fresh := by
    obtain ⟨none, read, listens, taken, sent⟩ :=
      follows.unopened (number ▸ fresh)
    obtain ⟨noneLeft, nothingTaken⟩ := nothing none
    exact ⟨noneLeft, by simp [reading, read], by simp [listening, listens],
      by simpa [taken, StreamNotice.taken] using nothingTaken, by simp [sent,
        sentIf]⟩
  listed read := by
    rw [isRead_concat] at read
    rw [listens_concat, streams]
    exact follows.listed read
  got read := by
    rw [isRead_concat] at read
    obtain ⟨waiting, found, whole⟩ := follows.got read
    obtain ⟨left, foundLater, rest⟩ := inbox waiting found
    refine ⟨left, foundLater, ?_⟩
    have silent : (StreamNotice.received other events).sentIf
      (fun _ => listens stream journal) = [] := rfl
    rw [takenFrom_concat, sentTo_concat, silent, List.append_nil,
      ← whole, ← rest, StreamNotice.taken, List.append_assoc]

theorem receive (follows : Follows stream audience journal) (other : Nat) :
    Follows stream (audience.receive other).2
      (journal ++ [.received other (audience.receive other).1.toList]) := by
  obtain ⟨streams, number⟩ := Audience.receive_streams other audience
  apply follows.take number streams
  · intro nothing
    rw [Audience.receive]
    split
    · next found =>
        have apart : other ≠ stream := by
          rintro rfl
          rw [found] at nothing
          cases nothing
        simp [Std.ExtTreeMap.getElem?_insert, apart, nothing]
    · simp [nothing]
  · exact fun _ => Audience.receive_inboxes

theorem receiveAll (follows : Follows stream audience journal) (other : Nat) :
    Follows stream (audience.receiveAll other).2
      (journal ++ [.received other (audience.receiveAll other).1]) := by
  refine follows.take rfl rfl ?_ fun _ => Audience.receiveAll_inboxes
  · intro nothing
    by_cases here : other = stream
    · subst here
      simp [Audience.receiveAll, nothing]
    · simp [Audience.receiveAll, Std.ExtTreeMap.getElem?_modify, here, nothing]

end Follows

end StreamJournal

/-- A hub whose client notes what is done to the streams. -/
abbrev StreamHub (n : Nat) (β ο κ : Type) : Type := Hub n β ο κ StreamJournal

namespace StreamHub

open StreamJournal

variable {n : Nat} {β ο κ : Type}

def note (notice : StreamNotice) : Run (StreamHub n β ο κ) Unit :=
  modify fun hub => { hub with client := hub.client ++ [notice] }

/-- What streams are made of, and the journal. -/
def holdings (hub : StreamHub n β ο κ) :
    Nat × List Nat × Std.ExtTreeMap Nat (List DeviceEvent) compare
      × StreamJournal :=
  let audience := hub.registry.audience
  (audience.nextStream, audience.streams, audience.inboxes, hub.client)

/-- What can be done with a notifier and its streams, by callbacks too. Anything
else may be done aside. -/
inductive Act (n : Nat) (β ο κ : Type) where
  | subscribe (kind : EventKind) (callback : κ)
  | unsubscribe (id : Nat)
  | openStream
  | closeStream (stream : Nat)
  | receive (stream : Nat)
  | receiveAll (stream : Nat)
  | clear
  | broadcast (event : DeviceEvent)
  | aside (step : Run (StreamHub n β ο κ) Unit)
    (apart : step.Preserves holdings)

/-- Do it and note it.  The callbacks are those of broadcasts. -/
def Act.perform (callbacks : κ → DeviceEvent → Run (StreamHub n β ο κ) Unit) :
    Act n β ο κ → Run (StreamHub n β ο κ) Unit
  | subscribe kind callback => do
      let _ ← Hub.modifyAudience (Audience.subscribe kind callback)
  | unsubscribe id => do
      let _ ← Hub.modifyAudience (Audience.unsubscribe id)
  | openStream => do
      let stream ← Hub.modifyAudience Audience.openStream
      note (.opened stream)
  | closeStream stream => do
      modify (Hub.onAudience (Audience.closeStream stream))
      note (.closed stream)
  | receive stream => do
      let event ← Hub.modifyAudience (Audience.receive stream)
      note (.received stream event.toList)
  | receiveAll stream => do
      let events ← Hub.modifyAudience (Audience.receiveAll stream)
      note (.received stream events)
  | clear => do
      modify (Hub.onAudience Audience.clear)
      note .cleared
  | broadcast event => do
      let number := (← get).client.length
      note (.started event)
      Hub.broadcast callbacks event
      note (.sent number event)
  | aside step _ => step

section Acting

variable {base : StreamJournal} {hub left : StreamHub n β ο κ}
  {notice : StreamNotice}
  {callbacks : κ → DeviceEvent → Run (StreamHub n β ο κ) Unit}

/-- The streams are as the journal tells, which has grown from an earlier
one. -/
structure Since (base : StreamJournal) (hub : StreamHub n β ο κ) : Prop where
  orderly : hub.registry.audience.Orderly
  follows : ∀ stream, Follows stream hub.registry.audience hub.client
  grown : base <+: hub.client
  begun : ∀ place broadcast event,
    hub.client[place]? = some (StreamNotice.sent broadcast event) →
      broadcast < place ∧ hub.client[broadcast]? =
        some (StreamNotice.started event)

namespace Since

theorem restart (since : Since base hub) : Since hub.client hub :=
  ⟨since.orderly, since.follows, List.prefix_rfl, since.begun⟩

theorem weaken {middle : StreamJournal} (since : Since middle hub)
    (grown : base <+: middle) :
    Since base hub :=
  ⟨since.orderly, since.follows, grown.trans since.grown, since.begun⟩

theorem congr (since : Since base hub) (same : left.holdings = hub.holdings) :
    Since base left := by
  obtain ⟨next, streams, inboxes, journal⟩ : _ ∧ _ ∧ _ ∧ _ := by
    simpa only [holdings, Prod.mk.injEq] using same
  constructor
  · exact since.orderly.congr streams next
  · intro stream
    obtain ⟨unopened, listed, got⟩ := since.follows stream
    rw [journal]
    exact ⟨next ▸ inboxes ▸ unopened, streams ▸ listed, inboxes ▸ got⟩
  · rw [journal]
    exact since.grown
  · rw [journal]
    exact since.begun

/-- One more notice, of a broadcast that was started before if it tells that it
was sent. -/
theorem noted (since : Since base hub)
    (journal : left.client = hub.client ++ [notice])
    (orderly : left.registry.audience.Orderly)
    (follows : ∀ stream, Follows stream left.registry.audience
      (hub.client ++ [notice]))
    (begun : ∀ broadcast event, notice = .sent broadcast event →
      hub.client[broadcast]? = some (StreamNotice.started event)) :
    Since base left := by
  constructor
  · exact orderly
  · rw [journal]
    exact follows
  · rw [journal]
    exact since.grown.trans (List.prefix_append _ _)
  · intro place broadcast event found
    rw [journal] at found ⊢
    have kept (start : hub.client[broadcast]? =
      some (StreamNotice.started event)) :
        (hub.client ++ [notice])[broadcast]? =
            some (StreamNotice.started event) := by
      rw [List.getElem?_append_left (List.getElem?_eq_some_iff.mp start).1]
      exact start
    rcases getElem?_concat_cases found with ⟨_, earlier⟩ | ⟨rfl, now⟩
    · obtain ⟨below, start⟩ := since.begun place broadcast event earlier
      exact ⟨below, kept start⟩
    · have start := begun broadcast event now.symm
      exact ⟨(List.getElem?_eq_some_iff.mp start).1, kept start⟩

end Since

/-- The callbacks may do what they like to the streams before the event is
sent. -/
theorem yields_broadcast
    (keep : ∀ base callback event,
      (callbacks callback event).Keeps (Since base))
    (event : DeviceEvent) (since : Since base hub) :
    ((Act.broadcast event : Act n β ο κ).perform callbacks).Yields hub
      (fun _ => Since base) (Since base) := by
  simp only [Act.perform, Hub.broadcast, note, Run.yields_bind, Run.yields_get,
    Run.yields_modify]
  let begun : StreamHub n β ο κ :=
    { hub with client := hub.client ++ [.started event] }
  have startedNow : begun.client[hub.client.length]? =
      some (StreamNotice.started event) := by
    simp [begun]
  have grown : base <+: begun.client :=
    since.grown.trans (List.prefix_append _ _)
  have sinceBegun : Since base begun := by
    refine since.noted rfl since.orderly ?_ ?_
    · exact fun stream => (since.follows stream).start event
    · intro broadcast sent absurd
      cases absurd
  have calls : ((hub.registry.audience.subscriptions event.kind).forM
      fun subscription => callbacks subscription.callback event).Yields begun
        (fun _ => Since begun.client) (Since begun.client) :=
    Run.yields_forM _ sinceBegun.restart fun subscription _ =>
      keep _ subscription.callback event
  refine calls.mono ?_ fun left reached => reached.weaken grown
  intro _ left reached
  have started : left.client[hub.client.length]? =
      some (StreamNotice.started event) := by
    obtain ⟨more, same⟩ := reached.grown
    rw [← same, List.getElem?_append_left
      (List.getElem?_eq_some_iff.mp startedNow).1]
    exact startedNow
  refine (reached.weaken grown).noted rfl ?_ ?_ ?_
  · exact reached.orderly.send event
  · exact fun stream => (reached.follows stream).send reached.orderly _ event
  · intro broadcast sent same
    cases same
    exact started

theorem keptByActions : KeptByActions (Since (n :=
  n) (β := β) (ο := ο) (κ := κ)) Act.perform := by
  intro callbacks keep base act hub since
  have untold {notice : StreamNotice}
    (other : ∀ broadcast event, notice ≠ .sent broadcast event) :
      ∀ broadcast event, notice = .sent broadcast event →
        hub.client[broadcast]? = some (StreamNotice.started event) :=
    fun broadcast event same => (other broadcast event same).elim
  cases act with
  | subscribe kind callback =>
      exact since.congr (by cases kind <;> rfl)
  | unsubscribe id => exact since.congr rfl
  | openStream =>
      refine since.noted rfl ?_ ?_ (untold nofun)
      · exact since.orderly.openStream
      · exact fun stream => (since.follows stream).openStream
  | closeStream stream =>
      refine since.noted rfl ?_ ?_ (untold nofun)
      · exact since.orderly.congr rfl rfl
      · exact fun other => (since.follows other).closeStream stream
  | receive stream =>
      obtain ⟨streams, next⟩ :=
        Audience.receive_streams stream hub.registry.audience
      refine since.noted rfl ?_ ?_ (untold nofun)
      · exact since.orderly.congr streams next
      · exact fun other => (since.follows other).receive stream
  | receiveAll stream =>
      refine since.noted rfl ?_ ?_ (untold nofun)
      · exact since.orderly.congr rfl rfl
      · exact fun other => (since.follows other).receiveAll stream
  | clear =>
      refine since.noted rfl ?_ ?_ (untold nofun)
      · exact ⟨List.nodup_nil, nofun⟩
      · exact fun other => (since.follows other).clear
  | broadcast event => exact yields_broadcast keep event since
  | aside step apart =>
      exact (apart hub.holdings hub rfl).mono (fun _ _ => since.congr)
        fun _ => since.congr

end Acting

/-- A new hub of these backends. -/
def fresh (backends : Vector β n) : StreamHub n β ο κ where
  backends := backends
  client := []

/-- What each stream of a hub has got, told by the journal. -/
structure Heard (hub : StreamHub n β ο κ) : Prop where
  /-- What was sent had been broadcast before. -/
  begun : ∀ place broadcast event,
    hub.client[place]? = some (StreamNotice.sent broadcast event) →
      broadcast < place ∧ hub.client[broadcast]? =
        some (StreamNotice.started event)
  /-- A stream that is read has got what was sent while it listened: the reader
  has taken the first of it, and the rest waits. -/
  got : ∀ stream, isRead stream hub.client = true →
    ∃ waiting, hub.registry.audience.inboxes[stream]? = some waiting ∧
      takenFrom stream hub.client ++ waiting = sentTo stream hub.client
  /-- A broadcast that is not disturbed is sent to those that listened when it
  was started. -/
  reaches : ∀ stream place broadcast event,
    hub.client[place]? = some (StreamNotice.sent broadcast event) →
      Undisturbed stream broadcast place hub.client →
        listens stream (hub.client.take place) =
          listens stream (hub.client.take broadcast)
  /-- So if none was disturbed, a stream has got exactly what was broadcast
  while it listened. -/
  due : ∀ stream, isRead stream hub.client = true →
    (∀ place broadcast event,
      hub.client[place]? = some (StreamNotice.sent broadcast event) →
        Undisturbed stream broadcast place hub.client) →
    ∃ waiting, hub.registry.audience.inboxes[stream]? = some waiting ∧
      takenFrom stream hub.client ++ waiting = dueTo stream hub.client

theorem Since.heard {base : StreamJournal} {hub : StreamHub n β ο κ}
    (since : Since base hub) :
    Heard hub := by
  have reaches (stream place broadcast : Nat) (event : DeviceEvent)
      (found : hub.client[place]? = some (StreamNotice.sent broadcast event))
      (undisturbed : Undisturbed stream broadcast place hub.client) :
      listens stream (hub.client.take place) =
          listens stream (hub.client.take broadcast) :=
    listens_of_undisturbed (Nat.le_of_lt
      (since.begun place broadcast event found).1) undisturbed
  constructor
  · exact since.begun
  · exact fun stream => (since.follows stream).got
  · exact reaches
  · intro stream read undisturbed
    have same : sentTo stream hub.client = dueTo stream hub.client := by
      apply sentTo_eq_dueTo
      intro place broadcast event found
      exact reaches stream place broadcast event found
        (undisturbed place broadcast event found)
    rw [← same]
    exact (since.follows stream).got read

/-- Whatever is done to a new hub, and whatever its callbacks do meanwhile,
crash too: each stream has got what was sent while it listened, and this is what
was broadcast while it listened, unless it was opened or all was cleared while
an event was in flight. -/
theorem heard_afterActions (backends : Vector β n)
    (react : κ → DeviceEvent → StreamHub n β ο κ → Script (StreamHub n β ο κ)
      (Act n β ο κ))
    (depth : Nat) (acts : List (Act n β ο κ)) :
    Heard (afterActions Act.perform react depth acts (fresh backends)) := by
  have since : Since [] (afterActions Act.perform react depth acts
      (fresh backends)) := by
    apply keptByActions.afterActions depth acts
    constructor
    · exact ⟨List.nodup_nil, nofun⟩
    · exact fun stream => .initial
    · exact List.prefix_rfl
    · intro place broadcast event found
      cases found
  exact since.heard

section InFlight

/-- The first callback opens a stream, the other one clears all. -/
def meddle (callback : Nat) (_ : DeviceEvent) (_ : StreamHub 0 Unit Unit Nat) :
    Script (StreamHub 0 Unit Unit Nat) (Act 0 Unit Unit Nat) :=
  match callback with
  | 0 => .act .openStream fun _ => .done
  | _ => .act .clear fun _ => .done

/-- One stream is open, and the callback is called. -/
def meddled (callback : Nat) : StreamHub 0 Unit Unit Nat :=
  afterActions Act.perform meddle 1
    [.openStream, .subscribe .added callback, .broadcast (.added "x")]
    (fresh (Vector.replicate 0 ()))

/-- The stream that was there before the broadcast gets its event, though
another stream is opened meanwhile. -/
theorem heard_meddled :
    dueTo 0 (meddled 0).client = [.added "x"] ∧
      ∃ waiting, (meddled 0).registry.audience.inboxes[0]? = some waiting ∧
        takenFrom 0 (meddled 0).client ++ waiting =
          dueTo 0 (meddled 0).client := by
  have journal : (meddled 0).client =
      [.opened 0, .started (.added "x"), .opened 1, .sent 1 (.added "x")] := by
        decide +kernel
  have heard : Heard (meddled 0) := heard_afterActions _ meddle 1 _
  refine ⟨by decide +kernel, heard.due 0 (by decide +kernel) ?_⟩
  intro place broadcast event found
  rw [journal] at found ⊢
  match place with
  | 0 | 1 | 2 => cases found
  | 3 =>
      cases found
      simp [Undisturbed]
  | place + 4 => cases found

/-- A stream that is opened while an event is in flight gets this event, and a
stream that was there before the broadcast does not get it if all is cleared. -/
theorem sentTo_meddled :
    isRead 1 (meddled 0).client = true ∧ dueTo 1 (meddled 0).client = [] ∧
      (meddled 0).registry.audience.inboxes[1]? = some [.added "x"] ∧
      isRead 0 (meddled 1).client = true ∧ dueTo 0 (meddled 1).client =
        [.added "x"] ∧
      (meddled 1).registry.audience.inboxes[0]? = some [] ∧
      takenFrom 0 (meddled 1).client = [] := by
  decide +kernel

end InFlight

end StreamHub

end Hotplug
