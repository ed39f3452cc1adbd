import Hotplug.Proofs.Hub.Streams
import Hotplug.Proofs.Hub.UpToDate

/-!
# Events are told once, in order

Whatever is done between deliveries and by callbacks within them, the events of
a backend that were told, those that were taken from it for the delivery, and
those that are still queued are together what its cache answered.
-/

namespace Hotplug

open Chronicle

variable {n : Nat} {σ κ ω α : Type}

section Recording

variable {state : Recorded n σ κ ω} {failed : Recorded n σ κ ω → Prop}

@[simp] theorem yields_quietly {step : Run (ServiceHub n σ κ ω) α}
    {after : α → Recorded n σ κ ω → Prop} :
    (Recorded.quietly step).Yields state after failed ↔
      step.Yields state.1 (fun answer left => after answer (left, state.2))
        fun left => failed (left, state.2) :=
  Run.yields_zoom

@[simp] theorem yields_note
    {happenings : ServiceHub n σ κ ω → Chronicle n σ κ ω}
    {after : Unit → Recorded n σ κ ω → Prop} :
    (Recorded.note happenings).Yields state after failed ↔
      after () (state.1, state.2 ++ happenings state.1) := Iff.rfl

end Recording

theorem Chronicle.mem_toldOf {chronicle : Chronicle n σ κ ω} {i : Fin n}
    {event : DeviceEvent} {found started : ServiceHub n σ κ ω}
    (member : .told i event found started ∈ chronicle) :
    event ∈ toldOf i chronicle :=
  List.mem_flatMap.mpr ⟨_, member, by simp⟩

variable [Service σ]

/-- What a signal queues is what the cache answers, and nothing if the cache
crashes. -/
theorem ServiceBackend.yields_absorb_queue (signal : Signal)
    (backend : ServiceBackend σ) :
    (absorb signal).Yields backend
      (fun _ left => ∃ events,
        ((Cache.absorb backend.settings signal).start backend.cache).1 =
          .ok events ∧ left.queue = backend.queue ++ events)
      (fun left => (∃ reason,
        ((Cache.absorb backend.settings signal).start backend.cache).1 =
          .error reason) ∧ left.queue = backend.queue) := by
  rw [absorb, Run.yields_bind, yields_onCache]
  refine (Run.yields_start (Cache.absorb backend.settings signal)
    backend.cache).mono ?_ ?_
  · intro events cache started
    simp only [Run.yields_bind, Run.yields_modify, Run.yields_pure]
    refine ⟨events, congrArg Prod.fst started, ?_⟩
    rw [(foldl_releaseRemoved events { backend with cache := cache }).2.1]
  · intro cache started
    obtain ⟨reason, started⟩ := started
    exact ⟨⟨reason, congrArg Prod.fst started⟩, rfl⟩

/-- Between an origin and a state: of each backend, what was told, what was
taken for a delivery and what is queued are together what was queued at the
origin and what its cache has answered since. Some streams are watched that were
opened at the origin, and callbacks only ever started when the handles were up
to date. -/
structure Flow (origin : ServiceHub n σ κ ω) (watched : List Nat)
    (batch : Fin n → List DeviceEvent) (sending : List DeviceEvent)
    (state : Recorded n σ κ ω) : Prop where
  ledger : ∀ i, toldOf i state.2 ++ (batch i ++ state.1.queueAt i) =
    origin.queueAt i ++ returnedBy i state.2
  orderly : state.1.registry.audience.Orderly
  watching : ∀ stream ∈ watched,
    Watched stream sending state.1.registry.audience state.2
  upToDate : ∀ i event found started, .told i event found started ∈ state.2 →
    Hub.UpToDate found started event

namespace Flow

variable {origin : ServiceHub n σ κ ω} {watched : List Nat}
  {batch : Fin n → List DeviceEvent} {sending events : List DeviceEvent}
  {state : Recorded n σ κ ω} {i : Fin n} {event : DeviceEvent}
  {backend : ServiceBackend σ} {left : ServiceHub n σ κ ω}
  {react : κ → DeviceEvent → ServiceHub n σ κ ω → Agenda n σ κ ω}

theorem ofFresh (fresh : origin.registry.audience = {}) :
    Flow origin [] (fun _ => []) [] (origin, []) where
  ledger i := (List.append_nil _).symm
  orderly := by
    rw [fresh]
    exact ⟨List.nodup_nil, by simp⟩
  watching := by simp
  upToDate := by simp

/-- Nothing is told in between: what is queued is what is answered. -/
theorem extend (flow : Flow origin watched batch sending state)
    (more : Chronicle n σ κ ω)
    (queues : ∀ i, left.queueAt i = state.1.queueAt i ++ returnedBy i more)
    (orderly : left.registry.audience.Orderly)
    (watching : ∀ stream ∈ watched,
      Watched stream sending left.registry.audience (state.2 ++ more))
    (silent : ∀ i, toldOf i more = []) :
    Flow origin watched batch sending (left, state.2 ++ more) where
  ledger i := by
    have before := flow.ledger i
    rw [toldOf_append, returnedBy_append, silent i, queues i, List.append_nil,
      ← List.append_assoc (origin.queueAt i), ← before]
    simp only [List.append_assoc]
  orderly := orderly
  watching := watching
  upToDate i event found started member := by
    rcases List.mem_append.mp member with earlier | now
    · exact flow.upToDate i event found started earlier
    · have isTold := mem_toldOf now
      rw [silent i] at isTold
      cases isTold

theorem ofSameFlow (flow : Flow origin watched batch sending state)
    (same : Hub.SameFlow state.1 left) :
    Flow origin watched batch sending (left, state.2) := by
  have extended : Flow origin watched batch sending (left, state.2 ++ []) := by
    refine flow.extend [] ?_ (flow.orderly.congr same.streams same.nextStream)
      ?_ fun _ => rfl
    · intro i
      exact (same.queues i).trans (List.append_nil _).symm
    · intro stream member
      exact (flow.watching stream member).congr same.nextStream same.streams
        same.inboxes rfl rfl
  rwa [List.append_nil] at extended

theorem ofReturned (flow : Flow origin watched batch sending state)
    (queue : backend.queue = (state.1.backendAt i).queue ++ events) :
    Flow origin watched batch sending
      (state.1.withBackend i backend, state.2 ++ [.returned i events]) := by
  refine flow.extend _ ?_ flow.orderly ?_ fun _ => rfl
  · intro j
    rw [Hub.queueAt_withBackend]
    split
    · next equal =>
        subst equal
        simpa [returnedBy, Hub.queueAt] using queue
    · next different => simp [returnedBy, different]
  · intro stream member
    exact (flow.watching stream member).congr rfl rfl rfl rfl rfl

/-- Whatever is done, also if it crashes. -/
theorem yields_errand (flow : Flow origin watched batch sending state)
    (errand : Errand n σ κ ω) :
    errand.recorded.Yields state (fun _ => Flow origin watched batch sending)
      (Flow origin watched batch sending) := by
  rw [Errand.recorded, Run.yields_bind, yields_note, yields_quietly]
  cases errand with
  | handle i signal =>
      simp only [Errand.run, Run.yields_bind, Run.yields_pure,
        Hub.yields_atBackend, Errand.happenings]
      refine (ServiceBackend.yields_absorb_queue signal
        (state.1.backendAt i)).mono ?_ ?_
      · intro count backend outcome
        obtain ⟨events, answered, queue⟩ := outcome
        rw [answered]
        exact flow.ofReturned queue
      · intro backend outcome
        obtain ⟨⟨reason, crashed⟩, queue⟩ := outcome
        rw [crashed, List.append_nil]
        exact flow.ofSameFlow ((Hub.SameFlow.refl state.1).ofBackend queue)
  | openStream =>
      refine flow.extend [] (fun _ => (List.append_nil _).symm)
        flow.orderly.openStream ?_ fun _ => rfl
      intro stream member
      rw [List.append_nil]
      exact (flow.watching stream member).openStream
  | closeStream other =>
      refine flow.extend _ (fun _ => (List.append_nil _).symm)
        (flow.orderly.congr rfl rfl) ?_ fun _ => rfl
      intro stream member
      exact (flow.watching stream member).closeStream other
  | receive other =>
      obtain ⟨streams, next⟩ :=
        Audience.receive_streams other state.1.registry.audience
      refine flow.extend _ (fun _ => (List.append_nil _).symm)
        (flow.orderly.congr streams next) ?_ fun _ => rfl
      intro stream member
      exact (flow.watching stream member).receive other
  | receiveAll other =>
      refine flow.extend _ (fun _ => (List.append_nil _).symm)
        (flow.orderly.congr rfl rfl) ?_ fun _ => rfl
      intro stream member
      exact (flow.watching stream member).receiveAll other
  | aside step undisturbing =>
      rw [Errand.happenings, List.append_nil]
      exact (undisturbing state.1).mono (fun _ _ => flow.ofSameFlow)
        fun _ => flow.ofSameFlow

theorem yields_agenda (flow : Flow origin watched batch sending state)
    (agenda : Agenda n σ κ ω) :
    agenda.recorded.Yields state (fun _ => Flow origin watched batch sending)
      (Flow origin watched batch sending) := by
  induction agenda generalizing state with
  | done => exact flow
  | first errand next induction =>
      rw [Agenda.recorded, Run.yields_bind]
      refine (flow.yields_errand errand).mono ?_ fun _ failed => failed
      intro _ left flowLeft
      exact induction left.1 flowLeft

section Delivery

theorem ofDrained (flow : Flow origin watched (fun _ => []) [] state)
    (i : Fin n) :
    Flow origin watched (Hub.batchOf i (state.1.queueAt i)) []
      (state.1.withBackend i { (state.1.backendAt i) with queue := [] },
        state.2) where
  ledger j := by
    rw [← flow.ledger j, Hub.queueAt_withBackend, Hub.batchOf]
    split
    · next equal =>
        subst equal
        simp
    · rfl
  orderly := flow.orderly
  watching := flow.watching
  upToDate := flow.upToDate

/-- The next event of a batch is told, when the handles have been brought up to
date. -/
theorem ofTold
    (flow : Flow origin watched (Hub.batchOf i (event :: events)) [] state)
    (same : Hub.SameFlow state.1 left)
    (upToDate : Hub.UpToDate state.1 left event) :
    Flow origin watched (Hub.batchOf i events) [event]
      (left, state.2 ++ [.told i event state.1 left]) where
  ledger j := by
    have before := flow.ledger j
    rw [toldOf_append, returnedBy_append,
      ← List.append_assoc (origin.queueAt j), ← before, same.queues j]
    by_cases equal : i = j
    · simp [equal, Hub.batchOf, toldOf, returnedBy]
    · simp [equal, Hub.batchOf, toldOf, returnedBy]
  orderly := flow.orderly.congr same.streams same.nextStream
  watching stream member :=
    (flow.watching stream member).tell same.nextStream same.streams
      same.inboxes i state.1 left
  upToDate j other found started member := by
    rcases List.mem_append.mp member with earlier | now
    · exact flow.upToDate j other found started earlier
    · cases List.mem_singleton.mp now
      exact upToDate

theorem ofSent (flow : Flow origin watched batch [event] state) :
    Flow origin watched batch []
      (state.1.onAudience (Audience.send event), state.2) where
  ledger := flow.ledger
  orderly := flow.orderly.send event
  watching stream member := (flow.watching stream member).send flow.orderly
  upToDate := flow.upToDate

theorem yields_deliver
    (flow : Flow origin watched (Hub.batchOf i (event :: events)) [] state) :
    (Hub.recordedDeliver react i event).Yields state
      (fun _ => Flow origin watched (Hub.batchOf i events) [])
        fun _ => True := by
  simp only [Hub.recordedDeliver, Run.yields_bind, Run.yields_get,
    yields_quietly, yields_note]
  refine (Hub.yields_updateHandles_upToDate event state.1).mono ?_
    fun _ _ => trivial
  intro _ started outcome
  obtain ⟨upToDate, same⟩ := outcome
  have called := flow.ofTold same upToDate
  refine (Run.yields_forM (Flow origin watched (Hub.batchOf i events) [event])
    called ?_).mono ?_ fun _ failed => failed
  · intro subscription _ left flowLeft
    exact (flowLeft.yields_agenda _).mono (fun _ _ => id) fun _ _ => trivial
  · intro _ left flowLeft
    exact flowLeft.ofSent

theorem yields_deliverAll
    (flow : Flow origin watched (Hub.batchOf i events) [] state) :
    (events.forM (Hub.recordedDeliver react i)).Yields state
      (fun _ => Flow origin watched (fun _ => []) []) fun _ => True := by
  induction events generalizing state with
  | nil =>
      rw [Hub.batchOf_nil] at flow
      exact flow
  | cons event events induction =>
      rw [Run.yields_forM_cons]
      exact flow.yields_deliver.mono (fun _ _ => induction) fun _ _ => trivial

theorem yields_pump (flow : Flow origin watched (fun _ => []) [] state) :
    (Hub.recordedPump react).Yields state
      (fun _ => Flow origin watched (fun _ => []) []) fun _ => True := by
  rw [Hub.recordedPump, Run.yields_bind, Run.yields_get]
  refine Run.yields_foldlM
    (fun _ => Flow origin watched (fun _ => []) []) flow ?_
  intro i _ count left flowLeft
  rw [Run.yields_bind, yields_quietly, Hub.yields_atBackend]
  simp only [Backend.drain, Run.yields_bind, Run.yields_get, Run.yields_set,
    Run.yields_pure]
  exact (flowLeft.ofDrained i).yields_deliverAll

end Delivery

end Flow

namespace Hub

variable {react : κ → DeviceEvent → ServiceHub n σ κ ω → Agenda n σ κ ω}
  {origin hub : ServiceHub n σ κ ω} {chronicle : Chronicle n σ κ ω}
  {watched : List Nat}

/-- The states that are reached from an origin, with what happened since.
Errands are done, also some that crash, and events are delivered, by deliveries
that come to their end. -/
inductive Chronicled
    (react : κ → DeviceEvent → ServiceHub n σ κ ω → Agenda n σ κ ω)
    (origin : ServiceHub n σ κ ω) :
    ServiceHub n σ κ ω → Chronicle n σ κ ω → Prop
  | begun : Chronicled react origin origin []
  | did {hub : ServiceHub n σ κ ω} {chronicle : Chronicle n σ κ ω}
      (reached : Chronicled react origin hub chronicle)
        (errand : Errand n σ κ ω) :
      Chronicled react origin (errand.run.start hub).2
        (chronicle ++ errand.happenings hub)
  | delivered {hub : ServiceHub n σ κ ω} {chronicle : Chronicle n σ κ ω}
      (reached : Chronicled react origin hub chronicle)
      (ended : ((pump (callbacksOf react)).start hub).1.isOk = true) :
      Chronicled react origin ((pump (callbacksOf react)).start hub).2
        ((recordedPump react).start (hub, chronicle)).2.2

theorem Chronicled.flow (reached : Chronicled react origin hub chronicle)
    (initially : Flow origin watched (fun _ => []) [] (origin, [])) :
    Flow origin watched (fun _ => []) [] (hub, chronicle) := by
  -- By induction on how the state was reached.
  induction reached with
  | begun => exact initially
  | @did hub chronicle _ errand flow =>
      exact (flow.yields_errand errand).left
  | @delivered hub chronicle _ ended flow =>
      have same := Erases.pump react (hub, chronicle)
      rw [same] at ended ⊢
      obtain ⟨_, flowLeft⟩ := flow.yields_pump.of_isOk ended
      exact flowLeft

/-- The events of each backend are told exactly once, in the order in which its
cache answered them, and those that were not told are queued. A stream that is
opened outside of a delivery and not given up has been sent exactly what was
told since. Whenever callbacks start, the handles of the device are up to
date. -/
theorem told_once_in_order (fresh : origin.registry.audience = {})
    (reached : Chronicled react origin hub chronicle) :
    (∀ i, toldOf i chronicle ++ hub.queueAt i =
      origin.queueAt i ++ returnedBy i chronicle) ∧
    (∀ stream opened, (modifyAudience Audience.openStream).start hub =
      (.ok stream, opened) →
      ∀ left later, Chronicled react opened left later →
        .closed stream ∉ later →
        ∃ waiting, left.registry.audience.inboxes[stream]? = some waiting ∧
          receivedFrom stream later ++ waiting = told later) ∧
    ∀ i event found started, .told i event found started ∈ chronicle →
      UpToDate found started event := by
  have flow := reached.flow (Flow.ofFresh fresh)
  refine ⟨flow.ledger, ?_, flow.upToDate⟩
  intro stream opened start left later reachedLater kept
  cases start
  have watching : Flow (hub.onAudience fun audience => audience.openStream.2)
      [hub.registry.audience.nextStream] (fun _ => []) []
      (hub.onAudience fun audience => audience.openStream.2, []) := by
    refine ⟨fun i => (List.append_nil _).symm,
      flow.orderly.openStream, ?_, by simp⟩
    intro stream member
    obtain rfl := List.mem_singleton.mp member
    exact .ofOpened hub.registry.audience
  have watched := (reachedLater.flow watching).watching _
    (List.mem_singleton_self _)
  obtain ⟨_, waiting, inbox, whole⟩ := watched.sent kept
  rw [List.append_nil] at whole
  exact ⟨waiting, inbox, whole⟩

def disk : String := "/s/d/disk"

/-- A callback that puts the disk back as soon as it is told that the disk was
taken out. -/
def putsBack (_ : Unit) : DeviceEvent → ServiceHub 1 MemoryService Unit Unit →
    Agenda 1 MemoryService Unit Unit
  | .removed udi, _ =>
      .first (.handle (Fin.last 0) (.interfacesAdded udi
        (Std.ExtTreeMap.ofList [("s.Drive", ∅)]))) fun _ => .done
  | _, _ => .done

def listen : Errand 1 MemoryService Unit Unit :=
  .aside _ (Bystanding.subscribe .removed ()).undisturbing.discard

def lookUp : Errand 1 MemoryService Unit Unit :=
  .aside _ (Bystanding.find disk).undisturbing.discard

def takeOut : Errand 1 MemoryService Unit Unit :=
  .handle (Fin.last 0) (.interfacesRemoved disk ["s.Drive"])

/-- The callback is registered and the disk was looked up. -/
def awaiting : ServiceHub 1 MemoryService Unit Unit :=
  (lookUp.run.start (listen.run.start (reload.start bench).2).2).2

/-- The disk was said to be there while it was tracked and a handle of it was
out. -/
def foundAgain (chronicle : Chronicle 1 MemoryService Unit Unit) : Bool :=
  chronicle.any fun
    | .told _ event _ started =>
        event == .added disk && (started.route? disk).any
          (started.tracksAt · disk) && decide (0 < started.sharers ⟨disk, true⟩)
    | _ => false

def keptOpen (chronicle : Chronicle 1 MemoryService Unit Unit) : Bool :=
  chronicle.all fun
    | .closed _ => false
    | _ => true

/-- The disk is taken out, and put back by the callback, of which it is told in
turn. A stream that was opened before is sent both, and the handle is valid
again. -/
theorem told_once_in_order_putBack :
    ∃ (left : ServiceHub 1 MemoryService Unit Unit)
      (chronicle later : Chronicle 1 MemoryService Unit Unit),
      Chronicled putsBack (reload.start bench).2 left chronicle ∧
        Chronicled putsBack (Errand.openStream.run.start awaiting).2
          left later ∧
        returnedBy 0 chronicle = [.removed disk, .added disk] ∧
        left.registry.audience.inboxes[0]? = some [.removed disk, .added disk] ∧
        ∃ i found started, .told i (.added disk) found started ∈ chronicle ∧
          started.isValid ⟨disk, true⟩ = true := by
  have before : Chronicled putsBack (reload.start bench).2 awaiting _ :=
    .did (.did .begun listen) lookUp
  obtain ⟨left, chronicle, later, reached, reachedLater, isTold, drained,
    isToldLater, unread, kept, again⟩ :
      ∃ left chronicle later, Chronicled putsBack (reload.start bench).2
        left chronicle ∧
        Chronicled putsBack (Errand.openStream.run.start awaiting).2
          left later ∧
        toldOf 0 chronicle = [.removed disk, .added disk] ∧
          left.queueAt 0 = [] ∧
        told later = [.removed disk, .added disk] ∧ receivedFrom 0 later = [] ∧
        keptOpen later = true ∧ foundAgain chronicle = true := by
    have ended : ((pump (callbacksOf putsBack)).start
        (takeOut.run.start (Errand.openStream.run.start awaiting).2).2).1.isOk =
            true := by
      decide +kernel
    have endedAgain : ((pump (callbacksOf putsBack)).start
      ((pump (callbacksOf putsBack)).start
        (takeOut.run.start (Errand.openStream.run.start
            awaiting).2).2).2).1.isOk = true := by
      decide +kernel
    refine ⟨_, _, _, (((before.did .openStream).did takeOut).delivered
      ended).delivered endedAgain,
      ((Chronicled.begun.did takeOut).delivered ended).delivered endedAgain, ?_⟩
    decide +kernel
  obtain ⟨ledger, _, upToDate⟩ := told_once_in_order rfl reached
  obtain ⟨_, streams, _⟩ := told_once_in_order rfl before
  refine ⟨left, chronicle, later, reached, reachedLater, ?_, ?_, ?_⟩
  · have whole := ledger 0
    rw [isTold, drained, List.append_nil] at whole
    exact whole.symm
  · have stillOpen : .closed 0 ∉ later := fun member => by
      have opened := List.all_eq_true.mp kept _ member
      cases opened
    have number : awaiting.registry.audience.nextStream = 0 := by decide +kernel
    have sent := streams awaiting.registry.audience.nextStream _ rfl left
      later reachedLater
    rw [number] at sent
    obtain ⟨waiting, inbox, whole⟩ := sent stillOpen
    rw [unread, isToldLater, List.nil_append] at whole
    rw [inbox, whole]
  · obtain ⟨happening, member, holds⟩ := List.any_eq_true.mp again
    cases happening with
    | told i event found started =>
        simp only [Bool.and_eq_true, beq_iff_eq, decide_eq_true_eq,
          Option.any_eq_true] at holds
        obtain ⟨⟨rfl, route⟩, counted⟩ := holds
        exact ⟨i, found, started, member,
          upToDate i _ found started member (.inr route) _ rfl counted⟩
    | _ => cases holds

end Hub

end Hotplug
