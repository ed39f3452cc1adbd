import Hotplug.Hub.Delivery
import Hotplug.Proofs.Hub.InStep

/-!
# What happens to the events of a hub

Between deliveries, and from the callbacks within them, signals are handled,
streams are opened, read and closed, and other things are seen to that touch no
event. A run can be recorded: which events the caches answered, which were told
to the callbacks and in what state of the hub, and what was taken from the
streams. Recording changes nothing else.
-/

namespace Hotplug

/-- A hub of backends on services. -/
abbrev ServiceHub (n : Nat) (σ κ ω : Type) : Type :=
  Hub n (ServiceBackend σ) ServiceObject κ ω

/-- What is recorded of a run. -/
inductive Happening (n : Nat) (σ κ ω : Type) where
  /-- The cache of a backend answered a signal with these events. -/
  | returned (i : Fin n) (events : List DeviceEvent)
  /-- The callbacks were about to be told of an event of a backend. The hub is
  given as it was found, before the handles were brought up to date, and as it
  was then. -/
  | told (i : Fin n) (event : DeviceEvent) (found started : ServiceHub n σ κ ω)
  /-- A reader took these events from a stream. -/
  | received (stream : Nat) (events : List DeviceEvent)
  /-- The reader of a stream gave it up. -/
  | closed (stream : Nat)

abbrev Chronicle (n : Nat) (σ κ ω : Type) : Type := List (Happening n σ κ ω)

namespace Chronicle

variable {n : Nat} {σ κ ω : Type}

/-- The events that the cache of a backend answered, in order. -/
def returnedBy (i : Fin n) (chronicle : Chronicle n σ κ ω) : List DeviceEvent :=
  chronicle.flatMap fun
    | .returned j events => if j = i then events else []
    | _ => []

/-- The events of a backend that were told, in order. -/
def toldOf (i : Fin n) (chronicle : Chronicle n σ κ ω) : List DeviceEvent :=
  chronicle.flatMap fun
    | .told j event _ _ => if j = i then [event] else []
    | _ => []

/-- The events of all backends that were told, in order. -/
def told (chronicle : Chronicle n σ κ ω) : List DeviceEvent :=
  chronicle.flatMap fun
    | .told _ event _ _ => [event]
    | _ => []

/-- The events that were taken from a stream, in order. -/
def receivedFrom (stream : Nat) (chronicle : Chronicle n σ κ ω) :
    List DeviceEvent :=
  chronicle.flatMap fun
    | .received other events => if other = stream then events else []
    | _ => []

end Chronicle

namespace Hub

variable {n : Nat} {σ κ ω α β : Type}

/-- No event was queued, taken or sent, and no stream was opened, read or
closed. -/
structure SameFlow (before after : ServiceHub n σ κ ω) : Prop where
  queues : ∀ i, after.queueAt i = before.queueAt i
  nextStream : after.registry.audience.nextStream =
    before.registry.audience.nextStream
  streams : after.registry.audience.streams = before.registry.audience.streams
  inboxes : after.registry.audience.inboxes = before.registry.audience.inboxes

/-- The step touches no event, whether it answers or crashes. -/
def Undisturbing (step : Run (ServiceHub n σ κ ω) α) : Prop :=
  ∀ hub, step.Yields hub (fun _ => SameFlow hub) (SameFlow hub)

theorem Undisturbing.discard {step : Run (ServiceHub n σ κ ω) α}
    (undisturbing : Undisturbing step) : Undisturbing (do let _ ← step) := by
  intro hub
  rw [Run.yields_bind]
  exact undisturbing hub

end Hub

/-- What is done outside of deliveries, and by callbacks within them. -/
inductive Errand (n : Nat) (σ κ ω : Type) where
  | handle (i : Fin n) (signal : Signal)
  | openStream
  | closeStream (stream : Nat)
  | receive (stream : Nat)
  | receiveAll (stream : Nat)
  | aside (step : Run (ServiceHub n σ κ ω) Unit)
    (undisturbing : Hub.Undisturbing step)

/-- What a callback does: one errand after the other, each chosen when the one
before is done. -/
inductive Agenda (n : Nat) (σ κ ω : Type) where
  | done
  | first (errand : Errand n σ κ ω) (next : ServiceHub n σ κ ω → Agenda n σ κ ω)

/-- A hub and what was recorded so far. -/
abbrev Recorded (n : Nat) (σ κ ω : Type) : Type :=
  ServiceHub n σ κ ω × Chronicle n σ κ ω

variable {n : Nat} {σ κ ω α β : Type}

namespace Recorded

/-- A step of the hub of which nothing is recorded. -/
def quietly (step : Run (ServiceHub n σ κ ω) α) : Run (Recorded n σ κ ω) α :=
  step.zoom Prod.fst fun hub recorded => (hub, recorded.2)

def note (happenings : ServiceHub n σ κ ω → Chronicle n σ κ ω) :
    Run (Recorded n σ κ ω) Unit :=
  modify fun recorded => (recorded.1, recorded.2 ++ happenings recorded.1)

end Recorded

namespace Errand

variable [Service σ]

def run : Errand n σ κ ω → Run (ServiceHub n σ κ ω) Unit
  | handle i signal => do let _ ← Hub.atBackend i (ServiceBackend.absorb signal)
  | openStream => do let _ ← Hub.modifyAudience Audience.openStream
  | closeStream stream => modify (Hub.onAudience (Audience.closeStream stream))
  | receive stream => do let _ ← Hub.modifyAudience (Audience.receive stream)
  | receiveAll stream =>
      do let _ ← Hub.modifyAudience (Audience.receiveAll stream)
  | aside step _ => step

/-- What is recorded of an errand that is done in this state. A cache that
crashes answers no events. -/
def happenings (hub : ServiceHub n σ κ ω) : Errand n σ κ ω → Chronicle n σ κ ω
  | handle i signal =>
      match ((Cache.absorb (hub.backendAt i).settings signal).start
          (hub.backendAt i).cache).1 with
      | .ok events => [.returned i events]
      | .error _ => []
  | openStream => []
  | closeStream stream => [.closed stream]
  | receive stream =>
      [.received stream (hub.registry.audience.receive stream).1.toList]
  | receiveAll stream =>
      [.received stream (hub.registry.audience.receiveAll stream).1]
  | aside _ _ => []

def recorded (errand : Errand n σ κ ω) : Run (Recorded n σ κ ω) Unit := do
  Recorded.note fun hub => errand.happenings hub
  Recorded.quietly errand.run

end Errand

namespace Agenda

variable [Service σ]

def run : Agenda n σ κ ω → Run (ServiceHub n σ κ ω) Unit
  | done => return ()
  | first errand next => do
      errand.run
      (next (← get)).run

def recorded : Agenda n σ κ ω → Run (Recorded n σ κ ω) Unit
  | done => return ()
  | first errand next => do
      errand.recorded
      (next (← get).1).recorded

end Agenda

namespace Hub

variable [Service σ]

/-- The callbacks of a delivery, which do what they find to be done. -/
def callbacksOf (react : κ → DeviceEvent → ServiceHub n σ κ ω → Agenda n σ κ ω)
    (callback : κ) (event : DeviceEvent) : Run (ServiceHub n σ κ ω) Unit := do
  (react callback event (← get)).run

/-- Deliver an event of a backend and record it, after the handles were brought
up to date and before the first callback starts. -/
def recordedDeliver
    (react : κ → DeviceEvent → ServiceHub n σ κ ω → Agenda n σ κ ω) (i : Fin n)
    (event : DeviceEvent) : Run (Recorded n σ κ ω) Unit := do
  let found := (← get).1
  Recorded.quietly (updateHandles event)
  Recorded.note fun started => [.told i event found started]
  let subscriptions := (← get).1.registry.audience.subscriptions event.kind
  subscriptions.forM fun subscription => do
    (react subscription.callback event (← get).1).recorded
  Recorded.quietly (modify (onAudience (Audience.send event)))

/-- Take and deliver the events of every attached backend, and record it. -/
def recordedPump
    (react : κ → DeviceEvent → ServiceHub n σ κ ω → Agenda n σ κ ω) :
    Run (Recorded n σ κ ω) Nat := do
  (← get).1.registry.roster.foldlM
    (fun count i => do
      let events ← Recorded.quietly (atBackend i Backend.drain)
      events.forM (recordedDeliver react i)
      return count + events.length)
    0

end Hub

section Erasure

/-- Without the record, both steps are the same. -/
def Erases (recorded : Run (Recorded n σ κ ω) α)
    (plain : Run (ServiceHub n σ κ ω) α) :
    Prop :=
  ∀ state, plain.start state.1 =
    ((recorded.start state).1, (recorded.start state).2.1)

namespace Erases

theorem pure (answer : α) :
    Erases (Pure.pure answer : Run (Recorded n σ κ ω) α) (Pure.pure answer) :=
  fun _ => rfl

theorem quietly (step : Run (ServiceHub n σ κ ω) α) :
    Erases (Recorded.quietly step) step :=
  fun _ => rfl

theorem note (happenings : ServiceHub n σ κ ω → Chronicle n σ κ ω) :
    Erases (Recorded.note happenings) (Pure.pure ()) :=
  fun _ => rfl

theorem bind {first : Run (Recorded n σ κ ω) α}
    {plainFirst : Run (ServiceHub n σ κ ω) α}
    {next : α → Run (Recorded n σ κ ω) β}
    {plainNext : α → Run (ServiceHub n σ κ ω) β}
    (erases : Erases first plainFirst)
    (later : ∀ answer, Erases (next answer) (plainNext answer)) :
    Erases (first >>= next) (plainFirst >>= plainNext) := by
  intro state
  rw [Run.start_bind, Run.start_bind, erases state]
  rcases first.start state with ⟨answer | answer, left⟩
  · rfl
  · exact later answer left

theorem bindGet {next : Recorded n σ κ ω → Run (Recorded n σ κ ω) β}
    {plainNext : ServiceHub n σ κ ω → Run (ServiceHub n σ κ ω) β}
    (later : ∀ state, Erases (next state) (plainNext state.1)) :
    Erases (get >>= next) (get >>= plainNext) :=
  fun state => later state state

theorem noted {happenings : ServiceHub n σ κ ω → Chronicle n σ κ ω}
    {next : Run (Recorded n σ κ ω) β} {plain : Run (ServiceHub n σ κ ω) β}
    (erases : Erases next plain) :
    Erases (Recorded.note happenings >>= fun _ => next) plain :=
  (Erases.note happenings).bind fun _ => erases

/-- What is recorded may be asked for without a counterpart. -/
theorem asked {next : Recorded n σ κ ω → Run (Recorded n σ κ ω) β}
    {plain : Run (ServiceHub n σ κ ω) β}
    (erases : ∀ state, Erases (next state) plain) :
    Erases (get >>= next) plain :=
  fun state => erases state state

theorem forM {items : List α} {step : α → Run (Recorded n σ κ ω) PUnit}
    {plain : α → Run (ServiceHub n σ κ ω) PUnit}
    (each : ∀ item, Erases (step item) (plain item)) :
    Erases (items.forM step) (items.forM plain) := by
  induction items with
  | nil => exact .pure _
  | cons item items induction => exact (each item).bind fun _ => induction

theorem foldlM {items : List α} {step : β → α → Run (Recorded n σ κ ω) β}
    {plain : β → α → Run (ServiceHub n σ κ ω) β} (start : β)
    (each : ∀ answer item, Erases (step answer item) (plain answer item)) :
    Erases (items.foldlM step start) (items.foldlM plain start) := by
  induction items generalizing start with
  | nil => exact .pure _
  | cons item items induction =>
      rw [List.foldlM_cons, List.foldlM_cons]
      exact (each start item).bind induction

variable [Service σ]

theorem errand (errand : Errand n σ κ ω) : Erases errand.recorded errand.run :=
  (Erases.quietly errand.run).noted

theorem agenda (agenda : Agenda n σ κ ω) :
    Erases agenda.recorded agenda.run := by
  induction agenda with
  | done => exact .pure ()
  | first errand next induction =>
      exact (Erases.errand errand).bind fun _ => Erases.bindGet
        fun state => induction state.1

theorem deliver (react : κ → DeviceEvent → ServiceHub n σ κ ω → Agenda n σ κ ω)
    (i : Fin n) (event : DeviceEvent) :
    Erases (Hub.recordedDeliver react i event)
      (Hub.deliver (Hub.callbacksOf react) event) := by
  refine Erases.asked fun found => ?_
  refine (Erases.quietly _).bind fun _ => Erases.noted ?_
  refine Erases.bindGet fun started => ?_
  refine (Erases.forM fun subscription => ?_).bind fun _ => Erases.quietly _
  exact Erases.bindGet fun state => Erases.agenda _

theorem pump (react : κ → DeviceEvent → ServiceHub n σ κ ω → Agenda n σ κ ω) :
    Erases (Hub.recordedPump react) (Hub.pump (Hub.callbacksOf react)) := by
  refine Erases.bindGet fun state => Erases.foldlM 0 fun count i => ?_
  refine (Erases.quietly _).bind fun events => ?_
  exact (Erases.forM fun event => Erases.deliver react i event).bind
    fun _ => .pure _

end Erases

end Erasure

end Hotplug
