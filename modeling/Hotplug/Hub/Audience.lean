import Hotplug.DeviceEvent

/-!
# Subscriptions and streams

Subscribers register a callback for one kind of event, or open a stream of all
events. This module keeps the lists; running callbacks is the business of the
delivery.
-/

namespace Hotplug

inductive EventKind where
  | added
  | removed
  | changed
  deriving DecidableEq, Repr

namespace DeviceEvent

def kind : DeviceEvent → EventKind
  | added _ => .added
  | removed _ => .removed
  | changed _ _ => .changed

end DeviceEvent

/-- A registered callback and the number by which it can be taken back. -/
structure Subscription (κ : Type) where
  id : Nat
  callback : κ
  deriving DecidableEq, Repr

/-- The subscriptions of each kind in order of registration, and the open
streams. -/
structure Audience (κ : Type) where
  nextId : Nat := 0
  added : List (Subscription κ) := []
  removed : List (Subscription κ) := []
  changed : List (Subscription κ) := []
  nextStream : Nat := 0
  /-- The streams that events are sent to, in order of opening. -/
  streams : List Nat := []
  /-- What was sent to each stream that still has a reader, and not yet
  taken. -/
  inboxes : Std.ExtTreeMap Nat (List DeviceEvent) compare := ∅

namespace Audience

variable {κ : Type}

def idText (id : Nat) : String := "sub-" ++ toString id

def subscriptions (audience : Audience κ) : EventKind → List (Subscription κ)
  | .added => audience.added
  | .removed => audience.removed
  | .changed => audience.changed

/-- Register a callback, and answer its number. -/
def subscribe (kind : EventKind) (callback : κ) (audience : Audience κ) :
    Nat × Audience κ :=
  let entry : Subscription κ := ⟨audience.nextId, callback⟩
  let counted := { audience with nextId := audience.nextId + 1 }
  (audience.nextId,
    match kind with
    | .added => { counted with added := counted.added ++ [entry] }
    | .removed => { counted with removed := counted.removed ++ [entry] }
    | .changed => { counted with changed := counted.changed ++ [entry] })

def callbackCount (audience : Audience κ) : Nat :=
  audience.added.length + audience.removed.length + audience.changed.length

/-- Take a callback back, and answer whether it was there. -/
def unsubscribe (id : Nat) (audience : Audience κ) : Bool × Audience κ :=
  let others (entries : List (Subscription κ)) : List (Subscription κ) :=
    entries.filter fun entry => entry.id != id
  let rest := { audience with
    added := others audience.added
    removed := others audience.removed
    changed := others audience.changed }
  (rest.callbackCount != audience.callbackCount, rest)

/-- Open a stream of the events from now on. -/
def openStream (audience : Audience κ) : Nat × Audience κ :=
  (audience.nextStream, { audience with
    nextStream := audience.nextStream + 1
    streams := audience.streams ++ [audience.nextStream]
    inboxes := audience.inboxes.insert audience.nextStream [] })

/-- Give up reading a stream. -/
def closeStream (stream : Nat) (audience : Audience κ) : Audience κ :=
  { audience with inboxes := audience.inboxes.erase stream }

/-- Take the oldest event of a stream that is not yet taken. -/
def receive (stream : Nat) (audience : Audience κ) :
    Option DeviceEvent × Audience κ :=
  match audience.inboxes[stream]? with
  | some (event :: rest) =>
      (some event, { audience with
        inboxes := audience.inboxes.insert stream rest })
  | _ => (none, audience)

def receiveAll (stream : Nat) (audience : Audience κ) :
    List DeviceEvent × Audience κ :=
  (audience.inboxes[stream]?.getD [],
    { audience with inboxes := audience.inboxes.modify stream fun _ => [] })

/-- Send an event to the open streams. Those without a reader are dropped from
now on. -/
def send (event : DeviceEvent) (audience : Audience κ) : Audience κ :=
  let live := audience.streams.filter
    fun stream => audience.inboxes.contains stream
  { audience with
    streams := live
    inboxes := live.foldl
      (fun inboxes stream => inboxes.modify stream
        fun events => events ++ [event])
      audience.inboxes }

/-- Drop every subscription and end every stream; what was sent can still be
taken. -/
def clear (audience : Audience κ) : Audience κ :=
  { audience with added := [], removed := [], changed := [], streams := [] }

def describe (audience : Audience κ) : String :=
  "ChangeNotifier \x7b added: " ++ toString audience.added.length
    ++ ", removed: " ++ toString audience.removed.length
    ++ ", changed: " ++ toString audience.changed.length
    ++ ", streams: " ++ toString audience.streams.length ++ " \x7d"

end Audience

end Hotplug
