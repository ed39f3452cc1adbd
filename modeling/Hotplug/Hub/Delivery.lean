import Hotplug.Hub

/-!
# Delivery of events

Events are taken from the backends one after the other. For each of them the
handles are brought up to date first; then the callbacks that are registered at
this moment run, and at last the event is sent to the streams. What a callback
does is not fixed here: it may change anything, the subscriptions too.
-/

namespace Hotplug

namespace Hub

variable {n : Nat} {β ο κ ω : Type}

/-- Run the callbacks that are registered for an event now, then send it to the
streams that are open then. -/
def broadcast (run : κ → DeviceEvent → Run (Hub n β ο κ ω) Unit)
    (event : DeviceEvent) : Run (Hub n β ο κ ω) Unit := do
  let subscriptions := (← get).registry.audience.subscriptions event.kind
  subscriptions.forM fun subscription => run subscription.callback event
  modify (onAudience (Audience.send event))

variable [Backend β ο]

/-- Bring the handles of an event's device up to date. -/
def updateHandles : DeviceEvent → Run (Hub n β ο κ ω) Unit
  | .added udi => do
      let hub ← get
      if hub.registry.slots.isOrphaned hub.isAlive udi then
        let object ← makeObject udi
        modify (onSlots (HandleTable.rebind udi object))
  | .removed udi => modify (onSlots (HandleTable.detach udi))
  | .changed _ _ => return ()

/-- Bring the handles up to date, and tell the subscribers. -/
def deliver (run : κ → DeviceEvent → Run (Hub n β ο κ ω) Unit)
    (event : DeviceEvent) : Run (Hub n β ο κ ω) Unit := do
  updateHandles event
  broadcast run event

/-- Take and deliver the events of every attached backend, and count them. -/
def pump (run : κ → DeviceEvent → Run (Hub n β ο κ ω) Unit) :
    Run (Hub n β ο κ ω) Nat := do
  (← get).registry.roster.foldlM
    (fun count i => do
      let events ← atBackend i Backend.drain
      events.forM (deliver run)
      return count + events.length)
    0

end Hub

end Hotplug
