import Hotplug.Hub.Delivery
import Hotplug.Hub.Lifetime
import Hotplug.Hub.Query

/-!
# What can be done to a registry

A client keeps the handles that it was given. It does one deed after the other,
and its callbacks do more of them while events are delivered. Others may change
the backends, the audience and the objects that are held at any time between two
deeds.
-/

namespace Hotplug

/-- The slots and the handles that are out between two deeds. -/
structure Moment (n : Nat) (ο : Type) where
  slots : HandleTable (ObjectRef n ο)
  handles : List Handle

/-- The handles that are out, something to remember, and every moment after a
deed so far, those of callbacks among them. -/
structure Client (n : Nat) (ο μ : Type) where
  handles : List Handle := []
  memory : μ
  moments : List (Moment n ο) := []

abbrev World (n : Nat) (β ο κ μ : Type) : Type := Hub n β ο κ (Client n ο μ)

/-- Something done to a registry. Only handles that are out can be cloned or
dropped. -/
inductive Deed (n : Nat) (β ο κ μ : Type) where
  | find (udi : String)
  | clone (handle : Handle)
  | drop (handle : Handle)
  | everyDevice
  | select (predicate : Predicate) (parent : Option String)
  | query (text : String) (parent : Option String)
  | devicesWith (capability : Capability) (parent : Option String)
  | storageFromPath (path : String)
  | parent (handle : Handle)
  | reload
  | pump
  | shutDown
  /-- A step of a backend on its own account, or on that of another user. -/
  | atBackend (i : Fin n) (step : Run β Unit)
  | hold (ref : ObjectRef n ο)
  | letGo (ref : ObjectRef n ο)
  /-- Subscriptions and streams are changed. -/
  | attend (change : Audience κ → Audience κ)
  | remember (change : μ → μ)
  | crash (message : String)

/-- What a callback does, where each deed may depend on the world after the one
before. -/
inductive Conduct (n : Nat) (β ο κ μ : Type) where
  | rest
  | act (deed : Deed n β ο κ μ) (next : World n β ο κ μ → Conduct n β ο κ μ)

variable {n : Nat} {β ο κ μ : Type}

namespace World

def onClient (change : Client n ο μ → Client n ο μ) (world : World n β ο κ μ) :
    World n β ο κ μ :=
  { world with client := change world.client }

def take (handles : List Handle) (world : World n β ο κ μ) : World n β ο κ μ :=
  world.onClient fun client =>
    { client with handles := handles ++ client.handles }

def note (world : World n β ο κ μ) : World n β ο κ μ :=
  world.onClient fun client =>
    { client with moments := ⟨world.registry.slots,
      client.handles⟩ :: client.moments }

def fresh (backends : Vector β n) (roster : List (Fin n)) (memory : μ) :
    World n β ο κ μ where
  backends := backends
  registry := { roster := roster }
  client := { memory := memory }

end World

variable [Backend β ο]

namespace Deed

def run (pathExists : String → Bool)
    (callbacks : κ → DeviceEvent → Run (World n β ο κ μ) Unit) :
    Deed n β ο κ μ → Run (World n β ο κ μ) Unit
  | .find udi => do modify (World.take [← Hub.find udi])
  | .clone handle =>
      modify fun world =>
        if handle ∈ world.client.handles then World.take [handle]
          (Hub.clone handle world)
        else world
  | .drop handle =>
      modify fun world =>
        if handle ∈ world.client.handles then
          World.onClient (fun client =>
            { client with handles := client.handles.erase handle })
            (Hub.release handle world)
        else world
  | .everyDevice => do modify (World.take (← Hub.everyDevice))
  | .select predicate under =>
      do modify (World.take (← Hub.select predicate under))
  | .query text under => do modify (World.take (← Hub.query text under))
  | .devicesWith capability under => do
      modify (World.take (← Hub.devicesWith capability under))
  | .storageFromPath path => do
      modify (World.take [← Hub.storageFromPath pathExists path])
  | .parent handle => do modify (World.take [← Hub.parent handle])
  | .reload => do let _ ← Hub.reload
  | .pump => do let _ ← Hub.pump callbacks
  | .shutDown => modify Hub.shutDown
  | .atBackend i step => Hub.atBackend i step
  | .hold ref => modify (Hub.hold ref)
  | .letGo ref => modify (Hub.letGo ref)
  | .attend change => modify (Hub.onAudience change)
  | .remember change =>
      modify (World.onClient fun client =>
        { client with memory := change client.memory })
  | .crash message => Run.crash message

/-- The deed, after which the moment is noted even if it crashed. -/
def perform (pathExists : String → Bool)
    (callbacks : κ → DeviceEvent → Run (World n β ο κ μ) Unit)
    (deed : Deed n β ο κ μ) :
    Run (World n β ο κ μ) Unit :=
  (deed.run pathExists callbacks).ensuring World.note

end Deed

def Conduct.follow (perform : Deed n β ο κ μ → Run (World n β ο κ μ) Unit) :
    Conduct n β ο κ μ → Run (World n β ο κ μ) Unit
  | rest => return ()
  | act deed next => do
      perform deed
      (next (← get)).follow perform

/-- What callbacks do if they deliver events themselves at most so many levels
deep. -/
def callbacksTo (pathExists : String → Bool)
    (react : κ → DeviceEvent → World n β ο κ μ → Conduct n β ο κ μ) :
    Nat → κ → DeviceEvent → Run (World n β ο κ μ) Unit
  | 0, _, _ => .crash "callbacks nest too deep"
  | depth + 1, callback, event => do
      (react callback event (← get)).follow
        (Deed.perform pathExists (callbacksTo pathExists react depth))

namespace World

/-- The world after several deeds.  A deed that crashes leaves its traces. -/
def afterAll (pathExists : String → Bool)
    (react : κ → DeviceEvent → World n β ο κ μ → Conduct n β ο κ μ)
    (depth : Nat) (deeds : List (Deed n β ο κ μ)) (world : World n β ο κ μ) :
    World n β ο κ μ :=
  deeds.foldl
    (fun left deed =>
      ((deed.perform pathExists (callbacksTo pathExists react depth)).start
        left).2) world

end World

end Hotplug
