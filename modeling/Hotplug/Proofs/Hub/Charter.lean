import Hotplug.Proofs.Hub.Account
import Hotplug.Proofs.Hub.Deeds

/-!
# What every deed keeps

A property that the steps of a hub keep is kept by whole deeds, events that are
delivered meanwhile among them, as long as the callbacks keep it too. Most deeds
neither load nor deliver anything; they ask less of the property.
-/

namespace Hotplug

/-- The deed neither loads nor delivers, and leaves alone what is held and
remembered and what backends do on their own account. -/
def Deed.IsPlain {n : Nat} {β ο κ μ : Type} : Deed n β ο κ μ → Prop
  | .everyDevice | .reload | .pump | .atBackend _ _ | .hold _ | .letGo _
  | .remember _ => False
  | .select predicate _ => predicate.isEmpty = false
  | .query text _ => (Predicate.parseOrInvalid text).isEmpty = false
  | _ => True

namespace World

variable {n : Nat} {β ο κ μ α : Type} [Backend β ο] {world : World n β ο κ μ}
  {callbacks : κ → DeviceEvent → Run (World n β ο κ μ) Unit}

/-- Each step of a plain deed keeps the property, which the audience and the
handles that are out do not matter to. -/
structure Bylaw (property : World n β ο κ μ → Prop) : Prop where
  account : Hub.Account fun _ => property
  cloning : ∀ {world : World n β ο κ μ} handle, property world →
    property (Hub.clone handle world)
  shuttingDown : ∀ {world : World n β ο κ μ}, property world →
    property (Hub.shutDown world)
  unnoticed : ∀ {world left : World n β ο κ μ}, property world →
    left.backends = world.backends → left.registry.roster =
      world.registry.roster →
    left.registry.slots = world.registry.slots → left.held = world.held →
    left.client.memory = world.client.memory → property left

namespace Bylaw

variable {property : World n β ο κ μ → Prop}

theorem yields_take (bylaw : Bylaw property) {step : Run (World n β ο κ μ) α}
    {found : α → List Handle}
    (yields : step.Yields world (fun _ => property) property) :
    (step >>= fun answer => modify (World.take (found answer))).Yields world
      (fun _ => property) property := by
  rw [Run.yields_bind]
  exact yields.mono (fun _ _ holds => bylaw.unnoticed holds rfl rfl rfl rfl rfl)
    fun _ => id

theorem keeps_run (bylaw : Bylaw property) (pathExists : String → Bool)
    {deed : Deed n β ο κ μ} (plain : deed.IsPlain) :
    (deed.run pathExists callbacks).Keeps property := by
  intro world holds
  have account := bylaw.account
  cases deed with
  | find udi =>
      exact bylaw.yields_take (@Hub.Account.finding _ _ _ _ _ _ _ account
        [] _ udi holds)
  | clone handle =>
      rw [Deed.run, Run.yields_modify]
      split
      · exact bylaw.unnoticed (bylaw.cloning handle holds) rfl rfl rfl rfl rfl
      · exact holds
  | drop handle =>
      rw [Deed.run, Run.yields_modify]
      have released := @Hub.Account.releasing _ _ _ _ _ _ _ account
        [] _ handle holds
      split
      · exact bylaw.unnoticed released rfl rfl rfl rfl rfl
      · exact holds
  | select predicate under =>
      exact bylaw.yields_take
        (@Hub.Account.yields_select_of_filled _ _ _ _ _ _ _ [] _ account
          _ plain under holds)
  | query text under =>
      exact bylaw.yields_take
        (@Hub.Account.yields_select_of_filled _ _ _ _ _ _ _ [] _ account
          _ plain under holds)
  | devicesWith capability under =>
      exact bylaw.yields_take
        (@Hub.Account.yields_devicesWith _ _ _ _ _ _ _ [] _ account
          capability under holds)
  | storageFromPath path =>
      exact bylaw.yields_take
        (@Hub.Account.yields_storageFromPath _ _ _ _ _ _ _ [] _ account
          pathExists path holds)
  | parent handle =>
      exact bylaw.yields_take
        (@Hub.Account.yields_parent _ _ _ _ _ _ _ [] _ account handle holds)
  | shutDown => exact bylaw.shuttingDown holds
  | attend change => exact bylaw.unnoticed holds rfl rfl rfl rfl rfl
  | crash message => exact holds
  | everyDevice | reload | pump | atBackend i step | hold ref | letGo ref
  | remember change =>
      exact plain.elim

theorem keeps_broadcast (bylaw : Bylaw property)
    (keeps : ∀ callback event, (callbacks callback event).Keeps property)
    (event : DeviceEvent) :
    (Hub.broadcast callbacks event).Keeps property := by
  intro world holds
  rw [Hub.broadcast, Run.yields_bind, Run.yields_get, Run.yields_bind]
  refine (Run.yields_forM property holds ?_).mono ?_ fun _ => id
  · intro subscription _ before
    exact keeps subscription.callback event before
  · intro _ left holdsLeft
    exact bylaw.unnoticed holdsLeft rfl rfl rfl rfl rfl

theorem keeps_perform (bylaw : Bylaw property) (pathExists : String → Bool)
    {deed : Deed n β ο κ μ} (plain : deed.IsPlain) :
    (deed.perform pathExists callbacks).Keeps property := by
  intro world holds
  rw [Deed.perform, Run.yields_ensuring]
  exact (bylaw.keeps_run pathExists plain world holds).mono
    (fun _ _ holds => bylaw.unnoticed holds rfl rfl rfl rfl rfl)
    fun _ holds => bylaw.unnoticed holds rfl rfl rfl rfl rfl

end Bylaw

/-- Each step of a deed keeps the property, and only backends, slots, the roster
and what is remembered matter to it. -/
structure Charter (property : World n β ο κ μ → Prop) : Prop where
  account : Hub.Account fun _ => property
  reloading : ∀ i, (Hub.atBackend i Backend.reload).Keeps property
  draining : ∀ i, (Hub.atBackend i Backend.drain).Keeps property
  updating : ∀ event, (Hub.updateHandles event).Keeps property
  cloning : ∀ {world : World n β ο κ μ} handle, property world →
    property (Hub.clone handle world)
  shuttingDown : ∀ {world : World n β ο κ μ}, property world →
    property (Hub.shutDown world)
  unnoticed : ∀ {world left : World n β ο κ μ}, property world →
    left.backends = world.backends → left.registry.roster =
      world.registry.roster →
    left.registry.slots = world.registry.slots → left.client.memory =
      world.client.memory →
    property left

namespace Charter

variable {property : World n β ο κ μ → Prop}

theorem bylaw (charter : Charter property) : Bylaw property where
  account := charter.account
  cloning := charter.cloning
  shuttingDown := charter.shuttingDown
  unnoticed holds backends roster slots _ memory :=
    charter.unnoticed holds backends roster slots memory

theorem keeps_deliver (charter : Charter property)
    (keeps : ∀ callback event, (callbacks callback event).Keeps property)
    (event : DeviceEvent) :
    (Hub.deliver callbacks event).Keeps property := by
  intro world holds
  rw [Hub.deliver, Run.yields_bind]
  refine (charter.updating event world holds).mono ?_ fun _ => id
  exact fun _ left => charter.bylaw.keeps_broadcast keeps event left

theorem keeps_pump (charter : Charter property)
    (keeps : ∀ callback event, (callbacks callback event).Keeps property) :
    (Hub.pump callbacks).Keeps property := by
  intro world holds
  rw [Hub.pump, Run.yields_bind, Run.yields_get]
  refine Run.yields_foldlM (fun _ => property) holds ?_
  intro i _ count left holdsLeft
  rw [Run.yields_bind]
  refine (charter.draining i left holdsLeft).mono ?_ fun _ => id
  intro events drained holdsDrained
  rw [Run.yields_bind]
  exact Run.yields_forM property holdsDrained
    fun event _ => charter.keeps_deliver keeps event

/-- What a backend does on its own account, and what is remembered, is up to the
deed. -/
theorem keeps_run (charter : Charter property) (pathExists : String → Bool)
    (keeps : ∀ callback event, (callbacks callback event).Keeps property)
    {deed : Deed n β ο κ μ}
    (own : ∀ i step, deed = .atBackend i step →
      (Hub.atBackend i step).Keeps property)
    (remembering : ∀ change, deed = .remember change →
      ((Deed.remember change).run pathExists callbacks).Keeps property) :
    (deed.run pathExists callbacks).Keeps property := by
  intro world holds
  have account := charter.account
  have bylaw := charter.bylaw
  have reloading := fun _ : List Handle => charter.reloading
  cases deed with
  | everyDevice =>
      exact bylaw.yields_take
        (@Hub.Account.yields_everyDevice _ _ _ _ _ _ _
          [] _ account reloading holds)
  | select predicate under =>
      exact bylaw.yields_take
        (@Hub.Account.yields_select _ _ _ _ _ _ _ [] _ account reloading
          predicate under holds)
  | query text under =>
      exact bylaw.yields_take
        (@Hub.Account.yields_select _ _ _ _ _ _ _ [] _ account
          reloading _ under holds)
  | reload =>
      rw [Deed.run, Run.yields_bind]
      exact @Hub.Account.yields_reload _ _ _ _ _ _ (fun _ => property)
        [] _ (reloading []) holds
  | pump =>
      rw [Deed.run, Run.yields_bind]
      exact charter.keeps_pump keeps world holds
  | atBackend i step => exact own i step rfl world holds
  | hold ref => exact charter.unnoticed holds rfl rfl rfl rfl
  | letGo ref => exact charter.unnoticed holds rfl rfl rfl rfl
  | remember change => exact remembering change rfl world holds
  | _ =>
      refine bylaw.keeps_run pathExists ?_ world holds
      exact trivial

theorem keeps_perform (charter : Charter property) (pathExists : String → Bool)
    (keeps : ∀ callback event, (callbacks callback event).Keeps property)
    {deed : Deed n β ο κ μ}
    (own : ∀ i step, deed = .atBackend i step →
      (Hub.atBackend i step).Keeps property)
    (remembering : ∀ change, deed = .remember change →
      ((Deed.remember change).run pathExists callbacks).Keeps property) :
    (deed.perform pathExists callbacks).Keeps property := by
  intro world holds
  rw [Deed.perform, Run.yields_ensuring]
  exact (charter.keeps_run pathExists keeps own remembering world holds).mono
    (fun _ _ holds => charter.unnoticed holds rfl rfl rfl rfl)
    fun _ holds => charter.unnoticed holds rfl rfl rfl rfl

end Charter

end World

end Hotplug
