import Hotplug.Proofs.Hub.Calm
import Hotplug.Proofs.Hub.Charter

/-!
# Slots refer to objects of their own identifiers

Whatever is done to a new registry, and whatever its backends do in between, a
slot refers to an object that the backend of its identifier made for this
identifier. The object may have been let go of, but then its number is not used
again.
-/

namespace Hotplug

namespace ServiceBackend

variable {σ α : Type} {backend before after : ServiceBackend σ} {udi : String}
  {serial : Nat}

/-- The number is used up, and no other identifier has an object of this
number. -/
structure Reserves (backend : ServiceBackend σ) (udi : String) (serial : Nat) :
    Prop where
  below : serial < backend.nextSerial
  only : ∀ (other : String) kept, backend.objects[other]? = some kept →
    kept.serial = serial → other = udi

theorem WellKept.reserves (wellKept : backend.WellKept)
    {kept : Kept ServiceObject} (held : backend.objects[udi]? = some kept) :
    backend.Reserves udi kept.serial where
  below := wellKept.below udi kept held
  only other same heldToo serial :=
    wellKept.single other udi same kept heldToo held serial

theorem Reserves.ofSucceeds (reserves : before.Reserves udi serial)
    (succeeds : Succeeds before after) : after.Reserves udi serial where
  below := Nat.lt_of_lt_of_le reserves.below succeeds.nextSerial
  only other kept held same := by
    rcases succeeds.fresh other kept held with earlier | later
    · exact reserves.only other kept earlier same
    · rw [same] at later
      exact absurd reserves.below (Nat.not_lt.mpr later)

/-- The step uses no number again, whether it answers or crashes. -/
def Orderly (step : Run (ServiceBackend σ) α) : Prop :=
  ∀ backend, step.Yields backend (fun _ => Succeeds backend) (Succeeds backend)

theorem Gentle.orderly {step : Run (ServiceBackend σ) α}
    (gentle : Gentle step) : Orderly step :=
  fun backend =>
  (gentle backend).mono (fun _ _ mild => mild.toSucceeds)
    fun _ mild => mild.toSucceeds

theorem orderly_serve (step : Run σ α) :
    Orderly (onCache fun _ => Cache.call step) :=
  (Gentle.onCache fun _ => (Cache.sameTracked_call step).gentle).orderly

variable [Service σ]

/-- Whether the object of a used number is kept does not change as long as the
objects of its identifier are. -/
theorem Reserves.keeps_iff (reserves : before.Reserves udi serial)
    (succeeds : Succeeds before after)
    (retained : ∀ kept, before.objects[udi]? = some kept →
      after.objects[udi]? = some kept) :
    Backend.keeps after serial = true ↔ Backend.keeps before serial = true := by
  refine Named.any_values_iff.trans (Iff.trans ?_ Named.any_values_iff.symm)
  constructor
  · intro given
    obtain ⟨other, kept, held, same⟩ := given
    rcases succeeds.fresh other kept held with earlier | later
    · exact ⟨other, kept, earlier, same⟩
    · rw [eq_of_beq same] at later
      exact absurd reserves.below (Nat.not_lt.mpr later)
  · intro given
    obtain ⟨other, kept, held, same⟩ := given
    obtain rfl := reserves.only other kept held (eq_of_beq same)
    exact ⟨other, kept, retained kept held, same⟩

theorem orderly_absorb (signal : Signal) :
    Orderly (absorb signal : Run (ServiceBackend σ) Nat) := by
  intro backend
  refine (yields_absorb signal backend).mono ?_ ?_
  · intro _ left outcome
    obtain ⟨_, absorbed⟩ := outcome
    exact absorbed.toSucceeds
  · intro left outcome
    exact outcome.1.toSucceeds

theorem orderly_reload :
    Orderly (Backend.reload : Run (ServiceBackend σ) (List String)) := by
  intro backend
  refine (yields_reload backend).mono ?_ ?_
  · intro _ left outcome
    exact outcome.1.toSucceeds
  · intro left outcome
    exact outcome.1.toSucceeds

theorem orderly_drain :
    Orderly (Backend.drain : Run (ServiceBackend σ) (List DeviceEvent)) :=
  fun _ => Succeeds.ofFewer rfl rfl fun _ _ held => ⟨held, .inr⟩

omit [Service σ] in
theorem Orderly.discard {step : Run (ServiceBackend σ) α}
    (orderly : Orderly step) :
    Orderly (do let _ ← step) := by
  intro backend
  rw [Run.yields_bind]
  exact orderly backend

end ServiceBackend

/-- What a backend does on its own account uses no number again. -/
def Deed.Orderly {n : Nat} {σ κ μ : Type} :
    Deed n (ServiceBackend σ) ServiceObject κ μ → Prop
  | .atBackend _ step => ServiceBackend.Orderly step
  | _ => True

/-- So do all deeds of a callback. -/
def Conduct.Orderly {n : Nat} {σ κ μ : Type} :
    Conduct n (ServiceBackend σ) ServiceObject κ μ → Prop
  | .rest => True
  | .act deed next => deed.Orderly ∧ ∀ world, (next world).Orderly

namespace Hub

variable {n : Nat} {σ κ ω α : Type}
  {hub left : Hub n (ServiceBackend σ) ServiceObject κ ω} {i : Fin n}
  {udi : String} {backend : ServiceBackend σ} {out : List Handle} [Service σ]

/-- Slots with an object refer to the backend that their identifier is routed
to, which has made the object for the identifier and reserves its number. -/
structure Anchored (hub : Hub n (ServiceBackend σ) ServiceObject κ ω) :
    Prop where
  wellKept : ∀ i, (hub.backendAt i).WellKept
  routed : ∀ (udi : String) slot ref, hub.registry.slots[udi]? = some slot →
    slot.object = some ref → hub.route? udi = some ref.backend
  formed : ∀ (udi : String) slot ref, hub.registry.slots[udi]? = some slot →
    slot.object = some ref → ref.kept.object =
      (hub.backendAt ref.backend).formOf udi
  reserved : ∀ (udi : String) slot ref, hub.registry.slots[udi]? = some slot →
    slot.object = some ref →
      (hub.backendAt ref.backend).Reserves udi ref.kept.serial

namespace Anchored

theorem ofBackend (anchored : hub.Anchored)
    (succeeds : ServiceBackend.Succeeds (hub.backendAt i) backend) :
    (hub.withBackend i backend).Anchored where
  wellKept j := by
    rw [backendAt_withBackend]
    split
    · next same =>
        subst same
        exact succeeds.wellKept (anchored.wellKept i)
    · exact anchored.wellKept j
  routed udi slot ref found bound := by
    rw [route?_withSettings succeeds.settings]
    exact anchored.routed udi slot ref found bound
  formed udi slot ref found bound := by
    have before := anchored.formed udi slot ref found bound
    rw [backendAt_withBackend]
    split
    · next same =>
        subst same
        rw [ServiceBackend.formOf_eq succeeds.settings]
        exact before
    · exact before
  reserved udi slot ref found bound := by
    have reserves := anchored.reserved udi slot ref found bound
    rw [backendAt_withBackend]
    split
    · next same =>
        subst same
        exact reserves.ofSucceeds succeeds
    · exact reserves

/-- Slots may go, lose their object, or change anything but their object; and
one may get the object that the backend of its identifier keeps. -/
theorem ofSlots (anchored : hub.Anchored)
    {change : HandleTable (ObjectRef n ServiceObject) →
      HandleTable (ObjectRef n ServiceObject)}
    (bound : ∀ (udi : String) slot ref, (change hub.registry.slots)[udi]? =
      some slot → slot.object = some ref →
      (∃ before, hub.registry.slots[udi]? = some before ∧ before.object =
        some ref) ∨ hub.route? udi = some ref.backend ∧
      (hub.backendAt ref.backend).objects[udi]? = some ref.kept) :
    (hub.onSlots change).Anchored where
  wellKept := anchored.wellKept
  routed udi slot ref found isBound := by
    rcases bound udi slot ref found isBound with ⟨before, earlier,
      same⟩ | ⟨route, _⟩
    · exact anchored.routed udi before ref earlier same
    · exact route
  formed udi slot ref found isBound := by
    rcases bound udi slot ref found isBound with ⟨before,
      earlier, same⟩ | ⟨_, held⟩
    · exact anchored.formed udi before ref earlier same
    · exact (anchored.wellKept ref.backend).formed udi ref.kept held
  reserved udi slot ref found isBound := by
    rcases bound udi slot ref found isBound with ⟨before,
      earlier, same⟩ | ⟨_, held⟩
    · exact anchored.reserved udi before ref earlier same
    · exact (anchored.wellKept ref.backend).reserves held

theorem clone (anchored : hub.Anchored) (handle : Handle) :
    (hub.clone handle).Anchored := by
  unfold Hub.clone
  split
  · apply anchored.ofSlots
    intro udi slot ref found bound
    obtain ⟨before, earlier, same⟩ := HandleTable.exists_of_acquire? found
    exact .inl ⟨before, earlier, same.trans bound⟩
  · exact anchored

theorem release (anchored : hub.Anchored) (handle : Handle) :
    (hub.release handle).Anchored := by
  unfold Hub.release
  split
  · apply anchored.ofSlots
    intro udi slot ref found bound
    obtain ⟨before, earlier, same⟩ := HandleTable.exists_of_release found
    exact .inl ⟨before, earlier, same.trans bound⟩
  · exact anchored

theorem keeps_atBackend {step : Run (ServiceBackend σ) α}
    (orderly : ServiceBackend.Orderly step) (i : Fin n) :
    (atBackend i step).Keeps
      (Anchored : Hub n (ServiceBackend σ) ServiceObject κ ω → Prop) := by
  intro hub anchored
  rw [yields_atBackend]
  exact (orderly (hub.backendAt i)).mono (fun _ _ => anchored.ofBackend)
    fun _ => anchored.ofBackend

theorem yields_makeObject (anchored : hub.Anchored) (udi : String) :
    (makeObject udi).Yields hub
      (fun object left => left.Anchored ∧ Answered udi object left ∧
        left.registry.slots = hub.registry.slots)
      Anchored :=
  yields_makeObject_of_mild udi
    (fun _ _ _ mild => anchored.ofBackend mild.toSucceeds) anchored

theorem keeps_find (udi : String) :
    (find udi).Keeps (Anchored : Hub n (ServiceBackend σ) ServiceObject κ ω →
      Prop) := by
  intro hub anchored
  by_cases empty : udi = ""
  · subst empty
    exact yields_find_null.mpr anchored
  · cases present : hub.registry.slots[udi]? with
    | some slot =>
        rw [yields_find_of_slot empty present]
        apply anchored.ofSlots
        intro other later ref found bound
        obtain ⟨before, earlier, same⟩ :=
          HandleTable.exists_of_counted present found
        exact .inl ⟨before, earlier, same.trans bound⟩
    | none =>
        rw [yields_find_of_no_slot empty present]
        refine (anchored.yields_makeObject udi).mono ?_ fun _ => id
        intro object left outcome
        obtain ⟨anchoredLeft, answered, slots⟩ := outcome
        apply anchoredLeft.ofSlots
        intro other slot ref found bound
        rw [HandleTable.getElem?_acquireWith] at found
        split at found
        · next same =>
            subst same
            rw [slots, present] at found
            cases found
            obtain rfl : object = some ref := bound
            exact .inr answered.kept
        · exact .inl ⟨slot, found, bound⟩

theorem keeps_updateHandles (event : DeviceEvent) :
    (updateHandles event).Keeps
      (Anchored : Hub n (ServiceBackend σ) ServiceObject κ ω → Prop) := by
  intro hub anchored
  cases event with
  | added udi =>
      rw [updateHandles, Run.yields_bind, Run.yields_get]
      split
      · rw [Run.yields_bind]
        refine (anchored.yields_makeObject udi).mono ?_ fun _ => id
        intro object left outcome
        obtain ⟨anchoredLeft, answered, _⟩ := outcome
        rw [Run.yields_modify]
        apply anchoredLeft.ofSlots
        intro other slot ref found bound
        rw [HandleTable.getElem?_rebind] at found
        split at found
        · next same =>
            subst same
            obtain ⟨before, _, rfl⟩ := Option.map_eq_some_iff.mp found
            obtain rfl : object = some ref := bound
            exact .inr answered.kept
        · exact .inl ⟨slot, found, bound⟩
      · exact anchored
  | removed udi =>
      rw [updateHandles, Run.yields_modify]
      apply anchored.ofSlots
      intro other slot ref found bound
      rw [HandleTable.getElem?_detach] at found
      split at found
      · obtain ⟨before, _, gone⟩ := Option.bind_eq_some_iff.mp found
        rw [HandleTable.object_of_detached gone] at bound
        contradiction
      · exact .inl ⟨slot, found, bound⟩
  | changed udi changes => exact anchored

theorem shutDown (anchored : hub.Anchored) : hub.shutDown.Anchored := by
  have unbound : ∀ (udi : String) slot ref,
    hub.shutDown.registry.slots[udi]? = some slot → slot.object ≠ some ref := by
    intro udi slot ref found bound
    obtain ⟨before, _, gone⟩ := Option.bind_eq_some_iff.mp
      (HandleTable.getElem?_detachAll.symm.trans found)
    rw [HandleTable.object_of_detached gone] at bound
    contradiction
  exact ⟨anchored.wellKept,
    fun udi slot ref found bound => (unbound udi slot ref found bound).elim,
    fun udi slot ref found bound => (unbound udi slot ref found bound).elim,
    fun udi slot ref found bound => (unbound udi slot ref found bound).elim⟩

theorem congr {other : Type}
    {left : Hub n (ServiceBackend σ) ServiceObject κ other}
    (anchored : hub.Anchored) (backends : left.backends = hub.backends)
    (roster : left.registry.roster = hub.registry.roster)
    (slots : left.registry.slots = hub.registry.slots) :
    left.Anchored := by
  obtain ⟨leftBackends, ⟨leftRoster, leftSlots, audience⟩, held, client⟩ := left
  dsimp only at backends roster slots
  subst backends roster slots
  exact ⟨anchored.wellKept, anchored.routed, anchored.formed, anchored.reserved⟩

theorem account : Account fun _ =>
    (Anchored : Hub n (ServiceBackend σ) ServiceObject κ ω → Prop) := by
  apply Account.ofGentle
  · exact keeps_find
  · exact fun handle anchored => anchored.release handle
  · exact fun gentle => keeps_atBackend gentle.orderly

end Anchored

end Hub

namespace World

variable {n : Nat} {σ κ μ : Type}
  {world : World n (ServiceBackend σ) ServiceObject κ μ} [Service σ]

namespace Anchored

variable
  {callbacks : κ → DeviceEvent →
    Run (World n (ServiceBackend σ) ServiceObject κ μ) Unit}

theorem keeps_follow
    {perform : Deed n (ServiceBackend σ) ServiceObject κ μ →
      Run (World n (ServiceBackend σ) ServiceObject κ μ) Unit}
    (keeps : ∀ deed : Deed n (ServiceBackend σ) ServiceObject κ μ,
      deed.Orderly → (perform deed).Keeps Hub.Anchored)
    {conduct : Conduct n (ServiceBackend σ) ServiceObject κ μ}
    (orderly : conduct.Orderly) :
    (conduct.follow perform).Keeps Hub.Anchored := by
  induction conduct with
  | rest => exact fun _ anchored => anchored
  | act deed next induction =>
      intro world anchored
      rw [Conduct.follow, Run.yields_bind]
      refine (keeps deed orderly.1 world anchored).mono ?_ fun _ => id
      intro _ left anchoredLeft
      rw [Run.yields_bind, Run.yields_get]
      exact induction left (orderly.2 left) left anchoredLeft

theorem charter :
    Charter (Hub.Anchored : World n (ServiceBackend σ) ServiceObject κ μ →
      Prop) where
  account := Hub.Anchored.account
  reloading := Hub.Anchored.keeps_atBackend ServiceBackend.orderly_reload
  draining := Hub.Anchored.keeps_atBackend ServiceBackend.orderly_drain
  updating := Hub.Anchored.keeps_updateHandles
  cloning handle anchored := Hub.Anchored.clone anchored handle
  shuttingDown anchored := Hub.Anchored.shutDown anchored
  unnoticed anchored backends roster slots _ :=
    Hub.Anchored.congr anchored backends roster slots

theorem keeps_perform (pathExists : String → Bool)
    (keeps : ∀ callback event, (callbacks callback event).Keeps Hub.Anchored)
    {deed : Deed n (ServiceBackend σ) ServiceObject κ μ}
    (orderly : deed.Orderly) :
    (deed.perform pathExists callbacks).Keeps Hub.Anchored := by
  refine charter.keeps_perform pathExists keeps ?_ ?_
  · rintro i step rfl
    exact Hub.Anchored.keeps_atBackend orderly i
  · intro change _ world anchored
    exact Hub.Anchored.congr anchored rfl rfl rfl

theorem keeps_callbacksTo (pathExists : String → Bool)
    {react : κ → DeviceEvent → World n (ServiceBackend σ) ServiceObject κ μ →
      Conduct n (ServiceBackend σ) ServiceObject κ μ}
    (orderly : ∀ callback event world, (react callback event world).Orderly)
    (depth : Nat) (callback : κ) (event : DeviceEvent) :
    (callbacksTo pathExists react depth callback event).Keeps Hub.Anchored := by
  -- By induction on how deep callbacks nest.
  induction depth generalizing callback event with
  | zero => exact fun _ anchored => anchored
  | succ depth induction =>
      intro world anchored
      rw [callbacksTo, Run.yields_bind, Run.yields_get]
      exact keeps_follow (fun _ => keeps_perform pathExists induction)
        (orderly callback event world) world anchored

end Anchored

/-- Anchored slots stay anchored, whatever is done by clients and callbacks. -/
theorem anchored_afterAll (anchored : Hub.Anchored world)
    (pathExists : String → Bool)
    {react : κ → DeviceEvent → World n (ServiceBackend σ) ServiceObject κ μ →
      Conduct n (ServiceBackend σ) ServiceObject κ μ}
    (conduct : ∀ callback event world, (react callback event world).Orderly)
    (depth : Nat) {deeds : List (Deed n (ServiceBackend σ) ServiceObject κ μ)}
    (orderly : ∀ deed ∈ deeds, deed.Orderly) :
    Hub.Anchored (world.afterAll pathExists react depth deeds) := by
  induction deeds generalizing world with
  | nil => exact anchored
  | cons deed deeds induction =>
      have keeps := Anchored.keeps_perform pathExists
        (Anchored.keeps_callbacksTo pathExists conduct depth)
          (orderly deed List.mem_cons_self)
      exact induction (keeps world anchored).left
        fun later member => orderly later (List.mem_cons_of_mem deed member)

theorem anchored_fresh {backends : Vector (ServiceBackend σ) n}
    (roster : List (Fin n)) (memory : μ)
    (new : ∀ (i : Fin n) (udi : String),
      (backends.get i).objects[udi]? = none) :
    Hub.Anchored (fresh backends roster memory :
      World n (ServiceBackend σ) ServiceObject κ μ) where
  wellKept i := .ofEmpty (new i)
  routed udi slot ref found := by simp [fresh] at found
  formed udi slot ref found := by simp [fresh] at found
  reserved udi slot ref found := by simp [fresh] at found

end World

end Hotplug
