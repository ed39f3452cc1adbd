import Hotplug.Proofs.Hub.Account
import Hotplug.Proofs.Hub.Deeds

/-!
# Slots count their handles

Every slot counts exactly the handles of its identifier that are out. Within a
deed the handles of the hub itself are counted too, until they are given to the
client or given up.
-/

namespace Hotplug

namespace Hub

variable {n : Nat} {β ο κ ω : Type} {client : ω} {out : List Handle}
  {hub : Hub n β ο κ ω}

/-- The slots count the handles that are out, and the client has what it had. -/
structure Counts (client : ω) (out : List Handle) (hub : Hub n β ο κ ω) :
    Prop where
  sharers : ∀ udi, hub.registry.slots.sharers udi = out.count ⟨udi, true⟩
  unchanged : hub.client = client

namespace Counts

theorem onSlots (counts : Counts client out hub) {counted : List Handle}
    {change : HandleTable (ObjectRef n ο) → HandleTable (ObjectRef n ο)}
    (sharers : ∀ udi, (change hub.registry.slots).sharers udi =
      counted.count ⟨udi, true⟩) :
    Counts client counted (hub.onSlots change) :=
  ⟨sharers, counts.unchanged⟩

theorem keeps_atBackend {α : Type} (i : Fin n) (step : Run β α) :
    (atBackend i step).Keeps (Counts client out : Hub n β ο κ ω → Prop) := by
  intro hub counts
  rw [yields_atBackend]
  unfold Run.Yields
  split <;> exact ⟨counts.sharers, counts.unchanged⟩

theorem clone (counts : Counts client out hub) {handle : Handle}
    (member : handle ∈ out) :
    Counts client (handle :: out) (hub.clone handle) := by
  obtain ⟨udi, bound⟩ := handle
  cases bound with
  | false =>
      refine ⟨?_, counts.unchanged⟩
      intro other
      rw [List.count_cons_of_ne (by simp)]
      exact counts.sharers other
  | true =>
      have positive : 0 < hub.registry.slots.sharers udi := by
        rw [counts.sharers]
        exact List.count_pos_iff.mpr member
      cases found : hub.registry.slots[udi]? with
      | none => simp [HandleTable.sharers, found] at positive
      | some slot =>
          apply counts.onSlots
          intro other
          simp only [HandleTable.acquire?_eq_some found, Option.getD_some]
          rw [HandleTable.sharers_insert, List.count_cons,
            ← counts.sharers other]
          by_cases same : udi = other
          · subst same
            simp [HandleTable.sharers, found]
          · simp [same]

variable [Backend β ο]

theorem yields_makeObject (counts : Counts client out hub) (udi : String) :
    (makeObject udi).Yields hub (fun _ => Counts client out)
      (Counts client out) := by
  rw [Hub.yields_makeObject]
  cases hub.route? udi with
  | none => exact counts
  | some i => exact keeps_atBackend i _ hub counts

theorem yields_find (counts : Counts client out hub) (udi : String) :
    (find udi).Yields hub (fun handle => Counts client (handle :: out))
      (Counts client out) := by
  by_cases empty : udi = ""
  · subst empty
    rw [yields_find_null]
    refine ⟨?_, counts.unchanged⟩
    intro other
    rw [List.count_cons_of_ne (by simp [Handle.null])]
    exact counts.sharers other
  · cases found : hub.registry.slots[udi]? with
    | some slot =>
        rw [yields_find_of_slot empty found]
        apply counts.onSlots
        intro other
        rw [HandleTable.sharers_insert, List.count_cons, ← counts.sharers other]
        by_cases same : udi = other
        · subst same
          simp [HandleTable.sharers, found]
        · simp [same]
    | none =>
        rw [yields_find_of_no_slot empty found]
        refine (counts.yields_makeObject udi).mono ?_ fun _ failed => failed
        intro object left countsLeft
        apply countsLeft.onSlots
        intro other
        rw [HandleTable.sharers_acquireWith, List.count_cons,
          ← countsLeft.sharers other]
        by_cases same : udi = other
        · subst same
          simp
        · simp [same]

theorem release {handle : Handle} (counts : Counts client (handle :: out) hub) :
    Counts client out (hub.release handle) := by
  obtain ⟨udi, bound⟩ := handle
  cases bound with
  | false =>
      refine ⟨?_, counts.unchanged⟩
      intro other
      have same := counts.sharers other
      rwa [List.count_cons_of_ne (by simp)] at same
  | true =>
      apply counts.onSlots
      intro other
      rw [HandleTable.sharers_release]
      by_cases same : udi = other
      · subst same
        rw [if_pos rfl, counts.sharers, List.count_cons_self,
          Nat.add_sub_cancel]
      · rw [if_neg same, counts.sharers, List.count_cons_of_ne (by simp [same])]

theorem account :
    Account (Counts client : List Handle → Hub n β ο κ ω → Prop) where
  shuffled same counts :=
    ⟨fun udi => (counts.sharers udi).trans (same.count_eq _), counts.unchanged⟩
  finding udi counts := counts.yields_find udi
  releasing _ counts := counts.release
  listing _ i _ _ := keeps_atBackend i _
  answering _ ref :=
    ⟨keeps_atBackend ref.backend _, fun _ _ => keeps_atBackend ref.backend _⟩
  naming _ ref := keeps_atBackend ref.backend _

theorem yields_updateHandles (counts : Counts client out hub)
    (event : DeviceEvent) :
    (updateHandles event).Yields hub (fun _ => Counts client out)
      (Counts client out) := by
  cases event with
  | added udi =>
      rw [updateHandles, Run.yields_bind, Run.yields_get]
      split
      · rw [Run.yields_bind]
        refine (counts.yields_makeObject udi).mono ?_ fun _ failed => failed
        intro object left countsLeft
        rw [Run.yields_modify]
        apply countsLeft.onSlots
        intro other
        rw [HandleTable.sharers_rebind]
        exact countsLeft.sharers other
      · exact counts
  | removed udi =>
      rw [updateHandles, Run.yields_modify]
      apply counts.onSlots
      intro other
      rw [HandleTable.sharers_detach]
      exact counts.sharers other
  | changed udi changes => exact counts

end Counts

end Hub

/-- At the moment every slot counts the handles that are out, and the slots of
handles that are out are there and can be acquired and released. -/
structure Moment.Exact {n : Nat} {ο : Type} (moment : Moment n ο) : Prop where
  sharers : ∀ udi, moment.slots.sharers udi = moment.handles.count ⟨udi, true⟩
  kept : ∀ handle ∈ moment.handles, handle.bound = true →
    ∃ slot, moment.slots[handle.udi]? = some slot ∧ 1 ≤ slot.refs ∧
      (moment.slots.acquire? handle.udi).isSome = true

namespace Moment

variable {n : Nat} {ο : Type}

theorem Exact.of_sharers {moment : Moment n ο}
    (sharers : ∀ udi, moment.slots.sharers udi =
      moment.handles.count ⟨udi, true⟩) :
    moment.Exact where
  sharers := sharers
  kept := by
    intro handle member isBound
    obtain ⟨udi, bound⟩ := handle
    obtain rfl : bound = true := isBound
    have positive : 0 < moment.slots.sharers udi := by
      rw [sharers]
      exact List.count_pos_iff.mpr member
    cases found : moment.slots[udi]? with
    | none => simp [HandleTable.sharers, found] at positive
    | some slot =>
        have counted : 0 < slot.refs := by
          simpa [HandleTable.sharers, found] using positive
        refine ⟨slot, rfl, counted, ?_⟩
        rw [HandleTable.acquire?_eq_some found]
        rfl

end Moment

namespace World

variable {n : Nat} {β ο κ μ : Type} {world : World n β ο κ μ}

/-- The slots count the handles that the client has, as they did at every
moment. -/
structure Tallied (world : World n β ο κ μ) : Prop where
  sharers : ∀ udi,
    world.registry.slots.sharers udi = world.client.handles.count ⟨udi, true⟩
  past : ∀ moment ∈ world.client.moments, moment.Exact

namespace Tallied

theorem counts (tallied : world.Tallied) :
    Hub.Counts world.client world.client.handles world :=
  ⟨tallied.sharers, rfl⟩

theorem take {client : Client n ο μ} {found : List Handle}
    (past : ∀ moment ∈ client.moments, moment.Exact)
    (counts : Hub.Counts client (found ++ client.handles) world) :
    (World.take found world).Tallied := by
  obtain ⟨sharers, rfl⟩ := counts
  exact ⟨sharers, past⟩

theorem of_counts {client : Client n ο μ}
    (past : ∀ moment ∈ client.moments, moment.Exact)
    (counts : Hub.Counts client client.handles world) :
    world.Tallied := by
  obtain ⟨sharers, rfl⟩ := counts
  exact ⟨sharers, past⟩

theorem note (tallied : world.Tallied) : world.note.Tallied where
  sharers := tallied.sharers
  past := by
    intro moment member
    rcases List.mem_cons.mp member with rfl | earlier
    · exact .of_sharers tallied.sharers
    · exact tallied.past moment earlier

theorem clone (tallied : world.Tallied) {handle : Handle}
    (member : handle ∈ world.client.handles) :
    (World.take [handle] (Hub.clone handle world)).Tallied :=
  take tallied.past (tallied.counts.clone member)

theorem yields_take {α : Type} {step : Run (World n β ο κ μ) α}
    {found : α → List Handle} (tallied : world.Tallied)
    (yields : step.Yields world
      (fun answer =>
        Hub.Counts world.client (found answer ++ world.client.handles))
      (Hub.Counts world.client world.client.handles)) :
    (step >>= fun answer => modify (World.take (found answer))).Yields world
      (fun _ => Tallied) Tallied := by
  rw [Run.yields_bind]
  refine yields.mono ?_ ?_
  · intro answer left counts
    exact take tallied.past counts
  · intro left counts
    exact of_counts tallied.past counts

theorem keeps_follow {perform : Deed n β ο κ μ → Run (World n β ο κ μ) Unit}
    (keeps : ∀ deed, (perform deed).Keeps Tallied)
    (conduct : Conduct n β ο κ μ) :
    (conduct.follow perform).Keeps Tallied := by
  induction conduct with
  | rest => exact fun _ tallied => tallied
  | act deed next induction =>
      intro world tallied
      rw [Conduct.follow, Run.yields_bind]
      refine (keeps deed world tallied).mono ?_ fun _ failed => failed
      intro _ left talliedLeft
      rw [Run.yields_bind, Run.yields_get]
      exact induction left left talliedLeft

variable [Backend β ο]

theorem keeps_deliver {run : κ → DeviceEvent → Run (World n β ο κ μ) Unit}
    (keeps : ∀ callback event, (run callback event).Keeps Tallied)
    (event : DeviceEvent) :
    (Hub.deliver run event).Keeps Tallied := by
  intro world tallied
  rw [Hub.deliver, Run.yields_bind]
  refine (tallied.counts.yields_updateHandles event).mono ?_ ?_
  · intro _ left counts
    rw [Hub.broadcast, Run.yields_bind, Run.yields_get, Run.yields_bind]
    refine (Run.yields_forM Tallied (of_counts tallied.past counts) ?_).mono ?_
      fun _ failed => failed
    · intro subscription _ before talliedBefore
      exact keeps subscription.callback event before talliedBefore
    · intro _ final talliedFinal
      exact ⟨talliedFinal.sharers, talliedFinal.past⟩
  · intro left counts
    exact of_counts tallied.past counts

theorem keeps_pump {run : κ → DeviceEvent → Run (World n β ο κ μ) Unit}
    (keeps : ∀ callback event, (run callback event).Keeps Tallied) :
    (Hub.pump run).Keeps Tallied := by
  intro world tallied
  rw [Hub.pump, Run.yields_bind, Run.yields_get]
  refine Run.yields_foldlM (fun _ => Tallied) tallied ?_
  intro i _ count left talliedLeft
  rw [Run.yields_bind]
  refine (Hub.Counts.keeps_atBackend i _ left talliedLeft.counts).mono ?_ ?_
  · intro events drained counts
    rw [Run.yields_bind]
    refine Run.yields_forM Tallied (of_counts talliedLeft.past counts) ?_
    intro event _ before talliedBefore
    exact keeps_deliver keeps event before talliedBefore
  · intro drained counts
    exact of_counts talliedLeft.past counts

theorem drop (tallied : world.Tallied) {handle : Handle}
    (member : handle ∈ world.client.handles) :
    (World.onClient (fun client =>
      { client with handles := client.handles.erase handle })
      (Hub.release handle world)).Tallied := by
  have counts : Hub.Counts world.client
      (handle :: world.client.handles.erase handle) world :=
    ⟨fun udi => (tallied.sharers udi).trans
      ((List.perm_cons_erase member).count_eq _), rfl⟩
  obtain ⟨sharers, unchanged⟩ := counts.release
  constructor
  · intro udi
    rw [onClient, unchanged]
    exact sharers udi
  · intro moment earlier
    rw [onClient, unchanged] at earlier
    exact tallied.past moment earlier

theorem keeps_run (pathExists : String → Bool)
    {callbacks : κ → DeviceEvent → Run (World n β ο κ μ) Unit}
    (keeps : ∀ callback event, (callbacks callback event).Keeps Tallied)
    (deed : Deed n β ο κ μ) :
    (deed.run pathExists callbacks).Keeps Tallied := by
  intro world tallied
  have counts := tallied.counts
  have account : Hub.Account (Hub.Counts world.client : List Handle →
      World n β ο κ μ → Prop) :=
    Hub.Counts.account
  have reloading : ∀ out i, (Hub.atBackend i Backend.reload).Keeps
      (Hub.Counts world.client out : World n β ο κ μ → Prop) := fun _ i =>
    Hub.Counts.keeps_atBackend i _
  cases deed with
  | find udi => exact tallied.yields_take (account.finding udi counts)
  | clone handle =>
      rw [Deed.run, Run.yields_modify]
      split
      · next member => exact tallied.clone member
      · exact tallied
  | drop handle =>
      rw [Deed.run, Run.yields_modify]
      split
      · next member => exact tallied.drop member
      · exact tallied
  | everyDevice =>
      exact tallied.yields_take (account.yields_everyDevice reloading counts)
  | select predicate under =>
      exact tallied.yields_take
        (account.yields_select reloading predicate under counts)
  | query text under =>
      exact tallied.yields_take (account.yields_select reloading _ under counts)
  | devicesWith capability under =>
      exact tallied.yields_take
        (account.yields_devicesWith capability under counts)
  | storageFromPath path =>
      exact tallied.yields_take
        (account.yields_storageFromPath pathExists path counts)
  | parent handle =>
      exact tallied.yields_take (account.yields_parent handle counts)
  | reload =>
      rw [Deed.run, Run.yields_bind]
      exact (Hub.Account.yields_reload (reloading _) counts).mono
        (fun _ _ => of_counts tallied.past) fun _ => of_counts tallied.past
  | pump =>
      rw [Deed.run, Run.yields_bind]
      exact keeps_pump keeps world tallied
  | shutDown =>
      refine ⟨?_, tallied.past⟩
      intro udi
      exact HandleTable.sharers_detachAll.trans (tallied.sharers udi)
  | atBackend i step =>
      exact (Hub.Counts.keeps_atBackend i step world counts).mono
        (fun _ _ => of_counts tallied.past) fun _ => of_counts tallied.past
  | hold ref => exact ⟨tallied.sharers, tallied.past⟩
  | letGo ref => exact ⟨tallied.sharers, tallied.past⟩
  | attend change => exact ⟨tallied.sharers, tallied.past⟩
  | remember change => exact ⟨tallied.sharers, tallied.past⟩
  | crash message => exact tallied

theorem keeps_perform (pathExists : String → Bool)
    {callbacks : κ → DeviceEvent → Run (World n β ο κ μ) Unit}
    (keeps : ∀ callback event, (callbacks callback event).Keeps Tallied)
    (deed : Deed n β ο κ μ) :
    (deed.perform pathExists callbacks).Keeps Tallied := by
  intro world tallied
  rw [Deed.perform, Run.yields_ensuring]
  exact (keeps_run pathExists keeps deed world tallied).mono (fun _ _ => note)
    fun _ => note

theorem keeps_callbacksTo (pathExists : String → Bool)
    (react : κ → DeviceEvent → World n β ο κ μ → Conduct n β ο κ μ)
    (depth : Nat) (callback : κ) (event : DeviceEvent) :
    (callbacksTo pathExists react depth callback event).Keeps Tallied := by
  -- Callbacks keep the tally, by induction on how deep they nest.
  induction depth generalizing callback event with
  | zero => exact fun _ tallied => tallied
  | succ depth induction =>
      intro world tallied
      rw [callbacksTo, Run.yields_bind, Run.yields_get]
      exact keeps_follow (keeps_perform pathExists induction) _ world tallied

theorem afterAll (tallied : world.Tallied) (pathExists : String → Bool)
    (react : κ → DeviceEvent → World n β ο κ μ → Conduct n β ο κ μ)
    (depth : Nat) (deeds : List (Deed n β ο κ μ)) :
    (world.afterAll pathExists react depth deeds).Tallied := by
  induction deeds generalizing world with
  | nil => exact tallied
  | cons deed deeds induction =>
      have keeps := keeps_perform pathExists
        (keeps_callbacksTo pathExists react depth) deed
      exact induction (keeps world tallied).left

end Tallied

/-- Whatever is done to a new registry, by its client and by callbacks of any
kind and depth: after every deed each slot counts exactly the handles of its
identifier that are out, and the slot of every handle that is out is there, so
that no handle is ever given up or cloned without its slot. -/
theorem exact_afterAll_fresh [Backend β ο] (backends : Vector β n)
    (roster : List (Fin n)) (memory : μ) (pathExists : String → Bool)
    (react : κ → DeviceEvent → World n β ο κ μ → Conduct n β ο κ μ)
    (depth : Nat) (deeds : List (Deed n β ο κ μ)) :
    let last := (fresh backends roster memory).afterAll pathExists
      react depth deeds
    Moment.Exact ⟨last.registry.slots, last.client.handles⟩ ∧
      ∀ moment ∈ last.client.moments, moment.Exact := by
  have start : (fresh backends roster memory : World n β ο κ μ).Tallied :=
    ⟨fun udi => by simp [fresh, HandleTable.sharers], by simp [fresh]⟩
  have tallied := start.afterAll pathExists react depth deeds
  exact ⟨.of_sharers tallied.sharers, tallied.past⟩

end World

end Hotplug
