import Hotplug.Proofs.Cache.Outline

/-!
# One read of a property

The slot of a property in a cache decides what a reader learns when it looks,
and of a property without a known slot only whether the device has the
interface. A slot that is stored is found again, and no other slot changes. So a
read that fetches leaves a cache in which every later look at the property finds
the answer.
-/

namespace Hotplug

theorem Slot.isUnresolved_slotOf (reply : Except ServiceError Value) :
    (Cache.slotOf reply).isUnresolved = false := by
  cases reply <;> rfl

namespace Cache

variable {σ : Type} {cache : Cache σ} {key other : PropertyKey} {slot : Slot}
  {reach : Reach}

theorem hasInterface_of_untracked {udi : String}
    (untracked : cache.tracks udi = false) (interface : String) :
    cache.hasInterface udi interface = false := by
  rw [hasInterface, getElem?_of_untracked untracked]

/-- What is cached of a property. -/
def slot? (cache : Cache σ) (key : PropertyKey) : Option Slot :=
  cache.devices[key.udi]?.bind
    fun snapshot => snapshot.slot? key.interface key.property

theorem hasInterface_of_slot? (found : cache.slot? key = some slot) :
    cache.hasInterface key.udi key.interface = true := by
  obtain ⟨snapshot, tracked, here⟩ := Option.bind_eq_some_iff.mp found
  obtain ⟨slots, carried, _⟩ := Option.bind_eq_some_iff.mp here
  rw [hasInterface, tracked]
  exact Snapshot.hasInterface_iff.mpr (by rw [carried]; rfl)

/-- A known slot settles the look, and so does an interface that is not
there. -/
theorem glance_eq (cache : Cache σ) (key : PropertyKey) (reach : Reach) :
    cache.glance key reach =
      match cache.slot? key with
      | some (.resolved value) => .settled (some value)
      | some .absent => .settled none
      | _ =>
          if reach = .known ∨ cache.hasInterface key.udi key.interface =
            false then .settled none
          else if cache.inflight.contains key then .busy
          else .free := by
  cases tracked : cache.devices[key.udi]? with
  | none => simp [glance, slot?, hasInterface, tracked]
  | some snapshot =>
      by_cases has : snapshot.hasInterface key.interface = true
      · rcases found : snapshot.slot? key.interface
          key.property with _ | _ | _ | _ <;>
          simp [glance, slot?, hasInterface, tracked, has, found]
      · have none : cache.slot? key = none := by
          refine Option.eq_none_iff_forall_ne_some.mpr fun slot found => has ?_
          simpa [hasInterface, tracked] using hasInterface_of_slot? found
        rw [none]
        simp [glance, hasInterface, tracked, has]

theorem glance_of_known (found : cache.slot? key = some slot)
    (known : slot.isUnresolved = false) :
    cache.glance key reach = .settled slot.value? := by
  rw [glance_eq, found]
  cases slot with
  | resolved value => rfl
  | absent => rfl
  | unresolved => cases known

@[simp] theorem hasInterface_storeSlot {udi interface : String} :
    (storeSlot key slot cache).hasInterface udi interface =
      cache.hasInterface udi interface := by
  simp only [hasInterface, storeSlot, getElem?_onDevice]
  by_cases here : key.udi = udi
  · rw [if_pos here]
    cases cache.devices[udi]? with
    | none => rfl
    | some snapshot => exact Bool.eq_iff_iff.mpr Snapshot.hasInterface_update
  · rw [if_neg here]

theorem slot?_storeSlot :
    (storeSlot key slot cache).slot? other =
      if key = other ∧ cache.hasInterface key.udi key.interface =
        true then some slot
      else cache.slot? other := by
  obtain ⟨udi, interface, property⟩ := key
  obtain ⟨udi', interface', property'⟩ := other
  simp only [slot?, storeSlot, getElem?_onDevice, hasInterface,
    PropertyKey.mk.injEq]
  by_cases same : udi = udi'
  · subst udi'
    cases cache.devices[udi]? with
    | none => simp
    | some snapshot => simp [Snapshot.slot?_update, and_assoc]
  · simp [same]

theorem glance_of_missing
    (missing : cache.hasInterface key.udi key.interface = false)
    (reach : Reach) :
    cache.glance key reach = .settled none := by
  have unknown : cache.slot? key = none := by
    refine Option.eq_none_iff_forall_ne_some.mpr fun slot found => ?_
    rw [hasInterface_of_slot? found] at missing
    cases missing
  rw [glance_eq, unknown, missing]
  simp

theorem exists_glance_known (cache : Cache σ) (key : PropertyKey) :
    ∃ answer, cache.glance key .known = .settled answer := by
  rw [glance_eq]
  split <;> simp

theorem glance_of_settled {answer : Option Value}
    (settled : cache.glance key .fetched = .settled answer) (reach : Reach) :
    cache.glance key reach = .settled answer := by
  rw [glance_eq] at settled ⊢
  grind

theorem glance_congr {left : Cache σ} (slots : left.slot? key = cache.slot? key)
    (interfaces : left.hasInterface key.udi key.interface =
      cache.hasInterface key.udi key.interface)
    (claims : left.inflight = cache.inflight) (reach : Reach) :
    left.glance key reach = cache.glance key reach := by
  rw [glance_eq, glance_eq, slots, interfaces, claims]

theorem hasInterface_of_free (free : cache.glance key .fetched = .free) :
    cache.hasInterface key.udi key.interface = true := by
  rw [glance_eq] at free
  grind

theorem mem_inflight_of_busy (busy : cache.glance key .fetched = .busy) :
    key ∈ cache.inflight := by
  rw [glance_eq] at busy
  grind

theorem glance_claim (free : cache.glance key .fetched = .free) :
    (cache.claim key).glance key .fetched = .busy := by
  have slots : (cache.claim key).slot? key = cache.slot? key := rfl
  have interfaces : (cache.claim key).hasInterface = cache.hasInterface := rfl
  have claimed : (cache.claim key).inflight.contains key = true := by
    simp [claim]
  rw [glance_eq] at free ⊢
  rw [slots, interfaces, claimed]
  grind

section Fetching

variable {reply : Except ServiceError Value} {service : σ}
  {answer : Option Value}

/-- The cache after the service was asked. -/
def asked (key : PropertyKey) (cache : Cache σ) (service : σ) : Cache σ :=
  { cache.claim key with service := service }

/-- The cache after the answer was stored, while the claim is still held. -/
def kept (key : PropertyKey) (cache : Cache σ)
    (reply : Except ServiceError Value) (service : σ) :
    Cache σ :=
  (asked key cache service).storeSlot key (slotOf reply)

/-- The cache after the claim was released. -/
def fetched (key : PropertyKey) (cache : Cache σ)
    (reply : Except ServiceError Value) (service : σ) :
    Cache σ :=
  (kept key cache reply service).release key

variable (reply service) in
theorem slot?_kept (has : cache.hasInterface key.udi key.interface = true) :
    (kept key cache reply service).slot? key = some (slotOf reply) := by
  have carried : (asked key cache service).hasInterface key.udi key.interface =
    true := has
  rw [kept, slot?_storeSlot, if_pos ⟨rfl, carried⟩]

/-- From the moment when the answer is stored, it is what every look finds. -/
theorem glance_kept (has : cache.hasInterface key.udi key.interface = true) :
    (kept key cache reply service).glance key .fetched =
      .settled (slotOf reply).value? :=
  glance_of_known (slot?_kept reply service has)
    (Slot.isUnresolved_slotOf reply)

theorem glance_fetched (has : cache.hasInterface key.udi key.interface = true) :
    (fetched key cache reply service).glance key .fetched =
      .settled (slotOf reply).value? :=
  glance_of_known (slot?_kept reply service has)
    (Slot.isUnresolved_slotOf reply)

variable [Service σ]

theorem start_read_of_settled
    (settled : cache.glance key reach = .settled answer) :
    (read key reach).start cache = (.ok answer, cache) := by
  have yields : (read key reach).Yields cache
      (fun given left => given = answer ∧ left = cache) fun _ => False := by
    rw [read, Run.yields_bind, Run.yields_get, settled]
    exact ⟨rfl, rfl⟩
  obtain ⟨given, left, started, rfl, rfl⟩ := yields.exists_start
  exact started

theorem yields_read_of_free {after : Option Value → Cache σ → Prop}
    {failed : Cache σ → Prop} (free : cache.glance key .fetched = .free) :
    (read key .fetched).Yields cache after failed ↔
      (Service.getProperty key).Yields cache.service
        (fun reply service => after (slotOf reply).value?
          (fetched key cache reply service))
        fun service => failed ((asked key cache service).release key) := by
  rw [read, Run.yields_bind, Run.yields_get, free]
  simp only [fetchClaimed, call, Run.yields_bind, Run.yields_modify,
    Run.yields_ensuring, Run.yields_zoom, Run.yields_pure]
  rfl

theorem start_read_of_free (free : cache.glance key .fetched = .free)
    (answers : (Service.getProperty key).start cache.service =
      (.ok reply, service)) :
    (read key .fetched).start cache =
      (.ok (slotOf reply).value?, fetched key cache reply service) := by
  have yields : (read key .fetched).Yields cache
      (fun given left => given = (slotOf reply).value? ∧
        left = fetched key cache reply service)
      fun _ => False := by
    rw [yields_read_of_free free, Run.Yields, answers]
    exact ⟨rfl, rfl⟩
  obtain ⟨given, left, started, rfl, rfl⟩ := yields.exists_start
  exact started

/-- A read that crashes gives up its claim, and nothing else has changed in the
cache. -/
theorem start_read_of_crash {reason : Crash}
    (free : cache.glance key .fetched = .free)
    (crashes : (Service.getProperty key).start cache.service =
      (.error reason, service)) :
    (read key .fetched).start cache =
      (.error reason, { cache with service := service }) := by
  have failed : (call (Service.getProperty key)).start (cache.claim key) =
      (.error reason, asked key cache service) := by
    rw [call, Run.zoom, Run.start_ofStart]
    exact congrArg (fun left => (left.1, asked key cache left.2)) crashes
  have released : (asked key cache service).release key =
      { cache with service := service } := by
    rw [release, asked, claim, List.erase_cons_head]
  rw [read, Run.start_bind, Run.start_get]
  simp only [free]
  rw [Run.start_bind, Run.start_modify]
  simp only [Run.ensuring, Run.start_ofStart]
  rw [fetchClaimed, Run.start_bind, failed]
  exact congrArg (Prod.mk _) released

end Fetching

end Cache

end Hotplug
