import Hotplug.Proofs.Cache.Entrance
import Hotplug.Proofs.Traced
import Hotplug.Service.Memory

/-!
# Announced interfaces beside those that were known

When interfaces of an object are announced, three sources compete for each
interface of the device: what is cached, what is announced, and what the service
answers when the interfaces that were known are asked for again. The answer goes
before the announcement, and this before what is cached. A question that fails
leaves its own interface to the other two, and concerns no other interface.
-/

namespace Hotplug

/-- The interfaces that are asked for again when others are announced. -/
def Config.stale (config : Config) (known : Snapshot) : List String :=
  known.names.filter (· != config.baselineInterface)

theorem Config.mem_stale_iff {config : Config} {known : Snapshot}
    {name : String} :
    name ∈ config.stale known ↔
      known.hasInterface name = true ∧ name ≠ config.baselineInterface := by
  rw [stale, List.mem_filter, Snapshot.names, Std.ExtTreeMap.mem_keys,
    Snapshot.hasInterface_iff_mem]
  simp

theorem Config.pairwise_stale (config : Config) (known : Snapshot) :
    (config.stale known).Pairwise fun left right => compare left right = .lt :=
  Std.ExtTreeMap.ordered_keys.filter _

namespace Snapshot

variable {config : Config} {announced : Interfaces}
  {replies : List (String × Except ServiceError Properties)}
  {before after snapshot : Snapshot} {name : String}

/-- Take an interface as the service answers it. Without an answer it stays as
it is. -/
def renew (snapshot : Snapshot) (interface : String) :
    Except ServiceError Properties → Snapshot
  | .ok properties => snapshot.put interface properties.plain
  | .error _ => snapshot

def renewAll (snapshot : Snapshot)
    (replies : List (String × Except ServiceError Properties)) :
    Snapshot :=
  replies.foldl (fun left reply => left.renew reply.1 reply.2) snapshot

/-- What the service answered for an interface, if it did. -/
def answer? (replies : List (String × Except ServiceError Properties))
    (name : String) :
    Option Properties :=
  (replies.lookup name).bind Except.toOption

theorem getElem?_renew (interface : String)
    (reply : Except ServiceError Properties) :
    (snapshot.renew interface reply).interfaces[name]? =
      match reply with
      | .ok properties =>
          if interface = name then some (resolvedSlots properties.plain)
          else snapshot.interfaces[name]?
      | .error _ => snapshot.interfaces[name]? := by
  cases reply with
  | error reason => rfl
  | ok properties => exact Named.getElem?_insert

/-- An interface is what the service answered for it, if it answered. -/
theorem getElem?_renewAll
    (distinct : replies.Pairwise fun left right => left.1 ≠ right.1) :
    (snapshot.renewAll replies).interfaces[name]? =
      match answer? replies name with
      | some properties => some (resolvedSlots properties.plain)
      | none => snapshot.interfaces[name]? := by
  induction replies generalizing snapshot with
  | nil => rfl
  | cons first replies induction =>
      obtain ⟨interface, reply⟩ := first
      obtain ⟨apart, rest⟩ := List.pairwise_cons.mp distinct
      have step : snapshot.renewAll ((interface, reply) :: replies) =
          (snapshot.renew interface reply).renewAll replies := rfl
      rw [step, induction rest, getElem?_renew, answer?, answer?]
      by_cases here : name = interface
      · subst name
        have once : replies.lookup interface = none := by
          rw [List.lookup_eq_none_iff]
          intro later member
          simpa using apart later member
        cases reply <;> simp [once, Except.toOption]
      · have test : (name == interface) = false := by simpa using here
        cases reply <;> simp [List.lookup_cons, test, Ne.symm here]

/-- What becomes of a device when interfaces are announced and the service gives
these replies for interfaces that were known: each interface has the best of
three sources. -/
structure Merged (config : Config) (announced : Interfaces)
    (replies : List (String × Except ServiceError Properties))
    (before after : Snapshot) :
    Prop where
  names : ∀ name, after.hasInterface name = true ↔
    before.hasInterface name = true ∨ name ∈ announced ∧
      config.admitsInterface name = true
  answered : ∀ name properties, answer? replies name = some properties →
    after.interfaces[name]? = some (resolvedSlots properties.plain)
  unanswered : ∀ name properties, answer? replies name = none →
    config.admitsInterface name = true → announced[name]? = some properties →
      after.interfaces[name]? = some (resolvedSlots properties.plain)
  kept : ∀ name, answer? replies name = none →
    ¬(name ∈ announced ∧ config.admitsInterface name = true) →
      after.interfaces[name]? = before.interfaces[name]?

/-- The replies are for interfaces that were known, so they bring no other
names. -/
theorem merged_renewAll
    (distinct : replies.Pairwise fun left right => left.1 ≠ right.1)
    (known : ∀ reply ∈ replies, snapshot.hasInterface reply.1 = true) :
    Merged config announced replies snapshot
      ((snapshot.announce config announced).renewAll replies) where
  names name := by
    rw [hasInterface_iff, getElem?_renewAll distinct]
    split
    · next properties answer =>
        obtain ⟨reply, found, -⟩ := Option.bind_eq_some_iff.mp answer
        have there := known _ (Named.mem_of_lookup_eq_some found)
        simp [there]
    · rw [← hasInterface_iff, hasInterface_announce_iff]
  answered name properties answer := by
    rw [getElem?_renewAll distinct, answer]
  unanswered name properties silent admits found := by
    rw [getElem?_renewAll distinct, silent]
    dsimp only
    rw [getElem?_announce, if_pos admits, found]
  kept name silent foreign := by
    rw [getElem?_renewAll distinct, silent]
    dsimp only
    rw [getElem?_announce]
    split
    · next properties taken =>
        obtain ⟨admits, found⟩ := Option.ite_none_right_eq_some.mp taken
        have member : name ∈ announced := by
          rw [Std.ExtTreeMap.mem_iff_isSome_getElem?, found]
          rfl
        exact (foreign ⟨member, admits⟩).elim
    · rfl

end Snapshot

namespace Cache

variable {σ : Type} {udi : String} {service final : σ}

section Inserted

variable {devices : Named Snapshot} {inflight : List PropertyKey}
  {snapshot : Snapshot}

theorem content_insert :
    content ⟨service, devices.insert udi snapshot, inflight⟩ udi =
      snapshot := by
  rw [content, Named.getElem?_insert, if_pos rfl, Option.getD_some]

theorem onDevice_insert (change : Snapshot → Snapshot) :
    onDevice udi change ⟨service, devices.insert udi snapshot, inflight⟩ =
      ⟨service, devices.insert udi (change snapshot), inflight⟩ := by
  rw [onDevice, mk.injEq]
  refine ⟨rfl, ?_, rfl⟩
  apply Std.ExtTreeMap.ext_getElem?
  intro other
  rw [Std.ExtTreeMap.getElem?_modify]
  by_cases same : udi = other <;> simp [Named.getElem?_insert, same]

end Inserted

variable [Service σ] {settings : CacheSettings σ}
  {replies : List (Except ServiceError Properties)}

theorem start_refetches {names : List String} (devices : Named Snapshot)
    (inflight : List PropertyKey) (snapshot : Snapshot)
    (answered : (names.mapM (Service.getAll udi)).start service =
      (.ok replies, final)) :
    (names.forM (refetch udi)).start
      ⟨service, devices.insert udi snapshot, inflight⟩ =
      (.ok ⟨⟩, ⟨final, devices.insert udi
        (snapshot.renewAll (names.zip replies)), inflight⟩) := by
  -- the snapshot is what the questions before have made of the device
  induction names generalizing service snapshot replies with
  | nil =>
      cases answered
      rfl
  | cons name names induction =>
      obtain ⟨reply, middle, later, first, others, rfl⟩ :=
        Run.start_mapM_cons_eq_ok_iff.mp answered
      have renewed : (refetch udi name).start
          (⟨service, devices.insert udi snapshot, inflight⟩ : Cache σ) =
            (.ok (), ⟨middle, devices.insert udi (snapshot.renew name reply),
                inflight⟩) := by
        apply Run.Yields.start_eq
        rw [refetch, Run.yields_bind, call, Run.yields_zoom, Run.Yields, first]
        cases reply with
        | error reason => exact ⟨rfl, rfl⟩
        | ok properties => exact ⟨rfl, onDevice_insert _⟩
      change ((refetch udi name >>= fun _ => names.forM (refetch udi)).start
        _) = _
      rw [Run.start_bind, renewed]
      exact induction (snapshot.renew name reply) others

/-- If none of the questions crashes, the handling of an announcement
returns. -/
theorem start_absorbAdded {cache : Cache σ} (named : udi ≠ "")
    (kept : settings.config.leavesOut udi = false) (interfaces : Interfaces)
    (answered : ((settings.config.stale (cache.content udi)).mapM
      (Service.getAll udi)).start cache.service = (.ok replies, final)) :
    ∃ events, (absorb settings (.interfacesAdded udi interfaces)).start cache =
      (.ok events, ⟨final, cache.devices.insert udi
        (((cache.content udi).announce settings.config interfaces).renewAll
          ((settings.config.stale (cache.content udi)).zip replies)),
            cache.inflight⟩) := by
  have taken : ¬(udi = "" ∨ settings.config.leavesOut udi = true) := by
    simp [named, kept]
  refine ⟨if !cache.tracks udi ||
      interfaces.contains settings.config.readinessInterface then
    [.added udi] else [], Run.Yields.start_eq ?_⟩
  have refetched := start_refetches cache.devices cache.inflight
    ((cache.content udi).announce settings.config interfaces) answered
  unfold Config.stale content at refetched ⊢
  rw [absorb, absorbAdded]
  dsimp only
  rw [if_neg taken, Run.yields_bind, Run.yields_get, Run.yields_bind,
    Run.yields_modify, Run.yields_bind, Run.Yields, refetched]
  exact ⟨rfl, rfl⟩

/-- The service replies for each interface that was known, and for no other. -/
theorem merged_of_replies {config : Config} {known : Snapshot}
    (interfaces : Interfaces)
    (answered : ((config.stale known).mapM (Service.getAll udi)).start service =
      (.ok replies, final)) :
    Snapshot.Merged config interfaces ((config.stale known).zip replies) known
      ((known.announce config interfaces).renewAll
        ((config.stale known).zip replies)) := by
  have ordered := config.pairwise_stale known
  refine Snapshot.merged_renewAll ?distinct ?known
  case distinct =>
    have names := List.map_fst_zip
      (Nat.le_of_eq (Run.length_of_start_mapM answered).symm)
    rw [← names, List.pairwise_map] at ordered
    exact ordered.imp fun less same => by simp [same] at less
  case known =>
    intro reply member
    exact (Config.mem_stale_iff.mp (List.of_mem_zip member).1).1

/-- What a cache does with an announcement to which the service gives these
replies. -/
structure TakesIn (config : Config) (udi : String) (interfaces : Interfaces)
    (replies : List (Except ServiceError Properties))
    (before after : Cache (Traced σ)) :
    Prop where
  tracked : after.tracks udi = true
  merged : Snapshot.Merged config interfaces
    ((config.stale (before.content udi)).zip replies) (before.content udi)
      (after.content udi)
  asked : after.service.calls =
    before.service.calls ++ (config.stale (before.content udi)).map
      (.getAll udi)
  untouched : ∀ other : String, other ≠ udi → after.devices[other]? =
    before.devices[other]?
  claims : after.inflight = before.inflight

/-- Interfaces are announced of an identifier, tracked or not, and the service
answers the questions that are put to it, each with properties or with an error
of its own. The interfaces that were known, but for the baseline, are asked for
once each, in name order, and nothing else is. Each interface of the device then
has what was answered for it; without an answer, what was announced of it in the
namespace; without this, what was cached. -/
theorem takesIn_absorbAdded {settings : CacheSettings (Traced σ)}
    {cache : Cache (Traced σ)} (named : udi ≠ "")
    (kept : settings.config.leavesOut udi = false) (interfaces : Interfaces)
    (answered : ((settings.config.stale (cache.content udi)).mapM
      (Service.getAll udi)).start cache.service.service =
      (.ok replies, final)) :
    (settings.config.stale (cache.content udi)).Pairwise
        (fun left right => compare left right = .lt) ∧
      (∀ name, name ∈ settings.config.stale (cache.content udi) ↔
        cache.hasInterface udi name = true ∧
          name ≠ settings.config.baselineInterface) ∧
      ∃ events left, (absorb settings (.interfacesAdded udi interfaces)).start
        cache = (.ok events, left) ∧
        TakesIn settings.config udi interfaces replies cache left := by
  have ordered := settings.config.pairwise_stale (cache.content udi)
  have members (name : String) :
      name ∈ settings.config.stale (cache.content udi) ↔
        cache.hasInterface udi name = true ∧
          name ≠ settings.config.baselineInterface := by
    rw [Config.mem_stale_iff, hasInterface_eq_content]
  obtain ⟨events, handled⟩ := start_absorbAdded named kept interfaces
    (Traced.start_mapM_getAll answered cache.service.calls)
  refine ⟨ordered, members, events, _, handled, ?_⟩
  constructor
  case tracked => simp [tracks_iff]
  case merged =>
    rw [content_insert]
    exact merged_of_replies interfaces answered
  case asked => rfl
  case untouched =>
    intro other apart
    rw [Named.getElem?_insert, if_neg (Ne.symm apart)]
  case claims => rfl

def partitionUdi : String := "/s/b/sdb1"

/-- A partition with a file system that has a new label, which the service gives
as a text that ends with a zero. The service does not say what it knows of the
partition. -/
def relabelled : Traced MemoryService where
  service := {
    objects := Std.ExtTreeMap.ofList [(partitionUdi, Std.ExtTreeMap.ofList [
      ("s.Block", ∅),
      ("s.Filesystem", Std.ExtTreeMap.ofList
        [("Label", Value.bytes [110, 101, 119, 0])]),
      ("s.Partition", ∅)])]
    failingInterfaces := ["s.Partition"] }

def labelled : Snapshot :=
  Snapshot.ofInterfaces (Std.ExtTreeMap.ofList [
    ("s.Block", ∅),
    ("s.Filesystem", Std.ExtTreeMap.ofList [("Label", Value.text "old")]),
    ("s.Partition", Std.ExtTreeMap.ofList [("Number", Value.uint 1)])])

def announcement : Interfaces :=
  Std.ExtTreeMap.ofList [
    ("bus.Properties", ∅),
    ("s.Filesystem", ∅),
    ("s.PartitionTable",
      Std.ExtTreeMap.ofList [("Type", Value.bytes [100, 111, 115, 0])])]

def fixedMedia : CacheSettings (Traced MemoryService) :=
  ⟨.compact, fun _ _ _ => return false⟩

def shelf : Cache (Traced MemoryService) where
  service := relabelled
  devices := Std.ExtTreeMap.ofList [(partitionUdi, labelled)]

/-- The label is what the service answers, the partition stays as it was, the
table of partitions is as announced, both without their zeros, and what lies
outside the namespace is not taken. -/
theorem takesIn_absorbAdded_relabelled :
    ∃ events left,
      (absorb fixedMedia (.interfacesAdded partitionUdi announcement)).start
      shelf =
        (.ok events, left) ∧
      left.service.calls = [.getAll partitionUdi "s.Filesystem",
        .getAll partitionUdi "s.Partition"] ∧
      (left.content partitionUdi).slot? "s.Filesystem" "Label" =
        some (.resolved (.text "new")) ∧
      (left.content partitionUdi).slot? "s.Partition" "Number" =
        some (.resolved (.uint 1)) ∧
      (left.content partitionUdi).slot? "s.PartitionTable" "Type" =
        some (.resolved (.text "dos")) ∧
      ¬(left.content partitionUdi).hasInterface "bus.Properties" = true := by
  have answered : ((Config.compact.stale (shelf.content partitionUdi)).mapM
      (Service.getAll partitionUdi)).start shelf.service.service =
        (.ok [.ok (Std.ExtTreeMap.ofList
          [("Label", Value.bytes [110, 101, 119, 0])]),
          .error (.transport "GetAll(s.Partition) failed")], _) := rfl
  obtain ⟨-, -, events, left, handled, takes⟩ := takesIn_absorbAdded
    (by decide) (show fixedMedia.config.leavesOut partitionUdi =
      false by decide) announcement answered
  have merged := takes.merged
  refine ⟨events, left, handled, takes.asked, ?_, ?_, ?_, ?_⟩
  · rw [Snapshot.slot?_eq_bind, merged.answered _ (Std.ExtTreeMap.ofList
      [("Label", Value.bytes [110, 101, 119, 0])]) rfl]
    rfl
  · rw [Snapshot.slot?_eq_bind, merged.kept _ rfl (by decide)]
    rfl
  · rw [Snapshot.slot?_eq_bind, merged.unanswered _ (Std.ExtTreeMap.ofList
      [("Type", Value.bytes [100, 111, 115, 0])]) rfl (by decide) rfl]
    rfl
  · rw [merged.names]
    decide

end Cache

end Hotplug
