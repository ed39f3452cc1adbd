import Hotplug.Proofs.Backend.Reading
import Hotplug.Proofs.Cache.Changes
import Hotplug.Proofs.Cache.Filters
import Hotplug.Proofs.Cache.Merging

/-!
# Mount points

A service tells the mount points of a device as a list of texts, or as one byte
string in which each of them ends in a zero byte. Such a byte string of a single
mount point becomes a text when it is cached, and any other is split when it is
used. Either way the device is mounted at the same path.
-/

namespace Hotplug

namespace Text

theorem utf8_eq_flatMap (text : String) :
    utf8 text = text.toList.flatMap String.utf8EncodeChar := by
  rw [utf8, ← String.utf8Encode_toList, List.utf8Encode, List.data_toByteArray,
    List.toList_toArray]

/-- Four bytes hold every character. -/
theorem leadingChar?_encoded (c : Char) (rest : List UInt8) :
    leadingChar? (String.utf8EncodeChar c ++ rest) = some c := by
  have room : (String.utf8EncodeChar c).length ≤ 4 := by
    rw [String.length_utf8EncodeChar]
    exact c.utf8Size_le_four
  rw [leadingChar?, List.take_append, List.take_of_length_le room,
    List.toByteArray_append]
  exact ByteArray.utf8DecodeChar?_utf8EncodeChar_append

theorem decodeLossyChars_encoded (cs : List Char) :
    decodeLossyChars (cs.flatMap String.utf8EncodeChar) = cs := by
  induction cs with
  | nil => rw [List.flatMap_nil, decodeLossyChars]
  | cons c cs induction =>
      rw [List.flatMap_cons]
      obtain ⟨byte, bytes, encoded⟩ :=
        List.exists_cons_of_ne_nil (String.utf8EncodeChar_ne_nil (c := c))
      have length : bytes.length = c.utf8Size - 1 := by
        rw [← String.length_utf8EncodeChar, encoded, List.length_cons,
          Nat.add_sub_cancel]
      have leading := leadingChar?_encoded c (cs.flatMap String.utf8EncodeChar)
      rw [encoded, List.cons_append] at leading ⊢
      rw [decodeLossyChars, leading]
      dsimp only
      rw [← length, List.drop_left, induction]

/-- Bytes that are valid lose nothing. -/
theorem decodeLossy_utf8 (text : String) : decodeLossy (utf8 text) = text := by
  rw [decodeLossy, utf8_eq_flatMap, decodeLossyChars_encoded,
    String.ofList_toList]

theorem zero_notMem_utf8EncodeChar {c : Char} (nonzero : c ≠ '\x00') :
    0 ∉ String.utf8EncodeChar c := by
  have positive : c.val.toNat ≠ 0 :=
    fun zero => nonzero (Char.ext (UInt32.toNat_inj.mp zero))
  have apart (n : Nat) (low : n % 256 ≠ 0) : (0 : UInt8) ≠ UInt8.ofNat n := by
    intro same
    exact low (by simpa using (congrArg UInt8.toNat same).symm)
  -- a byte of a longer code has its highest bit set
  unfold String.utf8EncodeChar
  dsimp only
  split
  · simp only [List.mem_singleton]
    exact apart _ (by omega)
  · split
    · simp only [List.mem_cons, List.not_mem_nil, or_false, not_or]
      exact ⟨apart _ (by omega), apart _ (by omega)⟩
    · split
      · simp only [List.mem_cons, List.not_mem_nil, or_false, not_or]
        exact ⟨apart _ (by omega), apart _ (by omega), apart _ (by omega)⟩
      · simp only [List.mem_cons, List.not_mem_nil, or_false, not_or]
        exact ⟨apart _ (by omega), apart _ (by omega), apart _ (by omega),
          apart _ (by omega)⟩

theorem zero_notMem_utf8 {text : String} (nonzero : '\x00' ∉ text.toList) :
    0 ∉ utf8 text := by
  rw [utf8_eq_flatMap]
  intro member
  obtain ⟨c, member, zero⟩ := List.mem_flatMap.mp member
  exact zero_notMem_utf8EncodeChar (fun same => nonzero (same ▸ member)) zero

theorem utf8_eq_nil_iff {text : String} : utf8 text = [] ↔ text = "" := by
  rw [utf8_eq_flatMap, List.flatMap_eq_nil_iff]
  constructor
  · intro none
    have empty : text.toList = [] := List.eq_nil_iff_forall_not_mem.mpr
        fun c member => String.utf8EncodeChar_ne_nil (none c member)
    exact String.toList_eq_nil_iff.mp empty
  · rintro rfl
    simp

/-- The texts one after the other, each with a zero byte at its end. -/
def terminated (texts : List String) : List UInt8 :=
  texts.flatMap fun text => utf8 text ++ [0]

end Text

namespace ServiceBackend

/-- Texts that are not empty and have no zero in them are found again. -/
theorem splitAtZeros_terminated {texts : List String}
    (proper : ∀ text ∈ texts, text ≠ "" ∧ 0 ∉ Text.utf8 text) :
    splitAtZeros (Text.terminated texts) = texts := by
  have split : (Text.terminated texts).splitOn 0 =
      texts.map Text.utf8 ++ [[]] := by
    induction texts with
    | nil => rfl
    | cons text texts induction =>
        obtain ⟨here, later⟩ := List.forall_mem_cons.mp proper
        rw [Text.terminated, List.flatMap_cons, List.append_assoc,
          List.singleton_append,
          List.splitOn_append_cons_self_of_not_mem here.2]
        rw [← Text.terminated, induction later]
        rfl
  have filled : (texts.map Text.utf8).filter (fun chunk => !chunk.isEmpty) =
      texts.map Text.utf8 := by
    refine List.filter_eq_self.mpr fun chunk member => ?_
    obtain ⟨text, here, rfl⟩ := List.mem_map.mp member
    have nonempty : Text.utf8 text ≠ [] := fun none =>
      (proper text here).1 (Text.utf8_eq_nil_iff.mp none)
    simpa using nonempty
  have decoded : Text.decodeLossy ∘ Text.utf8 = id :=
    funext Text.decodeLossy_utf8
  rw [splitAtZeros, split, List.filter_append, filled, List.map_append,
    List.map_map, decoded, List.map_id]
  exact List.append_nil _

/-- How many texts there are decides what is cached of them: a single one as a
text, and any other number as they were sent. It makes no difference to what
they say. -/
theorem mountPointsIn_plain {texts : List String} {value : Value}
    (proper : ∀ text ∈ texts, text ≠ "" ∧ 0 ∉ Text.utf8 text)
    (sent : value = .texts texts ∨ value = .bytes (Text.terminated texts)) :
    mountPointsIn value.plain = some texts := by
  rcases sent with rfl | rfl
  · rfl
  · rcases found : Value.terminatedText? (Text.terminated texts) with _ | text
    · rw [Value.plain, found]
      exact congrArg some (splitAtZeros_terminated proper)
    · obtain ⟨once, same⟩ := Value.terminatedText?_eq_some_iff.mp found
      have single : Text.terminated [text] = Text.terminated texts := by
        rw [same]
        simp [Text.terminated]
      have whole := splitAtZeros_terminated proper
      rw [Value.plain, found]
      by_cases empty : text = ""
      · -- a lone zero byte tells an empty text, and there is none
        have nothing : splitAtZeros (Text.terminated [""]) = [] := by decide
        rw [← empty, single, whole] at nothing
        rw [nothing] at same
        exact absurd same (by simp [Text.terminated])
      · have alone : splitAtZeros (Text.terminated [text]) = [text] :=
          splitAtZeros_terminated (by simpa using ⟨empty, once⟩)
        rw [single, whole] at alone
        rw [alone]
        rfl

end ServiceBackend

namespace PropertyKey

/-- The value of the property in its device. -/
def valueIn? (key : PropertyKey) (interfaces : Interfaces) : Option Value :=
  interfaces[key.interface]?.bind (·[key.property]?)

end PropertyKey

namespace Cache

variable {σ : Type} [Service σ] {settings : CacheSettings σ}
  {before after cache : Cache σ} {key : PropertyKey} {value : Value}
  {reach : Reach}

section Receiving

/-- The ways in which a value that the service has for a property gets into a
cache. -/
inductive Receives (settings : CacheSettings σ) (key : PropertyKey)
    (value : Value) (before : Cache σ) :
    Cache σ → Prop where
  /-- The cache is loaded, and the service lists the value. -/
  | loaded {objects : Objects} {interfaces : Interfaces} {service : σ}
      (answered : Service.managedObjects.start before.service =
        (.ok (.ok objects), service))
      (listed : listed? settings.config objects key.udi = some interfaces)
      (told : key.valueIn? interfaces = some value) :
      Receives settings key value before ((reload settings).start before).2
  /-- The interface is announced, and the service does not answer for it. -/
  | announced {interfaces : Interfaces}
    {replies : List (Except ServiceError Properties)}
      {service : σ} (named : key.udi ≠ "")
        (kept : settings.config.leavesOut key.udi = false)
      (answered : ((settings.config.stale (before.content key.udi)).mapM
        (Service.getAll key.udi)).start before.service = (.ok replies, service))
      (silent : Snapshot.answer?
        ((settings.config.stale (before.content key.udi)).zip replies)
        key.interface = none)
      (admits : settings.config.admitsInterface key.interface = true)
      (told : key.valueIn? interfaces = some value) :
      Receives settings key value before
        ((absorb settings (.interfacesAdded key.udi interfaces)).start before).2
  /-- Interfaces are announced, and the service answers for this one. -/
  | renewed {interfaces : Interfaces}
    {replies : List (Except ServiceError Properties)}
      {service : σ} {properties : Properties} (named : key.udi ≠ "")
      (kept : settings.config.leavesOut key.udi = false)
      (answered : ((settings.config.stale (before.content key.udi)).mapM
        (Service.getAll key.udi)).start before.service = (.ok replies, service))
      (renews : Snapshot.answer?
        ((settings.config.stale (before.content key.udi)).zip replies)
        key.interface = some properties)
      (told : properties[key.property]? = some value) :
      Receives settings key value before
        ((absorb settings (.interfacesAdded key.udi interfaces)).start before).2
  /-- The property is said to have changed, and the device is there. -/
  | changed {changed : Properties} {invalidated : List String}
      (heeds : Heeds settings.config key.udi)
        (told : changed[key.property]? = some value)
      (tracked :
        ((absorb settings (.propertiesChanged key.udi key.interface changed
        invalidated)).start before).2.tracks key.udi = true) :
      Receives settings key value before
        ((absorb settings (.propertiesChanged key.udi key.interface changed
          invalidated)).start before).2
  /-- The property is fetched. -/
  | fetched {service : σ} (free : before.glance key .fetched = .free)
      (answered : (Service.getProperty key).start before.service =
        (.ok (.ok value), service)) :
      Receives settings key value before ((read key .fetched).start before).2

omit [Service σ] in
theorem slot?_of_content {properties : Properties}
    (content : (cache.content key.udi).interfaces[key.interface]? =
      some (Snapshot.resolvedSlots properties.plain))
    (told : properties[key.property]? = some value) :
    cache.slot? key = some (.resolved value.plain) := by
  rw [slot?_eq_content, Snapshot.slot?_eq_bind, content, Option.bind_some,
    Snapshot.getElem?_resolvedSlots, Properties.getElem?_plain, told]
  rfl

theorem slot?_of_changed {changed : Properties} {invalidated : List String}
    (heeds : Heeds settings.config key.udi)
    (told : changed[key.property]? = some value)
    (tracked :
      ((absorb settings (.propertiesChanged key.udi key.interface changed
        invalidated)).start before).2.tracks key.udi = true) :
    ((absorb settings (.propertiesChanged key.udi key.interface changed
      invalidated)).start before).2.slot? key =
        some (.resolved value.plain) := by
  have yields :
    (absorb settings (.propertiesChanged key.udi key.interface changed
      invalidated)).Yields before
        (fun _ left => left.tracks key.udi = true → left.slot? key =
          some (.resolved value.plain))
        fun left => left.tracks key.udi = true →
          left.slot? key = some (.resolved value.plain) := by
    cases already : before.tracks key.udi with
    | true =>
        refine (yields_absorbChanged_updated heeds already key.interface changed
          invalidated).mono ?_ ?_
        · rintro events left ⟨ejected, stays⟩ tracked
          by_cases ejects : Ejects settings before key.udi key.interface
            changed invalidated
          · obtain ⟨_, _, _, dismissed, _⟩ := ejected ejects
            rw [dismissed.untracked] at tracked
            cases tracked
          · exact (stays ejects).2.resolved _ _ told
        · exact fun left updated _ => updated.resolved _ _ told
    | false =>
        have foreign {left : Cache σ} (same : left.devices = before.devices)
            (tracked : left.tracks key.udi = true) :
            left.slot? key = some (.resolved value.plain) := by
          rw [tracks, same, ← tracks, already] at tracked
          cases tracked
        refine (yields_absorbChanged_inserted heeds already
          key.interface changed invalidated).mono ?_ ?_
        · rintro events left ⟨inserted, rests⟩ tracked
          by_cases inserts : Inserts settings before key.udi
            key.interface changed
          · exact ((inserted inserts).2.slots key.property).trans
              (by rw [told]; rfl)
          · exact foreign (rests inserts).2.1 tracked
        · exact fun left same => foreign same.1
  exact yields.left tracked

theorem Receives.slot? (receives : Receives settings key value before after) :
    after.slot? key = some (.resolved value.plain) := by
  cases receives with
  | @loaded objects interfaces service answered listed told =>
      obtain ⟨properties, held, told⟩ := Option.bind_eq_some_iff.mp told
      have ran : (reload settings).start before =
        (.ok (admitted settings.config objects).keys,
          { before with
              service := service, devices :=
              admitted settings.config objects }) := by
        apply Run.Yields.start_eq
        simp only [reload, call, Run.yields_bind, Run.yields_zoom]
        rw [Run.Yields, answered]
        exact ⟨rfl, rfl⟩
      rw [ran]
      refine slot?_of_content ?_ told
      rw [content, getElem?_admitted, listed]
      simp [Snapshot.ofInterfaces, Interfaces.plain, held]
  | @announced interfaces replies service named kept answered
      silent admits told =>
      obtain ⟨properties, held, told⟩ := Option.bind_eq_some_iff.mp told
      obtain ⟨events, handled⟩ :=
        start_absorbAdded named kept interfaces answered
      rw [handled]
      refine slot?_of_content ?_ told
      rw [content_insert]
      exact (merged_of_replies interfaces answered).unanswered _
        _ silent admits held
  | @renewed interfaces replies service properties named kept
      answered renews told =>
      obtain ⟨events, handled⟩ :=
        start_absorbAdded named kept interfaces answered
      rw [handled]
      refine slot?_of_content ?_ told
      rw [content_insert]
      exact (merged_of_replies interfaces answered).answered _ _ renews
  | @changed changed invalidated heeds told tracked =>
      exact slot?_of_changed heeds told tracked
  | @fetched service free answered =>
      rw [start_read_of_free free answered]
      exact slot?_kept _ _ (hasInterface_of_free free)

end Receiving

section Unreported

/-- There is no value for the property, neither in the cache nor from the
service. -/
structure Unreported (key : PropertyKey) (cache : Cache σ) : Prop where
  unknown : ∀ value, cache.slot? key ≠ some (.resolved value)
  refused : cache.glance key .fetched = .free → ∃ error service,
    (Service.getProperty key).start cache.service =
      (.ok (.error error), service)

theorem Unreported.exists_start_read (unreported : Unreported key cache)
    (reach : Reach) :
    ∃ left, (read key reach).start cache = (.ok none, left) ∧
      (∀ other, other ≠ key → left.slot? other = cache.slot? other) ∧
      ∀ udi interface, left.hasInterface udi interface =
        cache.hasInterface udi interface := by
  cases glanced : cache.glance key reach with
  | settled answer =>
      have nothing : answer = none := by
        rw [glance_eq] at glanced
        split at glanced
        · next value found => exact (unreported.unknown value found).elim
        · cases glanced
          rfl
        · grind
      rw [start_read_of_settled glanced, nothing]
      exact ⟨cache, rfl, fun _ _ => rfl, fun _ _ => rfl⟩
  | busy =>
      have ran : (read key reach).start cache = (.ok none, cache) := by
        apply Run.Yields.start_eq
        rw [read, Run.yields_bind, Run.yields_get, glanced]
        exact ⟨rfl, rfl⟩
      exact ⟨cache, ran, fun _ _ => rfl, fun _ _ => rfl⟩
  | free =>
      cases reach with
      | known =>
          obtain ⟨answer, settled⟩ := exists_glance_known cache key
          rw [settled] at glanced
          cases glanced
      | fetched =>
          obtain ⟨error, service, answered⟩ := unreported.refused glanced
          refine ⟨_, start_read_of_free glanced answered,
            ?_, fun udi interface => ?_⟩
          · intro other apart
            have others : (kept key cache (.error error) service).slot? other =
              _ := slot?_storeSlot
            exact others.trans (if_neg fun same => apart same.1.symm)
          · exact hasInterface_storeSlot

end Unreported

end Cache

theorem Config.mem_interfacesOf_iff {config : Config} {capability : Capability}
    {interface : String} :
    interface ∈ config.interfacesOf capability ↔ config.meaning? interface =
      some capability := by
  simp [interfacesOf, meaning?, Std.ExtTreeMap.mem_toList_iff_getElem?_eq_some]

theorem Config.nodup_interfacesOf (config : Config) (capability : Capability) :
    (config.interfacesOf capability).Nodup :=
  List.pairwise_map.mpr (config.meanings.distinct_toList.filter _)

namespace ServiceBackend

variable {σ : Type} [Service σ] {backend : ServiceBackend σ}
  {udi interface name : String} {capability : Capability} {reach : Reach}
  {answer : Option Value}

/-- Of the interfaces that mean a capability the device has this one alone. -/
structure Alone (backend : ServiceBackend σ) (udi : String)
    (capability : Capability) (interface : String) :
    Prop where
  means : backend.config.meaning? interface = some capability
  has : backend.cache.hasInterface udi interface = true
  only : ∀ other, backend.config.meaning? other = some capability →
    backend.cache.hasInterface udi other = true → other = interface

theorem start_firstRead_of_only {interfaces : List String} {left : Cache σ}
    (distinct : interfaces.Nodup) (member : interface ∈ interfaces)
    (has : backend.cache.hasInterface udi interface = true)
    (only : ∀ other ∈ interfaces, backend.cache.hasInterface udi other = true →
      other = interface)
    (ran : (Cache.read ⟨udi, interface, name⟩ reach).start backend.cache =
      (.ok answer, left))
    (same : ∀ other, left.hasInterface udi other =
      backend.cache.hasInterface udi other) :
    (firstRead udi name reach interfaces).start backend =
      (.ok answer, { backend with cache := left }) := by
  apply Run.Yields.start_eq
  induction interfaces with
  | nil => cases member
  | cons first rest induction =>
      obtain ⟨fresh, distinct⟩ := List.nodup_cons.mp distinct
      rw [firstRead, Run.yields_bind, Run.yields_get]
      by_cases here : first = interface
      · subst first
        rw [if_pos has, Run.yields_bind, yields_onCache, Run.Yields, ran]
        cases answer with
        | some value => exact ⟨rfl, rfl⟩
        | none =>
            apply yields_firstRead_of_lacks
            intro other later
            refine Bool.eq_false_iff.mpr fun carried => fresh ?_
            rw [← only other (List.mem_cons_of_mem _ later)
              ((same other).symm.trans carried)]
            exact later
      · rw [if_neg fun carried => here (only first List.mem_cons_self carried)]
        apply induction distinct
        · exact (List.mem_cons.mp member).resolve_left (Ne.symm here)
        · exact fun other later => only other (List.mem_cons_of_mem _ later)

theorem Alone.start_capabilityProperty
    (alone : backend.Alone udi capability interface) {left : Cache σ}
    (ran : (Cache.read ⟨udi, interface, name⟩ reach).start backend.cache =
      (.ok answer, left))
    (same : ∀ other, left.hasInterface udi other =
      backend.cache.hasInterface udi other) :
    (capabilityProperty udi capability name reach).start backend =
      (.ok answer, { backend with cache := left }) := by
  rw [capabilityProperty, Run.start_bind, Run.start_get]
  apply start_firstRead_of_only (Config.nodup_interfacesOf _ _)
    (Config.mem_interfacesOf_iff.mpr alone.means) alone.has ?_ ran same
  intro other member
  exact alone.only other (Config.mem_interfacesOf_iff.mp member)

omit [Service σ] in
theorem Alone.congr (alone : backend.Alone udi capability interface)
    {left : Cache σ}
    (same : ∀ other, left.hasInterface udi other =
      backend.cache.hasInterface udi other) : ({ backend with cache :=
  left } : ServiceBackend σ).Alone udi capability interface where
  means := alone.means
  has := (same interface).trans alone.has
  only other means carried :=
    alone.only other means ((same other).symm.trans carried)

section Mounted

variable {points : List String} {value : Value}

theorem Alone.start_mountPoints
    (alone : backend.Alone udi .storageAccess interface)
    (named : backend.config.mountPointsProperty = some name)
    (held : backend.cache.slot? ⟨udi, interface, name⟩ = some (.resolved value))
    (read : mountPointsIn value = some points)
    (proper : ∀ point ∈ points, point ≠ "") (reach : Reach) :
    (mountPoints udi reach).start backend = (.ok (some points), backend) := by
  have asked : (capabilityProperty udi .storageAccess name reach).start
    backend = (.ok (some value), backend) :=
    alone.start_capabilityProperty
      (Cache.start_read_of_settled (Cache.glance_of_known held rfl))
        fun _ => rfl
  have filled : points.filter (· != "") = points :=
    List.filter_eq_self.mpr fun point member => by
      simpa using proper point member
  rw [mountPoints, Run.start_bind, Run.start_get]
  simp only [named]
  rw [Run.start_bind, asked]
  dsimp only
  rw [Option.bind_some, read, Option.map_some, filled]
  rfl

theorem start_derivedProperty_path
    (mounted : (mountPoints udi reach).start backend =
      (.ok (some points), backend)) :
    (derivedProperty udi StorageView.mountPathProperty reach).start backend =
      (.ok (some (.text (points.head?.getD ""))), backend) := by
  rw [derivedProperty, if_pos rfl, Run.start_bind, mounted]
  rfl

theorem start_derivedProperty_accessible
    (mounted : (mountPoints udi reach).start backend =
      (.ok (some points), backend)) :
    (derivedProperty udi StorageView.accessibleProperty reach).start backend =
      (.ok (some (.bool (!points.isEmpty))), backend) := by
  rw [derivedProperty, if_neg (by decide), if_pos rfl, Run.start_bind, mounted]
  rfl

/-- A property that is not reported is derived, from the same mount points as
before. -/
theorem Alone.exists_start_property
    (alone : backend.Alone udi .storageAccess interface) {direct : String}
    (unreported : Cache.Unreported ⟨udi, interface, direct⟩ backend.cache)
    (held : backend.cache.slot? ⟨udi, interface, name⟩ = some (.resolved value))
    (mounts : ∀ left : ServiceBackend σ, left.settings = backend.settings →
      left.Alone udi .storageAccess interface →
      left.cache.slot? ⟨udi, interface, name⟩ = some (.resolved value) →
      (derivedProperty udi direct reach).start left = (.ok answer, left)) :
    ∃ left, (property udi .storageAccess direct reach).start backend =
      (.ok answer, left) := by
  obtain ⟨left, ran, others, same⟩ := unreported.exists_start_read reach
  have apart :
      (⟨udi, interface, name⟩ : PropertyKey) ≠ ⟨udi, interface, direct⟩ := by
    intro equal
    exact unreported.unknown value (equal ▸ held)
  refine ⟨{ backend with cache := left }, ?_⟩
  rw [property, if_neg (by decide), Run.start_bind,
    alone.start_capabilityProperty ran (same udi)]
  exact mounts _ rfl (alone.congr (same udi)) ((others _ apart).trans held)

/-- A device with one interface for storage access, whose service tells neither
where it is mounted nor whether it is accessible, but has mount points for it.
They got into the cache in whatever way, as a list or each with a zero byte at
its end, and were kept. Then the device is mounted at the first of them, or
nowhere if there is none, and it is accessible if there is one: exactly if it is
mounted somewhere. -/
theorem exists_start_property_mounted {before after : Cache σ}
    (alone : backend.Alone udi .storageAccess interface)
    (named : backend.config.mountPointsProperty = some name)
    (proper : ∀ point ∈ points, point ≠ "" ∧ '\x00' ∉ point.toList)
    (sent : value = .texts points ∨ value = .bytes (Text.terminated points))
    (received : Cache.Receives backend.settings ⟨udi, interface, name⟩
      value before after)
    (kept : backend.cache.slot? ⟨udi, interface, name⟩ =
      after.slot? ⟨udi, interface, name⟩)
    (pathless : Cache.Unreported ⟨udi, interface, StorageView.mountPathProperty⟩
      backend.cache)
    (flagless : Cache.Unreported ⟨udi, interface,
      StorageView.accessibleProperty⟩ backend.cache)
    (reach : Reach) :
    ∃ path accessible atPath atFlag,
      (property udi .storageAccess StorageView.mountPathProperty reach).start
        backend = (.ok (some (.text path)), atPath) ∧
      (property udi .storageAccess StorageView.accessibleProperty reach).start
        backend = (.ok (some (.bool accessible)), atFlag) ∧
      path = points.head?.getD "" ∧ (accessible = true ↔ points ≠ []) ∧
      (accessible = true ↔ path ≠ "") := by
  have held := kept.trans received.slot?
  have read : mountPointsIn value.plain = some points :=
    mountPointsIn_plain (fun point member => ⟨(proper point member).1,
      Text.zero_notMem_utf8 (proper point member).2⟩) sent
  have filled : ∀ point ∈ points, point ≠ "" :=
    fun point member => (proper point member).1
  obtain ⟨atPath, path⟩ := alone.exists_start_property pathless held
    fun left settings alone held => start_derivedProperty_path
      (alone.start_mountPoints (by rw [config, settings]; exact named)
        held read filled reach)
  obtain ⟨atFlag, flag⟩ := alone.exists_start_property flagless held
    fun left settings alone held => start_derivedProperty_accessible
      (alone.start_mountPoints (by rw [config, settings]; exact named)
        held read filled reach)
  refine ⟨_, _, atPath, atFlag, path, flag, rfl, by simp, ?_⟩
  cases points with
  | nil => simp
  | cons point rest => simpa using filled point List.mem_cons_self

end Mounted

section Twice

/-- A pen drive that is mounted at two places. -/
def twiceMounted : Interfaces :=
  Std.ExtTreeMap.ofList [("s.Filesystem", Std.ExtTreeMap.ofList
    [("MountPoints", Value.bytes
      (Text.terminated ["/media/usb", "/media/alt"]))])]

/-- A backend to which the pen drive was announced. -/
def announcedPen : ServiceBackend MemoryService where
  settings := .ofConfig .compact
  cache := ((Cache.absorb (.ofConfig .compact)
    (.interfacesAdded penUdi twiceMounted)).start { service := {} }).2

theorem unreported_announcedPen {direct : String}
    (missing : announcedPen.cache.slot? (penKey direct) = none) :
    Cache.Unreported (penKey direct) announcedPen.cache where
  unknown value found := by
    rw [missing] at found
    cases found
  refused _ := ⟨_, _, rfl⟩

theorem exists_start_property_mounted_announcedPen :
    ∃ atPath atFlag,
      (property penUdi .storageAccess "FilePath" .fetched).start announcedPen =
        (.ok (some (.text "/media/usb")), atPath) ∧
      (property penUdi .storageAccess "Accessible" .fetched).start
        announcedPen = (.ok (some (.bool true)), atFlag) := by
  have alone : announcedPen.Alone penUdi .storageAccess "s.Filesystem" := by
    have sole : announcedPen.config.interfacesOf .storageAccess =
        ["s.Filesystem"] := by decide +kernel
    refine ⟨by decide +kernel, by decide +kernel, fun other means _ => ?_⟩
    have member := Config.mem_interfacesOf_iff.mpr means
    rw [sole] at member
    exact List.mem_singleton.mp member
  have received : Cache.Receives announcedPen.settings (penKey "MountPoints")
      (.bytes (Text.terminated ["/media/usb", "/media/alt"])) { service := {} }
        announcedPen.cache :=
    .announced (by decide) (by decide) rfl rfl (by decide) rfl
  obtain ⟨path, accessible, atPath, atFlag, atPathGiven, flagGiven,
      rfl, mounted, -⟩ :=
    exists_start_property_mounted alone rfl (by decide) (.inr rfl) received rfl
      (unreported_announcedPen (by decide +kernel))
        (unreported_announcedPen (by decide +kernel))
      .fetched
  obtain rfl : accessible = true := mounted.mpr (by decide)
  exact ⟨atPath, atFlag, atPathGiven, flagGiven⟩

end Twice

end ServiceBackend

end Hotplug
