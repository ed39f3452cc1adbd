import Hotplug.Proofs.Cache.Composition
import Hotplug.Proofs.Numbers
import Hotplug.Service.Memory

/-!
# What a change of properties does

A change of a tracked device writes the slots that it names and no others, and
it is told of exactly these. A change of the baseline interface may also tell a
size. If the judge consents, a device without a size is dropped with its medium,
and an object with one becomes a device that has the baseline interface alone.
-/

namespace Hotplug

theorem getElem?_modifications (changed : Properties)
    (invalidated : List String) (name : String) :
    (modifications changed invalidated)[name]? =
      if name ∈ changed ∨ name ∈ invalidated then some .modified else none := by
  have filled (names : List String) (changes : Changes) :
      (names.foldl (fun changes name => changes.insert name .modified)
        changes)[name]? = if name ∈ names then some .modified
            else changes[name]? := by
    induction names generalizing changes with
    | nil => simp
    | cons first names induction =>
        rw [List.foldl_cons, induction, Named.getElem?_insert]
        grind
  rw [modifications, filled]
  simp [or_comm]

namespace Cache

variable {σ : Type} {settings : CacheSettings σ} {cache before after : Cache σ}
  {udi interface : String} {changed : Properties} {invalidated : List String}

/-- The slots that a change names hold what it says, and nothing else is
changed. -/
structure Updated (udi interface : String) (changed : Properties)
    (invalidated : List String) (before after : Cache σ) :
    Prop where
  tracked : after.tracks udi = true
  carries : ∀ other, after.hasInterface udi other = true ↔
    before.JoinedBy udi interface changed invalidated other
  resolved : ∀ name value, changed[name]? = some value →
    after.slot? ⟨udi, interface, name⟩ = some (.resolved value.plain)
  unresolved : ∀ name ∈ invalidated, name ∉ changed →
    after.slot? ⟨udi, interface, name⟩ = some .unresolved
  unnamed : ∀ name, name ∉ changed → name ∉ invalidated →
    after.slot? ⟨udi, interface, name⟩ = before.slot? ⟨udi, interface, name⟩
  elsewhere : ∀ other name, other ≠ interface →
    after.slot? ⟨udi, other, name⟩ = before.slot? ⟨udi, other, name⟩
  untouched : ∀ other : String, other ≠ udi → after.devices[other]? =
    before.devices[other]?
  claims : after.inflight = before.inflight

/-- A change is told of as soon as it names a property, and every property that
it names is told of. -/
structure Reports (udi : String) (changed : Properties)
    (invalidated : List String) (events : List DeviceEvent) :
    Prop where
  silent : ¬Touches changed invalidated → events = []
  told : Touches changed invalidated → ∃ changes,
    events = [.changed udi changes] ∧ ∀ name kind, changes[name]? = some kind ↔
      (name ∈ changed ∨ name ∈ invalidated) ∧ kind = .modified

/-- An object has become a device that has one interface, with these values. -/
structure Inserted (udi interface : String) (properties : Properties)
    (before after : Cache σ) :
    Prop where
  tracked : after.tracks udi = true
  carries : ∀ other, after.hasInterface udi other = true ↔ other = interface
  slots : ∀ name, after.slot? ⟨udi, interface, name⟩ =
    properties[name]?.map fun value => .resolved value.plain
  untouched : ∀ other : String, other ≠ udi → after.devices[other]? =
    before.devices[other]?
  claims : after.inflight = before.inflight

/-- A change tells a size that is zero or no number of things, and the device
may hold media. -/
def Ejects (settings : CacheSettings σ) (cache : Cache σ)
    (udi interface : String) (changed : Properties)
    (invalidated : List String) :
    Prop :=
  (∃ size, reportedSize? settings.config interface changed = some size ∧
      ∀ n, size.Counts n → n = 0) ∧
    verdict settings cache.service udi
      (some ((cache.content udi).applyChanges interface changed.plain
        invalidated)) = .ok true

/-- A change tells a size above zero, and the object may hold media. -/
def Inserts (settings : CacheSettings σ) (cache : Cache σ)
    (udi interface : String) (changed : Properties) :
    Prop :=
  (∃ size n, reportedSize? settings.config interface changed = some size ∧
    size.Counts n ∧ 0 < n) ∧
    verdict settings cache.service udi none = .ok true

theorem reportedSize?_plain (config : Config) (interface : String)
    (changed : Properties) :
    reportedSize? config interface changed.plain =
      (reportedSize? config interface changed).map Value.plain := by
  rw [reportedSize?, reportedSize?, Properties.getElem?_plain]
  split <;> rfl

theorem Updated.congr {left : Cache σ}
    (updated : Updated udi interface changed invalidated before after)
    (devices : left.devices = after.devices)
    (inflight : left.inflight = after.inflight) :
    Updated udi interface changed invalidated before left := by
  obtain ⟨service, devices', inflight'⟩ := left
  obtain rfl : devices' = after.devices := devices
  obtain rfl : inflight' = after.inflight := inflight
  exact ⟨updated.tracked, updated.carries, updated.resolved, updated.unresolved,
    updated.unnamed, updated.elsewhere, updated.untouched, updated.claims⟩

theorem updated_onDevice (tracked : cache.tracks udi = true)
    (interface : String) (changed : Properties) (invalidated : List String) :
    Updated udi interface changed invalidated cache
      (cache.onDevice udi fun snapshot =>
      snapshot.applyChanges interface changed.plain invalidated) := by
  have composed := composed_applyChanges tracked interface changed invalidated
  obtain ⟨snapshot, found⟩ := Option.isSome_iff_exists.mp
    (tracks_iff.mp tracked)
  have before (other name : String) :
      cache.slot? ⟨udi, other, name⟩ = snapshot.slot? other name := by
    rw [slot?, found, Option.bind_some]
  have after (other name : String) :
      (cache.onDevice udi fun snapshot =>
          snapshot.applyChanges interface changed.plain invalidated).slot?
            ⟨udi, other, name⟩ =
        (snapshot.applyChanges interface changed.plain invalidated).slot?
            other name := by
    rw [slot?, getElem?_onDevice, if_pos rfl, found, Option.map_some,
      Option.bind_some]
  have absent (name : String) (other : name ∉ changed) :
      changed[name]? = none :=
    Std.ExtTreeMap.getElem?_eq_none other
  constructor
  case tracked => exact composed.tracked
  case carries => exact composed.carries
  case untouched => exact composed.untouched
  case claims => rfl
  case resolved =>
    intro name value held
    rw [after, Snapshot.slot?_applyChanges, if_pos rfl,
      Properties.getElem?_plain, held]
    rfl
  case unresolved =>
    intro name member other
    rw [after, Snapshot.slot?_applyChanges, if_pos rfl,
      Properties.getElem?_plain, absent name other]
    simp [member]
  case unnamed =>
    intro name other fresh
    rw [after, before, Snapshot.slot?_applyChanges, if_pos rfl,
      Properties.getElem?_plain, absent name other]
    simp [fresh]
  case elsewhere =>
    intro other name apart
    rw [after, before, Snapshot.slot?_applyChanges, if_neg (Ne.symm apart)]

theorem reports_changeReport (tracked : cache.tracks udi = true)
    (changed : Properties) (invalidated : List String) :
    Reports udi changed invalidated
      (cache.changeReport udi (modifications changed.plain invalidated)) := by
  have kinds (name : String) (kind : Change) :
      (modifications changed.plain invalidated)[name]? = some kind ↔
        (name ∈ changed ∨ name ∈ invalidated) ∧ kind = .modified := by
    rw [getElem?_modifications, Option.ite_none_right_eq_some]
    simp [Properties.plain, eq_comm]
  have empty : (modifications changed.plain invalidated).isEmpty = true ↔
      ¬Touches changed invalidated := by
    simp only [Named.isEmpty_iff_forall, Option.eq_none_iff_forall_ne_some,
      Ne, kinds]
    simp [Touches]
  constructor
  · intro untouched
    rw [changeReport, empty.mpr untouched]
    simp
  · intro touches
    refine ⟨_, ?_, kinds⟩
    rw [changeReport, Bool.eq_false_iff.mpr fun none => empty.mp none touches]
    simp [tracked]

theorem inserted_of_insert {left : Cache σ}
    (devices : left.devices = cache.devices.insert udi
      (Snapshot.empty.put interface changed.plain))
    (claims : left.inflight = cache.inflight) :
    Inserted udi interface changed cache left where
  tracked := by simp [tracks, devices]
  carries other := by
    rw [hasInterface, devices, Std.ExtTreeMap.getElem?_insert_self]
    dsimp only
    rw [Snapshot.put, Snapshot.hasInterface_insert_iff]
    simp [Snapshot.empty, Snapshot.hasInterface, eq_comm]
  slots name := by
    rw [slot?, devices, Std.ExtTreeMap.getElem?_insert_self, Option.bind_some,
      Snapshot.slot?_put, if_pos rfl, Properties.getElem?_plain, Option.map_map]
    rfl
  untouched other apart := by
    rw [devices, Named.getElem?_insert, if_neg (Ne.symm apart)]
  claims := claims

/-- The judge hears of a device as it is once the change is applied. -/
theorem consents_onDevice_iff_ejects {size : Value}
    (tracked : cache.tracks udi = true)
    (told : reportedSize? settings.config interface changed = some size)
    (invalidated : List String) :
    Consents settings (cache.onDevice udi fun snapshot =>
        snapshot.applyChanges interface changed.plain invalidated) udi
        (size.plain.toUInt64?.getD 0) ↔
      Ejects settings cache udi interface changed invalidated := by
  obtain ⟨snapshot, found⟩ := Option.isSome_iff_exists.mp
    (tracks_iff.mp tracked)
  have here : cache.content udi = snapshot := by
    rw [content, found, Option.getD_some]
  rw [Consents, tracks_onDevice, tracked, eq_comm, decide_eq_true_iff,
    Value.getD_toUInt64?_eq_zero_iff, getElem?_onDevice, if_pos rfl, found,
      Ejects, told, here]
  simp [onDevice]

theorem consents_iff_inserts {size : Value}
    (untracked : cache.tracks udi = false)
    (told : reportedSize? settings.config interface changed = some size) :
    Consents settings cache udi (size.plain.toUInt64?.getD 0) ↔
      Inserts settings cache udi interface changed := by
  rw [Consents, untracked, eq_comm, decide_eq_false_iff_not,
    Value.getD_toUInt64?_eq_zero_iff,
    getElem?_of_untracked untracked, Inserts, told]
  simp [Nat.pos_iff_ne_zero]

theorem yields_absorbChanged_updated (heeds : Heeds settings.config udi)
    (tracked : cache.tracks udi = true) (interface : String)
    (changed : Properties) (invalidated : List String) :
    (absorbChanged settings udi interface changed invalidated).Yields cache
      (fun events left =>
        (Ejects settings cache udi interface changed invalidated →
          ∃ report, Reports udi changed invalidated report ∧
            events = report ++ [.removed udi] ∧
            Dismissed udi cache left ∧ left.inflight = cache.inflight) ∧
        (¬Ejects settings cache udi interface changed invalidated →
          Reports udi changed invalidated events ∧
            Updated udi interface changed invalidated cache left))
      (Updated udi interface changed invalidated cache) := by
  have reports := reports_changeReport tracked changed invalidated
  have updated := updated_onDevice tracked interface changed invalidated
  rw [yields_absorbChanged_iff (heeds_iff.mp heeds), reportedSize?_plain]
  cases told : reportedSize? settings.config interface changed with
  | none =>
      have kept : ¬Ejects settings cache udi interface changed invalidated := by
        simp [Ejects, told]
      exact ⟨fun ejected => absurd ejected kept, fun _ => ⟨reports, updated⟩⟩
  | some size =>
      have ejects := consents_onDevice_iff_ejects tracked told invalidated
      have still := updated.tracked.trans tracked.symm
      dsimp only [Option.map_some]
      rw [← still]
      refine yields_absorbMedia_judged.mono ?_ ?_
      · intro events left judged
        constructor
        · intro ejected
          obtain ⟨rfl, erased⟩ := judged.removed
            (ejects.mpr ejected) updated.tracked
          exact ⟨_, reports, rfl, .ofErase erased updated.untouched,
            judged.claims⟩
        · intro kept
          obtain ⟨rfl, same⟩ := judged.rests (mt ejects.mp kept)
          rw [List.append_nil]
          exact ⟨reports, updated.congr same judged.claims⟩
      · rintro left ⟨rfl, -⟩
        exact updated.congr rfl rfl

theorem yields_absorbChanged_inserted (heeds : Heeds settings.config udi)
    (untracked : cache.tracks udi = false) (interface : String)
    (changed : Properties) (invalidated : List String) :
    (absorbChanged settings udi interface changed invalidated).Yields cache
      (fun events left =>
        (Inserts settings cache udi interface changed →
          events = [.added udi] ∧ Inserted udi interface changed cache left) ∧
        (¬Inserts settings cache udi interface changed →
          events = [] ∧ left.devices = cache.devices ∧
            left.inflight = cache.inflight))
      fun left => left.devices = cache.devices ∧ left.inflight =
        cache.inflight := by
  rw [yields_absorbChanged_iff (heeds_iff.mp heeds), reportedSize?_plain,
    onDevice_of_untracked (getElem?_of_untracked untracked)]
  have silent (changes : Changes) : cache.changeReport udi changes = [] := by
    rw [changeReport, untracked]
    rfl
  rw [silent]
  cases told : reportedSize? settings.config interface changed with
  | none =>
      have kept : ¬Inserts settings cache udi interface changed := by
        simp [Inserts, told]
      exact ⟨fun inserts => absurd inserts kept, fun _ => ⟨rfl, rfl, rfl⟩⟩
  | some size =>
      have inserts := consents_iff_inserts untracked told
      have baseline : interface = settings.config.baselineInterface :=
        (Option.ite_none_right_eq_some.mp told).1
      refine yields_absorbMedia_judged.mono ?_ ?_
      · intro events left judged
        constructor
        · intro inserted
          obtain ⟨rfl, devices⟩ := judged.added (inserts.mpr inserted) untracked
          rw [← baseline] at devices
          exact ⟨rfl, inserted_of_insert devices judged.claims⟩
        · intro kept
          obtain ⟨rfl, same⟩ := judged.rests (mt inserts.mp kept)
          exact ⟨rfl, same, judged.claims⟩
      · rintro left ⟨rfl, -⟩
        exact ⟨rfl, rfl⟩

/-- A change of a tracked device writes what it names, tells exactly this, and
leaves the rest alone; if the judge takes its size for a missing medium, the
device goes and this is told last. A change of any other object does nothing,
unless the judge takes its size for a new medium. (A prefix that is valid is not
empty, so whoever is under it has a name.) -/
theorem yields_absorb_propertiesChanged [Service σ]
    (named : settings.config.identifierPrefix ≠ "" ∨ udi ≠ "")
    (owned : Text.startsBy udi settings.config.identifierPrefix = true)
    (kept : settings.config.leavesOut udi = false) (cache : Cache σ)
    (interface : String) (changed : Properties) (invalidated : List String) :
    (absorb settings (.propertiesChanged udi interface changed
      invalidated)).Yields cache (fun events left =>
        (cache.tracks udi = true →
          (¬Ejects settings cache udi interface changed invalidated →
            Updated udi interface changed invalidated cache left ∧
              Reports udi changed invalidated events) ∧
          (Ejects settings cache udi interface changed invalidated →
            ∃ report, Reports udi changed invalidated report ∧ events =
              report ++ [.removed udi] ∧
              Dismissed udi cache left ∧ left.inflight = cache.inflight)) ∧
        (cache.tracks udi = false →
          (¬Inserts settings cache udi interface changed →
            events = [] ∧ left.devices = cache.devices ∧
              left.inflight = cache.inflight) ∧
          (Inserts settings cache udi interface changed →
            events = [.added udi] ∧ Inserted udi interface changed cache left)))
      fun left =>
        (cache.tracks udi = true →
          Updated udi interface changed invalidated cache left) ∧
        (cache.tracks udi = false →
          left.devices = cache.devices ∧ left.inflight = cache.inflight) := by
  have heeds : Heeds settings.config udi := by
    refine ⟨?_, owned, kept⟩
    rintro rfl
    rcases named with prefixed | nonempty
    · apply prefixed
      simpa [Text.startsBy] using owned
    · exact nonempty rfl
  cases tracked : cache.tracks udi with
  | true =>
      refine (yields_absorbChanged_updated heeds tracked interface changed
        invalidated).mono ?_ ?_
      · rintro events left ⟨ejected, stays⟩
        refine ⟨fun _ => ⟨fun rests => (stays rests).symm, ejected⟩, ?_⟩
        simp
      · simp
  | false =>
      refine (yields_absorbChanged_inserted heeds tracked interface changed
        invalidated).mono ?_ ?_
      · rintro events left ⟨inserted, rests⟩
        refine ⟨?_, fun _ => ⟨rests, inserted⟩⟩
        simp
      · simp

def cardUdi : String := "/s/b/mmc"

/-- A card with a label, in a reader. -/
def inserted : Cache MemoryService where
  service := {}
  devices := Std.ExtTreeMap.ofList
    [(cardUdi, Snapshot.ofInterfaces (Std.ExtTreeMap.ofList [
    ("s.Block", Std.ExtTreeMap.ofList
      [("IdLabel", Value.text "old"), ("Size", .uint 7),
        ("ReadOnly", .bool false)])]))]

/-- Whatever is asked about may hold media. -/
def cardReader : CacheSettings MemoryService :=
  ⟨.compact, fun _ _ _ => return true⟩

def relabelling : Properties :=
  Std.ExtTreeMap.ofList [("IdLabel", Value.bytes [110, 101, 119, 0]),
    ("Size", .uint 9)]

/-- The label is also said to be invalid, which its new value overrides, and the
usage is said to be so twice. -/
theorem yields_absorb_propertiesChanged_relabelling :
    ∃ changes left, (absorb cardReader (.propertiesChanged cardUdi "s.Block"
        relabelling ["IdUsage", "IdLabel", "IdUsage"])).start inserted =
        (.ok [.changed cardUdi changes], left) ∧
      changes["IdLabel"]? = some .modified ∧ changes["ReadOnly"]? = none ∧
      left.slot? ⟨cardUdi, "s.Block", "IdLabel"⟩ =
        some (.resolved (.text "new")) ∧
      left.slot? ⟨cardUdi, "s.Block", "IdUsage"⟩ = some .unresolved ∧
      left.slot? ⟨cardUdi, "s.Block", "ReadOnly"⟩ =
        some (.resolved (.bool false)) := by
  have outcome := yields_absorb_propertiesChanged
    (show cardReader.config.identifierPrefix ≠ "" ∨
    cardUdi ≠ "" by decide) (by decide) (by decide) inserted "s.Block"
    relabelling ["IdUsage", "IdLabel", "IdUsage"]
  have answered : ((absorb cardReader (.propertiesChanged cardUdi "s.Block"
      relabelling ["IdUsage", "IdLabel", "IdUsage"])).start inserted).1.isOk =
          true := by
    decide +kernel
  have stays : ¬Ejects cardReader inserted cardUdi "s.Block" relabelling
      ["IdUsage", "IdLabel", "IdUsage"] := by
    rintro ⟨⟨size, told, nothing⟩, -⟩
    obtain rfl : Value.uint 9 = size := Option.some.inj told
    exact absurd (nothing 9 rfl) (by decide)
  rcases handled : (absorb cardReader (.propertiesChanged cardUdi "s.Block"
      relabelling ["IdUsage", "IdLabel", "IdUsage"])).start
        inserted with ⟨reason | events, left⟩
  · rw [handled] at answered
    cases answered
  · rw [Run.Yields, handled] at outcome
    obtain ⟨updated, reports⟩ := (outcome.1 (by decide +kernel)).1 stays
    obtain ⟨changes, rfl, kinds⟩ := reports.told ⟨"IdUsage", .inr (by decide)⟩
    refine ⟨changes, left, rfl, (kinds _ _).mpr ⟨.inr (by decide), rfl⟩,
      ?_, ?_, ?_, ?_⟩
    · rw [Option.eq_none_iff_forall_ne_some]
      intro kind same
      exact absurd ((kinds _ kind).mp same).1 (by decide)
    · exact updated.resolved "IdLabel" (.bytes [110, 101, 119, 0]) rfl
    · exact updated.unresolved "IdUsage" (by decide) (by decide)
    · exact updated.unnamed "ReadOnly" (by decide) (by decide)

end Cache

end Hotplug
