import Hotplug.Cache

/-!
# Removable media by rule

The drive of a device lists the kinds of media that it takes. The drive is known
from the cache or asked for; its list is always asked for.
-/

namespace Hotplug

namespace MediaRule

variable {σ : Type} [Service σ]

/-- What names the drive of a device, if anything does. -/
def driveValue? (rule : MediaRule) (udi baseline : String)
    (cached : Option Snapshot) : Run σ (Option Value) := do
  let slot := cached.bind fun snapshot =>
    snapshot.slot? baseline rule.driveProperty
  match slot.bind Slot.value? with
  | some value => return some value
  | none =>
      match ← Service.getProperty ⟨udi, baseline, rule.driveProperty⟩ with
      | .ok value => return some value.plain
      | .error _ => return none

/-- The kinds of media in an answer of the service. -/
def mediaKinds : Except ServiceError Value → List String
  | .ok (.texts kinds) => kinds
  | .ok (.text kind) => [kind]
  | _ => []

/-- The judgement that the rule makes. The path `/` names no drive. -/
def judge (rule : MediaRule) : MediaJudge σ := fun udi baseline cached => do
  match (← rule.driveValue? udi baseline cached).bind Value.toText? with
  | none => return false
  | some drive =>
      if drive = "" ∨ drive = "/" then return false
      else
        let reply ← Service.getProperty ⟨drive, rule.driveInterface,
          rule.compatibilityProperty⟩
        return rule.isRemovable (mediaKinds reply)

end MediaRule

namespace CacheSettings

/-- The settings of a configuration that is also asked about removable media. -/
def ofConfig {σ : Type} [Service σ] (config : Config) : CacheSettings σ where
  config := config
  judge := config.removableMedia.judge

end CacheSettings

end Hotplug
