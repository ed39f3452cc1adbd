import Hotplug.Cache.RemovableMedia
import Hotplug.Proofs.Cache.Glance
import Hotplug.Proofs.Cache.Reachable
import Hotplug.Proofs.Traced
import Hotplug.Service.Rehearsed

/-!
# Reading again after a crash

A read that crashes gives up its claim and stores nothing. So the property is as
unknown as it was before, and whoever reads it next asks the service again.
-/

namespace Hotplug

namespace Cache

variable {σ : Type} [Service σ] {settings : CacheSettings (Traced σ)}
  {cache : Cache (Traced σ)} {key : PropertyKey}

/-- The property is asked for now. The answer is given and kept, so that no
later reader has to ask, and nothing else is changed. -/
def Asks (key : PropertyKey) (cache : Cache (Traced σ)) : Prop :=
  ∀ reply service, (Service.getProperty key).start cache.service.service =
    (.ok reply, service) →
    ∃ left, (read key .fetched).start cache =
      (.ok (slotOf reply).value?, left) ∧
      left.service = ⟨service, cache.service.calls ++ [.getProperty key]⟩ ∧
      left.slot? key = some (slotOf reply) ∧
      (∀ other, other ≠ key → left.slot? other = cache.slot? other) ∧
      left.inflight = cache.inflight ∧
      ∀ reach, (read key reach).start left = (.ok (slotOf reply).value?, left)

theorem asks_of_free (free : cache.glance key .fetched = .free) :
    Asks key cache := by
  intro reply service answers
  have has := hasInterface_of_free free
  have answered : (Service.getProperty key).start cache.service =
      (.ok reply, ⟨service, cache.service.calls ++ [.getProperty key]⟩) := by
    change (Traced.record _ _).start _ = _
    rw [Traced.start_record, answers]
  refine ⟨fetched key cache reply _, start_read_of_free free answered, rfl,
    slot?_kept reply _ has, ?_, List.erase_cons_head .., fun reach => ?_⟩
  · intro other apart
    exact slot?_storeSlot.trans (if_neg fun same => apart same.1.symm)
  · exact start_read_of_settled (glance_of_settled (glance_fetched has) reach)

/-- A read can only crash where it fetches. -/
theorem free_of_crash {left : Cache (Traced σ)} {reason : Crash}
    (idle : cache.inflight = [])
    (crashed : (read key .fetched).start cache = (.error reason, left)) :
    cache.glance key .fetched = .free := by
  cases looked : cache.glance key .fetched with
  | free => rfl
  | settled answer =>
      rw [start_read_of_settled looked] at crashed
      cases crashed
  | busy =>
      have claimed := mem_inflight_of_busy looked
      rw [idle] at claimed
      cases claimed

theorem start_read_crashed {left : Cache (Traced σ)} {reason : Crash}
    (free : cache.glance key .fetched = .free)
    (crashed : (read key .fetched).start cache = (.error reason, left)) :
    ∃ service : Traced σ, left = { cache with service :=
  service } ∧
      service.calls = cache.service.calls ++ [.getProperty key] := by
  have recorded : (Service.getProperty key).Yields cache.service
      (fun _ traced => traced.calls = cache.service.calls ++ [.getProperty key])
      fun traced => traced.calls = cache.service.calls ++ [.getProperty key] :=
    Traced.yields_record _ _ _
  rcases ran : (Service.getProperty key).start
    cache.service with ⟨failure | reply, service⟩
  · rw [Run.Yields, ran] at recorded
    rw [start_read_of_crash free ran] at crashed
    cases crashed
    exact ⟨service, rfl, recorded⟩
  · rw [start_read_of_free free ran] at crashed
    cases crashed

/-- In a cache that there can be, a read that crashes leaves the devices as they
were and nothing claimed, and has asked the service. Whatever becomes of the
service, the next reader asks it again. No step of any kind leaves a claim. -/
theorem asks_after_crash (settings : CacheSettings (Traced σ)) :
    (∀ cache : Cache (Traced σ), Reachable settings cache →
      ∀ (key : PropertyKey) (reason : Crash) (left : Cache (Traced σ)),
      (read key .fetched).start cache = (.error reason, left) →
        left.devices = cache.devices ∧ left.inflight = cache.inflight ∧
        left.service.calls = cache.service.calls ++ [.getProperty key] ∧
        ∀ later : Traced σ, Asks key { left with service := later }) ∧
    ∀ cache : Cache (Traced σ), Reachable settings cache →
        cache.inflight = [] := by
  constructor
  · intro cache reached key reason left crashed
    have free := free_of_crash reached.idle crashed
    obtain ⟨service, rfl, calls⟩ := start_read_crashed free crashed
    exact ⟨rfl, rfl, calls, fun later => asks_of_free free⟩
  · intro cache reached
    exact reached.idle

def flakyUdi : String := "/s/b/sdc"

def flakyLabel : PropertyKey := ⟨flakyUdi, "s.Block", "IdLabel"⟩

/-- A disk with a label, behind a service that may crash at the next
question. -/
def flaky (crashNext : Bool) : RehearsedService where
  memory := { objects := Std.ExtTreeMap.ofList [(flakyUdi, Std.ExtTreeMap.ofList
    [("s.Block", Std.ExtTreeMap.ofList [("IdLabel", Value.text "DATA")])])] }
  crashNext := crashNext

/-- The disk was announced without its label. -/
def flakyCache : Cache (Traced RehearsedService) :=
  ((absorb (.ofConfig .compact) (.interfacesAdded flakyUdi
    (Std.ExtTreeMap.ofList [("s.Block", ∅)]))).start
      { service := ⟨flaky true, []⟩ }).2

theorem asks_after_crash_flaky :
    ∃ reason left, (read flakyLabel .fetched).start flakyCache =
      (.error reason, left) ∧ left.inflight = [] ∧
      ∃ final, (read flakyLabel .fetched).start left =
        (.ok (some (.text "DATA")), final) ∧
        final.service.calls = [.getProperty flakyLabel,
          .getProperty flakyLabel] ∧
        (read flakyLabel .known).start final =
          (.ok (some (.text "DATA")), final) := by
  have reached : Reachable (.ofConfig .compact) flakyCache :=
    .handled _ (.fresh _)
  obtain ⟨crash, idle⟩ := asks_after_crash (.ofConfig .compact :
    CacheSettings (Traced RehearsedService))
  have crashes : ((read flakyLabel .fetched).start flakyCache).1.isOk =
    false := by decide +kernel
  have answers : (Service.getProperty flakyLabel).start
      ((read flakyLabel .fetched).start flakyCache).2.service.service =
        (.ok (.ok (.text "DATA")), _) := rfl
  rcases run : (read flakyLabel .fetched).start
    flakyCache with ⟨reason | answer, left⟩
  · obtain ⟨-, claims, calls, again⟩ :=
      crash flakyCache reached flakyLabel reason left run
    rw [run] at answers
    obtain ⟨final, second, served, stored, -, -, kept⟩ :=
      again left.service _ _ answers
    have unclaimed := claims.trans (idle flakyCache reached)
    refine ⟨reason, left, rfl, unclaimed, final, second, ?_, kept .known⟩
    rw [served]
    dsimp only
    rw [calls]
    rfl
  · rw [run] at crashes
    cases crashes

end Cache

end Hotplug
