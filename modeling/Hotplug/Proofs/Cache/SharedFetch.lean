import Hotplug.Proofs.Cache.Glance
import Hotplug.Service.Memory
import Mathlib.Logic.Function.Basic

/-!
# Readers that share one fetch

Any number of readers ask for one property at the same time. Each of them goes
through parts that nothing interrupts: it looks, and then it is done, has to
wait, or has claimed the property; who has the claim asks the service, stores
the answer, and releases the claim, which wakes those who wait. In whatever
order the parts follow each other, the service is asked at most once, and every
reader gets what it would get if they came one after the other.
-/

namespace Hotplug

namespace Cache

variable {σ : Type} {n : Nat}

/-- How far a reader has come. -/
inductive Stage where
  /-- It is about to look at the property. -/
  | looking
  /-- It waits for the claim on the property to be released. -/
  | waiting
  /-- It has claimed the property, and has to ask the service. -/
  | claiming
  /-- The service has answered, and the answer has to be stored. -/
  | answered (slot : Slot)
  /-- The answer is stored, and the claim has to be released. -/
  | stored (slot : Slot)
  | done (answer : Option Value)
  deriving DecidableEq, Repr

namespace Stage

def holdsClaim : Stage → Bool
  | claiming | answered _ | stored _ => true
  | _ => false

/-- A reader that waited looks again. -/
def woken : Stage → Stage
  | waiting => looking
  | stage => stage

end Stage

/-- A part of a read that nothing interrupts. -/
inductive Part where
  | look
  | ask
  | store
  | release
  deriving DecidableEq, Repr

/-- The readers of one property, and the cache that they share. -/
structure Readers (σ : Type) (n : Nat) where
  cache : Cache σ
  stages : Fin n → Stage

namespace Readers

/-- All readers come to a cache at once. -/
def arriving (n : Nat) (cache : Cache σ) : Readers σ n :=
  ⟨cache, fun _ => .looking⟩

def moveTo (readers : Readers σ n) (i : Fin n) (stage : Stage)
    (cache : Cache σ) :
    Readers σ n :=
  ⟨cache, Function.update readers.stages i stage⟩

/-- What a reader does after it has looked, before anyone else can look. -/
def afterGlance (readers : Readers σ n) (key : PropertyKey) (i : Fin n) :
    Glance → Readers σ n
  | .settled answer => readers.moveTo i (.done answer) readers.cache
  | .busy => readers.moveTo i .waiting readers.cache
  | .free => readers.moveTo i .claiming (readers.cache.claim key)

/-- A reader is done with its claim, and all who wait are woken. -/
def afterRelease (readers : Readers σ n) (key : PropertyKey) (i : Fin n)
    (slot : Slot) :
    Readers σ n :=
  ⟨readers.cache.release key,
    Function.update (fun other => (readers.stages other).woken) i
      (.done slot.value?)⟩

variable [Service σ]

/-- One of the readers does one part of its read. -/
inductive Step (key : PropertyKey) (readers : Readers σ n) (i : Fin n) :
    Part → Readers σ n → Prop
  | look (stage : readers.stages i = .looking) :
      Step key readers i .look
        (readers.afterGlance key i (readers.cache.glance key .fetched))
  | ask {reply : Except ServiceError Value} {service : σ}
    (stage : readers.stages i = .claiming)
      (asked : (Service.getProperty key).start readers.cache.service =
        (.ok reply, service)) :
      Step key readers i .ask
        (readers.moveTo i (.answered (slotOf reply))
          { readers.cache with service := service })
  | store {slot : Slot} (stage : readers.stages i = .answered slot) :
      Step key readers i .store
        (readers.moveTo i (.stored slot) (readers.cache.storeSlot key slot))
  | release {slot : Slot} (stage : readers.stages i = .stored slot) :
      Step key readers i .release (readers.afterRelease key i slot)

/-- The readers get there by some parts, in their order. -/
inductive Reaches (key : PropertyKey) (start : Readers σ n) :
    List Part → Readers σ n → Prop
  | refl : Reaches key start [] start
  | step {parts : List Part} {readers next : Readers σ n}
    {i : Fin n} {part : Part}
      (reached : Reaches key start parts readers)
        (stepped : Step key readers i part next) :
      Reaches key start (parts ++ [part]) next

end Readers

section Reads

variable [Service σ] {cache : Cache σ} {key : PropertyKey}
  {reply : Except ServiceError Value} {service : σ} {answer : Option Value}

/-- As many reads of one property, one after the other. -/
def readTimes (key : PropertyKey) : Nat → Run (Cache σ) (List (Option Value))
  | 0 => return []
  | n + 1 => do
      let answer ← read key .fetched
      return answer :: (← readTimes key n)

theorem start_readTimes_of_settled
    (settled : cache.glance key .fetched = .settled answer) :
    (readTimes key n).start cache = (.ok (List.replicate n answer), cache) := by
  induction n with
  | zero => rfl
  | succ n induction =>
      rw [readTimes, Run.start_bind, start_read_of_settled settled]
      dsimp only
      rw [Run.start_bind, induction]
      rfl

/-- The first of several reads fetches, and the others find what it stored. -/
theorem start_readTimes_of_free (free : cache.glance key .fetched = .free)
    (answers : (Service.getProperty key).start cache.service =
      (.ok reply, service)) :
    (readTimes key (n + 1)).start cache =
      (.ok (List.replicate (n + 1) (slotOf reply).value?),
        fetched key cache reply service) := by
  rw [readTimes, Run.start_bind, start_read_of_free free answers]
  dsimp only
  rw [Run.start_bind, start_readTimes_of_settled
    (glance_fetched (hasInterface_of_free free))]
  rfl

end Reads

namespace Readers

variable {key : PropertyKey} {start last : Cache σ} {readers next : Readers σ n}
  {reply : Except ServiceError Value} {service : σ} {answer : Option Value}
  {i holder : Fin n} {part : Part} {parts : List Part} {stage : Stage}
  {stages : List Stage} {asks : Nat}

@[simp] theorem stages_moveTo_self (cache : Cache σ) :
    (readers.moveTo i stage cache).stages i = stage := by
  simp [moveTo]

theorem stages_moveTo_of_ne {other : Fin n} (apart : other ≠ i)
    (cache : Cache σ) :
    (readers.moveTo i stage cache).stages other = readers.stages other := by
  simp [moveTo, apart]

theorem stages_afterRelease_of_ne {other : Fin n} (apart : other ≠ i)
    (slot : Slot) :
    (readers.afterRelease key i slot).stages other =
      (readers.stages other).woken := by
  simp [afterRelease, apart]

/-- All readers but one are at some of these stages. -/
def Beside (readers : Readers σ n) (holder : Fin n) (stages : List Stage) :
    Prop :=
  ∀ i, i ≠ holder → readers.stages i ∈ stages

namespace Beside

/-- Who is at another stage is the one reader. -/
theorem eq_holder (beside : readers.Beside holder stages)
    (reached : readers.stages i = stage) (other : stage ∉ stages) :
    i = holder := by
  by_contra apart
  exact other (reached ▸ beside i apart)

theorem moveTo (beside : readers.Beside holder stages) (member : stage ∈ stages)
    (cache : Cache σ) :
    (readers.moveTo i stage cache).Beside holder stages := by
  intro other apart
  by_cases same : other = i
  · rw [same, stages_moveTo_self]
    exact member
  · rw [stages_moveTo_of_ne same]
    exact beside other apart

theorem moveHolder (beside : readers.Beside holder stages) (cache : Cache σ) :
    (readers.moveTo holder stage cache).Beside holder stages := by
  intro other apart
  rw [stages_moveTo_of_ne apart]
  exact beside other apart

theorem mono {more : List Stage} (beside : readers.Beside holder stages)
    (wider : ∀ stage ∈ stages, stage ∈ more) : readers.Beside holder more :=
  fun other apart => wider _ (beside other apart)

end Beside

/-- Nothing is to be fetched: who has not returned is about to look. -/
structure Satisfied (answer : Option Value) (last : Cache σ)
    (readers : Readers σ n) :
    Prop where
  cache : readers.cache = last
  stages : ∀ i, readers.stages i ∈ [.looking, .done answer]

/-- How far readers of an unknown property have come together, with the number
of questions that the service was asked. -/
inductive Situation (key : PropertyKey) (start : Cache σ)
    (reply : Except ServiceError Value) (service : σ) (readers : Readers σ n) :
    Nat → Prop
  | unclaimed (cache : readers.cache = start)
    (all : ∀ i, readers.stages i = .looking) :
      Situation key start reply service readers 0
  | claimed (holder : Fin n) (cache : readers.cache = start.claim key)
      (held : readers.stages holder = .claiming)
      (others : readers.Beside holder [.looking, .waiting]) :
      Situation key start reply service readers 0
  | answered (holder : Fin n) (cache : readers.cache = asked key start service)
      (held : readers.stages holder = .answered (slotOf reply))
      (others : readers.Beside holder [.looking, .waiting]) :
      Situation key start reply service readers 1
  | stored (holder : Fin n)
    (cache : readers.cache = kept key start reply service)
      (held : readers.stages holder = .stored (slotOf reply))
      (others : readers.Beside holder [.looking, .waiting,
        .done (slotOf reply).value?]) :
      Situation key start reply service readers 1
  | released
      (all : readers.Satisfied (slotOf reply).value?
        (fetched key start reply service)) :
      Situation key start reply service readers 1

variable [Service σ]

/-- When nothing is to be fetched, all that is left to do is to look. -/
theorem Satisfied.step (settled : last.glance key .fetched = .settled answer)
    (satisfied : readers.Satisfied answer last)
    (stepped : Step key readers i part next) :
    part = .look ∧ next.Satisfied answer last := by
  have idle := satisfied.stages i
  cases stepped with
  | look stage =>
      rw [satisfied.cache, settled]
      refine ⟨rfl, satisfied.cache, fun other => ?_⟩
      by_cases same : other = i
      · simp [afterGlance, same]
      · rw [afterGlance, stages_moveTo_of_ne same]
        exact satisfied.stages other
  | ask stage _ | store stage | release stage =>
      rw [stage] at idle
      simp at idle

theorem Satisfied.of_reaches
    (settled : start.glance key .fetched = .settled answer)
    (reached : Reaches key (arriving n start) parts readers) :
    parts.count .ask = 0 ∧ readers.Satisfied answer start := by
  induction reached with
  | refl => exact ⟨rfl, rfl, fun _ => by simp [arriving]⟩
  | step _ stepped induction =>
      obtain ⟨asks, satisfied⟩ := induction
      obtain ⟨rfl, again⟩ := satisfied.step settled stepped
      exact ⟨by simpa using asks, again⟩

theorem Situation.step (free : start.glance key .fetched = .free)
    (answers : (Service.getProperty key).start start.service =
      (.ok reply, service))
    (situation : Situation key start reply service readers asks)
    (stepped : Step key readers i part next) :
    Situation key start reply service next (asks + if part =
      .ask then 1 else 0) := by
  have has := hasInterface_of_free free
  have busy := glance_claim free
  cases situation with
  | unclaimed cache all =>
      cases stepped with
      | look stage =>
          rw [cache, free]
          refine .claimed i (by rw [← cache]; rfl) (by simp [afterGlance]) ?_
          intro other apart
          rw [afterGlance, stages_moveTo_of_ne apart, all]
          simp
      | ask stage _ | store stage | release stage =>
          rw [all] at stage
          cases stage
  | claimed holder cache held others =>
      cases stepped with
      | look stage =>
          have apart : holder ≠ i := by
            rintro rfl
            simp [held] at stage
          rw [cache, busy, afterGlance]
          exact .claimed holder cache ((stages_moveTo_of_ne apart _).trans held)
            (others.moveTo (by simp) _)
      | ask stage asked =>
          obtain rfl := others.eq_holder stage (by simp)
          rw [cache] at asked
          obtain ⟨⟨⟩, rfl⟩ := Prod.ext_iff.mp (asked.symm.trans answers)
          exact .answered i (by rw [cache]; rfl) (by simp) (others.moveHolder _)
      | store stage | release stage =>
          obtain rfl := others.eq_holder stage (by simp)
          simp [held] at stage
  | answered holder cache held others =>
      cases stepped with
      | look stage =>
          have apart : holder ≠ i := by
            rintro rfl
            simp [held] at stage
          have stillBusy : readers.cache.glance key .fetched = .busy := by
            rw [cache]
            exact busy
          rw [stillBusy, afterGlance]
          exact .answered holder cache
            ((stages_moveTo_of_ne apart _).trans held)
            (others.moveTo (by simp) _)
      | store stage =>
          obtain rfl := others.eq_holder stage (by simp)
          obtain rfl : _ = slotOf reply := by simpa [held] using stage.symm
          exact .stored i (by rw [cache]; rfl) (by simp)
            ((others.moveHolder _).mono (by simp))
      | ask stage _ | release stage =>
          obtain rfl := others.eq_holder stage (by simp)
          simp [held] at stage
  | stored holder cache held others =>
      cases stepped with
      | look stage =>
          have apart : holder ≠ i := by
            rintro rfl
            simp [held] at stage
          rw [cache, glance_kept has, afterGlance]
          exact .stored holder cache ((stages_moveTo_of_ne apart _).trans held)
            (others.moveTo (by simp) _)
      | release stage =>
          obtain rfl := others.eq_holder stage (by simp)
          obtain rfl : _ = slotOf reply := by simpa [held] using stage.symm
          refine .released ⟨by rw [afterRelease, cache]; rfl, fun other => ?_⟩
          by_cases same : other = i
          · simp [afterRelease, same]
          · have before := others other same
            rw [stages_afterRelease_of_ne same]
            simp only [List.mem_cons, List.not_mem_nil, or_false] at before ⊢
            rcases before with stage | stage | stage <;>
              simp [stage, Stage.woken]
      | ask stage _ | store stage =>
          obtain rfl := others.eq_holder stage (by simp)
          simp [held] at stage
  | released all =>
      obtain ⟨rfl, satisfied⟩ := all.step (glance_fetched has) stepped
      exact .released satisfied

/-- Whatever the readers do one after another, they are in one of the
situations. -/
theorem Situation.of_reaches (free : start.glance key .fetched = .free)
    (answers : (Service.getProperty key).start start.service =
      (.ok reply, service))
    (reached : Reaches key (arriving n start) parts readers) :
    Situation key start reply service readers (parts.count .ask) := by
  induction reached with
  | refl => exact .unclaimed rfl fun _ => rfl
  | @step parts readers next i part reached stepped induction =>
      have after := induction.step free answers stepped
      rw [List.count_append, List.count_singleton]
      simpa using after

/-- What is true of readers who share one fetch, at every moment: `answer` is
what they all get, and `last` is the cache when all have returned. -/
structure Shared [Service σ] (key : PropertyKey) (answer : Option Value)
    (last : Cache σ) (readers : Readers σ n) :
    Prop where
  claimed : key ∈ readers.cache.inflight ↔ ∃ i,
    (readers.stages i).holdsClaim = true
  alone : ∀ i j, (readers.stages i).holdsClaim = true →
    (readers.stages j).holdsClaim = true → i = j
  awaits : ∀ i, readers.stages i = .waiting → ∃ j,
    (readers.stages j).holdsClaim = true
  goesOn : (∃ i, ∀ given, readers.stages i ≠ .done given) →
    ∃ i part next, Step key readers i part next
  answers : ∀ i given, readers.stages i = .done given →
    given = answer ∧ readers.cache.devices = last.devices
  finishes : (∀ i, ∃ given, readers.stages i = .done given) →
    readers.cache = last

namespace Shared

theorem ofUnclaimed (idle : key ∉ readers.cache.inflight)
    (stages : ∀ i, readers.stages i ∈ [.looking, .done answer])
    (agrees : ∀ i given, readers.stages i = .done given → readers.cache = last)
    (someone : readers.cache = last ∨ Nonempty (Fin n)) :
    Shared key answer last readers := by
  have without (i : Fin n) : ¬(readers.stages i).holdsClaim = true := by
    have stage := stages i
    simp only [List.mem_cons, List.not_mem_nil, or_false] at stage
    rcases stage with stage | stage <;> simp [stage, Stage.holdsClaim]
  constructor
  case claimed =>
    exact ⟨fun member => (idle member).elim,
      fun ⟨i, holds⟩ => (without i holds).elim⟩
  case alone => exact fun i _ holds => (without i holds).elim
  case awaits =>
    intro i waits
    have stage := stages i
    simp [waits] at stage
  case goesOn =>
    rintro ⟨i, returnsNot⟩
    have stage := stages i
    simp only [List.mem_cons, List.not_mem_nil, or_false] at stage
    exact ⟨i, .look, _, .look (stage.resolve_right (returnsNot answer))⟩
  case answers =>
    intro i given returned
    have stage := stages i
    simp only [returned, List.mem_cons, reduceCtorEq, Stage.done.injEq,
      List.not_mem_nil, or_false, false_or] at stage
    exact ⟨stage, by rw [agrees i given returned]⟩
  case finishes =>
    intro all
    rcases someone with same | ⟨⟨i⟩⟩
    · exact same
    · obtain ⟨given, returned⟩ := all i
      exact agrees i given returned

theorem ofHolder (claimed : key ∈ readers.cache.inflight)
    (held : (readers.stages holder).holdsClaim = true)
    (others : readers.Beside holder [.looking, .waiting, .done answer])
    (agrees : ∀ i given, readers.stages i = .done given →
      readers.cache.devices = last.devices)
    (able : ∃ part next, Step key readers holder part next) :
    Shared key answer last readers := by
  have isHolder (i : Fin n) (holds : (readers.stages i).holdsClaim = true) :
      i = holder := by
    refine others.eq_holder rfl fun member => ?_
    simp only [List.mem_cons, List.not_mem_nil, or_false] at member
    rcases member with stage | stage | stage <;>
      simp [stage, Stage.holdsClaim] at holds
  have notReturned (given : Option Value) :
      readers.stages holder ≠ .done given := by
    intro returned
    simp [returned, Stage.holdsClaim] at held
  constructor
  case claimed => exact ⟨fun _ => ⟨holder, held⟩, fun _ => claimed⟩
  case alone =>
    exact fun i j holds holdsToo => (isHolder i holds).trans
      (isHolder j holdsToo).symm
  case awaits => exact fun _ _ => ⟨holder, held⟩
  case goesOn => exact fun _ => ⟨holder, able⟩
  case answers =>
    intro i given returned
    have stage := others i fun same => notReturned given (same ▸ returned)
    simp only [returned, List.mem_cons, reduceCtorEq, Stage.done.injEq,
      List.not_mem_nil, or_false, false_or] at stage
    exact ⟨stage, agrees i given returned⟩
  case finishes =>
    intro all
    obtain ⟨given, returned⟩ := all holder
    exact (notReturned given returned).elim

end Shared

theorem Situation.shared (someone : Nonempty (Fin n))
    (idle : key ∉ start.inflight)
    (answers : (Service.getProperty key).start start.service =
      (.ok reply, service))
    (situation : Situation key start reply service readers asks) :
    asks ≤ 1 ∧ Shared key (slotOf reply).value?
      (fetched key start reply service) readers := by
  have absent {stages : List Stage} {holder i : Fin n} {given : Option Value}
      (others : readers.Beside holder stages)
        (returned : readers.stages i = .done given)
      (none : ∀ given, .done given ∉ stages) : readers.stages holder =
          .done given := by
    by_cases same : i = holder
    · exact same ▸ returned
    · exact (none given (returned ▸ others i same)).elim
  cases situation with
  | unclaimed cache all =>
      refine ⟨by omega, .ofUnclaimed (by rwa [cache]) (by simp [all]) ?_ (.inr
        someone)⟩
      intro i given returned
      simp [all] at returned
  | claimed holder cache held others =>
      refine ⟨by omega, .ofHolder (by simp [cache, claim]) (by rw [held]; rfl)
        (others.mono (by simp)) ?_
          ⟨.ask, _, .ask held (by rw [cache]; exact answers)⟩⟩
      intro i given returned
      have wrong := absent others returned (by simp)
      simp [held] at wrong
  | answered holder cache held others =>
      refine ⟨by omega, .ofHolder (by simp [cache, asked,
        claim]) (by rw [held]; rfl)
        (others.mono (by simp)) ?_ ⟨.store, _, .store held⟩⟩
      intro i given returned
      have wrong := absent others returned (by simp)
      simp [held] at wrong
  | stored holder cache held others =>
      refine ⟨by omega, .ofHolder ?_ (by rw [held]; rfl) others ?_ ⟨.release,
        _, .release held⟩⟩
      · rw [cache]
        exact List.mem_cons_self
      · exact fun _ _ _ => by rw [cache]; rfl
  | released all =>
      have notClaimed : key ∉ readers.cache.inflight := by
        have inflight : (fetched key start reply service).inflight =
            start.inflight :=
          List.erase_cons_head key start.inflight
        rwa [all.cache, inflight]
      exact ⟨by omega, .ofUnclaimed notClaimed all.stages (fun _ _ _ =>
        all.cache) (.inl all.cache)⟩

/-- Readers who come together to a property, in whatever order they go on, ask
the service at most once. What they get, and what they leave, is what as many
reads would get and leave one after the other. -/
theorem shared_of_reaches (idle : key ∉ start.inflight)
    (answers : (Service.getProperty key).start start.service =
      (.ok reply, service))
    (reached : Reaches key (arriving n start) parts readers) :
    ∃ answer last, (readTimes key n).start start =
      (.ok (List.replicate n answer), last) ∧
      parts.count .ask ≤ 1 ∧ Shared key answer last readers := by
  cases looked : start.glance key .fetched with
  | settled answer =>
      obtain ⟨asks, satisfied⟩ := Satisfied.of_reaches looked reached
      exact ⟨answer, start, start_readTimes_of_settled looked, by omega,
        .ofUnclaimed (by rwa [satisfied.cache]) satisfied.stages
          (fun _ _ _ => satisfied.cache) (.inl satisfied.cache)⟩
  | busy => exact (idle (mem_inflight_of_busy looked)).elim
  | free =>
      cases n with
      | zero =>
          cases reached with
          | refl =>
              exact ⟨none, start, rfl,
                by simp, .ofUnclaimed idle (fun i => i.elim0)
                (fun i => i.elim0) (.inl rfl)⟩
          | @step _ _ _ i => exact i.elim0
      | succ n =>
          refine ⟨_, _, start_readTimes_of_free looked answers, ?_⟩
          exact (Situation.of_reaches looked answers reached).shared
            ⟨0⟩ idle answers

section Volume

def volumeLabel : PropertyKey :=
  ⟨"/s/b/sda", "s.Block", "IdLabel"⟩

/-- A volume whose label was not asked for yet. -/
def volume : Cache MemoryService where
  service :=
    { objects := Std.ExtTreeMap.ofList [(volumeLabel.udi,
      Std.ExtTreeMap.ofList [
    (volumeLabel.interface, Std.ExtTreeMap.ofList
      [(volumeLabel.property, Value.text "DATA")])])] }
  devices := Std.ExtTreeMap.ofList [(volumeLabel.udi,
    Snapshot.mk (Std.ExtTreeMap.ofList [(volumeLabel.interface, ∅)]))]

/-- The first reader fetches the label, and the second one waits until the claim
is released. The third one comes while the label is stored and still claimed. -/
def visits : List Part := [.look, .look, .ask, .store, .look, .release, .look]

theorem exists_reaches_visits : ∃ readers : Readers MemoryService 3,
    Reaches volumeLabel (arriving 3 volume) visits readers ∧
      ∀ i, readers.stages i = .done (some (.text "DATA")) := by
  have start : Reaches volumeLabel (arriving 3 volume) []
    (arriving 3 volume) := .refl
  have claimed := start.step (Step.look (i := 0) rfl)
  have waiting := claimed.step (Step.look (i := 1) (by decide +kernel))
  have asked := waiting.step (Step.ask (i := 0) (by decide +kernel) rfl)
  have stored := asked.step (Step.store (i := 0)
    (show _ = Stage.answered (.resolved (.text "DATA")) by decide +kernel))
  have third := stored.step (Step.look (i := 2) (by decide +kernel))
  have released := third.step (Step.release (i := 0)
    (show _ = Stage.stored (.resolved (.text "DATA")) by decide +kernel))
  have second := released.step (Step.look (i := 1) (by decide +kernel))
  exact ⟨_, second, by decide +kernel⟩

theorem shared_of_reaches_visits : ∃ readers : Readers MemoryService 3,
    Reaches volumeLabel (arriving 3 volume) visits readers ∧
      volumeLabel ∉ volume.inflight ∧ (readTimes volumeLabel 3).start volume =
        (.ok (List.replicate 3 (some (.text "DATA"))), readers.cache) ∧
      readers.cache.service.calls = [.getProperty volumeLabel] := by
  obtain ⟨readers, reached, returned⟩ := exists_reaches_visits
  have idle : volumeLabel ∉ volume.inflight := by simp [volume]
  obtain ⟨answer, last, reads, _, shared⟩ := shared_of_reaches idle rfl reached
  obtain ⟨rfl, _⟩ := shared.answers 0 _ (returned 0)
  obtain rfl := shared.finishes fun i => ⟨_, returned i⟩
  have asked : ((readTimes volumeLabel 3).start volume).2.service.calls =
      [.getProperty volumeLabel] := by decide +kernel
  rw [reads] at asked
  exact ⟨readers, reached, idle, reads, asked⟩

end Volume

end Readers

end Cache

end Hotplug
