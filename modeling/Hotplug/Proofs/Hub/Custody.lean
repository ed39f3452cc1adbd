import Mathlib.Algebra.GroupWithZero.Nat
import Hotplug.Backend.Service
import Hotplug.Cache.RemovableMedia
import Hotplug.Proofs.Hub.Charter
import Hotplug.Proofs.Hub.Idle
import Hotplug.Proofs.Script
import Hotplug.Service.Memory

/-!
# A context that has been torn down stays so

A context is asked for its registry, the registry is used by all who were given
it, and the context is torn down, in any order and also by callbacks. The
factory may refuse, crash or make backends, differently each time.
-/

namespace Hotplug

/-- How a factory answers. -/
inductive Supply (n : Nat) (β : Type) where
  | refused (error : OpenError)
  | crashed (message : String)
  | made (backends : Vector β n) (roster : List (Fin n))

/-- What is noted of a context. -/
inductive Episode (n : Nat) (β ο κ : Type) where
  /-- It was asked for its registry. The hub is given as it was found and as it
  was left, and so is how often the factory had been asked. There is no answer
  if a crash came first. -/
  | opened (found : Hub n β ο κ Unit) (askedBefore : Nat)
    (answer : Option (Except OpenError Unit))
      (left : Hub n β ο κ Unit) (askedAfter : Nat)
  | closed
  /-- Something was about to be done with the registry. -/
  | began (found : Hub n β ο κ Unit)

/-- The state of a context, how often its factory was asked, and what was noted,
the oldest first. -/
structure Custody (n : Nat) (β ο κ : Type) where
  phase : Phase := .uninitialized
  asked : Nat := 0
  episodes : List (Episode n β ο κ) := []

/-- A hub whose client remembers its context. -/
abbrev Ward (n : Nat) (β ο κ : Type) : Type := World n β ο κ (Custody n β ο κ)

namespace Hub

variable {n : Nat} {β ο κ ω α : Type}

/-- The hub without its client. -/
def apart (hub : Hub n β ο κ ω) : Hub n β ο κ Unit := { hub with client := () }

variable [Backend β ο]

omit [Backend β ο] in
theorem start_atBackend_apart (i : Fin n) (step : Run β α)
    (hub : Hub n β ο κ ω) :
    (atBackend i step).start hub.apart =
      (((atBackend i step).start hub).1,
        ((atBackend i step).start hub).2.apart) := by
  simp only [atBackend, Run.zoom, Run.start_ofStart]
  have same : hub.apart.backendAt i = hub.backendAt i := rfl
  rw [same]
  rcases step.start (hub.backendAt i) with ⟨answer, backend⟩
  rfl

theorem start_reload_apart (hub : Hub n β ο κ ω) :
    reload.start hub.apart =
      ((reload.start hub).1, (reload.start hub).2.apart) := by
  have loop (roster : List (Fin n)) (count : Nat) (hub : Hub n β ο κ ω) :
      (roster.foldlM (fun count i => do
        return count + (← atBackend i Backend.reload).length) count).start
          hub.apart =
        (((roster.foldlM (fun count i => do
          return count + (← atBackend i Backend.reload).length) count).start
            hub).1,
        ((roster.foldlM (fun count i => do
          return count + (← atBackend i Backend.reload).length) count).start
              hub).2.apart) := by
    induction roster generalizing count hub with
    | nil => rfl
    | cons i roster induction =>
        simp only [List.foldlM_cons, Run.start_bind, start_atBackend_apart]
        rcases (atBackend i Backend.reload).start hub with ⟨reason | ids, left⟩
        · rfl
        · exact induction _ left
  exact loop hub.registry.roster 0 hub

end Hub

namespace Episode

variable {n : Nat} {β ο κ : Type}

/-- The registry was given. -/
def gives : Episode n β ο κ → Bool
  | opened _ _ (some (.ok ())) _ _ => true
  | _ => false

def closes : Episode n β ο κ → Bool
  | closed => true
  | _ => false

/-- How often the factory was asked. -/
def asks : Episode n β ο κ → Nat
  | opened _ before _ _ after => after - before
  | _ => 0

@[simp] theorem gives_opened {found left : Hub n β ο κ Unit}
    {before after : Nat} {answer : Option (Except OpenError Unit)} :
    (opened found before answer left after).gives = true ↔
      answer = some (.ok ()) := by
  rcases answer with _ | _ | _ <;> simp [gives]

@[simp] theorem closes_opened {found left : Hub n β ο κ Unit}
    {before after : Nat} {answer : Option (Except OpenError Unit)} :
    (opened found before answer left after).closes = false :=
  rfl

variable [Backend β ο]

/-- The registry is given as soon as its devices are loaded. -/
def openedBy (loaded : Except Crash Nat × Hub n β ο κ Unit) :
    Option (Except OpenError Unit) × Hub n β ο κ Unit :=
  (loaded.1.toOption.map fun _ => .ok (), loaded.2)

/-- What an unopened context has to answer, and how it leaves the hub. -/
def openingBy (found : Hub n β ο κ Unit) :
    Supply n β → Option (Except OpenError Unit) × Hub n β ο κ Unit
  | .refused error => (some (.error error), found)
  | .crashed _ => (none, found)
  | .made backends roster =>
      openedBy (Hub.reload.start
        (Hub.attach roster { found with backends := backends }))

/-- What is right about a note, given those that were made earlier. -/
def Lawful (supplies : Nat → Supply n β) (earlier : List (Episode n β ο κ)) :
    Episode n β ο κ → Prop
  | opened found before answer left after =>
      before = (earlier.map asks).sum ∧
      if earlier.any closes then
        answer = some (.error .tornDown) ∧ left = found ∧ after = before
      else if earlier.any gives then
        answer = some (.ok ()) ∧ left = found ∧ after = before
      else (answer, left) = openingBy found (supplies before) ∧
        after = before + 1
  | closed => True
  | began found => earlier.any gives ∧ (earlier.any closes → found.Dormant)

end Episode

namespace Ward

variable {n : Nat} {β ο κ : Type}

def onCustody (change : Custody n β ο κ → Custody n β ο κ)
    (ward : Ward n β ο κ) :
    Ward n β ο κ :=
  ward.onClient fun client => { client with memory := change client.memory }

def custody (ward : Ward n β ο κ) : Custody n β ο κ := ward.client.memory

/-- Someone was given the registry. -/
def given (ward : Ward n β ο κ) : Bool :=
  ward.custody.episodes.any Episode.gives

def record (episode : Episode n β ο κ) (ward : Ward n β ο κ) : Ward n β ο κ :=
  ward.onCustody fun custody =>
    { custody with episodes := custody.episodes ++ [episode] }

/-- The factory, which is asked once more. -/
def factory (supplies : Nat → Supply n β) :
    Run (Ward n β ο κ) (Except OpenError (List (Fin n))) := do
  let supply := supplies (← get).custody.asked
  modify (onCustody fun custody => { custody with asked := custody.asked + 1 })
  match supply with
  | .refused error => return .error error
  | .crashed message => Run.crash message
  | .made backends roster =>
      modify fun ward => { ward with backends := backends }
      return .ok roster

variable [Backend β ο]

/-- Note how the context answered. -/
def answered (found : Ward n β ο κ) (answer : Option (Except OpenError Unit))
    (left : Ward n β ο κ) : Ward n β ο κ :=
  left.record (.opened found.apart found.custody.asked answer left.apart
    left.custody.asked)

/-- Ask the context for its registry. -/
def opening (supplies : Nat → Supply n β) : Run (Ward n β ο κ) Unit :=
  .ofStart fun ward =>
    match (Hub.openRegistry (factory supplies) ward.custody.phase).start
        ward with
    | (.ok (phase, answer), left) =>
        (.ok (), answered ward (some answer)
          (onCustody (fun custody => { custody with phase := phase }) left))
    | (.error reason, left) => (.error reason, answered ward none left)

theorem yields_opening {supplies : Nat → Supply n β} {ward : Ward n β ο κ}
    {after : Unit → Ward n β ο κ → Prop} {failed : Ward n β ο κ → Prop} :
    (opening supplies).Yields ward after failed ↔
      (Hub.openRegistry (factory supplies) ward.custody.phase).Yields ward
        (fun outcome left => after () (answered ward (some outcome.2)
          (onCustody (fun custody => { custody with phase := outcome.1 })
            left)))
        (fun left => failed (answered ward none left)) := by
  unfold Run.Yields
  simp only [opening, Run.start_ofStart]
  rcases (Hub.openRegistry (factory supplies) ward.custody.phase).start
      ward with
    ⟨reason | ⟨phase, answer⟩, left⟩ <;> rfl

def closing : Run (Ward n β ο κ) Unit := do
  let phase ← Hub.close (← get).custody.phase
  modify (onCustody fun custody => { custody with phase := phase })
  modify (record .closed)

/-- What can be done with a context, and with a registry by those who were given
it. -/
inductive Affair (n : Nat) (β ο κ : Type) where
  | registry
  | teardown
  | deed (deed : Deed n β ο κ (Custody n β ο κ))
    (loyal : ∀ change, deed ≠ .remember change)

def Affair.perform (pathExists : String → Bool) (supplies : Nat → Supply n β)
    (callbacks : κ → DeviceEvent → Run (Ward n β ο κ) Unit) :
    Affair n β ο κ → Run (Ward n β ο κ) Unit
  | registry => opening supplies
  | teardown => closing
  | .deed action _ => do
      if (← get).given then
        modify fun ward => ward.record (.began ward.apart)
        action.perform pathExists callbacks

section Custodianship

variable {supplies : Nat → Supply n β} {ward left : Ward n β ο κ}

/-- The phase fits what was noted, and each note is lawful. -/
structure Sound (supplies : Nat → Supply n β) (custody : Custody n β ο κ) :
    Prop where
  closed : custody.phase = .tornDown ↔
    custody.episodes.any Episode.closes = true
  ready : custody.phase = .ready ↔ custody.episodes.any Episode.gives = true ∧
    custody.episodes.any Episode.closes = false
  asked : custody.asked = (custody.episodes.map Episode.asks).sum
  lawful : ∀ place (episode : Episode n β ο κ),
    custody.episodes[place]? = some episode →
    episode.Lawful supplies (custody.episodes.take place)

/-- The context was torn down after its registry had been given. -/
def Over (custody : Custody n β ο κ) : Prop :=
  custody.phase = .tornDown ∧ custody.episodes.any Episode.gives = true

structure Faithful (supplies : Nat → Supply n β) (ward : Ward n β ο κ) :
    Prop where
  sound : Sound supplies ward.custody
  idle : Over ward.custody → ward.Idle

theorem Sound.unopened {memory : Custody n β ο κ}
    (sound : Sound supplies memory) (phase : memory.phase = .uninitialized) :
    memory.episodes.any Episode.closes = false ∧
      memory.episodes.any Episode.gives = false := by
  have unclosed : memory.episodes.any Episode.closes = false := by
    cases closed : memory.episodes.any Episode.closes with
    | false => rfl
    | true =>
        exact Phase.noConfusion (phase.symm.trans (sound.closed.mpr closed))
  refine ⟨unclosed, ?_⟩
  cases given : memory.episodes.any Episode.gives with
  | false => rfl
  | true =>
      exact Phase.noConfusion (phase.symm.trans
        (sound.ready.mpr ⟨given, unclosed⟩))

/-- What reloading leaves is known from the hub without its client, whom it does
not touch. -/
theorem yields_reload_apart (ward : Ward n β ο κ) :
    (Hub.reload : Run (Ward n β ο κ) Nat).Yields ward
      (fun count left => custody left = ward.custody ∧
        Hub.reload.start ward.apart = (.ok count, left.apart))
      (fun left => custody left = ward.custody ∧
        ∃ reason, Hub.reload.start ward.apart =
          (.error reason, left.apart)) := by
  have untouched : (Hub.reload : Run (Ward n β ο κ) Nat).Yields ward
      (fun _ => Hub.Resting ward.client False)
          (Hub.Resting ward.client False) :=
    @Hub.Account.yields_reload _ _ _ _ _ _
      (fun _ => Hub.Resting ward.client False) [] _
      (fun i => Hub.Resting.keeps_atBackend i _) ⟨rfl, False.elim⟩
  refine (untouched.and (Run.yields_start _ _)).mono ?_ ?_
  · intro count left outcome
    obtain ⟨resting, started⟩ := outcome
    refine ⟨congrArg Client.memory resting.unchanged, ?_⟩
    rw [Hub.start_reload_apart, started]
  · intro left outcome
    obtain ⟨resting, reason, started⟩ := outcome
    refine ⟨congrArg Client.memory resting.unchanged, reason, ?_⟩
    rw [Hub.start_reload_apart, started]

namespace Faithful

theorem ofResting (faithful : Faithful supplies ward)
    (resting : Hub.Resting ward.client (Over ward.custody) left) :
    Faithful supplies left := by
  have same : left.custody = ward.custody :=
    congrArg Client.memory resting.unchanged
  refine ⟨?_, ?_⟩
  · rw [same]
    exact faithful.sound
  · rw [same]
    exact resting.idle

theorem keeps {α : Type} {step : Run (Ward n β ο κ) α}
    (resting : ∀ client idle, step.Keeps (Hub.Resting client idle)) :
    step.Keeps (Faithful supplies) := by
  intro ward faithful
  exact (resting ward.client (Over ward.custody) ward ⟨rfl, faithful.idle⟩).mono
    (fun _ _ => faithful.ofResting) fun _ => faithful.ofResting

theorem charter : World.Charter (Faithful supplies : Ward n β ο κ → Prop) where
  account := {
    shuffled := fun _ faithful => faithful
    finding := fun udi faithful =>
      keeps (fun _ _ => Hub.Resting.keeps_find udi) _ faithful
    releasing := fun handle faithful =>
      faithful.ofResting (Hub.Resting.release ⟨rfl, faithful.idle⟩ handle)
    listing := fun _ i _ _ => keeps fun _ _ => Hub.Resting.keeps_atBackend i _
    answering := fun _ ref =>
      ⟨keeps fun _ _ => Hub.Resting.keeps_atBackend ref.backend _,
        fun _ _ => keeps fun _ _ => Hub.Resting.keeps_atBackend ref.backend _⟩
    naming := fun _ ref => keeps
      fun _ _ => Hub.Resting.keeps_atBackend ref.backend _ }
  reloading i := keeps fun _ _ => Hub.Resting.keeps_atBackend i _
  draining i := keeps fun _ _ => Hub.Resting.keeps_atBackend i _
  updating event := keeps fun _ _ => Hub.Resting.keeps_updateHandles event
  cloning handle faithful :=
    faithful.ofResting (Hub.Resting.clone ⟨rfl, faithful.idle⟩ handle)
  shuttingDown faithful := ⟨faithful.sound, fun _ => Hub.Idle.shutDown _⟩
  unnoticed faithful _ roster slots memory := by
    have same : custody _ = custody _ := memory
    refine ⟨?_, fun torn => ?_⟩
    · rw [same]
      exact faithful.sound
    · rw [same] at torn
      exact (faithful.idle torn).congr roster slots

theorem ofNoted (faithful : Faithful supplies ward) {episode : Episode n β ο κ}
    {phase : Phase} {asked : Nat}
    (noted : left.custody = ⟨phase, asked, ward.custody.episodes ++ [episode]⟩)
    (lawful : episode.Lawful supplies ward.custody.episodes)
    (closed : phase = .tornDown ↔ ward.custody.episodes.any Episode.closes =
      true ∨ episode.closes = true)
    (ready : phase = .ready ↔ (ward.custody.episodes.any Episode.gives = true ∨
      episode.gives = true) ∧ ward.custody.episodes.any Episode.closes = false ∧
      episode.closes = false)
    (askedNow : asked = ward.custody.asked + episode.asks)
    (idle : phase = .tornDown → ward.custody.episodes.any Episode.gives = true ∨
      episode.gives = true → left.Idle) :
    Faithful supplies left := by
  have sound := faithful.sound
  constructor
  · rw [noted]
    refine ⟨by simpa using closed, by simpa using ready, by simp [askedNow,
      sound.asked], ?_⟩
    intro place other found
    rcases getElem?_concat_cases found with ⟨below, before⟩ | ⟨rfl, rfl⟩
    · rw [List.take_append_of_le_length (Nat.le_of_lt below)]
      exact sound.lawful place other before
    · rw [List.take_left]
      exact lawful
  · rw [noted]
    rintro ⟨torn, given⟩
    rw [List.any_append, Bool.or_eq_true, List.any_cons, List.any_nil,
      Bool.or_false] at given
    exact idle torn given

/-- The factory is asked, since nobody was given the registry yet. -/
theorem answered_of_unopened (faithful : Faithful supplies ward)
    (phase : ward.custody.phase = .uninitialized)
    {answer : Option (Except OpenError Unit)} {after : Phase}
    (memory : left.custody =
      ⟨after, ward.custody.asked + 1, ward.custody.episodes⟩)
    (opened : (answer, left.apart) = Episode.openingBy ward.apart
      (supplies ward.custody.asked))
    (ready : after = .ready ↔ answer = some (.ok ()))
    (lasting : after ≠ .tornDown) :
    Faithful supplies (answered ward answer left) := by
  obtain ⟨unclosed, ungiven⟩ := faithful.sound.unopened phase
  have noted : (answered ward answer left).custody =
    ⟨left.custody.phase, left.custody.asked,
      left.custody.episodes ++
        [.opened ward.apart ward.custody.asked answer left.apart
        left.custody.asked]⟩ := rfl
  rw [memory] at noted
  refine faithful.ofNoted noted ⟨faithful.sound.asked, ?_⟩ ?_ ?_ ?_
    fun torn => absurd torn lasting
  · rw [unclosed, ungiven]
    exact ⟨opened, rfl⟩
  · rw [unclosed, Episode.closes_opened]
    simp [lasting]
  · rw [unclosed, ungiven, Episode.gives_opened, ready, Episode.closes_opened]
    simp
  · simp [Episode.asks]

theorem answered_of_same (faithful : Faithful supplies ward)
    {answer : Except OpenError Unit} {after : Phase}
    (phase : ward.custody.phase = after)
    (lawful : (Episode.opened ward.apart ward.custody.asked (some answer)
      ward.apart ward.custody.asked).Lawful supplies ward.custody.episodes)
    (given : answer = .ok () → after = .ready) :
    Faithful supplies (answered ward (some answer)
      (onCustody (fun custody => { custody with phase := after }) ward)) := by
  subst phase
  have noted : (answered ward (some answer)
      (onCustody (fun custody => { custody with phase := ward.custody.phase })
        ward)).custody =
      ⟨ward.custody.phase, ward.custody.asked,
        ward.custody.episodes ++
          [.opened ward.apart ward.custody.asked (some answer) ward.apart
            ward.custody.asked]⟩ := rfl
  refine faithful.ofNoted noted lawful ?_ ?_ ?_ ?_
  · rw [Episode.closes_opened, faithful.sound.closed]
    simp
  · rw [Episode.gives_opened, Episode.closes_opened, Option.some.injEq]
    constructor
    · intro ready
      obtain ⟨isGiven, unclosed⟩ := faithful.sound.ready.mp ready
      exact ⟨.inl isGiven, unclosed, rfl⟩
    · rintro ⟨isGiven | now, unclosed, _⟩
      · exact faithful.sound.ready.mpr ⟨isGiven, unclosed⟩
      · exact given now
  · simp [Episode.asks]
  · intro torn isGiven
    have before : ward.custody.episodes.any Episode.gives = true := by
      rcases isGiven with before | now
      · exact before
      · rw [given (Option.some.inj (Episode.gives_opened.mp now))] at torn
        cases torn
    exact (faithful.idle ⟨torn, before⟩).congr rfl rfl

theorem keeps_opening :
    (opening supplies).Keeps (Faithful supplies : Ward n β ο κ → Prop) := by
  -- By the phase that the context is in.
  intro ward faithful
  have sound := faithful.sound
  rw [yields_opening]
  cases phase : ward.custody.phase with
  | ready =>
      obtain ⟨given, unclosed⟩ := sound.ready.mp phase
      refine faithful.answered_of_same phase ⟨sound.asked, ?_⟩ fun _ => rfl
      rw [unclosed, given]
      exact ⟨rfl, rfl, rfl⟩
  | tornDown =>
      refine faithful.answered_of_same phase ⟨sound.asked, ?_⟩ fun ok => by
        cases ok
      rw [sound.closed.mp phase]
      exact ⟨rfl, rfl, rfl⟩
  | uninitialized =>
      rw [Hub.openRegistry, Run.yields_bind, factory, Run.yields_bind,
        Run.yields_get, Run.yields_bind, Run.yields_modify]
      have memory :
          (onCustody (fun custody =>
              { custody with asked := custody.asked + 1 }) ward).custody =
            ⟨ward.custody.phase, ward.custody.asked + 1,
              ward.custody.episodes⟩ := rfl
      rw [phase] at memory
      cases supply : supplies ward.custody.asked with
      | refused error =>
          refine faithful.answered_of_unopened phase rfl ?_ (by simp) (by simp)
          rw [supply]
          rfl
      | crashed message =>
          refine faithful.answered_of_unopened phase memory ?_ (by simp)
            (by simp)
          rw [supply]
          rfl
      | made backends roster =>
          simp only [Run.yields_bind, Run.yields_modify, Run.yields_pure]
          refine (yields_reload_apart _).mono ?_ ?_
          · intro count left outcome
            obtain ⟨same, loaded⟩ := outcome
            have ready :
                (onCustody (fun custody => { custody with phase := .ready })
                  left).custody =
                  ⟨.ready, ward.custody.asked + 1, ward.custody.episodes⟩ :=
              congrArg (fun custody : Custody n β ο κ =>
                { custody with phase := .ready }) same
            refine faithful.answered_of_unopened phase ready ?_ (by simp)
              (by simp)
            rw [supply]
            exact (congrArg Episode.openedBy loaded).symm
          · intro left outcome
            obtain ⟨same, reason, loaded⟩ := outcome
            have memory : custody left =
                ⟨ward.custody.phase, ward.custody.asked + 1,
                  ward.custody.episodes⟩ := same
            rw [phase] at memory
            refine faithful.answered_of_unopened phase memory ?_ (by simp)
              (by simp)
            rw [supply]
            exact (congrArg Episode.openedBy loaded).symm

/-- The context has been torn down, and its registry with it. -/
theorem ofClosed (faithful : Faithful supplies ward)
    (noted : left.custody = ⟨.tornDown, ward.custody.asked,
      ward.custody.episodes ++ [.closed]⟩)
    (idle : ward.custody.episodes.any Episode.gives = true → left.Idle) :
    Faithful supplies left := by
  refine faithful.ofNoted noted trivial ?_ ?_ rfl ?_
  · simp [Episode.closes]
  · simp [Episode.closes]
  · intro _ given
    exact idle (given.resolve_right Bool.false_ne_true)

theorem keeps_closing :
    closing.Keeps (Faithful supplies : Ward n β ο κ → Prop) := by
  intro ward faithful
  rw [closing, Run.yields_bind, Run.yields_get, Run.yields_bind]
  cases phase : ward.custody.phase with
  | ready =>
      exact faithful.ofClosed rfl fun _ =>
        (Hub.Idle.shutDown ward).congr rfl rfl
  | tornDown =>
      exact faithful.ofClosed rfl fun given =>
        (faithful.idle ⟨phase, given⟩).congr rfl rfl
  | uninitialized =>
      refine faithful.ofClosed rfl fun given => ?_
      rw [(faithful.sound.unopened phase).2] at given
      cases given

theorem began (faithful : Faithful supplies ward) (given : ward.given = true) :
    Faithful supplies (ward.record (.began ward.apart)) := by
  have idle (torn : ward.custody.phase = .tornDown) : ward.Idle :=
    faithful.idle ⟨torn, given⟩
  have noted : (ward.record (.began ward.apart)).custody =
    ⟨ward.custody.phase, ward.custody.asked, ward.custody.episodes ++
      [.began ward.apart]⟩ := rfl
  refine faithful.ofNoted noted ⟨given, fun closed => ?_⟩ ?_ ?_ rfl ?_
  · have apart : ward.apart.Idle :=
      (idle (faithful.sound.closed.mpr closed)).congr rfl rfl
    exact apart.dormant
  · simpa [Episode.closes] using faithful.sound.closed
  · simpa [Episode.gives, Episode.closes] using faithful.sound.ready
  · exact fun torn _ => (idle torn).congr rfl rfl

end Faithful

theorem keptByActions (pathExists : String → Bool)
    (supplies : Nat → Supply n β) :
    KeptByActions (fun _ : Unit => (Faithful supplies : Ward n β ο κ → Prop))
      (Affair.perform pathExists supplies) := by
  intro callbacks keeps _ affair ward faithful
  cases affair with
  | registry => exact Faithful.keeps_opening ward faithful
  | teardown => exact Faithful.keeps_closing ward faithful
  | deed deed loyal =>
      rw [Affair.perform, Run.yields_bind, Run.yields_get]
      split
      · next given =>
          rw [Run.yields_bind, Run.yields_modify]
          refine Faithful.charter.keeps_perform pathExists (keeps ()) ?_ ?_ _ ?_
          · intro i step _
            exact Faithful.keeps fun _ _ => Hub.Resting.keeps_atBackend i step
          · exact fun change same => absurd same (loyal change)
          · exact faithful.began given
      · exact faithful

/-- A context that nobody has asked for anything. -/
def fresh (backends : Vector β n) : Ward n β ο κ where
  backends := backends
  client := { memory := {} }

/-- What can be relied on, told by the notes of a context. -/
structure Final (supplies : Nat → Supply n β) (ward : Ward n β ο κ) : Prop where
  /-- The factory is asked for each registry that is asked for until one is
  given, which is given from then on without another look at the factory, until
  the context is torn down; then none is. What is done with a registry after
  that finds a hub that is dormant. -/
  lawful : ∀ place (episode : Episode n β ο κ), ward.custody.episodes[place]? =
    some episode → episode.Lawful supplies (ward.custody.episodes.take place)
  /-- The factory is asked for nothing else. -/
  asked : ward.custody.asked = (ward.custody.episodes.map Episode.asks).sum
  dormant : ward.given = true →
    ward.custody.episodes.any Episode.closes = true → Hub.Dormant ward

/-- However a context and its registry are used, by its users and by callbacks
within the delivery of events, and however often it is torn down: the factory is
asked until a registry was given, which is the only one, and once the context is
torn down everything is over. -/
theorem final_afterActions (pathExists : String → Bool)
    (supplies : Nat → Supply n β) (backends : Vector β n)
    (react : κ → DeviceEvent → Ward n β ο κ → Script (Ward n β ο κ)
      (Affair n β ο κ))
    (depth : Nat) (affairs : List (Affair n β ο κ)) :
    Final supplies (afterActions (Affair.perform pathExists supplies)
      react depth affairs (fresh backends)) := by
  have start : Faithful supplies (fresh backends : Ward n β ο κ) := by
    refine ⟨⟨?_, ?_, rfl, ?_⟩, fun torn => ?_⟩
    · simp [fresh, custody]
    · simp [fresh, custody]
    · simp [fresh, custody]
    · cases torn.1
  have faithful : Faithful supplies
    (afterActions (Affair.perform pathExists supplies) react depth
      affairs (fresh backends)) :=
    @KeptByActions.afterActions _ _ _ _ _ _ _
      (keptByActions pathExists supplies) depth affairs ()
      _ start
  refine ⟨faithful.sound.lawful, faithful.sound.asked, fun given closed => ?_⟩
  exact (faithful.idle ⟨faithful.sound.closed.mpr closed, given⟩).dormant

end Custodianship

section Handover

def drive : String := "/s/d/disk"

def spinning : Interfaces := Std.ExtTreeMap.ofList [("s.Drive", ∅)]

def backendOf (objects : Objects) : ServiceBackend MemoryService where
  settings := .ofConfig .compact
  cache := { service := { objects := objects } }

/-- The factory refuses at first, and then makes a backend with one drive. -/
def supplied : Nat → Supply 1 (ServiceBackend MemoryService)
  | 0 => .refused (.backendFactory "not yet")
  | _ =>
      .made #v[backendOf (Std.ExtTreeMap.ofList [(drive, spinning)])]
        [Fin.last 0]

/-- The callback tears the context down, looks the drive up, and asks for the
registry. -/
def givesUp (_ : Unit) (_ : DeviceEvent)
    (_ : Ward 1 (ServiceBackend MemoryService) ServiceObject Unit) :
    Script (Ward 1 (ServiceBackend MemoryService) ServiceObject Unit)
      (Affair 1 (ServiceBackend MemoryService) ServiceObject Unit) :=
  .act .teardown fun _ => .act (.deed (.find drive) (by simp)) fun _ =>
    .act .registry fun _ => .done

/-- The registry is asked for three times. A drive is found and one is said to
be added, at which the context is torn down. -/
def handover :
    List (Affair 1 (ServiceBackend MemoryService) ServiceObject Unit) :=
  [.registry, .registry, .registry, .deed (.find drive) (by simp),
    .deed (.attend fun audience => (audience.subscribe .added ()).2) (by simp),
    .deed (.atBackend (Fin.last 0) (do
      let _ ← ServiceBackend.absorb (.interfacesAdded (drive ++ "2") spinning)))
        (by simp),
    .deed .pump (by simp), .registry]

def handedOver : Ward 1 (ServiceBackend MemoryService) ServiceObject Unit :=
  afterActions (Affair.perform (fun _ => true) supplied) givesUp 1 handover
    (fresh #v[backendOf ∅])

/-- The errors that were answered, and whether the drive was valid when
something was done. -/
def told
    (episode : Episode 1 (ServiceBackend MemoryService) ServiceObject Unit) :
    List OpenError × Option Bool :=
  match episode with
  | .opened _ _ (some (.error error)) _ _ => ([error], none)
  | .began found => ([], some (found.isValid ⟨drive, true⟩))
  | _ => ([], none)

/-- The drive is valid until the context is torn down, and then nothing is any
more. -/
theorem final_handedOver :
    handedOver.custody.asked = 2 ∧
      handedOver.custody.episodes.map told =
        [([.backendFactory "not yet"], none), ([], none), ([], none),
          ([], some false),
          ([], some true), ([], some true), ([], some true), ([], none),
            ([], some false),
          ([.tornDown], none), ([.tornDown], none)] ∧
      Hub.Dormant handedOver := by
  have final : Final supplied handedOver :=
    final_afterActions (fun _ => true) supplied _ givesUp 1 _
  refine ⟨final.asked.trans (by decide +kernel), by decide +kernel, ?_⟩
  exact final.dormant (by decide +kernel) (by decide +kernel)

end Handover

end Ward

end Hotplug
