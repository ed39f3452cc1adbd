import Hotplug.Proofs.Predicate.Evaluation
import Hotplug.Proofs.Predicate.Shape

/-!
# What a judgement reads

A predicate is judged from left to right, and no further than it takes to know
the result. The result is the truth value for which every operand is evaluated.
What is read of the device is told here by the comparisons alone: each of them
knows the operands that are judged before it, and is reached if none of these
has decided a conjunction or a disjunction around it.
-/

namespace Hotplug

/-- A state, and the properties that were asked for, oldest first. -/
structure Noted (τ : Type) where
  state : τ
  reads : List PropertyRead := []

namespace Noted

variable {τ α : Type}

def step (step : Run τ α) : Run (Noted τ) α :=
  step.zoom (fun noted => noted.state)
    fun state noted => { noted with state := state }

theorem yields_step {step : Run τ α} {noted : Noted τ}
    {after : α → Noted τ → Prop} {failed : Noted τ → Prop} :
    (Noted.step step).Yields noted after failed ↔
      step.Yields noted.state (fun answer state => after answer
        { noted with state := state })
        fun state => failed { noted with state := state } :=
  Run.yields_zoom

end Noted

/-- The device, with a note taken of every property that it is asked for. -/
def Device.noting {τ : Type} (device : Device (Run τ)) :
    Device (Run (Noted τ)) :=
  { device.within Noted.step Noted.step Noted.step Noted.step with
    property := fun capability name reach => do
      modify fun noted => { noted with
        reads := noted.reads ++ [⟨capability, name, reach⟩] }
      Noted.step (device.property capability name reach) }

namespace Predicate

/-- A comparison in a predicate, and where it stands there. -/
structure Leaf where
  capability : Capability
  property : String
  /-- The operands that stand before it in the conjunctions and disjunctions
  around it, each with the truth value that decides nothing there. -/
  earlier : List (Predicate × Bool) := []

namespace Leaf

/-- The leaf as one that stands behind an operand. -/
def behind (operand : Predicate) (undecided : Bool) (leaf : Leaf) : Leaf :=
  { leaf with earlier := (operand, undecided) :: leaf.earlier }

/-- Nothing around the leaf is decided before it. -/
def isReached (profile : Profile) (leaf : Leaf) : Bool :=
  leaf.earlier.all fun before => before.1.truth profile == before.2

def read (leaf : Leaf) : PropertyRead :=
  ⟨leaf.capability, leaf.property, .fetched⟩

end Leaf

mutual

/-- The comparisons of the predicate from left to right. -/
def leaves : Predicate → List Leaf
  | empty => []
  | invalid => []
  | is _ => []
  | compare capability property _ _ => [{ capability, property }]
  | all operands => leavesOf true operands
  | any operands => leavesOf false operands

def leavesOf (undecided : Bool) : List Predicate → List Leaf
  | [] => []
  | operand :: rest =>
      leaves operand ++ (leavesOf undecided rest).map
        (.behind operand undecided)

end

/-- The reads of those leaves that are reached, if the device has their
capability. -/
def readsAmong (profile : Profile) (leaves : List Leaf) : List PropertyRead :=
  (leaves.filter fun leaf =>
    leaf.isReached profile && profile.reports leaf.capability).map Leaf.read

def readsOn (profile : Profile) (predicate : Predicate) : List PropertyRead :=
  readsAmong profile predicate.leaves

variable {profile : Profile}

theorem readsAmong_append (first second : List Leaf) :
    readsAmong profile (first ++ second) =
      readsAmong profile first ++ readsAmong profile second := by
  rw [readsAmong, List.filter_append, List.map_append]
  rfl

/-- An operand that decides nothing changes nothing for the leaves behind it,
and one that decides keeps all of them from being reached. -/
theorem readsAmong_behind (operand : Predicate) (undecided : Bool)
    (leaves : List Leaf) :
    readsAmong profile (leaves.map (.behind operand undecided)) =
      if operand.truth profile = undecided then readsAmong profile leaves
        else [] := by
  have chosen : ((fun leaf : Leaf => leaf.isReached profile &&
    profile.reports leaf.capability) ∘
      Leaf.behind operand undecided) = fun leaf =>
        (operand.truth profile == undecided && leaf.isReached profile) &&
          profile.reports leaf.capability := rfl
  rw [readsAmong, List.filter_map, List.map_map, chosen]
  by_cases undecides : operand.truth profile = undecided
  · rw [if_pos undecides, undecides, beq_self_eq_true]
    rfl
  · simp [undecides]

theorem readsAmong_leavesOf_cons (undecided : Bool) (operand : Predicate)
    (rest : List Predicate) :
    readsAmong profile (leavesOf undecided (operand :: rest)) =
      operand.readsOn profile ++
        if operand.truth profile = undecided then readsAmong profile
          (leavesOf undecided rest)
        else [] := by
  rw [leavesOf, readsAmong_append, readsAmong_behind]
  rfl

theorem readsOn_compare (capability : Capability) (property : String)
    (op : Comparator) (literal : Value) :
    readsOn profile (.compare capability property op literal) =
      if profile.reports capability then [⟨capability, property, .fetched⟩]
        else [] := by
  cases reported : profile.reports capability <;>
    simp [readsOn, readsAmong, leaves, Leaf.isReached, Leaf.read, reported]

theorem mem_readsOn {predicate : Predicate} {read : PropertyRead}
    (member : read ∈ predicate.readsOn profile) :
    profile.reports read.capability = true ∧ read.reach = .fetched := by
  obtain ⟨leaf, chosen, rfl⟩ := List.mem_map.mp member
  have reached := (List.mem_filter.mp chosen).2
  exact ⟨((Bool.and_eq_true _ _).mp reached).2, rfl⟩

section Judging

variable {τ : Type} {device : Device (Run τ)} {steady : τ → Prop}

/-- A judgement ends with this answer and these further reads. -/
def Judges (steady : τ → Prop) (step : Run (Noted τ) Bool) (answer : Bool)
    (reads : List PropertyRead) : Prop :=
  ∀ noted, steady noted.state → step.Yields noted
    (fun given left => given = answer ∧ left.reads = noted.reads ++ reads ∧
      steady left.state)
    fun _ => False

/-- A judgement goes on with what its first answer leads to. -/
theorem Judges.andThen {first : Run (Noted τ) Bool}
    {next : Bool → Run (Noted τ) Bool} {answer final : Bool}
    {reads later : List PropertyRead}
    (judges : Judges steady first answer reads)
    (judgesNext : Judges steady (next answer) final later) :
    Judges steady (first >>= next) final (reads ++ later) := by
  intro noted holds
  rw [Run.yields_bind]
  refine (judges noted holds).mono ?_ fun _ none => none
  rintro answer left ⟨rfl, read, holdsLeft⟩
  refine (judgesNext left holdsLeft).mono ?_ fun _ none => none
  rintro final last ⟨rfl, readLater, holdsLast⟩
  exact ⟨rfl, by rw [readLater, read, List.append_assoc], holdsLast⟩

theorem Judges.pure (answer : Bool) :
    Judges steady (Pure.pure answer) answer [] :=
  fun _ holds => ⟨rfl, (List.append_nil _).symm, holds⟩

theorem judges_reports (answers : device.AnswersAs profile steady)
    (capability : Capability) :
    Judges steady (device.noting.reports capability)
      (profile.reports capability) [] := by
  intro noted holds
  rw [Device.reports, Run.yields_bind]
  refine Noted.yields_step.mpr ((answers.capabilities noted.state holds).mono ?_
    fun _ none => none)
  intro reported left outcome
  exact ⟨outcome.1 capability, (List.append_nil _).symm, outcome.2⟩

theorem judges_property (answers : device.AnswersAs profile steady)
    {capability : Capability} (reported : profile.reports capability = true)
    (property : String) (op : Comparator) (literal : Value) :
    Judges steady
      (do match ← device.noting.property capability property .fetched with
          | some actual => return actual.related op literal
          | none => return false)
      (truth profile (.compare capability property op literal))
      [⟨capability, property, .fetched⟩] := by
  intro noted holds
  rw [Run.yields_bind]
  refine (Run.yields_bind.trans Run.yields_modify).mpr
    (Noted.yields_step.mpr ?_)
  have asked := answers.property noted.state holds capability property reported
  refine asked.mono ?_ fun _ none => none
  rintro value left ⟨rfl, holdsLeft⟩
  rw [truth, reported]
  cases profile.value capability property with
  | none => exact ⟨rfl, rfl, holdsLeft⟩
  | some actual => exact ⟨rfl, rfl, holdsLeft⟩

theorem judges_comparisonSelects (answers : device.AnswersAs profile steady)
    (capability : Capability) (property : String) (op : Comparator)
    (literal : Value) :
    Judges steady (comparisonSelects device.noting capability
      property op literal)
      (truth profile (.compare capability property op literal))
      (readsOn profile (.compare capability property op literal)) := by
  rw [comparisonSelects, readsOn_compare]
  change Judges _ _ _ ([] ++ _)
  refine (judges_reports answers capability).andThen ?_
  cases reported : profile.reports capability with
  | false =>
      rw [truth, reported]
      exact .pure false
  | true => exact judges_property answers reported property op literal

mutual

theorem judges_selects (answers : device.AnswersAs profile steady)
    (predicate : Predicate) :
    Judges steady (predicate.selects device.noting) (predicate.truth profile)
      (predicate.readsOn profile) := by
  -- By induction on the predicate, where a run of operands is followed along
  -- its list.
  cases predicate with
  | empty => exact .pure true
  | invalid => exact .pure false
  | is capability => exact judges_reports answers capability
  | compare capability property op literal =>
      exact judges_comparisonSelects answers capability property op literal
  | all operands => exact judges_selectsAll answers operands
  | any operands => exact judges_selectsAny answers operands

theorem judges_selectsAll (answers : device.AnswersAs profile steady)
    (operands : List Predicate) :
    Judges steady (selectsAll device.noting operands)
      (truthAll profile operands)
      (readsAmong profile (leavesOf true operands)) := by
  cases operands with
  | nil => exact .pure true
  | cons operand rest =>
      rw [readsAmong_leavesOf_cons, selectsAll, truthAll]
      refine (judges_selects answers operand).andThen ?_
      cases operand.truth profile with
      | false => exact .pure false
      | true => exact judges_selectsAll answers rest

theorem judges_selectsAny (answers : device.AnswersAs profile steady)
    (operands : List Predicate) :
    Judges steady (selectsAny device.noting operands)
      (truthAny profile operands)
      (readsAmong profile (leavesOf false operands)) := by
  cases operands with
  | nil => exact .pure false
  | cons operand rest =>
      rw [readsAmong_leavesOf_cons, selectsAny, truthAny]
      refine (judges_selects answers operand).andThen ?_
      cases operand.truth profile with
      | true => exact .pure true
      | false => exact judges_selectsAny answers rest

end

end Judging

section Builders

/-- A conjunction that takes one more operand in is true where it was true and
the operand is. -/
theorem truth_and (first second : Predicate) :
    (first.and second).truth profile =
      (first.truth profile && second.truth profile) := by
  cases first <;> simp [and, truth, truthAll_eq_all]

theorem truth_or (first second : Predicate) :
    (first.or second).truth profile =
      (first.truth profile || second.truth profile) := by
  cases first <;> simp [or, truth, truthAny_eq_any]

end Builders

section Meaning

variable {τ : Type} {device : Device (Run τ)} {steady : τ → Prop} {state : τ}

/-- Judged in this state, the predicate accepts the device. -/
def Accepts (device : Device (Run τ)) (state : τ) (predicate : Predicate) :
    Prop :=
  ((predicate.selects device).start state).1 = .ok true

theorem start_selects (answers : device.AnswersAs profile steady)
    (holds : steady state) (predicate : Predicate) :
    ((predicate.selects device).start state).1 =
      .ok (predicate.truth profile) := by
  obtain ⟨_, _, started, rfl, _⟩ :=
    (yields_selects answers predicate holds).exists_start
  rw [started]

theorem accepts_iff (answers : device.AnswersAs profile steady)
    (holds : steady state) (predicate : Predicate) :
    predicate.Accepts device state ↔ predicate.truth profile = true := by
  rw [Accepts, start_selects answers holds, Except.ok.injEq]

/-- A device whose answers do not depend on what was read before is judged by
the truth value for which every operand is evaluated. The properties that are
read are those of the comparisons that are reached, in their order, where the
device has the capability. A conjunction that is built of two predicates accepts
the device if both of them do, and a disjunction if one of them does, whatever
operands the first one has already. -/
theorem truthful_selects (answers : device.AnswersAs profile steady)
    (holds : steady state) :
    (∀ predicate : Predicate,
      ((predicate.selects device).start state).1 =
        .ok (predicate.truth profile) ∧
      (∀ reads, ∃ left, steady left ∧
        (predicate.selects device.noting).start ⟨state, reads⟩ =
          (.ok (predicate.truth profile),
            ⟨left, reads ++ predicate.readsOn profile⟩)) ∧
      ∀ read ∈ predicate.readsOn profile,
        profile.reports read.capability = true ∧ read.reach = .fetched) ∧
    ∀ first second : Predicate,
      ((first.and second).Accepts device state ↔
        first.Accepts device state ∧ second.Accepts device state) ∧
      ((first.or second).Accepts device state ↔
        first.Accepts device state ∨ second.Accepts device state) := by
  refine ⟨fun predicate => ⟨start_selects answers holds predicate, ?_, ?_⟩, ?_⟩
  · intro reads
    obtain ⟨_, ⟨left, after⟩, started, rfl, rfl, holdsLeft⟩ :=
      (judges_selects answers predicate ⟨state, reads⟩ holds).exists_start
    exact ⟨left, holdsLeft, started⟩
  · exact fun read => mem_readsOn
  · intro first second
    simp only [accepts_iff answers holds, truth_and, truth_or, Bool.and_eq_true,
      Bool.or_eq_true, and_self]

end Meaning

section Stick

/-- What a device that never changes answers. -/
def profileOf (fixed : FixedDevice) : Profile where
  reports := fixed.capabilities.contains
  value := fixed.lookup

theorem answersAs_fixed (fixed : FixedDevice) {τ : Type} :
    (fixed.device fun _ => pure ⟨⟩ : Device (Run τ)).AnswersAs (profileOf fixed)
      fun _ => True where
  capabilities _ _ := ⟨fun _ => rfl, trivial⟩
  property _ _ _ _ _ := ⟨rfl, trivial⟩

def stick : FixedDevice where
  udi := "/stick"
  parent := none
  vendor := ""
  capabilities := [.block, .storageVolume]
  properties := [(.block, "Size", .uint 0),
    (.storageVolume, "Label", .text "stick")]

/-- A medium of a volume, or a low battery, or a volume of a name, or the device
of a disk. -/
def sought : Predicate :=
  .any [.all [.compare .block "Size" .gt (.int 0),
    .compare .storageVolume "Uuid" .eq (.text "x")],
    .any [], .compare .battery "Charge" .lt (.int 5),
    .compare .storageVolume "Label" .eq (.text "stick"),
    .compare .block "Device" .eq (.text "/dev/sda")]

/-- The size decides the conjunction, the stick has no battery, and its label
decides all. -/
theorem truthful_selects_stick :
    let device : Device (Run Unit) := stick.device fun _ => pure ⟨⟩
    device.AnswersAs (profileOf stick) (fun _ => True) ∧
      (sought.selects device.noting).start ⟨(), []⟩ =
        (.ok true,
          ⟨(), [⟨.block, "Size", .fetched⟩,
            ⟨.storageVolume, "Label", .fetched⟩]⟩) ∧
      ¬(sought.and (.all [.is .block, .is .camera])).Accepts device () := by
  intro device
  have answers : device.AnswersAs (profileOf stick) fun _ => True :=
    answersAs_fixed stick
  have holds : (fun _ : Unit => True) () := trivial
  obtain ⟨each, built⟩ := truthful_selects answers holds
  obtain ⟨-, noted, -⟩ := each sought
  obtain ⟨_, -, started⟩ := noted []
  have value : sought.truth (profileOf stick) = true := by decide
  have reads : sought.readsOn (profileOf stick) =
      [⟨.block, "Size", .fetched⟩, ⟨.storageVolume, "Label", .fetched⟩] := by
        decide
  rw [value, reads] at started
  refine ⟨answers, started, fun both => ?_⟩
  obtain ⟨other, -, -⟩ := each (.all [.is .block, .is .camera])
  have lacking : (all [.is .block, .is .camera]).truth (profileOf stick) =
    false := by decide
  rw [lacking] at other
  cases ((built _ _).1.mp both).2.symm.trans other

end Stick

end Predicate

end Hotplug
