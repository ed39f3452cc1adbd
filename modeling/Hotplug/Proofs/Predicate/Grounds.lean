import Mathlib.Logic.Relation
import Hotplug.Proofs.Predicate.Reads
import Hotplug.Proofs.Predicate.Rendering

/-!
# Why a device is selected

A predicate that was parsed asks for something: each of its nodes is a test or
joins tests. A device that it selects has therefore reported a capability that
the predicate names. A device may change whenever it is asked, so this is said
of a moment on the way from the state in which the judgement starts to the one
in which it ends.
-/

namespace Hotplug

variable {τ : Type} {device : Device (Run τ)} {state middle left : τ}

namespace Device

/-- A question of a judgement leads from one state to the next. -/
inductive Asks (device : Device (Run τ)) (state : τ) : τ → Prop
  | capabilities : Asks device state (device.capabilities.start state).2
  | property (capability : Capability) (name : String) :
      Asks device state ((device.property capability name .fetched).start
        state).2

/-- Questions of a judgement lead from a state to a later one. -/
def Passes (device : Device (Run τ)) : τ → τ → Prop :=
  Relation.ReflTransGen device.Asks

theorem Passes.refl : device.Passes state state :=
  Relation.ReflTransGen.refl

theorem Passes.trans (first : device.Passes state middle)
    (later : device.Passes middle left) :
    device.Passes state left :=
  Relation.ReflTransGen.trans first later

theorem preserves_passes (device : Device (Run τ)) (state : τ) :
    device.Preserves (device.Passes state) where
  capabilities _ passes := Run.Yields.of_left (passes.tail .capabilities)
  property capability name _ passes :=
    Run.Yields.of_left (passes.tail (.property capability name))

end Device

namespace Predicate

mutual

/-- The predicate and all that it joins. -/
def nodes : Predicate → List Predicate
  | empty => [empty]
  | invalid => [invalid]
  | is capability => [is capability]
  | compare capability property op literal =>
      [compare capability property op literal]
  | all operands => all operands :: nodesOf operands
  | any operands => any operands :: nodesOf operands

def nodesOf : List Predicate → List Predicate
  | [] => []
  | operand :: rest => nodes operand ++ nodesOf rest

end

/-- A node that asks for a known capability, or joins at least two operands. -/
def Asking : Predicate → Prop
  | empty => False
  | invalid => False
  | is capability => capability ≠ .unknown
  | compare capability _ _ _ => capability ≠ .unknown
  | all operands => 2 ≤ operands.length
  | any operands => 2 ≤ operands.length

/-- Between two states there is a moment at which the device reports a
capability that the predicate names. -/
def Grounded (device : Device (Run τ)) (predicate : Predicate)
    (state left : τ) :
    Prop :=
  ∃ capability ∈ predicate.usedCapabilities, ∃ moment after,
    device.Passes state moment ∧
    (device.reports capability).start moment = (.ok true, after) ∧
    device.Passes after left

section Nodes

theorem mem_nodesOf_iff {operands : List Predicate} {node : Predicate} :
    node ∈ nodesOf operands ↔ ∃ operand ∈ operands, node ∈ operand.nodes := by
  induction operands with
  | nil => simp [nodesOf]
  | cons operand operands induction => simp [nodesOf, induction]

theorem WellShaped.asking {predicate node : Predicate}
    (shaped : predicate.WellShaped) (member : node ∈ predicate.nodes) :
    node.Asking := by
  induction shaped with
  | is known =>
      obtain rfl := List.mem_singleton.mp member
      exact known
  | compare known =>
      obtain rfl := List.mem_singleton.mp member
      exact known
  | all several each induction =>
      rcases List.mem_cons.mp member with rfl | below
      · exact several
      · obtain ⟨operand, joined, inside⟩ := mem_nodesOf_iff.mp below
        exact induction operand joined inside
  | any several each induction =>
      rcases List.mem_cons.mp member with rfl | below
      · exact several
      · obtain ⟨operand, joined, inside⟩ := mem_nodesOf_iff.mp below
        exact induction operand joined inside

theorem someMentions_of_mem {operands : List Predicate} {operand : Predicate}
    {capability : Capability} (member : operand ∈ operands)
    (named : capability ∈ operand.usedCapabilities) :
    someMentions capability operands = true := by
  rw [someMentions_eq_any, List.any_eq_true]
  exact ⟨operand, member, mem_usedCapabilities.mp named⟩

end Nodes

section Moments

variable {predicate operand : Predicate} {operands : List Predicate}

theorem Grounded.widen {whole : Predicate} {before final : τ}
    (grounded : Grounded device predicate state left)
    (names : predicate.usedCapabilities ⊆ whole.usedCapabilities)
    (first : device.Passes before state) (later : device.Passes left final) :
    Grounded device whole before final := by
  obtain ⟨capability, named, moment, after, passes, reported, passesOn⟩ :=
    grounded
  exact ⟨capability, names named, moment, after, first.trans passes, reported,
    passesOn.trans later⟩

theorem passes_of_start_selects {answer : Except Crash Bool}
    (judged : (predicate.selects device).start state = (answer, left)) :
    device.Passes state left := by
  have kept := (keeps_selects (device.preserves_passes state) predicate
    state .refl).left
  rwa [judged] at kept

theorem passes_of_start_selectsAll {answer : Except Crash Bool}
    (judged : (selectsAll device operands).start state = (answer, left)) :
    device.Passes state left := by
  have kept := (keeps_selectsAll (device.preserves_passes state)
    operands state .refl).left
  rwa [judged] at kept

/-- A conjunction that selects starts with an operand that does. -/
theorem start_of_selectsAll_cons
    (selected : (selectsAll device (operand :: operands)).start state =
      (.ok true, left)) :
    ∃ middle, (operand.selects device).start state = (.ok true, middle) ∧
      device.Passes middle left := by
  rw [selectsAll] at selected
  obtain ⟨answer, middle, first, rest⟩ := Run.start_bind_eq_ok_iff.mp selected
  cases answer with
  | false => cases rest
  | true => exact ⟨middle, first, passes_of_start_selectsAll rest⟩

/-- A disjunction that selects ends with an operand that does. -/
theorem exists_start_of_selectsAny
    (selected : (selectsAny device operands).start state = (.ok true, left)) :
    ∃ operand ∈ operands, ∃ middle, device.Passes state middle ∧
      (operand.selects device).start middle = (.ok true, left) := by
  induction operands generalizing state with
  | nil => cases selected
  | cons operand operands induction =>
      rw [selectsAny] at selected
      obtain ⟨answer, middle, first, rest⟩ :=
        Run.start_bind_eq_ok_iff.mp selected
      cases answer with
      | true =>
          cases rest
          exact ⟨operand, List.mem_cons_self, state, .refl, first⟩
      | false =>
          obtain ⟨later, member, before, passes, selects⟩ := induction rest
          exact ⟨later, List.mem_cons_of_mem _ member, before,
            (passes_of_start_selects first).trans passes, selects⟩

theorem WellShaped.grounded (shaped : predicate.WellShaped)
    (selected : (predicate.selects device).start state = (.ok true, left)) :
    Grounded device predicate state left := by
  -- By induction on the shape: a conjunction is grounded by its first operand,
  -- and a disjunction by the one that decides it.
  induction shaped generalizing state left with
  | @is capability _ =>
      exact ⟨capability,
        by simp [mentions], state, left, .refl, selected, .refl⟩
  | @compare capability property op literal _ =>
      rw [selects, comparisonSelects] at selected
      obtain ⟨answer, middle, reported, rest⟩ :=
        Run.start_bind_eq_ok_iff.mp selected
      cases answer with
      | false => cases rest
      | true =>
          refine ⟨capability,
            by simp [mentions], state, middle, .refl, reported, ?_⟩
          rw [if_pos rfl] at rest
          obtain ⟨value, after, read, ended⟩ := Run.start_bind_eq_ok_iff.mp rest
          have asked : device.Asks middle
              ((device.property capability property .fetched).start middle).2 :=
            .property capability property
          rw [read] at asked
          have same : after = left := by
            cases value with
            | none => cases ended
            | some actual => exact (Prod.ext_iff.mp ended).2
          exact same ▸ Relation.ReflTransGen.single asked
  | @all operands several each induction =>
      cases operands with
      | nil => exact absurd several (by decide)
      | cons first others =>
          obtain ⟨middle, starts, passes⟩ := start_of_selectsAll_cons selected
          refine (induction first List.mem_cons_self starts).widen
            ?_ .refl passes
          exact fun _ named => mem_usedCapabilities.mpr
            (someMentions_of_mem List.mem_cons_self named)
  | @any operands several each induction =>
      obtain ⟨operand, member, middle, passes, ends⟩ :=
        exists_start_of_selectsAny selected
      refine (induction operand member ends).widen ?_ passes .refl
      exact fun _ named => mem_usedCapabilities.mpr
        (someMentions_of_mem member named)

/-- A device that has the same capabilities whenever it is asked has one that
the predicate names. -/
theorem Grounded.exists_mem (grounded : Grounded device predicate state left)
    {reported : List Capability}
    (steady : ∀ moment, device.Passes state moment →
      (device.capabilities.start moment).1 = .ok reported) :
    ∃ capability ∈ predicate.usedCapabilities, capability ∈ reported := by
  obtain ⟨capability, named, moment, after, passes, reports, -⟩ := grounded
  rw [Device.reports] at reports
  obtain ⟨answer, _, asked, contains⟩ := Run.start_bind_eq_ok_iff.mp reports
  have same := steady moment passes
  rw [asked] at same
  cases same
  refine ⟨capability, named, ?_⟩
  simpa using (Prod.ext_iff.mp contains).1

/-- Each node of a predicate that was parsed, and is not empty, tests a known
capability or joins at least two nodes. If it selects a device, the device
reports a capability that the predicate names: at some moment of the judgement,
and at every moment if its capabilities do not change. -/
theorem grounded_of_parse {text : String} (parsed : parse text = .ok predicate)
    (filled : predicate.isEmpty = false) :
    (∀ node ∈ predicate.nodes, node.Asking) ∧
    ∀ {τ : Type} (device : Device (Run τ)) (state left : τ),
      (predicate.selects device).start state = (.ok true, left) →
      Grounded device predicate state left ∧
      ∀ reported, (∀ moment, device.Passes state moment →
          (device.capabilities.start moment).1 = .ok reported) →
        ∃ capability ∈ predicate.usedCapabilities, capability ∈ reported := by
  have shaped := wellShaped_of_parse parsed filled
  refine ⟨fun node => shaped.asking, fun device state left selected => ?_⟩
  have grounded : Grounded device predicate state left :=
    shaped.grounded selected
  exact ⟨grounded, fun reported => grounded.exists_mem⟩

end Moments

section Volume

/-- A camera or an empty medium, and of these a volume. -/
def emptyVolume : Predicate :=
  all [any [is .camera, compare .block "Size" .eq (.int 0)], is .storageVolume]

theorem grounded_of_parse_stick :
    let device : Device (Run Unit) := stick.device fun _ => pure ⟨⟩
    parse "[IS Camera OR Block.Size == 0] AND IS StorageVolume" =
      .ok emptyVolume ∧
      emptyVolume.isEmpty = false ∧ (emptyVolume.selects device).start () =
        (.ok true, ()) ∧
      (∀ moment, device.Passes () moment →
        (device.capabilities.start moment).1 = .ok stick.capabilities) ∧
      (∀ node ∈ emptyVolume.nodes, node.Asking) ∧
        Grounded device emptyVolume () () ∧
      ∃ capability ∈ emptyVolume.usedCapabilities,
        capability ∈ stick.capabilities := by
  intro device
  have block : Names "Block" .block := ⟨by decide, rfl⟩
  have camera : Factor 63 [.is, .word "Camera"] (is .camera) :=
    factor_is (by decide : Capability.camera ≠ .unknown)
  have volume : Factor groupLimit [.is, .word "StorageVolume"]
      (is .storageVolume) :=
    factor_is (by decide : Capability.storageVolume ≠ .unknown)
  have size : Factor 63 [.word "Block", .dot, .word "Size", .op .eq, .int 0]
      (compare .block "Size" .eq (.int 0)) :=
    .comparison block rfl nofun
  have either : Expression (Factor 63) _ (any [is .camera, _]) :=
    .several (.more (.alone camera) (.one (.alone size))) (Nat.le_refl 2)
  have group : Factor groupLimit (.opening .square :: (_ ++ [.closing .square]))
    _ := .group either
  have parsed : parse "[IS Camera OR Block.Size == 0] AND IS StorageVolume" =
      .ok emptyVolume :=
    parse_of_reads (reads_of_lexes (by decide +kernel))
      (.expression (.alone (.several (.more group (.one volume))
        (Nat.le_refl 2))))
  have selected : (emptyVolume.selects device).start () = (.ok true, ()) := rfl
  have steady : ∀ moment, device.Passes () moment →
      (device.capabilities.start moment).1 = .ok stick.capabilities :=
        fun _ _ => rfl
  obtain ⟨asking, grounded⟩ := grounded_of_parse parsed rfl
  obtain ⟨moments, always⟩ := grounded device () () selected
  exact ⟨parsed, rfl, selected, steady, asking, moments, always _ steady⟩

end Volume

end Predicate

end Hotplug
