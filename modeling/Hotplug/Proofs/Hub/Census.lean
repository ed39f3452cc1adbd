import Hotplug.Backend
import Hotplug.Predicate.Selection
import Hotplug.Proofs.Predicate.Evaluation
import Hotplug.Proofs.Predicate.Shape

/-!
# Censuses of backends

A census says which devices a backend has and what they answer. It is truthful
if the backend lists and answers accordingly, now and after every question. What
a predicate selects in a census is put in order here: by the least capability
that the predicate names and the device reports, then by the listing of that
capability.
-/

namespace Hotplug

namespace Capability

theorem rank_injective {left right : Capability}
    (same : left.rank = right.rank) :
    left = right := by
  have inverse : ∀ capability : Capability,
      Capability.every[capability.rank]? = some capability := by
    intro capability
    cases capability <;> rfl
  have equal := inverse left
  rw [same, inverse right] at equal
  exact (Option.some.inj equal).symm

end Capability

/-- The capabilities of a predicate come in the order of their declaration. -/
theorem Predicate.pairwise_usedCapabilities (predicate : Predicate) :
    predicate.usedCapabilities.Pairwise
      fun left right => left.rank < right.rank := by
  have every : Capability.every.Pairwise
      fun left right => left.rank < right.rank := by
    decide
  rw [Predicate.usedCapabilities, Capability.collect]
  exact every.filter _

/-- The devices of a backend with states of type `β` and objects of type `ο`. -/
structure Census (β ο : Type) where
  descriptor : Descriptor
  devices : String → Prop
  parentOf : String → Option String
  profile : String → Predicate.Profile
  /-- The identifiers under a parent and with a capability, in the order of the
  backend. -/
  listing : Option String → Capability → List String
  /-- The states in which the census is right. -/
  holds : β → Prop
  /-- Whether an object is the one of an identifier in a state. -/
  stands : String → Kept ο → β → Prop

namespace Census

variable {β ο : Type} {census : Census β ο} {predicate : Predicate}
  {parent : Option String}

def Under (census : Census β ο) (parent : Option String) (udi : String) :
    Prop :=
  ∀ above, parent = some above → census.parentOf udi = some above

def Listed (census : Census β ο) (udi : String) : Prop :=
  ∃ parent capability, udi ∈ census.listing parent capability

section Truth

variable [Backend β ο]

/-- A later state in which the census is still right, with the objects that
stood for devices before and the living ones among them still alive. -/
structure Onward (census : Census β ο) (before after : β) : Prop where
  holds : census.holds after
  stands : ∀ udi kept, census.stands udi kept before →
    census.stands udi kept after
  keeps : ∀ udi kept, census.stands udi kept before →
    Backend.keeps before kept.serial = true →
      Backend.keeps after kept.serial = true

theorem Onward.trans {first second third : β} (one : census.Onward first second)
    (two : census.Onward second third) : census.Onward first third where
  holds := two.holds
  stands udi kept stands := two.stands udi kept (one.stands udi kept stands)
  keeps udi kept stands keeps :=
    two.keeps udi kept (one.stands udi kept stands)
      (one.keeps udi kept stands keeps)

/-- The backend lists and answers as the census says. -/
structure Truthful (census : Census β ο) : Prop where
  describes : ∀ state, census.holds state →
    Backend.descriptor state = census.descriptor
  nodupListing : ∀ parent capability, (census.listing parent capability).Nodup
  memListing : ∀ {parent capability udi},
    udi ∈ census.listing parent capability ↔
      census.devices udi ∧ (census.profile udi).reports capability = true ∧
        census.Under parent udi
  supports : ∀ udi capability, census.devices udi →
    (census.profile udi).reports capability = true →
      capability ∈ census.descriptor.supported
  lists : ∀ state, census.holds state → ∀ parent capability,
    (Backend.list parent (some capability)).Yields state
      (fun ids left => ids = census.listing parent capability ∧
        census.Onward state left)
      fun _ => False
  resolves : ∀ state, census.holds state → ∀ udi, census.Listed udi →
    (Backend.objectOf udi).Yields state
      (fun found left => census.Onward state left ∧ ∃ kept, found = some kept ∧
        census.stands udi kept left ∧ Backend.keeps left kept.serial = true)
      fun _ => False
  parent : ∀ state, census.holds state → ∀ udi kept,
    census.stands udi kept state →
    (Backend.device kept.object : Device (Run β)).parent.Yields state
      (fun answer left => answer = census.parentOf udi ∧
        census.Onward state left)
      fun _ => False
  answers : ∀ state, census.holds state → ∀ udi kept,
    census.stands udi kept state →
    (Backend.device kept.object : Device (Run β)).AnswersAs (census.profile udi)
      (census.Onward state)

end Truth

/-- The least capability that the predicate names and the device reports. -/
def Leads (census : Census β ο) (predicate : Predicate) (udi : String)
    (capability : Capability) : Prop :=
  capability ∈ predicate.usedCapabilities ∧
    (census.profile udi).reports capability = true ∧
    ∀ other ∈ predicate.usedCapabilities,
      (census.profile udi).reports other = true → capability.rank ≤ other.rank

/-- By the leading capabilities, then by the listing of the one that leads
both. -/
def Precedes (census : Census β ο) (predicate : Predicate)
    (parent : Option String) (left right : String) :
    Prop :=
  ∃ first second, census.Leads predicate left first ∧
    census.Leads predicate right second ∧
    (first.rank < second.rank ∨ first = second ∧
      (census.listing parent first).idxOf left <
        (census.listing parent first).idxOf right)

/-- A list of exactly the devices under a parent on which the predicate is true,
each once, in order. -/
structure Selects (census : Census β ο) (predicate : Predicate)
    (parent : Option String) (ids : List String) :
    Prop where
  mem_iff : ∀ udi, udi ∈ ids ↔
    census.devices udi ∧ census.Under parent udi ∧
      predicate.truth (census.profile udi) = true
  nodup : ids.Nodup
  ordered : ids.Pairwise (census.Precedes predicate parent)

section Order

/-- The first capability that the predicate names and the device reports. -/
def leading? (census : Census β ο) (predicate : Predicate) (udi : String) :
    Option Capability :=
  predicate.usedCapabilities.find? (census.profile udi).reports

/-- What the predicate selects among the devices that are listed for a
capability, as far as the capability leads them. -/
def selection (census : Census β ο) (predicate : Predicate)
    (parent : Option String) (capability : Capability) :
    List String :=
  (census.listing parent capability).filter fun udi =>
    census.leading? predicate udi == some capability &&
      predicate.truth (census.profile udi)

theorem mem_selection {capability : Capability} {udi : String} :
    udi ∈ census.selection predicate parent capability ↔
      udi ∈ census.listing parent capability ∧
        census.leading? predicate udi = some capability ∧
        predicate.truth (census.profile udi) = true := by
  simp [selection]

theorem leads_of_leading? {udi : String} {capability : Capability}
    (leading : census.leading? predicate udi = some capability) :
    census.Leads predicate udi capability := by
  obtain ⟨reported, before, after, split, quiet⟩ :=
    List.find?_eq_some_iff_append.mp leading
  have order := predicate.pairwise_usedCapabilities
  refine ⟨by simp [split], reported, ?_⟩
  intro other member otherReported
  rw [split] at member order
  rcases List.mem_append.mp member with earlier | later
  · have silent := quiet other earlier
    simp [otherReported] at silent
  · rcases List.mem_cons.mp later with rfl | later
    · exact Nat.le_refl _
    · obtain ⟨first, _⟩ := List.pairwise_cons.mp
        (List.pairwise_append.mp order).2.1
      exact Nat.le_of_lt (first other later)

theorem Leads.unique {udi : String} {first second : Capability}
    (one : census.Leads predicate udi first)
    (two : census.Leads predicate udi second) :
    first = second :=
  Capability.rank_injective
    (Nat.le_antisymm (one.2.2 second two.1 two.2.1)
      (two.2.2 first one.1 one.2.1))

theorem Precedes.ne {left right : String}
    (precedes : census.Precedes predicate parent left right) :
    left ≠ right := by
  intro same
  obtain rfl := same
  obtain ⟨first, second, one, two, less | ⟨_, less⟩⟩ := precedes
  · rw [one.unique two] at less
    exact Nat.lt_irrefl _ less
  · exact Nat.lt_irrefl _ less

theorem pairwise_idxOf {ids : List String} (nodup : ids.Nodup) :
    ids.Pairwise fun left right => ids.idxOf left < ids.idxOf right := by
  rw [List.pairwise_iff_getElem]
  intro i j iBelow jBelow less
  rwa [nodup.idxOf_getElem i iBelow, nodup.idxOf_getElem j jBelow]

variable [Backend β ο]

/-- The selections of all named capabilities, in their order, make up the answer
to a predicate that was parsed. -/
theorem Truthful.selects_flatMap_selection (truthful : census.Truthful)
    (shaped : predicate.WellShaped) (parent : Option String) :
    census.Selects predicate parent
      (predicate.usedCapabilities.flatMap
        (census.selection predicate parent)) := by
  have ordered : (predicate.usedCapabilities.flatMap
      (census.selection predicate parent)).Pairwise
          (census.Precedes predicate parent) := by
    rw [List.pairwise_flatMap]
    constructor
    · intro capability _
      have places := pairwise_idxOf (truthful.nodupListing parent capability)
      refine (places.filter _).imp_of_mem ?_
      intro left right leftMember rightMember less
      exact ⟨capability, capability,
        leads_of_leading? (mem_selection.mp leftMember).2.1,
        leads_of_leading? (mem_selection.mp rightMember).2.1, .inr ⟨rfl, less⟩⟩
    · refine predicate.pairwise_usedCapabilities.imp ?_
      intro first second less left leftMember right rightMember
      exact ⟨first, second, leads_of_leading? (mem_selection.mp leftMember).2.1,
        leads_of_leading? (mem_selection.mp rightMember).2.1, .inl less⟩
  refine ⟨?_, ordered.imp Precedes.ne, ordered⟩
  intro udi
  rw [List.mem_flatMap]
  constructor
  · intro given
    obtain ⟨capability, _, member⟩ := given
    obtain ⟨listed, _, holds⟩ := mem_selection.mp member
    obtain ⟨isDevice, _, under⟩ := truthful.memListing.mp listed
    exact ⟨isDevice, under, holds⟩
  · intro given
    obtain ⟨isDevice, under, holds⟩ := given
    obtain ⟨named, isNamed, namedReported⟩ := shaped.exists_reported holds
    cases leading : census.leading? predicate udi with
    | none =>
        rw [leading?, List.find?_eq_none] at leading
        exact (leading named isNamed namedReported).elim
    | some capability =>
        obtain ⟨member, reported, _⟩ := leads_of_leading? leading
        exact ⟨capability, member, mem_selection.mpr
          ⟨truthful.memListing.mpr ⟨isDevice, reported, under⟩, leading, holds⟩⟩

/-- The capabilities of the predicate that devices of the backend may report. -/
def askedFor (census : Census β ο) (predicate : Predicate) : List Capability :=
  predicate.usedCapabilities.filter census.descriptor.supported.contains

/-- A listed device is led by the first capability asked for that lists it. -/
theorem Truthful.leading?_eq_some_iff (truthful : census.Truthful)
    {done rest : List Capability} {capability : Capability}
    (split : census.askedFor predicate = done ++ capability :: rest)
    {udi : String} (listed : udi ∈ census.listing parent capability) :
    census.leading? predicate udi = some capability ↔
      ∀ earlier ∈ done, udi ∉ census.listing parent earlier := by
  obtain ⟨isDevice, reported, under⟩ := truthful.memListing.mp listed
  have leading : census.leading? predicate udi =
      (census.askedFor predicate).find? (census.profile udi).reports := by
    rw [askedFor, List.find?_filter, leading?]
    congr 1
    funext other
    have supports := truthful.supports udi other isDevice
    cases otherReported : (census.profile udi).reports other <;> simp_all
  have nodup : (census.askedFor predicate).Nodup := by
    refine (predicate.pairwise_usedCapabilities.filter _).imp ?_
    intro left right less same
    obtain rfl := same
    exact Nat.lt_irrefl _ less
  rw [split] at nodup
  have notDone : capability ∉ done := fun member =>
    (List.nodup_append.mp nodup).2.2 capability member capability (by simp) rfl
  rw [leading, split, List.find?_append, List.find?_cons_of_pos reported]
  cases first : done.find? (census.profile udi).reports with
  | none =>
      rw [List.find?_eq_none] at first
      refine ⟨?_, fun _ => rfl⟩
      intro _ earlier member earlierListed
      exact first earlier member (truthful.memListing.mp earlierListed).2.1
  | some earlier =>
      have member := List.mem_of_find?_eq_some first
      constructor
      · intro same
        exact (notDone (Option.some.inj same ▸ member)).elim
      · intro none
        exact (none earlier member
          (truthful.memListing.mpr
            ⟨isDevice, List.find?_some first, under⟩)).elim

theorem Truthful.flatMap_selection_askedFor (truthful : census.Truthful) :
    (census.askedFor predicate).flatMap (census.selection predicate parent) =
      predicate.usedCapabilities.flatMap
        (census.selection predicate parent) := by
  rw [askedFor]
  induction predicate.usedCapabilities with
  | nil => rfl
  | cons capability capabilities induction =>
      rw [List.flatMap_cons, ← induction]
      by_cases supported : census.descriptor.supported.contains capability =
        true
      · rw [List.filter_cons_of_pos supported, List.flatMap_cons]
      · have nothing : census.selection predicate parent capability = [] := by
          rw [List.eq_nil_iff_forall_not_mem]
          intro udi member
          obtain ⟨isDevice, reported, _⟩ :=
            truthful.memListing.mp (mem_selection.mp member).1
          exact supported
            (by simpa using truthful.supports udi capability isDevice reported)
        rw [List.filter_cons_of_neg supported, nothing, List.nil_append]

end Order

end Census

end Hotplug
