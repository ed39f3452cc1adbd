import Hotplug.Backend.Table
import Hotplug.Proofs.Hub.Counting

/-!
# The storage that holds a path

The mounts of all storage are read one after the other, while handles that are
not needed any more are given up. Giving a handle up changes nothing for the
handles that are left, so the mounts are the same as if all handles had been
kept meanwhile. Among them the innermost one is found that the path lies in, as
long as both are taken by whole segments.
-/

namespace Hotplug

namespace HandleTable

variable {ρ : Type} {slots : HandleTable ρ} {udi other : String}
  {alive : ρ → Bool}

theorem map_object_release (several : udi = other → 2 ≤ slots.sharers other) :
    (release alive udi slots)[other]?.map (·.object) =
      slots[other]?.map (·.object) := by
  rw [getElem?_release]
  split
  · next same =>
      subst same
      have counted := several rfl
      cases found : slots[udi]? with
      | none => rfl
      | some slot =>
          simp only [sharers, found, Option.map_some,
            Option.getD_some] at counted
          have stays : ¬(slot.refs ≤ 1 ∧ slot.isValid alive = false) := by omega
          rw [Option.bind_some, released, if_neg stays]
          rfl
  · rfl

theorem object?_congr {others : HandleTable ρ}
    (same : slots[udi]?.map (·.object) = others[udi]?.map (·.object)) :
    slots.object? alive udi = others.object? alive udi := by
  have living (table : HandleTable ρ) : table.object? alive udi =
      (table[udi]?.map (·.object)).bind fun object => object.filter alive := by
    rw [object?]
    cases table[udi]? <;> rfl
  rw [living, living, same]

end HandleTable

namespace Hub

section Paths

variable {path mount : String} {entries : List (Handle × String)}
  {handle best : Handle} {length : Nat}

/-- The path is the mount or lies below it. -/
structure Holds (path mount : String) : Prop where
  mounted : mount ≠ ""
  within : ∃ rest, withSeparator path = withSeparator mount ++ rest

/-- The length of a mount as it is compared with others. -/
def depth (mount : String) : Nat := (withSeparator mount).utf8ByteSize

/-- The handle is the first of those with the longest mount that the path lies
in, and there is none if it is the null handle. -/
structure Innermost (path : String) (entries : List (Handle × String))
    (handle : Handle) :
    Prop where
  null_iff : handle = .null ↔ ∀ entry ∈ entries, ¬Holds path entry.2
  first : handle ≠ .null → ∃ before mount after,
    entries = before ++ (handle, mount) :: after ∧
    Holds path mount ∧ (∀ entry ∈ before, Holds path entry.2 →
      depth entry.2 < depth mount) ∧
      ∀ entry ∈ after, Holds path entry.2 → depth entry.2 ≤ depth mount

/-- A mount that does not end in a separator ends where a segment of the path
does. -/
theorem Holds.segment (holds : Holds path mount) {c : Char} {more : List Char}
    (begins : path.toList = mount.toList ++ c :: more) :
    c = '/' ∨ mount.toList.getLast? = some '/' := by
  by_cases separated : mount.toList.getLast? = some '/'
  · exact .inr separated
  · left
    obtain ⟨rest, whole⟩ := holds.within
    have exact : (withSeparator mount).toList = mount.toList ++ ['/'] := by
      rw [withSeparator, if_neg separated, String.toList_append]
      rfl
    have goesOn : ∃ later, (withSeparator path).toList =
        path.toList ++ later := by
      rw [withSeparator]
      split
      · exact ⟨[], (List.append_nil _).symm⟩
      · exact ⟨['/'], by rw [String.toList_append]; rfl⟩
    obtain ⟨later, longer⟩ := goesOn
    rw [whole, String.toList_append, exact, begins, List.append_assoc,
      List.append_assoc, List.append_cancel_left_eq] at longer
    exact (List.cons.inj longer).1.symm

theorem holds_iff :
    mount ≠ "" ∧ Text.startsBy (withSeparator path)
      (withSeparator mount) = true ↔
    Holds path mount := by
  rw [Text.startsBy_iff]
  exact ⟨fun ⟨mounted, within⟩ => ⟨mounted, within⟩,
    fun ⟨mounted, within⟩ => ⟨mounted, within⟩⟩

theorem depth_pos : 0 < depth mount := by
  rw [depth, withSeparator]
  split
  · next separated =>
      rw [Nat.pos_iff_ne_zero, Ne, String.utf8ByteSize_eq_zero_iff]
      rintro rfl
      simp at separated
  · rw [String.utf8ByteSize_append]
    exact Nat.add_pos_right _ (by decide)

/-- The handle leads the entries so far, with a mount of this length. -/
inductive Leads (path : String) : List (Handle × String) → Handle → Nat → Prop
  | nowhere {entries : List (Handle × String)}
    (none : ∀ entry ∈ entries, ¬Holds path entry.2) :
      Leads path entries .null 0
  | first {before after : List (Handle × String)} {handle : Handle}
    {mount : String} (filled : handle ≠ .null) (holds : Holds path mount)
      (deeper : ∀ entry ∈ before, Holds path entry.2 →
        depth entry.2 < depth mount)
      (deepest : ∀ entry ∈ after, Holds path entry.2 →
        depth entry.2 ≤ depth mount) :
      Leads path (before ++ (handle, mount) :: after) handle (depth mount)

theorem Leads.innermost (leads : Leads path entries best length) :
    Innermost path entries best := by
  cases leads with
  | nowhere none =>
      exact ⟨⟨fun _ => none, fun _ => rfl⟩, fun filled => absurd rfl filled⟩
  | @first before after _ mount filled holds deeper deepest =>
      refine ⟨⟨fun null => absurd null filled, fun none => ?_⟩, fun _ => ?_⟩
      · exact absurd holds (none (best, mount) (by simp))
      · exact ⟨before, mount, after, rfl, holds, deeper, deepest⟩

/-- One more entry leads if it holds the path and is deeper than the others that
do. -/
theorem Leads.pass (leads : Leads path entries best length)
    (holds : Holds path mount) (deeper : length < depth mount)
    (filled : handle ≠ .null) :
    Leads path (entries ++ [(handle, mount)]) handle (depth mount) := by
  refine .first filled holds ?_ (by simp)
  cases leads with
  | nowhere none =>
      exact fun entry member within => absurd within (none entry member)
  | first _ _ deeperBefore deepest =>
      intro entry member within
      rcases List.mem_append.mp member with before | rest
      · exact Nat.lt_trans (deeperBefore entry before within) deeper
      · rcases List.mem_cons.mp rest with rfl | after
        · exact deeper
        · exact Nat.lt_of_le_of_lt (deepest entry after within) deeper

theorem Leads.stay (leads : Leads path entries best length)
    (behind : ¬(Holds path mount ∧ length < depth mount)) :
    Leads path (entries ++ [(handle, mount)]) best length := by
  cases leads with
  | nowhere none =>
      refine .nowhere fun entry member => ?_
      rcases List.mem_append.mp member with earlier | last
      · exact none entry earlier
      · cases List.mem_singleton.mp last
        exact fun holds => behind ⟨holds, depth_pos⟩
  | first filled holds deeper deepest =>
      rw [List.append_assoc, List.cons_append]
      refine .first filled holds deeper fun entry member within => ?_
      rcases List.mem_append.mp member with earlier | last
      · exact deepest entry earlier within
      · cases List.mem_singleton.mp last
        exact Nat.le_of_not_lt fun deeper => behind ⟨within, deeper⟩

end Paths

section Blindness

variable {n : Nat} {α γ β ο κ ω : Type}

/-- The step neither looks at the slots nor changes them. -/
def Blind (step : Run (Hub n β ο κ ω) α) : Prop :=
  ∀ hub slots, step.start (hub.onSlots fun _ => slots) =
    ((step.start hub).1, (step.start hub).2.onSlots fun _ => slots)

theorem blind_pure (answer : α) : Blind (pure answer : Run (Hub n β ο κ ω) α) :=
  fun _ _ => rfl

theorem blind_atBackend (i : Fin n) (step : Run β α) :
    Blind (atBackend i step : Run (Hub n β ο κ ω) α) :=
  fun _ _ => rfl

theorem Blind.bind {step : Run (Hub n β ο κ ω) α}
    {next : α → Run (Hub n β ο κ ω) γ} (first : Blind step)
    (later : ∀ answer, Blind (next answer)) :
    Blind (step >>= next) := by
  intro hub slots
  rw [Run.start_bind, Run.start_bind, first hub slots]
  rcases step.start hub with ⟨reason | answer, left⟩
  · rfl
  · exact later answer left slots

theorem Blind.slots {step : Run (Hub n β ο κ ω) α} (blind : Blind step)
    (hub : Hub n β ο κ ω) :
    (step.start hub).2.registry.slots = hub.registry.slots := by
  have same : step.start hub = _ := blind hub hub.registry.slots
  rw [same]
  rfl

variable [Backend β ο]

/-- Where the storage behind a reference is mounted, or the empty text. -/
def mountBehind : Option (ObjectRef n ο) → Run (Hub n β ο κ ω) String
  | none => return ""
  | some ref => do
      if ← (deviceAt ref).reports .storageAccess then
        return ((← (deviceAt ref).property .storageAccess
          "FilePath" .fetched).bind Value.toText?).getD ""
      else return ""

theorem blind_mountBehind (ref : Option (ObjectRef n ο)) :
    Blind (mountBehind ref : Run (Hub n β ο κ ω) String) := by
  cases ref with
  | none => exact blind_pure _
  | some ref =>
      refine .bind (.bind (blind_atBackend _ _) fun _ => blind_pure _)
        fun reported => ?_
      cases reported with
      | false => exact blind_pure _
      | true => exact .bind (blind_atBackend _ _) fun _ => blind_pure _

theorem start_mountOf (handle : Handle) (hub : Hub n β ο κ ω) :
    (mountOf handle).start hub =
      (mountBehind (hub.object? handle)).start hub := by
  rw [mountOf, storage?, ask, Run.start_bind, Run.start_bind, Run.start_get]
  dsimp only
  cases hub.object? handle with
  | none => rfl
  | some ref =>
      simp only [mountBehind, Device.storage?, Run.start_bind]
      rcases ((deviceAt ref).reports .storageAccess).start
        hub with ⟨reason | reported, left⟩
      · rfl
      · cases reported <;> rfl

end Blindness

section Following

variable {n : Nat} {β ο κ ω : Type} {out : List Handle} {handle : Handle}
  {kept real : Hub n β ο κ ω}

/-- One hub is what another one has become by giving up handles: the handles
that are left are counted, and their slots refer to what they referred to. -/
structure Follows (out : List Handle) (kept real : Hub n β ο κ ω) : Prop where
  same : real = kept.onSlots fun _ => real.registry.slots
  counted : ∀ udi, real.registry.slots.sharers udi = out.count ⟨udi, true⟩
  bound : ∀ udi, ⟨udi, true⟩ ∈ out →
    real.registry.slots[udi]?.map (·.object) =
      kept.registry.slots[udi]?.map (·.object)

theorem Follows.swap {first second : Handle}
    (follows : Follows (first :: second :: out) kept real) :
    Follows (second :: first :: out) kept real where
  same := follows.same
  counted udi := (follows.counted udi).trans ((List.Perm.swap _ _ _).count_eq _)
  bound udi member := follows.bound udi
    ((List.Perm.swap _ _ _).mem_iff.mp member)

variable [Backend β ο]

theorem Follows.object? (follows : Follows out kept real)
    (member : handle ∈ out) :
    real.object? handle = kept.object? handle := by
  obtain ⟨udi, bound⟩ := handle
  cases bound with
  | false => rfl
  | true =>
      have alive : real.isAlive = kept.isAlive := by
        rw [follows.same]
        rfl
      change real.registry.slots.object? real.isAlive udi = _
      rw [alive]
      exact HandleTable.object?_congr (follows.bound udi member)

/-- A slot that is left counts more than the handle that is given up. -/
theorem Follows.release (follows : Follows (handle :: out) kept real) :
    Follows out kept (real.release handle) where
  same := by
    obtain ⟨udi, bound⟩ := handle
    cases bound with
    | false => exact follows.same
    | true =>
        change real.onSlots _ = _
        rw [follows.same]
        rfl
  counted := by
    have counts : Counts real.client (handle :: out) real :=
      ⟨follows.counted, rfl⟩
    exact counts.release.sharers
  bound other member := by
    rw [← follows.bound other (List.mem_cons_of_mem _ member)]
    obtain ⟨udi, bound⟩ := handle
    cases bound with
    | false => rfl
    | true =>
        refine HandleTable.map_object_release fun same => ?_
        subst same
        have others := List.count_pos_iff.mpr member
        rw [follows.counted, List.count_cons_self]
        omega

/-- A mount is read no matter which other handles were given up. -/
theorem Follows.read (follows : Follows out kept real) (member : handle ∈ out) :
    ∃ answer middle left, (mountOf handle).start kept = (answer, middle) ∧
      (mountOf handle).start real = (answer, left) ∧
        Follows out middle left := by
  rw [start_mountOf, start_mountOf, follows.object? member]
  have blind : Blind (mountBehind (kept.object? handle) :
      Run (Hub n β ο κ ω) String) :=
    blind_mountBehind _
  have ran := blind kept real.registry.slots
  rw [← follows.same] at ran
  rcases read : (mountBehind (kept.object? handle)).start
    kept with ⟨answer, middle⟩
  have slots : middle.registry.slots = kept.registry.slots := by
    rw [← blind.slots kept, read]
  rw [read] at ran
  refine ⟨answer, middle, _, rfl, ran, rfl, follows.counted, ?_⟩
  rw [slots]
  exact follows.bound

theorem start_mountOf_null (hub : Hub n β ο κ ω) :
    (mountOf .null).start hub = (.ok "", hub) := rfl

/-- The handle with the mount that is read for it. -/
def mounted (handle : Handle) : Run (Hub n β ο κ ω) (Handle × String) := do
  return (handle, ← mountOf handle)

/-- All storage, with the mounts as they are read one after the other. -/
def survey : Run (Hub n β ο κ ω) (List (Handle × String)) := do
  (← devicesWith .storageAccess none).mapM mounted

/-- What a lookup answers, given what a survey does after some entries. -/
inductive Decides (path : String) (done : List (Handle × String)) :
    Except Crash (List (Handle × String)) → Except Crash Handle → Prop
  | found {entries : List (Handle × String)} {handle : Handle} {length : Nat}
      (leads : Leads path (done ++ entries) handle length) :
      Decides path done (.ok entries) (.ok handle)
  | crashed (reason : Crash) : Decides path done (.error reason) (.error reason)

theorem Decides.cons {path : String} {done : List (Handle × String)}
    {entry : Handle × String} {surveyed : Except Crash (List (Handle × String))}
    {answer : Except Crash Handle}
    (decides : Decides path (done ++ [entry]) surveyed answer) :
    Decides path done (surveyed.map (entry :: ·)) answer := by
  cases decides with
  | found leads =>
      rw [List.append_assoc] at leads
      exact .found leads
  | crashed reason => exact .crashed reason

theorem start_mapM_mounted_cons {rest : List Handle} {mount : String}
    {middle : Hub n β ο κ ω}
    (read : (mountOf handle).start kept = (.ok mount, middle)) :
    (((handle :: rest).mapM mounted).start kept).1 =
      ((rest.mapM mounted).start middle).1.map ((handle, mount) :: ·) := by
  rw [List.mapM_cons, Run.start_bind, mounted, Run.start_bind, read]
  dsimp only [Run.start_pure]
  rw [Run.start_bind]
  rcases (rest.mapM mounted).start middle with ⟨reason | entries, left⟩ <;> rfl

theorem Follows.decides_innermost {path : String}
    {done : List (Handle × String)} {handles : List Handle} {best : Handle}
    {length : Nat} (follows : Follows (best :: (handles ++ out)) kept real)
    (leads : Leads path done best length) :
    Decides path done ((handles.mapM mounted).start kept).1
      ((innermost (withSeparator path) best length handles).start real).1 := by
  -- By induction on the handles: those that are still to be looked at are
  -- followed.
  induction handles generalizing done best length kept real with
  | nil =>
      have ends : Leads path (done ++ []) best length := by
        rwa [List.append_nil]
      exact .found ends
  | cons handle rest induction =>
      have member : handle ∈ best :: (handle :: rest ++ out) := by simp
      obtain ⟨reason | mount, middle, left, read, readReal, followsRead⟩ :=
        follows.read member
      · rw [List.mapM_cons, Run.start_bind, mounted, Run.start_bind,
          read, innermost,
          Run.start_bind, whileHolding, Run.onCrash,
            Run.start_ofStart, readReal]
        exact .crashed reason
      · rw [start_mapM_mounted_cons read, innermost, Run.start_bind,
          whileHolding, Run.onCrash, Run.start_ofStart, readReal]
        refine .cons ?_
        dsimp only
        split
        · next taken =>
            have holds : Holds path mount := holds_iff.mp ⟨taken.1, taken.2.1⟩
            have filled : handle ≠ .null := by
              rintro rfl
              rw [start_mountOf_null] at read
              cases read
              exact holds.mounted rfl
            rw [Run.start_bind, Run.start_modify]
            exact induction followsRead.release
              (leads.pass holds taken.2.2 filled)
        · next behind =>
            rw [Run.start_bind, Run.start_modify]
            refine induction followsRead.swap.release
              (leads.stay fun passes => behind ?_)
            have taken := holds_iff.mpr passes.1
            exact ⟨taken.1, taken.2, passes.2⟩

end Following

section Lookups

variable {n : Nat} {β ο κ ω : Type} [Backend β ο] {path : String}
  {pathExists : String → Bool}

theorem exists_count {ρ : Type} (slots : HandleTable ρ) :
    ∃ out : List Handle, ∀ udi, slots.sharers udi = out.count ⟨udi, true⟩ := by
  refine ⟨slots.toList.flatMap fun entry => List.replicate entry.2.refs
    ⟨entry.1, true⟩, ?_⟩
  intro udi
  rw [HandleTable.sharers, ← Named.lookup_toList]
  have distinct := Named.distinct_toList slots
  generalize slots.toList = entries at distinct
  induction entries with
  | nil => rfl
  | cons entry entries induction =>
      obtain ⟨name, slot⟩ := entry
      obtain ⟨first, distinct⟩ := List.pairwise_cons.mp distinct
      rw [List.flatMap_cons, List.count_append, ← induction distinct,
        List.count_replicate]
      by_cases same : udi = name
      · subst same
        simp [Named.lookup_eq_none first]
      · have test : (udi == name) = false := by simpa using same
        simp [List.lookup_cons, test, Ne.symm same]

/-- A lookup finds the innermost mount if a survey ends, and crashes as the
survey does otherwise. No handle is left but the one that is found. -/
inductive Finds (path : String) (hub : Hub n β ο κ ω) :
    Except Crash (List (Handle × String)) →
      Except Crash Handle × Hub n β ο κ ω → Prop
  | found {entries : List (Handle × String)} {handle : Handle}
    {left : Hub n β ο κ ω} (innermost : Innermost path entries handle)
      (counted : ∀ udi, left.registry.slots.sharers udi =
        hub.registry.slots.sharers udi + if handle =
          ⟨udi, true⟩ then 1 else 0) :
      Finds path hub (.ok entries) (.ok handle, left)
  | crashed {reason : Crash} {left : Hub n β ο κ ω}
      (counted : ∀ udi, left.registry.slots.sharers udi =
        hub.registry.slots.sharers udi) :
      Finds path hub (.error reason) (.error reason, left)

theorem decides_storageFromPath (there : pathExists path = true)
    (hub : Hub n β ο κ ω) :
    Decides path [] (survey.start hub).1
      ((storageFromPath pathExists path).start hub).1 := by
  obtain ⟨out, counted⟩ := exists_count hub.registry.slots
  have counts : Counts hub.client out hub := ⟨counted, rfl⟩
  have listed := Counts.account.yields_devicesWith .storageAccess none counts
  rw [survey, storageFromPath, if_pos there, Run.start_bind, Run.start_bind]
  rcases ran : (devicesWith .storageAccess none).start
    hub with ⟨reason | handles, left⟩
  · exact .crashed reason
  · have counted := (Counts.account.withNull (listed.of_start_ok ran)).sharers
    have follows : Follows (.null :: (handles ++ out)) left left :=
      ⟨rfl, counted, fun _ _ => rfl⟩
    exact follows.decides_innermost (.nowhere (by simp))

/-- A lookup of a path that is there finds the innermost mount in the order of
the listing. A handle has no mount unless it is valid and its device reports to
be storage, and a mount ends where a segment of the path does. -/
theorem finds_storageFromPath (there : pathExists path = true)
    (hub : Hub n β ο κ ω) :
    Finds path hub (survey.start hub).1
      ((storageFromPath pathExists path).start hub) ∧
      (∀ (handle : Handle) (state : Hub n β ο κ ω),
        (mountOf handle).start state =
          (mountBehind (state.object? handle)).start state) ∧
      ∀ mount c more, Holds path mount → path.toList =
        mount.toList ++ c :: more →
        c = '/' ∨ mount.toList.getLast? = some '/' := by
  refine ⟨?_, start_mountOf, fun mount c more holds begins =>
    holds.segment begins⟩
  obtain ⟨out, counted⟩ := exists_count hub.registry.slots
  have counts : Counts hub.client out hub := ⟨counted, rfl⟩
  have yields := Counts.account.yields_storageFromPath pathExists path counts
  have decides := decides_storageFromPath there hub
  rcases ran : (storageFromPath pathExists path).start hub with ⟨answer, left⟩
  rw [ran] at decides
  generalize (survey.start hub).1 = surveyed at decides ⊢
  cases decides with
  | found leads =>
      refine .found leads.innermost fun udi => ?_
      rw [counted, (yields.of_start_ok ran).sharers, List.count_cons]
      simp
  | crashed reason =>
      exact .crashed fun udi => ((yields.of_start_error ran).sharers udi).trans
        (counted udi).symm

/-- A root, and a stick that is mounted below it. -/
def shelf : Hub 1 TableBackend FixedDevice Unit Unit where
  backends :=
    let disks : TableBackend := { descriptor := .make "/disk" [.storageAccess] }
    let mount (udi path : String) : FixedDevice :=
      ⟨udi, none, "", [.storageAccess],
        [(.storageAccess, "FilePath", .text path)]⟩
    #v[(disks.insert (mount "/disk/root" "/")).insert
      (mount "/disk/stick" "/media/stick")]
  registry := { roster := [Fin.last 0] }
  client := ()

/-- What lies beside the stick is on the root. -/
theorem finds_storageFromPath_shelf :
    Finds "/media/stick-old" shelf
        (.ok [(⟨"/disk/root", true⟩, "/"),
          (⟨"/disk/stick", true⟩, "/media/stick")])
        ((storageFromPath (fun _ => true) "/media/stick-old").start shelf) ∧
      ((storageFromPath (fun _ => true) "/media/stick-old").start
        shelf).1.toOption = some ⟨"/disk/root", true⟩ := by
  have surveyed : (survey.start shelf).1 =
      .ok [(⟨"/disk/root", true⟩, "/"),
          (⟨"/disk/stick", true⟩, "/media/stick")] := by
    have answered : (survey.start shelf).1.toOption =
        some [(⟨"/disk/root", true⟩, "/"),
            (⟨"/disk/stick", true⟩, "/media/stick")] := by
      decide +kernel
    cases read : (survey.start shelf).1 with
    | error reason =>
        rw [read] at answered
        cases answered
    | ok entries =>
        rw [read] at answered
        cases answered
        rfl
  refine ⟨?_, by decide +kernel⟩
  rw [← surveyed]
  exact (finds_storageFromPath rfl shelf).1

end Lookups

end Hub

end Hotplug
