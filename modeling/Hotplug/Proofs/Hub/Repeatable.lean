import Hotplug.Proofs.Hub.Foreseen
import Hotplug.Proofs.Hub.UpToDate

/-!
# Queries that are repeated

While the services of a registry rest, a query that is repeated finds the same
devices in the same order. There are three exceptions, of which each changes
what the second run sees. A property that was asked of a single interface, and
that the service does not have, is kept as absent there; from then on this
interface carries it, and a question to whatever interface has the property ends
there. A slot that nothing counts and whose object is gone is removed by the
first run, and made again by the second. And the first run may judge a device
whose object only a user keeps, before the cache of its backend is loaded.
-/

namespace Hotplug

namespace ServiceBackend

variable {σ : Type} {outlook : Outlook σ} {backend : ServiceBackend σ}
  [Service σ]

/-- The backend answers the identifier when all are asked for. -/
def Lists (backend : ServiceBackend σ) (udi : String) : Prop :=
  ∃ ids left, (onCache Cache.identifiers).start backend =
    (.ok ids, left) ∧ udi ∈ ids

theorem Holds.lists (holds : Holds outlook backend) (right : outlook.Right)
    {udi : String} (listed : outlook.devices.contains udi = true) :
    backend.Lists udi := by
  obtain ⟨ids, left, started, rfl, _⟩ :=
    (answers_identifiers right backend holds).exists_start
  exact ⟨_, left, started,
    Std.ExtTreeMap.mem_keys.mpr (Std.ExtTreeMap.contains_iff_mem.mp listed)⟩

section Resting

/-- The service rests, whatever is cached. -/
structure Rests (outlook : Outlook σ) (backend : ServiceBackend σ) : Prop where
  settings : backend.settings = outlook.settings
  rest : outlook.rest backend.cache.service

theorem yields_cacheReload_resting (right : outlook.Right) {cache : Cache σ}
    (rest : outlook.rest cache.service) :
    (Cache.reload outlook.settings).Yields cache
      (fun ids left => ids = outlook.offered.keys ∧ outlook.rest left.service)
      fun _ => False := by
  simp only [Cache.reload, Cache.call, Run.yields_bind, Run.yields_zoom,
    Run.yields_modify, Run.yields_get, Run.yields_pure]
  refine (right.managedObjects cache.service rest).mono ?_ fun _ none => none
  intro reply service outcome
  obtain ⟨rfl, restLeft⟩ := outcome
  exact ⟨rfl, restLeft⟩

theorem answers_reload (right : outlook.Right) :
    Run.Answers (Rests outlook) (Rests outlook)
      (Backend.reload : Run (ServiceBackend σ) _) outlook.offered.keys := by
  intro backend rests
  change Run.Yields (onCache Cache.reload >>= _) _ _ _
  have loads := yields_cacheReload_resting right rests.rest
  rw [← rests.settings] at loads
  rw [Run.yields_bind, yields_onCache]
  refine loads.mono ?_ fun _ none => none
  intro ids cache outcome
  exact ⟨outcome.1, rests.settings, outcome.2⟩

theorem yields_objectOf_resting (right : outlook.Right)
    (rests : Rests outlook backend) (udi : String) :
    (objectOf udi).Yields backend (fun _ => Rests outlook) fun _ => False := by
  rw [objectOf, Run.yields_bind, Run.yields_get]
  cases backend.objects[udi]? with
  | some kept => exact rests
  | none =>
      change Run.Yields (if udi = backend.config.identifierPrefix then _
        else _) _ _ _
      split
      · exact ⟨rests.settings, rests.rest⟩
      · have contains : (Cache.contains outlook.settings udi).Yields
          backend.cache (fun _ left => outlook.rest left.service)
              fun _ => False := by
          rw [Cache.contains, Run.yields_bind, Cache.loadIfEmpty,
            Run.yields_bind, Run.yields_get]
          split
          · rw [Run.yields_bind]
            exact (yields_cacheReload_resting right rests.rest).mono
              (fun _ _ => And.right) fun _ => id
          · exact rests.rest
        rw [← rests.settings] at contains
        rw [Run.yields_bind, yields_onCache]
        refine contains.mono ?_ fun _ none => none
        intro answer cache rest
        split <;> exact ⟨rests.settings, rest⟩

end Resting

end ServiceBackend

namespace Hub

variable {n : Nat} {σ κ ω : Type} {prospect : Prospect n σ}
  {hub : Hub n (ServiceBackend σ) ServiceObject κ ω} [Service σ]

section Resting

/-- The services of the attached backends rest, whatever is cached and has a
slot. -/
structure Rests (prospect : Prospect n σ)
    (hub : Hub n (ServiceBackend σ) ServiceObject κ ω) :
    Prop where
  roster : hub.registry.roster = prospect.roster
  backends : ∀ i ∈ prospect.roster,
    ServiceBackend.Rests (prospect.outlooks i) (hub.backendAt i)

theorem Rests.release (rests : Rests prospect hub) (handle : Handle) :
    Rests prospect (hub.release handle) := by
  unfold Hub.release
  split
  · exact ⟨rests.roster, rests.backends⟩
  · exact rests

theorem Rests.releaseAll (rests : Rests prospect hub) (handles : List Handle) :
    Rests prospect (hub.releaseAll handles) := by
  induction handles generalizing hub with
  | nil => exact rests
  | cons handle handles induction => exact induction (rests.release handle)

omit [Service σ] in
theorem Rests.ofBackend (rests : Rests prospect hub) {i : Fin n}
    {backend : ServiceBackend σ}
    (restsLeft : ServiceBackend.Rests (prospect.outlooks i) backend) :
    Rests prospect (hub.withBackend i backend) where
  roster := rests.roster
  backends j member := by
    rw [backendAt_withBackend]
    split
    · next same =>
        subst same
        exact restsLeft
    · exact rests.backends j member

theorem answers_find_resting
    (right : ∀ i ∈ prospect.roster, (prospect.outlooks i).Right)
    (udi : String) :
    Run.Answers (Rests prospect :
      Hub n (ServiceBackend σ) ServiceObject κ ω → Prop)
      (Rests prospect) (find udi) (handleOf udi) := by
  intro hub rests
  by_cases empty : udi = ""
  · subst empty
    exact yields_find_null.mpr ⟨rfl, rests⟩
  · cases present : hub.registry.slots[udi]? with
    | some slot =>
        rw [yields_find_of_slot empty present]
        exact ⟨(if_neg empty).symm, rests.roster, rests.backends⟩
    | none =>
        rw [yields_find_of_no_slot empty present, yields_makeObject]
        cases route : hub.route? udi with
        | none => exact ⟨(if_neg empty).symm, rests.roster, rests.backends⟩
        | some i =>
            have member : i ∈ prospect.roster :=
              rests.roster ▸ (startsBy_of_route? route).1
            dsimp only
            rw [yields_atBackend]
            refine (ServiceBackend.yields_objectOf_resting (right i member)
              (rests.backends i member) udi).mono ?_ fun _ none => none
            intro found backend restsLeft
            have left : Rests prospect (hub.withBackend i backend) :=
              rests.ofBackend restsLeft
            exact ⟨(if_neg empty).symm, left.roster, left.backends⟩

/-- To load everything and find all devices answers the same each time. -/
theorem determined_everyDevice
    (right : ∀ i ∈ prospect.roster, (prospect.outlooks i).Right) :
    Run.Determined (Rests prospect :
      Hub n (ServiceBackend σ) ServiceObject κ ω → Prop)
      (Rests prospect) everyDevice := by
  have rounds : Run.Determined
      (Rests prospect : Hub n (ServiceBackend σ) ServiceObject κ ω → Prop)
        (Rests prospect)
      (prospect.roster.foldlM (fun found i => do
        findAll found (← whileHolding found (atBackend i Backend.reload)))
            []) := by
    refine Run.Settles.foldlM trivial fun found _ i member => ?_
    have loading : Run.Settles (fun _ => True)
        (Rests prospect : Hub n (ServiceBackend σ) ServiceObject κ ω → Prop)
          (Rests prospect)
        (atBackend i Backend.reload) :=
      ⟨_, trivial, (ServiceBackend.answers_reload (right i member)).zoom
        (fun _ rests => rests.backends i member)
          fun _ rests _ => rests.ofBackend⟩
    refine (loading.onCrash _).bind fun ids _ =>
      Run.Settles.foldlM trivial fun found _ udi _ => ?_
    have finding : Run.Determined
        (Rests prospect : Hub n (ServiceBackend σ) ServiceObject κ ω → Prop)
          (Rests prospect)
        (find udi) := ⟨_, trivial, answers_find_resting right udi⟩
    exact Run.Determined.map (finding.onCrash _) _
  refine rounds.bindGet fun hub rests => ?_
  rw [rests.roster]

end Resting

/-- A second query sees of the hub what the first one saw. -/
structure Steady (predicate : Predicate) (parent : Option String)
    (hub : Hub n (ServiceBackend σ) ServiceObject κ ω) : Prop where
  unmixed : ∀ i ∈ hub.registry.roster,
    predicate.Unmixed (hub.backendAt i).config parent
  /-- A slot that nothing counts is valid if an object would be found for its
  identifier. -/
  repaired : ∀ (udi : String) slot, hub.registry.slots[udi]? = some slot →
    slot.refs = 0 → Resolves udi hub → slot.isValid hub.isAlive = true
  /-- If a user holds an object of a backend that has loaded nothing, no other
  backend lists the identifiers that are routed to this one. -/
  unshared : ∀ ref ∈ hub.held,
    (hub.backendAt ref.backend).cache.devices.isEmpty = true →
    ∀ udi, hub.route? udi = some ref.backend →
      ∀ i ∈ hub.registry.roster, i ≠ ref.backend → ¬(hub.backendAt i).Lists udi

/-- The outlooks on the backends of a hub whose services rest. -/
theorem exists_outlooks (resting : ∀ i ∈ hub.registry.roster,
      Service.AtRest (hub.backendAt i).cache.service) (watched : List String) :
    ∃ outlooks : Fin n → Outlook σ, ∀ i,
      (outlooks i).settings = (hub.backendAt i).settings ∧
        (outlooks i).watched = watched ∧
      (i ∈ hub.registry.roster →
        (outlooks i).Right ∧ (outlooks i).Covers (hub.backendAt i).cache) := by
  have each : ∀ i, ∃ outlook : Outlook σ,
      outlook.settings = (hub.backendAt i).settings ∧
        outlook.watched = watched ∧
      (i ∈ hub.registry.roster →
        outlook.Right ∧ outlook.Covers (hub.backendAt i).cache) := by
    intro i
    by_cases member : i ∈ hub.registry.roster
    · obtain ⟨outlook, settings, isWatched, right, covers⟩ :=
        Outlook.exists_of_atRest (hub.backendAt i).settings
          (resting i member) watched
      exact ⟨outlook, settings, isWatched, fun _ => ⟨right, covers⟩⟩
    · exact ⟨⟨(hub.backendAt i).settings, fun _ => False, .ok ∅, fun key =>
        .error (.unknownObject key.udi), ∅, [], watched⟩, rfl,
          rfl, (absurd · member)⟩
  exact Classical.axiomOfChoice each

/-- What is foreseen of a hub, given the outlooks on its backends. -/
def prospectOf (outlooks : Fin n → Outlook σ)
    (hub : Hub n (ServiceBackend σ) ServiceObject κ ω) : Prospect n σ where
  roster := hub.registry.roster
  outlooks := outlooks
  valid udi :=
    match hub.registry.slots[udi]? with
    | some slot => slot.isValid hub.isAlive = true
    | none => ∃ i, hub.route? udi = some i ∧ (outlooks i).Offers udi
  stuck udi := ∃ slot, hub.registry.slots[udi]? = some slot ∧ 0 < slot.refs ∧
    slot.isValid hub.isAlive = false

section Beginning

variable {outlooks : Fin n → Outlook σ} {predicate : Predicate}
  {parent : Option String}

theorem resolves_of_offers {i : Fin n} {udi : String} (anchored : hub.Anchored)
    (holds : ServiceBackend.Holds (outlooks i) (hub.backendAt i))
    (right : (outlooks i).Right) (route : hub.route? udi = some i)
    (offers : (outlooks i).Offers udi) :
    Resolves udi hub := by
  obtain ⟨found, left, started, offered, _⟩ :=
    (ServiceBackend.yields_objectOf_foreseen right
    holds (anchored.wellKept i) udi).exists_start
  obtain ⟨kept, rfl⟩ := Option.isSome_iff_exists.mp (offered.mpr offers)
  exact ⟨i, kept, route, congrArg Prod.fst started⟩

/-- The device behind a valid slot is that of a loaded backend, or a user keeps
it alive. -/
theorem shows_or_held {i : Fin n} {udi : String}
    {slot : HandleSlot (ObjectRef n ServiceObject)} (anchored : hub.Anchored)
    (holds : ServiceBackend.Holds (outlooks i) (hub.backendAt i))
    (found : hub.registry.slots[udi]? = some slot)
    (valid : slot.isValid hub.isAlive = true) (route : hub.route? udi = some i)
    (notPrefix : udi ≠ (outlooks i).identifierPrefix) :
    (outlooks i).Shows (hub.backendAt i).cache ∨
      ∃ ref ∈ hub.held, ref.backend = i ∧
        (hub.backendAt i).cache.devices.isEmpty = true := by
  obtain ⟨ref, isRef⟩ := Option.isSome_iff_exists.mp valid
  obtain ⟨bound, alive⟩ := Option.filter_eq_some_iff.mp isRef
  obtain rfl : ref.backend = i :=
    Option.some.inj ((anchored.routed udi slot ref found bound).symm.trans
      route)
  have reserves := anchored.reserved udi slot ref found bound
  rcases (Bool.or_eq_true _ _).mp alive with kept | held
  · obtain ⟨other, kept, isKept, same⟩ := Named.any_values_iff.mp kept
    obtain rfl := reserves.only other kept isKept (eq_of_beq same)
    have housed := (anchored.wellKept ref.backend).housed other kept isKept
    rw [holds.identifierPrefix] at housed
    exact .inl (holds.displays (housed.resolve_left notPrefix)).cache
  · rcases holds.cache with shows | awaits
    · exact .inl shows
    · obtain ⟨keeper, member, same⟩ := List.any_eq_true.mp held
      rw [ObjectRef.sameObject, Bool.and_eq_true] at same
      exact .inr ⟨keeper, member, (eq_of_beq same.1).symm, awaits.empty⟩

theorem foreseen_prospectOf (anchored : hub.Anchored)
    (steady : hub.Steady predicate parent)
    (settings : ∀ i, (outlooks i).settings = (hub.backendAt i).settings)
    (right : ∀ i ∈ hub.registry.roster, (outlooks i).Right)
    (covers : ∀ i ∈ hub.registry.roster,
      (outlooks i).Covers (hub.backendAt i).cache) :
    (prospectOf outlooks hub).Sound ∧
      Foreseen (prospectOf outlooks hub) none none hub := by
  have holds : ∀ i ∈ hub.registry.roster,
      ServiceBackend.Holds (outlooks i) (hub.backendAt i) :=
    fun i member => ⟨(settings i).symm, covers i member⟩
  have prefixes : ∀ i, (outlooks i).identifierPrefix = hub.prefixAt i := by
    intro i
    rw [Outlook.identifierPrefix, settings]
    rfl
  have routes : ∀ udi, (prospectOf outlooks hub).route? udi =
      hub.route? udi := by
    intro udi
    change (hub.registry.roster.find? fun i =>
      Text.startsBy udi (outlooks i).identifierPrefix) = _
    simp only [prefixes]
    rfl
  have attached : ∀ {udi i}, hub.route? udi = some i →
      i ∈ hub.registry.roster :=
    fun route => (startsBy_of_route? route).1
  refine ⟨⟨right, ?_, ?_⟩, rfl, fun i => (settings i).symm,
    anchored, covers, by simp, ?_, ?_, by simp, ?_, ?_⟩
  · intro udi offers
    obtain ⟨i, route, offers⟩ := offers
    rw [routes] at route
    cases found : hub.registry.slots[udi]? with
    | none =>
        exact .inl (by simpa only [prospectOf, found] using ⟨i, route, offers⟩)
    | some slot =>
        cases valid : slot.isValid hub.isAlive with
        | true => exact .inl (by simpa only [prospectOf, found] using valid)
        | false =>
            refine .inr ⟨slot, found, Nat.pos_of_ne_zero
              fun unused => ?_, valid⟩
            have resolves := resolves_of_offers anchored
              (holds i (attached route)) (right i (attached route)) route offers
            rw [steady.repaired udi slot found unused resolves] at valid
            contradiction
  · intro udi valid stuck
    obtain ⟨slot, found, _, invalid⟩ := stuck
    simp only [prospectOf, found, invalid] at valid
    contradiction
  · intro udi slot found
    simp only [prospectOf, found]
  · intro udi absent valid
    simp only [prospectOf, absent] at valid
    obtain ⟨i, route, offers⟩ := valid
    exact ⟨i, (routes udi).trans route, offers⟩
  · intro udi stuck
    obtain ⟨slot, found, counts, _⟩ := stuck
    exact ⟨slot, found, counts⟩
  · intro udi i slotted valid route notPrefix
    rw [routes] at route
    obtain ⟨slot, found⟩ := slotted
    simp only [prospectOf, found] at valid
    rcases shows_or_held anchored (holds i (attached route)) found valid
        route notPrefix with
      shows | ⟨ref, member, rfl, empty⟩
    · exact .inl shows
    · refine .inr fun j memberToo apart listed => ?_
      exact steady.unshared ref member empty udi route j memberToo apart
        ((holds j memberToo).lists (right j memberToo) listed)

/-- Of a steady hub whose services rest, a query finds the same handles
again. -/
theorem exists_start_select_of_steady (anchored : hub.Anchored)
    (resting : ∀ i ∈ hub.registry.roster,
      Service.AtRest (hub.backendAt i).cache.service)
    (steady : hub.Steady predicate parent)
    (filled : predicate.isEmpty = false) :
    ∃ found left, (select predicate parent).start hub = (.ok found, left) ∧
      ∀ dropped, (∀ handle ∈ dropped, handle ∈ found) → ∃ again,
        (select predicate parent).start (left.releaseAll dropped) =
          (.ok found, again) := by
  obtain ⟨outlooks, regards⟩ := exists_outlooks resting predicate.genericNames
  obtain ⟨sound, foreseen⟩ := foreseen_prospectOf anchored steady
    (fun i => (regards i).1)
    (fun i member => ((regards i).2.2 member).1)
      fun i member => ((regards i).2.2 member).2
  have watches : ∀ i ∈ hub.registry.roster,
      ServiceBackend.Watches (outlooks i) predicate parent := by
    intro i member
    refine ⟨(regards i).2.1, ?_⟩
    rw [(regards i).1]
    exact steady.unmixed i member
  obtain ⟨found, left, started, again⟩ :=
    (settles_select sound watches filled).again foreseen
  refine ⟨found, left, started, fun dropped chosen => again _
    fun valid later => ?_⟩
  exact later.releaseAll sound fun handle member => valid handle
    (chosen handle member)

/-- The empty query loads everything each time, so that nothing else matters. -/
theorem exists_start_select_of_empty
    (resting : ∀ i ∈ hub.registry.roster,
      Service.AtRest (hub.backendAt i).cache.service)
    (empty : predicate.isEmpty = true) :
    ∃ found left, (select predicate parent).start hub = (.ok found, left) ∧
      ∀ dropped, ∃ again,
        (select predicate parent).start (left.releaseAll dropped) =
          (.ok found, again) := by
  obtain ⟨outlooks, regards⟩ := exists_outlooks resting predicate.genericNames
  have rests : Rests (prospectOf outlooks hub) hub := by
    refine ⟨rfl, fun i member => ⟨(regards i).1.symm, ?_⟩⟩
    rcases ((regards i).2.2 member).2 with shows | awaits
    · exact shows.rest
    · exact awaits.rest
  have determined : Run.Determined
      (Rests (prospectOf outlooks hub) :
        Hub n (ServiceBackend σ) ServiceObject κ ω → Prop)
      (Rests (prospectOf outlooks hub)) (select predicate parent) := by
    rw [select, empty]
    split
    · exact .pure []
    · exact determined_everyDevice fun i member => ((regards i).2.2 member).1
  obtain ⟨found, left, started, again⟩ := determined.again rests
  exact ⟨found, left, started, fun dropped => again _
    fun _ later => later.releaseAll dropped⟩

end Beginning

end Hub

namespace World

variable {n : Nat} {σ κ μ : Type} [Service σ]

/-- Whatever was done to a new registry whose services rest: a query that is
repeated finds the same handles in the same order, whichever of them were given
up in the meantime, if the registry is steady for it or the query is empty. -/
theorem exists_start_query_again {backends : Vector (ServiceBackend σ) n}
    (new : ∀ (i : Fin n) (udi : String), (backends.get i).objects[udi]? = none)
    {roster : List (Fin n)} {memory : μ} {pathExists : String → Bool}
    {depth : Nat}
    {react : κ → DeviceEvent → World n (ServiceBackend σ) ServiceObject κ μ →
      Conduct n (ServiceBackend σ) ServiceObject κ μ}
    (conduct : ∀ callback event world, (react callback event world).Orderly)
    {deeds : List (Deed n (ServiceBackend σ) ServiceObject κ μ)}
    (orderly : ∀ deed ∈ deeds, deed.Orderly)
    {world : World n (ServiceBackend σ) ServiceObject κ μ}
    (reached : (fresh backends roster memory).afterAll pathExists react
      depth deeds = world)
    (resting : ∀ i ∈ world.registry.roster,
      Service.AtRest (Hub.backendAt i world).cache.service)
    {text : String} {parent : Option String}
    (steady : ∀ predicate, Predicate.parse text = .ok predicate →
      predicate.isEmpty = false → Hub.Steady predicate parent world) :
    ∃ found left, (Hub.query text parent).start world = (.ok found, left) ∧
      ∀ dropped, (∀ handle ∈ dropped, handle ∈ found) → ∃ again,
        (Hub.query text parent).start (left.releaseAll dropped) =
          (.ok found, again) := by
  subst reached
  have anchored := anchored_afterAll (anchored_fresh roster memory new)
    pathExists conduct depth orderly
  rw [Hub.query, Predicate.parseOrInvalid]
  cases parsed : Predicate.parse text with
  | error failure => exact ⟨[], _, rfl, fun dropped _ => ⟨_, rfl⟩⟩
  | ok predicate =>
      cases filled : predicate.isEmpty with
      | false =>
          exact Hub.exists_start_select_of_steady anchored resting
            (steady predicate parsed filled) filled
      | true =>
          obtain ⟨found, left, started, again⟩ :=
            @Hub.exists_start_select_of_empty _ _ _ _ _ _ predicate
              parent resting filled
          exact ⟨found, left, started, fun dropped _ => again dropped⟩

section Desk

def sda : String := "/s/b/sda"

/-- A service with one disk, whose file system has a label. -/
def desk : ServiceBackend MemoryService where
  settings := .ofConfig .compact
  cache :=
    { service :=
        { objects := Std.ExtTreeMap.ofList
            [(sda, Std.ExtTreeMap.ofList
              [("s.Block", ∅),
                ("s.Filesystem",
                  Std.ExtTreeMap.ofList [("Label", Value.text "x")])])] } }

/-- A new registry over this service, after some deeds. -/
def deskAfter
    (deeds : List (Deed 1 (ServiceBackend MemoryService)
      ServiceObject Unit Unit)) :
    World 1 (ServiceBackend MemoryService) ServiceObject Unit Unit :=
  (fresh (.singleton desk) [Fin.last 0] ()).afterAll (fun _ => true)
    (fun _ _ _ => .rest) 0 deeds

def resized : Signal := .propertiesChanged sda "s.Block" ∅ ["Size"]

/-- The disk is found and its handle given up; then the service says that its
size changed. -/
def visit :
    List (Deed 1 (ServiceBackend MemoryService) ServiceObject Unit Unit) :=
  [.find sda, .drop ⟨sda, true⟩, .atBackend (Fin.last 0)
    (do let _ ← ServiceBackend.absorb resized)]

/-- A query that reads a property of single interfaces, but not the one it
compares whatever interface has it. -/
def unmixedText : String :=
  "GenericInterface.Label == 'x' AND (Block.IdUUID == 'y' OR IS Block)"

/-- A query that reads the property that it also compares whatever interface has
it. -/
def mixedText : String :=
  "GenericInterface.Label == 'x' AND (Block.Label == 'y' OR IS Block)"

theorem orderly_visit : ∀ deed ∈ visit, deed.Orderly := by
  have absorbs : ServiceBackend.Orderly
      (do let _ ← (ServiceBackend.absorb resized :
          Run (ServiceBackend MemoryService) Nat)) :=
    (ServiceBackend.orderly_absorb resized).discard
  simpa [visit, Deed.Orderly] using absorbs

theorem steady_visit {predicate : Predicate}
    (parsed : Predicate.parse unmixedText = .ok predicate) :
    Hub.Steady predicate none (deskAfter visit) := by
  constructor
  · intro i _
    obtain rfl : i = 0 := Subsingleton.elim i 0
    have checks : (Predicate.parse unmixedText).toOption.all (fun predicate =>
        predicate.genericNames.all fun name => !(predicate.namesRead
          (Hub.backendAt 0 (deskAfter visit)).config none).contains name) =
              true := by
      decide +kernel
    rw [parsed] at checks
    simpa [Predicate.Unmixed, Except.toOption] using checks
  · intro udi slot found _ _
    have valid : ∀ entry ∈ (deskAfter visit).registry.slots.toList,
        entry.2.isValid (deskAfter visit).isAlive = true := by
      decide +kernel
    exact valid (udi, slot)
      (Std.ExtTreeMap.mem_toList_iff_getElem?_eq_some.mpr found)
  · intro ref member
    have none : (deskAfter visit).held.isEmpty = true := by decide +kernel
    rw [List.isEmpty_iff.mp none] at member
    contradiction

theorem exists_start_query_again_desk :
    ∃ left, (Hub.query unmixedText none).start (deskAfter visit) =
        (.ok [⟨sda, true⟩], left) ∧
      ∃ again, (Hub.query unmixedText none).start
        (left.releaseAll [⟨sda, true⟩]) = (.ok [⟨sda, true⟩], again) := by
  have new : ∀ (i : Fin 1) (udi : String),
      ((Vector.singleton desk).get i).objects[udi]? = none := by
    intro i udi
    obtain rfl : i = Fin.last 0 := Subsingleton.elim i _
    exact Std.ExtTreeMap.getElem?_empty
  have rests : ∀ (_ : Unit) (_ : DeviceEvent)
    (_ : World 1 (ServiceBackend MemoryService)
      ServiceObject Unit Unit),
        (.rest : Conduct 1 (ServiceBackend MemoryService)
        ServiceObject Unit Unit).Orderly := fun _ _ _ => trivial
  obtain ⟨found, left, started, again⟩ :=
    exists_start_query_again new rests orderly_visit
    (show _ = deskAfter visit from rfl) (fun _ _ => MemoryService.atRest _)
    fun predicate parsed _ => @steady_visit predicate parsed
  have answered : ((Hub.query unmixedText none).start
    (deskAfter visit)).1.toOption = some [⟨sda, true⟩] := by
    decide +kernel
  rw [started] at answered
  obtain rfl : found = [⟨sda, true⟩] := Option.some.inj answered
  exact ⟨left, started, again [⟨sda, true⟩] fun _ => id⟩

/-- The disk is not found again once its block interface is known to have no
label. -/
theorem start_query_mixedText :
    ((Hub.query mixedText none).start (deskAfter [])).1.toOption =
      some [⟨sda, true⟩] ∧ ((Hub.query mixedText none).start
        ((Hub.query mixedText none).start (deskAfter [])).2).1.toOption =
          some [] := by
  decide +kernel

/-- The disk is taken out and put back, and its slot is not told. -/
def replug :
    List (Deed 1 (ServiceBackend MemoryService) ServiceObject Unit Unit) :=
  [.atBackend (Fin.last 0)
    (do let _ ← ServiceBackend.absorb (.interfacesRemoved sda
      ["s.Block", "s.Filesystem"])),
    .atBackend (Fin.last 0)
      (do let _ ← ServiceBackend.absorb (.interfacesAdded sda
      (Std.ExtTreeMap.ofList [("s.Block", ∅)])))]

/-- The slot that nothing counts is removed by the first query, and made again
by the next. -/
example :
    ((Hub.query "IS Block" none).start
        (deskAfter ([.find sda, .drop ⟨sda, true⟩] ++ replug))).1.toOption =
          some [] ∧
      ((Hub.query "IS Block" none).start ((Hub.query "IS Block" none).start
        (deskAfter ([.find sda, .drop ⟨sda, true⟩] ++ replug))).2).1.toOption =
          some [⟨sda, true⟩] := by
  decide +kernel

end Desk

end World

end Hotplug
