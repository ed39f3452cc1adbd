import Hotplug.Proofs.Cache.Arrival
import Hotplug.Proofs.Cache.Entrance

/-!
# Interfaces outside the namespace

Announced interfaces are taken in only if their names lie in the namespace of
the service. Loading takes in what the service lists, and a change takes in the
interface that it is about; no name is looked at there. So a cached interface
lies in the namespace, or one of these two turns brought it.
-/

namespace Hotplug

namespace Feed

variable {σ : Type} [Service σ] {settings : CacheSettings σ}
  {udi interface : String}

/-- The turn brings an interface of a device into the cache, whatever its name
is. -/
def Turn.Brings (settings : CacheSettings σ) (feed : Feed σ)
    (udi interface : String) :
    Turn σ → Prop
  | .serve _ => False
  | .deliver => feed.cache.tracks udi = true ∧ ∃ changed invalidated,
      feed.pending.head? = some (.propertiesChanged udi interface
        changed invalidated)
  | .request asked => asked.Loads feed.cache ∧
      Cache.Offers settings.config feed.cache.service udi interface

theorem Turn.entered_after
    (baseline : settings.config.admitsInterface
      settings.config.baselineInterface = true)
    (turn : Turn σ) (feed : Feed σ) :
    Cache.Entered settings.config
      (fun udi interface => settings.config.admitsInterface interface = true ∨
        turn.Brings settings feed udi interface)
      feed.cache (turn.after settings feed).cache := by
  obtain ⟨cache, pending⟩ := feed
  cases turn with
  | serve change => exact .congr rfl
  | deliver =>
      cases pending with
      | nil => exact .refl
      | cons signal later =>
          refine deliver_of_yields
            (Cache.yields_absorb_entered signal (fun _ _ => .inl)
            (fun _ => .inl baseline) ?_)
          intro udi interface changed invalidated same tracked
          exact .inr ⟨tracked, changed, invalidated, congrArg some same⟩
  | request asked =>
      apply Run.Yields.left
      apply asked.yields_perform_entered
      intro loads udi interface offers
      exact .inr ⟨loads, offers⟩

/-- An interface that is cached was cached at first, lies in the namespace, or
was brought by one of the turns. -/
theorem hasInterface_afterAll
    (baseline : settings.config.admitsInterface
      settings.config.baselineInterface = true)
    (turns : List (Turn σ)) (feed : Feed σ)
    (has : (afterAll settings turns feed).cache.hasInterface udi interface =
      true) :
    feed.cache.hasInterface udi interface = true ∨
      settings.config.admitsInterface interface = true ∨
      ∃ earlier turn later, turns = earlier ++ turn :: later ∧
        turn.Brings settings (afterAll settings earlier feed)
          udi interface := by
  rcases brought_about (fun feed => feed.cache.hasInterface udi interface =
    true) turns feed has with before | ⟨earlier, turn, later, rfl, lacks, here⟩
  · exact .inl before
  · rw [Cache.hasInterface_eq_content] at lacks here
    have entered := (turn.entered_after baseline
      (afterAll settings earlier feed)).content udi
    rcases entered.interfaces interface here with before | admits | brings
    · exact absurd before lacks
    · exact .inr (.inl admits)
    · exact .inr (.inr ⟨earlier, turn, later, rfl, brings⟩)

/-- In a run from a new cache whose baseline interface lies in the namespace,
every cached interface lies in the namespace, unless a turn before loaded it
from the service or handled a change of it for a tracked device. -/
theorem admitsInterface_or_brought
    (baseline : settings.config.admitsInterface
      settings.config.baselineInterface = true)
    (service : σ) (turns : List (Turn σ))
    (has : (afterAll settings turns ⟨{ service := service },
      []⟩).cache.hasInterface udi interface = true) :
    settings.config.admitsInterface interface = true ∨
      ∃ earlier turn later, turns = earlier ++ turn :: later ∧
        turn.Brings settings (afterAll settings earlier
          ⟨{ service := service }, []⟩) udi interface := by
  rcases hasInterface_afterAll baseline turns _ has with absurd | result
  · simp [Cache.hasInterface] at absurd
  · exact result

def standard : CacheSettings MemoryService := .ofConfig .compact

def busInterface : String := "bus.Properties"

/-- A disk that also lists an interface of the bus. -/
def busDisk : Interfaces := bare.insert busInterface ∅

/-- The disk is announced with all that it lists. -/
def announcing : List (Turn MemoryService) := [plug busDisk, .deliver]

theorem admitsInterface_or_brought_announcing :
    let reached := (afterAll standard announcing unplugged).cache
    reached.interfacesOf diskUdi = ["s.Block"] ∧
      (standard.config.admitsInterface "s.Block" = true ∨
        ∃ earlier turn later, announcing = earlier ++ turn :: later ∧
          turn.Brings standard (afterAll standard earlier unplugged) diskUdi
            "s.Block") := by
  have carried : (afterAll standard announcing unplugged).cache.hasInterface
    diskUdi "s.Block" = true := by decide +kernel
  have baseline : standard.config.admitsInterface
      standard.config.baselineInterface = true := by
    decide +kernel
  constructor
  · decide +kernel
  · exact admitsInterface_or_brought baseline {} announcing carried

/-- The disk is loaded before its signal is handled. -/
def loading : List (Turn MemoryService) := [plug busDisk, .request .reload]

/-- The foreign interface of the announced disk is said to have changed. -/
def changing : List (Turn MemoryService) :=
  let version : Properties := Std.ExtTreeMap.ofList [("Version", Value.uint 1)]
  announcing ++
    [.serve fun service =>
      ([.propertiesChanged diskUdi busInterface version []], service), .deliver]

/-- The filter on names is passed by in both runs. -/
theorem hasInterface_loading_changing :
    standard.config.admitsInterface standard.config.baselineInterface = true ∧
      standard.config.admitsInterface busInterface = false ∧
      (afterAll standard loading unplugged).cache.hasInterface diskUdi
        busInterface = true ∧
      (afterAll standard changing unplugged).cache.hasInterface
        diskUdi busInterface = true := by
  decide +kernel

end Feed

end Hotplug
