import Hotplug.Proofs.Cache.Entrance
import Hotplug.Service.Memory

/-!
# What no cache holds

No identifier that the configuration leaves out is tracked or told of, and a
signal without an identifier does nothing. No value in a cache, or in an answer,
is a text that was sent as bytes with a zero byte at the end: such a value has
become the text.
-/

namespace Hotplug

namespace Text

/-- The bytes of a text. -/
def utf8 (text : String) : List UInt8 := text.toByteArray.data.toList

theorem decodeUtf8?_eq_some_iff {bytes : List UInt8} {text : String} :
    decodeUtf8? bytes = some text ↔ bytes = utf8 text := by
  have whole : bytes.toByteArray = text.toByteArray ↔ bytes = utf8 text := by
    rw [utf8, ByteArray.ext_iff, List.data_toByteArray, ← Array.toList_inj]
  rw [← whole, decodeUtf8?, String.fromUTF8?]
  constructor
  · intro decoded
    split at decoded
    · rw [← Option.some.inj decoded]
      rfl
    · cases decoded
  · intro same
    have valid : bytes.toByteArray.IsValidUTF8 := same ▸ text.isValidUTF8
    rw [dif_pos valid]
    exact congrArg some (String.toByteArray_inj.mp same)

end Text

namespace Value

variable {value : Value} {content : List UInt8} {text : String}

/-- A text was sent as its bytes, with a zero byte at the end and nowhere
else. -/
def IsTerminatedText (value : Value) : Prop :=
  ∃ text, 0 ∉ Text.utf8 text ∧ value = .bytes (Text.utf8 text ++ [0])

theorem terminatedText?_eq_some_iff :
    terminatedText? content = some text ↔
      0 ∉ Text.utf8 text ∧ content = Text.utf8 text ++ [0] := by
  constructor
  · intro found
    rw [terminatedText?] at found
    split at found
    · next last =>
        obtain ⟨bytes, rfl⟩ := List.getLast?_eq_some_iff.mp last
        rw [List.dropLast_concat] at found
        split at found
        · cases found
        · next once =>
            obtain rfl := Text.decodeUtf8?_eq_some_iff.mp found
            exact ⟨by simpa using once, rfl⟩
    · cases found
  · rintro ⟨once, rfl⟩
    have decoded : Text.decodeUtf8? (Text.utf8 text) = some text :=
      Text.decodeUtf8?_eq_some_iff.mpr rfl
    simpa [terminatedText?, once] using decoded

/-- The plain values are those that are no terminated text. -/
theorem plain_eq_self_iff : value.plain = value ↔ ¬value.IsTerminatedText := by
  constructor
  · rintro same ⟨text, once, rfl⟩
    rw [plain, terminatedText?_eq_some_iff.mpr ⟨once, rfl⟩] at same
    cases same
  · intro other
    cases value with
    | bytes content =>
        cases found : terminatedText? content with
        | none => rw [plain, found]
        | some text =>
            obtain ⟨once, same⟩ := terminatedText?_eq_some_iff.mp found
            exact (other ⟨text, once, congrArg Value.bytes same⟩).elim
    | _ => rfl

/-- Nothing is left to be made plain, so the value can be compared with
texts. -/
structure IsPlain (value : Value) : Prop where
  fixed : value.plain = value
  other : ¬value.IsTerminatedText

theorem IsPlain.ofFixed (fixed : value.plain = value) : value.IsPlain :=
  ⟨fixed, plain_eq_self_iff.mp fixed⟩

end Value

namespace Cache

variable {σ : Type} {config : Config} {settings : CacheSettings σ}
  {cache : Cache σ}

/-- Everything that is tracked is admitted, and every value that is known is
plain. -/
structure Clean (config : Config) (cache : Cache σ) : Prop where
  admitted : ∀ udi, cache.tracks udi = true → config.leavesOut udi = false
  plain : ∀ key value, cache.slot? key = some (.resolved value) →
    value.plain = value

namespace Clean

theorem empty (nothing : cache.devices = ∅) : cache.Clean config where
  admitted udi tracks := by simp [tracks_iff, nothing] at tracks
  plain key value found := by simp [slot?, nothing] at found

theorem entered {left : Cache σ} (clean : cache.Clean config)
    (entered : Entered config (fun _ _ => True) cache left) :
    left.Clean config where
  admitted udi tracks := (entered.tracked udi tracks).elim
    (clean.admitted udi) id
  plain key value found := by
    rw [slot?_eq_content] at found
    rcases (entered.content key.udi).values _ _ value found with before | plain
    · exact clean.plain key value (slot?_eq_content cache key ▸ before)
    · exact plain

end Clean

variable [Service σ]

theorem Reachable.clean (reached : Reachable settings cache) :
    cache.Clean settings.config := by
  induction reached with
  | fresh service => exact .empty rfl
  | served service _ clean => exact ⟨clean.admitted, clean.plain⟩
  | handled signal _ clean =>
      exact clean.entered (yields_absorb_entered signal (fun _ _ _ => trivial)
        (fun _ => trivial) fun _ _ _ _ _ _ => trivial).left
  | requested request _ clean =>
      exact clean.entered (request.yields_perform_entered
        fun _ _ _ _ => trivial).left

theorem yields_absorb_admitted (signal : Signal) (cache : Cache σ) :
    (absorb settings signal).Yields cache
      (fun events _ => ∀ event ∈ events,
        settings.config.leavesOut event.udi = false)
      fun _ => True := by
  by_cases leftOut : settings.config.leavesOut signal.udi = true
  · have silent : absorb settings signal = pure [] := by
      cases signal with
      | interfacesAdded udi interfaces => exact if_pos (.inr leftOut)
      | interfacesRemoved udi interfaces => exact if_pos (.inr leftOut)
      | propertiesChanged udi interface changed invalidated =>
          exact absorbChanged_of_dropped (.inr (.inr leftOut))
    rw [silent, Run.yields_pure]
    simp
  · refine (yields_absorb_mirrors signal cache).mono ?_ fun _ _ => trivial
    intro events left mirrors event member
    rw [List.mem_singleton.mp (mirrors.named event member)]
    exact Bool.eq_false_iff.mpr leftOut

theorem absorb_of_unnamed {signal : Signal} (unnamed : signal.udi = "") :
    absorb settings signal = pure [] := by
  cases signal with
  | interfacesAdded udi interfaces => exact if_pos (.inl unnamed)
  | interfacesRemoved udi interfaces => exact if_pos (.inl unnamed)
  | propertiesChanged udi interface changed invalidated =>
      exact absorbChanged_of_dropped (.inl unnamed)

/-- An answer is what is known already, or it is made plain before it is kept
and given. -/
theorem yields_read_plain (clean : cache.Clean config) (key : PropertyKey)
    (reach : Reach) :
    (read key reach).Yields cache
      (fun answer _ => ∀ value, answer = some value → value.plain = value)
        fun _ => True := by
  rw [read, Run.yields_bind, Run.yields_get]
  split
  · next answer settled =>
      rw [Run.yields_pure]
      rintro value rfl
      rw [glance_eq] at settled
      split at settled
      · next found =>
          cases settled
          exact clean.plain key value found
      · cases settled
      · grind
  · simp
  · rw [Run.yields_bind, Run.yields_modify, Run.yields_ensuring, fetchClaimed,
      Run.yields_bind]
    refine (Run.yields_start _ _).mono ?_ fun _ _ => trivial
    intro reply left _ value given
    cases reply with
    | error reason => cases given
    | ok raw =>
        cases given
        exact raw.plain_plain

theorem yields_readAnywhere_plain (clean : cache.Clean config)
    (udi property : String) (reach : Reach) :
    (readAnywhere udi property reach).Yields cache
      (fun answer _ => ∀ value, answer = some value → value.plain = value)
        fun _ => True := by
  rw [readAnywhere, Run.yields_bind, Run.yields_get]
  split
  · simp
  · exact yields_read_plain clean _ reach

/-- What the filters of the insertions are good for. -/
structure Filtered (settings : CacheSettings σ) (cache : Cache σ) : Prop where
  tracked : ∀ udi, cache.tracks udi = true →
    settings.config.leavesOut udi = false
  told : ∀ signal events left, (absorb settings signal).start cache =
    (.ok events, left) →
    ∀ event ∈ events, settings.config.leavesOut event.udi = false
  unnamed : ∀ signal, signal.udi = "" → (absorb settings signal).start cache =
    (.ok [], cache)
  kept : ∀ key value, cache.slot? key = some (.resolved value) → value.IsPlain
  answered : ∀ key reach value left,
    (read key reach).start cache = (.ok (some value), left) → value.IsPlain
  answeredAnywhere : ∀ udi property reach value left,
    (readAnywhere udi property reach).start cache = (.ok (some value), left) →
      value.IsPlain

/-- Whatever the service, the judge of media and the configuration are, and
whatever signals and requests came before in any order, crashed ones too:
nothing that is left out is tracked or told of, a signal that names no object
does nothing, and every value that is known or answered is plain. -/
theorem filtered_of_reachable (reached : Reachable settings cache) :
    cache.Filtered settings where
  tracked := reached.clean.admitted
  told signal events left handled := by
    have admitted : (absorb settings signal).Yields cache _ _ :=
      yields_absorb_admitted signal cache
    rwa [Run.Yields, handled] at admitted
  unnamed signal unnamed := by rw [absorb_of_unnamed unnamed, Run.start_pure]
  kept key value found := .ofFixed (reached.clean.plain key value found)
  answered key reach value left given := by
    have plain := yields_read_plain reached.clean key reach
    rw [Run.Yields, given] at plain
    exact .ofFixed (plain value rfl)
  answeredAnywhere udi property reach value left given := by
    have plain := yields_readAnywhere_plain reached.clean udi property reach
    rw [Run.Yields, given] at plain
    exact .ofFixed (plain value rfl)

def mountSettings : CacheSettings MemoryService :=
  ⟨.compact, fun _ _ _ => return false⟩

def mountPoint : PropertyKey :=
  ⟨"/s/b/sda1", "s.Filesystem",
    "MountPoint"⟩

/-- The service sends a path as bytes, and then it tells of a job. -/
def mounted : Cache MemoryService :=
  let path : Properties :=
    Std.ExtTreeMap.ofList [("MountPoint", Value.bytes [47, 109, 110, 116, 0])]
  let signals : List Signal :=
    [.interfacesAdded mountPoint.udi
      (Std.ExtTreeMap.ofList [(mountPoint.interface, path)]),
      .interfacesAdded "/s/j/7" (Std.ExtTreeMap.ofList
        [("s.Job", ∅)])]
  signals.foldl (fun cache signal =>
    ((absorb mountSettings signal).start cache).2) { service := {} }

theorem filtered_mounted :
    mounted.slot? mountPoint = some (.resolved (.text "/mnt")) ∧
      mounted.size = 1 ∧ mounted.Filtered mountSettings := by
  refine ⟨by decide +kernel, by decide +kernel, ?_⟩
  apply filtered_of_reachable
  exact .handled _ (.handled _ (.fresh _))

end Cache

end Hotplug
