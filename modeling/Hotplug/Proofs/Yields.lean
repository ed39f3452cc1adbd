import Hotplug.Run

/-!
# How steps end

`Yields` says of a step what holds after it has answered, and what holds when it
has crashed instead. The equivalences below compute it along the text of a step;
loops are taken by an invariant.
-/

namespace Hotplug

namespace Run

variable {σ τ α β : Type}

/-- Started in a state, the step answers and `after` holds of the answer and the
state it leaves, or it crashes and leaves a state with `failed`. -/
def Yields (step : Run σ α) (state : σ) (after : α → σ → Prop)
    (failed : σ → Prop) :
    Prop :=
  match step.start state with
  | (.ok answer, left) => after answer left
  | (.error _, left) => failed left

/-- A step keeps a property of the state, whether it answers or crashes. -/
def Keeps (property : σ → Prop) (step : Run σ α) : Prop :=
  ∀ state, property state → step.Yields state (fun _ => property) property

theorem start_get (state : σ) :
    (get : Run σ σ).start state = (.ok state, state) := rfl

theorem start_modify (change : σ → σ) (state : σ) :
    (modify change : Run σ PUnit).start state = (.ok ⟨⟩, change state) :=
  rfl

section Rules

variable {state : σ} {after after' : α → σ → Prop} {failed failed' : σ → Prop}

theorem Yields.mono {step : Run σ α} (yields : step.Yields state after failed)
    (weaker : ∀ answer left, after answer left → after' answer left)
    (weakerFailed : ∀ left, failed left → failed' left) :
    step.Yields state after' failed' := by
  unfold Yields at yields ⊢
  split at yields
  · exact weaker _ _ yields
  · exact weakerFailed _ yields

theorem yields_congr {step : Run σ α}
    (same : ∀ answer left, after answer left ↔ after' answer left)
    (sameFailed : ∀ left, failed left ↔ failed' left) :
    step.Yields state after failed ↔ step.Yields state after' failed' := by
  constructor
  · intro yields
    exact yields.mono (fun answer left => (same answer left).mp)
      fun left => (sameFailed left).mp
  · intro yields
    exact yields.mono (fun answer left => (same answer left).mpr)
      fun left => (sameFailed left).mpr

theorem Yields.and {step : Run σ α} (first : step.Yields state after failed)
    (second : step.Yields state after' failed') :
    step.Yields state (fun answer left => after answer left ∧
      after' answer left) (fun left => failed left ∧ failed' left) := by
  unfold Yields at first second ⊢
  split at first <;> simp_all

theorem Yields.left {step : Run σ α} {property : σ → Prop}
    (yields : step.Yields state (fun _ => property) property) :
    property (step.start state).2 := by
  unfold Yields at yields
  split at yields <;> simp_all

theorem Yields.of_left {step : Run σ α} {property : σ → Prop}
    (left : property (step.start state).2) :
    step.Yields state (fun _ => property) property := by
  unfold Yields
  split <;> simp_all

theorem Yields.of_start_ok {step : Run σ α}
    (yields : step.Yields state after failed) {answer : α} {left : σ}
    (started : step.start state = (.ok answer, left)) :
    after answer left := by
  unfold Yields at yields
  rwa [started] at yields

theorem Yields.of_start_error {step : Run σ α}
    (yields : step.Yields state after failed) {reason : Crash} {left : σ}
    (started : step.start state = (.error reason, left)) :
    failed left := by
  unfold Yields at yields
  rwa [started] at yields

theorem Yields.of_isOk {step : Run σ α}
    (yields : step.Yields state after failed)
    (answered : (step.start state).1.isOk = true) :
    ∃ answer, after answer (step.start state).2 := by
  unfold Yields at yields
  split at yields
  · next answer left start =>
      rw [start]
      exact ⟨answer, yields⟩
  · next start =>
      rw [start] at answered
      contradiction

theorem Yields.exists_start {step : Run σ α}
    (yields : step.Yields state after fun _ => False) :
    ∃ answer left, step.start state = (.ok answer, left) ∧
      after answer left := by
  unfold Yields at yields
  rcases run : step.start state with ⟨answer | answer, left⟩
  · rw [run] at yields
    exact yields.elim
  · rw [run] at yields
    exact ⟨answer, left, rfl, yields⟩

theorem Yields.start_eq {step : Run σ α} {answer : α} {left : σ}
    (yields : step.Yields state (fun found final => found = answer ∧ final =
      left) fun _ => False) :
    step.start state = (.ok answer, left) := by
  obtain ⟨_, _, started, rfl, rfl⟩ := yields.exists_start
  exact started

theorem start_eq_of_toOption {step : Run σ α} {answer : α}
    (answered : (step.start state).1.toOption = some answer) :
    step.start state = (.ok answer, (step.start state).2) := by
  rcases started : step.start state with ⟨reason | given, left⟩
  · rw [started] at answered
    cases answered
  · rw [started] at answered
    cases answered
    rfl

theorem yields_start (step : Run σ α) (state : σ) :
    step.Yields state (fun answer left => step.start state = (.ok answer, left))
      fun left => ∃ reason, step.start state = (.error reason, left) := by
  unfold Yields
  split
  · next run => exact run
  · next reason _ run => exact ⟨reason, run⟩

@[simp] theorem yields_pure {answer : α} :
    (pure answer : Run σ α).Yields state after failed ↔
      after answer state := Iff.rfl

@[simp] theorem yields_crash {message : String} :
    (crash message : Run σ α).Yields state after failed ↔
      failed state := Iff.rfl

@[simp] theorem yields_get {after : σ → σ → Prop} :
    (get : Run σ σ).Yields state after failed ↔ after state state :=
  Iff.rfl

@[simp] theorem yields_set {replacement : σ} {after : PUnit → σ → Prop} :
    (set replacement : Run σ PUnit).Yields state after failed ↔
      after ⟨⟩ replacement := Iff.rfl

@[simp] theorem yields_modify {change : σ → σ} {after : PUnit → σ → Prop} :
    (modify change : Run σ PUnit).Yields state after failed ↔ after ⟨⟩
      (change state) := Iff.rfl

@[simp] theorem yields_modifyGet {change : σ → α × σ} :
    (modifyGet change : Run σ α).Yields state after failed ↔
      after (change state).1 (change state).2 := Iff.rfl

@[simp] theorem yields_ofStart {effect : σ → Except Crash α × σ} :
    (ofStart effect).Yields state after failed ↔
      match effect state with
      | (.ok answer, left) => after answer left
      | (.error _, left) => failed left := Iff.rfl

@[simp] theorem yields_bind {step : Run σ α} {next : α → Run σ β}
    {after : β → σ → Prop} :
    (step >>= next).Yields state after failed ↔
      step.Yields state (fun answer left => (next answer).Yields left after
        failed) failed := by
  unfold Yields
  rw [start_bind]
  rcases step.start state with ⟨answer | reason, left⟩ <;> rfl

@[simp] theorem yields_map {step : Run σ α} {change : α → β}
    {after : β → σ → Prop} :
    (change <$> step).Yields state after failed ↔
      step.Yields state (fun answer left => after (change answer) left)
        failed := by
  rw [← bind_pure_comp, yields_bind]
  simp only [yields_pure]

@[simp] theorem yields_ensuring {step : Run σ α} {last : σ → σ} :
    (step.ensuring last).Yields state after failed ↔
      step.Yields state (fun answer left => after answer (last left))
        (fun left => failed (last left)) := by
  unfold Yields
  simp only [ensuring, start_ofStart]
  rcases step.start state with ⟨answer | reason, left⟩ <;> rfl

@[simp] theorem yields_onCrash {step : Run σ α} {last : σ → σ} :
    (step.onCrash last).Yields state after failed ↔
      step.Yields state after (fun left => failed (last left)) := by
  unfold Yields
  simp only [onCrash, start_ofStart]
  rcases step.start state with ⟨answer | reason, left⟩ <;> rfl

@[simp] theorem yields_zoom {view : τ → σ} {put : σ → τ → τ} {step : Run σ α}
    {whole : τ} {after : α → τ → Prop} {failed : τ → Prop} :
    (step.zoom view put).Yields whole after failed ↔
      step.Yields (view whole)
        (fun answer part => after answer (put part whole))
        (fun part => failed (put part whole)) := by
  unfold Yields
  simp only [zoom, start_ofStart]
  rcases step.start (view whole) with ⟨answer | reason, left⟩ <;> rfl

end Rules

section Loops

variable {failed : σ → Prop}

/-- A loop reaches what its rounds reach, each from what was reached by those
before. -/
theorem yields_foldlM_done {step : β → α → Run σ β}
    (invariant : List α → β → σ → Prop) {items : List α} {start : β} {state : σ}
    (initially : invariant [] start state)
    (kept : ∀ done item rest, items = done ++ item :: rest → ∀ answer left,
      invariant done answer left → (step answer item).Yields left
      (invariant (done ++ [item])) failed) :
    (items.foldlM step start).Yields state (invariant items) failed := by
  induction items generalizing invariant start state with
  | nil => simpa using initially
  | cons item items induction =>
      rw [List.foldlM_cons, yields_bind]
      refine (kept [] item items rfl start state initially).mono ?_
        (fun _ reached => reached)
      intro answer left reached
      refine induction (fun done => invariant (item :: done)) reached ?_
      intro done later rest same
      obtain rfl := same
      exact kept (item :: done) later rest rfl

theorem yields_foldlM {step : β → α → Run σ β} (invariant : β → σ → Prop)
    {items : List α} {start : β} {state : σ} (initially : invariant start state)
    (kept : ∀ item, item ∈ items → ∀ answer left, invariant answer left →
      (step answer item).Yields left invariant failed) :
    (items.foldlM step start).Yields state invariant failed := by
  refine yields_foldlM_done (fun _ => invariant) initially ?_
  intro done item rest same
  obtain rfl := same
  exact kept item (by simp)

theorem yields_forM_cons {step : α → Run σ PUnit} {item : α} {items : List α}
    {state : σ} {after : PUnit → σ → Prop} :
    ((item :: items).forM step).Yields state after failed ↔
      (step item).Yields state
        (fun _ left => (items.forM step).Yields left after failed) failed :=
  yields_bind

theorem yields_forM {step : α → Run σ PUnit} (invariant : σ → Prop)
    {items : List α} {state : σ} (initially : invariant state)
    (kept : ∀ item, item ∈ items → ∀ left, invariant left →
      (step item).Yields left (fun _ => invariant) failed) :
    (items.forM step).Yields state (fun _ => invariant) failed := by
  induction items generalizing state with
  | nil => simpa using initially
  | cons item items induction =>
      rw [yields_forM_cons]
      refine (kept item (by simp) state initially).mono ?_
        (fun _ reached => reached)
      intro _ left reached
      exact induction reached fun later member => kept later (by simp [member])

theorem start_bind_eq_ok_iff {step : Run σ α} {next : α → Run σ β} {answer : β}
    {state left : σ} :
    (step >>= next).start state = (.ok answer, left) ↔
      ∃ first middle, step.start state = (.ok first, middle) ∧
        (next first).start middle = (.ok answer, left) := by
  rw [start_bind]
  constructor
  · intro ran
    split at ran
    · next first middle started => exact ⟨first, middle, started, ran⟩
    · cases ran
  · rintro ⟨first, middle, started, ran⟩
    rw [started]
    exact ran

/-- What is done after a crash makes no difference to a step that answers. -/
theorem start_onCrash_eq_ok_iff {step : Run σ α} {last : σ → σ} {answer : α}
    {state left : σ} :
    (step.onCrash last).start state = (.ok answer, left) ↔
      step.start state = (.ok answer, left) := by
  simp only [onCrash, start_ofStart]
  rcases step.start state with ⟨reason | answer, middle⟩ <;> simp

theorem start_mapM_cons_eq_ok_iff {step : α → Run σ β} {item : α}
    {items : List α} {answers : List β} {state left : σ} :
    ((item :: items).mapM step).start state = (.ok answers, left) ↔
      ∃ answer middle later, (step item).start state = (.ok answer, middle) ∧
        (items.mapM step).start middle = (.ok later, left) ∧ answers =
          answer :: later := by
  rw [List.mapM_cons]
  constructor
  · intro ran
    obtain ⟨answer, middle, first, ran⟩ := start_bind_eq_ok_iff.mp ran
    obtain ⟨later, final, others, ended⟩ := start_bind_eq_ok_iff.mp ran
    cases ended
    exact ⟨answer, middle, later, first, others, rfl⟩
  · rintro ⟨answer, middle, later, first, others, rfl⟩
    exact start_bind_eq_ok_iff.mpr ⟨answer, middle, first,
      start_bind_eq_ok_iff.mpr ⟨later, left, others, rfl⟩⟩

theorem forall_mem_of_start_mapM {step : α → Run σ β} {proper : β → Prop}
    (each : ∀ item state answer left, (step item).start state =
      (.ok answer, left) → proper answer)
    {items : List α} {answers : List β} {state left : σ}
    (ran : (items.mapM step).start state = (.ok answers, left)) :
    ∀ answer ∈ answers, proper answer := by
  induction items generalizing state answers with
  | nil =>
      cases ran
      exact List.forall_mem_nil _
  | cons item items induction =>
      obtain ⟨answer, middle, later, first, others, rfl⟩ :=
        start_mapM_cons_eq_ok_iff.mp ran
      exact List.forall_mem_cons.mpr ⟨each item state answer middle first,
        induction others⟩

theorem length_of_start_mapM {step : α → Run σ β} {items : List α}
    {answers : List β} {state left : σ}
    (ran : (items.mapM step).start state = (.ok answers, left)) :
    answers.length = items.length := by
  induction items generalizing answers state with
  | nil =>
      cases ran
      rfl
  | cons item items induction =>
      obtain ⟨_, _, later, -, others, rfl⟩ := start_mapM_cons_eq_ok_iff.mp ran
      rw [List.length_cons, List.length_cons, induction others]

private theorem yields_filterAuxM {step : α → Run σ Bool} (invariant : σ → Prop)
    {items passed : List α} {state : σ} (initially : invariant state)
    (kept : ∀ item, item ∈ items → ∀ left, invariant left →
      (step item).Yields left (fun _ => invariant) failed) :
    Yields (items.filterAuxM step passed) state
      (fun _ => invariant) failed := by
  induction items generalizing passed state with
  | nil => simpa [List.filterAuxM] using initially
  | cons item items induction =>
      rw [List.filterAuxM, yields_bind]
      refine (kept item (by simp) state initially).mono ?_
        (fun _ reached => reached)
      intro _ left reached
      exact induction reached fun later member => kept later (by simp [member])

theorem yields_filterM {step : α → Run σ Bool} (invariant : σ → Prop)
    {items : List α} {state : σ} (initially : invariant state)
    (kept : ∀ item, item ∈ items → ∀ left, invariant left →
      (step item).Yields left (fun _ => invariant) failed) :
    (items.filterM step).Yields state (fun _ => invariant) failed := by
  rw [List.filterM, yields_bind]
  refine (yields_filterAuxM invariant initially kept).mono ?_
    (fun _ reached => reached)
  intro _ left reached
  simpa using reached

private theorem yields_filterAuxM_subset {step : α → Run σ Bool}
    {items passed : List α} {state : σ} :
    Yields (items.filterAuxM step passed) state
      (fun chosen _ => ∀ item ∈ chosen, item ∈ items ∨ item ∈ passed)
        (fun _ => True) := by
  induction items generalizing passed state with
  | nil => simp [List.filterAuxM]
  | cons item items induction =>
      rw [List.filterAuxM, yields_bind]
      refine (yields_start _ _).mono ?_ fun _ _ => trivial
      intro answer left _
      refine induction.mono ?_ fun _ _ => trivial
      intro chosen final members other member
      cases answer with
      | false =>
          exact (members other member).imp_left (List.mem_cons_of_mem item)
      | true =>
          rcases members other member with later | earlier
          · exact .inl (List.mem_cons_of_mem item later)
          · rcases List.mem_cons.mp earlier with rfl | earlier
            · exact .inl List.mem_cons_self
            · exact .inr earlier

theorem yields_filterM_subset {step : α → Run σ Bool} {items : List α}
    {state : σ} :
    (items.filterM step).Yields state
      (fun chosen _ => ∀ item ∈ chosen, item ∈ items) (fun _ => True) := by
  rw [List.filterM, yields_bind]
  refine yields_filterAuxM_subset.mono ?_ fun _ _ => trivial
  intro chosen left members
  simpa using members

end Loops

/-- What is seen of the state stays as it is, whether the step answers or
crashes. -/
def Preserves (view : σ → τ) (step : Run σ α) : Prop :=
  ∀ seen, step.Keeps fun state => view state = seen

namespace Preserves

variable {view : σ → τ}

theorem pure (answer : α) : Preserves view (Pure.pure answer : Run σ α) :=
  fun _ _ same => same

theorem bind {step : Run σ α} {next : α → Run σ β} (first : Preserves view step)
    (later : ∀ answer, Preserves view (next answer)) :
    Preserves view (step >>= next) := by
  intro seen state same
  rw [yields_bind]
  exact (first seen state same).mono (fun answer left => later answer seen left)
    fun _ => id

theorem get : Preserves view (MonadState.get : Run σ σ) :=
  fun _ _ same => same

theorem ofChange {change : σ → σ}
    (same : ∀ state, view (change state) = view state) :
    Preserves view (modify change : Run σ PUnit) :=
  fun _ state before => (same state).trans before

theorem forM {items : List α} {step : α → Run σ PUnit}
    (each : ∀ item, Preserves view (step item)) :
    Preserves view (items.forM step) := by
  intro seen state same
  exact yields_forM (fun left => view left = seen) same
    fun item _ left => each item seen left

end Preserves

end Run

end Hotplug
