import PhotoPublish.Proofs.Template.Outcome
import PhotoPublish.Proofs.Template.Scan

/-!
# What an evaluation gives

An evaluation keeps what it has read of the photo and reads the clock at most once for a date. None of this
shows in its result, which is what the pieces of the template expand to with the outcomes of its
placeholders.

* `Faithful`: what a state keeps is what reading the source again would give, and a clock that has not been
  read for a date still shows the same time.
* `Settles`: from every faithful state a step gives the same result. The state stays faithful unless the
  step fails in a way that ends the evaluation.
* `Template.evaluate_result`: a template gives what its pieces expand to, in the normal form of paths.
-/

set_option autoImplicit false

namespace PhotoPublish

/-! ## Steps of an evaluation -/

namespace Evaluate

variable {α : Type} {kept : Snapshot → Option α} {keep : α → Snapshot → Snapshot} {read : Fetch α}
  {state : Evaluation}

/-- What is kept after a source has been read. -/
def keptOf (keep : α → Snapshot → Snapshot) (snapshot : Snapshot) : Except Failure α → Snapshot
  | .ok a => keep a snapshot
  | .error _ => snapshot

theorem run_get : (get : Evaluate Evaluation).run.run state = (.ok state, state) := rfl

theorem run_fetch :
    (fetch read).run.run state =
      ((read.run.run state.visit).1, { state with visit := (read.run.run state.visit).2 }) := rfl

theorem cached_run_of_some {a : α} (h : kept state.snapshot = some a) :
    (cached kept keep read).run.run state = (.ok a, state) := by
  unfold cached
  rw [run_bind_ok run_get, h]
  rfl

theorem cached_run_of_none (h : kept state.snapshot = none) {result : Except Failure α}
    {visit : Visit} (hread : read.run.run state.visit = (result, visit)) :
    (cached kept keep read).run.run state =
      (result, { visit := visit, snapshot := keptOf keep state.snapshot result }) := by
  have hfetch := @run_fetch _ read state
  rw [hread] at hfetch
  unfold cached
  rw [run_bind_ok run_get, h]
  cases result with
  | ok a =>
    simp only
    rw [run_bind_ok hfetch]
    rfl
  | error failure => exact run_bind_error hfetch

end Evaluate

/-! ## Faithful states -/

/-- A clock that shows a time; if that is not a number, it never shows one. -/
def Clock.Shows (now : Binary64) (clock : Clock) : Prop :=
  clock.now = now ∧ (now = .nan → ∀ reading ∈ clock.later, reading = .nan)

theorem Clock.Shows.tick {clock : Clock} (h : clock.Shows .nan) : clock.tick.Shows .nan := by
  obtain ⟨hnow, hlater⟩ := h
  cases hreadings : clock.later with
  | nil => simp [Clock.Shows, Clock.tick, hreadings, hnow]
  | cons reading rest =>
    have hall := hlater rfl
    rw [hreadings] at hall
    refine ⟨?_, fun _ later hmem => ?_⟩
    · simpa [Clock.tick, hreadings] using hall reading (List.mem_cons_self ..)
    · refine hall later (List.mem_cons_of_mem _ ?_)
      simpa [Clock.tick, hreadings] using hmem

/-- A clock that does not advance. -/
def Clock.Stopped (now : Binary64) (clock : Clock) : Prop :=
  clock.now = now ∧ ∀ reading ∈ clock.later, reading = now

theorem Clock.Stopped.shows {now : Binary64} {clock : Clock} (h : clock.Stopped now) :
    clock.Shows now :=
  ⟨h.1, fun hnow reading hmem => hnow ▸ h.2 reading hmem⟩

/-- What a state keeps is what reading the photo again would give. -/
structure Faithful (surroundings : Surroundings) (photo : Photo) (now : Binary64)
    (state : Evaluation) : Prop where
  captureTime : ∀ time, state.snapshot.captureTime = some time →
    photo.timeAt surroundings now = .ok time
  clock : state.snapshot.captureTime = none → state.visit.clock.Shows now
  formatted : ∀ fields, state.snapshot.formatted = some fields → photo.formattedFields = fields
  segments : ∀ segments, state.snapshot.segments = some segments →
    photo.pathSegments = .ok segments
  collectionPaths : ∀ paths, state.snapshot.collectionPaths = some paths →
    photo.collectionPaths = .ok paths

/-- Calls to the host do not change what is kept. -/
theorem Faithful.withCalls {surroundings : Surroundings} {photo : Photo} {now : Binary64}
    {state : Evaluation} (h : Faithful surroundings photo now state) (calls : List Call) :
    Faithful surroundings photo now
      { state with visit := { state.visit with calls := calls } } :=
  ⟨h.captureTime, h.clock, h.formatted, h.segments, h.collectionPaths⟩

/-- A result after which an evaluation goes on: a date that is an invalid value is caught. -/
def Recoverable {α : Type} (result : Except Failure α) : Prop :=
  ∀ failure, result = .error failure → failure.family = .invalidValue

/-- A step gives a result from every faithful state (module doc). -/
def Settles {α : Type} (surroundings : Surroundings) (photo : Photo) (now : Binary64)
    (step : Evaluate α) (result : Except Failure α) : Prop :=
  ∀ state, Faithful surroundings photo now state →
    (step.run.run state).1 = result ∧
      (Recoverable result → Faithful surroundings photo now (step.run.run state).2)

namespace Settles

variable {α β : Type} {surroundings : Surroundings} {photo : Photo} {now : Binary64}

theorem pure (a : α) : Settles surroundings photo now (Pure.pure a) (.ok a) :=
  fun _ h => ⟨rfl, fun _ => h⟩

theorem ofExcept (result : Except Failure α) :
    Settles surroundings photo now (.fetch (.ofExcept result)) result :=
  fun _ h => ⟨rfl, fun _ => h⟩

/-- One step after the other. -/
theorem bind {step : Evaluate α} {next : α → Evaluate β} {result : Except Failure α}
    {later : α → Except Failure β} (hstep : Settles surroundings photo now step result)
    (hnext : ∀ a, Settles surroundings photo now (next a) (later a)) :
    Settles surroundings photo now (step >>= next) (result >>= later) := by
  intro state hstate
  obtain ⟨hresult, hafter⟩ := hstep state hstate
  rcases hrun : step.run.run state with ⟨result', state'⟩
  rw [hrun] at hresult hafter
  obtain rfl : result' = result := hresult
  cases result' with
  | error failure =>
    rw [run_bind_error hrun]
    refine ⟨rfl, fun hgood => hafter ?_⟩
    rintro _ ⟨⟩
    exact hgood failure rfl
  | ok a =>
    rw [run_bind_ok hrun]
    exact hnext a state' (hafter nofun)

/-- A source whose result is kept. Reading it makes calls and leaves the clock alone. -/
theorem cached {kept : Snapshot → Option α} {keep : α → Snapshot → Snapshot} {read : Fetch α}
    {result : Except Failure α}
    (hkept : ∀ state, Faithful surroundings photo now state → ∀ a, kept state.snapshot = some a →
      result = .ok a)
    (hread : ∀ visit, ∃ calls, read.run.run visit = (result, { visit with calls := calls }))
    (hkeep : ∀ state, Faithful surroundings photo now state → ∀ a, result = .ok a →
      Faithful surroundings photo now { state with snapshot := keep a state.snapshot }) :
    Settles surroundings photo now (Evaluate.cached kept keep read) result := by
  intro state hstate
  cases hfound : kept state.snapshot with
  | some a =>
    rw [Evaluate.cached_run_of_some hfound, hkept state hstate a hfound]
    exact ⟨rfl, fun _ => hstate⟩
  | none =>
    obtain ⟨calls, hrun⟩ := hread state.visit
    have hcalls := hstate.withCalls calls
    rw [Evaluate.cached_run_of_none hfound hrun]
    cases result with
    | error failure => exact ⟨rfl, fun _ => hcalls⟩
    | ok a => exact ⟨rfl, fun _ => hkeep _ hcalls a rfl⟩

/-- The capture time. If its date is no valid value, the clock has been read and may be read again; it
does not show a number then. -/
theorem captureTime :
    Settles surroundings photo now (Evaluate.captureTime surroundings photo)
      (photo.timeAt surroundings now) := by
  intro state hstate
  unfold Evaluate.captureTime
  cases hkept : state.snapshot.captureTime with
  | some time =>
    rw [Evaluate.cached_run_of_some hkept, hstate.captureTime time hkept]
    exact ⟨rfl, fun _ => hstate⟩
  | none =>
    have hclock := hstate.clock hkept
    have hdate := @Photo.captureTime_run surroundings photo state.visit
    rw [hclock.1] at hdate
    rw [Evaluate.cached_run_of_none hkept hdate]
    refine ⟨rfl, fun hgood => ?_⟩
    cases htime : photo.timeAt surroundings now with
    | ok time =>
      refine ⟨?_, nofun, hstate.formatted, hstate.segments, hstate.collectionPaths⟩
      rintro _ ⟨⟩
      exact htime
    | error failure =>
      refine ⟨hstate.captureTime, fun _ => ?_, hstate.formatted, hstate.segments,
        hstate.collectionPaths⟩
      · unfold Photo.afterDating
        simp only
        split
        · rename_i hread
          obtain rfl := Photo.eq_nan_of_timeAt hread htime (hgood failure htime)
          exact hclock.tick
        · exact hclock

theorem formatted :
    Settles surroundings photo now (Evaluate.formatted photo) (.ok photo.formattedFields) := by
  refine cached (fun state hstate fields h => ?_) (fun visit => ⟨_, rfl⟩)
    (fun state hstate fields h => ?_)
  · rw [hstate.formatted fields h]
  · refine ⟨hstate.captureTime, hstate.clock, ?_, hstate.segments, hstate.collectionPaths⟩
    rintro _ ⟨⟩
    exact Except.ok.inj h

theorem segments :
    Settles surroundings photo now (Evaluate.segments photo) photo.pathSegments := by
  refine cached (fun state hstate segments h => hstate.segments segments h) (fun visit => ?_)
    (fun state hstate segments h => ?_)
  · refine ⟨visit.calls ++ [.raw Photo.pathKey], ?_⟩
    unfold Photo.pathSegments
    rw [run_bind_ok (photo.fetchRaw_run Photo.pathKey visit)]
    cases photo.raw.get Photo.pathKey <;> rfl
  · refine ⟨hstate.captureTime, hstate.clock, hstate.formatted, ?_, hstate.collectionPaths⟩
    rintro _ ⟨⟩
    exact h

theorem collectionPaths :
    Settles surroundings photo now (Evaluate.collectionPaths photo) photo.collectionPaths := by
  refine cached (fun state hstate paths h => hstate.collectionPaths paths h)
    (fun visit => ⟨_, rfl⟩) (fun state hstate paths h => ?_)
  refine ⟨hstate.captureTime, hstate.clock, hstate.formatted, hstate.segments, ?_⟩
  rintro _ ⟨⟩
  exact h

/-- An invalid value is caught. -/
theorem orIfInvalid {step : Evaluate Text} {result : Except Failure Text} (text : Text)
    (hstep : Settles surroundings photo now step result) :
    Settles surroundings photo now
      (tryCatch step fun failure =>
        if failure.family = .invalidValue then Pure.pure text else throw failure)
      (Placeholder.orIfInvalid text result) := by
  intro state hstate
  obtain ⟨hresult, hafter⟩ := hstep state hstate
  rcases hrun : step.run.run state with ⟨result', state'⟩
  rw [hrun] at hresult hafter
  obtain rfl : result' = result := hresult
  cases result' with
  | ok a =>
    rw [run_tryCatch_ok hrun]
    exact ⟨rfl, fun _ => hafter nofun⟩
  | error failure =>
    rw [run_tryCatch_error hrun]
    by_cases hfamily : failure.family = .invalidValue
    · simp only [Placeholder.orIfInvalid, if_pos hfamily]
      refine ⟨rfl, fun _ => hafter ?_⟩
      rintro _ ⟨⟩
      exact hfamily
    · simp only [Placeholder.orIfInvalid, if_neg hfamily]
      exact ⟨rfl, hafter⟩

/-! ### Placeholders -/

variable [Pattern.CharacterNames] (p : Placeholder)

omit [Pattern.CharacterNames] in
theorem dateValue : Settles surroundings photo now (p.dateValue surroundings photo)
    (p.dateOutcome surroundings photo now) := by
  unfold Placeholder.dateValue Placeholder.dateOutcome
  split
  · exact pure _
  · exact orIfInvalid p.text (captureTime.bind fun _ => (ofExcept _).bind fun _ => pure _)

theorem formattedValue : Settles surroundings photo now (p.formattedValue photo)
    (p.formattedOutcome photo) :=
  formatted.bind fun _ => (ofExcept _).bind fun _ => ofExcept _

theorem pathValue : Settles surroundings photo now (p.pathValue photo) (p.pathOutcome photo) := by
  unfold Placeholder.pathValue Placeholder.pathOutcome
  simp only
  split
  · exact pure _
  · exact (ofExcept _).bind fun _ => segments.bind fun _ => ofExcept _

theorem collectionValue : Settles surroundings photo now (p.collectionValue photo)
    (p.collectionOutcome photo) := by
  unfold Placeholder.collectionValue Placeholder.collectionOutcome
  simp only
  cases Placeholder.CollectionPart.ofName? (splitArguments .word p.args).1 with
  | none => exact pure _
  | some part => exact collectionPaths.bind fun _ => ofExcept _

/-- **The text for a placeholder is its outcome.** -/
theorem value : Settles surroundings photo now (p.value surroundings photo)
    (p.outcome surroundings photo now) := by
  unfold Placeholder.value Placeholder.outcome
  cases p.category with
  | date => exact dateValue p
  | formatted => exact formattedValue p
  | path => exact pathValue p
  | collection => exact collectionValue p

/-! ### Pieces -/

theorem valueOfPieces : ∀ pieces : List Piece,
    Settles surroundings photo now (Template.valueOfPieces surroundings photo pieces)
      (expand (Placeholder.outcome surroundings photo now) pieces)
  | [] => pure []
  | .literal text :: rest => (pure text).bind fun _ => (valueOfPieces rest).bind fun _ => pure _
  | .placeholder p :: rest => (value p).bind fun _ => (valueOfPieces rest).bind fun _ => pure _

end Settles

/-! ## Templates -/

/-- A text without an open brace has no tokens. -/
theorem scan_of_not_contains {text : Text} (h : text.contains '\x7b' = false) :
    scan text = Piece.literals text := by
  refine scan_eq_literals fun i j p htoken => ?_
  have hmem : '\x7b' ∈ text := List.mem_of_getElem? htoken.1.opens
  rw [← List.contains_iff_mem, h] at hmem
  cases hmem

namespace Template

/-- A template that makes a path. -/
def ofPattern (pattern : Text) : Template :=
  { kind := .path, pattern := some pattern }

variable [Pattern.CharacterNames] (surroundings : Surroundings) (photo : Photo) (now : Binary64)
  (pattern : Text)

/-- What the pieces of a pattern expand to, in the normal form of paths. -/
def outcome : Except Failure Text :=
  (expand (Placeholder.outcome surroundings photo now) (scan pattern)).map normalizePath

/-- What an evaluation of a pattern gives. -/
def result (visit : Visit) : Except Failure (Option Text) :=
  (((ofPattern pattern).evaluate surroundings photo).run.run visit).1

variable {surroundings : Surroundings} {photo : Photo} {now : Binary64} {pattern : Text}

theorem evaluate_ofPattern : (ofPattern pattern).evaluate surroundings photo =
    if pattern.contains '\x7b' then some <$> evaluatePattern surroundings photo pattern
    else pure (some (normalizePath pattern)) := rfl

theorem run_valueOfPieces_literals (text : Text) (state : Evaluation) :
    (valueOfPieces surroundings photo (Piece.literals text)).run.run state = (.ok text, state) := by
  unfold Piece.literals
  split
  · rename_i hempty
    rw [List.isEmpty_iff.1 hempty]
    rfl
  · exact congrArg (fun written => (Except.ok written, state)) (List.append_nil text)

/-- An evaluation gives the texts of its pieces one after the other, in the normal form of paths. -/
theorem result_eq (visit : Visit) : result surroundings photo pattern visit =
    (((valueOfPieces surroundings photo (scan pattern)).run.run { visit := visit }).1.map
      normalizePath).map some := by
  unfold result
  rw [evaluate_ofPattern]
  cases hopen : pattern.contains '\x7b' with
  | true =>
    rw [if_pos rfl, map_eq_pure_bind]
    rcases hrun : (evaluatePattern surroundings photo pattern).run.run visit with ⟨result, after⟩
    have hresult : result = ((valueOfPieces surroundings photo (scan pattern)).run.run
        { visit := visit }).1.map normalizePath := congrArg Prod.fst hrun.symm
    rw [← hresult]
    cases result with
    | ok text => rw [run_bind_ok hrun]; rfl
    | error failure => rw [run_bind_error hrun]; rfl
  | false =>
    rw [if_neg nofun, scan_of_not_contains hopen, run_valueOfPieces_literals]
    rfl

/-- **A template gives what its pieces expand to.** Of the visit only the time that the clock shows
matters. -/
theorem evaluate_result {visit : Visit} (hclock : visit.clock.Shows now) :
    result surroundings photo pattern visit =
      (outcome surroundings photo now pattern).map some := by
  have hfaithful : Faithful surroundings photo now { visit := visit } :=
    ⟨nofun, fun _ => hclock, nofun, nofun, nofun⟩
  rw [result_eq, (Settles.valueOfPieces (scan pattern) _ hfaithful).1]
  rfl

/-- What a template makes does not matter unless its pattern holds separators that it must not hold. -/
theorem evaluate_of_pattern {template : Template} (hpattern : template.pattern = some pattern)
    (hseparators : template.hasSeparators = false) :
    template.evaluate surroundings photo = (ofPattern pattern).evaluate surroundings photo := by
  obtain ⟨kind, _⟩ := template
  obtain rfl := hpattern
  unfold evaluate
  rw [hseparators]
  rfl

/-- A template for a file name with separators is not expanded at all. -/
theorem evaluate_of_hasSeparators {template : Template} (h : template.hasSeparators = true) :
    template.evaluate surroundings photo = pure (some missing) := by
  unfold evaluate
  rw [h]
  rfl

end Template

end PhotoPublish
