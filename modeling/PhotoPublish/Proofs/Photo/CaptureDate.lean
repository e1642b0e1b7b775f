import PhotoPublish.Photo.CaptureDate
import PhotoPublish.Proofs.Calendar.Display
import PhotoPublish.Proofs.Photo.Basic

/-!
# What a capture date depends on

Reading a capture date asks the host and may read the clock. `Photo.dateAt` is the same date as a plain
function of the photo and of the time that the clock shows, `Photo.datingCalls` the calls on the way.

* `Photo.captureDate_run`: reading the date gives `dateAt` and makes exactly these calls; the clock is
  read only if no source gives a date.
* `Photo.clocked_of_timeAt`: a capture time is an instant that can be shown.
* `Photo.timeAt_error_iff`: why a photo has no capture time, by the first source that is not silent
  (`Photo.Undated`).
-/

set_option autoImplicit false

namespace PhotoPublish

/-! ## Instants -/

namespace Photo

/-- An instant, if it can be shown. -/
def shown (surroundings : Surroundings) (instant : Binary64) : Except Failure Binary64 := do
  let _ ← Timestamp.format surroundings.zone (.real instant) Timestamp.messageFormat
  return instant

theorem showable_run (surroundings : Surroundings) (instant : Binary64) (visit : Visit) :
    (showable surroundings instant).run.run visit = (shown surroundings instant, visit) := by
  unfold showable shown
  cases h : Timestamp.format surroundings.zone (.real instant) Timestamp.messageFormat <;> rfl

theorem shown_eq (surroundings : Surroundings) (instant : Binary64) :
    shown surroundings instant =
      (Timestamp.clocked surroundings.zone (.real instant)).map fun _ => instant := by
  have hshape : ¬ Timestamp.messageFormat.contains '\x00' = true := by decide
  rw [shown, Timestamp.format_eq]
  simp only [if_neg hshape]
  cases Timestamp.clocked surroundings.zone (.real instant) <;> rfl

theorem shown_error_iff {surroundings : Surroundings} {instant : Binary64} {failure : Failure} :
    shown surroundings instant = .error failure ↔
      Timestamp.clocked surroundings.zone (.real instant) = .error failure := by
  rw [shown_eq]
  cases hclocked : Timestamp.clocked surroundings.zone (.real instant) with
  | error failure' =>
    constructor
    · intro h
      exact congrArg _ (Except.error.inj h)
    · intro h
      exact congrArg _ (Except.error.inj h)
  | ok found =>
    constructor
    · intro h
      cases h
    · intro h
      cases h

/-- Only what is not a number is an invalid time: all others are too far away, if they cannot be shown. -/
theorem eq_nan_of_shown {surroundings : Surroundings} {instant : Binary64} {failure : Failure}
    (h : shown surroundings instant = .error failure)
    (hfamily : failure.family = .invalidValue) : instant = .nan := by
  obtain ⟨fault, rfl, hnan⟩ := Timestamp.clocked_error (shown_error_iff.1 h)
  refine hnan ?_
  cases fault <;> first | rfl | cases hfamily

end Photo

/-! ## Sources -/

/-- The formatted metadata. -/
def Photo.formattedFields (photo : Photo) : Fields :=
  photo.formatted.getD []

namespace DateSource

/-- The call that reads a source. -/
def call : DateSource → Call
  | raw key _ => .raw key
  | created => .formatted createdKey
  | file => .raw Photo.pathKey

/-- The instant that a source gives. -/
def instant (surroundings : Surroundings) (photo : Photo) :
    DateSource → Except Failure (Option Binary64)
  | raw key _ => toTimestamp surroundings.zone (photo.raw.get key)
  | created => ofCreated surroundings.zone (photo.formattedFields.get createdKey)
  | file => .ok (ofFile surroundings (photo.raw.get Photo.pathKey))

/-- Reading a source is one call. -/
theorem read_run (surroundings : Surroundings) (photo : Photo) (source : DateSource)
    (visit : Visit) :
    (source.read surroundings photo).run.run visit =
      (source.instant surroundings photo, { visit with calls := visit.calls ++ [source.call] }) := by
  cases source <;> rfl

end DateSource

/-! ## The date -/

namespace Photo

variable (surroundings : Surroundings) (photo : Photo)

/-- The first instant that the given sources give, and whether the photo was taken then. -/
def dateAmong : List DateSource → Except Failure (Option (Binary64 × Bool))
  | [] => .ok none
  | source :: rest =>
    match source.instant surroundings photo with
    | .error failure => .error failure
    | .ok none => dateAmong rest
    | .ok (some instant) => (shown surroundings instant).map fun time => some (time, source.isTaken)

/-- The calls up to the source that decides. -/
def callsAmong : List DateSource → List Call
  | [] => []
  | source :: rest =>
    source.call :: match source.instant surroundings photo with
      | .ok none => callsAmong rest
      | _ => []

/-- The capture date if the clock shows the time `now`. -/
def dateAt (now : Binary64) : Except Failure (Binary64 × Bool) :=
  match dateAmong surroundings photo DateSource.all with
  | .error failure => .error failure
  | .ok (some found) => .ok found
  | .ok none => (shown surroundings now).map fun time => (time, false)

/-- The calls that find the capture date. -/
def datingCalls : List Call :=
  callsAmong surroundings photo DateSource.all

/-- Whether no source gives a date, so that the clock is read. -/
def readsClock : Bool :=
  match dateAmong surroundings photo DateSource.all with
  | .ok none => true
  | _ => false

/-- The visit after the capture date has been read. -/
def afterDating (visit : Visit) : Visit :=
  { calls := visit.calls ++ photo.datingCalls surroundings,
    clock := if photo.readsClock surroundings then visit.clock.tick else visit.clock }

/-- The capture time if the clock shows the time `now`. -/
def timeAt (now : Binary64) : Except Failure Binary64 :=
  (photo.dateAt surroundings now).map Prod.fst

variable {surroundings : Surroundings} {photo : Photo}

theorem firstDate_run (sources : List DateSource) (visit : Visit) :
    (firstDate surroundings photo sources).run.run visit =
      (dateAmong surroundings photo sources,
        { visit with calls := visit.calls ++ callsAmong surroundings photo sources }) := by
  induction sources generalizing visit with
  | nil =>
    rw [firstDate, dateAmong, callsAmong, List.append_nil]
    rfl
  | cons source rest ih =>
    have hread := DateSource.read_run surroundings photo source visit
    rw [firstDate, dateAmong, callsAmong]
    cases hinstant : source.instant surroundings photo with
    | error failure =>
      rw [hinstant] at hread
      exact run_bind_error hread
    | ok found =>
      rw [hinstant] at hread
      rw [run_bind_ok hread]
      cases found with
      | none =>
        simp only
        rw [ih, List.append_assoc]
        rfl
      | some instant =>
        simp only
        have hshown := showable_run surroundings instant
          { visit with calls := visit.calls ++ [source.call] }
        cases hok : shown surroundings instant with
        | error failure =>
          rw [hok] at hshown
          exact run_bind_error hshown
        | ok time =>
          rw [hok] at hshown
          rw [run_bind_ok hshown]
          rfl

/-- **Reading the capture date gives `dateAt` of the time that the clock shows.** The clock is read only
if no source gives a date. -/
theorem captureDate_run (visit : Visit) :
    (photo.captureDate surroundings).run.run visit =
      (photo.dateAt surroundings visit.clock.now, photo.afterDating surroundings visit) := by
  have hfirst := @firstDate_run surroundings photo DateSource.all visit
  unfold captureDate dateAt afterDating datingCalls readsClock
  cases hdate : dateAmong surroundings photo DateSource.all with
  | error failure =>
    rw [hdate] at hfirst
    exact run_bind_error hfirst
  | ok found =>
    rw [hdate] at hfirst
    rw [run_bind_ok hfirst]
    cases found with
    | some found => rfl
    | none =>
      simp only
      rw [run_bind_ok (Fetch.run_readClock _)]
      have hshown := showable_run surroundings visit.clock.now
        { calls := visit.calls ++ callsAmong surroundings photo DateSource.all,
          clock := visit.clock.tick }
      cases hok : shown surroundings visit.clock.now with
      | error failure =>
        rw [hok] at hshown
        exact run_bind_error hshown
      | ok time =>
        rw [hok] at hshown
        exact run_bind_ok hshown

theorem captureTime_run (visit : Visit) :
    (Prod.fst <$> photo.captureDate surroundings).run.run visit =
      (photo.timeAt surroundings visit.clock.now, photo.afterDating surroundings visit) := by
  have hdate := @captureDate_run surroundings photo visit
  unfold timeAt
  rw [map_eq_pure_bind]
  cases hok : photo.dateAt surroundings visit.clock.now with
  | error failure =>
    rw [hok] at hdate
    exact run_bind_error hdate
  | ok found =>
    rw [hok] at hdate
    exact run_bind_ok hdate

/-- A clock that was read and gave no valid value did not show a number. -/
theorem eq_nan_of_timeAt {now : Binary64} {failure : Failure}
    (hread : photo.readsClock surroundings = true)
    (h : photo.timeAt surroundings now = .error failure)
    (hfamily : failure.family = .invalidValue) : now = .nan := by
  unfold readsClock at hread
  split at hread
  · rename_i hnone
    cases hshown : shown surroundings now with
    | ok time =>
      rw [timeAt, dateAt, hnone] at h
      simp only [hshown] at h
      cases h
    | error failure' =>
      rw [timeAt, dateAt, hnone] at h
      simp only [hshown] at h
      obtain rfl : failure' = failure := Except.error.inj h
      exact eq_nan_of_shown hshown hfamily
  · cases hread

theorem clocked_of_map {instant : Binary64} {β : Type} {pack : Binary64 → β} {packed : β}
    (h : (shown surroundings instant).map pack = .ok packed) :
    pack instant = packed ∧
      ∃ found, Timestamp.clocked surroundings.zone (.real instant) = .ok found := by
  rw [shown_eq] at h
  cases hclocked : Timestamp.clocked surroundings.zone (.real instant) with
  | error failure =>
    rw [hclocked] at h
    cases h
  | ok found =>
    rw [hclocked] at h
    exact ⟨Except.ok.inj h, found, rfl⟩

theorem clocked_of_dateAmong {sources : List DateSource} {time : Binary64} {taken : Bool}
    (h : dateAmong surroundings photo sources = .ok (some (time, taken))) :
    ∃ found, Timestamp.clocked surroundings.zone (.real time) = .ok found := by
  induction sources with
  | nil => cases h
  | cons source rest ih =>
    unfold dateAmong at h
    split at h
    · cases h
    · exact ih h
    · obtain ⟨hpack, hfound⟩ := clocked_of_map h
      cases hpack
      exact hfound

/-- **A capture time is an instant that can be shown.** -/
theorem clocked_of_timeAt {now time : Binary64}
    (h : photo.timeAt surroundings now = .ok time) :
    ∃ found, Timestamp.clocked surroundings.zone (.real time) = .ok found := by
  unfold timeAt dateAt at h
  split at h
  · cases h
  · rename_i hdate
    obtain rfl := Except.ok.inj h
    exact clocked_of_dateAmong hdate
  · cases hshown : (shown surroundings now).map fun time => (time, false) with
    | error failure =>
      rw [hshown] at h
      cases h
    | ok found =>
      rw [hshown] at h
      obtain ⟨rfl, hfound⟩ := clocked_of_map hshown
      obtain rfl := Except.ok.inj h
      exact hfound

/-! ### The source that decides -/

/-- Sources that give no instant. -/
def Silent (surroundings : Surroundings) (photo : Photo) (sources : List DateSource) : Prop :=
  ∀ source ∈ sources, source.instant surroundings photo = .ok none

/-- Why a photo has no capture time: the first source that is not silent fails, or the instant that it
gives cannot be shown, or all sources are silent and the time of the clock cannot be shown. -/
inductive Undated (surroundings : Surroundings) (photo : Photo) (now : Binary64) : Failure → Prop
  | source {before after : List DateSource} {source : DateSource} {failure : Failure} :
      DateSource.all = before ++ source :: after → Silent surroundings photo before →
      source.instant surroundings photo = .error failure → Undated surroundings photo now failure
  | instant {before after : List DateSource} {source : DateSource} {instant : Binary64}
      {failure : Failure} :
      DateSource.all = before ++ source :: after → Silent surroundings photo before →
      source.instant surroundings photo = .ok (some instant) →
      Timestamp.clocked surroundings.zone (.real instant) = .error failure →
      Undated surroundings photo now failure
  | clock {failure : Failure} : Silent surroundings photo DateSource.all →
      Timestamp.clocked surroundings.zone (.real now) = .error failure →
      Undated surroundings photo now failure

/-- Either all sources are silent or there is a first one that is not. -/
theorem silent_or_first (sources : List DateSource) :
    Silent surroundings photo sources ∨ ∃ before source after,
      sources = before ++ source :: after ∧ Silent surroundings photo before ∧
        source.instant surroundings photo ≠ .ok none := by
  induction sources with
  | nil => exact .inl nofun
  | cons source rest ih =>
    by_cases hsource : source.instant surroundings photo = .ok none
    · rcases ih with hrest | ⟨before, first, after, rfl, hbefore, hfirst⟩
      · exact .inl (List.forall_mem_cons.2 ⟨hsource, hrest⟩)
      · exact .inr ⟨source :: before, first, after, rfl,
          List.forall_mem_cons.2 ⟨hsource, hbefore⟩, hfirst⟩
    · exact .inr ⟨[], source, rest, rfl, nofun, hsource⟩

/-- Silent sources do not count. -/
theorem dateAmong_append {before : List DateSource} (h : Silent surroundings photo before)
    (later : List DateSource) :
    dateAmong surroundings photo (before ++ later) = dateAmong surroundings photo later := by
  induction before with
  | nil => rfl
  | cons source rest ih =>
    obtain ⟨hsource, hrest⟩ := List.forall_mem_cons.1 h
    rw [List.cons_append, dateAmong, hsource]
    exact ih hrest

theorem timeAt_of_silent {now : Binary64} (h : Silent surroundings photo DateSource.all) :
    photo.timeAt surroundings now = shown surroundings now := by
  have hnone := dateAmong_append h []
  rw [List.append_nil] at hnone
  rw [timeAt, dateAt, hnone, dateAmong]
  cases hshown : shown surroundings now <;> rfl

section Deciding

variable {now : Binary64} {before after : List DateSource} {source : DateSource}
  (hall : DateSource.all = before ++ source :: after) (hbefore : Silent surroundings photo before)

include hall hbefore

theorem timeAt_of_error {failure : Failure}
    (h : source.instant surroundings photo = .error failure) :
    photo.timeAt surroundings now = .error failure := by
  have hfirst := dateAmong_append hbefore (source :: after)
  rw [← hall, dateAmong, h] at hfirst
  rw [timeAt, dateAt, hfirst]
  rfl

theorem timeAt_of_instant {instant : Binary64}
    (h : source.instant surroundings photo = .ok (some instant)) :
    photo.timeAt surroundings now = shown surroundings instant := by
  have hfirst := dateAmong_append hbefore (source :: after)
  rw [← hall, dateAmong, h] at hfirst
  simp only at hfirst
  rw [timeAt, dateAt, hfirst]
  cases hshown : shown surroundings instant <;> rfl

end Deciding

/-- **Why a photo has no capture time.** -/
theorem timeAt_error_iff {now : Binary64} {failure : Failure} :
    photo.timeAt surroundings now = .error failure ↔ Undated surroundings photo now failure := by
  constructor
  · intro h
    rcases @silent_or_first surroundings photo DateSource.all with
      hsilent | ⟨before, source, after, hall, hbefore, hsource⟩
    · rw [timeAt_of_silent hsilent, shown_error_iff] at h
      exact .clock hsilent h
    · cases hinstant : source.instant surroundings photo with
      | error failure' =>
        rw [timeAt_of_error hall hbefore hinstant] at h
        obtain rfl := Except.error.inj h
        exact .source hall hbefore hinstant
      | ok found =>
        cases found with
        | none => exact absurd hinstant hsource
        | some instant =>
          rw [timeAt_of_instant hall hbefore hinstant, shown_error_iff] at h
          exact .instant hall hbefore hinstant h
  · intro h
    cases h with
    | source hall hbefore hsource => exact timeAt_of_error hall hbefore hsource
    | instant hall hbefore hsource hclocked =>
      rw [timeAt_of_instant hall hbefore hsource, shown_error_iff]
      exact hclocked
    | clock hsilent hclocked =>
      rw [timeAt_of_silent hsilent, shown_error_iff]
      exact hclocked

end Photo

end PhotoPublish
