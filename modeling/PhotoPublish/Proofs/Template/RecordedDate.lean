import PhotoPublish.Pattern.CharacterName
import PhotoPublish.Proofs.Calendar.IsoDate
import PhotoPublish.Proofs.Number.Binary64
import PhotoPublish.Proofs.Template.Evaluation

/-!
# Recorded dates

A local time that is recorded in a photo comes back as it was, whether as a text or as a date and time: the
instant that it denotes is one at which the clocks of the zone show it again.

* `Zone.timestamp_shown`: from a local time to its instant and back.
* `Placeholder.dateValue_of_timeAt`: a placeholder for a date writes what the clocks show at the capture time.
* `Zone.localTime_returns`: both put together, for the zones that are supported.
-/

set_option autoImplicit false

namespace PhotoPublish

/-! ## Instants -/

/-- An instant that can be shown is shown by every format without a NUL. -/
theorem Timestamp.format_of_clocked {zone : Zone} {instant : Value} {second : Int} {shown : LocalTime}
    (hclocked : clocked zone instant = .ok (second, shown)) {shape : Text}
    (hnul : shape.contains '\x00' = false) :
    format zone instant shape = .ok (DateFormat.format shape second shown) := by
  rw [format_eq, hclocked]
  exact if_neg (Bool.eq_false_iff.1 hnul)

namespace Zone

variable {zone : Zone} {time : DateTime}

/-- **A local time that the clocks show denotes an instant at which they show it.** -/
theorem timestamp_shown (hnear : zone.IsNear) (hshown : ∃ instant, (zone.clockAt instant).time = time)
    (hyear : 1 < time.date.year ∧ time.date.year < lastYear) :
    time.IsLocal ∧ ∃ instant : Int, (zone.clockAt instant).time = time ∧
      time.timestamp zone = .ok (.ofInt instant) ∧
      Timestamp.clocked zone (.real (.ofInt instant)) = .ok (instant, zone.clockAt instant) := by
  obtain ⟨first, rfl⟩ := hshown
  rw [time_clockAt] at hyear ⊢
  have hlocal := isLocal_clockOf (first + zone.offsetAt first)
  have hseconds := clockSeconds_clockOf (first + zone.offsetAt first)
  obtain ⟨instant, hinstant, hsame⟩ := instantOf_spec hnear hyear ⟨first, rfl⟩
  rw [← hsame] at hyear hinstant hlocal hseconds ⊢
  obtain ⟨hbound, hclock⟩ := clockAt?_of_year hnear hyear
  refine ⟨hlocal, instant, time_clockAt zone instant, ?_, ?_⟩
  · unfold DateTime.timestamp
    rw [hlocal.offset, hseconds]
    dsimp only
    rw [hinstant, hlocal.microsecond]
    exact congrArg Except.ok (Binary64.ofInt_add_zero hbound DateTime.microseconds)
  · have hsecond : Timestamp.second (.real (.ofInt instant)) = .ok instant := by
      have hfloor := Binary64.floor?_ofInt hbound
      rw [Binary64.ofInt_eq hbound] at hfloor ⊢
      unfold Timestamp.second
      dsimp only
      rw [hfloor]
    have hlast : ¬ Timestamp.lastFormatYear < yearOf (instant + zone.offsetAt instant) := by
      have hyear : yearOf (instant + zone.offsetAt instant) < lastYear := hyear.2
      unfold lastYear at hyear
      unfold Timestamp.lastFormatYear
      omega
    unfold Timestamp.clocked
    rw [hsecond]
    simp only [bind, Except.bind]
    rw [hclock]
    exact if_neg hlast

end Zone

/-! ## Photos -/

/-- A source that holds a local time: as an ISO date or, in raw metadata, as a date and time. -/
def DateSource.Holds (photo : Photo) (time : DateTime) : DateSource → Prop
  | .raw key _ => photo.raw.get key = .text (time.text 'T') ∨ photo.raw.get key = .moment time
  | .created => photo.formattedFields.get DateSource.createdKey = .text (time.text 'T')
  | .file => False

/-- The first source of the photo's capture date that gives a date holds a local time. -/
def Photo.Records (surroundings : Surroundings) (photo : Photo) (time : DateTime) : Prop :=
  ∃ before source after, DateSource.all = before ++ source :: after ∧
    photo.Silent surroundings before ∧ source.Holds photo time

section Recorded

variable {surroundings : Surroundings} {photo : Photo} {time : DateTime} {stamp : Binary64}

/-- A photo that records a local time was taken at the instant that it denotes. -/
theorem Photo.timeAt_of_records (hrecords : photo.Records surroundings time)
    (hparse : parseIsoDate surroundings.zone (time.text 'T') = .ok (some stamp))
    (hmoment : toTimestamp surroundings.zone (.moment time) = .ok (some stamp))
    {found : Int × LocalTime} (hclocked : Timestamp.clocked surroundings.zone (.real stamp) = .ok found)
    (now : Binary64) : photo.timeAt surroundings now = .ok stamp := by
  obtain ⟨before, source, after, hall, hsilent, hholds⟩ := hrecords
  have hinstant : source.instant surroundings photo = .ok (some stamp) := by
    cases source with
    | raw key taken =>
      show toTimestamp surroundings.zone (photo.raw.get key) = _
      rcases hholds with htext | htime
      · rw [htext]
        exact hparse
      · rw [htime]
        exact hmoment
    | created =>
      have hcreated : photo.formattedFields.get DateSource.createdKey = .text (time.text 'T') := hholds
      have hset : (Value.text (time.text 'T')).isSet = true := by
        cases htext : time.text 'T' with
        | nil =>
          rw [htext] at hparse
          cases hparse
        | cons c rest => rfl
      show DateSource.ofCreated surroundings.zone (photo.formattedFields.get DateSource.createdKey) = _
      rw [hcreated, DateSource.ofCreated, if_pos hset]
      exact hparse
    | file => exact hholds.elim
  rw [timeAt_of_instant hall hsilent hinstant, shown_eq, hclocked]
  rfl

/-- A placeholder for a date writes what the clocks show at the capture time, unless it writes nothing. -/
theorem Placeholder.dateValue_of_timeAt {p : Placeholder} {state : Evaluation}
    (hblank : p.args.trim.isEmpty = false) (hnul : p.args.contains '\x00' = false)
    (htime : photo.timeAt surroundings state.visit.clock.now = .ok stamp)
    (hkept : ∀ kept, state.snapshot.captureTime = some kept → kept = stamp)
    {instant : Int} {shown : LocalTime}
    (hclocked : Timestamp.clocked surroundings.zone (.real stamp) = .ok (instant, shown)) :
    ((p.dateValue surroundings photo).run.run state).1 =
      .ok (if (DateFormat.format p.args instant shown).isEmpty then p.fallback
        else DateFormat.format p.args instant shown) := by
  obtain ⟨mid, hmid⟩ : ∃ mid, (Evaluate.captureTime surroundings photo).run.run state =
      (.ok stamp, mid) := by
    unfold Evaluate.captureTime
    cases hsnapshot : state.snapshot.captureTime with
    | some kept =>
      rw [Evaluate.cached_run_of_some hsnapshot, hkept kept hsnapshot]
      exact ⟨state, rfl⟩
    | none =>
      have hread := @Photo.captureTime_run surroundings photo state.visit
      rw [htime] at hread
      exact ⟨_, Evaluate.cached_run_of_none hsnapshot hread⟩
  have hformat := Timestamp.format_of_clocked hclocked hnul
  unfold dateValue
  rw [if_neg (Bool.eq_false_iff.1 hblank),
    run_tryCatch_ok ((run_bind_ok hmid).trans (by rw [hformat]; rfl))]

end Recorded

/-- **Local times come back as they were.** In every zone that is supported, a local time in whole seconds that
the clocks show at some instant is read as an instant at which they show it, whether it is written or given as
date and time. So it is written again with the same fields, and a placeholder for the date of a photo that
records it writes these fields, too. -/
theorem Zone.localTime_returns [Pattern.CharacterNames] {zone : Zone} (hzone : zone ∈ supported)
    {time : DateTime}
    (hshown : ∃ instant, (zone.clockAt instant).time = time)
    (hyear : 1000 ≤ time.date.year ∧ time.date.year ≤ 9998) :
    ∃ instant : Int, (zone.clockAt instant).time = time ∧
      parseIsoDate zone (time.text 'T') = .ok (some (.ofInt instant)) ∧
      toTimestamp zone (.moment time) = .ok (some (.ofInt instant)) ∧
      Timestamp.format zone (.real (.ofInt instant)) Timestamp.messageFormat = .ok (time.text ' ') ∧
      ∀ (surroundings : Surroundings) (photo : Photo) (p : Placeholder) (state : Evaluation),
        surroundings.zone = zone → photo.Records surroundings time → p.category = .date →
        p.args.trim.isEmpty = false → p.args.contains '\x00' = false →
        (∀ kept, state.snapshot.captureTime = some kept → kept = .ofInt instant) →
        ((p.value surroundings photo).run.run state).1 =
          .ok (if (DateFormat.format p.args instant (zone.clockAt instant)).isEmpty then p.fallback
            else DateFormat.format p.args instant (zone.clockAt instant)) := by
  have hlast : (lastYear : Int) = 9999 := rfl
  obtain ⟨hlocal, instant, hsame, hstamp, hclocked⟩ :=
    timestamp_shown (isNear_of_supported zone hzone) hshown ⟨by omega, by omega⟩
  have hmoment : toTimestamp zone (.moment time) = .ok (some (.ofInt instant)) := by
    show some <$> (time.timestamp zone).mapError Failure.calendar = _
    rw [hstamp]
    rfl
  have hparse := (parseIsoDate_text hlocal ⟨by omega, by omega⟩ zone).trans hmoment
  refine ⟨instant, hsame, hparse, hmoment, ?_, ?_⟩
  · have hwritten := @DateFormat.format_messageFormat (zone.clockAt instant) (hsame.symm ▸ hlocal)
      (by rw [hsame]; omega) instant
    rw [Timestamp.format_of_clocked hclocked (by decide), hwritten, hsame]
  · rintro surroundings photo p state rfl hrecords hdate hblank hnul hkept
    have htime := Photo.timeAt_of_records hrecords hparse hmoment hclocked
      state.visit.clock.now
    unfold Placeholder.value
    rw [hdate]
    exact Placeholder.dateValue_of_timeAt hblank hnul htime hkept hclocked

/-- Half past two in the night in which the clocks show every minute after two twice. -/
def overlapTime : DateTime :=
  { date := ⟨2020, 10, 25⟩, hour := 2, minute := 30, second := 0, microsecond := 0, offset := none }

/-- A photo that was taken then. -/
def overlapPhoto : Photo :=
  { raw := [("dateTimeOriginal".toList, .text "2020-10-25T02:30:00".toList)] }

/-- A placeholder for the time of day. -/
def overlapPlaceholder : Placeholder :=
  { category := .date, args := "%H:%M".toList, default := none, text := "\x7bDate %H:%M\x7d".toList,
    start := 0 }

attribute [local instance] Pattern.CharacterNames.common

theorem Zone.localTime_returns_overlap : ∃ instant : Int,
    (Zone.cet.clockAt instant).time = overlapTime ∧
      parseIsoDate .cet "2020-10-25T02:30:00".toList = .ok (some (.ofInt instant)) ∧
      Timestamp.format .cet (.real (.ofInt instant)) Timestamp.messageFormat =
        .ok "2020-10-25 02:30:00".toList ∧
      ((overlapPlaceholder.value { zone := .cet } overlapPhoto).run.run { visit := { clock := default } }).1 =
        .ok (if (DateFormat.format "%H:%M".toList instant (Zone.cet.clockAt instant)).isEmpty then []
          else DateFormat.format "%H:%M".toList instant (Zone.cet.clockAt instant)) := by
  have hrecords : overlapPhoto.Records { zone := .cet } overlapTime :=
    ⟨[], _, _, rfl, nofun, .inl rfl⟩
  obtain ⟨instant, hsame, hparse, -, hwritten, hvalue⟩ :=
    @localTime_returns _ .cet (by decide) overlapTime ⟨1603585800, by decide +kernel⟩ (by decide)
  exact ⟨instant, hsame, hparse, hwritten, hvalue { zone := .cet } overlapPhoto overlapPlaceholder
    { visit := { clock := default } } rfl hrecords rfl rfl rfl nofun⟩

end PhotoPublish
