import PhotoPublish.Proofs.Calendar.LocalTime

/-!
# Local times at the ends of the calendar

The instant of a local time is found by probing the clocks around it, and a probe has to lie in the years of the
calendar. At its ends all supported zones have standard time, so there the probes are known.

* `Zone.instantOf_of_far`: a few days away from the ends every local time has an instant.
* `Zone.instantOf_of_steady`: where the offset does not change, the probes of the same time and of the day before
  decide.
* `Zone.instantOf_returns_iff`: a local time has no instant if it lies on the first day, or in the last hours by
  which the standard time is ahead of UTC.
* `DateTime.timestamp_returns_iff`: the same for dates and times (`DateTime.IsMarginal`).
-/

set_option autoImplicit false

namespace PhotoPublish

/-! ## The seconds of the calendar -/

namespace Calendar

theorem le_yearOfDay_iff {year day : Int} : year ≤ yearOfDay day ↔ daysBeforeYear year ≤ day := by
  refine ⟨fun h => ?_, le_yearOfDay_of_le⟩
  have hmono := daysBeforeYear_mono h
  have hfirst := (yearOfDay_spec day).1
  omega

/-- The first second of the calendar, by any clock. -/
def firstSecond : Int := daySeconds * (daysBeforeYear 1 - epochDays)

/-- The first second after the calendar, by any clock. -/
def endSecond : Int := daySeconds * (daysBeforeYear (lastYear + 1) - epochDays)

theorem firstSecond_eq : firstSecond = -62135596800 := by decide

theorem endSecond_eq : endSecond = 253402300800 := by decide

/-- A number of seconds by a clock whose year is one of the calendar. -/
def Holds (seconds : Int) : Prop :=
  firstSecond ≤ seconds ∧ seconds < endSecond

instance (seconds : Int) : Decidable (Holds seconds) :=
  inferInstanceAs (Decidable (_ ∧ _))

end Calendar

open Calendar

namespace Zone

theorem le_yearOf_iff {year seconds : Int} :
    year ≤ yearOf seconds ↔ daySeconds * (daysBeforeYear year - epochDays) ≤ seconds := by
  show year ≤ yearOfDay (seconds / daySeconds + epochDays) ↔ _
  rw [le_yearOfDay_iff]
  unfold daySeconds
  omega

theorem yearOf_lt_iff {year seconds : Int} :
    yearOf seconds < year ↔ seconds < daySeconds * (daysBeforeYear year - epochDays) := by
  rw [← Int.not_le, le_yearOf_iff, Int.not_le]

theorem holds_iff {seconds : Int} :
    Holds seconds ↔ 1 ≤ yearOf seconds ∧ yearOf seconds ≤ lastYear := by
  have hfirst := @le_yearOf_iff 1 seconds
  have hlast := @yearOf_lt_iff (lastYear + 1) seconds
  unfold Holds firstSecond endSecond
  omega

/-! ## Probes -/

variable {zone : Zone} {clock instant : Int}

theorem probe_ok (h : Holds (instant + zone.offsetAt instant)) :
    zone.probe instant = .ok (instant + zone.offsetAt instant) :=
  probe_of_year (holds_iff.1 h)

theorem probe_error (h : ¬ Holds (instant + zone.offsetAt instant)) :
    ∃ fault, zone.probe instant = .error fault := by
  refine ⟨.year (yearOf (instant + zone.offsetAt instant)), ?_⟩
  unfold probe
  apply if_pos
  rw [holds_iff] at h
  show yearOf (instant + zone.offsetAt instant) < 1 ∨ lastYear < yearOf (instant + zone.offsetAt instant)
  omega

/-- A few days away from the ends of the calendar every local time has an instant. -/
theorem instantOf_of_far (hnear : zone.IsNear)
    (hfar : firstSecond + 3 * daySeconds ≤ clock ∧ clock + 3 * daySeconds ≤ endSecond) :
    ∃ instant, zone.instantOf clock = .ok instant := by
  have hone := hnear.offsetAt clock
  have hother := hnear.offsetAt (clock - zone.offsetAt clock)
  have hbefore := hnear.offsetAt (clock - zone.offsetAt clock - daySeconds)
  -- No probe is more than three days away.
  have hprobe : ∀ instant, (instant - clock).natAbs < 2 * daySeconds →
      zone.probe instant = .ok (instant + zone.offsetAt instant) := by
    intro instant hclose
    have hoffset := hnear.offsetAt instant
    apply probe_ok
    unfold Holds
    omega
  have hself : ∀ a b : Int, a + b - a = b := fun a b => by omega
  unfold instantOf
  simp only [hprobe clock (by omega), bind, Except.bind, hself]
  simp only [hprobe (clock - zone.offsetAt clock) (by omega), hself]
  split
  · simp only [hprobe (clock - zone.offsetAt clock - daySeconds) (by omega), hself]
    split
    · exact ⟨_, rfl⟩
    · simp only [hprobe (clock - zone.offsetAt (clock - zone.offsetAt clock - daySeconds)) (by omega)]
      split
      · exact ⟨_, rfl⟩
      · exact ⟨_, rfl⟩
  · simp only [hprobe (clock - zone.offsetAt (clock - zone.offsetAt clock)) (by omega)]
    split
    · exact ⟨_, rfl⟩
    · exact ⟨_, rfl⟩

/-- **Where the offset does not change, the probes of the same time and of the day before decide.** -/
theorem instantOf_of_steady (hnear : zone.IsNear) (hclock : Holds clock)
    (hsteady : ∀ instant, (instant - clock).natAbs ≤ 2 * daySeconds →
      zone.offsetAt instant = zone.offset) :
    (∃ instant, zone.instantOf clock = .ok instant) ↔
      Holds (clock + zone.offset) ∧ Holds (clock - daySeconds) := by
  have hoffset := hnear.standard
  have hhere := hsteady clock (by omega)
  have hguess := hsteady (clock - zone.offset) (by omega)
  have hbefore := hsteady (clock - zone.offset - daySeconds) (by omega)
  have hself : ∀ a b : Int, a + b - a = b := fun a b => by omega
  unfold instantOf
  by_cases hsame : Holds (clock + zone.offset)
  · have hprobe := @probe_ok zone clock (hhere.symm ▸ hsame)
    have hprobe' := @probe_ok zone (clock - zone.offset) (by rwa [hguess, Int.sub_add_cancel])
    rw [hhere] at hprobe
    rw [hguess, Int.sub_add_cancel] at hprobe'
    simp only [hprobe, bind, Except.bind, hself, hprobe', if_true]
    by_cases hday : Holds (clock - daySeconds)
    · have hback : clock - zone.offset - daySeconds + zone.offset = clock - daySeconds := by omega
      have hprobe'' := @probe_ok zone (clock - zone.offset - daySeconds) (by rwa [hbefore, hback])
      rw [hbefore] at hprobe''
      simp only [hprobe'', hself, if_true]
      exact iff_of_true ⟨_, rfl⟩ ⟨hsame, hday⟩
    · have hback : clock - zone.offset - daySeconds + zone.offset = clock - daySeconds := by omega
      obtain ⟨fault, hfault⟩ := @probe_error zone (clock - zone.offset - daySeconds)
        (by rwa [hbefore, hback])
      simp only [hfault]
      exact iff_of_false nofun fun h => hday h.2
  · obtain ⟨fault, hfault⟩ := @probe_error zone clock (hhere.symm ▸ hsame)
    simp only [hfault, bind, Except.bind]
    exact iff_of_false nofun fun h => hsame h.1

/-! ## Standard time -/

/-- Summer time is known from 1970 on. -/
theorem offsetAt_of_early (zone : Zone) (h : instant < 0) : zone.offsetAt instant = zone.offset := by
  have hyear : yearOf instant < firstSummerYear := yearOf_lt_iff.2 h
  unfold offsetAt timeAt
  cases zone.summer with
  | none => rfl
  | some summer =>
    have hwinter : zone.isSummer summer instant = false := by
      unfold isSummer
      rw [show (Date.ofDayNumber (instant / daySeconds)).year = yearOf instant from rfl]
      dsimp only
      rw [decide_eq_false (Int.not_le.2 hyear), Bool.false_and, Bool.false_and]
    simp only [hwinter]
    rfl

/-- At the turn of the last year no summer lasts. -/
theorem winter_of_supported : ∀ zone ∈ supported, ∀ summer ∈ zone.summer.toList,
    summer.stop.instant lastYear summer.offset ≤ endSecond - 6 * daySeconds ∧
      endSecond + 6 * daySeconds ≤ summer.start.instant (lastYear + 1) zone.offset := by
  decide

theorem offsetAt_of_late (hzone : zone ∈ supported)
    (h : endSecond - 6 * daySeconds ≤ instant ∧ instant < endSecond + 6 * daySeconds) :
    zone.offsetAt instant = zone.offset := by
  have hyear : yearOf instant = lastYear ∨ yearOf instant = lastYear + 1 := by
    have hfirst := @le_yearOf_iff lastYear instant
    have hlast := @yearOf_lt_iff (lastYear + 2) instant
    have hdays : daysBeforeYear lastYear = 3651694 := by decide
    have hdays' : daysBeforeYear (lastYear + 2) = 3652425 := by decide
    rw [endSecond_eq] at h
    unfold daySeconds epochDays at *
    omega
  unfold offsetAt timeAt
  cases hsummer : zone.summer with
  | none => rfl
  | some summer =>
    obtain ⟨hstop, hstart⟩ := winter_of_supported zone hzone summer (by rw [hsummer]; exact .head _)
    have hwinter : zone.isSummer summer instant = false := by
      unfold isSummer
      rw [show (Date.ofDayNumber (instant / daySeconds)).year = yearOf instant from rfl]
      dsimp only
      rcases hyear with hyear | hyear
      · rw [hyear, decide_eq_false (by omega : ¬ instant < summer.stop.instant lastYear summer.offset),
          Bool.and_false]
      · rw [hyear,
          decide_eq_false (by omega : ¬ summer.start.instant (lastYear + 1) zone.offset ≤ instant),
          Bool.and_false, Bool.false_and]
    simp only [hwinter]
    rfl

/-! ## Instants -/

/-- **The local times that have no instant** lie on the first day of the calendar, or in its last hours by which
the standard time is ahead of UTC. -/
theorem instantOf_returns_iff (hzone : zone ∈ supported) (hclock : Holds clock) :
    (∃ instant, zone.instantOf clock = .ok instant) ↔
      firstSecond + daySeconds ≤ clock ∧ clock + zone.offset < endSecond := by
  have hnear := isNear_of_supported zone hzone
  have hoffset := hnear.standard
  have hends : firstSecond + 6 * daySeconds < 0 := by decide
  have hends' : 0 < endSecond - 6 * daySeconds := by decide
  have hsteady : (∀ instant, (instant - clock).natAbs ≤ 2 * daySeconds →
      zone.offsetAt instant = zone.offset) →
      ((∃ instant, zone.instantOf clock = .ok instant) ↔
        firstSecond + daySeconds ≤ clock ∧ clock + zone.offset < endSecond) := by
    intro h
    rw [instantOf_of_steady hnear hclock h]
    unfold Holds at *
    omega
  unfold Holds at hclock
  by_cases hearly : clock + 2 * daySeconds < 0
  · apply hsteady
    intro instant hclose
    apply offsetAt_of_early
    omega
  · by_cases hlate : endSecond - 3 * daySeconds < clock
    · apply hsteady
      intro instant hclose
      apply offsetAt_of_late hzone
      omega
    · refine iff_of_true (instantOf_of_far hnear ?_) ?_
      all_goals omega

end Zone

/-! ## Dates and times -/

namespace DateTime

variable {zone : Zone} {time : DateTime}

/-- A date and time of the calendar. -/
structure IsProper (time : DateTime) : Prop where
  date : time.date.IsValid
  year : 1 ≤ time.date.year ∧ time.date.year ≤ lastYear
  hour : time.hour < 24
  minute : time.minute < 60
  second : time.second < 60

theorem IsProper.secondOfDay_lt (h : time.IsProper) : time.secondOfDay < daySeconds := by
  have hhour := h.hour
  have hminute := h.minute
  have hsecond := h.second
  unfold secondOfDay daySeconds
  omega

theorem IsProper.holds (h : time.IsProper) : Holds time.clockSeconds := by
  have hday := h.secondOfDay_lt
  have hyearDay := h.date.dayOfYear_lt
  have hnext := daysBeforeYear_succ time.date.year
  have hfirst := daysBeforeYear_mono h.year.1
  have hlast := @daysBeforeYear_mono (time.date.year + 1) (lastYear + 1) (by have := h.year.2; omega)
  unfold Holds clockSeconds Date.dayNumber firstSecond endSecond daySeconds at *
  omega

/-- A local time on the first day of the calendar, or on its last day, no farther from its end than the standard
time of the zone is ahead of UTC. -/
def IsMarginal (zone : Zone) (time : DateTime) : Prop :=
  time.date = ⟨1, 1, 1⟩ ∨
    time.date = ⟨lastYear, 12, 31⟩ ∧ (daySeconds : Int) ≤ time.secondOfDay + zone.offset

instance (zone : Zone) (time : DateTime) : Decidable (time.IsMarginal zone) :=
  inferInstanceAs (Decidable (_ ∨ _ ∧ _))

theorem isMarginal_iff (hnear : zone.IsNear) (h : time.IsProper) :
    time.IsMarginal zone ↔
      ¬ (firstSecond + daySeconds ≤ time.clockSeconds ∧ time.clockSeconds + zone.offset < endSecond) := by
  have hoffset := hnear.standard
  have hday := h.secondOfDay_lt
  have hholds := h.holds
  -- The first and the last day are told by their numbers, which the rest is about.
  have hfirst : time.date = ⟨1, 1, 1⟩ ↔ time.date.dayNumber = -719162 :=
    ⟨fun hdate => hdate ▸ by decide, fun hnumber => Date.eq_of_dayNumber_eq h.date (by decide) hnumber⟩
  have hlast : time.date = ⟨lastYear, 12, 31⟩ ↔ time.date.dayNumber = 2932896 :=
    ⟨fun hdate => hdate ▸ by decide, fun hnumber => Date.eq_of_dayNumber_eq h.date (by decide) hnumber⟩
  unfold IsMarginal
  rw [hfirst, hlast]
  unfold Holds clockSeconds at *
  rw [firstSecond_eq, endSecond_eq] at *
  unfold daySeconds at *
  omega

/-- **A local time of the calendar has a timestamp unless it is marginal.** -/
theorem timestamp_returns_iff (hzone : zone ∈ Zone.supported) (h : time.IsProper)
    (hlocal : time.offset = none) :
    (∃ x, time.timestamp zone = .ok x) ↔ ¬ time.IsMarginal zone := by
  rw [isMarginal_iff (Zone.isNear_of_supported zone hzone) h, Classical.not_not,
    ← Zone.instantOf_returns_iff hzone h.holds]
  unfold timestamp
  rw [hlocal]
  cases zone.instantOf time.clockSeconds with
  | error fault => exact iff_of_false nofun nofun
  | ok instant => exact iff_of_true ⟨_, rfl⟩ ⟨_, rfl⟩

end DateTime

end PhotoPublish
