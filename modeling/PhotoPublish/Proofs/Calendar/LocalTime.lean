import PhotoPublish.Calendar.Timestamp
import PhotoPublish.Proofs.Calendar.Date

/-!
# Local times and their instants

The clocks of a zone know two offsets only. So a local time is shown at one of two instants if it is shown at
all, and `Zone.instantOf` looks at both before it gives up.

* `Zone.instantOf_spec`: a local time that the clocks show has an instant at which they show it.
* `Zone.clockAt?_of_year`: what the clocks show can be said at the instants of all years of the calendar.
-/

set_option autoImplicit false

namespace PhotoPublish

/-- A local time of the calendar in whole seconds. -/
structure DateTime.IsLocal (time : DateTime) : Prop where
  valid : time.date.IsValid
  hour : time.hour < 24
  minute : time.minute < 60
  second : time.second < 60
  microsecond : time.microsecond = 0
  offset : time.offset = none

namespace Zone

/-! ## Times of day -/

theorem clockSeconds_clockOf (seconds : Int) : (clockOf seconds).clockSeconds = seconds := by
  unfold DateTime.clockSeconds DateTime.secondOfDay clockOf
  dsimp only
  rw [(Date.ofDayNumber_spec (seconds / daySeconds)).2]
  unfold daySeconds
  omega

/-- A clock shows local times in whole seconds. -/
theorem isLocal_clockOf (seconds : Int) : (clockOf seconds).IsLocal := by
  refine ⟨(Date.ofDayNumber_spec (seconds / daySeconds)).1, ?_, ?_, ?_, rfl, rfl⟩
  all_goals
    unfold clockOf daySeconds
    dsimp only
    omega

/-! ## Offsets -/

/-- The offset of summer time; without one it is that of standard time. -/
def summerOffset (zone : Zone) : Int :=
  match zone.summer with
  | none => zone.offset
  | some summer => summer.offset

theorem offsetAt_cases (zone : Zone) (instant : Int) :
    zone.offsetAt instant = zone.offset ∨ zone.offsetAt instant = zone.summerOffset := by
  unfold offsetAt timeAt summerOffset
  cases zone.summer with
  | none => exact .inl rfl
  | some summer =>
    dsimp only
    split
    · exact .inr rfl
    · exact .inl rfl

/-- The clocks of the zone are less than a day away from UTC. -/
structure IsNear (zone : Zone) : Prop where
  standard : zone.offset.natAbs < daySeconds
  summer : zone.summerOffset.natAbs < daySeconds

instance (zone : Zone) : Decidable zone.IsNear :=
  decidable_of_iff (zone.offset.natAbs < daySeconds ∧ zone.summerOffset.natAbs < daySeconds)
    ⟨fun h => ⟨h.1, h.2⟩, fun h => ⟨h.standard, h.summer⟩⟩

theorem isNear_of_supported : ∀ zone ∈ supported, zone.IsNear := by
  decide

theorem IsNear.offsetAt {zone : Zone} (h : zone.IsNear) (instant : Int) :
    (zone.offsetAt instant).natAbs < daySeconds := by
  rcases zone.offsetAt_cases instant with heq | heq
  · exact heq ▸ h.standard
  · exact heq ▸ h.summer

theorem time_clockAt (zone : Zone) (instant : Int) :
    (zone.clockAt instant).time = clockOf (instant + zone.offsetAt instant) := rfl

/-! ## Instants -/

/-- The year in which an instant lies, if it counts seconds by one clock. -/
def yearOf (seconds : Int) : Int :=
  (Date.ofDayNumber (seconds / daySeconds)).year

/-- A few days lead to the next year at most. -/
theorem yearOf_near {seconds other : Int} (h : (other - seconds).natAbs ≤ 4 * daySeconds) :
    yearOf seconds - 1 ≤ yearOf other ∧ yearOf other ≤ yearOf seconds + 1 := by
  refine Date.year_ofDayNumber_near ?_
  simp only [daySeconds] at h ⊢
  omega

theorem probe_of_year {zone : Zone} {instant : Int}
    (h : 1 ≤ yearOf (instant + zone.offsetAt instant) ∧
      yearOf (instant + zone.offsetAt instant) ≤ lastYear) :
    zone.probe instant = .ok (instant + zone.offsetAt instant) := by
  unfold probe
  dsimp only
  exact if_neg (not_or.2 ⟨Int.not_lt.2 h.1, Int.not_lt.2 h.2⟩)

variable {zone : Zone} {clock : Int}

/-- **A local time that the clocks show has an instant at which they show it.** -/
theorem instantOf_spec (hnear : zone.IsNear) (hyear : 1 < yearOf clock ∧ yearOf clock < lastYear)
    (hshown : ∃ instant, instant + zone.offsetAt instant = clock) :
    ∃ instant, zone.instantOf clock = .ok instant ∧ instant + zone.offsetAt instant = clock := by
  -- No probe is more than three days away.
  have hprobe : ∀ instant, (instant - clock).natAbs ≤ 3 * daySeconds →
      zone.probe instant = .ok (instant + zone.offsetAt instant) := by
    intro instant hclose
    have hoffset := hnear.offsetAt instant
    have hyears := @yearOf_near clock (instant + zone.offsetAt instant) (by omega)
    exact probe_of_year ⟨by omega, by omega⟩
  have hself : ∀ a b : Int, a + b - a = b := fun a b => by omega
  have hone := hnear.offsetAt clock
  have hother := hnear.offsetAt (clock - zone.offsetAt clock)
  have hbefore := hnear.offsetAt (clock - zone.offsetAt clock - daySeconds)
  unfold instantOf
  simp only [hprobe clock (by omega), bind, Except.bind, hself]
  simp only [hprobe (clock - zone.offsetAt clock) (by omega), hself]
  split
  · rename_i hguess
    simp only [hprobe (clock - zone.offsetAt clock - daySeconds) (by omega),
      hself]
    split
    · exact ⟨_, rfl, hguess⟩
    · simp only [hprobe (clock - zone.offsetAt (clock - zone.offsetAt clock - daySeconds)) (by omega)]
      split
      · rename_i hearlier
        exact ⟨_, rfl, hearlier⟩
      · exact ⟨_, rfl, hguess⟩
  · rename_i hguess
    simp only [hprobe (clock - zone.offsetAt (clock - zone.offsetAt clock)) (by omega)]
    -- One of the two offsets is that of the instant.
    obtain ⟨instant, hinstant⟩ := hshown
    have hsame : clock - zone.offsetAt (clock - zone.offsetAt clock) = instant := by
      have hfirst := zone.offsetAt_cases clock
      have hsecond := zone.offsetAt_cases (clock - zone.offsetAt clock)
      have hthird := zone.offsetAt_cases instant
      have hnot : zone.offsetAt clock ≠ zone.offsetAt instant := by
        intro heq
        obtain rfl : clock - zone.offsetAt clock = instant := by omega
        exact hguess hinstant
      have hnot' : zone.offsetAt clock ≠ zone.offsetAt (clock - zone.offsetAt clock) := by
        omega
      omega
    rw [hsame, if_pos hinstant]
    exact ⟨instant, rfl, hinstant⟩

theorem fitsRecord_of_year {year : Int} (h : 1 ≤ year ∧ year ≤ lastYear) : fitsRecord year = true := by
  unfold lastYear at h
  unfold fitsRecord recordBound
  rw [Bool.and_eq_true, decide_eq_true_iff, decide_eq_true_iff]
  omega

/-- The instants of the calendar are numbers of at most 53 bits. -/
theorem natAbs_lt_of_year {seconds : Int} (h : 1 ≤ yearOf seconds ∧ yearOf seconds ≤ lastYear) :
    seconds.natAbs < Nat.pow 2 53 := by
  have hyear : yearOf seconds = Calendar.yearOfDay (seconds / daySeconds + Calendar.epochDays) := rfl
  obtain ⟨hfirst, hlast⟩ := Calendar.yearOfDay_spec (seconds / daySeconds + Calendar.epochDays)
  rw [← hyear] at hfirst hlast
  have hstart := Calendar.daysBeforeYear_mono h.1
  have hstop := @Calendar.daysBeforeYear_mono (yearOf seconds + 1) 10000
    (by unfold lastYear at h; omega)
  have hone : Calendar.daysBeforeYear 1 = 0 := rfl
  have hend : Calendar.daysBeforeYear 10000 = 3652059 := rfl
  have hbound : Nat.pow 2 53 = 9007199254740992 := rfl
  unfold Calendar.epochDays daySeconds at hfirst hlast
  omega

/-- What the clocks show can be said at the instants of all years of the calendar. -/
theorem clockAt?_of_year (hnear : zone.IsNear) {instant : Int}
    (hyear : 1 < yearOf (instant + zone.offsetAt instant) ∧
      yearOf (instant + zone.offsetAt instant) < lastYear) :
    instant.natAbs < Nat.pow 2 53 ∧ zone.clockAt? instant = .ok (zone.clockAt instant) := by
  have hoffset := hnear.offsetAt instant
  have hyears := @yearOf_near (instant + zone.offsetAt instant) instant (by omega)
  have hhere : fitsRecord (yearOf (instant + zone.offsetAt instant)) = true :=
    fitsRecord_of_year ⟨by omega, by omega⟩
  have hthere : fitsRecord (yearOf instant) = true := fitsRecord_of_year ⟨by omega, by omega⟩
  have hbound := @natAbs_lt_of_year instant ⟨by omega, by omega⟩
  have hpow : Nat.pow 2 53 = 9007199254740992 := rfl
  refine ⟨hbound, ?_⟩
  unfold clockAt?
  rw [if_neg (by unfold clockBound; omega)]
  exact if_pos (Bool.and_eq_true _ _ ▸ ⟨hthere, hhere⟩)

end Zone

end PhotoPublish
