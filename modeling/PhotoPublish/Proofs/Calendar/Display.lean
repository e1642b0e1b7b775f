import PhotoPublish.Calendar.Display

/-!
# Instants that can be shown

`Timestamp.clocked` is what the clocks show at an instant, if a date can be written there at all. A format
does its part after that (`Timestamp.format_eq`), so that an instant that one format can show is shown by
every format without a NUL.
-/

set_option autoImplicit false

namespace PhotoPublish

theorem Zone.ne_notANumber_of_clockAt? {zone : Zone} {instant : Int} {fault : InstantFault}
    (h : zone.clockAt? instant = .error fault) : fault ≠ .notANumber := by
  unfold clockAt? at h
  rintro rfl
  split at h
  · cases h
  · simp only at h
    split at h <;> cases h

namespace Timestamp

theorem second_error {instant : Binary64} {failure : Failure}
    (h : second (.real instant) = .error failure) :
    ∃ fault, failure = .instant fault ∧ (fault = .notANumber → instant = .nan) := by
  unfold second at h
  split at h
  · cases h
  · cases h
  · rename_i hnan
    cases h
    exact ⟨_, rfl, fun _ => Value.real.inj hnan⟩
  · split at h
    · cases h
    · cases h
      exact ⟨_, rfl, nofun⟩
  · rename_i hreal
    exact absurd rfl (hreal instant)

/-- What the clocks show at an instant, with its second, if a date can be written there. -/
def clocked (zone : Zone) (instant : Value) : Except Failure (Int × LocalTime) := do
  let second ← second instant
  let shown ← (zone.clockAt? second).mapError Failure.instant
  if lastFormatYear < shown.time.date.year then throw (.instant .beyondInt)
  return (second, shown)

/-- A format does its part after all that depends on the instant alone. -/
theorem format_eq (zone : Zone) (instant : Value) (shape : Text) :
    format zone instant shape = clocked zone instant >>= fun found =>
      if shape.contains '\x00' = true then .error .nulInText
      else .ok (DateFormat.format shape found.1 found.2) := by
  unfold format clocked
  cases second instant with
  | error failure => rfl
  | ok second =>
    cases hclock : zone.clockAt? second with
    | error fault =>
      simp only [bind, Except.bind]
      rw [hclock]
      rfl
    | ok shown =>
      have hshown : (Except.ok shown : Except InstantFault LocalTime).mapError Failure.instant =
          .ok shown := rfl
      simp only [bind, Except.bind]
      rw [hclock, hshown]
      by_cases hyear : lastFormatYear < shown.time.date.year
      · simp only [if_pos hyear]
        rfl
      · simp only [if_neg hyear]
        rfl

/-- What keeps an instant from being shown is its size; only one is not a number. -/
theorem clocked_error {zone : Zone} {instant : Binary64} {failure : Failure}
    (h : clocked zone (.real instant) = .error failure) :
    ∃ fault, failure = .instant fault ∧ (fault = .notANumber → instant = .nan) := by
  unfold clocked at h
  cases hsecond : second (.real instant) with
  | error failure' =>
    rw [hsecond] at h
    obtain rfl : failure' = failure := Except.error.inj h
    exact second_error hsecond
  | ok second =>
    rw [hsecond] at h
    simp only [bind, Except.bind] at h
    cases hclock : zone.clockAt? second with
    | error fault =>
      rw [hclock] at h
      obtain rfl : .instant fault = failure := Except.error.inj h
      exact ⟨fault, rfl, fun hfault => absurd hfault (Zone.ne_notANumber_of_clockAt? hclock)⟩
    | ok shown =>
      have hshown : (Except.ok shown : Except InstantFault LocalTime).mapError Failure.instant =
          .ok shown := rfl
      rw [hclock, hshown] at h
      simp only at h
      split at h
      · obtain rfl : .instant .beyondInt = failure := Except.error.inj h
        exact ⟨_, rfl, nofun⟩
      · cases h

end Timestamp

end PhotoPublish
