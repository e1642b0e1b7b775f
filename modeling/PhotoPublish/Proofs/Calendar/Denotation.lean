import PhotoPublish.Proofs.Calendar.IsoDate
import PhotoPublish.Proofs.Calendar.Margins

/-!
# What ISO dates denote

The numbers of an ISO date denote a date and time of the calendar (`IsoDate.Denotes`), or they denote nothing
(`IsoDate.IsVoid`), or they are too large to be looked at (`IsoDate.IsVast`). A date without a zone may have no
timestamp although it denotes a local time.

* `DateTime.ofParts_ok_iff`: numbers are put together exactly if they are a date and time of the calendar.
* `parseIsoDate_none_iff`: a text gives no timestamp exactly if its first date denotes nothing.
* `parseIsoDate_error_iff`: reading fails exactly if the first date is vast or denotes a marginal local time.
-/

set_option autoImplicit false

namespace PhotoPublish

open Calendar

theorem Date.ofParts_ok_iff {year month day : Nat} {date : Date} :
    Date.ofParts year month day = .ok date ↔
      date = ⟨year, month, day⟩ ∧ date.IsValid ∧ 1 ≤ date.year ∧ date.year ≤ lastYear := by
  constructor
  · intro h
    obtain ⟨hvalid, rfl, hfirst, hlast⟩ := Date.isValid_of_ofParts h
    exact ⟨rfl, hvalid, by dsimp only; omega, by dsimp only; omega⟩
  · rintro ⟨rfl, ⟨hmonth, hmonth', hday, hday'⟩, hfirst, hlast⟩
    dsimp only at *
    unfold Date.ofParts
    rw [if_neg (by omega), if_neg (by omega), if_neg (by omega)]

/-- **Numbers are put together exactly if they are a date and time of the calendar.** -/
theorem DateTime.ofParts_ok_iff {year month day hour minute second microsecond : Nat}
    {offset : Option Int} {time : DateTime} :
    DateTime.ofParts year month day hour minute second microsecond offset = .ok time ↔
      time = ⟨⟨year, month, day⟩, hour, minute, second, microsecond, offset⟩ ∧ time.IsProper := by
  unfold DateTime.ofParts
  cases hdate : Date.ofParts year month day with
  | error fault =>
    refine iff_of_false nofun ?_
    rintro ⟨rfl, hproper⟩
    rw [Date.ofParts_ok_iff.2 ⟨rfl, hproper.date, hproper.year⟩] at hdate
    cases hdate
  | ok date =>
    obtain ⟨rfl, hvalid, hyear⟩ := Date.ofParts_ok_iff.1 hdate
    simp only [bind, Except.bind]
    split
    · refine iff_of_false nofun ?_
      rintro ⟨rfl, hproper⟩
      have hhour : hour < 24 := hproper.hour
      omega
    · split
      · refine iff_of_false nofun ?_
        rintro ⟨rfl, hproper⟩
        have hminute : minute < 60 := hproper.minute
        omega
      · split
        · refine iff_of_false nofun ?_
          rintro ⟨rfl, hproper⟩
          have hsecond : second < 60 := hproper.second
          omega
        · constructor
          · intro h
            obtain rfl := Except.ok.inj h
            exact ⟨rfl, hvalid, hyear, by dsimp only; omega, by dsimp only; omega, by dsimp only; omega⟩
          · rintro ⟨rfl, -⟩
            rfl

/-- A time with an offset does not depend on the local time zone. -/
theorem DateTime.timestamp_of_offset {time : DateTime} {offset : Int} (h : time.offset = some offset)
    (zone : Zone) :
    time.timestamp zone = .ok (.ofRatio
      (microseconds * (time.clockSeconds - offset) + time.microsecond) microseconds) := by
  unfold timestamp
  rw [h]

namespace IsoDate

variable {zone : Zone} {date : IsoDate} {time : DateTime} {text : Text}

/-- The date and time that the numbers of an ISO date denote. -/
structure Denotes (date : IsoDate) (time : DateTime) : Prop where
  readable : date.isReadable = true
  eq : time = ⟨⟨numeralValue date.year, numeralValue date.month, numeralValue date.day⟩,
    numeralValue date.hour, numeralValue date.minute, numeralValue date.second, 0,
    date.zone.map IsoZone.seconds⟩
  proper : time.IsProper

/-- A number of the date is beyond all calendars. -/
def IsVast (date : IsoDate) : Prop :=
  date.isReadable = true ∧ ∃ part ∈ date.parts, greatestPart < numeralValue part

/-- The numbers of the date cannot be read, or they are no date and time of the calendar. -/
def IsVoid (date : IsoDate) : Prop :=
  date.isReadable = false ∨
    (∀ part ∈ date.parts, numeralValue part ≤ greatestPart) ∧ ∀ time, ¬ date.Denotes time

theorem dateTime_ok_iff (hreadable : date.isReadable = true) :
    date.dateTime = .ok time ↔ date.Denotes time := by
  unfold dateTime
  rw [DateTime.ofParts_ok_iff]
  exact ⟨fun h => ⟨hreadable, h.1, h.2⟩, fun h => ⟨h.eq, h.proper⟩⟩

/-- The numbers of a date of the calendar are small. -/
theorem Denotes.parts_le (h : date.Denotes time) :
    ∀ part ∈ date.parts, numeralValue part ≤ greatestPart := by
  obtain ⟨-, rfl, hdate, ⟨-, hyear⟩, hhour, hminute, hsecond⟩ := h
  obtain ⟨-, hmonth, -, hday⟩ := hdate
  have hdays := daysInMonth_le (numeralValue date.year) (numeralValue date.month)
  unfold lastYear at hyear
  dsimp only at *
  unfold parts greatestPart
  simp only [List.forall_mem_cons]
  exact ⟨by omega, by omega, by omega, by omega, by omega, by omega, nofun⟩

/-! ## Timestamps of dates -/

theorem check_parts_iff :
    (date.parts.forM fun part => checkPart (numeralValue part)) = .ok () ↔
      ∀ part ∈ date.parts, numeralValue part ≤ greatestPart := by
  rw [forM_ok_iff]
  exact forall₂_congr fun part _ => checkPart_ok_iff

theorem timestamp_of_denotes (h : date.Denotes time) :
    date.timestamp zone = some <$> (time.timestamp zone).mapError Failure.calendar := by
  unfold timestamp
  simp only [h.readable, Bool.not_true, check_parts_iff.2 h.parts_le, (dateTime_ok_iff h.readable).2 h]
  cases time.timestamp zone <;> rfl

theorem timestamp_of_isVast (h : date.IsVast) : ∃ failure, date.timestamp zone = .error failure := by
  obtain ⟨hreadable, part, hpart, hlarge⟩ := h
  cases hcheck : date.parts.forM fun part => checkPart (numeralValue part) with
  | ok done =>
    have hsmall := check_parts_iff.1 hcheck part hpart
    omega
  | error fault =>
    refine ⟨.instant fault, ?_⟩
    unfold timestamp
    simp only [hreadable, Bool.not_true, hcheck]
    rfl

theorem timestamp_of_isVoid (h : date.IsVoid) : date.timestamp zone = .ok none := by
  unfold timestamp
  cases hreadable : date.isReadable with
  | false => rfl
  | true =>
    obtain hunreadable | ⟨hsmall, hnothing⟩ := h
    · rw [hreadable] at hunreadable
      cases hunreadable
    · simp only [Bool.not_true, check_parts_iff.2 hsmall]
      cases hdate : date.dateTime with
      | error fault => rfl
      | ok time => exact absurd ((dateTime_ok_iff hreadable).1 hdate) (hnothing time)

/-- A date is vast, or it is void, or it denotes a date and time. -/
theorem isVast_or_isVoid_or_denotes (date : IsoDate) :
    date.IsVast ∨ date.IsVoid ∨ ∃ time, date.Denotes time := by
  cases hreadable : date.isReadable with
  | false => exact .inr (.inl (.inl hreadable))
  | true =>
    by_cases hvast : ∃ part ∈ date.parts, greatestPart < numeralValue part
    · exact .inl ⟨hreadable, hvast⟩
    · by_cases hdenotes : ∃ time, date.Denotes time
      · exact .inr (.inr hdenotes)
      · refine .inr (.inl (.inr ⟨fun part hpart => ?_, fun time htime => hdenotes ⟨time, htime⟩⟩))
        exact Nat.not_lt.1 fun hlarge => hvast ⟨part, hpart, hlarge⟩

theorem timestamp_none_iff : date.timestamp zone = .ok none ↔ date.IsVoid := by
  refine ⟨fun h => ?_, timestamp_of_isVoid⟩
  rcases date.isVast_or_isVoid_or_denotes with hvast | hvoid | ⟨time, hdenotes⟩
  · obtain ⟨failure, hfailure⟩ := @timestamp_of_isVast zone date hvast
    rw [hfailure] at h
    cases h
  · exact hvoid
  · rw [timestamp_of_denotes hdenotes] at h
    cases htime : time.timestamp zone <;> rw [htime] at h <;> cases h

/-- A date and time in a zone of its own has a timestamp; a local time has one unless it is marginal. -/
theorem timestamp_error_iff (hzone : zone ∈ Zone.supported) :
    (∃ failure, date.timestamp zone = .error failure) ↔
      date.IsVast ∨ ∃ time, date.Denotes time ∧ time.offset = none ∧ time.IsMarginal zone := by
  constructor
  · rintro ⟨failure, hfailure⟩
    rcases date.isVast_or_isVoid_or_denotes with hvast | hvoid | ⟨time, hdenotes⟩
    · exact .inl hvast
    · rw [timestamp_of_isVoid hvoid] at hfailure
      cases hfailure
    · rw [timestamp_of_denotes hdenotes] at hfailure
      have hnone : ¬ ∃ x, time.timestamp zone = .ok x := by
        rintro ⟨x, hx⟩
        rw [hx] at hfailure
        cases hfailure
      cases hoffset : time.offset with
      | some offset => exact absurd ⟨_, DateTime.timestamp_of_offset hoffset zone⟩ hnone
      | none =>
        rw [DateTime.timestamp_returns_iff hzone hdenotes.proper hoffset, Classical.not_not] at hnone
        exact .inr ⟨time, hdenotes, hoffset, hnone⟩
  · rintro (hvast | ⟨time, hdenotes, hoffset, hmarginal⟩)
    · exact timestamp_of_isVast hvast
    · rw [timestamp_of_denotes hdenotes]
      have hnone := (DateTime.timestamp_returns_iff hzone hdenotes.proper hoffset).not_left.2 hmarginal
      cases htime : time.timestamp zone with
      | error fault => exact ⟨_, rfl⟩
      | ok x => exact absurd ⟨x, htime⟩ hnone

/-! ## Timestamps of texts -/

/-- Why a text cannot be read as a date. -/
inductive Fails (zone : Zone) (text : Text) : Prop
  /-- A number of its first date is beyond all calendars. -/
  | vast {date : IsoDate} : find? text = some date → date.IsVast → Fails zone text
  /-- Its first date denotes a local time at an end of the calendar. -/
  | marginal {date : IsoDate} {time : DateTime} : find? text = some date → date.Denotes time →
      time.offset = none → time.IsMarginal zone → Fails zone text

end IsoDate

open IsoDate

variable {zone : Zone} {text : Text}

/-- **A text gives no timestamp exactly if its first date denotes nothing.** -/
theorem parseIsoDate_none_iff :
    parseIsoDate zone text = .ok none ↔ ∀ date, find? text = some date → date.IsVoid := by
  unfold parseIsoDate
  cases find? text with
  | none => exact iff_of_true rfl nofun
  | some date =>
    dsimp only
    rw [timestamp_none_iff]
    exact ⟨fun hvoid _ hdate => Option.some.inj hdate ▸ hvoid, fun h => h date rfl⟩

/-- **Reading a text fails exactly if its first date is vast or denotes a marginal local time.** -/
theorem parseIsoDate_error_iff (hzone : zone ∈ Zone.supported) :
    (∃ failure, parseIsoDate zone text = .error failure) ↔ Fails zone text := by
  unfold parseIsoDate
  cases hfind : find? text with
  | none =>
    refine iff_of_false nofun ?_
    rintro (⟨hdate, -⟩ | ⟨hdate, -⟩)
    · rw [hfind] at hdate; cases hdate
    · rw [hfind] at hdate; cases hdate
  | some date =>
    dsimp only
    rw [timestamp_error_iff hzone]
    constructor
    · rintro (hvast | ⟨time, hdenotes, hoffset, hmarginal⟩)
      · exact .vast hfind hvast
      · exact .marginal hfind hdenotes hoffset hmarginal
    · rintro (⟨hdate, hvast⟩ | ⟨hdate, hdenotes, hoffset, hmarginal⟩)
      · obtain rfl := Option.some.inj (hfind.symm.trans hdate)
        exact .inl hvast
      · obtain rfl := Option.some.inj (hfind.symm.trans hdate)
        exact .inr ⟨_, hdenotes, hoffset, hmarginal⟩

end PhotoPublish
