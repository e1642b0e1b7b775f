import PhotoPublish.Proofs.Calendar.Denotation
import PhotoPublish.Proofs.Number.Binary64

/-!
# Dates with a zone

A `ZonedDate` is a date of the calendar as it may be written: any digits that denote it, perhaps a time of day of up
to three parts, and a zone.

* `ZonedDate.find?_text`: the ISO date in such a text has the digits that were written.
* `ZonedDate.parse_eq`: it denotes the instant that civil calendar arithmetic gives, in every local time zone,
  unless a numeral is too long to be read.
* `parseIsoDate_zoned`: so equal timestamps are equal instants, and later instants have larger timestamps.
-/

set_option autoImplicit false

namespace PhotoPublish

/-! ## Spellings -/

/-- Two digits. -/
def IsTwoDigits (text : Text) : Prop :=
  text.length = 2 ∧ ∀ c ∈ text, isDecimal c = true

instance (text : Text) : Decidable (IsTwoDigits text) :=
  @instDecidableAnd _ _ _ (List.decidableBAll (fun c => isDecimal c = true) text)

/-- Digits, at least one. -/
def IsNumeral (text : Text) : Prop :=
  text ≠ [] ∧ ∀ c ∈ text, isDecimal c = true

instance (text : Text) : Decidable (IsNumeral text) :=
  @instDecidableAnd _ _ _ (List.decidableBAll (fun c => isDecimal c = true) text)

/-- Hours and minutes of a zone have two digits each. -/
def IsoZone.IsWritten : IsoZone → Prop
  | .utc => True
  | .shifted _ hours minutes => IsTwoDigits hours ∧ IsTwoDigits minutes

/-- A date of the calendar with a zone, as it is written. -/
structure ZonedDate where
  year : Text
  month : Text
  day : Text
  /-- Hour, minute and second; those at the end may be missing. -/
  clock : List Text
  zone : IsoZone
  /-- Whether a colon stands between hours and minutes of the zone. -/
  colon : Bool
  numerals : ∀ numeral ∈ [year, month, day], IsNumeral numeral
  valid : (Date.mk (numeralValue year) (numeralValue month) (numeralValue day)).IsValid
  calendar : 1 ≤ numeralValue year ∧ numeralValue year ≤ lastYear
  parts : clock.length ≤ 3 ∧ ∀ part ∈ clock, IsTwoDigits part
  hour : numeralValue (clock.getD 0 []) < 24
  minute : numeralValue (clock.getD 1 []) < 60
  second : numeralValue (clock.getD 2 []) < 60
  written : zone.IsWritten
  near : (IsoDate.IsoZone.seconds zone).natAbs < daySeconds

namespace ZonedDate

variable (a : ZonedDate)

/-- The time of day, after a `T` and with colons between its parts. -/
def clockText : List Text → Text
  | [] => []
  | hour :: rest => 'T' :: hour ++ rest.flatMap (':' :: ·)

/-- The zone: `Z`, or a sign, hours and minutes. -/
def zoneText (colon : Bool) : IsoZone → Text
  | .utc => ['Z']
  | .shifted negative hours minutes =>
    (if negative then '-' else '+') :: hours ++ (if colon then ':' :: minutes else minutes)

/-- The text of the date. -/
def text : Text :=
  a.year ++ '-' :: (a.month ++ '-' :: (a.day ++ (clockText a.clock ++ zoneText a.colon a.zone)))

/-- The day that the date denotes. -/
def date : Date :=
  ⟨numeralValue a.year, numeralValue a.month, numeralValue a.day⟩

/-- Seconds east of UTC. -/
def offset : Int :=
  IsoDate.IsoZone.seconds a.zone

/-- The seconds from 1970-01-01 00:00:00 in UTC, by a count of the days. -/
def instant (days : Date → Int) : Int :=
  86400 * days a.date + 3600 * numeralValue (a.clock.getD 0 []) + 60 * numeralValue (a.clock.getD 1 []) +
    numeralValue (a.clock.getD 2 []) - a.offset

/-- No numeral is too long to be read. -/
def IsShort : Prop :=
  ∀ numeral ∈ [a.year, a.month, a.day], numeral.length ≤ Numeral.longest

instance : Decidable a.IsShort :=
  inferInstanceAs (Decidable (∀ numeral ∈ [a.year, a.month, a.day], numeral.length ≤ Numeral.longest))

/-! ## Finding -/

/-- The digits that are written. -/
def isoDate : IsoDate where
  year := a.year
  month := a.month
  day := a.day
  hour := a.clock.getD 0 []
  minute := a.clock.getD 1 []
  second := a.clock.getD 2 []
  zone := some a.zone

/-- A zone begins with a sign or with its letter. -/
theorem exists_zoneText (colon : Bool) (zone : IsoZone) :
    ∃ c rest, zoneText colon zone = c :: rest ∧ isDecimal c = false ∧ c ≠ 'T' ∧ c ≠ ':' := by
  cases zone with
  | utc => exact ⟨'Z', [], rfl, by decide⟩
  | shifted negative hours minutes =>
    cases negative with
    | false => exact ⟨'+', _, rfl, by decide⟩
    | true => exact ⟨'-', _, rfl, by decide⟩

theorem takeColon_of_ne {c : Char} (h : c ≠ ':') (rest : Text) :
    IsoDate.takeColon (c :: rest) = ([], c :: rest) := by
  unfold IsoDate.takeColon
  split
  · rename_i heq
    exact absurd (List.cons.inj heq).1 h
  · rfl

/-- What follows parts of a time of day is no digit. -/
theorem head?_parts (parts : List Text) {c : Char} (hc : isDecimal c = false) (rest : Text) :
    ∀ d ∈ (parts.flatMap (':' :: ·) ++ c :: rest).head?, isDecimal d = false := by
  cases parts with
  | nil =>
    rintro d ⟨⟩
    exact hc
  | cons part more =>
    rintro d ⟨⟩
    decide

/-- One part is read, and the others are left. -/
theorem takeColon_parts {parts : List Text} (hdigits : ∀ part ∈ parts, ∀ d ∈ part, isDecimal d = true)
    {c : Char} (hc : isDecimal c = false) (hcolon : c ≠ ':') (rest : Text) :
    IsoDate.takeColon (parts.flatMap (':' :: ·) ++ c :: rest) =
      (parts.getD 0 [], parts.tail.flatMap (':' :: ·) ++ c :: rest) := by
  cases parts with
  | nil => exact takeColon_of_ne hcolon rest
  | cons part more =>
    rw [List.flatMap_cons, List.append_assoc, List.cons_append,
      IsoDate.takeColon_append (hdigits part (.head _)) (head?_parts more hc rest)]
    rfl

/-- **The time of day is read up to the zone.** -/
theorem takeClock_text {clock : List Text} (hlength : clock.length ≤ 3)
    (hdigits : ∀ part ∈ clock, ∀ c ∈ part, isDecimal c = true) {c : Char} (hc : isDecimal c = false)
    (hhour : c ≠ 'T') (hcolon : c ≠ ':') (rest : Text) :
    IsoDate.takeClock (clockText clock ++ c :: rest) =
      (clock.getD 0 [], clock.getD 1 [], clock.getD 2 [], c :: rest) := by
  cases clock with
  | nil =>
    show IsoDate.takeClock (c :: rest) = _
    unfold IsoDate.takeClock
    split
    · rename_i heq
      exact absurd (List.cons.inj heq).1 hhour
    · rfl
  | cons hour parts =>
    obtain ⟨hdigits, hparts⟩ := List.forall_mem_cons.1 hdigits
    have hminute := takeColon_parts hparts hc hcolon rest
    have hsecond := takeColon_parts (fun part hmem => hparts part (List.mem_of_mem_tail hmem)) hc hcolon rest
    have hnone : parts.tail.tail = [] := by
      apply List.eq_nil_of_length_eq_zero
      rw [List.length_cons] at hlength
      rw [List.length_tail, List.length_tail]
      omega
    rw [hnone] at hsecond
    unfold clockText IsoDate.takeClock
    simp only [List.cons_append, List.append_assoc, IsoDate.takeDigits_append hdigits
      (head?_parts parts hc rest), hminute, hsecond]
    cases parts <;> rfl

theorem exists_of_isTwoDigits {text : Text} (h : IsTwoDigits text) :
    ∃ a b, text = [a, b] ∧ isDecimal a = true ∧ isDecimal b = true := by
  obtain ⟨hlength, hdigits⟩ := h
  obtain ⟨a, b, rfl⟩ := List.length_eq_two.1 hlength
  exact ⟨a, b, rfl, hdigits a (.head _), hdigits b (.tail _ (.head _))⟩

theorem takeShift?_text {hours minutes : Text} (hhours : IsTwoDigits hours) (hminutes : IsTwoDigits minutes)
    (colon : Bool) :
    IsoDate.takeShift? (hours ++ (if colon then ':' :: minutes else minutes)) = some (hours, minutes) := by
  obtain ⟨a, b, rfl, ha, hb⟩ := exists_of_isTwoDigits hhours
  obtain ⟨c, d, rfl, hc, hd⟩ := exists_of_isTwoDigits hminutes
  cases colon with
  | true => simp [IsoDate.takeShift?, ha, hb, hc, hd]
  | false => simp [IsoDate.takeShift?, ha, hb, hc, hd]

theorem takeZone?_text {zone : IsoZone} (h : zone.IsWritten) (colon : Bool) :
    IsoDate.takeZone? (zoneText colon zone) = some zone := by
  cases zone with
  | utc => rfl
  | shifted negative hours minutes =>
    cases negative <;> simp [zoneText, IsoDate.takeZone?, takeShift?_text h.1 h.2 colon]

/-- What follows the day is no digit. -/
theorem head?_behind_day : ∀ c ∈ (clockText a.clock ++ zoneText a.colon a.zone).head?,
    isDecimal c = false := by
  obtain ⟨c, rest, hzone, hc, -⟩ := exists_zoneText a.colon a.zone
  rw [hzone]
  cases a.clock with
  | nil =>
    rintro d ⟨⟩
    exact hc
  | cons hour rest =>
    rintro d ⟨⟩
    decide

/-- **The date in the text has the digits that were written.** -/
theorem find?_text : IsoDate.find? a.text = some a.isoDate := by
  have hyear := a.numerals a.year (.head _)
  have hmonth := a.numerals a.month (.tail _ (.head _))
  have hday := a.numerals a.day (.tail _ (.tail _ (.head _)))
  obtain ⟨c, rest, hzone, hc, hhour, hcolon⟩ := exists_zoneText a.colon a.zone
  have hclock := takeClock_text a.parts.1 (fun part hpart => (a.parts.2 part hpart).2) hc hhour hcolon rest
  have hzone' := takeZone?_text a.written a.colon
  have hbehind := a.head?_behind_day
  rw [hzone] at hzone' hbehind
  apply IsoDate.find?_of_take?
  unfold text IsoDate.take?
  simp only [hzone, IsoDate.takeHyphened?_append hyear.1 hyear.2, Option.bind_eq_bind, Option.bind_some,
    IsoDate.takeHyphened?_append hmonth.1 hmonth.2, IsoDate.takeDigits_append hday.2 hbehind,
    List.isEmpty_eq_false_iff.2 hday.1, hclock, hzone']
  rfl

/-! ## Reading -/

/-- The date and time that is written. -/
def dateTime : DateTime :=
  ⟨a.date, numeralValue (a.clock.getD 0 []), numeralValue (a.clock.getD 1 []),
    numeralValue (a.clock.getD 2 []), 0, some a.offset⟩

theorem isProper_dateTime : a.dateTime.IsProper := by
  have hcalendar := a.calendar
  have hyear : 1 ≤ a.dateTime.date.year ∧ a.dateTime.date.year ≤ lastYear := by
    show 1 ≤ (numeralValue a.year : Int) ∧ (numeralValue a.year : Int) ≤ lastYear
    omega
  exact ⟨a.valid, hyear, a.hour, a.minute, a.second⟩

/-- Only the numerals of the date may be too long. -/
theorem isReadable_iff : a.isoDate.isReadable = true ↔ a.IsShort := by
  have hclock : ∀ i, (a.clock.getD i []).length ≤ Numeral.longest := by
    intro i
    rw [List.getD_eq_getElem?_getD]
    cases hpart : a.clock[i]? with
    | none => exact Nat.zero_le _
    | some part =>
      have htwo := (a.parts.2 part (List.mem_of_getElem? hpart)).1
      show part.length ≤ Numeral.longest
      rw [htwo]
      decide
  unfold IsoDate.isReadable IsoDate.parts isoDate IsShort
  simp only [List.all_cons, List.all_nil, Bool.and_true, Bool.and_eq_true, decide_eq_true_eq,
    List.forall_mem_cons, hclock]
  simp [a.near]

theorem denotes_dateTime (h : a.IsShort) : a.isoDate.Denotes a.dateTime :=
  ⟨a.isReadable_iff.2 h, rfl, a.isProper_dateTime⟩

variable {a} {days : Date → Int} (hdays : Date.IsDayCount days)

include hdays

theorem instant_eq : a.instant days = a.dateTime.clockSeconds - a.offset := by
  have hdate : days a.date = a.date.dayNumber := hdays.eq_dayNumber a.valid
  unfold instant
  rw [hdate]
  unfold DateTime.clockSeconds DateTime.secondOfDay
  show _ = 86400 * a.date.dayNumber + ((3600 * numeralValue (a.clock.getD 0 []) +
    60 * numeralValue (a.clock.getD 1 []) + numeralValue (a.clock.getD 2 []) : Nat) : Int) - a.offset
  omega

/-- The instants of the calendar are doubles. -/
theorem natAbs_instant_lt : (a.instant days).natAbs < Nat.pow 2 53 := by
  have hholds := a.isProper_dateTime.holds
  have hnear : a.offset.natAbs < daySeconds := a.near
  have hbound : Nat.pow 2 53 = 9007199254740992 := rfl
  rw [instant_eq hdays]
  unfold Calendar.Holds at hholds
  rw [Calendar.firstSecond_eq, Calendar.endSecond_eq] at hholds
  unfold daySeconds at hnear
  omega

/-- **A date with a zone denotes the instant that civil calendar arithmetic gives,** in every local time zone. It is
not read if one of its numerals is too long. -/
theorem parse_eq (zone : Zone) :
    parseIsoDate zone a.text =
      .ok (if a.IsShort then some (.finite (a.instant days * Binary64.one)) else none) := by
  by_cases hshort : a.IsShort
  · have hdouble : Binary64.ofRatio (DateTime.microseconds * (a.dateTime.clockSeconds - a.offset) +
        ((0 : Nat) : Int)) DateTime.microseconds = .finite (a.instant days * Binary64.one) := by
      rw [Int.natCast_zero, Int.add_zero, Binary64.ofRatio_mul_left (by decide), ← instant_eq hdays,
        Binary64.ofInt_eq (natAbs_instant_lt hdays)]
    have htimestamp := DateTime.timestamp_of_offset (rfl : a.dateTime.offset = some a.offset) zone
    unfold parseIsoDate
    rw [find?_text, if_pos hshort]
    show a.isoDate.timestamp zone = _
    rw [IsoDate.timestamp_of_denotes (a.denotes_dateTime hshort), htimestamp, ← hdouble]
    rfl
  · rw [if_neg hshort, parseIsoDate_none_iff]
    intro date hdate
    obtain rfl := Option.some.inj (a.find?_text.symm.trans hdate)
    exact .inl (Bool.eq_false_iff.2 (mt a.isReadable_iff.1 hshort))

end ZonedDate

/-- **Dates with a zone denote exact instants.** Those whose numerals are not too long have equal timestamps exactly
if they denote the same instant, and the later instant has the larger timestamp. -/
theorem parseIsoDate_zoned {days : Date → Int} (hdays : Date.IsDayCount days) (zone zone' : Zone)
    (a b : ZonedDate) :
    parseIsoDate zone a.text =
        .ok (if a.IsShort then some (.finite (a.instant days * Binary64.one)) else none) ∧
      (a.IsShort → b.IsShort →
        (a.instant days = b.instant days ↔ parseIsoDate zone a.text = parseIsoDate zone' b.text) ∧
        (a.instant days < b.instant days ↔ ∃ x y, parseIsoDate zone a.text = .ok (some (.finite x)) ∧
          parseIsoDate zone' b.text = .ok (some (.finite y)) ∧ x < y)) := by
  have ha := @ZonedDate.parse_eq a days hdays zone
  have hb := @ZonedDate.parse_eq b days hdays zone'
  refine ⟨ha, fun hshort hshort' => ?_⟩
  have hone : (0 : Int) < Binary64.one := by
    have hpos := Binary64.one_pos
    omega
  rw [ha, hb, if_pos hshort, if_pos hshort']
  constructor
  · constructor
    · intro h
      rw [h]
    · intro h
      have hunits := Binary64.finite.inj (Option.some.inj (Except.ok.inj h))
      exact Int.eq_of_mul_eq_mul_right (Int.ne_of_gt hone) hunits
  · constructor
    · intro h
      exact ⟨_, _, rfl, rfl, Int.mul_lt_mul_of_pos_right h hone⟩
    · rintro ⟨x, y, hx, hy, hless⟩
      obtain rfl := Binary64.finite.inj (Option.some.inj (Except.ok.inj hx))
      obtain rfl := Binary64.finite.inj (Option.some.inj (Except.ok.inj hy))
      exact Int.lt_of_mul_lt_mul_right hless (Int.le_of_lt hone)

namespace ZonedDate

/-- Half past twelve, one and a half hours west of UTC. -/
def halfPastTwelve : ZonedDate where
  year := "2020".toList
  month := "6".toList
  day := "015".toList
  clock := ["12".toList, "30".toList]
  zone := .shifted true "01".toList "30".toList
  colon := false
  numerals := by decide
  valid := by decide
  calendar := by decide
  parts := by decide
  hour := by decide
  minute := by decide
  second := by decide
  written := ⟨by decide, by decide⟩
  near := by decide

/-- Two o'clock in UTC. -/
def twoOClock : ZonedDate where
  year := "2020".toList
  month := "06".toList
  day := "15".toList
  clock := ["14".toList]
  zone := .utc
  colon := true
  numerals := by decide
  valid := by decide
  calendar := by decide
  parts := by decide
  hour := by decide
  minute := by decide
  second := by decide
  written := trivial
  near := by decide

end ZonedDate

/-- The two are the same instant, whatever the local time zones are. -/
theorem parseIsoDate_zoned_half_past_twelve :
    ZonedDate.halfPastTwelve.text = "2020-6-015T12:30-0130".toList ∧
      ZonedDate.twoOClock.text = "2020-06-15T14Z".toList ∧
      parseIsoDate Zone.est ZonedDate.halfPastTwelve.text =
        parseIsoDate Zone.cet ZonedDate.twoOClock.text :=
  ⟨rfl, rfl, ((parseIsoDate_zoned Date.isDayCount_dayNumber Zone.est Zone.cet
    ZonedDate.halfPastTwelve ZonedDate.twoOClock).2 (by decide) (by decide)).1.1 (by decide)⟩

namespace ZonedDate

/-- A date whose month has many zeros in front of it. -/
def longMonth : ZonedDate where
  year := "2020".toList
  month := Numeral.padded 4301 6
  day := "15".toList
  clock := []
  zone := .utc
  colon := true
  numerals := by
    have hmonth : IsNumeral (Numeral.padded 4301 6) :=
      ⟨IsoDate.padded_ne_nil 4301 6, IsoDate.isDecimal_padded 4301 6⟩
    rw [List.forall_mem_cons, List.forall_mem_cons]
    exact ⟨by decide, hmonth, by decide⟩
  valid := by
    rw [Numeral.numeralValue_padded]
    decide
  calendar := by decide
  parts := by decide
  hour := by decide
  minute := by decide
  second := by decide
  written := trivial
  near := by decide

end ZonedDate

/-- A numeral with too many zeros in front of it is not read. -/
theorem parseIsoDate_longMonth :
    ZonedDate.longMonth.text = "2020-".toList ++ (List.replicate 4300 '0' ++ "6-15Z".toList) ∧
      parseIsoDate Zone.utc ZonedDate.longMonth.text = .ok none := by
  have hmonth : Numeral.padded 4301 6 = List.replicate 4300 '0' ++ ['6'] := rfl
  constructor
  · unfold ZonedDate.text
    rw [show ZonedDate.longMonth.month = Numeral.padded 4301 6 from rfl, hmonth, List.append_assoc]
    rfl
  · have hlong : ¬ ZonedDate.longMonth.IsShort := by
      intro hshort
      have hlength := hshort (Numeral.padded 4301 6) (.tail _ (.head _))
      rw [hmonth, List.length_append, List.length_replicate] at hlength
      exact absurd hlength (by decide)
    rw [ZonedDate.parse_eq Date.isDayCount_dayNumber, if_neg hlong]

end PhotoPublish
