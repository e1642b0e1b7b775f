import PhotoPublish.Calendar.Display
import PhotoPublish.Proofs.Calendar.LocalTime
import PhotoPublish.Proofs.Calendar.Separators
import PhotoPublish.Proofs.Number.Numeral
import PhotoPublish.Proofs.Text.Run

/-!
# Texts of local times

A local time in whole seconds is written with a `T` between date and time of day in ISO dates, and with a blank
in messages.

* `IsoDate.find?_text`: the ISO date in such a text has the digits that were written.
* `parseIsoDate_text`: it denotes the instant of the local time itself.
* `DateFormat.format_messageFormat`: the format of messages writes the local time that the clocks show.
-/

set_option autoImplicit false

namespace PhotoPublish

/-! ## Finding -/

namespace IsoDate

/-- Digits up to a character that is none. -/
theorem takeDigits_append {digits rest : Text} (hdigits : ∀ c ∈ digits, isDecimal c = true)
    (hrest : ∀ c ∈ rest.head?, isDecimal c = false) : takeDigits (digits ++ rest) = (digits, rest) := by
  unfold takeDigits
  rw [Text.takeWhile_append hdigits hrest, Text.dropWhile_append hdigits hrest]

theorem isDecimal_padded (width n : Nat) : ∀ c ∈ Numeral.padded width n, isDecimal c = true :=
  fun _ hc => isDecimal_of_isDigit (Numeral.isDigit_of_mem_padded hc)

theorem padded_ne_nil (width n : Nat) : Numeral.padded width n ≠ [] :=
  Numeral.padLeft_ne_nil Nat.toDigits_ne_nil

theorem takeHyphened?_append {digits : Text} (hne : digits ≠ [])
    (hdigits : ∀ c ∈ digits, isDecimal c = true) (rest : Text) :
    takeHyphened? (digits ++ '-' :: rest) = some (digits, rest) := by
  obtain ⟨c, more, rfl⟩ := List.exists_cons_of_ne_nil hne
  unfold takeHyphened?
  rw [takeDigits_append hdigits (by rintro _ ⟨⟩; decide)]
  rfl

theorem takeColon_append {digits rest : Text} (hdigits : ∀ c ∈ digits, isDecimal c = true)
    (hrest : ∀ c ∈ rest.head?, isDecimal c = false) : takeColon (':' :: (digits ++ rest)) = (digits, rest) :=
  takeDigits_append hdigits hrest

/-- A date at the start of a text is the first one in it. -/
theorem find?_of_take? {text : Text} {date : IsoDate} (h : take? text = some date) :
    find? text = some date := by
  cases text with
  | nil => cases h
  | cons c rest => rw [find?, h]

/-- The digits that are written for a local time. -/
def ofLocal (time : DateTime) : IsoDate where
  year := Numeral.padded 4 time.date.year.toNat
  month := Numeral.padded 2 time.date.month
  day := Numeral.padded 2 time.date.day
  hour := Numeral.padded 2 time.hour
  minute := Numeral.padded 2 time.minute
  second := Numeral.padded 2 time.second

theorem text_of_isLocal {time : DateTime} (h : time.IsLocal) (separator : Char) :
    time.text separator = Numeral.padded 4 time.date.year.toNat ++ '-' ::
      (Numeral.padded 2 time.date.month ++ '-' :: (Numeral.padded 2 time.date.day ++ separator ::
        (Numeral.padded 2 time.hour ++ ':' :: (Numeral.padded 2 time.minute ++ ':' ::
          (Numeral.padded 2 time.second ++ []))))) := by
  unfold DateTime.text Date.text
  rw [h.microsecond, h.offset, if_pos rfl]
  simp only [List.append_assoc, List.cons_append, List.append_nil]

/-- **The date in the text of a local time has the digits that were written.** -/
theorem find?_text {time : DateTime} (h : time.IsLocal) :
    find? (time.text 'T') = some (ofLocal time) := by
  have hcolon : ∀ text : Text, ∀ c ∈ (':' :: text).head?, isDecimal c = false := by
    rintro text c ⟨⟩
    decide
  have htime : ∀ text : Text, ∀ c ∈ ('T' :: text).head?, isDecimal c = false := by
    rintro text c ⟨⟩
    decide
  have hday : (Numeral.padded 2 time.date.day).isEmpty = false :=
    List.isEmpty_eq_false_iff.2 (padded_ne_nil 2 time.date.day)
  have htake : take? (time.text 'T') = some (ofLocal time) := by
    rw [text_of_isLocal h]
    unfold take?
    simp only [takeHyphened?_append (padded_ne_nil _ _) (isDecimal_padded _ _), Option.bind_eq_bind,
      Option.bind_some, takeDigits_append (isDecimal_padded 2 time.date.day) (htime _), hday, takeClock,
      takeDigits_append (isDecimal_padded 2 time.hour) (hcolon _),
      takeColon_append (isDecimal_padded 2 time.minute) (hcolon _),
      takeColon_append (isDecimal_padded 2 time.second) (nofun : ∀ c ∈ ([] : Text).head?, isDecimal c = false)]
    rfl
  exact find?_of_take? htake

/-! ## Reading -/

/-- The numbers of a local time are read again. -/
theorem dateTime_ofLocal {time : DateTime} (h : time.IsLocal)
    (hyear : 1 ≤ time.date.year ∧ time.date.year ≤ lastYear) :
    (ofLocal time).dateTime = .ok time := by
  obtain ⟨⟨hmonth, hmonth', hday, hday'⟩, hhour, hminute, hsecond, hmicrosecond, hoffset⟩ := h
  obtain ⟨hyear, hyear'⟩ := hyear
  have hback : ((time.date.year.toNat : Nat) : Int) = time.date.year := Int.toNat_of_nonneg (by omega)
  have hdate : Date.ofParts time.date.year.toNat time.date.month time.date.day = .ok time.date := by
    unfold Date.ofParts
    rw [if_neg (by omega), if_neg (by omega), hback, if_neg (by omega)]
  unfold dateTime ofLocal
  simp only [Numeral.numeralValue_padded]
  unfold DateTime.ofParts
  rw [hdate]
  simp only [bind, Except.bind]
  rw [if_neg (by omega), if_neg (by omega), if_neg (by omega), ← hmicrosecond]
  show Except.ok { time with offset := none } = _
  rw [← hoffset]

theorem daysInMonth_le (year : Int) (month : Nat) : Calendar.daysInMonth year month ≤ 31 := by
  unfold Calendar.daysInMonth
  split
  · split <;> decide
  all_goals decide

/-- A part that is written with four digits at most is a number of at most four digits. -/
theorem padded_short {width n : Nat} (hwidth : 0 < width ∧ width ≤ 4) (h : n < Nat.pow 10 width) :
    (Numeral.padded width n).length ≤ 4 ∧ numeralValue (Numeral.padded width n) ≤ lastYear := by
  have hpow : Nat.pow 10 width ≤ Nat.pow 10 4 := Nat.pow_le_pow_right (by decide) hwidth.2
  have hlast : Nat.pow 10 4 = lastYear + 1 := rfl
  rw [Numeral.length_padded hwidth.1 h, Numeral.numeralValue_padded]
  omega

theorem parts_ofLocal {time : DateTime} (h : time.IsLocal) (hyear : time.date.year ≤ lastYear) :
    ∀ part ∈ (ofLocal time).parts, part.length ≤ 4 ∧ numeralValue part ≤ lastYear := by
  obtain ⟨⟨-, hmonth, -, hday⟩, hhour, hminute, hsecond, -, -⟩ := h
  have hdays := daysInMonth_le time.date.year time.date.month
  unfold lastYear at hyear
  have htwo : ∀ n, n < 100 → (Numeral.padded 2 n).length ≤ 4 ∧
      numeralValue (Numeral.padded 2 n) ≤ lastYear := fun n hn => padded_short (by decide) hn
  have hfour : ∀ n, n < 10000 → (Numeral.padded 4 n).length ≤ 4 ∧
      numeralValue (Numeral.padded 4 n) ≤ lastYear := fun n hn => padded_short (by decide) hn
  unfold parts ofLocal
  simp only [List.forall_mem_cons]
  exact ⟨hfour _ (by omega), htwo _ (by omega), htwo _ (by omega),
    htwo _ (by omega), htwo _ (by omega), htwo _ (by omega), nofun⟩

theorem checkPart_ok_iff {n : Nat} : checkPart n = .ok () ↔ n ≤ greatestPart := by
  unfold checkPart greatestRegister greatestPart
  split
  · exact iff_of_false nofun (by omega)
  · split
    · exact iff_of_false nofun (by omega)
    · exact iff_of_true rfl (by omega)

theorem forM_ok_iff {α ε : Type} {check : α → Except ε Unit} {xs : List α} :
    xs.forM check = .ok () ↔ ∀ x ∈ xs, check x = .ok () := by
  induction xs with
  | nil => exact iff_of_true rfl nofun
  | cons x rest ih =>
    show (check x >>= fun _ => rest.forM check) = _ ↔ _
    rw [List.forall_mem_cons, ← ih]
    cases check x with
    | error failure => exact iff_of_false nofun fun h => nomatch h.1
    | ok done => exact (and_iff_right rfl).symm

end IsoDate

/-- **The text of a local time denotes the same instant as the time itself.** -/
theorem parseIsoDate_text {time : DateTime} (h : time.IsLocal)
    (hyear : 1 ≤ time.date.year ∧ time.date.year ≤ lastYear) (zone : Zone) :
    parseIsoDate zone (time.text 'T') = toTimestamp zone (.moment time) := by
  have hparts := IsoDate.parts_ofLocal h hyear.2
  have hreadable : (IsoDate.ofLocal time).isReadable = true := by
    unfold IsoDate.isReadable
    refine Bool.and_eq_true_iff.2 ⟨List.all_eq_true.2 fun part hpart => ?_, rfl⟩
    exact decide_eq_true (Nat.le_trans (hparts part hpart).1 (by decide))
  have hcheck : ((IsoDate.ofLocal time).parts.forM fun part =>
      IsoDate.checkPart (numeralValue part)) = .ok () :=
    IsoDate.forM_ok_iff.2 fun part hpart => IsoDate.checkPart_ok_iff.2 (Nat.le_trans (hparts part hpart).2 (by decide))
  unfold parseIsoDate
  rw [IsoDate.find?_text h]
  unfold IsoDate.timestamp toTimestamp
  simp only [hreadable, Bool.not_true, hcheck, IsoDate.dateTime_ofLocal h hyear]
  cases time.timestamp zone <;> rfl

/-! ## Writing -/

namespace DateFormat

/-- A conversion without flags writes a number with its least digits. -/
theorem number_bare (room : Nat) (c : Char) (digits n : Nat) :
    (Directive.bare c).number room digits n = Numeral.padded digits n := by
  have hleast : max digits ((Directive.bare c).leastWidth room) = digits := by
    show max digits (min room 0) = digits
    omega
  unfold Directive.number
  rw [hleast]
  exact if_neg (by omega)

theorem length_text_lt {time : DateTime} (h : time.IsLocal) (hyear : time.date.year ≤ lastYear)
    (separator : Char) : (time.text separator).length < 1024 := by
  have hparts := IsoDate.parts_ofLocal h hyear
  unfold IsoDate.parts IsoDate.ofLocal at hparts
  simp only [List.forall_mem_cons] at hparts
  obtain ⟨⟨hyear, -⟩, ⟨hmonth, -⟩, ⟨hday, -⟩, ⟨hhour, -⟩, ⟨hminute, -⟩, ⟨hsecond, -⟩, -⟩ := hparts
  rw [IsoDate.text_of_isLocal h]
  simp only [List.length_append, List.length_cons, List.length_nil]
  omega

/-- **The format of messages writes the local time that the clocks show.** -/
theorem format_messageFormat {shown : LocalTime} (h : shown.time.IsLocal)
    (hyear : 1000 ≤ shown.time.date.year ∧ shown.time.date.year ≤ lastYear) (instant : Int) :
    format Timestamp.messageFormat instant shown = shown.time.text ' ' := by
  obtain ⟨hfirst, hlast⟩ := hyear
  have hyear : ((shown.time.date.year.toNat : Nat) : Int) = shown.time.date.year :=
    Int.toNat_of_nonneg (by omega)
  have hfour : ∀ room, (Directive.bare 'Y').number room 1 shown.time.date.year =
      Numeral.padded 4 shown.time.date.year.toNat := by
    intro room
    have hthousand : 1000 ≤ shown.time.date.year.toNat := by omega
    have hlength := @Numeral.lt_length_ofNat 3 shown.time.date.year.toNat (by decide) hthousand
    rw [← hyear, number_bare, Int.toNat_natCast, Numeral.padded_eq_ofNat (by omega),
      Numeral.padded_eq_ofNat hlength]
  have hpieces : pieces Timestamp.messageFormat = [.directive (.bare 'Y'), .char '-',
      .directive (.bare 'm'), .char '-', .directive (.bare 'd'), .char ' ', .directive (.bare 'H'),
      .char ':', .directive (.bare 'M'), .char ':', .directive (.bare 'S')] := by decide
  have htext : (pieces Timestamp.messageFormat).flatMap
      (Piece.write (room Timestamp.messageFormat) instant shown) = shown.time.text ' ' := by
    rw [hpieces, IsoDate.text_of_isLocal h]
    simp only [List.flatMap_cons, List.flatMap_nil]
    rw [← hfour (room Timestamp.messageFormat),
      ← number_bare (room Timestamp.messageFormat) 'm', ← number_bare (room Timestamp.messageFormat) 'd',
      ← number_bare (room Timestamp.messageFormat) 'H', ← number_bare (room Timestamp.messageFormat) 'M',
      ← number_bare (room Timestamp.messageFormat) 'S']
    rfl
  have hroom : 1024 ≤ room Timestamp.messageFormat := by decide
  rw [format_eq, htext]
  exact if_pos (Nat.lt_of_lt_of_le (length_text_lt h hlast ' ') hroom)

end DateFormat

end PhotoPublish
