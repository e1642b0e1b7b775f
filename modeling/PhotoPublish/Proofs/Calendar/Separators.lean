import PhotoPublish.Proofs.Calendar.Display
import PhotoPublish.Proofs.Number.Numeral
import PhotoPublish.Proofs.Path.Separators
import PhotoPublish.Proofs.Photo.Basic

/-!
# Separators in dates

A format without separators may still write slashes: those of a numeric date, which one directive stands
for. `DateFormat.format_spec`: there are no others.
-/

set_option autoImplicit false

namespace PhotoPublish

/-! ## Letters and digits -/

theorem isSeparator_ascii : ∀ n < 128,
    isSeparator (Char.ofNat n).toUpper = isSeparator (Char.ofNat n) ∧
      isSeparator (Char.ofNat n).toLower = isSeparator (Char.ofNat n) := by
  decide

theorem isSeparator_toUpper (c : Char) : isSeparator c.toUpper = isSeparator c := by
  by_cases hc : c.toNat < 128
  · rw [← Char.ofNat_toNat c]
    exact (isSeparator_ascii c.toNat hc).1
  · exact congrArg isSeparator (dif_neg fun hletter => hc (Nat.lt_of_le_of_lt hletter.2 (by decide)))

theorem isSeparator_toLower (c : Char) : isSeparator c.toLower = isSeparator c := by
  by_cases hc : c.toNat < 128
  · rw [← Char.ofNat_toNat c]
    exact (isSeparator_ascii c.toNat hc).2
  · exact congrArg isSeparator (dif_neg fun hletter => hc (Nat.lt_of_le_of_lt hletter.2 (by decide)))

namespace Numeral

theorem plain_ofNat (n : Nat) : Plain (ofNat n) := by
  intro c hmem
  have hdigit := isDigit_of_mem_ofNat hmem
  rw [isSeparator, Bool.or_eq_false_iff, beq_eq_false_iff_ne, beq_eq_false_iff_ne]
  constructor <;> rintro rfl <;> cases hdigit

@[simp] theorem plain_ofInt (n : Int) : Plain (ofInt n) := by
  cases n with
  | ofNat n => exact plain_ofNat n
  | negSucc n => exact plain_cons.2 ⟨rfl, plain_ofNat (n + 1)⟩

theorem ofInt_ne_nil (n : Int) : ofInt n ≠ [] := by
  cases n with
  | ofNat n => exact Nat.toDigits_ne_nil
  | negSucc n => exact List.cons_ne_nil _ _

theorem plain_padLeft {fill : Char} {width : Nat} {text : Text} (hfill : isSeparator fill = false) :
    Plain (padLeft fill width text) ↔ Plain text := by
  rw [padLeft, plain_append]
  refine and_iff_right fun c hmem => ?_
  rw [List.eq_of_mem_replicate hmem]
  exact hfill

theorem padLeft_ne_nil {fill : Char} {width : Nat} {text : Text} (h : text ≠ []) :
    padLeft fill width text ≠ [] :=
  List.append_ne_nil_of_right_ne_nil _ h

end Numeral

namespace DateFormat

variable {d : Directive} {text shape : Text} {instant : Int} {time : LocalTime} {room : Nat}

@[simp] theorem plain_upperText : Plain (upperText text) ↔ Plain text := by
  simp only [Plain, upperText, List.forall_mem_map, isSeparator_toUpper]

@[simp] theorem plain_lowerText : Plain (lowerText text) ↔ Plain text := by
  simp only [Plain, lowerText, List.forall_mem_map, isSeparator_toLower]

/-! ## Cutting a format -/

theorem source_readDirective_subset (rest : Text) : (readDirective rest).source ⊆ '%' :: rest := by
  have hflags : rest.takeWhile isFlag ⊆ rest := (List.takeWhile_prefix _).subset
  have hafter : rest.dropWhile isFlag ⊆ rest := (List.dropWhile_suffix _).subset
  have hdigits : (rest.dropWhile isFlag).takeWhile Char.isDigit ⊆ rest :=
    List.Subset.trans (List.takeWhile_prefix _).subset hafter
  have hbehind : (rest.dropWhile isFlag).dropWhile Char.isDigit ⊆ rest :=
    List.Subset.trans (List.dropWhile_suffix _).subset hafter
  have hhead : ∀ text : Text, text.head?.toList ⊆ text := by
    intro text c hmem
    exact List.mem_of_head? (Option.mem_toList.1 hmem)
  have hskip : ∀ n, ((rest.dropWhile isFlag).dropWhile Char.isDigit).drop n ⊆ rest := fun n =>
    List.Subset.trans (List.drop_subset n _) hbehind
  unfold readDirective
  dsimp only
  refine List.append_subset.2 ⟨List.append_subset.2 ⟨List.append_subset.2 ⟨?_, ?_⟩, ?_⟩, ?_⟩
  · exact List.cons_subset_cons _ hflags
  · exact List.subset_cons_of_subset _ hdigits
  · refine List.subset_cons_of_subset _ (List.Subset.trans ?_ hbehind)
    split <;> simp_all
  · exact List.subset_cons_of_subset _ (List.Subset.trans (hhead _) (hskip _))

/-- The text of a piece in its format. -/
def Piece.source : Piece → Text
  | char c => [c]
  | directive d => d.source

theorem source_subset_of_mem_piecesFrom (skip : Nat) (shape : Text) :
    ∀ piece ∈ piecesFrom skip shape, piece.source ⊆ shape := by
  fun_induction piecesFrom skip shape with
  | case1 => exact fun _ hmem => absurd hmem List.not_mem_nil
  | case2 skip c rest ih => exact fun piece hmem => List.subset_cons_of_subset c (ih piece hmem)
  | case3 rest d ih =>
    refine List.forall_mem_cons.2 ⟨source_readDirective_subset rest, fun piece hmem => ?_⟩
    exact List.subset_cons_of_subset '%' (ih piece hmem)
  | case4 c rest hc ih =>
    refine List.forall_mem_cons.2 ⟨List.cons_subset_cons c (List.nil_subset rest), fun piece hmem => ?_⟩
    exact List.subset_cons_of_subset c (ih piece hmem)

theorem plain_source {piece : Piece} (hshape : Plain shape) (hmem : piece ∈ pieces shape) :
    Plain piece.source :=
  hshape.of_subset (source_subset_of_mem_piecesFrom 0 shape piece hmem)

/-! ## Writing directives -/

namespace Directive

@[simp] theorem plain_fill : Plain (d.fill room text) ↔ Plain text :=
  Numeral.plain_padLeft (by split <;> rfl)

@[simp] theorem plain_inCase : Plain (d.inCase text) ↔ Plain text := by
  unfold inCase
  split <;> simp

@[simp] theorem plain_name : Plain (d.name room text) ↔ Plain text := by
  unfold name
  split <;> simp

@[simp] theorem plain_capitals : Plain (d.capitals room text) ↔ Plain text := by
  unfold capitals
  split <;> simp

@[simp] theorem plain_number (digits : Nat) (n : Int) : Plain (d.number room digits n) := by
  have hplain := Numeral.plain_ofInt n
  unfold number
  dsimp only
  split
  · exact plain_fill.2 hplain
  · exact (Numeral.plain_padLeft rfl).2 hplain
  · split
    · exact plain_cons.2 ⟨rfl, (Numeral.plain_padLeft rfl).2 (Numeral.plain_ofNat n.natAbs)⟩
    · exact (Numeral.plain_padLeft rfl).2 hplain

theorem number_ne_nil (digits : Nat) (n : Int) : d.number room digits n ≠ [] := by
  unfold number
  dsimp only
  split
  · exact Numeral.padLeft_ne_nil (Numeral.ofInt_ne_nil n)
  · exact Numeral.padLeft_ne_nil (Numeral.ofInt_ne_nil n)
  · split
    · exact List.cons_ne_nil _ _
    · exact Numeral.padLeft_ne_nil (Numeral.ofInt_ne_nil n)

@[simp] theorem plain_spaced (digits : Nat) (n : Int) : Plain (d.spaced room digits n) :=
  plain_number digits n

@[simp] theorem plain_offset : Plain (d.offset room time) := by
  unfold offset
  split <;> simp [isSeparator]

theorem plain_asText (hsource : Plain d.source) : Plain (d.asText room) := by
  unfold asText
  dsimp only
  split <;> split <;> simp [hsource, isSeparator]

theorem plain_of_names {names : List String} (h : ∀ name ∈ names, Plain name.toList) (i : Nat) :
    Plain (names.getD i "?").toList := by
  rw [List.getD_eq_getElem?_getD]
  cases hname : names[i]? with
  | none => decide
  | some name => exact h name (List.mem_of_getElem? hname)

@[simp] theorem plain_weekdayName : Plain (weekdayName time) :=
  plain_of_names (by decide) _

@[simp] theorem plain_monthName : Plain (monthName time) :=
  plain_of_names (by decide) _

@[simp] theorem plain_halfDay : Plain (halfDay time) := by
  unfold halfDay
  split <;> decide

/-- A directive for one part of a time writes no separators. -/
theorem plain_writePart (hsource : Plain d.source) (hname : Plain time.name) :
    Plain (d.writePart room instant time) := by
  have htext : Plain (d.asText room) := plain_asText hsource
  unfold writePart
  dsimp only
  split
  · exact htext
  · split <;> simp [htext, hname, isSeparator, Plain.take]

/-- A directive for a numeric date: month, day and year with slashes between them. -/
def IsNumericDate (d : Directive) : Prop :=
  (d.conversion = some 'D' ∨ d.conversion = some 'x') ∧ d.fitsModifier = true

/-- The format of a numeric date is the only one with separators that a conversion stands for. -/
theorem expansion?_cases {c : Char} {inner : String} (h : expansion? c = some inner) :
    ((c = 'D' ∨ c = 'x') ∧ inner = "%m/%d/%y") ∨ (¬ (c = 'D' ∨ c = 'x') ∧ Plain inner.toList) := by
  unfold expansion? at h
  split at h <;> cases h <;> decide

/-- Writes the format that a conversion stands for. -/
def writeParts (room : Nat) (instant : Int) (time : LocalTime) (inner : Text) : Text :=
  (pieces inner).flatMap fun
    | .char c => [c]
    | .directive part => part.writePart room instant time

theorem plain_writeParts {inner : Text} (hinner : Plain inner) (hname : Plain time.name) :
    Plain (writeParts room instant time inner) := by
  intro c hmem
  obtain ⟨piece, hpiece, hc⟩ := List.mem_flatMap.1 hmem
  have hsource := plain_source hinner hpiece
  cases piece with
  | char c' => exact hsource c hc
  | directive part => exact plain_writePart hsource hname c hc

/-- A directive that is a conversion only. -/
def bare (c : Char) : Directive :=
  { pad := none, upper := false, changeCase := false, width := none, modifier := none,
    conversion := some c, source := ['%', c] }

theorem writeParts_numericDate : writeParts room instant time "%m/%d/%y".toList =
    (bare 'm').number room 2 time.time.date.month ++ '/' ::
      ((bare 'd').number room 2 time.time.date.day ++ '/' ::
        (bare 'y').number room 2 (time.time.date.year % 100).toNat) := by
  have hpieces : pieces "%m/%d/%y".toList = [.directive (bare 'm'), .char '/',
      .directive (bare 'd'), .char '/', .directive (bare 'y')] := by decide
  rw [writeParts, hpieces]
  simp only [List.flatMap_cons, List.flatMap_nil, List.append_nil, List.singleton_append]
  rfl

theorem write_eq : d.write room instant time =
    match d.conversion.bind expansion? with
    | some inner =>
      if d.fitsModifier then d.fill room (d.inCase (writeParts room instant time inner.toList))
      else d.asText room
    | none => d.writePart room instant time := rfl

theorem inCase_append_slash (x y : Text) :
    d.inCase (x ++ '/' :: y) = d.inCase x ++ '/' :: d.inCase y := by
  unfold inCase
  split
  · exact List.map_append
  · rfl

theorem inCase_ne_nil (h : text ≠ []) : d.inCase text ≠ [] := by
  unfold inCase
  split
  · exact fun hnil => h (List.map_eq_nil_iff.1 hnil)
  · exact h

theorem enclosed_fill (h : Enclosed text) : Enclosed (d.fill room text) :=
  Enclosed.append (Plain.enclosed (by
    intro c hmem
    rw [List.eq_of_mem_replicate hmem]
    split <;> rfl)) h

/-- Slashes stand inside a numeric date. -/
theorem enclosed_numericDate :
    Enclosed (d.inCase (writeParts room instant time "%m/%d/%y".toList)) ∧
      '/' ∈ d.inCase (writeParts room instant time "%m/%d/%y".toList) := by
  have hnumber : ∀ c n, Enclosed (d.inCase ((bare c).number room 2 n)) ∧
      d.inCase ((bare c).number room 2 n) ≠ [] := fun c n =>
    ⟨(plain_inCase.2 (plain_number 2 n)).enclosed, inCase_ne_nil (number_ne_nil 2 n)⟩
  obtain ⟨hmonth, hmonthne⟩ := hnumber 'm' time.time.date.month
  obtain ⟨hday, hdayne⟩ := hnumber 'd' time.time.date.day
  obtain ⟨hyear, hyearne⟩ := hnumber 'y' (time.time.date.year % 100).toNat
  rw [writeParts_numericDate, inCase_append_slash, inCase_append_slash]
  exact ⟨hmonth.slash (hday.slash hyear hdayne hyearne) hmonthne
    (List.append_ne_nil_of_left_ne_nil hdayne _), List.mem_append_right _ List.mem_cons_self⟩

/-- **A directive writes slashes exactly for a numeric date.** They stand inside what it writes. -/
theorem write_spec (hsource : Plain d.source) (hname : Plain time.name) :
    Enclosed (d.write room instant time) ∧ ('/' ∈ d.write room instant time ↔ d.IsNumericDate) := by
  -- A text without separators will do if the directive is not for a numeric date.
  have hplain : ∀ {text : Text}, Plain text → ¬ d.IsNumericDate →
      Enclosed text ∧ ('/' ∈ text ↔ d.IsNumericDate) := fun h hnot =>
    ⟨h.enclosed, iff_of_false h.slash_notMem hnot⟩
  rw [write_eq]
  cases hconversion : d.conversion with
  | none =>
    refine hplain (plain_writePart hsource hname) fun h => ?_
    rw [IsNumericDate, hconversion] at h
    simp at h
  | some c =>
    have hnumeric : d.IsNumericDate ↔ (c = 'D' ∨ c = 'x') ∧ d.fitsModifier = true := by
      rw [IsNumericDate, hconversion, Option.some.injEq, Option.some.injEq]
    rw [Option.bind_some]
    cases hexpansion : expansion? c with
    | none =>
      refine hplain (plain_writePart hsource hname) fun h => ?_
      rcases (hnumeric.1 h).1 with rfl | rfl <;> cases hexpansion
    | some inner =>
      dsimp only
      by_cases hfits : d.fitsModifier = true
      · rw [if_pos hfits]
        rcases expansion?_cases hexpansion with ⟨hc, rfl⟩ | ⟨hc, hinner⟩
        · obtain ⟨henclosed, hslash⟩ := @enclosed_numericDate d instant time room
          exact ⟨enclosed_fill henclosed,
            iff_of_true (List.mem_append_right _ hslash) (hnumeric.2 ⟨hc, hfits⟩)⟩
        · exact hplain (plain_fill.2 (plain_inCase.2 (plain_writeParts hinner hname)))
            fun h => hc (hnumeric.1 h).1
      · rw [if_neg hfits]
        exact hplain (plain_asText hsource) fun h => hfits (hnumeric.1 h).2

end Directive

/-! ## Formats -/

/-- A format with a directive for a numeric date. -/
def HasNumericDate (shape : Text) : Prop :=
  ∃ d, .directive d ∈ pieces shape ∧ d.IsNumericDate

/-- Writes a piece of a format. -/
def Piece.write (room : Nat) (instant : Int) (time : LocalTime) : Piece → Text
  | char c => [c]
  | directive d => d.write room instant time

theorem format_eq : format shape instant time =
    let text := (pieces shape).flatMap (Piece.write (DateFormat.room shape) instant time)
    if text.length < DateFormat.room shape then text else [] := by
  have hwrite : Piece.write (DateFormat.room shape) instant time = fun
      | .char c => [c]
      | .directive d => d.write (DateFormat.room shape) instant time := by
    funext piece
    cases piece <;> rfl
  rw [hwrite]
  rfl

theorem Piece.write_spec {piece : Piece} (hsource : Plain piece.source) (hname : Plain time.name) :
    Enclosed (piece.write room instant time) ∧ ('/' ∈ piece.write room instant time ↔
      ∃ d, piece = .directive d ∧ d.IsNumericDate) := by
  cases piece with
  | char c =>
    exact ⟨hsource.enclosed, iff_of_false hsource.slash_notMem fun ⟨_, h, _⟩ => nomatch h⟩
  | directive d =>
    obtain ⟨henclosed, hslash⟩ := @Directive.write_spec d instant time room hsource hname
    refine ⟨henclosed, hslash.trans ⟨fun h => ⟨d, rfl, h⟩, ?_⟩⟩
    rintro ⟨_, ⟨⟩, h⟩
    exact h

/-- **A format writes slashes exactly for numeric dates**, unless it writes nothing at all. They stand inside
of what it writes. -/
theorem format_spec (hshape : Plain shape) (hname : Plain time.name) :
    Enclosed (format shape instant time) ∧
      ('/' ∈ format shape instant time ↔
        format shape instant time ≠ [] ∧ HasNumericDate shape) := by
  rw [format_eq]
  dsimp only
  split
  · have hpiece := fun piece (hmem : piece ∈ pieces shape) =>
      @Piece.write_spec instant time (room shape) piece (plain_source hshape hmem) hname
    have hslash : '/' ∈ (pieces shape).flatMap (Piece.write (room shape) instant time) ↔
        HasNumericDate shape := by
      rw [List.mem_flatMap]
      constructor
      · rintro ⟨piece, hmem, hwritten⟩
        obtain ⟨d, rfl, hnumeric⟩ := (hpiece piece hmem).2.1 hwritten
        exact ⟨d, hmem, hnumeric⟩
      · rintro ⟨d, hmem, hnumeric⟩
        exact ⟨_, hmem, (hpiece _ hmem).2.2 ⟨d, rfl, hnumeric⟩⟩
    refine ⟨Enclosed.flatMap fun piece hmem => (hpiece piece hmem).1, hslash.trans ?_⟩
    exact (and_iff_right_of_imp fun h => List.ne_nil_of_mem (hslash.2 h)).symm
  · exact ⟨plain_nil.enclosed, iff_of_false List.not_mem_nil fun h => h.1 rfl⟩

end DateFormat

/-! ## Zones -/

/-- The names of the zone hold no separators. -/
structure Zone.PlainNames (zone : Zone) : Prop where
  standard : Plain zone.name
  summer : ∀ summer, zone.summer = some summer → Plain summer.name

theorem Zone.plainNames_utc : Zone.utc.PlainNames :=
  ⟨by decide, nofun⟩

theorem Zone.PlainNames.timeAt {zone : Zone} (h : zone.PlainNames) (instant : Int) :
    Plain (zone.timeAt instant).2 := by
  unfold Zone.timeAt
  cases hsummer : zone.summer with
  | none => exact h.standard
  | some summer =>
    dsimp only
    split
    · exact h.summer summer hsummer
    · exact h.standard

theorem Zone.name_of_clockAt? {zone : Zone} {instant : Int} {shown : LocalTime}
    (h : zone.clockAt? instant = .ok shown) : shown.name = (zone.timeAt instant).2 := by
  unfold Zone.clockAt? at h
  split at h
  · cases h
  · dsimp only at h
    split at h
    · rw [← Except.ok.inj h]
      rfl
    · cases h

namespace Timestamp

theorem plain_name_of_clocked {zone : Zone} (hzone : zone.PlainNames) {instant : Value}
    {found : Int × LocalTime} (h : clocked zone instant = .ok found) : Plain found.2.name := by
  obtain ⟨second, hsecond, h⟩ := exists_of_bind_ok h
  obtain ⟨shown, hshown, h⟩ := exists_of_bind_ok h
  have hclock : zone.clockAt? second = .ok shown := by
    cases hclock : zone.clockAt? second with
    | error fault =>
      rw [hclock] at hshown
      cases hshown
    | ok shown' =>
      rw [hclock] at hshown
      exact congrArg _ (Except.ok.inj hshown)
  have hname := Zone.name_of_clockAt? hclock ▸ hzone.timeAt second
  split at h
  · cases h
  · rw [← Except.ok.inj h]
    exact hname

theorem format_slashes {zone : Zone} (hzone : zone.PlainNames) {instant : Value} {shape text : Text}
    (hshape : Plain shape) (h : format zone instant shape = .ok text) :
    Enclosed text ∧ ('/' ∈ text ↔ text ≠ [] ∧ DateFormat.HasNumericDate shape) := by
  rw [format_eq] at h
  obtain ⟨found, hfound, h⟩ := exists_of_bind_ok h
  split at h
  · cases h
  · rw [← Except.ok.inj h]
    exact DateFormat.format_spec hshape (plain_name_of_clocked hzone hfound)

end Timestamp

end PhotoPublish
