import Mathlib.Data.List.TakeWhile
import PhotoPublish.Number.Reading

/-!
# Numerals of digit characters

A text of digit characters need not be a numeral: digits outside positional notation have no value, and a
numeral may be too long. `Numeral.read_decimals` reads all others, and `Numeral.read_digitCharacters` says
that nothing else is read. As a double any run of decimal digits is read (`Binary64.read_decimals`).
-/

set_option autoImplicit false

namespace PhotoPublish

/-! ## Digit characters -/

theorem digitValue?_lt {c : Char} {value : Nat} (h : digitValue? c = some value) : value < 10 := by
  unfold digitValue? at h
  split at h
  · rename_i hdigit
    obtain rfl := Option.some.inj h
    have hle : c.toNat ≤ 57 := (Char.isDigit_iff_toNat.1 hdigit).2
    omega
  · split at h
    · cases h
    · obtain ⟨run, -, rfl⟩ := Option.map_eq_some_iff.1 h
      exact Nat.mod_lt _ (by decide)

/-- Neither blank nor a sign nor an underscore, so that a numeral may hold it anywhere. -/
structure IsInner (c : Char) : Prop where
  notBlank : isBlank c = false
  notSign : c ≠ '-' ∧ c ≠ '+'
  notUnderscore : c ≠ '_'

instance (c : Char) : Decidable (IsInner c) :=
  decidable_of_iff (isBlank c = false ∧ (c ≠ '-' ∧ c ≠ '+') ∧ c ≠ '_')
    ⟨fun ⟨hblank, hsign, hunderscore⟩ => ⟨hblank, hsign, hunderscore⟩,
      fun ⟨hblank, hsign, hunderscore⟩ => ⟨hblank, hsign, hunderscore⟩⟩

theorem isInner_asciiDigit : ∀ value < 10, IsInner (Char.ofNat (48 + value)) ∧
    Numeral.digitOf? 10 (Char.ofNat (48 + value)) = some value := by
  decide

/-- The codes of blanks beyond ASCII. -/
def highBlanks : List Nat :=
  [0x85, 0xa0, 0x1680, 0x2028, 0x2029, 0x202f, 0x205f, 0x3000] ++ (List.range 11).map (0x2000 + ·)

theorem mem_highBlanks {c : Char} (hblank : isBlank c = true) (hhigh : 0x7f < c.toNat) :
    c.toNat ∈ highBlanks := by
  simp only [isBlank, Bool.or_eq_true, Bool.and_eq_true, decide_eq_true_eq, beq_iff_eq] at hblank
  simp only [highBlanks, List.mem_append, List.mem_map, List.mem_range, List.mem_cons,
    List.not_mem_nil]
  by_cases hrange : 0x2000 ≤ c.toNat ∧ c.toNat ≤ 0x200a
  · exact .inr ⟨c.toNat - 0x2000, by omega, by omega⟩
  · left
    omega

/-- A digit outside positional notation is no blank, no ASCII character and no digit of a numeral. -/
theorem isInner_of_isolated {c : Char} (hhigh : 0x7f < c.toNat)
    (hdigit : Text.isolatedDigitRanges.contains c.toNat = true) :
    IsInner c ∧ Numeral.digitOf? 10 c = none := by
  have hnone : ∀ code ∈ highBlanks, Text.isolatedDigitRanges.contains code = false := by
    decide +kernel
  have hne : ∀ d : Char, d.toNat ≤ 0x7f → c ≠ d := by
    rintro d hd rfl
    omega
  refine ⟨⟨?_, ⟨hne '-' (by decide), hne '+' (by decide)⟩, hne '_' (by decide)⟩, ?_⟩
  · cases hblank : isBlank c with
    | false => rfl
    | true =>
      rw [hnone _ (mem_highBlanks hblank hhigh)] at hdigit
      cases hdigit
  · have hdec : c.isDigit = false := by
      cases h : c.isDigit with
      | false => rfl
      | true =>
        have hle : c.toNat ≤ 57 := (Char.isDigit_iff_toNat.1 h).2
        omega
    have hlower : ¬ ('a' ≤ c ∧ c ≤ 'z') := by
      rintro ⟨-, hle⟩
      have hle : c.toNat ≤ 122 := hle
      omega
    have hupper : ¬ ('A' ≤ c ∧ c ≤ 'Z') := by
      rintro ⟨-, hle⟩
      have hle : c.toNat ≤ 90 := hle
      omega
    simp [Numeral.digitOf?, hdec, hlower, hupper]

/-- Digit characters keep their values in ASCII. -/
theorem asciiNumeral_digitCharacters {text : Text} (h : text.all isDigitCharacter = true) :
    (∀ d ∈ asciiNumeral text, IsInner d) ∧
      (asciiNumeral text).map (Numeral.digitOf? 10) = text.map digitValue? := by
  induction text with
  | nil => exact ⟨nofun, rfl⟩
  | cons c rest ih =>
    rw [List.all_cons, Bool.and_eq_true] at h
    obtain ⟨hrest, hvalues⟩ := ih h.2
    have hcons : ∀ d, asciiNumeral (c :: rest) = d :: asciiNumeral rest → IsInner d →
        Numeral.digitOf? 10 d = digitValue? c →
        (∀ d ∈ asciiNumeral (c :: rest), IsInner d) ∧
          (asciiNumeral (c :: rest)).map (Numeral.digitOf? 10) = (c :: rest).map digitValue? := by
      intro d heq hinner hvalue
      rw [heq, List.map_cons, List.map_cons, hvalue, hvalues]
      exact ⟨List.forall_mem_cons.2 ⟨hinner, hrest⟩, rfl⟩
    cases hdigit : digitValue? c with
    | some value =>
      obtain ⟨hinner, hvalue⟩ := isInner_asciiDigit value (digitValue?_lt hdigit)
      refine hcons _ ?_ hinner (by rw [hvalue, hdigit])
      simp [asciiNumeral, hdigit]
    | none =>
      have hisolated := h.1
      simp only [isDigitCharacter, isDecimal, hdigit, Option.isSome_none, Bool.false_or,
        Bool.and_eq_true, decide_eq_true_eq] at hisolated
      obtain ⟨hinner, hvalue⟩ := isInner_of_isolated hisolated.1 hisolated.2
      refine hcons c ?_ hinner (by rw [hvalue, hdigit])
      simp [asciiNumeral, hdigit, hinner.notBlank]

/-! ## Reading -/

theorem Text.trim_of_notBlank {text : Text} (h : ∀ c ∈ text, isBlank c = false) :
    text.trim = text := by
  have hdrop : ∀ {u : Text}, (∀ c ∈ u, isBlank c = false) → u.dropWhile isBlank = u := by
    intro u hu
    cases u with
    | nil => rfl
    | cons c rest => exact List.dropWhile_cons_of_neg (by simp [hu c List.mem_cons_self])
  rw [trim, trimLeft, hdrop h, trimRight, hdrop (fun c hc => h c (List.mem_reverse.1 hc)),
    List.reverse_reverse]

theorem readSign_of_inner {text : Text} (h : ∀ c ∈ text, IsInner c) :
    readSign text = (false, text) := by
  unfold readSign
  split
  · exact absurd rfl (h '-' List.mem_cons_self).notSign.1
  · exact absurd rfl (h '+' List.mem_cons_self).notSign.2
  · rfl

namespace Numeral

/-- A run of digits without underscores is well formed if there is one. -/
theorem underscoresFit_of_digits {base : Nat} {run : Text}
    (h : ∀ c ∈ run, c ≠ '_' ∧ (digitOf? base c).isSome = true) (afterDigit : Bool) :
    underscoresFit base afterDigit run = (afterDigit || !run.isEmpty) := by
  induction run generalizing afterDigit with
  | nil => simp [underscoresFit]
  | cons c rest ih =>
    obtain ⟨⟨hne, hdigit⟩, hrest⟩ := List.forall_mem_cons.1 h
    rw [underscoresFit, if_neg hne, hdigit, ih hrest]
    simp

/-- The value of a run of digits. -/
def valueOfRun (run : Text) : Nat :=
  run.foldl (fun n c => 10 * n + (digitOf? 10 c).getD 0) 0

theorem takeWhile_of_inner {text : Text} (h : ∀ c ∈ text, IsInner c) :
    (text.takeWhile fun c => c == '_' || (digitOf? 10 c).isSome) =
      text.takeWhile fun c => (digitOf? 10 c).isSome := by
  induction text with
  | nil => rfl
  | cons c rest ih =>
    obtain ⟨hinner, hrest⟩ := List.forall_mem_cons.1 h
    have hne : (c == '_') = false := by simpa using hinner.notUnderscore
    rw [List.takeWhile_cons, List.takeWhile_cons, hne, Bool.false_or, ih hrest]

/-- A text without blanks, signs and underscores is read up to its first character that is no digit. -/
theorem read_of_inner {text run : Text} (hinner : ∀ c ∈ asciiNumeral text, IsInner c)
    (hrun : (asciiNumeral text).takeWhile (fun c => (digitOf? 10 c).isSome) = run) :
    read 10 text =
      if run.isEmpty then .error (.badNumeral 10 text)
      else if longest < run.length then .error (.longNumeral run.length)
      else if run.length < (asciiNumeral text).length then .error (.badNumeral 10 text)
      else .ok (valueOfRun run) := by
  have hmem : ∀ c ∈ run, c ≠ '_' ∧ (digitOf? 10 c).isSome = true := by
    intro c hc
    rw [← hrun] at hc
    exact ⟨(hinner c ((List.takeWhile_sublist _).subset hc)).notUnderscore,
      List.mem_takeWhile_imp (p := fun c => (digitOf? 10 c).isSome) hc⟩
  have hfilter : run.filter (· != '_') = run :=
    List.filter_eq_self.2 fun c hc => by simpa using (hmem c hc).1
  have hbase : basePrefix 10 (asciiNumeral text) = asciiNumeral text := by
    unfold basePrefix
    split <;> first | rfl | omega
  have hfits := underscoresFit_of_digits hmem false
  unfold read
  rw [Text.trim_of_notBlank fun c hc => (hinner c hc).notBlank, readSign_of_inner hinner]
  simp only [hbase, takeWhile_of_inner hinner, hrun, hfilter, hfits, isBinaryBase]
  cases hempty : run.isEmpty with
  | true => rfl
  | false => simp [valueOfRun]

theorem length_asciiNumeral (text : Text) : (asciiNumeral text).length = text.length :=
  List.length_map _

/-- The digits of the ASCII form are all there exactly if the digits are decimal. -/
theorem takeWhile_asciiNumeral_iff {text : Text} (hdigits : text.all isDigitCharacter = true) :
    (asciiNumeral text).takeWhile (fun c => (digitOf? 10 c).isSome) = asciiNumeral text ↔
      text.all isDecimal = true := by
  have hvalues := (asciiNumeral_digitCharacters hdigits).2
  have hall : (asciiNumeral text).all (fun c => (digitOf? 10 c).isSome) = text.all isDecimal := by
    have hsome := congrArg (fun values => values.all Option.isSome) hvalues
    simp only [List.all_map, Function.comp_def] at hsome
    exact hsome
  rw [List.takeWhile_eq_self_iff, ← hall, List.all_eq_true]

theorem valueOfRun_asciiNumeral {text : Text} (hdigits : text.all isDigitCharacter = true) :
    valueOfRun (asciiNumeral text) = numeralValue text := by
  have hfold := congrArg (fun values : List (Option Nat) =>
    values.foldl (fun n value => 10 * n + value.getD 0) 0) (asciiNumeral_digitCharacters hdigits).2
  simp only [List.foldl_map] at hfold
  exact hfold

theorem all_isDigitCharacter_of_isDecimal {text : Text} (h : text.all isDecimal = true) :
    text.all isDigitCharacter = true := by
  rw [List.all_eq_true] at h ⊢
  intro c hc
  rw [isDigitCharacter, h c hc, Bool.true_or]

/-- **Decimal digits make a numeral, if they are not too many.** -/
theorem read_decimals {text : Text} (hne : text ≠ []) (hdecimal : text.all isDecimal = true)
    (hlength : text.length ≤ longest) : read 10 text = .ok (numeralValue text) := by
  have hdigits := all_isDigitCharacter_of_isDecimal hdecimal
  have hrun := (takeWhile_asciiNumeral_iff hdigits).2 hdecimal
  have hempty : (asciiNumeral text).isEmpty = false := by
    rw [List.isEmpty_eq_false_iff, ← List.length_pos_iff, length_asciiNumeral, List.length_pos_iff]
    exact hne
  rw [read_of_inner (asciiNumeral_digitCharacters hdigits).1 hrun, hempty, length_asciiNumeral,
    if_neg nofun, if_neg (by omega), if_neg (Nat.lt_irrefl _), valueOfRun_asciiNumeral hdigits]

/-- **Digit characters make no numeral if one is no decimal digit or they are too many.** -/
theorem read_digitCharacters {text : Text} (hdigits : text.all isDigitCharacter = true)
    (h : text.all isDecimal = false ∨ longest < text.length) :
    ∃ failure, read 10 text = .error failure ∧ failure.family = .invalidValue := by
  rw [read_of_inner (asciiNumeral_digitCharacters hdigits).1 rfl]
  split
  · exact ⟨_, rfl, rfl⟩
  · split
    · exact ⟨_, rfl, rfl⟩
    · split
      · exact ⟨_, rfl, rfl⟩
      · rename_i hshort hwhole
        have hself := (List.takeWhile_prefix _).eq_of_length_le (Nat.le_of_not_lt hwhole)
        rw [hself, length_asciiNumeral] at hshort
        rcases h with hdecimal | hlong
        · rw [(takeWhile_asciiNumeral_iff hdigits).1 hself] at hdecimal
          cases hdecimal
        · exact absurd hlong hshort

end Numeral

namespace Binary64

theorem dropUnderscores_of_none {text : Text} (h : ∀ c ∈ text, c ≠ '_') :
    dropUnderscores text = some text := by
  have hgo : ∀ last, last ≠ '_' → dropUnderscores.go last text = some text := by
    induction text with
    | nil => exact fun last hlast => if_neg hlast
    | cons c rest ih =>
      intro last hlast
      obtain ⟨hc, hrest⟩ := List.forall_mem_cons.1 h
      rw [dropUnderscores.go, if_neg hc, if_neg fun hand => hlast hand.1, ih hrest c hc]
      rfl
  exact hgo '\x00' (by decide)

theorem isDigit_asciiDigit : ∀ value < 10, (Char.ofNat (48 + value)).isDigit = true ∧
    digitValue? (Char.ofNat (48 + value)) = some value := by
  decide

/-- Decimal digits are ASCII digits of the same values. -/
theorem asciiNumeral_decimals {text : Text} (h : text.all isDecimal = true) :
    (∀ c ∈ asciiNumeral text, c.isDigit = true) ∧
      (asciiNumeral text).map digitValue? = text.map digitValue? := by
  induction text with
  | nil => exact ⟨nofun, rfl⟩
  | cons c rest ih =>
    rw [List.all_cons, Bool.and_eq_true] at h
    obtain ⟨hrest, hvalues⟩ := ih h.2
    obtain ⟨value, hvalue⟩ := Option.isSome_iff_exists.1 h.1
    obtain ⟨hdigit, hsame⟩ := isDigit_asciiDigit value (digitValue?_lt hvalue)
    have heq : asciiNumeral (c :: rest) = Char.ofNat (48 + value) :: asciiNumeral rest := by
      simp [asciiNumeral, hvalue]
    rw [heq, List.map_cons, List.map_cons, hvalues, hsame, hvalue]
    exact ⟨List.forall_mem_cons.2 ⟨hdigit, hrest⟩, rfl⟩

theorem numeralValue_asciiNumeral {text : Text} (h : text.all isDecimal = true) :
    numeralValue (asciiNumeral text) = numeralValue text := by
  have hfold := congrArg (fun values : List (Option Nat) =>
    values.foldl (fun n value => 10 * n + value.getD 0) 0) (asciiNumeral_decimals h).2
  simp only [List.foldl_map] at hfold
  exact hfold

/-- A text of ASCII digits is no word and has no point and no exponent. -/
theorem readUnsigned_digits {text : Text} (hne : text ≠ []) (h : ∀ c ∈ text, c.isDigit = true) :
    readUnsigned false text = some (ofDecimal false (numeralValue text) 0) := by
  obtain ⟨c, rest, rfl⟩ := List.exists_cons_of_ne_nil hne
  have hc := h c List.mem_cons_self
  have hword : ∀ d more, d.isDigit = false → (c :: rest).map Char.toLower ≠ d :: more := by
    intro d more hd hword
    have hlower : c.toLower = c := by
      have hle : c.toNat ≤ 57 := (Char.isDigit_iff_toNat.1 hc).2
      refine dif_neg fun hupper => ?_
      have hge : 65 ≤ c.toNat := hupper.1
      omega
    rw [List.map_cons, hlower] at hword
    rw [← (List.cons.inj hword).1, hc] at hd
    cases hd
  have hfront : (c :: rest).takeWhile Char.isDigit = c :: rest := List.takeWhile_eq_self_iff.2 h
  have hback : (c :: rest).dropWhile Char.isDigit = [] := List.dropWhile_eq_nil_iff.2 h
  have hinf : (c :: rest).map Char.toLower ≠ "inf".toList := hword 'i' "nf".toList rfl
  have hinfinity : (c :: rest).map Char.toLower ≠ "infinity".toList :=
    hword 'i' "nfinity".toList rfl
  have hnan : (c :: rest).map Char.toLower ≠ "nan".toList := hword 'n' "an".toList rfl
  unfold readUnsigned
  dsimp only
  rw [if_neg (not_or.2 ⟨hinf, hinfinity⟩), if_neg hnan, hfront, hback]
  simp [readExponent]

/-- **Decimal digits are read as the whole number that they denote,** however many they are. -/
theorem read_decimals {text : Text} (hne : text ≠ []) (hdecimal : text.all isDecimal = true) :
    read text = .ok (ofDecimal false (numeralValue text) 0) := by
  have hinner := (asciiNumeral_digitCharacters
    (Numeral.all_isDigitCharacter_of_isDecimal hdecimal)).1
  have hnonempty : asciiNumeral text ≠ [] := by
    rw [← List.length_pos_iff, Numeral.length_asciiNumeral, List.length_pos_iff]
    exact hne
  have hread := readUnsigned_digits hnonempty (asciiNumeral_decimals hdecimal).1
  rw [numeralValue_asciiNumeral hdecimal] at hread
  unfold read ofAscii?
  rw [Text.trim_of_notBlank fun c hc => (hinner c hc).notBlank,
    dropUnderscores_of_none fun c hc => (hinner c hc).notUnderscore]
  simp only [bind, Option.bind, readSign_of_inner hinner, hread]

end Binary64

end PhotoPublish
