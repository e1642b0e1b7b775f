import PhotoPublish.Backlink.Basic
import PhotoPublish.Proofs.Text.Run

/-!
# Which URLs are taken for backlinks

A backlink begins with the identifier of its collection. The test compares the identifier with the first
number of the URL, wherever that stands (`isOf_iff`).

* `check_eq_isLed_iff`: the test tells exactly which URLs begin with the identifier, unless the URL begins
  with something else and has the identifier as its first number further on, or the identifier is too long
  to be written.
-/

set_option autoImplicit false

namespace PhotoPublish.Backlink

/-! ## Numbers in texts -/

/-- The first number of a text, cut out whole: no digit stands before it, and none follows. -/
structure FirstNumberAt (text before number after : Text) : Prop where
  split : text = before ++ (number ++ after)
  noneBefore : ∀ c ∈ before, isDecimal c = false
  digits : ∀ c ∈ number, isDecimal c = true
  ends : ∀ c, after.head? = some c → isDecimal c = false

variable {text before number after : Text}

theorem FirstNumberAt.firstNumber_eq (h : FirstNumberAt text before number after)
    (hne : number ≠ []) : firstNumber text = number := by
  obtain ⟨c, rest, rfl⟩ := List.exists_cons_of_ne_nil hne
  have hstart : isDecimal c = true := h.digits c List.mem_cons_self
  have hbefore : ∀ c ∈ before, (!isDecimal c) = true := fun c hc => by simp [h.noneBefore c hc]
  rw [firstNumber, h.split, List.dropWhile_append_of_pos hbefore, List.cons_append,
    List.dropWhile_cons_of_neg (by simp [hstart]), ← List.cons_append,
    Text.takeWhile_append h.digits h.ends]

/-- The first number may be empty: then the text holds no digit. -/
theorem exists_firstNumberAt (text : Text) :
    ∃ before after, FirstNumberAt text before (firstNumber text) after := by
  refine ⟨text.takeWhile fun c => !isDecimal c,
    (text.dropWhile fun c => !isDecimal c).dropWhile isDecimal, ?_, ?_, ?_, ?_⟩
  · rw [firstNumber, List.takeWhile_append_dropWhile, List.takeWhile_append_dropWhile]
  · intro c hc
    simpa using List.mem_takeWhile_imp hc
  · exact fun c hc => List.mem_takeWhile_imp hc
  · exact Text.stops_dropWhile isDecimal _

theorem firstNumber_eq_iff (hne : number ≠ []) :
    firstNumber text = number ↔ ∃ before after, FirstNumberAt text before number after := by
  constructor
  · rintro rfl
    exact exists_firstNumberAt text
  · rintro ⟨before, after, h⟩
    exact h.firstNumber_eq hne

theorem firstNumber_ne_nil_iff : firstNumber text ≠ [] ↔ ∃ c ∈ text, isDecimal c = true := by
  constructor
  · intro hne
    obtain ⟨before, after, h⟩ := exists_firstNumberAt text
    obtain ⟨c, rest, hnumber⟩ := List.exists_cons_of_ne_nil hne
    have hc : c ∈ firstNumber text := hnumber ▸ List.mem_cons_self
    refine ⟨c, ?_, h.digits c hc⟩
    rw [h.split]
    exact List.mem_append_right _ (List.mem_append_left _ hc)
  · rintro ⟨c, hc, hdigit⟩ hnil
    cases hrest : text.dropWhile (fun c => !isDecimal c) with
    | nil =>
      have hnone := List.dropWhile_eq_nil_iff.1 hrest c hc
      simp [hdigit] at hnone
    | cons d rest =>
      have hd := List.head?_dropWhile_not (fun c => !isDecimal c) text
      rw [hrest] at hd
      rw [firstNumber, hrest, List.takeWhile_cons_of_pos (by simpa using hd)] at hnil
      cases hnil

/-- The number at the very beginning of a text; empty if the text begins with something else. -/
def leadingNumber (text : Text) : Text :=
  text.takeWhile isDecimal

theorem leadingNumber_eq_iff :
    leadingNumber text = number ↔ ∃ after, FirstNumberAt text [] number after := by
  constructor
  · rintro rfl
    refine ⟨text.dropWhile isDecimal, ?_, nofun, fun c hc => List.mem_takeWhile_imp hc,
      Text.stops_dropWhile isDecimal text⟩
    exact List.takeWhile_append_dropWhile.symm
  · rintro ⟨after, h⟩
    rw [leadingNumber, h.split, List.nil_append, Text.takeWhile_append h.digits h.ends]

/-! ## Identifiers -/

theorem ofNat_ne_nil (n : Nat) : Numeral.ofNat n ≠ [] :=
  Nat.toDigits_ne_nil

/-- **What is taken for a backlink:** a URL whose first number is the identifier, wherever it stands. -/
theorem isOf_iff (n : Nat) (url : Option Text) :
    isOf (.whole n) url = true ↔
      ∃ before after, FirstNumberAt (url.getD []) before (Numeral.ofNat n) after := by
  rw [← firstNumber_eq_iff (ofNat_ne_nil n)]
  have hdisplay : (Value.whole n).display = Numeral.ofNat n := rfl
  simp only [isOf, hdisplay, Bool.and_eq_true, Bool.not_eq_true', List.isEmpty_eq_false_iff,
    beq_iff_eq]
  refine ⟨And.right, fun hnumber => ⟨?_, hnumber⟩⟩
  rw [hnumber]
  exact ofNat_ne_nil n

/-- The number at the beginning of a URL is the identifier. -/
def IsLed (n : Nat) (url : Text) : Prop :=
  leadingNumber url ≠ [] ∧ leadingNumber url = Numeral.ofNat n

instance (n : Nat) (url : Text) : Decidable (IsLed n url) :=
  inferInstanceAs (Decidable (leadingNumber url ≠ [] ∧ leadingNumber url = Numeral.ofNat n))

theorem isLed_iff {n : Nat} {url : Text} :
    IsLed n url ↔ ∃ after, FirstNumberAt url [] (Numeral.ofNat n) after := by
  rw [← leadingNumber_eq_iff]
  refine ⟨And.right, fun hnumber => ⟨?_, hnumber⟩⟩
  rw [hnumber]
  exact ofNat_ne_nil n

/-- A URL that begins with something else but has the identifier as its first number further on. -/
def Misleads (n : Nat) (url : Text) : Prop :=
  ∃ before after, before ≠ [] ∧ FirstNumberAt url before (Numeral.ofNat n) after

theorem not_isLed_of_misleads {n : Nat} {url : Text} (h : Misleads n url) : ¬ IsLed n url := by
  rintro ⟨hne, -⟩
  obtain ⟨before, after, hbefore, hfirst⟩ := h
  obtain ⟨c, rest, rfl⟩ := List.exists_cons_of_ne_nil hbefore
  have hc := hfirst.noneBefore c List.mem_cons_self
  refine hne ?_
  rw [leadingNumber, hfirst.split, List.cons_append, List.takeWhile_cons_of_neg (by simp [hc])]

theorem isOf_iff_isLed_or (n : Nat) (url : Option Text) :
    isOf (.whole n) url = true ↔ IsLed n (url.getD []) ∨ Misleads n (url.getD []) := by
  rw [isOf_iff, isLed_iff]
  constructor
  · rintro ⟨before, after, h⟩
    cases before with
    | nil => exact .inl ⟨after, h⟩
    | cons c rest => exact .inr ⟨c :: rest, after, List.cons_ne_nil c rest, h⟩
  · rintro (⟨after, h⟩ | ⟨before, after, -, h⟩)
    · exact ⟨[], after, h⟩
    · exact ⟨before, after, h⟩

/-- The identifier has too many digits to be written, and there is a number to compare it with. -/
def Unwritable (n : Nat) (url : Text) : Prop :=
  Numeral.longest < (Numeral.ofNat n).length ∧ ∃ c ∈ url, isDecimal c = true

theorem check_of_unwritable {n : Nat} {url : Option Text} (h : Unwritable n (url.getD [])) :
    check (.whole n) url = .error .longWhole := by
  obtain ⟨hlong, hdigit⟩ := h
  have hwhole : (Value.whole n).hasLongWhole = true := decide_eq_true hlong
  have hnumber := List.isEmpty_eq_false_iff.2 (firstNumber_ne_nil_iff.2 hdigit)
  rw [check, hwhole, hnumber]
  rfl

theorem check_of_not_unwritable {n : Nat} {url : Option Text}
    (h : ¬ Unwritable n (url.getD [])) : check (.whole n) url = .ok (isOf (.whole n) url) := by
  refine if_neg fun hguard => h ?_
  simp only [Bool.and_eq_true, Bool.not_eq_true', List.isEmpty_eq_false_iff] at hguard
  exact ⟨of_decide_eq_true hguard.1, firstNumber_ne_nil_iff.1 hguard.2⟩

/-- **When the test tells the backlinks of a collection.** It says of a URL whether the number at its very
beginning is the identifier, unless the URL misleads it or the identifier cannot be written. -/
theorem check_eq_isLed_iff (n : Nat) (url : Option Text) :
    check (.whole n) url = .ok (decide (IsLed n (url.getD []))) ↔
      ¬ Misleads n (url.getD []) ∧ ¬ Unwritable n (url.getD []) := by
  by_cases hlong : Unwritable n (url.getD [])
  · rw [check_of_unwritable hlong]
    exact iff_of_false nofun fun h => h.2 hlong
  · rw [check_of_not_unwritable hlong]
    constructor
    · intro hcheck
      refine ⟨fun hmisleads => not_isLed_of_misleads hmisleads ?_, hlong⟩
      have hof := (isOf_iff_isLed_or n url).2 (.inr hmisleads)
      rw [hof] at hcheck
      exact of_decide_eq_true (Except.ok.inj hcheck).symm
    · rintro ⟨hmisleads, -⟩
      have hiff : isOf (.whole n) url = true ↔ IsLed n (url.getD []) :=
        (isOf_iff_isLed_or n url).trans (or_iff_left hmisleads)
      exact congrArg Except.ok (Bool.eq_iff_iff.2 (hiff.trans decide_eq_true_iff.symm))

/-- The album path of an older URL may hold the identifier. -/
theorem check_album_path :
    check (.whole 12) (some "photo/12/a.jpg".toList) = .ok true ∧
      ¬ IsLed 12 "photo/12/a.jpg".toList := by
  refine ⟨?_, by decide +kernel⟩
  have hshort : (Value.whole 12).hasLongWhole = false := by decide +kernel
  have hof : isOf (.whole 12) (some "photo/12/a.jpg".toList) = true := by decide +kernel
  rw [check, hshort, hof]
  rfl

end PhotoPublish.Backlink
