import PhotoPublish.Number.Numeral
import PhotoPublish.Text.Digit

/-!
# Numerals that are written

The digits that `Numeral.padded` writes are read as the number again (`Numeral.numeralValue_padded`), and they
are as many as the width says if that is wide enough.
-/

set_option autoImplicit false

namespace PhotoPublish

theorem isDecimal_of_isDigit {c : Char} (h : c.isDigit = true) : isDecimal c = true := by
  rw [isDecimal, digitValue?, if_pos h]
  rfl

theorem numeralValue_of_isDigit {text : Text} (h : ∀ c ∈ text, c.isDigit = true) :
    numeralValue text = Nat.ofDigitChars 10 text 0 := by
  unfold numeralValue Nat.ofDigitChars
  suffices hstart : ∀ start : Nat,
      text.foldl (fun n c => 10 * n + (digitValue? c).getD 0) start =
        text.foldl (fun n c => 10 * n + (c.toNat - '0'.toNat)) start from hstart 0
  induction text with
  | nil => exact fun _ => rfl
  | cons c rest ih =>
    intro start
    obtain ⟨hc, hrest⟩ := List.forall_mem_cons.1 h
    rw [List.foldl_cons, List.foldl_cons, digitValue?, if_pos hc]
    exact ih hrest _

namespace Numeral

variable {width n : Nat}

theorem isDigit_of_mem_ofNat {c : Char} (h : c ∈ ofNat n) : c.isDigit = true :=
  Nat.isDigit_of_mem_toDigits (by decide) (by decide) h

theorem isDigit_of_mem_padded {c : Char} (h : c ∈ padded width n) : c.isDigit = true := by
  rcases List.mem_append.1 h with hzero | hdigit
  · rw [List.eq_of_mem_replicate hzero]
    rfl
  · exact isDigit_of_mem_ofNat hdigit

/-- **A numeral is read as the number that it was written for.** -/
theorem numeralValue_padded (width n : Nat) : numeralValue (padded width n) = n := by
  rw [numeralValue_of_isDigit fun c hc => isDigit_of_mem_padded hc]
  unfold padded padLeft ofNat
  rw [Nat.ofDigitChars_append, Nat.ofDigitChars_replicate_zero, Nat.mul_zero,
    Nat.ofDigitChars_ten_toDigits]

theorem length_padded (hwidth : 0 < width) (h : n < Nat.pow 10 width) : (padded width n).length = width := by
  have hdigits : (ofNat n).length ≤ width := (Nat.length_toDigits_le_iff (by decide) hwidth).2 h
  unfold padded padLeft
  rw [List.length_append, List.length_replicate]
  omega

/-- A number that is wide enough is not filled up. -/
theorem padded_eq_ofNat (h : width ≤ (ofNat n).length) : padded width n = ofNat n := by
  unfold padded padLeft
  rw [Nat.sub_eq_zero_of_le h]
  rfl

theorem lt_length_ofNat (hwidth : 0 < width) (h : Nat.pow 10 width ≤ n) : width < (ofNat n).length :=
  Nat.not_le.1 fun hshort =>
    absurd ((Nat.length_toDigits_le_iff (by decide) hwidth).1 hshort) (Nat.not_lt.2 h)

end Numeral

end PhotoPublish
