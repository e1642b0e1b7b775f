import Mathlib.Data.List.TakeWhile
import PhotoPublish.Proofs.Number.Reading
import PhotoPublish.Text.Alphanumeric

/-!
# Runs of characters of a class

A reader cuts the longest run of characters of a class off a text. A text that `Stops` a class does not go on
with it, so that a run in front of such a text is cut off whole.

* `Text.eq_of_cut`: the two parts of a cut are determined by the text.
* `not_isWord_of_isBlank`, `not_isDecimal_of_isBlank`: runs of blanks end where runs of word characters and of
  digits begin.
-/

set_option autoImplicit false

namespace PhotoPublish

namespace Text

/-- The first character of a text, if there is one, lies outside a class. -/
def Stops (f : Char → Bool) (text : Text) : Prop :=
  ∀ c, text.head? = some c → f c = false

variable {f : Char → Bool} {run rest : Text}

theorem stops_nil (f : Char → Bool) : Stops f [] :=
  nofun

theorem stops_cons {c : Char} (hc : f c = false) (rest : Text) : Stops f (c :: rest) := by
  rintro _ ⟨⟩
  exact hc

theorem stops_dropWhile (f : Char → Bool) (text : Text) : Stops f (text.dropWhile f) := by
  intro c hc
  have hhead := List.head?_dropWhile_not f text
  rw [hc] at hhead
  exact hhead

/-- A text that is not empty and begins with another class stops this one. -/
theorem stops_of_disjoint {g : Char → Bool} (hdisjoint : ∀ c, g c = true → f c = false)
    (hne : run ≠ []) (hrun : ∀ c ∈ run, g c = true) (rest : Text) : Stops f (run ++ rest) := by
  obtain ⟨c, run, rfl⟩ := List.exists_cons_of_ne_nil hne
  exact stops_cons (hdisjoint c (hrun c List.mem_cons_self)) _

theorem takeWhile_eq_nil (h : Stops f rest) : rest.takeWhile f = [] := by
  cases rest with
  | nil => rfl
  | cons c rest => exact List.takeWhile_cons_of_neg (by simp [h c rfl])

theorem dropWhile_eq_self (h : Stops f rest) : rest.dropWhile f = rest := by
  cases rest with
  | nil => rfl
  | cons c rest => exact List.dropWhile_cons_of_neg (by simp [h c rfl])

theorem takeWhile_append (hrun : ∀ c ∈ run, f c = true) (h : Stops f rest) :
    (run ++ rest).takeWhile f = run := by
  rw [List.takeWhile_append_of_pos hrun, takeWhile_eq_nil h, List.append_nil]

theorem dropWhile_append (hrun : ∀ c ∈ run, f c = true) (h : Stops f rest) :
    (run ++ rest).dropWhile f = rest := by
  rw [List.dropWhile_append_of_pos hrun, dropWhile_eq_self h]

/-- **A text is cut in one way after a run.** -/
theorem eq_of_cut {run' rest' : Text} (h : run ++ rest = run' ++ rest')
    (hrun : ∀ c ∈ run, f c = true) (hrest : Stops f rest)
    (hrun' : ∀ c ∈ run', f c = true) (hrest' : Stops f rest') : run = run' ∧ rest = rest' := by
  constructor
  · rw [← takeWhile_append hrun hrest, h, takeWhile_append hrun' hrest']
  · rw [← dropWhile_append hrun hrest, h, dropWhile_append hrun' hrest']

end Text

/-! ## Blanks are neither letters nor digits -/

/-- Characters among which all blanks are. -/
def blankCandidates : List Char :=
  (List.range 33 ++ highBlanks).map Char.ofNat

theorem mem_blankCandidates {c : Char} (h : isBlank c = true) : c ∈ blankCandidates := by
  refine List.mem_map.2 ⟨c.toNat, List.mem_append.2 ?_, Char.ofNat_toNat c⟩
  rcases Nat.lt_or_ge 0x7f c.toNat with hhigh | hlow
  · exact .inr (mem_highBlanks h hhigh)
  · simp only [isBlank, Bool.or_eq_true, Bool.and_eq_true, decide_eq_true_eq, beq_iff_eq] at h
    exact .inl (List.mem_range.2 (by omega))

theorem not_isWord_of_isBlank {c : Char} (h : isBlank c = true) : isWord c = false := by
  have hnone : blankCandidates.any isWord = false := by decide +kernel
  exact Bool.eq_false_iff.2 (List.any_eq_false.1 hnone c (mem_blankCandidates h))

theorem not_isDecimal_of_isBlank {c : Char} (h : isBlank c = true) : isDecimal c = false := by
  have hnone : blankCandidates.any isDecimal = false := by decide +kernel
  exact Bool.eq_false_iff.2 (List.any_eq_false.1 hnone c (mem_blankCandidates h))

end PhotoPublish
