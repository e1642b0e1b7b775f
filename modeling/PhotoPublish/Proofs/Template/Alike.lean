import PhotoPublish.Proofs.Calendar.Slashed
import PhotoPublish.Proofs.Template.Tidy

/-!
# Placeholders with the same arguments

Two placeholders with the same arguments (`Placeholder.Alike`) have the same value, take the same part of it
and fail in the same way. Where one stands for its default or for its own text, so does the other, and the
two differ at most in separators that make no segment (`Placeholder.Alike.outcome`). In the format of a date
a slash may stand for a backslash, since both stand for themselves there.
-/

set_option autoImplicit false

namespace PhotoPublish

namespace Placeholder

/-- Placeholders whose default and text stand for the same segments, all else being equal up to the
separators in a date format. -/
structure Alike (p q : Placeholder) : Prop where
  category : p.category = q.category
  args : p.category ≠ .date → p.args = q.args
  shape : Path.slashed p.args = Path.slashed q.args
  fallback : Path.onto p.fallback = Path.onto q.fallback
  text : Path.onto p.text = Path.onto q.text

theorem isEmpty_slashed (text : Text) : (Path.slashed text).isEmpty = text.isEmpty := by
  cases text <;> rfl

namespace Alike

variable {p q : Placeholder} (h : p.Alike q)
include h

theorem orSelf {first second : Except Pattern.Fault Text}
    (hresult : first.map Path.onto = second.map Path.onto) :
    (p.orSelf first).map Path.onto = (q.orSelf second).map Path.onto := by
  cases first with
  | ok x =>
    cases second with
    | ok y => exact congrArg Except.ok (Except.ok.inj hresult)
    | error fault => cases hresult
  | error fault =>
    cases second with
    | ok y => cases hresult
    | error fault' =>
      obtain rfl := Except.error.inj hresult
      simp only [Placeholder.orSelf]
      cases fault.failure? with
      | none => exact congrArg Except.ok h.text
      | some failure => rfl

theorem getD (found : Option Text) :
    Path.onto (found.getD p.fallback) = Path.onto (found.getD q.fallback) := by
  cases found with
  | none => exact h.fallback
  | some text => rfl

theorem orIfInvalid {first second : Except Failure Text}
    (hresult : first.map Path.onto = second.map Path.onto) :
    (Placeholder.orIfInvalid p.text first).map Path.onto =
      (Placeholder.orIfInvalid q.text second).map Path.onto := by
  cases first with
  | ok x =>
    cases second with
    | ok y => exact hresult
    | error failure => cases hresult
  | error failure =>
    cases second with
    | ok y => cases hresult
    | error failure' =>
      obtain rfl := Except.error.inj hresult
      simp only [Placeholder.orIfInvalid]
      split
      · exact congrArg Except.ok h.text
      · rfl

/-- The date itself is the same but for the separators of its format. -/
theorem format (zone : Zone) (instant : Value) :
    (Timestamp.format zone instant p.args).map Path.slashed =
      (Timestamp.format zone instant q.args).map Path.slashed := by
  rw [← Timestamp.format_slashed, h.shape, Timestamp.format_slashed]

theorem trim_isEmpty : p.args.trim.isEmpty = q.args.trim.isEmpty := by
  rw [← isEmpty_slashed, ← isEmpty_slashed q.args.trim, ← Text.trim_slashed, ← Text.trim_slashed,
    h.shape]

theorem orFallback {first second : Except Failure Text}
    (hresult : first.map Path.slashed = second.map Path.slashed) :
    (first.map fun text => if text.isEmpty then p.fallback else text).map Path.onto =
      (second.map fun text => if text.isEmpty then q.fallback else text).map Path.onto := by
  cases first with
  | error failure =>
    cases second with
    | error failure' => exact congrArg Except.error (Except.error.inj hresult)
    | ok y => cases hresult
  | ok x =>
    cases second with
    | error failure => cases hresult
    | ok y =>
      have hslashed := Except.ok.inj hresult
      refine congrArg Except.ok ?_
      dsimp only
      rw [← isEmpty_slashed x, hslashed, isEmpty_slashed]
      split
      · exact h.fallback
      · rw [← Path.onto_slashed, hslashed, Path.onto_slashed]

theorem dateText (surroundings : Surroundings) (photo : Photo) (now : Binary64) :
    (p.dateText surroundings photo now).map Path.onto =
      (q.dateText surroundings photo now).map Path.onto := by
  unfold Placeholder.dateText
  cases photo.timeAt surroundings now with
  | error failure => rfl
  | ok time => exact h.orFallback (h.format surroundings.zone (.real time))

theorem dateOutcome (surroundings : Surroundings) (photo : Photo) (now : Binary64) :
    (p.dateOutcome surroundings photo now).map Path.onto =
      (q.dateOutcome surroundings photo now).map Path.onto := by
  unfold Placeholder.dateOutcome
  rw [h.trim_isEmpty]
  split
  · exact congrArg Except.ok h.fallback
  · exact h.orIfInvalid (h.dateText surroundings photo now)

variable [Pattern.CharacterNames]

theorem extracted (value : Text) (pattern : Option Text) :
    (p.extracted value pattern).map Path.onto = (q.extracted value pattern).map Path.onto := by
  unfold Placeholder.extracted
  split
  · exact congrArg Except.ok h.fallback
  · cases pattern with
    | none => rfl
    | some pattern =>
      apply h.orSelf
      cases Pattern.extract value pattern with
      | error fault => rfl
      | ok found =>
        cases found with
        | none => exact congrArg Except.ok h.fallback
        | some part => rfl

theorem formattedOutcome (hargs : p.args = q.args) (photo : Photo) :
    (p.formattedOutcome photo).map Path.onto = (q.formattedOutcome photo).map Path.onto := by
  unfold Placeholder.formattedOutcome
  rw [hargs]
  simp only [bind, Except.bind]
  cases metadataText (photo.formattedFields.get (splitArguments .word q.args).1) with
  | error failure => rfl
  | ok value => exact h.extracted value _

theorem pathOutcome (hargs : p.args = q.args) (photo : Photo) :
    (p.pathOutcome photo).map Path.onto = (q.pathOutcome photo).map Path.onto := by
  unfold Placeholder.pathOutcome
  rw [hargs]
  simp only [bind, Except.bind]
  split
  · exact congrArg Except.ok h.text
  · cases Numeral.read 10 (splitArguments .level q.args).1 with
    | error failure => rfl
    | ok level =>
      cases photo.pathSegments with
      | error failure => rfl
      | ok segments => exact h.extracted _ _

theorem collectionOutcome (hargs : p.args = q.args) (photo : Photo) :
    (p.collectionOutcome photo).map Path.onto = (q.collectionOutcome photo).map Path.onto := by
  unfold Placeholder.collectionOutcome
  rw [hargs]
  simp only [bind, Except.bind]
  cases CollectionPart.ofName? (splitArguments .word q.args).1 with
  | none => exact congrArg Except.ok h.text
  | some part =>
    cases photo.collectionPaths with
    | error failure => rfl
    | ok paths =>
      apply h.orSelf
      cases firstMatch (splitArguments .word q.args).2 (paths.map part.of) with
      | error fault => rfl
      | ok found => exact congrArg Except.ok (h.getD found)

/-- **Placeholders with the same arguments stand for the same segments.** -/
theorem outcome (surroundings : Surroundings) (photo : Photo) (now : Binary64) :
    (p.outcome surroundings photo now).map Path.onto =
      (q.outcome surroundings photo now).map Path.onto := by
  have hargs := h.args
  unfold Placeholder.outcome
  rw [h.category] at hargs ⊢
  cases hcategory : q.category with
  | date => exact h.dateOutcome surroundings photo now
  | formatted => exact h.formattedOutcome (hargs (hcategory ▸ nofun)) photo
  | path => exact h.pathOutcome (hargs (hcategory ▸ nofun)) photo
  | collection => exact h.collectionOutcome (hargs (hcategory ▸ nofun)) photo

end Alike

/-- Arguments that mean the same when they are tidied: they are tidy, those of a date but for
backslashes. -/
def HasTidyArguments (p : Placeholder) : Prop :=
  Path.tidy p.args = if p.category = .date then Path.slashed p.args else p.args

instance (p : Placeholder) : Decidable p.HasTidyArguments :=
  inferInstanceAs (Decidable (_ = _))

/-- A placeholder with tidy arguments has nothing else that matters tidied. -/
theorem HasTidyArguments.alike {p : Placeholder} (h : p.HasTidyArguments) : p.tidied.Alike p where
  category := rfl
  args hcategory := h.trans (if_neg hcategory)
  shape := by
    have hargs : p.tidied.args = if p.category = .date then Path.slashed p.args else p.args := h
    rw [hargs]
    split
    · exact Path.slashed_slashed p.args
    · rfl
  fallback := by
    unfold fallback tidied
    cases p.default with
    | none => rfl
    | some text => exact Path.onto_tidy text
  text := Path.onto_tidy p.text

end Placeholder

/-- Pieces expand alike if their placeholders do. -/
theorem map_onto_expand_congr {value other : Placeholder → Except Failure Text} {pieces : List Piece}
    (h : ∀ p, .placeholder p ∈ pieces →
      (value p).map Path.onto = (other p).map Path.onto) :
    (expand value pieces).map Path.onto = (expand other pieces).map Path.onto := by
  induction pieces with
  | nil => rfl
  | cons piece rest ih =>
    have ih := ih fun p hmem => h p (List.mem_cons_of_mem _ hmem)
    cases piece with
    | literal text =>
      rw [expand, expand, map_onto_prepend, map_onto_prepend, ih]
    | placeholder p =>
      rw [expand_placeholder_cons, expand_placeholder_cons, map_onto_bind, map_onto_bind, ih,
        h p List.mem_cons_self]

end PhotoPublish
