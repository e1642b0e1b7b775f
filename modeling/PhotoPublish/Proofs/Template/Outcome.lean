import PhotoPublish.Proofs.Photo.CaptureDate
import PhotoPublish.Template.Basic

/-!
# Texts for placeholders

`Placeholder.outcome` is the text for a placeholder as a plain function of the photo and of the time that
the clock shows. `expand` puts the texts for the pieces of a template one after the other, whatever the texts
for its placeholders are.

* `expand_append`: the texts for two lists of pieces.
* `expand_ok_iff`: pieces expand unless one of their placeholders has no text.
* `expand_eq_filled`: what they expand to.
-/

set_option autoImplicit false

namespace PhotoPublish

/-! ## Results -/

section Results

variable {α : Type} {failure : Failure}

theorem not_ok_of_error : ¬ ∃ a : α, (.error failure : Except Failure α) = .ok a := by
  rintro ⟨a, h⟩
  cases h

theorem not_error_of_ok {a : α} : ¬ ∃ failure, (.ok a : Except Failure α) = .error failure := by
  rintro ⟨failure, h⟩
  cases h

theorem ok_iff_not_error {result : Except Failure α} :
    (∃ a, result = .ok a) ↔ ¬ ∃ failure, result = .error failure := by
  cases result with
  | error failure => exact iff_of_false not_ok_of_error fun h => h ⟨failure, rfl⟩
  | ok a => exact iff_of_true ⟨a, rfl⟩ not_error_of_ok

end Results

/-! ## Values as functions of the photo -/

namespace Photo

/-- The segments of the photo's path; a photo without a path has none. -/
def pathSegments (photo : Photo) : Except Failure (List Text) :=
  match photo.raw.get pathKey with
  | .null => .ok []
  | .text path => .ok (Path.segments path)
  | .moment _ => .error .wrongType
  | _ => .error .noOperation

/-- The paths of the collections that hold the photo. -/
def collectionPaths (photo : Photo) : Except Failure (List Text) :=
  (photo.collections.getD []).mapM Lineage.path

end Photo

namespace Placeholder

variable [Pattern.CharacterNames] (surroundings : Surroundings) (photo : Photo) (now : Binary64)
  (p : Placeholder)

/-- The capture date by the format. -/
def dateText : Except Failure Text := do
  let time ← photo.timeAt surroundings now
  let text ← Timestamp.format surroundings.zone (.real time) p.args
  return if text.isEmpty then p.fallback else text

/-- A result, with a text in the place of an invalid value. -/
def orIfInvalid (text : Text) : Except Failure Text → Except Failure Text
  | .ok result => .ok result
  | .error failure => if failure.family = .invalidValue then .ok text else .error failure

/-- The text for a capture date. -/
def dateOutcome : Except Failure Text :=
  if p.args.trim.isEmpty then .ok p.fallback
  else orIfInvalid p.text (p.dateText surroundings photo now)

/-- The text for a formatted metadata value. -/
def formattedOutcome : Except Failure Text := do
  let (key, pattern) := splitArguments .word p.args
  let value ← metadataText (photo.formattedFields.get key)
  p.extracted value pattern

/-- The text for a directory of the photo's path. -/
def pathOutcome : Except Failure Text := do
  let (key, pattern) := splitArguments .level p.args
  if key.isEmpty || !key.all isDigitCharacter then .ok p.text
  else
    let level ← Numeral.read 10 key
    let segments ← photo.pathSegments
    p.extracted (directoryAt segments level) pattern

/-- The text for a collection. -/
def collectionOutcome : Except Failure Text := do
  let (key, filter) := splitArguments .word p.args
  match CollectionPart.ofName? key with
  | none => .ok p.text
  | some part =>
    let paths ← photo.collectionPaths
    p.orSelf ((firstMatch filter (paths.map part.of)).map (·.getD p.fallback))

/-- The text for a placeholder. -/
def outcome : Except Failure Text :=
  match p.category with
  | .date => p.dateOutcome surroundings photo now
  | .formatted => p.formattedOutcome photo
  | .path => p.pathOutcome photo
  | .collection => p.collectionOutcome photo

/-- The place of a placeholder does not matter for its text. -/
theorem outcome_start (start : Int) :
    { p with start := start }.outcome surroundings photo now = p.outcome surroundings photo now := by
  cases p
  rfl

end Placeholder

/-! ## Texts for pieces -/

/-- The texts of pieces one after the other. -/
def expand (value : Placeholder → Except Failure Text) : List Piece → Except Failure Text
  | [] => .ok []
  | .literal text :: rest => (text ++ ·) <$> expand value rest
  | .placeholder p :: rest => do
    let text ← value p
    let later ← expand value rest
    return text ++ later

/-- The text of a piece with the given texts for placeholders. -/
def Piece.filled (put : Placeholder → Text) : Piece → Text
  | .literal text => text
  | .placeholder p => put p

section Expanding

variable {value : Placeholder → Except Failure Text}

theorem expand_literals (text : Text) :
    expand value (Piece.literals text) = .ok text := by
  unfold Piece.literals
  split
  · rename_i h
    rw [List.isEmpty_iff.1 h]
    rfl
  · exact congrArg Except.ok (List.append_nil text)

theorem expand_append (xs ys : List Piece) :
    expand value (xs ++ ys) =
      expand value xs >>= fun text => (text ++ ·) <$> expand value ys := by
  induction xs with
  | nil =>
    show expand value ys = (([] : Text) ++ ·) <$> expand value ys
    simp
  | cons piece xs ih =>
    cases piece with
    | literal text =>
      simp only [List.cons_append, expand, ih]
      cases expand value xs with
      | error failure => rfl
      | ok mid => cases expand value ys <;> simp [Functor.map, Except.map, bind, Except.bind]
    | placeholder p =>
      simp only [List.cons_append, expand, ih]
      cases value p with
      | error failure => rfl
      | ok text =>
        cases expand value xs with
        | error failure => rfl
        | ok mid =>
          cases expand value ys <;>
            simp [Functor.map, Except.map, bind, Except.bind, pure, Except.pure]

theorem expand_literals_append (text : Text) (ys : List Piece) :
    expand value (Piece.literals text ++ ys) = (text ++ ·) <$> expand value ys := by
  rw [expand_append, expand_literals]
  rfl

theorem expand_placeholder_cons (p : Placeholder) (rest : List Piece) :
    expand value (.placeholder p :: rest) =
      value p >>= fun text => (text ++ ·) <$> expand value rest := by
  simp only [expand, bind_pure_comp]

/-- Pieces expand unless one of their placeholders has no text. -/
theorem expand_ok_iff {pieces : List Piece} : (∃ text, expand value pieces = .ok text) ↔
    ∀ p, .placeholder p ∈ pieces → ∃ text, value p = .ok text := by
  induction pieces with
  | nil => exact iff_of_true ⟨[], rfl⟩ nofun
  | cons piece rest ih =>
    cases piece with
    | literal text =>
      have hmem : ∀ p,
          Piece.placeholder p ∈ Piece.literal text :: rest ↔ .placeholder p ∈ rest := by
        simp
      simp only [hmem, ← ih, expand]
      cases expand value rest with
      | error failure => exact iff_of_false not_ok_of_error not_ok_of_error
      | ok later => exact iff_of_true ⟨_, rfl⟩ ⟨_, rfl⟩
    | placeholder q =>
      have hmem : (∀ p, Piece.placeholder p ∈ Piece.placeholder q :: rest →
            ∃ text, value p = .ok text) ↔
          (∃ text, value q = .ok text) ∧
            ∀ p, .placeholder p ∈ rest → ∃ text, value p = .ok text := by
        simp
      rw [hmem, ← ih, expand]
      cases value q with
      | error failure =>
        exact iff_of_false not_ok_of_error fun h => not_ok_of_error h.1
      | ok text =>
        cases expand value rest with
        | error failure =>
          exact iff_of_false not_ok_of_error fun h => not_ok_of_error h.2
        | ok later => exact iff_of_true ⟨_, rfl⟩ ⟨⟨_, rfl⟩, _, rfl⟩

theorem expand_eq_filled {pieces : List Piece} {text : Text} (h : expand value pieces = .ok text) :
    text = pieces.flatMap (Piece.filled fun p => (value p).toOption.getD []) := by
  induction pieces generalizing text with
  | nil => exact (Except.ok.inj h).symm
  | cons piece rest ih =>
    rw [List.flatMap_cons]
    cases hrest : expand value rest with
    | error failure =>
      cases piece with
      | literal u =>
        rw [expand, hrest] at h
        cases h
      | placeholder q =>
        rw [expand, hrest] at h
        cases hq : value q <;> rw [hq] at h <;> cases h
    | ok later =>
      cases piece with
      | literal u =>
        rw [expand, hrest] at h
        rw [← ih hrest, ← Except.ok.inj h]
        rfl
      | placeholder q =>
        rw [expand, hrest] at h
        cases hq : value q with
        | error failure =>
          rw [hq] at h
          cases h
        | ok u =>
          rw [hq] at h
          rw [← ih hrest, ← Except.ok.inj h, Piece.filled, hq]
          rfl

end Expanding

end PhotoPublish
