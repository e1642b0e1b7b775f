import PhotoPublish.Pattern.CharacterName
import PhotoPublish.Proofs.Template.Extraction
import PhotoPublish.Proofs.Template.Tidy

/-!
# Where a result comes from

What is written for a piece of a template comes from the template itself or from the photo (`Origin`). Only
what comes from the photo is made a legal name. `Piece.Gives` says what may be written for a piece.

* `Piece.exists_origins`: each piece of a template that only extracts has an origin.
* `Template.evaluate_extracts`: what is taken from the photo brings no separators into the result and keeps
  its braces there; separators are written by the template itself.
-/

set_option autoImplicit false

namespace PhotoPublish

/-! ## Origins -/

/-- What is written for a piece of a template. -/
inductive Origin where
  /-- Text of the template, as it stands there. -/
  | own (text : Text)
  /-- Part of a value of the photo. -/
  | taken (part : Text)
deriving DecidableEq, Repr

namespace Origin

/-- The text where it comes from. -/
def source : Origin → Text
  | own text => text
  | taken part => part

/-- The text as it is written. -/
def written : Origin → Text
  | own text => text
  | taken part => legalName part

theorem filter_isBrace_written (origin : Origin) :
    origin.written.filter isBrace = origin.source.filter isBrace := by
  cases origin with
  | own text => rfl
  | taken part => exact filter_legalName (List.any_eq_false.1 (by decide)) part

end Origin

/-- What may be written for a placeholder: its text if it cannot be read, its default, or what it takes from
the value that it selects. -/
inductive Placeholder.Gives [Pattern.CharacterNames] (photo : Photo) (p : Placeholder) : Origin → Prop
  | itself : p.Illegible photo → Gives photo p (.own p.text)
  | fallback : Gives photo p (.own p.fallback)
  | taken {value part : Text} {pattern : Option Text} : p.Selects photo value pattern →
      Placeholder.Takes value pattern part → Gives photo p (.taken part)

/-- What may be written for a piece. -/
inductive Piece.Gives [Pattern.CharacterNames] (photo : Photo) : Piece → Origin → Prop
  | literal (text : Text) : Gives photo (.literal text) (.own text)
  | placeholder {p : Placeholder} {origin : Origin} : p.Gives photo origin →
      Gives photo (.placeholder p) origin

section Pieces

variable {surroundings : Surroundings} {photo : Photo} {now : Binary64} {p : Placeholder}
  {pattern text r : Text}

theorem text_isInfix_of_mem_scan {piece : Piece} (h : piece ∈ scan pattern) :
    piece.text <:+: pattern := by
  have hwhole := (scan_cut pattern).flatMap_text
  rw [List.drop_zero] at hwhole
  rw [← hwhole, List.flatMap_def]
  exact List.infix_of_mem_flatten (List.mem_map_of_mem h)

theorem fallback_isInfix_of_mem_scan (h : .placeholder p ∈ scan pattern) :
    p.fallback <:+: pattern := by
  obtain ⟨i, j, htoken⟩ := mem_placeholders_iff_token.1 (mem_placeholders.2 h)
  obtain ⟨before, htext⟩ := Placeholder.exists_text_eq htoken.2
  have hfallback : p.fallback <:+: p.text := ⟨'\x7b' :: before, ['\x7d'], by simp [htext]⟩
  exact hfallback.trans (text_isInfix_of_mem_scan h)

variable [Pattern.CharacterNames]

theorem Placeholder.exists_gives (hp : p.Extracts) (h : p.outcome surroundings photo now = .ok r) :
    ∃ origin, p.Gives photo origin ∧ r = origin.written := by
  rcases legal_of_outcome hp h with
    ⟨rfl, hillegible⟩ | rfl | ⟨value, pattern, part, hselects, htakes, rfl⟩
  · exact ⟨.own p.text, .itself hillegible, rfl⟩
  · exact ⟨.own p.fallback, .fallback, rfl⟩
  · exact ⟨.taken part, .taken hselects htakes, rfl⟩

/-- **Each piece has an origin,** and the text is what they write one after the other. -/
theorem Piece.exists_origins {pieces : List Piece} (hp : ∀ p, .placeholder p ∈ pieces → p.Extracts)
    (h : expand (Placeholder.outcome surroundings photo now) pieces = .ok text) :
    ∃ origins, List.Forall₂ (Piece.Gives photo) pieces origins ∧
      text = origins.flatMap Origin.written := by
  induction pieces generalizing text with
  | nil => exact ⟨[], .nil, (Except.ok.inj h).symm⟩
  | cons piece rest ih =>
    have hrest : ∀ p, .placeholder p ∈ rest → p.Extracts :=
      fun p hmem => hp p (List.mem_cons_of_mem _ hmem)
    cases piece with
    | literal own =>
      rw [expand] at h
      cases hlater : expand (Placeholder.outcome surroundings photo now) rest with
      | error failure =>
        rw [hlater] at h
        cases h
      | ok later =>
        rw [hlater] at h
        obtain ⟨origins, horigins, rfl⟩ := ih hrest hlater
        exact ⟨.own own :: origins, .cons (.literal own) horigins, (Except.ok.inj h).symm⟩
    | placeholder p =>
      obtain ⟨r, hr, h⟩ := exists_of_bind_ok h
      obtain ⟨later, hlater, h⟩ := exists_of_bind_ok h
      obtain ⟨origin, hgives, rfl⟩ := Placeholder.exists_gives (hp p List.mem_cons_self) hr
      obtain ⟨origins, horigins, rfl⟩ := ih hrest hlater
      exact ⟨origin :: origins, .cons (.placeholder hgives) horigins, (Except.ok.inj h).symm⟩

/-- Own text of a template stands in its pattern. -/
theorem isInfix_of_gives {piece : Piece} (h : piece ∈ scan pattern)
    (hgives : piece.Gives photo (.own text)) : text <:+: pattern := by
  cases hgives with
  | literal => exact text_isInfix_of_mem_scan h
  | placeholder hgives =>
    cases hgives with
    | itself => exact text_isInfix_of_mem_scan h
    | fallback => exact fallback_isInfix_of_mem_scan h

theorem exists_piece_of_mem {pieces : List Piece} {origins : List Origin}
    (h : List.Forall₂ (Piece.Gives photo) pieces origins) {origin : Origin} (hmem : origin ∈ origins) :
    ∃ piece ∈ pieces, piece.Gives photo origin := by
  induction h with
  | nil => cases hmem
  | cons hgives _ ih =>
    rcases List.mem_cons.1 hmem with rfl | hmem
    · exact ⟨_, List.mem_cons_self, hgives⟩
    · obtain ⟨piece, hpiece, hgives'⟩ := ih hmem
      exact ⟨piece, List.mem_cons_of_mem _ hpiece, hgives'⟩

end Pieces

/-! ## Results -/

theorem filter_isBrace_flatMap (origins : List Origin) :
    (origins.flatMap Origin.written).filter isBrace =
      origins.flatMap fun origin => origin.source.filter isBrace := by
  simp only [List.filter_flatMap, Origin.filter_isBrace_written]

/-- What is taken from the photo stands in the result as a legal name. -/
theorem isInfix_of_taken {origins : List Origin} {part : Text} (h : .taken part ∈ origins) :
    legalName part <:+: normalizePath (origins.flatMap Origin.written) := by
  obtain ⟨before, after, rfl⟩ := List.append_of_mem h
  rw [List.flatMap_append, List.flatMap_cons]
  exact Path.plain_isInfix_normalizePath (plain_legalName part) _ _

namespace Template

section Results

variable [Pattern.CharacterNames] {surroundings : Surroundings} {photo : Photo} {pattern text : Text}
  {visit : Visit}

theorem exists_origins_of_result (hp : ∀ p ∈ placeholders pattern, p.Extracts)
    (h : result surroundings photo pattern visit = .ok (some text)) :
    ∃ origins, List.Forall₂ (Piece.Gives photo) (scan pattern) origins ∧
      ((valueOfPieces surroundings photo (scan pattern)).run.run { visit := visit }).1 =
        .ok (origins.flatMap Origin.written) ∧
      text = normalizePath (origins.flatMap Origin.written) := by
  have hpieces : ∀ p, .placeholder p ∈ scan pattern → p.Extracts :=
    fun p hmem => hp p (mem_placeholders.2 hmem)
  have hvalue := (Yields.valueOfPieces surroundings (.finite 0) hpieces { visit := visit }
    (reflects_new photo)).1
  rw [result_eq, hvalue] at h
  rw [hvalue]
  cases hwritten : expand (Placeholder.outcome surroundings photo (.finite 0)) (scan pattern) with
  | error failure =>
    rw [hwritten] at h
    cases h
  | ok written =>
    rw [hwritten] at h
    obtain ⟨origins, horigins, rfl⟩ := Piece.exists_origins hpieces hwritten
    exact ⟨origins, horigins, rfl, (Option.some.inj (Except.ok.inj h)).symm⟩

/-- **Extracted values are legal names and are not read again.** At every placeholder of an evaluation what has
been kept is the photo's. What stands for a placeholder of metadata or of a directory is its own text exactly if
that cannot be read; otherwise it is the default, or a part of the value with its illegal characters replaced.
So if a template has only such placeholders, what is written for its pieces holds separators only where it
stands in the pattern, and the braces of values are kept. A template for a file name that must not be expanded
takes nothing from the photo. -/
theorem evaluate_extracts (surroundings : Surroundings) (photo : Photo) :
    (Reflects photo {} ∧ ∀ p : Placeholder, Preserves photo (p.value surroundings photo)) ∧
    (∀ text start p state r, Placeholder.parse? text start = some p → p.Extracts →
      Reflects photo state.snapshot → ((p.value surroundings photo).run.run state).1 = .ok r →
        (r = p.text ↔ p.Illegible photo) ∧
          (r = p.text ∨ r = p.fallback ∨
            ∃ value pattern part, p.Selects photo value pattern ∧
              Placeholder.Takes value pattern part ∧ part <:+: value ∧ r = legalName part ∧
              (∀ c ∈ r, c ∉ illegalCharacters) ∧ r.length = part.length)) ∧
    ∀ (template : Template) pattern visit text, template.pattern = some pattern →
      (∀ p ∈ placeholders pattern, p.Extracts) →
      ((template.evaluate surroundings photo).run.run visit).1 = .ok (some text) →
        template.hasSeparators = true ∧ text = missing ∨
        template.hasSeparators = false ∧
        ∃ origins, List.Forall₂ (Piece.Gives photo) (scan pattern) origins ∧
          ((valueOfPieces surroundings photo (scan pattern)).run.run { visit := visit }).1 =
            .ok (origins.flatMap Origin.written) ∧
          text = normalizePath (origins.flatMap Origin.written) ∧
          (∀ origin ∈ origins, ¬ Plain origin.written →
            ∃ own, origin = .own own ∧ own <:+: pattern) ∧
          (∀ part, .taken part ∈ origins → legalName part <:+: text) ∧
          text.filter isBrace = origins.flatMap fun origin => origin.source.filter isBrace := by
  refine ⟨⟨reflects_new photo, Preserves.value surroundings⟩,
    fun _ _ _ _ _ h hp hstate hr => Placeholder.value_legal h hp hstate hr, ?_⟩
  intro template pattern visit text hpattern hp htext
  cases hseparators : template.hasSeparators with
  | true =>
    rw [evaluate_of_hasSeparators hseparators] at htext
    exact .inl ⟨rfl, (Option.some.inj (Except.ok.inj htext)).symm⟩
  | false =>
    refine .inr ⟨rfl, ?_⟩
    rw [evaluate_of_pattern hpattern hseparators] at htext
    obtain ⟨origins, horigins, hwritten, rfl⟩ := exists_origins_of_result hp htext
    refine ⟨origins, horigins, hwritten, rfl, fun origin hmem hseparator => ?_,
      fun part hmem => isInfix_of_taken hmem, ?_⟩
    · cases origin with
      | own own =>
        obtain ⟨piece, hpiece, hgives⟩ := exists_piece_of_mem horigins hmem
        exact ⟨own, rfl, isInfix_of_gives hpiece hgives⟩
      | taken part => exact absurd (plain_legalName part) hseparator
    · rw [Path.filter_normalizePath not_isBrace_of_isSeparator, filter_isBrace_flatMap]

end Results

/-- The placeholder for the title. -/
def titlePlaceholder : Placeholder where
  category := .formatted
  args := "title".toList
  default := none
  text := "\x7bLrFM:title\x7d".toList
  start := 0

attribute [local instance] Pattern.CharacterNames.common

/-- A title that looks like a placeholder is not taken for one. -/
theorem evaluate_extracts_braced :
    ¬ titlePlaceholder.Illegible braced ∧
      ∃ origins, List.Forall₂ (Piece.Gives braced)
          (scan "x/\x7bLrFM:title\x7d/\x7bPath:1\x7d".toList) origins ∧
        (∀ part, .taken part ∈ origins → legalName part <:+: "x/a\x7b-\x7dPath-1\x7d/raw".toList) ∧
        "\x7b\x7d\x7d".toList = origins.flatMap fun origin => origin.source.filter isBrace := by
  obtain ⟨-, hvalue, htemplate⟩ := evaluate_extracts {} braced
  constructor
  · intro hillegible
    have htitle := (hvalue titlePlaceholder.text 0 titlePlaceholder { visit := epoch }
      "a\x7b-\x7dPath-1\x7d".toList (by decide +kernel) (.inl rfl) (reflects_new braced)
      (ok_of_toOption (by decide +kernel))).1.2 hillegible
    exact absurd htitle (by decide)
  · rcases htemplate (ofPattern "x/\x7bLrFM:title\x7d/\x7bPath:1\x7d".toList) _ epoch
        "x/a\x7b-\x7dPath-1\x7d/raw".toList rfl (by decide +kernel) (ok_of_toOption (by decide +kernel))
      with ⟨hseparators, -⟩ | ⟨-, origins, horigins, -, -, -, htaken, hbraces⟩
    · exact absurd hseparators (by decide)
    · exact ⟨origins, horigins, htaken, hbraces⟩

end Template

end PhotoPublish
