import PhotoPublish.Proofs.Collection.Path
import PhotoPublish.Proofs.Number.Reading
import PhotoPublish.Proofs.Template.Matching

/-!
# What becomes of a placeholder

A malformed placeholder stands for itself and one without a value for its default. Some problems are not
caught, and then there is no text for the placeholder. `Placeholder.Malformed`, `Placeholder.Unresolvable`
and `Placeholder.Escapes` say which it is by the arguments, the photo and the time that the clock shows, and
nothing of how a placeholder is evaluated.

* `Placeholder.outcome_of_malformed`, `Placeholder.outcome_of_unresolvable`: the text in the first two
  cases.
* `Placeholder.outcome_error_iff`: there is no text exactly if the placeholder escapes.
-/

set_option autoImplicit false

namespace PhotoPublish

/-! ## Photos -/

namespace Photo

/-- The path and the names of the collections have the types that the host promises. The other values may
have any type. -/
structure WellTyped (photo : Photo) : Prop where
  path : photo.raw.get pathKey = .null ∨ ∃ path, photo.raw.get pathKey = .text path
  names : ∀ lineage ∈ photo.collections.getD [],
    ∀ collection ∈ lineage.self :: lineage.ancestors, collection.name ≠ none

variable {photo : Photo}

theorem WellTyped.pathSegments (h : photo.WellTyped) :
    ∃ segments, photo.pathSegments = .ok segments := by
  unfold Photo.pathSegments
  rcases h.path with hnull | ⟨path, htext⟩
  · rw [hnull]
    exact ⟨_, rfl⟩
  · rw [htext]
    exact ⟨_, rfl⟩

theorem exists_collectionPaths (h : ∀ lineage ∈ photo.collections.getD [],
    ∀ collection ∈ lineage.self :: lineage.ancestors, collection.name ≠ none) :
    ∃ paths, photo.collectionPaths = .ok paths :=
  exists_mapM_ok fun lineage hmem => Lineage.exists_path (h lineage hmem)

end Photo

/-! ## What becomes of a placeholder -/

namespace Placeholder

/-- A text that passes for a level: digits, which may lie outside positional notation. -/
def IsLevel (key : Text) : Prop :=
  key ≠ [] ∧ key.all isDigitCharacter = true

/-- The key of a placeholder with a key of word characters. -/
def word (p : Placeholder) : Text :=
  (splitArguments .word p.args).1

/-- What follows that key. -/
def afterWord (p : Placeholder) : Option Text :=
  (splitArguments .word p.args).2

/-- The key of a placeholder with a level. -/
def level (p : Placeholder) : Text :=
  (splitArguments .level p.args).1

/-- What follows the level. -/
def afterLevel (p : Placeholder) : Option Text :=
  (splitArguments .level p.args).2

variable [Pattern.CharacterNames] (surroundings : Surroundings) (photo : Photo) (now : Binary64)
  (p : Placeholder)

/-- A value that a placeholder takes from the photo, with the pattern for what to take of it. -/
inductive Selects : Text → Option Text → Prop
  | formatted {value : Text} : p.category = .formatted →
      metadataText (photo.formattedFields.get p.word) = .ok value → Selects value p.afterWord
  | path {segments : List Text} : p.category = .path → p.level ≠ [] →
      p.level.all isDecimal = true → p.level.length ≤ Numeral.longest →
      photo.pathSegments = .ok segments →
      Selects (directoryAt segments (numeralValue p.level)) p.afterLevel

/-- The values of collections that a placeholder looks through, with the filter. -/
inductive Lists : List Text → Option Text → Prop
  | collections {part : CollectionPart} {paths : List Text} : p.category = .collection →
      CollectionPart.ofName? p.word = some part → photo.collectionPaths = .ok paths →
      Lists (paths.map part.of) p.afterWord

/-- A pattern that is put to use. -/
inductive Searches : Text → Prop
  | value {value pattern : Text} : p.Selects photo value (some pattern) → value ≠ [] →
      Searches pattern
  | collections {values : List Text} {filter : Text} : p.Lists photo values (some filter) →
      values ≠ [] → Searches filter

/-- A placeholder that stands for itself. -/
inductive Malformed : Prop
  | undated {failure : Failure} : p.category = .date → p.args.trim ≠ [] →
      photo.Undated surroundings now failure → failure.family = .invalidValue → Malformed
  | format {time : Binary64} : p.category = .date → p.args.trim ≠ [] →
      photo.timeAt surroundings now = .ok time → p.args.contains '\x00' = true → Malformed
  | level : p.category = .path → ¬ IsLevel p.level → Malformed
  | part : p.category = .collection → CollectionPart.ofName? p.word = none → Malformed
  | pattern {pattern : Text} : p.Searches photo pattern →
      Pattern.read pattern = .error .malformed → Malformed

/-- A placeholder that stands for its default. -/
inductive Unresolvable : Prop
  | blank : p.category = .date → p.args.trim = [] → Unresolvable
  | emptyDate {time : Binary64} : p.category = .date → p.args.trim ≠ [] →
      photo.timeAt surroundings now = .ok time →
      Timestamp.format surroundings.zone (.real time) p.args = .ok [] → Unresolvable
  | empty {pattern : Option Text} : p.Selects photo [] pattern → Unresolvable
  | noMatch {value pattern : Text} : p.Selects photo value (some pattern) → value ≠ [] →
      Pattern.extract value pattern = .ok none → Unresolvable
  | noCollection {values : List Text} {filter : Option Text} : p.Lists photo values filter →
      firstMatch filter values = .ok none → Unresolvable

/-- A placeholder whose problem is not caught. A date is no invalid value but out of some range, or of the
wrong type; a level is no numeral after all; a whole number is too long to be written; a pattern has a fault
that is none of the notation. -/
inductive Escapes : Prop
  | date {failure : Failure} : p.category = .date → p.args.trim ≠ [] →
      photo.Undated surroundings now failure → failure.family ≠ .invalidValue → Escapes
  | level : p.category = .path → IsLevel p.level →
      (p.level.all isDecimal = false ∨ Numeral.longest < p.level.length) → Escapes
  | longWhole : p.category = .formatted →
      (photo.formattedFields.get p.word).hasLongWhole = true → Escapes
  | pattern {pattern : Text} {fault : Pattern.Fault} : p.Searches photo pattern →
      Pattern.read pattern = .error fault → fault ≠ .malformed → Escapes

variable {surroundings : Surroundings} {photo : Photo} {now : Binary64} {p : Placeholder}

/-! ### Selected values -/

theorem extracted_of_ne_nil {value pattern : Text} (h : value ≠ []) :
    p.extracted value (some pattern) =
      p.orSelf ((Pattern.extract value pattern).map fun
        | some part => legalName part
        | none => p.fallback) := by
  unfold extracted
  exact if_neg (by simpa using h)

theorem extracted_error {value : Text} {pattern : Option Text} {failure : Failure}
    (h : p.extracted value pattern = .error failure) :
    value ≠ [] ∧ ∃ text fault, pattern = some text ∧ Pattern.read text = .error fault ∧
      fault ≠ .malformed := by
  cases hvalue : value with
  | nil =>
    rw [hvalue] at h
    cases h
  | cons c rest =>
    rw [hvalue] at h
    refine ⟨nofun, ?_⟩
    cases pattern with
    | none => cases h
    | some text =>
      rw [extracted_of_ne_nil (List.cons_ne_nil c rest)] at h
      obtain ⟨fault, hfault, hne⟩ := orSelf_error h
      cases hextract : Pattern.extract (c :: rest) text with
      | ok found =>
        rw [hextract] at hfault
        cases hfault
      | error fault' =>
        rw [hextract] at hfault
        obtain rfl : fault' = fault := Except.error.inj hfault
        exact ⟨text, fault', rfl, extract_error_iff.1 hextract, hne⟩

omit [Pattern.CharacterNames] in
theorem metadataText_error_iff {value : Value} :
    (∃ failure, metadataText value = .error failure) ↔ value.hasLongWhole = true := by
  unfold metadataText
  split
  · exact iff_of_false not_error_of_ok nofun
  · split
    · rename_i hlong
      exact iff_of_true ⟨_, rfl⟩ hlong
    · rename_i hlong
      exact iff_of_false not_error_of_ok hlong

/-! ### The categories -/

theorem outcome_of_formatted (hcategory : p.category = .formatted) :
    p.outcome surroundings photo now =
      metadataText (photo.formattedFields.get p.word) >>= fun value =>
        p.extracted value p.afterWord := by
  rw [outcome, hcategory]
  rfl

theorem pathOutcome_eq : p.pathOutcome photo =
    if (p.level.isEmpty || !p.level.all isDigitCharacter) = true then .ok p.text
    else Numeral.read 10 p.level >>= fun level => photo.pathSegments >>= fun segments =>
      p.extracted (directoryAt segments level) p.afterLevel := rfl

omit [Pattern.CharacterNames] in
theorem isLevel_iff {key : Text} :
    IsLevel key ↔ ¬ (key.isEmpty || !key.all isDigitCharacter) = true := by
  simp [IsLevel]

theorem outcome_of_level (hcategory : p.category = .path) (hlevel : IsLevel p.level) :
    p.outcome surroundings photo now =
      Numeral.read 10 p.level >>= fun level => photo.pathSegments >>= fun segments =>
        p.extracted (directoryAt segments level) p.afterLevel := by
  rw [outcome, hcategory]
  simp only
  rw [pathOutcome_eq, if_neg (isLevel_iff.1 hlevel)]

theorem outcome_of_not_level (hcategory : p.category = .path) (hlevel : ¬ IsLevel p.level) :
    p.outcome surroundings photo now = .ok p.text := by
  rw [outcome, hcategory]
  simp only
  rw [pathOutcome_eq, if_pos (Classical.not_not.1 (mt isLevel_iff.2 hlevel))]

theorem outcome_of_collection (hcategory : p.category = .collection) :
    p.outcome surroundings photo now =
      match CollectionPart.ofName? p.word with
      | none => .ok p.text
      | some part => photo.collectionPaths >>= fun paths =>
        p.orSelf ((firstMatch p.afterWord (paths.map part.of)).map (·.getD p.fallback)) := by
  rw [outcome, hcategory]
  rfl

/-- Both kinds of values are extracted in the same way. -/
theorem outcome_of_selects {value : Text} {pattern : Option Text}
    (h : p.Selects photo value pattern) :
    p.outcome surroundings photo now = p.extracted value pattern := by
  cases h with
  | formatted hcategory hvalue =>
    rw [outcome_of_formatted hcategory, hvalue]
    rfl
  | path hcategory hne hdecimal hlength hsegments =>
    have hlevel : IsLevel p.level := ⟨hne, Numeral.all_isDigitCharacter_of_isDecimal hdecimal⟩
    rw [outcome_of_level hcategory hlevel, Numeral.read_decimals hne hdecimal hlength, hsegments]
    rfl

theorem outcome_of_lists {values : List Text} {filter : Option Text}
    (h : p.Lists photo values filter) :
    p.outcome surroundings photo now =
      p.orSelf ((firstMatch filter values).map (·.getD p.fallback)) := by
  cases h with
  | collections hcategory hpart hpaths =>
    rw [outcome_of_collection hcategory, hpart, hpaths]
    rfl

theorem outcome_of_searches {pattern : Text} {fault : Pattern.Fault}
    (h : p.Searches photo pattern) (hread : Pattern.read pattern = .error fault) :
    p.outcome surroundings photo now = p.orSelf (.error fault) := by
  cases h with
  | value hselects hne =>
    rw [outcome_of_selects hselects, extracted_of_ne_nil hne, extract_error_iff.2 hread]
    rfl
  | collections hlists hne =>
    rw [outcome_of_lists hlists, firstMatch_fault hread hne]
    rfl

/-! ### Dates -/

theorem outcome_of_date (hcategory : p.category = .date) (hargs : p.args.trim ≠ []) :
    p.outcome surroundings photo now =
      orIfInvalid p.text (p.dateText surroundings photo now) := by
  rw [outcome, hcategory]
  simp only
  rw [dateOutcome, if_neg (by simpa using hargs)]

omit [Pattern.CharacterNames] in
theorem dateText_of_undated {failure : Failure} (h : photo.Undated surroundings now failure) :
    p.dateText surroundings photo now = .error failure := by
  rw [dateText, Photo.timeAt_error_iff.2 h]
  rfl

omit [Pattern.CharacterNames] in
theorem dateText_of_ok {time : Binary64} (h : photo.timeAt surroundings now = .ok time) :
    p.dateText surroundings photo now =
      (Timestamp.format surroundings.zone (.real time) p.args).map fun text =>
        if text.isEmpty then p.fallback else text := by
  rw [dateText, h]
  simp only [bind, Except.bind]
  cases Timestamp.format surroundings.zone (.real time) p.args <;> rfl

omit [Pattern.CharacterNames] in
/-- **Only a NUL keeps a format from writing the capture time.** -/
theorem format_of_timeAt {time : Binary64} (h : photo.timeAt surroundings now = .ok time)
    (shape : Text) : ∃ text, Timestamp.format surroundings.zone (.real time) shape =
      if shape.contains '\x00' = true then .error .nulInText else .ok text := by
  obtain ⟨found, hfound⟩ := Photo.clocked_of_timeAt h
  rw [Timestamp.format_eq, hfound]
  exact ⟨_, rfl⟩

/-! ### The four ends -/

theorem outcome_of_malformed (h : p.Malformed surroundings photo now) :
    p.outcome surroundings photo now = .ok p.text := by
  cases h with
  | undated hcategory hargs hundated hfamily =>
    rw [outcome_of_date hcategory hargs, dateText_of_undated hundated, orIfInvalid, if_pos hfamily]
  | format hcategory hargs htime hnul =>
    obtain ⟨text, hformat⟩ := format_of_timeAt htime p.args
    rw [outcome_of_date hcategory hargs, dateText_of_ok htime, hformat, if_pos hnul]
    rfl
  | level hcategory hlevel => exact outcome_of_not_level hcategory hlevel
  | part hcategory hpart => rw [outcome_of_collection hcategory, hpart]
  | pattern hsearches hread =>
    rw [outcome_of_searches hsearches hread]
    exact orSelf_malformed

theorem outcome_of_unresolvable (h : p.Unresolvable surroundings photo now) :
    p.outcome surroundings photo now = .ok p.fallback := by
  cases h with
  | blank hcategory hargs =>
    rw [outcome, hcategory]
    simp only
    rw [dateOutcome, hargs]
    rfl
  | emptyDate hcategory hargs htime htext =>
    rw [outcome_of_date hcategory hargs, dateText_of_ok htime, htext]
    rfl
  | empty hselects =>
    rw [outcome_of_selects hselects]
    rfl
  | noMatch hselects hne hextract =>
    rw [outcome_of_selects hselects, extracted_of_ne_nil hne, hextract]
    rfl
  | noCollection hlists hmatch =>
    rw [outcome_of_lists hlists, hmatch]
    rfl

theorem outcome_of_escapes (h : p.Escapes surroundings photo now) :
    ∃ failure, p.outcome surroundings photo now = .error failure := by
  cases h with
  | @date failure hcategory hargs hundated hfamily =>
    refine ⟨failure, ?_⟩
    rw [outcome_of_date hcategory hargs, dateText_of_undated hundated, orIfInvalid, if_neg hfamily]
  | level hcategory hlevel hnumeral =>
    obtain ⟨failure, hread, -⟩ := Numeral.read_digitCharacters hlevel.2 hnumeral
    refine ⟨failure, ?_⟩
    rw [outcome_of_level hcategory hlevel, hread]
    rfl
  | longWhole hcategory hlong =>
    obtain ⟨failure, hfailure⟩ := metadataText_error_iff.2 hlong
    refine ⟨failure, ?_⟩
    rw [outcome_of_formatted hcategory, hfailure]
    rfl
  | pattern hsearches hread hne =>
    rw [outcome_of_searches hsearches hread]
    exact orSelf_fault hne

/-- What keeps an extracted value from being put in is a pattern. -/
theorem escapes_of_extracted {value : Text} {pattern : Option Text} {failure : Failure}
    (hselects : p.Selects photo value pattern) (h : p.extracted value pattern = .error failure) :
    p.Escapes surroundings photo now := by
  obtain ⟨hne, text, fault, rfl, hread, hfault⟩ := extracted_error h
  exact .pattern (.value hselects hne) hread hfault

theorem escapes_of_date {failure : Failure} (hcategory : p.category = .date)
    (h : p.outcome surroundings photo now = .error failure) : p.Escapes surroundings photo now := by
  by_cases hargs : p.args.trim = []
  · rw [outcome_of_unresolvable (.blank hcategory hargs)] at h
    cases h
  · rw [outcome_of_date hcategory hargs] at h
    cases htime : photo.timeAt surroundings now with
    | error failure' =>
      have hundated := Photo.timeAt_error_iff.1 htime
      refine .date hcategory hargs hundated fun hfamily => ?_
      rw [dateText_of_undated hundated, orIfInvalid, if_pos hfamily] at h
      cases h
    | ok time =>
      rw [dateText_of_ok htime] at h
      obtain ⟨text, hformat⟩ := format_of_timeAt htime p.args
      rw [hformat] at h
      split at h <;> cases h

theorem escapes_of_formatted {failure : Failure} (hcategory : p.category = .formatted)
    (h : p.outcome surroundings photo now = .error failure) : p.Escapes surroundings photo now := by
  cases hvalue : metadataText (photo.formattedFields.get p.word) with
  | error failure' => exact .longWhole hcategory (metadataText_error_iff.1 ⟨failure', hvalue⟩)
  | ok value =>
    have hselects : p.Selects photo value p.afterWord := .formatted hcategory hvalue
    rw [outcome_of_selects hselects] at h
    exact escapes_of_extracted hselects h

theorem escapes_of_path (hphoto : photo.WellTyped) {failure : Failure}
    (hcategory : p.category = .path)
    (h : p.outcome surroundings photo now = .error failure) : p.Escapes surroundings photo now := by
  by_cases hlevel : IsLevel p.level
  · by_cases hnumeral : p.level.all isDecimal = false ∨ Numeral.longest < p.level.length
    · exact .level hcategory hlevel hnumeral
    · obtain ⟨hdecimal, hlength⟩ := not_or.1 hnumeral
      obtain ⟨segments, hsegments⟩ := hphoto.pathSegments
      have hselects := Selects.path hcategory hlevel.1 (by simpa using hdecimal)
        (Nat.le_of_not_lt hlength) hsegments
      rw [outcome_of_selects hselects] at h
      exact escapes_of_extracted hselects h
  · rw [outcome_of_not_level hcategory hlevel] at h
    cases h

theorem escapes_of_collection (hphoto : photo.WellTyped) {failure : Failure}
    (hcategory : p.category = .collection)
    (h : p.outcome surroundings photo now = .error failure) : p.Escapes surroundings photo now := by
  cases hpart : CollectionPart.ofName? p.word with
  | none =>
    rw [outcome_of_malformed (.part hcategory hpart)] at h
    cases h
  | some part =>
    obtain ⟨paths, hpaths⟩ := Photo.exists_collectionPaths hphoto.names
    have hlists := Lists.collections hcategory hpart hpaths
    rw [outcome_of_lists hlists] at h
    obtain ⟨fault, hfault, hne⟩ := orSelf_error h
    cases hmatch : firstMatch p.afterWord (paths.map part.of) with
    | ok found =>
      rw [hmatch] at hfault
      cases hfault
    | error fault' =>
      rw [hmatch] at hfault
      obtain rfl : fault' = fault := Except.error.inj hfault
      obtain ⟨hvalues, pattern, hfilter, hread⟩ := firstMatch_error hmatch
      rw [hfilter] at hlists
      exact .pattern (.collections hlists hvalues) hread hne

/-- **A placeholder has no text exactly if it escapes.** -/
theorem outcome_error_iff (hphoto : photo.WellTyped) :
    (∃ failure, p.outcome surroundings photo now = .error failure) ↔
      p.Escapes surroundings photo now := by
  refine ⟨?_, outcome_of_escapes⟩
  rintro ⟨failure, h⟩
  cases hcategory : p.category with
  | date => exact escapes_of_date hcategory h
  | formatted => exact escapes_of_formatted hcategory h
  | path => exact escapes_of_path hphoto hcategory h
  | collection => exact escapes_of_collection hphoto hcategory h

end Placeholder

end PhotoPublish
