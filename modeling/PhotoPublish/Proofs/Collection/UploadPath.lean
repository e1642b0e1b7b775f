import PhotoPublish.Collection.Lineage
import PhotoPublish.Pattern.CharacterName
import PhotoPublish.Proofs.Template.Alike

/-!
# Upload paths of collections

The upload path of a collection is a template made of the settings of the collection and of the sets around
it. Each setting is brought into the normal form of paths, its placeholders not excepted.

* `Lineage.uploadPath_eq`: the upload path as a text, for settings that are null or texts.
* `Lineage.uploadPath_levels`: its segments are those of the settings, one setting after the other, and so
  those of the album of the set around it with the own setting after them.
* `Lineage.uploadPath_segments`: the upload path of settings that leave no brace open makes the segments of
  the settings with their placeholders tidied. These are the segments of the settings themselves if the
  arguments of their placeholders are tidy.
-/

set_option autoImplicit false

namespace PhotoPublish

/-! ## Segments one after the other -/

/-- The segments of one result in front of those of another. -/
def ahead (first second : Except Failure (List Text)) : Except Failure (List Text) :=
  first >>= fun segments => (segments ++ ·) <$> second

theorem ahead_assoc (first second third : Except Failure (List Text)) :
    ahead (ahead first second) third = ahead first (ahead second third) := by
  cases first with
  | error failure => rfl
  | ok a =>
    cases second with
    | error failure => rfl
    | ok b =>
      cases third with
      | error failure => rfl
      | ok c => exact congrArg Except.ok (List.append_assoc a b c)

theorem nil_ahead (second : Except Failure (List Text)) : ahead (.ok []) second = second := by
  cases second <;> rfl

/-- The segments that patterns make, one pattern after the other. -/
def gathered (read : Text → Except Failure (List Text)) (patterns : List Text) :
    Except Failure (List Text) :=
  List.flatten <$> patterns.mapM read

section Gathering

variable {read other : Text → Except Failure (List Text)}

theorem gathered_append (xs ys : List Text) :
    gathered read (xs ++ ys) = ahead (gathered read xs) (gathered read ys) := by
  unfold gathered
  rw [List.mapM_append]
  cases xs.mapM read with
  | error failure => rfl
  | ok a =>
    cases ys.mapM read with
    | error failure => rfl
    | ok b => exact congrArg Except.ok List.flatten_append

theorem gathered_singleton (pattern : Text) : gathered read [pattern] = read pattern := by
  unfold gathered
  rw [List.mapM_cons, List.mapM_nil]
  cases read pattern with
  | error failure => rfl
  | ok segments => exact congrArg Except.ok (List.append_nil segments)

theorem gathered_congr {patterns : List Text}
    (h : ∀ pattern ∈ patterns, read pattern = other pattern) :
    gathered read patterns = gathered other patterns := by
  induction patterns with
  | nil => rfl
  | cons pattern rest ih =>
    obtain ⟨hpattern, hrest⟩ := List.forall_mem_cons.1 h
    rw [← List.singleton_append, gathered_append, gathered_append, gathered_singleton,
      gathered_singleton, hpattern, ih hrest]

end Gathering

/-! ## Settings -/

namespace Value

/-- The pattern that a setting is; null is none. -/
def patterns : Value → List Text
  | text pattern => [pattern]
  | _ => []

theorem patterns_null : null.patterns = [] := rfl

theorem patterns_text (pattern : Text) : (text pattern).patterns = [pattern] := rfl

/-- Null, or a pattern that leaves no brace open. -/
def IsClosed : Value → Prop
  | null => True
  | text pattern => lastBrace? pattern ≠ some '\x7b'
  | _ => False

instance : (setting : Value) → Decidable setting.IsClosed
  | null => isTrue trivial
  | text pattern => inferInstanceAs (Decidable (lastBrace? pattern ≠ some '\x7b'))
  | bool _ | whole _ | real _ | bytes _ | date _ | moment _ | list _ | map _ | enclosing _ => isFalse id

theorem IsClosed.of_mem_patterns {setting : Value} (h : setting.IsClosed) {pattern : Text}
    (hmem : pattern ∈ setting.patterns) : lastBrace? pattern ≠ some '\x7b' := by
  cases setting with
  | text own =>
    obtain rfl := List.mem_singleton.1 hmem
    exact h
  | null | bool | whole | real | bytes | date | moment | list | map | enclosing => cases hmem

/-- Null or a text. -/
def IsTextual : Value → Prop
  | null | text _ => True
  | _ => False

instance : (setting : Value) → Decidable setting.IsTextual
  | null | text _ => isTrue trivial
  | bool _ | whole _ | real _ | bytes _ | date _ | moment _ | list _ | map _ | enclosing _ => isFalse id

theorem IsClosed.isTextual {setting : Value} (h : setting.IsClosed) : setting.IsTextual := by
  cases setting with
  | null | text => trivial
  | bool | whole | real | bytes | date | moment | list | map | enclosing => exact h.elim

/-- The segments of a setting; null has none. -/
def segments (setting : Value) : List Text :=
  setting.patterns.flatMap Path.segments

end Value

namespace Lineage

/-- The patterns of the sets around a collection, the outermost first. -/
def basePatterns (sets : List Collection) : List Text :=
  (sets.map (·.setting Collection.baseDirectory)).reverse.flatMap Value.patterns

/-- The settings that make the upload path, the outermost set's first. -/
def settings (lineage : Lineage) : List Value :=
  (lineage.ancestors.map (·.setting Collection.baseDirectory)).reverse ++
    [lineage.self.ownDirectory]

/-- The patterns that make the upload path, the outermost set's first. -/
def patterns (lineage : Lineage) : List Text :=
  lineage.settings.flatMap Value.patterns

theorem patterns_eq (lineage : Lineage) :
    lineage.patterns = basePatterns lineage.ancestors ++ lineage.self.ownDirectory.patterns := by
  rw [patterns, settings, List.flatMap_append, List.flatMap_singleton]
  rfl

theorem basePatterns_cons (set : Collection) (outer : List Collection) :
    basePatterns (set :: outer) =
      basePatterns outer ++ (set.setting Collection.baseDirectory).patterns := by
  rw [basePatterns, List.map_cons, List.reverse_cons, List.flatMap_append, List.flatMap_singleton]
  rfl

/-! ## Base directories -/

variable {set : Collection} {outer sets : List Collection} {path base : Text}

theorem withBases_of_null (h : set.setting Collection.baseDirectory = .null) :
    withBases (.text path) (set :: outer) = withBases (.text path) outer := by
  rw [withBases, h]
  rfl

theorem withBases_of_empty (h : set.setting Collection.baseDirectory = .text base)
    (hempty : normalizePath base = []) :
    withBases (.text path) (set :: outer) = withBases (.text path) outer := by
  rw [withBases, h, normalizeValue, hempty]
  rfl

theorem withBases_of_text (h : set.setting Collection.baseDirectory = .text base)
    (hne : normalizePath base ≠ []) :
    withBases (.text path) (set :: outer) =
      withBases (.text (normalizePath base ++ '/' :: path)) outer := by
  obtain ⟨c, rest, hbase⟩ := List.exists_cons_of_ne_nil hne
  rw [withBases, h, normalizeValue, hbase]
  rfl

/-- What base directories put in front of a path: each one its normal form with a slash, unless that form
is empty. -/
def leading (patterns : List Text) : Text :=
  patterns.flatMap fun pattern =>
    if (normalizePath pattern).isEmpty then [] else normalizePath pattern ++ ['/']

theorem leading_nil : leading [] = [] := rfl

theorem leading_cons_of_empty {patterns : List Text} (hempty : normalizePath base = []) :
    leading (base :: patterns) = leading patterns := by
  rw [leading, List.flatMap_cons, hempty]
  rfl

theorem leading_cons_of_ne_nil {patterns : List Text} (hne : normalizePath base ≠ []) :
    leading (base :: patterns) = normalizePath base ++ '/' :: leading patterns := by
  rw [leading, List.flatMap_cons, if_neg (by simpa using hne), List.append_assoc]
  rfl

theorem leading_append (xs ys : List Text) : leading (xs ++ ys) = leading xs ++ leading ys :=
  List.flatMap_append

/-- **What the sets around a path put in front of it.** -/
theorem withBases_eq (hsets : ∀ set ∈ sets, (set.setting Collection.baseDirectory).IsTextual) :
    withBases (.text path) sets = .ok (.text (leading (basePatterns sets) ++ path)) := by
  induction sets generalizing path with
  | nil => rfl
  | cons set outer ih =>
    obtain ⟨hset, houter⟩ := List.forall_mem_cons.1 hsets
    rw [basePatterns_cons, leading_append]
    cases hsetting : set.setting Collection.baseDirectory with
    | null =>
      rw [withBases_of_null hsetting, ih houter, Value.patterns_null, leading_nil, List.append_nil]
    | text base =>
      rw [Value.patterns_text]
      by_cases hempty : normalizePath base = []
      · rw [withBases_of_empty hsetting hempty, ih houter, leading_cons_of_empty hempty, leading_nil,
          List.append_nil]
      · rw [withBases_of_text hsetting hempty, ih houter, leading_cons_of_ne_nil hempty, leading_nil,
          List.append_assoc, List.append_assoc, List.cons_append, List.nil_append]
    | bool | whole | real | bytes | date | moment | list | map | enclosing =>
      rw [hsetting] at hset
      exact hset.elim

/-- The setting that the upload path starts from; null stands for an empty one. -/
theorem ownDirectory_eq {own : Value} (hown : own.IsTextual) :
    (if own.isSet then own else .text []) = .text own.patterns.flatten := by
  cases own with
  | null => rfl
  | text path =>
    rw [Value.patterns_text, List.flatten_singleton]
    cases path <;> rfl
  | bool | whole | real | bytes | date | moment | list | map | enclosing => exact hown.elim

/-- The upload path of settings that are null or texts. -/
theorem uploadPath_eq {lineage : Lineage}
    (hsettings : ∀ setting ∈ lineage.settings, setting.IsTextual) :
    lineage.uploadPath =
      .ok (normalizePath
        (leading (basePatterns lineage.ancestors) ++ lineage.self.ownDirectory.patterns.flatten)) := by
  have hsets : ∀ set ∈ lineage.ancestors, (set.setting Collection.baseDirectory).IsTextual :=
    fun set hmem => hsettings _ <|
      List.mem_append_left _ (List.mem_reverse.2 (List.mem_map_of_mem hmem))
  have hown := hsettings lineage.self.ownDirectory (List.mem_append_right _ List.mem_cons_self)
  rw [uploadPath, ownDirectory_eq hown, withBases_eq hsets]
  rfl

/-! ## Levels -/

/-- A base directory adds its segments; one without segments leaves no separator. -/
theorem segments_leading_append (patterns : List Text) (path : Text) :
    Path.segments (leading patterns ++ path) =
      patterns.flatMap Path.segments ++ Path.segments path := by
  induction patterns with
  | nil => rfl
  | cons base rest ih =>
    rw [List.flatMap_cons, List.append_assoc, ← ih, ← Path.segments_normalizePath base]
    by_cases hempty : normalizePath base = []
    · rw [leading_cons_of_empty hempty, hempty]
      rfl
    · rw [leading_cons_of_ne_nil hempty, List.append_assoc, List.cons_append,
        Path.segments_append_cons Path.isSeparator_slash]

theorem segments_uploadPath {lineage : Lineage}
    (hsettings : ∀ setting ∈ lineage.settings, setting.IsTextual) {path : Text}
    (hpath : lineage.uploadPath = .ok path) :
    Path.segments path = lineage.settings.flatMap Value.segments := by
  rw [uploadPath_eq hsettings] at hpath
  have hflatten : Path.segments lineage.self.ownDirectory.patterns.flatten =
      lineage.self.ownDirectory.patterns.flatMap Path.segments := by
    cases lineage.self.ownDirectory with
    | text path => rw [Value.patterns_text, List.flatten_singleton, List.flatMap_singleton]
    | null | bool | whole | real | bytes | date | moment | list | map | enclosing => rfl
  have hpatterns : lineage.settings.flatMap Value.segments =
      lineage.patterns.flatMap Path.segments := List.flatMap_assoc.symm
  rw [← Except.ok.inj hpath, Path.segments_normalizePath, segments_leading_append, hflatten,
    hpatterns, patterns_eq, List.flatMap_append]

/-- The settings of a collection in a set are those of the set and its own. -/
theorem settings_cons {self parent : Collection} (hset : parent.isSet = true)
    (outer : List Collection) :
    settings ⟨self, parent :: outer⟩ = settings ⟨parent, outer⟩ ++ [self.ownDirectory] := by
  have hown : parent.ownDirectory = parent.setting Collection.baseDirectory := by
    rw [Collection.ownDirectory, if_pos hset]
  rw [settings, settings, hown, List.map_cons, List.reverse_cons]

/-- **Upload paths are built level by level.** If the settings are null or texts, there is an upload path.
Its segments are those of the settings, the outermost set's first, where null and a text of separators have
none. So a collection in a set has the segments of that set's own upload path and then those of its own
setting. The path holds no backslash and no empty segment, and no slash is at an end of it. -/
theorem uploadPath_levels {lineage : Lineage}
    (hsettings : ∀ setting ∈ lineage.settings, setting.IsTextual) :
    ∃ path, lineage.uploadPath = .ok path ∧
      Path.segments path = lineage.settings.flatMap Value.segments ∧
      (∀ base : Text, (∀ c ∈ base, isSeparator c = true) → (Value.text base).segments = []) ∧
      (∀ parent outer, lineage.ancestors = parent :: outer → parent.isSet = true →
        ∃ above, uploadPath ⟨parent, outer⟩ = .ok above ∧
          Path.segments path = Path.segments above ++ lineage.self.ownDirectory.segments) ∧
      Enclosed path ∧ ¬ ['/', '/'] <:+: path := by
  refine ⟨_, uploadPath_eq hsettings, segments_uploadPath hsettings (uploadPath_eq hsettings), ?_, ?_,
    enclosed_normalizePath _, Path.not_slashes_infix_normalizePath _⟩
  · intro base hbase
    rw [Value.segments, Value.patterns_text, List.flatMap_singleton]
    exact Path.segments_eq_nil_iff.2 hbase
  · intro parent outer hancestors hset
    have hlineage : lineage.settings = settings ⟨parent, outer⟩ ++ [lineage.self.ownDirectory] := by
      rw [← settings_cons hset outer, ← hancestors]
    have hparent : ∀ setting ∈ settings ⟨parent, outer⟩, setting.IsTextual :=
      fun setting hmem => hsettings setting (hlineage ▸ List.mem_append_left _ hmem)
    refine ⟨_, uploadPath_eq hparent, ?_⟩
    rw [segments_uploadPath hsettings (uploadPath_eq hsettings),
      segments_uploadPath hparent (uploadPath_eq hparent), hlineage, List.flatMap_append,
      List.flatMap_singleton]

/-- A collection in three sets: the base directory of one holds separators alone, another has none. -/
def stacked : Lineage :=
  { self :=
      { name := some "Beach".toList
        settings := some [(Collection.destination, .text "beach\\day 1/".toList)] }
    ancestors :=
      [{ name := some "July".toList, isSet := true,
          settings := some [(Collection.baseDirectory, .text "/\\".toList)] },
        { name := some "Holidays".toList, isSet := true },
        { name := some "Events".toList, isSet := true,
          settings := some [(Collection.baseDirectory, .text "/events//2020".toList)] }] }

/-- The levels of the outermost set, then those of the collection behind what is above it. -/
theorem uploadPath_levels_stacked :
    ∃ path, stacked.uploadPath = .ok path ∧
      Path.segments path = ["events", "2020", "beach", "day 1"].map String.toList ∧
      ∀ parent outer, stacked.ancestors = parent :: outer →
        ∃ above, uploadPath ⟨parent, outer⟩ = .ok above ∧
          Path.segments path = Path.segments above ++ ["beach", "day 1"].map String.toList := by
  obtain ⟨path, hpath, hsegments, -, hparent, -⟩ := @uploadPath_levels stacked (by decide +kernel)
  have hown : stacked.self.ownDirectory.segments = ["beach", "day 1"].map String.toList := by
    decide +kernel
  refine ⟨path, hpath, hsegments.trans (by decide +kernel), fun parent outer hancestors => ?_⟩
  rw [← hown]
  refine hparent parent outer hancestors ?_
  cases hancestors
  rfl

/-! ## Levels with placeholders in them -/

/-- Base directories add the segments of their patterns, written in normal form once more with the whole
path. -/
theorem segmentsWith_leading_append {value : Placeholder → Except Failure Text}
    (hvalue : ∀ p start, value { p with start := start } = value p) {patterns : List Text}
    (hpatterns : ∀ pattern ∈ patterns, lastBrace? pattern ≠ some '\x7b') (path : Text) :
    segmentsWith value (leading patterns ++ path) =
      ahead (gathered (segmentsWith (value ∘ Placeholder.tidied)) patterns)
        (segmentsWith value path) := by
  induction patterns with
  | nil => exact (nil_ahead _).symm
  | cons base rest ih =>
    obtain ⟨hbase, hrest⟩ := List.forall_mem_cons.1 hpatterns
    rw [← List.singleton_append, gathered_append, gathered_singleton, ahead_assoc, ← ih hrest,
      ← segmentsWith_normalizePath hvalue, List.singleton_append]
    by_cases hempty : normalizePath base = []
    · -- The pattern is made of separators alone and makes no segment.
      rw [leading_cons_of_empty hempty, hempty, segmentsWith_nil, nil_ahead]
    · have hclosed : lastBrace? (normalizePath base) ≠ some '\x7b' := by
        rw [lastBrace?_normalizePath]
        exact hbase
      rw [leading_cons_of_ne_nil hempty, List.append_assoc, List.cons_append,
        segmentsWith_append_slash hvalue hclosed]
      rfl

/-- **The upload path makes the segments of its settings with their placeholders tidied.** -/
theorem uploadPath_text {lineage : Lineage}
    (hsettings : ∀ setting ∈ lineage.settings, setting.IsClosed) :
    ∃ path, lineage.uploadPath = .ok path ∧
      ∀ value : Placeholder → Except Failure Text,
        (∀ p start, value { p with start := start } = value p) →
        segmentsWith value path =
          gathered (segmentsWith (value ∘ Placeholder.tidied)) lineage.patterns := by
  have hclosed : ∀ pattern ∈ lineage.patterns, lastBrace? pattern ≠ some '\x7b' := by
    intro pattern hmem
    obtain ⟨setting, hsetting, hpattern⟩ := List.mem_flatMap.1 hmem
    exact Value.IsClosed.of_mem_patterns (hsettings setting hsetting) hpattern
  rw [patterns_eq] at hclosed ⊢
  refine ⟨_, uploadPath_eq fun setting hmem => (hsettings setting hmem).isTextual,
    fun value hvalue => ?_⟩
  -- A base directory is brought into normal form twice, once with the whole path.
  have htwice : (value ∘ Placeholder.tidied) ∘ Placeholder.tidied = value ∘ Placeholder.tidied :=
    funext fun p => congrArg value p.tidied_tidied
  have hown : segmentsWith (value ∘ Placeholder.tidied) lineage.self.ownDirectory.patterns.flatten =
      gathered (segmentsWith (value ∘ Placeholder.tidied)) lineage.self.ownDirectory.patterns := by
    cases lineage.self.ownDirectory with
    | text path => rw [Value.patterns_text, List.flatten_singleton, gathered_singleton]
    | null | bool | whole | real | bytes | date | moment | list | map | enclosing => rfl
  rw [segmentsWith_normalizePath hvalue,
    segmentsWith_leading_append (fun p start => hvalue p.tidied start)
      fun pattern hmem => hclosed pattern (List.mem_append_left _ hmem),
    htwice, hown, gathered_append]

end Lineage

/-! ## Evaluations -/

namespace Template

/-- The segments of what an evaluation of a pattern gives. -/
def evaluatedSegments [Pattern.CharacterNames] (surroundings : Surroundings) (photo : Photo)
    (pattern : Text) (visit : Visit) : Except Failure (List Text) :=
  (result surroundings photo pattern visit).map fun path => Path.segments (path.getD [])

variable [Pattern.CharacterNames] {surroundings : Surroundings} {photo : Photo} {now : Binary64}

theorem evaluatedSegments_eq {visit : Visit} (hclock : visit.clock.Stopped now) (pattern : Text) :
    evaluatedSegments surroundings photo pattern visit =
      segmentsWith (Placeholder.outcome surroundings photo now) pattern := by
  rw [evaluatedSegments, evaluate_result hclock.shows, outcome, segmentsWith]
  cases expand (Placeholder.outcome surroundings photo now) (scan pattern) with
  | error failure => rfl
  | ok text => exact congrArg Except.ok (Path.segments_normalizePath text)

/-- A pattern whose placeholders have tidy arguments does not depend on whether they are tidied. -/
theorem segmentsWith_tidied {pattern : Text}
    (hargs : ∀ p ∈ placeholders pattern, p.HasTidyArguments) :
    segmentsWith (Placeholder.outcome surroundings photo now ∘ Placeholder.tidied) pattern =
      segmentsWith (Placeholder.outcome surroundings photo now) pattern := by
  refine segmentsWith_congr (map_onto_expand_congr fun p hmem => ?_)
  have hp : p ∈ placeholders pattern := List.mem_filterMap.2 ⟨.placeholder p, hmem, rfl⟩
  exact (hargs p hp).alike.outcome surroundings photo now

end Template

namespace Lineage

open Template

/-- **An upload path makes what its settings make, as far as their placeholders are tidy.** If no setting
leaves a brace open and the clock does not advance, an evaluation of the upload path gives the segments of
the settings with their placeholders tidied, the outermost set's first. If the arguments of the placeholders
are tidy, in the format of a date but for backslashes, these are the segments that evaluations of the
settings give. One side fails as the other does. -/
theorem uploadPath_segments [Pattern.CharacterNames] {lineage : Lineage}
    (hsettings : ∀ setting ∈ lineage.settings, setting.IsClosed) {surroundings : Surroundings}
    {photo : Photo} {now : Binary64} {visit : Visit} (hclock : visit.clock.Stopped now) :
    ∃ path, lineage.uploadPath = .ok path ∧
      evaluatedSegments surroundings photo path visit =
        gathered (segmentsWith fun p => p.tidied.outcome surroundings photo now) lineage.patterns ∧
      ((∀ pattern ∈ lineage.patterns, ∀ p ∈ placeholders pattern, p.HasTidyArguments) →
        ∀ visits : Text → Visit, (∀ pattern, (visits pattern).clock.Stopped now) →
          evaluatedSegments surroundings photo path visit =
            gathered (fun pattern => evaluatedSegments surroundings photo pattern (visits pattern))
              lineage.patterns) := by
  obtain ⟨path, hpath, hsegments⟩ := uploadPath_text hsettings
  have hvalue := hsegments (Placeholder.outcome surroundings photo now)
    fun p start => p.outcome_start surroundings photo now start
  rw [← evaluatedSegments_eq hclock] at hvalue
  refine ⟨path, hpath, hvalue, fun hargs visits hclocks => hvalue.trans ?_⟩
  refine gathered_congr fun pattern hmem => ?_
  rw [evaluatedSegments_eq (hclocks pattern), segmentsWith_tidied (hargs pattern hmem)]

/-- A collection in two sets. A base directory starts with two slashes, a default has a backslash and so
has the format of a date. -/
def nested : Lineage :=
  { self :=
      { name := some "Beach".toList
        settings := some [(Collection.destination, .text "\x7bLrFM:title [a-z]+|no\\title\x7d".toList)] }
    ancestors :=
      [{ name := some "Holidays".toList, isSet := true },
        { name := some "Events".toList, isSet := true,
          settings := some
            [(Collection.baseDirectory, .text "//events/\x7bDate %Y\\%m\x7d/".toList)] }] }

/-- A photo with a capture date and without a title. -/
def dated : Photo :=
  { raw := [("dateTimeOriginal".toList, .whole 1577880000)], formatted := some [] }

attribute [local instance] Pattern.CharacterNames.common

/-- The segments of both settings, the outer set's first. -/
theorem uploadPath_segments_nested :
    ∃ path, nested.uploadPath = .ok path ∧
      evaluatedSegments {} dated path epoch =
        gathered (fun pattern => evaluatedSegments {} dated pattern epoch) nested.patterns ∧
      evaluatedSegments {} dated path epoch =
        .ok ["events".toList, "2020".toList, "01".toList, "no".toList, "title".toList] := by
  have hstopped : epoch.clock.Stopped (.finite 0) := ⟨rfl, nofun⟩
  obtain ⟨path, hpath, -, hsegments⟩ :=
    @uploadPath_segments _ nested (by decide +kernel) {} dated (.finite 0) epoch hstopped
  have hgathered := hsegments (by decide +kernel) (fun _ => epoch) fun _ => hstopped
  refine ⟨path, hpath, hgathered, hgathered.trans ?_⟩
  exact ok_of_toOption (by decide +kernel)

/-- A collection whose placeholder takes digits from the title. -/
def digits : Lineage :=
  { self :=
      { name := some "Years".toList
        settings := some [(Collection.destination, .text "\x7bLrFM:title (\\d+)\x7d".toList)] } }

/-- A photo whose title has digits. -/
def titled : Photo :=
  { raw := [], formatted := some [("title".toList, .text "Summer 2020".toList)] }

/-- The backslash of an extract pattern becomes a slash, and what the pattern takes is lost. -/
theorem uploadPath_backslash :
    (∀ setting ∈ digits.settings, setting.IsClosed) ∧ epoch.clock.Stopped (.finite 0) ∧
      digits.uploadPath = .ok "\x7bLrFM:title (/d+)\x7d".toList ∧
      evaluatedSegments {} titled "\x7bLrFM:title (/d+)\x7d".toList epoch = .ok [] ∧
      gathered (fun pattern => evaluatedSegments {} titled pattern epoch) digits.patterns =
        .ok ["2020".toList] :=
  ⟨by decide +kernel, ⟨rfl, nofun⟩, ok_of_toOption (by decide +kernel),
    ok_of_toOption (by decide +kernel), ok_of_toOption (by decide +kernel)⟩

end Lineage

end PhotoPublish
