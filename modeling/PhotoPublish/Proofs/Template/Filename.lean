import PhotoPublish.Pattern.CharacterName
import PhotoPublish.Proofs.Calendar.Separators
import PhotoPublish.Proofs.Template.Failing

/-!
# Templates for file names

The pattern of a file name must not hold separators. Most of what stands for its placeholders cannot hold any
either; two kinds of placeholders can write slashes, and `Placeholder.Slashes` says when they do.

* `Placeholder.outcome_slashes`: the text for a placeholder has slashes exactly then.
* `Template.filename_plain_iff`: when the value of a template for a file name is a file name.
-/

set_option autoImplicit false

namespace PhotoPublish

/-! ## Parts of a placeholder -/

namespace Placeholder

/-- A placeholder whose parts hold no separators. -/
structure PlainParts (p : Placeholder) : Prop where
  text : Plain p.text
  args : Plain p.args
  fallback : Plain p.fallback

end Placeholder

/-- The placeholders of a pattern without separators. -/
theorem Plain.parts {pattern : Text} (hpattern : Plain pattern) {p : Placeholder}
    (h : p ∈ placeholders pattern) : p.PlainParts := by
  have htext : p.text ⊆ pattern := text_subset_of_mem_scan (mem_placeholders.1 h)
  obtain ⟨i, j, htoken⟩ := mem_placeholders_iff_token.1 h
  obtain ⟨hargs, hfallback⟩ := Placeholder.parts_subset_of_parse? htoken.2
  rw [← htoken.text_eq] at hargs hfallback
  exact ⟨hpattern.of_subset htext, hpattern.of_subset (List.Subset.trans hargs htext),
    hpattern.of_subset (List.Subset.trans hfallback htext)⟩

/-! ## Collections -/

/-- The paths of collections are in normal form. -/
theorem Photo.enclosed_of_collectionPaths {photo : Photo} {paths : List Text}
    (h : photo.collectionPaths = .ok paths) : ∀ path ∈ paths, Enclosed path := by
  intro path hmem
  have hpath : Except.ok path ∈ (photo.collections.getD []).map Lineage.path := by
    rw [mapM_ok_iff.1 h]
    exact List.mem_map_of_mem hmem
  obtain ⟨lineage, -, hlineage⟩ := List.mem_map.1 hpath
  exact Lineage.enclosed_of_path hlineage

namespace Placeholder

theorem map_path_of (paths : List Text) : paths.map CollectionPart.path.of = paths :=
  List.map_id' paths

theorem orIfInvalid_ok {otherwise text : Text} {result : Except Failure Text}
    (h : orIfInvalid otherwise result = .ok text) :
    result = .ok text ∨ (∃ failure, result = .error failure) ∧ text = otherwise := by
  cases result with
  | ok found => exact .inl h
  | error failure =>
    unfold orIfInvalid at h
    dsimp only at h
    split at h
    · exact .inr ⟨⟨failure, rfl⟩, (Except.ok.inj h).symm⟩
    · cases h

/-! ## What stands for a placeholder -/

variable [Pattern.CharacterNames] (surroundings : Surroundings) (photo : Photo) (now : Binary64)
  (p : Placeholder)

/-- A placeholder that writes slashes: for a numeric date, or for the path of a collection that has several
segments. -/
inductive Slashes : Prop
  | date {time : Binary64} {text : Text} : p.category = .date → p.args.trim ≠ [] →
      photo.timeAt surroundings now = .ok time →
      Timestamp.format surroundings.zone (.real time) p.args = .ok text → text ≠ [] →
      DateFormat.HasNumericDate p.args → Slashes
  | path {paths : List Text} {path : Text} : p.category = .collection →
      CollectionPart.ofName? p.word = some .path → photo.collectionPaths = .ok paths →
      firstMatch p.afterWord paths = .ok (some path) → '/' ∈ path → Slashes

variable {surroundings : Surroundings} {photo : Photo} {now : Binary64} {p : Placeholder}
  {text : Text}

theorem slashes_iff_of_date {time : Binary64} (hcategory : p.category = .date)
    (hargs : p.args.trim ≠ []) (htime : photo.timeAt surroundings now = .ok time)
    (hformat : Timestamp.format surroundings.zone (.real time) p.args = .ok text) :
    p.Slashes surroundings photo now ↔ text ≠ [] ∧ DateFormat.HasNumericDate p.args := by
  constructor
  · rintro (⟨-, -, htime', hformat', hne, hdate⟩ | ⟨hcollection, -⟩)
    · obtain rfl := Except.ok.inj (htime.symm.trans htime')
      obtain rfl := Except.ok.inj (hformat.symm.trans hformat')
      exact ⟨hne, hdate⟩
    · cases hcategory.symm.trans hcollection
  · exact fun ⟨hne, hdate⟩ => .date hcategory hargs htime hformat hne hdate

theorem slashes_iff_of_collection {paths : List Text} (hcategory : p.category = .collection)
    (hpaths : photo.collectionPaths = .ok paths) :
    p.Slashes surroundings photo now ↔ CollectionPart.ofName? p.word = some .path ∧
      ∃ path, firstMatch p.afterWord paths = .ok (some path) ∧ '/' ∈ path := by
  constructor
  · rintro (⟨hdate, -⟩ | ⟨-, hpart, hpaths', hmatch, hslash⟩)
    · cases hcategory.symm.trans hdate
    · obtain rfl := Except.ok.inj (hpaths.symm.trans hpaths')
      exact ⟨hpart, _, hmatch, hslash⟩
  · exact fun ⟨hpart, path, hmatch, hslash⟩ => .path hcategory hpart hpaths hmatch hslash

/-- A text without separators, for a placeholder that writes no slashes. -/
theorem plain_slashes (hplain : Plain text) (hnot : ¬ p.Slashes surroundings photo now) :
    Enclosed text ∧ ('/' ∈ text ↔ p.Slashes surroundings photo now) :=
  ⟨hplain.enclosed, iff_of_false hplain.slash_notMem hnot⟩

/-- What a search through collections gives: the first match if there is one. -/
theorem search_ok {filter : Option Text} {values : List Text}
    (h : p.orSelf ((firstMatch filter values).map (·.getD p.fallback)) = .ok text) :
    firstMatch filter values = .ok (some text) ∨
      (∀ value, firstMatch filter values ≠ .ok (some value)) ∧
        (text = p.fallback ∨ text = p.text) := by
  rcases orSelf_ok h with hfound | ⟨hfault, htext⟩
  · cases hmatch : firstMatch filter values with
    | error fault =>
      rw [hmatch] at hfound
      cases hfound
    | ok found =>
      rw [hmatch] at hfound
      have htext : found.getD p.fallback = text := Except.ok.inj hfound
      cases found with
      | none => exact .inr ⟨nofun, .inl htext.symm⟩
      | some value => exact .inl (congrArg (fun value => Except.ok (some value)) htext)
  · refine .inr ⟨fun value hmatch => ?_, .inr htext⟩
    rw [hmatch] at hfault
    cases hfault

section Outcomes

variable (hparts : p.PlainParts)
include hparts

/-- Values of metadata are made legal names. -/
theorem plain_of_extracted {value : Text} {pattern : Option Text}
    (h : p.extracted value pattern = .ok text) : Plain text := by
  unfold extracted at h
  split at h
  · exact Except.ok.inj h ▸ hparts.fallback
  · cases pattern with
    | none => exact Except.ok.inj h ▸ plain_legalName value
    | some pattern =>
      rcases orSelf_ok h with hfound | ⟨-, rfl⟩
      · cases hextract : Pattern.extract value pattern with
        | error fault =>
          rw [hextract] at hfound
          cases hfound
        | ok part =>
          rw [hextract] at hfound
          rw [← Except.ok.inj hfound]
          cases part with
          | none => exact hparts.fallback
          | some part => exact plain_legalName part
      · exact hparts.text

theorem plain_of_formatted (hcategory : p.category = .formatted)
    (h : p.outcome surroundings photo now = .ok text) : Plain text := by
  rw [outcome_of_formatted hcategory] at h
  obtain ⟨value, -, h⟩ := exists_of_bind_ok h
  exact plain_of_extracted hparts h

theorem plain_of_path (hcategory : p.category = .path)
    (h : p.outcome surroundings photo now = .ok text) : Plain text := by
  by_cases hlevel : IsLevel p.level
  · rw [outcome_of_level hcategory hlevel] at h
    obtain ⟨level, -, h⟩ := exists_of_bind_ok h
    obtain ⟨segments, -, h⟩ := exists_of_bind_ok h
    exact plain_of_extracted hparts h
  · rw [outcome_of_not_level hcategory hlevel] at h
    exact Except.ok.inj h ▸ hparts.text

/-- A collection is shown by its name, which holds no separator, or by its path. -/
theorem collection_slashes (hcategory : p.category = .collection)
    (h : p.outcome surroundings photo now = .ok text) :
    Enclosed text ∧ ('/' ∈ text ↔ p.Slashes surroundings photo now) := by
  rw [outcome_of_collection hcategory] at h
  cases hpart : CollectionPart.ofName? p.word with
  | none =>
    rw [hpart] at h
    refine plain_slashes (Except.ok.inj h ▸ hparts.text) ?_
    rintro (⟨hdate, -⟩ | ⟨-, hpath, -⟩)
    · cases hcategory.symm.trans hdate
    · cases hpart.symm.trans hpath
  | some part =>
    rw [hpart] at h
    obtain ⟨paths, hpaths, h⟩ := exists_of_bind_ok h
    have henclosed := Photo.enclosed_of_collectionPaths hpaths
    have hslashes := @slashes_iff_of_collection _ surroundings photo now p paths hcategory hpaths
    rw [hpart] at hslashes
    rcases search_ok h with hmatch | ⟨hnone, htext⟩
    · cases part with
      | name =>
        obtain ⟨path, hmem, rfl⟩ := List.mem_map.1 (mem_of_firstMatch hmatch)
        exact plain_slashes (henclosed path hmem).plain_afterLast fun h => nomatch (hslashes.1 h).1
      | path =>
        rw [map_path_of] at hmatch
        refine ⟨henclosed text (mem_of_firstMatch hmatch), Iff.trans ?_ hslashes.symm⟩
        refine ⟨fun hslash => ⟨rfl, text, hmatch, hslash⟩, ?_⟩
        rintro ⟨-, path, hmatch', hslash⟩
        rwa [Option.some.inj (Except.ok.inj (hmatch.symm.trans hmatch'))]
    · have hplain : Plain text := by
        rcases htext with rfl | rfl
        · exact hparts.fallback
        · exact hparts.text
      refine plain_slashes hplain fun h => ?_
      obtain ⟨hpath, path, hmatch, -⟩ := hslashes.1 h
      obtain rfl := Option.some.inj hpath
      rw [map_path_of] at hnone
      exact hnone path hmatch

theorem date_slashes (hzone : surroundings.zone.PlainNames) (hcategory : p.category = .date)
    (h : p.outcome surroundings photo now = .ok text) :
    Enclosed text ∧ ('/' ∈ text ↔ p.Slashes surroundings photo now) := by
  rw [outcome, hcategory] at h
  dsimp only at h
  unfold dateOutcome at h
  split at h
  · rename_i hblank
    refine plain_slashes (Except.ok.inj h ▸ hparts.fallback) ?_
    rintro (⟨-, hargs, -⟩ | ⟨hcollection, -⟩)
    · exact hargs (List.isEmpty_iff.1 hblank)
    · cases hcategory.symm.trans hcollection
  · rename_i hargs
    rw [List.isEmpty_iff] at hargs
    rcases orIfInvalid_ok h with hdate | ⟨⟨failure, hfailure⟩, rfl⟩
    · obtain ⟨time, htime, hdate⟩ := exists_of_bind_ok hdate
      obtain ⟨written, hformat, hdate⟩ := exists_of_bind_ok hdate
      obtain ⟨henclosed, hslash⟩ := Timestamp.format_slashes hzone hparts.args hformat
      have hslashes := slashes_iff_of_date hcategory hargs htime hformat
      rw [← Except.ok.inj hdate]
      split
      · rename_i hempty
        exact plain_slashes hparts.fallback fun h => (hslashes.1 h).1 (List.isEmpty_iff.1 hempty)
      · exact ⟨henclosed, hslash.trans hslashes.symm⟩
    · refine plain_slashes hparts.text ?_
      rintro (⟨-, -, htime, hformat, -⟩ | ⟨hcollection, -⟩)
      · unfold dateText at hfailure
        rcases error_cases_of_bind hfailure with htime' | ⟨time', htime', hfailure⟩
        · cases htime.symm.trans htime'
        obtain rfl := Except.ok.inj (htime.symm.trans htime')
        rcases error_cases_of_bind hfailure with hformat' | ⟨written, -, hfailure⟩
        · cases hformat.symm.trans hformat'
        · cases hfailure
      · cases hcategory.symm.trans hcollection

/-- **A placeholder writes slashes exactly for a numeric date or the path of a collection.** -/
theorem outcome_slashes (hzone : surroundings.zone.PlainNames)
    (h : p.outcome surroundings photo now = .ok text) :
    Enclosed text ∧ ('/' ∈ text ↔ p.Slashes surroundings photo now) := by
  have hneither : p.category ≠ .date → p.category ≠ .collection →
      ¬ p.Slashes surroundings photo now := by
    rintro hdate hcollection (⟨hcategory, -⟩ | ⟨hcategory, -⟩)
    · exact hdate hcategory
    · exact hcollection hcategory
  cases hcategory : p.category with
  | date => exact date_slashes hparts hzone hcategory h
  | collection => exact collection_slashes hparts hcategory h
  | formatted =>
    rw [hcategory] at hneither
    exact plain_slashes (plain_of_formatted hparts hcategory h) (hneither nofun nofun)
  | path =>
    rw [hcategory] at hneither
    exact plain_slashes (plain_of_path hparts hcategory h) (hneither nofun nofun)

end Outcomes

end Placeholder

/-! ## Templates -/

namespace Template

section Names

variable [Pattern.CharacterNames] {surroundings : Surroundings} {photo : Photo}
  {pattern name written : Text} {visit : Visit} {now : Binary64}

/-- A pattern without separators expands to slashes exactly if one of its placeholders writes them. -/
theorem expand_slashes (hzone : surroundings.zone.PlainNames) (hpattern : Plain pattern)
    (h : expand (Placeholder.outcome surroundings photo now) (scan pattern) = .ok written) :
    Enclosed written ∧
      ('/' ∈ written ↔ ∃ p ∈ placeholders pattern, p.Slashes surroundings photo now) := by
  -- Every piece of the pattern is filled with a text that has slashes exactly if its placeholder writes them.
  have hpiece : ∀ piece ∈ scan pattern,
      Enclosed (piece.filled fun p => (p.outcome surroundings photo now).toOption.getD []) ∧
        ('/' ∈ piece.filled (fun p => (p.outcome surroundings photo now).toOption.getD []) ↔
          ∃ p, piece = .placeholder p ∧ p.Slashes surroundings photo now) := by
    intro piece hmem
    cases piece with
    | literal text =>
      have hplain : Plain text := hpattern.of_subset (text_subset_of_mem_scan hmem)
      exact ⟨hplain.enclosed, iff_of_false hplain.slash_notMem fun ⟨_, hp, _⟩ => nomatch hp⟩
    | placeholder p =>
      obtain ⟨text, htext⟩ := expand_ok_iff.1 ⟨written, h⟩ p hmem
      obtain ⟨henclosed, hslash⟩ :=
        Placeholder.outcome_slashes (hpattern.parts (mem_placeholders.2 hmem)) hzone htext
      rw [Piece.filled, htext]
      refine ⟨henclosed, hslash.trans ⟨fun hslashes => ⟨p, rfl, hslashes⟩, ?_⟩⟩
      rintro ⟨_, ⟨⟩, hslashes⟩
      exact hslashes
  rw [expand_eq_filled h]
  refine ⟨Enclosed.flatMap fun piece hmem => (hpiece piece hmem).1, ?_⟩
  rw [List.mem_flatMap]
  constructor
  · rintro ⟨piece, hmem, hslash⟩
    obtain ⟨p, rfl, hslashes⟩ := (hpiece piece hmem).2.1 hslash
    exact ⟨p, mem_placeholders.2 hmem, hslashes⟩
  · rintro ⟨p, hp, hslashes⟩
    have hmem := mem_placeholders.1 hp
    exact ⟨_, hmem, (hpiece _ hmem).2.2 ⟨p, rfl, hslashes⟩⟩

/-- A template that makes a file name. -/
def ofNamePattern (pattern : Text) : Template :=
  { kind := .filename, pattern := some pattern }

/-- What an evaluation of a pattern for a file name gives. -/
def filename (surroundings : Surroundings) (photo : Photo) (pattern : Text) (visit : Visit) :
    Except Failure (Option Text) :=
  (((ofNamePattern pattern).evaluate surroundings photo).run.run visit).1

omit [Pattern.CharacterNames] in
theorem hasSeparators_ofNamePattern :
    (ofNamePattern pattern).hasSeparators = false ↔ Plain pattern := by
  have hany : (ofNamePattern pattern).hasSeparators = pattern.any isSeparator := rfl
  rw [hany, List.any_eq_false]
  exact forall₂_congr fun c _ => Bool.not_eq_true (isSeparator c) ▸ Iff.rfl

/-- A pattern for a file name is evaluated as one for a path unless it holds separators. -/
theorem filename_eq : filename surroundings photo pattern visit =
    if Plain pattern then result surroundings photo pattern visit else .ok (some missing) := by
  unfold filename evaluate
  by_cases hpattern : Plain pattern
  · rw [if_pos hpattern, hasSeparators_ofNamePattern.2 hpattern]
    rfl
  · rw [if_neg hpattern, Bool.of_not_eq_false (mt hasSeparators_ofNamePattern.1 hpattern)]
    rfl

/-- **When a template for a file name makes no path.** Its value has no separators at its ends and no
backslashes. If the pattern has separators, the value is `missing`; otherwise it is a file name exactly if no
placeholder writes slashes. -/
theorem filename_plain_iff (hzone : surroundings.zone.PlainNames) (hclock : visit.clock.now ≠ .nan)
    (h : filename surroundings photo pattern visit = .ok (some name)) :
    Enclosed name ∧ (¬ Plain pattern → name = missing) ∧
      ((name = missing ∨ Plain name) ↔ (Plain pattern →
        ∀ p ∈ placeholders pattern, ¬ p.Slashes surroundings photo visit.clock.now)) := by
  have hmissing : Plain missing := by decide
  rw [filename_eq] at h
  by_cases hpattern : Plain pattern
  · rw [if_pos hpattern] at h
    obtain ⟨written, hwritten, rfl⟩ := (result_eq_some_iff hclock).1 h
    obtain ⟨henclosed, hslash⟩ := expand_slashes hzone hpattern hwritten
    have hname := enclosed_normalizePath written
    refine ⟨hname, absurd hpattern, ?_⟩
    rw [or_iff_right_of_imp fun hname => hname ▸ hmissing, hname.plain_iff,
      slash_mem_normalizePath henclosed, hslash, forall_prop_of_true hpattern]
    simp only [not_exists, not_and]
  · rw [if_neg hpattern] at h
    obtain rfl := Option.some.inj (Except.ok.inj h)
    exact ⟨hmissing.enclosed, fun _ => rfl, iff_of_true (.inl rfl) fun h => absurd h hpattern⟩

end Names

/-- A photo with separators in its title, in a collection that lies in a set. -/
def nestedPhoto : Photo where
  raw := [("dateTimeOriginal".toList, .whole 1592222400)]
  formatted := some [("title".toList, .text "a/b\\c".toList)]
  collections := some [{
    self := { name := some "Beach".toList }
    ancestors := [{ name := some "Trips".toList, isSet := true }] }]

attribute [local instance] Pattern.CharacterNames.common

/-- Titles, names of collections and other dates write no slashes. -/
theorem filename_plain_iff_nested :
    filename {} nestedPhoto "\x7bLrFM:title\x7d_\x7bLrCC:name\x7d_\x7bDate %F\x7d".toList
        { clock := { now := .finite 0 } } = .ok (some "a-b-c_Beach_2020-06-15".toList) ∧
      ∀ p ∈ placeholders "\x7bLrFM:title\x7d_\x7bLrCC:name\x7d_\x7bDate %F\x7d".toList,
        ¬ p.Slashes {} nestedPhoto (.finite 0) := by
  have hname : filename {} nestedPhoto
      "\x7bLrFM:title\x7d_\x7bLrCC:name\x7d_\x7bDate %F\x7d".toList
      { clock := { now := .finite 0 } } = .ok (some "a-b-c_Beach_2020-06-15".toList) :=
    ok_of_toOption (by decide +kernel)
  refine ⟨hname, ?_⟩
  exact (filename_plain_iff Zone.plainNames_utc (by decide) hname).2.2.1 (.inr (by decide)) (by decide)

/-- The path of a collection in a set is no file name. -/
theorem filename_collection_path :
    filename {} nestedPhoto "\x7bLrCC:path\x7d".toList { clock := { now := .finite 0 } } =
        .ok (some "Trips/Beach".toList) ∧
      ¬ ("Trips/Beach".toList = missing ∨ Plain "Trips/Beach".toList) :=
  ⟨ok_of_toOption (by decide +kernel), by decide⟩

end Template

end PhotoPublish
