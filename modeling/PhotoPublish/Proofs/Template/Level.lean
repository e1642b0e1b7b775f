import PhotoPublish.Pattern.CharacterName
import PhotoPublish.Proofs.Number.Numeral
import PhotoPublish.Proofs.Path.Segments
import PhotoPublish.Proofs.Template.Arguments
import PhotoPublish.Proofs.Template.Extraction

/-!
# Levels of a path

A placeholder for a directory names it by its level, a number in decimal digits. Levels count from one and end
before the file.

* `Placeholder.parse?_levelText`: what a text with a level is as a placeholder.
* `Placeholder.value_addresses`: levels address exactly the directories, and of the path only its segments
  matter.
-/

set_option autoImplicit false

namespace PhotoPublish

/-- The path of a photo; a photo without one has the empty path. -/
def Photo.HasPath (photo : Photo) (path : Text) : Prop :=
  photo.raw.get pathKey = .text path ∨ photo.raw.get pathKey = .null ∧ path = []

theorem Photo.HasPath.pathSegments {photo : Photo} {path : Text} (h : photo.HasPath path) :
    photo.pathSegments = .ok (Path.segments path) := by
  unfold Photo.pathSegments
  rcases h with htext | ⟨hnull, rfl⟩
  · rw [htext]
  · rw [hnull, Path.segments_nil]

namespace Placeholder

/-- The text of a placeholder for the directory at a level. -/
def levelText (level : Text) (default : Option Text) : Text :=
  '\x7b' :: ("Path:".toList ++ (level ++ behindBar default) ++ ['\x7d'])

variable {level : Text} {default : Option Text} {segments : List Text}

section Digits

variable (hdigits : ∀ c ∈ level, c.isDigit = true)
include hdigits

theorem all_isDecimal_of_isDigit : level.all isDecimal = true :=
  List.all_eq_true.2 fun c hc => isDecimal_of_isDigit (hdigits c hc)

theorem not_isBlank_of_isDigit : ∀ c ∈ level, isBlank c = false :=
  fun c hc => KeyKind.not_isBlank_of_holds .level (isDecimal_of_isDigit (hdigits c hc))

/-- A level alone is its own key. -/
theorem splitArguments_level : splitArguments .level level = (level, none) := by
  rw [splitArguments_of_not_keyCut, Text.trim_of_notBlank (not_isBlank_of_isDigit hdigits)]
  intro before key blanks after h
  obtain ⟨c, rest, hblanks⟩ := List.exists_cons_of_ne_nil h.blanks_ne_nil
  have hc : c ∈ level := by
    rw [h.split, hblanks]
    simp
  have hblank := h.blanks c (hblanks ▸ List.mem_cons_self)
  rw [not_isBlank_of_isDigit hdigits c hc] at hblank
  cases hblank

theorem parse?_levelText (hdefault : ∀ value, default = some value → '|' ∉ value) (start : Int) :
    parse? (levelText level default) start =
      some { category := .path, args := level, default, text := levelText level default, start } := by
  have hspelling : Spelling (levelText level default) .path [':'] level default :=
    ⟨rfl, rfl, fun _ hbar => absurd (hdigits '|' hbar) (by decide), hdefault⟩
  exact hspelling.parse? start

end Digits

/-- The directory at a level, and nothing for any other number. -/
theorem directoryAt_eq (segments : List Text) (k : Nat) :
    directoryAt segments k = if h : 1 ≤ k ∧ k < segments.length then segments[k - 1] else [] := by
  unfold directoryAt
  by_cases h : 1 ≤ k ∧ k < segments.length
  · rw [dif_pos h, if_pos (by omega), Int.toNat_natCast, List.getD_eq_getElem?_getD,
      List.getElem?_eq_getElem (by omega), Option.getD_some]
  · rw [dif_neg h, if_neg (by omega)]

section Addresses

variable [Pattern.CharacterNames]

theorem extracted_directoryAt (hne : ∀ segment ∈ segments, segment ≠ []) (p : Placeholder) (k : Nat) :
    p.extracted (directoryAt segments k) none =
      .ok (if h : 1 ≤ k ∧ k < segments.length then legalName segments[k - 1] else p.fallback) := by
  rw [directoryAt_eq]
  by_cases h : 1 ≤ k ∧ k < segments.length
  · have hsegment := hne segments[k - 1] (List.getElem_mem _)
    rw [dif_pos h, dif_pos h, extracted, if_neg (by simpa using hsegment)]
  · rw [dif_neg h, dif_neg h]
    rfl

theorem outcome_level {surroundings : Surroundings} {photo : Photo} {now : Binary64} {path : Text}
    {p : Placeholder} (hcategory : p.category = .path) (hargs : p.args = level) (hne : level ≠ [])
    (hdigits : ∀ c ∈ level, c.isDigit = true) (hlength : level.length ≤ Numeral.longest)
    (hpath : photo.HasPath path) :
    p.outcome surroundings photo now =
      .ok (if h : 1 ≤ Nat.ofDigitChars 10 level 0 ∧
          Nat.ofDigitChars 10 level 0 < (Path.segments path).length then
        legalName (Path.segments path)[Nat.ofDigitChars 10 level 0 - 1]
      else p.fallback) := by
  have hlevel : p.level = level := by rw [Placeholder.level, hargs, splitArguments_level hdigits]
  have hafter : p.afterLevel = none := by
    rw [afterLevel, hargs, splitArguments_level hdigits]
  have hselects : p.Selects photo
      (directoryAt (Path.segments path) (numeralValue p.level)) p.afterLevel := by
    refine .path hcategory ?_ ?_ ?_ hpath.pathSegments
    · rwa [hlevel]
    · rw [hlevel]
      exact all_isDecimal_of_isDigit hdigits
    · rwa [hlevel]
  rw [outcome_of_selects hselects, hafter, hlevel, numeralValue_of_isDigit hdigits]
  exact extracted_directoryAt (fun _ => Path.ne_nil_of_mem_segments) p _

/-- Of the path only the segments matter. -/
theorem outcome_congr_segments {photo photo' : Photo} {p : Placeholder} (hcategory : p.category = .path)
    (h : photo.pathSegments = photo'.pathSegments) (surroundings surroundings' : Surroundings)
    (now : Binary64) : p.outcome surroundings photo now = p.outcome surroundings' photo' now := by
  rw [outcome, outcome, hcategory]
  simp only
  rw [pathOutcome_eq, pathOutcome_eq, h]

/-- **Levels address exactly the directories of a path.** Its segments are the parts between slashes in its
normal form. A level of ASCII digits stands for the segment that it counts, as a legal name; if it counts none
or the last one, which is the file, the default stands for it. Two paths with the same segments have the same
text for every placeholder. -/
theorem value_addresses :
    (∀ path, Path.segments path =
      (Text.splitOn '/' (normalizePath path)).filter fun part => !part.isEmpty) ∧
    (∀ level default start, level ≠ [] → (∀ c ∈ level, c.isDigit = true) →
      level.length ≤ Numeral.longest → (∀ value, default = some value → '|' ∉ value) →
        ∃ p, parse? (levelText level default) start = some p ∧
          ∀ surroundings (photo : Photo) path (state : Evaluation),
            photo.HasPath path → Reflects photo state.snapshot →
            ((p.value surroundings photo).run.run state).1 =
              .ok (if h : 1 ≤ Nat.ofDigitChars 10 level 0 ∧
                  Nat.ofDigitChars 10 level 0 < (Path.segments path).length then
                legalName (Path.segments path)[Nat.ofDigitChars 10 level 0 - 1]
              else default.getD [])) ∧
    ∀ (photo photo' : Photo) path path', photo.HasPath path → photo'.HasPath path' →
      Path.segments path = Path.segments path' →
      ∀ (p : Placeholder) surroundings surroundings' (state state' : Evaluation),
        p.category = .path → Reflects photo state.snapshot → Reflects photo' state'.snapshot →
        ((p.value surroundings photo).run.run state).1 =
          ((p.value surroundings' photo').run.run state').1 := by
  refine ⟨Path.segments_eq_splitOn, ?_, ?_⟩
  · intro level default start hne hdigits hlength hdefault
    refine ⟨_, parse?_levelText hdigits hdefault start, ?_⟩
    intro surroundings photo path state hpath hstate
    rw [(Yields.value surroundings (.finite 0) (.inr rfl) state hstate).1]
    exact outcome_level rfl rfl hne hdigits hlength hpath
  · intro photo photo' path path' hpath hpath' hsame p surroundings surroundings' state state'
      hcategory hstate hstate'
    have hsegments : photo.pathSegments = photo'.pathSegments := by
      rw [hpath.pathSegments, hpath'.pathSegments, hsame]
    rw [(Yields.value surroundings (.finite 0) (.inr hcategory) state hstate).1,
      (Yields.value surroundings' (.finite 0) (.inr hcategory) state' hstate').1]
    exact outcome_congr_segments hcategory hsegments ..

end Addresses

/-- A photo with a path. -/
def photoAt (path : Text) : Photo :=
  { raw := [(Photo.pathKey, .text path)] }

attribute [local instance] Pattern.CharacterNames.common

/-- The second directory, whatever separators stand around it, and the file, which is no directory. -/
theorem value_addresses_spelled :
    (∃ p, parse? "\x7bPath:02\x7d".toList 0 = some p ∧
      ((p.value {} (photoAt "raw/a:b/c.jpg".toList)).run.run newEvaluation).1 = .ok "a-b".toList ∧
      ((p.value {} (photoAt "\\raw//a:b\\c.jpg/".toList)).run.run newEvaluation).1 =
        .ok "a-b".toList) ∧
    ∃ p, parse? "\x7bPath:3|none\x7d".toList 0 = some p ∧
      ((p.value {} (photoAt "raw/a:b/c.jpg".toList)).run.run newEvaluation).1 = .ok "none".toList := by
  obtain ⟨-, hlevel, hspelled⟩ := value_addresses
  have hreflects (path : Text) : Reflects (photoAt path) newEvaluation.snapshot := reflects_new _
  have hpath (path : Text) : (photoAt path).HasPath path := .inl rfl
  constructor
  · have hdigits : ∀ c ∈ "02".toList, c.isDigit = true := List.all_eq_true.1 (by decide)
    have hdefault : ∀ value, (none : Option Text) = some value → '|' ∉ value :=
      fun _ hvalue => nomatch hvalue
    obtain ⟨p, hp, hvalue⟩ :=
      hlevel "02".toList none 0 (by decide) hdigits (by decide) hdefault
    have hcategory : p.category = .path := by
      rw [parse?_levelText hdigits hdefault] at hp
      rw [← Option.some.inj hp]
    have hdirectory := (hvalue {} _ "raw/a:b/c.jpg".toList newEvaluation (hpath _) (hreflects _)).trans
      (congrArg Except.ok (by decide : _ = "a-b".toList))
    refine ⟨p, hp, hdirectory, ?_⟩
    rw [← hdirectory]
    exact hspelled _ _ "\\raw//a:b\\c.jpg/".toList "raw/a:b/c.jpg".toList (hpath _) (hpath _) (by decide)
      p {} {} newEvaluation newEvaluation hcategory (hreflects _) (hreflects _)
  · obtain ⟨p, hp, hvalue⟩ := hlevel "3".toList (some "none".toList) 0 (by decide)
      (List.all_eq_true.1 (by decide)) (by decide) (by simp)
    exact ⟨p, hp, (hvalue {} _ "raw/a:b/c.jpg".toList newEvaluation (hpath _) (hreflects _)).trans
      (congrArg Except.ok (by decide))⟩

end Placeholder

end PhotoPublish
