import PhotoPublish.Pattern.CharacterName
import PhotoPublish.Proofs.Template.Ending
import PhotoPublish.Proofs.Template.Evaluation

/-!
# When an evaluation fails

A problem of a template should show in its result only. `Template.evaluate_returns_iff`: it does exactly if
no placeholder escapes; the malformed placeholders then stand for themselves and the unresolvable ones for
their defaults.
-/

set_option autoImplicit false

namespace PhotoPublish

namespace Template

section Returning

variable [Pattern.CharacterNames] {surroundings : Surroundings} {photo : Photo} {pattern : Text}
  {visit : Visit}

theorem result_eq_some_iff (hclock : visit.clock.now ≠ .nan) {text : Text} :
    result surroundings photo pattern visit = .ok (some text) ↔
      ∃ written, expand (Placeholder.outcome surroundings photo visit.clock.now) (scan pattern) =
        .ok written ∧ normalizePath written = text := by
  have hshows : visit.clock.Shows visit.clock.now := ⟨rfl, fun hnan => absurd hnan hclock⟩
  rw [evaluate_result hshows, outcome]
  cases expand (Placeholder.outcome surroundings photo visit.clock.now) (scan pattern) with
  | error failure =>
    constructor
    · intro h
      cases h
    · rintro ⟨written, h, -⟩
      cases h
  | ok written =>
    constructor
    · intro h
      exact ⟨written, rfl, Option.some.inj (Except.ok.inj h)⟩
    · rintro ⟨written', hwritten, rfl⟩
      rw [Except.ok.inj hwritten]
      rfl

/-- **When an evaluation returns.** It does exactly if no placeholder of the pattern escapes. Its result is
then the normal form of the pattern with texts for the placeholders: the malformed ones stand for
themselves and the unresolvable ones for their defaults. -/
theorem evaluate_returns_iff (hphoto : photo.WellTyped) (hclock : visit.clock.now ≠ .nan) :
    ((∃ text, result surroundings photo pattern visit = .ok (some text)) ↔
        ∀ p ∈ placeholders pattern, ¬ p.Escapes surroundings photo visit.clock.now) ∧
      ∀ text, result surroundings photo pattern visit = .ok (some text) →
        ∃ put : Placeholder → Text,
          text = normalizePath ((scan pattern).flatMap (Piece.filled put)) ∧
          ∀ p ∈ placeholders pattern,
            (p.Malformed surroundings photo visit.clock.now → put p = p.text) ∧
            (p.Unresolvable surroundings photo visit.clock.now → put p = p.fallback) := by
  refine ⟨?_, fun text htext => ?_⟩
  · have hreturns : (∃ text, result surroundings photo pattern visit = .ok (some text)) ↔
        ∃ written, expand (Placeholder.outcome surroundings photo visit.clock.now) (scan pattern) =
          .ok written := by
      simp only [result_eq_some_iff hclock]
      exact ⟨fun ⟨_, written, h, _⟩ => ⟨written, h⟩, fun ⟨written, h⟩ => ⟨_, written, h, rfl⟩⟩
    rw [hreturns, expand_ok_iff]
    refine forall_congr' fun p => ?_
    rw [mem_placeholders, ← Placeholder.outcome_error_iff hphoto]
    exact imp_congr_right fun _ => ok_iff_not_error
  · obtain ⟨written, hwritten, rfl⟩ := (result_eq_some_iff hclock).1 htext
    have hfilled := expand_eq_filled hwritten
    refine ⟨_, congrArg normalizePath hfilled, fun p _ => ⟨fun h => ?_, fun h => ?_⟩⟩
    · rw [Placeholder.outcome_of_malformed h]
      rfl
    · rw [Placeholder.outcome_of_unresolvable h]
      rfl

end Returning

attribute [local instance] Pattern.CharacterNames.common

/-- A digit outside positional notation passes for a level and is no numeral. -/
theorem not_returns_mixed_level :
    ¬ ∃ text, result {} { raw := [("path".toList, .text "/a/b.jpg".toList)] }
      "x/\x7bPath:1²|none\x7d".toList { clock := { now := .finite 0 } } = .ok (some text) := by
  have hphoto : Photo.WellTyped { raw := [("path".toList, .text "/a/b.jpg".toList)] } :=
    ⟨.inr ⟨_, rfl⟩, nofun⟩
  intro hreturns
  refine (evaluate_returns_iff hphoto (by decide)).1.1 hreturns
    { category := .path, args := "1²".toList, default := some "none".toList,
      text := "\x7bPath:1²|none\x7d".toList, start := 2 } (by decide +kernel) ?_
  exact .level rfl ⟨by decide +kernel, by decide +kernel⟩ (.inl (by decide +kernel))

/-- A malformed level makes the evaluation fail. -/
theorem not_returns_superscript_level :
    Photo.WellTyped { raw := [("path".toList, .text "/a/b.jpg".toList)] } ∧
      ¬ ∃ text, result {} { raw := [("path".toList, .text "/a/b.jpg".toList)] }
        "\x7bPath:²\x7d".toList { clock := { now := .finite 0 } } = .ok (some text) := by
  refine ⟨⟨.inr ⟨_, rfl⟩, nofun⟩, ?_⟩
  have hnone : (result {} { raw := [("path".toList, .text "/a/b.jpg".toList)] }
      "\x7bPath:²\x7d".toList { clock := { now := .finite 0 } }).toOption = none := by
    decide +kernel
  rintro ⟨text, htext⟩
  rw [htext] at hnone
  cases hnone

end Template

end PhotoPublish
