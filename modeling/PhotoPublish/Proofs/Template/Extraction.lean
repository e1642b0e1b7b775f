import PhotoPublish.Proofs.Template.Ending
import PhotoPublish.Proofs.Template.Grammar
import PhotoPublish.Proofs.Template.Keeping

/-!
# What is extracted

Placeholders for metadata and for directories take a part of a value and make it a legal name. They do not
look at the clock, so that what they give needs no assumption on it (`Yields`), only that what has been kept of
metadata and path is the photo's (`Reflects`).

* `Preserves.value`: it is in every state of an evaluation.
* `Placeholder.Takes.isInfix`: what is taken stands in the value as it is.
* `Placeholder.value_legal`: what stands for such a placeholder. It is the placeholder's own text exactly if
  that cannot be read (`Placeholder.Illegible`); otherwise it is the default or a part of the value as a legal
  name.
-/

set_option autoImplicit false

namespace PhotoPublish

/-! ## Legal names -/

theorem length_legalName (name : Text) : (legalName name).length = name.length :=
  List.length_map _

theorem not_illegal_of_mem_legalName {name : Text} {c : Char} (h : c ∈ legalName name) :
    c ∉ illegalCharacters := by
  obtain ⟨d, -, rfl⟩ := List.mem_map.1 h
  split
  · decide
  · rename_i hlegal
    simpa using hlegal

/-- Characters that are legal stay, in their order. -/
theorem filter_legalName {f : Char → Bool} (hf : ∀ c ∈ replacement :: illegalCharacters, ¬ f c = true)
    (name : Text) : (legalName name).filter f = name.filter f := by
  obtain ⟨hreplacement, hillegal⟩ := List.forall_mem_cons.1 hf
  induction name with
  | nil => rfl
  | cons c rest ih =>
    have hcons : legalName (c :: rest) =
        (if illegalCharacters.contains c then replacement else c) :: legalName rest := rfl
    rw [hcons, List.filter_cons, List.filter_cons, ih]
    by_cases hc : c ∈ illegalCharacters
    · simp [hc, hreplacement, hillegal c hc]
    · simp [hc]

/-! ## Evaluation without a clock -/

/-- What is kept of metadata and path is the photo's. -/
structure Reflects (photo : Photo) (snapshot : Snapshot) : Prop where
  formatted : ∀ fields, snapshot.formatted = some fields → photo.formattedFields = fields
  segments : ∀ segments, snapshot.segments = some segments → photo.pathSegments = .ok segments

/-- Nothing is kept at first. -/
theorem reflects_new (photo : Photo) : Reflects photo {} :=
  ⟨nofun, nofun⟩

/-- A step gives a result whatever has been kept and whatever the clock shows. -/
def Yields {α : Type} (photo : Photo) (step : Evaluate α) (result : Except Failure α) : Prop :=
  ∀ state, Reflects photo state.snapshot →
    (step.run.run state).1 = result ∧ Reflects photo (step.run.run state).2.snapshot

/-- A placeholder for metadata or for a directory. -/
def Placeholder.Extracts (p : Placeholder) : Prop :=
  p.category = .formatted ∨ p.category = .path

instance (p : Placeholder) : Decidable p.Extracts :=
  inferInstanceAs (Decidable (_ ∨ _))

namespace Yields

variable {photo : Photo}

theorem formatted : Yields photo (Evaluate.formatted photo) (.ok photo.formattedFields) := by
  refine YieldsFrom.cached (fun _ h fields hkept => ?_) (fun _ => rfl) (fun _ fields hread h => ?_)
  · rw [h.formatted fields hkept]
  · refine ⟨?_, h.segments⟩
    rintro _ ⟨⟩
    exact Except.ok.inj hread

theorem segments : Yields photo (Evaluate.segments photo) photo.pathSegments := by
  refine YieldsFrom.cached (fun _ h => h.segments) (fun visit => ?_) (fun _ segments hread h => ?_)
  · unfold Photo.pathSegments
    rw [run_bind_ok (photo.fetchRaw_run Photo.pathKey visit)]
    cases photo.raw.get Photo.pathKey <;> rfl
  · refine ⟨h.formatted, ?_⟩
    rintro _ ⟨⟩
    exact hread

variable [Pattern.CharacterNames] {p : Placeholder} (surroundings : Surroundings) (now : Binary64)

/-- **What a placeholder for metadata or for a directory gives is its outcome,** at any time. -/
theorem value (hp : p.Extracts) :
    Yields photo (p.value surroundings photo) (p.outcome surroundings photo now) := by
  unfold Placeholder.value Placeholder.outcome
  rcases hp with hcategory | hcategory <;> rw [hcategory]
  · exact YieldsFrom.bind formatted fun _ => (YieldsFrom.ofExcept _).bind fun _ => YieldsFrom.ofExcept _
  · simp only
    unfold Placeholder.pathValue Placeholder.pathOutcome
    simp only
    split
    · exact YieldsFrom.pure _
    · exact (YieldsFrom.ofExcept _).bind fun _ =>
        YieldsFrom.bind segments fun _ => YieldsFrom.ofExcept _

theorem valueOfPieces {pieces : List Piece} (h : ∀ p, .placeholder p ∈ pieces → p.Extracts) :
    Yields photo (Template.valueOfPieces surroundings photo pieces)
      (expand (Placeholder.outcome surroundings photo now) pieces) := by
  induction pieces with
  | nil => exact YieldsFrom.pure []
  | cons piece rest ih =>
    have hrest := ih fun p hp => h p (List.mem_cons_of_mem _ hp)
    have hlater (text : Text) := YieldsFrom.bind hrest fun later => YieldsFrom.pure (text ++ later)
    cases piece with
    | literal text => exact (YieldsFrom.pure text).bind hlater
    | placeholder p => exact YieldsFrom.bind (value surroundings now (h p List.mem_cons_self)) hlater

end Yields

/-! ## Evaluation of any placeholder -/

/-- A step leaves what is kept of metadata and path the photo's. -/
def Preserves {α : Type} (photo : Photo) (step : Evaluate α) : Prop :=
  ∀ state, Reflects photo state.snapshot → Reflects photo (step.run.run state).2.snapshot

/-- What is read of the photo is the photo's. -/
theorem stable_reflects (photo : Photo) : Stable photo (Reflects photo) where
  captureTime _ _ h := ⟨h.formatted, h.segments⟩
  formatted _ h := ⟨fun _ hfields => Option.some.inj hfields, h.segments⟩
  segments _ _ hread h := ⟨h.formatted, fun _ hsegments => Option.some.inj hsegments ▸ hread⟩
  collectionPaths _ _ _ h := ⟨h.formatted, h.segments⟩

/-- **Every placeholder leaves what is kept the photo's,** so that it is in every state of an evaluation. -/
theorem Preserves.value [Pattern.CharacterNames] {photo : Photo} (surroundings : Surroundings)
    (p : Placeholder) : Preserves photo (p.value surroundings photo) :=
  (stable_reflects photo).value surroundings p

/-! ## The text of a placeholder -/

namespace Placeholder

variable {p : Placeholder} {text : Text} {start : Int}

/-- The default stands at the end of the text, before the closing brace. -/
theorem exists_text_eq (h : parse? text start = some p) :
    ∃ before, p.text = '\x7b' :: (before ++ (p.fallback ++ ['\x7d'])) := by
  obtain ⟨separator, hspelling⟩ := exists_spelling h
  obtain ⟨before, hbefore⟩ : ∃ before, behindBar p.default = before ++ p.fallback := by
    unfold fallback
    cases p.default with
    | none => exact ⟨[], rfl⟩
    | some default => exact ⟨['|'], rfl⟩
  refine ⟨p.category.name ++ (separator ++ (p.args ++ before)), ?_⟩
  rw [(text_of_parse? h).1, hspelling.text_eq, hbefore]
  simp only [List.append_assoc]

theorem fallback_ne_text (h : parse? text start = some p) : p.fallback ≠ p.text := by
  obtain ⟨before, htext⟩ := exists_text_eq h
  intro hsame
  have hlength := congrArg List.length hsame
  rw [htext] at hlength
  simp only [List.length_cons, List.length_append] at hlength
  omega

theorem colon_mem_text (h : parse? text start = some p) (hp : p.Extracts) : ':' ∈ p.text := by
  obtain ⟨separator, hspelling⟩ := exists_spelling h
  have hseparates := hspelling.separates
  have hcolon : separator = [':'] := by
    rcases hp with hcategory | hcategory <;> rw [hcategory] at hseparates <;> exact hseparates
  rw [(text_of_parse? h).1, hspelling.text_eq, hcolon]
  simp

theorem legalName_ne_text (h : parse? text start = some p) (hp : p.Extracts) (part : Text) :
    legalName part ≠ p.text := by
  intro hsame
  have hcolon := colon_mem_text h hp
  rw [← hsame] at hcolon
  exact not_illegal_of_mem_legalName hcolon (by decide)

end Placeholder

/-! ## Parts of a value -/

theorem Text.slice_isInfix (text : Text) (first last : Nat) : text.slice first last <:+: text :=
  (List.take_prefix _ _).isInfix.trans (List.drop_suffix _ _).isInfix

namespace Placeholder

variable [Pattern.CharacterNames]

/-- The part of a value that a pattern takes; without a pattern it is the whole value. -/
def Takes (value : Text) : Option Text → Text → Prop
  | none, part => part = value
  | some pattern, part => Pattern.extract value pattern = .ok (some part)

/-- **A part stands in its value as it is.** -/
theorem Takes.isInfix {value part : Text} {pattern : Option Text} (h : Takes value pattern part) :
    part <:+: value := by
  cases pattern with
  | none => exact h ▸ List.infix_rfl
  | some pattern =>
    simp only [Takes, Pattern.extract, bind, Except.bind] at h
    split at h
    · cases h
    · rename_i compiled _
      split at h
      · cases h
      · rename_i found _
        split at h
        · obtain rfl := Option.some.inj (Except.ok.inj h)
          exact Text.slice_isInfix ..
        · obtain ⟨bounds, -, rfl⟩ := Option.map_eq_some_iff.1 (Except.ok.inj h)
          exact Text.slice_isInfix ..

variable {surroundings : Surroundings} {photo : Photo} {now : Binary64} {p : Placeholder}
  {text value r : Text} {start : Int} {pattern : Option Text}

/-- An extraction gives a part as a legal name, or the default, or the placeholder's text for a pattern that
breaks the notation. -/
theorem extracted_ok (h : p.extracted value pattern = .ok r) :
    (r = p.text ∧ value ≠ [] ∧ ∃ text, pattern = some text ∧ Pattern.read text = .error .malformed) ∨
      r = p.fallback ∨ ∃ part, Takes value pattern part ∧ r = legalName part := by
  by_cases hvalue : value = []
  · subst hvalue
    exact .inr (.inl (Except.ok.inj h).symm)
  · cases pattern with
    | none =>
      rw [extracted, if_neg (by simpa using hvalue)] at h
      exact .inr (.inr ⟨value, rfl, (Except.ok.inj h).symm⟩)
    | some pattern =>
      rw [extracted_of_ne_nil hvalue] at h
      cases hextract : Pattern.extract value pattern with
      | error fault =>
        rw [hextract] at h
        rcases orSelf_ok h with hok | ⟨hfault, htext⟩
        · cases hok
        · obtain rfl : fault = .malformed := Except.error.inj hfault
          exact .inl ⟨htext, hvalue, pattern, rfl, extract_error_iff.1 hextract⟩
      | ok found =>
        rw [hextract] at h
        cases found with
        | none => exact .inr (.inl (Except.ok.inj h).symm)
        | some part => exact .inr (.inr ⟨part, hextract, (Except.ok.inj h).symm⟩)

/-! ## What stands for a placeholder -/

/-- A placeholder that cannot be read: its level is none, or its pattern breaks the notation. -/
inductive Illegible (photo : Photo) (p : Placeholder) : Prop
  | level : p.category = .path → ¬ IsLevel p.level → Illegible photo p
  | pattern {value pattern : Text} : p.Selects photo value (some pattern) → value ≠ [] →
      Pattern.read pattern = .error .malformed → Illegible photo p

theorem Illegible.malformed (h : p.Illegible photo) : p.Malformed surroundings photo now := by
  cases h with
  | level hcategory hlevel => exact .level hcategory hlevel
  | pattern hselects hne hread => exact .pattern (.value hselects hne) hread

/-- A placeholder that extracts and has a text selects a value, unless it has no level. -/
theorem selects_of_outcome (hp : p.Extracts) (h : p.outcome surroundings photo now = .ok r) :
    (p.category = .path ∧ ¬ IsLevel p.level ∧ r = p.text) ∨
      ∃ value pattern, p.Selects photo value pattern ∧ p.extracted value pattern = .ok r := by
  rcases hp with hcategory | hcategory
  · rw [outcome_of_formatted hcategory] at h
    obtain ⟨value, hvalue, h⟩ := exists_of_bind_ok h
    exact .inr ⟨value, p.afterWord, .formatted hcategory hvalue, h⟩
  · by_cases hlevel : IsLevel p.level
    · rw [outcome_of_level hcategory hlevel] at h
      obtain ⟨level, hread, h⟩ := exists_of_bind_ok h
      obtain ⟨segments, hsegments, h⟩ := exists_of_bind_ok h
      by_cases hnumeral : p.level.all isDecimal = false ∨ Numeral.longest < p.level.length
      · obtain ⟨failure, hfailure, -⟩ := Numeral.read_digitCharacters hlevel.2 hnumeral
        rw [hfailure] at hread
        cases hread
      · obtain ⟨hdecimal, hlength⟩ := not_or.1 hnumeral
        rw [Bool.not_eq_false] at hdecimal
        rw [Nat.not_lt] at hlength
        obtain rfl := Except.ok.inj ((Numeral.read_decimals hlevel.1 hdecimal hlength).symm.trans hread)
        exact .inr ⟨_, _, .path hcategory hlevel.1 hdecimal hlength hsegments, h⟩
    · rw [outcome_of_not_level hcategory hlevel] at h
      exact .inl ⟨hcategory, hlevel, (Except.ok.inj h).symm⟩

theorem legal_of_outcome (hp : p.Extracts) (h : p.outcome surroundings photo now = .ok r) :
    (r = p.text ∧ p.Illegible photo) ∨ r = p.fallback ∨
      ∃ value pattern part, p.Selects photo value pattern ∧ Takes value pattern part ∧
        r = legalName part := by
  rcases selects_of_outcome hp h with ⟨hcategory, hlevel, htext⟩ | ⟨value, pattern, hselects, h⟩
  · exact .inl ⟨htext, .level hcategory hlevel⟩
  · rcases extracted_ok h with ⟨htext, hne, text, rfl, hread⟩ | hfallback | ⟨part, htakes, hr⟩
    · exact .inl ⟨htext, .pattern hselects hne hread⟩
    · exact .inr (.inl hfallback)
    · exact .inr (.inr ⟨value, pattern, part, hselects, htakes, hr⟩)

/-- **What stands for a placeholder of metadata or of a directory.** It is the placeholder's own text exactly
if that cannot be read. Otherwise it is the default, or a part of the value as a legal name. -/
theorem value_legal (h : parse? text start = some p) (hp : p.Extracts) {state : Evaluation}
    (hstate : Reflects photo state.snapshot)
    (hr : ((p.value surroundings photo).run.run state).1 = .ok r) :
    (r = p.text ↔ p.Illegible photo) ∧
      (r = p.text ∨ r = p.fallback ∨
        ∃ value pattern part, p.Selects photo value pattern ∧ Takes value pattern part ∧
          part <:+: value ∧ r = legalName part ∧ (∀ c ∈ r, c ∉ illegalCharacters) ∧
          r.length = part.length) := by
  have houtcome : p.outcome surroundings photo (.finite 0) = .ok r := by
    rw [← (Yields.value surroundings (.finite 0) hp state hstate).1, hr]
  refine ⟨⟨fun htext => ?_, fun hillegible => ?_⟩, ?_⟩
  · rcases legal_of_outcome hp houtcome with ⟨-, hillegible⟩ | hfallback | ⟨-, -, part, -, -, hpart⟩
    · exact hillegible
    · exact absurd (hfallback.symm.trans htext) (fallback_ne_text h)
    · exact absurd (hpart.symm.trans htext) (legalName_ne_text h hp part)
  · rw [outcome_of_malformed hillegible.malformed] at houtcome
    exact (Except.ok.inj houtcome).symm
  · rcases legal_of_outcome hp houtcome with
      ⟨htext, -⟩ | hfallback | ⟨value, pattern, part, hselects, htakes, rfl⟩
    · exact .inl htext
    · exact .inr (.inl hfallback)
    · exact .inr (.inr ⟨value, pattern, part, hselects, htakes, htakes.isInfix, rfl,
        fun c hc => not_illegal_of_mem_legalName hc, length_legalName part⟩)

end Placeholder

end PhotoPublish
