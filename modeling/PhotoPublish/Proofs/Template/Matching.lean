import PhotoPublish.Proofs.Template.Outcome

/-!
# Patterns in placeholders

A pattern that cannot be read makes a placeholder stand for itself, if its fault is one of the notation.
Other faults are not caught. A filter for collections is a pattern as well, where having none is to have one
that lets every value pass.

* `Placeholder.firstMatch_eq_some_iff`, `Placeholder.firstMatch_eq_none_iff`: what a search with a filter
  that can be read finds.
* `Placeholder.firstMatch_fault`, `Placeholder.firstMatch_error`: when a search fails.
-/

set_option autoImplicit false

namespace PhotoPublish.Placeholder

variable {p : Placeholder} {filter : Option Text} {values : List Text} {value : Text}

/-! ## Faults -/

theorem orSelf_malformed : p.orSelf (.error .malformed) = .ok p.text := rfl

theorem orSelf_fault {fault : Pattern.Fault} (h : fault ≠ .malformed) :
    ∃ failure, p.orSelf (.error fault) = .error failure := by
  cases fault with
  | malformed => exact absurd rfl h
  | hugeCount => exact ⟨_, rfl⟩
  | conflictingFlags => exact ⟨_, rfl⟩

theorem orSelf_error {result : Except Pattern.Fault Text} {failure : Failure}
    (h : p.orSelf result = .error failure) :
    ∃ fault, result = .error fault ∧ fault ≠ .malformed := by
  cases result with
  | ok text => cases h
  | error fault =>
    refine ⟨fault, rfl, ?_⟩
    rintro rfl
    cases h

theorem orSelf_ok {result : Except Pattern.Fault Text} {text : Text}
    (h : p.orSelf result = .ok text) :
    result = .ok text ∨ result = .error .malformed ∧ text = p.text := by
  cases result with
  | ok found => exact .inl (congrArg Except.ok (Except.ok.inj h))
  | error fault =>
    cases fault with
    | malformed => exact .inr ⟨rfl, (Except.ok.inj h).symm⟩
    | hugeCount | conflictingFlags => cases h

variable [Pattern.CharacterNames]

theorem extract_error_iff {pattern : Text} {fault : Pattern.Fault} :
    Pattern.extract value pattern = .error fault ↔ Pattern.read pattern = .error fault := by
  unfold Pattern.extract
  cases Pattern.read pattern with
  | error fault' => simp only [bind, Except.bind, Except.error.injEq]
  | ok compiled =>
    refine iff_of_false ?_ nofun
    simp only [bind, Except.bind]
    split
    · nofun
    · split <;> nofun

theorem occursIn_error {pattern : Text} {fault : Pattern.Fault}
    (h : Pattern.read pattern = .error fault) : Pattern.occursIn pattern value = .error fault := by
  rw [Pattern.occursIn, h]
  rfl

theorem occursIn_ok {pattern : Text} {compiled : Pattern.Compiled}
    (h : Pattern.read pattern = .ok compiled) (value : Text) :
    Pattern.occursIn pattern value = .ok (compiled.search value).isSome := by
  rw [Pattern.occursIn, h]
  rfl

/-! ## The first match -/

/-- A filter lets a value pass if it matches somewhere in it; without a filter every value passes. -/
def Passes : Option Text → Text → Prop
  | none, _ => True
  | some pattern, value => Pattern.occursIn pattern value = .ok true

instance : (filter : Option Text) → (value : Text) → Decidable (Passes filter value)
  | none, _ => isTrue trivial
  | some pattern, value =>
    decidable_of_iff ((Pattern.occursIn pattern value).toOption = some true) <| by
      rw [Passes]
      cases Pattern.occursIn pattern value with
      | error fault => exact iff_of_false nofun nofun
      | ok matched => exact ⟨congrArg Except.ok ∘ Option.some.inj, congrArg some ∘ Except.ok.inj⟩

/-- There is no filter, or one without faults. -/
def Readable : Option Text → Prop
  | none => True
  | some pattern => ∃ compiled, Pattern.read pattern = .ok compiled

theorem readable_of_passes (h : Passes filter value) : Readable filter := by
  cases filter with
  | none => trivial
  | some pattern =>
    cases hread : Pattern.read pattern with
    | ok compiled => exact ⟨compiled, hread⟩
    | error fault =>
      rw [Passes, occursIn_error hread] at h
      cases h

theorem exists_fault_of_not_readable (h : ¬ Readable filter) :
    ∃ pattern fault, filter = some pattern ∧ Pattern.read pattern = .error fault := by
  cases filter with
  | none => exact absurd trivial h
  | some pattern =>
    cases hread : Pattern.read pattern with
    | ok compiled => exact absurd ⟨compiled, hread⟩ h
    | error fault => exact ⟨pattern, fault, rfl, hread⟩

/-- A search with a filter that can be read is a search for a property. -/
theorem exists_firstMatch_eq_find? (h : Readable filter) :
    ∃ pass : Text → Bool, (∀ value, pass value = true ↔ Passes filter value) ∧
      ∀ values, firstMatch filter values = .ok (values.find? pass) := by
  cases filter with
  | none =>
    refine ⟨fun _ => true, fun _ => iff_of_true rfl trivial, fun values => ?_⟩
    cases values <;> rfl
  | some pattern =>
    obtain ⟨compiled, hread⟩ := h
    refine ⟨fun value => (compiled.search value).isSome, fun value => ?_, fun values => ?_⟩
    · rw [Passes, occursIn_ok hread, Except.ok.injEq]
    · induction values with
      | nil => rfl
      | cons value rest ih =>
        simp only [firstMatch, occursIn_ok hread, bind, Except.bind, List.find?_cons, ih]
        cases (compiled.search value).isSome <;> rfl

/-- **The search finds the first value that passes.** -/
theorem firstMatch_eq_some_iff (h : Readable filter) :
    firstMatch filter values = .ok (some value) ↔
      Passes filter value ∧
        ∃ before after, values = before ++ value :: after ∧ ∀ v ∈ before, ¬ Passes filter v := by
  obtain ⟨pass, hpass, hfind⟩ := exists_firstMatch_eq_find? h
  simp only [hfind, Except.ok.injEq, List.find?_eq_some_iff_append, ← hpass, Bool.not_eq_true,
    Bool.not_eq_eq_eq_not, Bool.not_true]

theorem firstMatch_eq_none_iff (h : Readable filter) :
    firstMatch filter values = .ok none ↔ ∀ v ∈ values, ¬ Passes filter v := by
  obtain ⟨pass, hpass, hfind⟩ := exists_firstMatch_eq_find? h
  simp only [hfind, Except.ok.injEq, List.find?_eq_none, hpass]

theorem firstMatch_fault {pattern : Text} {fault : Pattern.Fault}
    (h : Pattern.read pattern = .error fault) (hvalues : values ≠ []) :
    firstMatch (some pattern) values = .error fault := by
  obtain ⟨value, rest, rfl⟩ := List.exists_cons_of_ne_nil hvalues
  simp only [firstMatch, occursIn_error h]
  rfl

theorem firstMatch_error {fault : Pattern.Fault} (h : firstMatch filter values = .error fault) :
    values ≠ [] ∧ ∃ pattern, filter = some pattern ∧ Pattern.read pattern = .error fault := by
  have hvalues : values ≠ [] := by
    rintro rfl
    cases h
  have hunreadable : ¬ Readable filter := by
    intro hreadable
    obtain ⟨pass, -, hfind⟩ := exists_firstMatch_eq_find? hreadable
    rw [hfind] at h
    cases h
  obtain ⟨pattern, fault', rfl, hread⟩ := exists_fault_of_not_readable hunreadable
  rw [firstMatch_fault hread hvalues] at h
  exact ⟨hvalues, pattern, rfl, Except.error.inj h ▸ hread⟩

theorem mem_of_firstMatch (h : firstMatch filter values = .ok (some value)) : value ∈ values := by
  by_cases hreadable : Readable filter
  · obtain ⟨-, before, after, rfl, -⟩ := (firstMatch_eq_some_iff hreadable).1 h
    exact List.mem_append_right before List.mem_cons_self
  · obtain ⟨pattern, fault, rfl, hread⟩ := exists_fault_of_not_readable hreadable
    cases values with
    | nil => cases h
    | cons first rest =>
      rw [firstMatch_fault hread (List.cons_ne_nil first rest)] at h
      cases h

end PhotoPublish.Placeholder
