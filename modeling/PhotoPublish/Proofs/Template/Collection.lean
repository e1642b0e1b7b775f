import PhotoPublish.Pattern.CharacterName
import PhotoPublish.Proofs.Template.Ending
import PhotoPublish.Proofs.Template.Keeping

/-!
# Which collection a placeholder takes

A placeholder for a collection shows the first collection of the photo that its filter lets pass.
`Placeholder.Answers` says what it shows, by the values of the collections one after the other, and nothing of
how they are gone through.

* `Placeholder.outcome_of_chooses`: nothing but the collections up to the one that is taken matters.
* `Placeholder.collection_answer_iff`: what the placeholder shows, unless its filter has a fault that is none
  of the notation.
-/

set_option autoImplicit false

namespace PhotoPublish

/-! ## The collections of a photo -/

/-- What a placeholder shows of a collection: its path, or the name at the end of the path. -/
def Lineage.shown (part : Placeholder.CollectionPart) (lineage : Lineage) : Except Failure Text :=
  part.of <$> lineage.path

namespace Photo

/-- The collections that hold the photo. -/
def lineages (photo : Photo) : List Lineage :=
  photo.collections.getD []

/-- The collections and the sets around them have names. -/
def NamesCollections (photo : Photo) : Prop :=
  ∀ lineage ∈ photo.lineages, ∀ collection ∈ lineage.self :: lineage.ancestors,
    collection.name ≠ none

instance (photo : Photo) : Decidable photo.NamesCollections :=
  inferInstanceAs (Decidable (∀ lineage ∈ photo.lineages,
    ∀ collection ∈ lineage.self :: lineage.ancestors, collection.name ≠ none))

variable {photo : Photo}

theorem NamesCollections.exists_paths (h : photo.NamesCollections)
    (part : Placeholder.CollectionPart) :
    ∃ paths, photo.collectionPaths = .ok paths ∧
      photo.lineages.map (Lineage.shown part) = (paths.map part.of).map .ok := by
  obtain ⟨paths, hpaths⟩ := exists_collectionPaths h
  have hshown : Lineage.shown part = (part.of <$> ·) ∘ Lineage.path := rfl
  have hmap : photo.lineages.map Lineage.path = paths.map .ok := mapM_ok_iff.1 hpaths
  refine ⟨paths, hpaths, ?_⟩
  rw [hshown, ← List.map_map, hmap, List.map_map, List.map_map]
  rfl

end Photo

/-- What is kept of the paths of collections is the photo's. -/
def ReflectsCollections (photo : Photo) (snapshot : Snapshot) : Prop :=
  ∀ paths, snapshot.collectionPaths = some paths → photo.collectionPaths = .ok paths

theorem stable_reflectsCollections (photo : Photo) : Stable photo (ReflectsCollections photo) where
  captureTime _ _ h := h
  formatted _ h := h
  segments _ _ _ h := h
  collectionPaths _ _ hread _ _ hpaths := Option.some.inj hpaths ▸ hread

namespace Placeholder

variable {surroundings : Surroundings} {photo : Photo} {now : Binary64} {p : Placeholder}
  {part : CollectionPart} {values : List Text} {value : Text}
  {lineages before after : List Lineage} {chosen : Lineage}

section Answering

variable [Pattern.CharacterNames]

/-- What a placeholder for a collection gives is its outcome, at any time. -/
theorem yields_collection (hcategory : p.category = .collection) :
    YieldsFrom (ReflectsCollections photo) (p.value surroundings photo)
      (p.outcome surroundings photo now) := by
  unfold Placeholder.value Placeholder.outcome
  rw [hcategory]
  simp only
  unfold collectionValue collectionOutcome
  simp only
  cases CollectionPart.ofName? (splitArguments .word p.args).1 with
  | none => exact YieldsFrom.pure _
  | some part =>
    have hpaths : YieldsFrom (ReflectsCollections photo) (Evaluate.collectionPaths photo)
        photo.collectionPaths :=
      YieldsFrom.cached (fun _ h => h) (fun _ => rfl) fun snapshot paths hread h =>
        (stable_reflectsCollections photo).collectionPaths snapshot paths hread h
    exact hpaths.bind fun _ => YieldsFrom.ofExcept _

/-! ## What a placeholder shows -/

/-- A collection has a value, and the filter lets it pass. -/
def Admits (p : Placeholder) (part : CollectionPart) (lineage : Lineage) (value : Text) : Prop :=
  lineage.shown part = .ok value ∧ Passes p.afterWord value

/-- The collection that is taken, with its value, and the collections in front of it, none of which can
be. -/
structure Chooses (p : Placeholder) (part : CollectionPart) (before : List Lineage) (chosen : Lineage)
    (value : Text) : Prop where
  admits : p.Admits part chosen value
  refuses : ∀ lineage ∈ before, ∀ v, ¬ p.Admits part lineage v

/-- Collections that cannot be taken may be missing. -/
theorem Chooses.of_sublist (h : p.Chooses part before chosen value) {before' : List Lineage}
    (hsublist : before'.Sublist before) : p.Chooses part before' chosen value :=
  ⟨h.admits, fun lineage hmem => h.refuses lineage (hsublist.subset hmem)⟩

/-- What stands for a placeholder, by the collections of the photo. -/
inductive Answers (p : Placeholder) (part : CollectionPart) : List Lineage → Text → Prop
  | nowhere : Answers p part [] p.fallback
  | fault {lineages : List Lineage} {filter : Text} {fault : Pattern.Fault} : lineages ≠ [] →
      p.afterWord = some filter → Pattern.read filter = .error fault → Answers p part lineages p.text
  | first {before after : List Lineage} {chosen : Lineage} {value : Text} :
      p.Chooses part before chosen value → Answers p part (before ++ chosen :: after) value
  | noMatch {lineages : List Lineage} : Readable p.afterWord →
      (∀ lineage ∈ lineages, ∀ v, ¬ p.Admits part lineage v) → Answers p part lineages p.fallback

/-- A placeholder escapes from a photo in collections if its filter has a fault that is none of the
notation. -/
def FilterEscapes (p : Placeholder) (photo : Photo) : Prop :=
  photo.lineages ≠ [] ∧ ∃ filter fault, p.afterWord = some filter ∧
    Pattern.read filter = .error fault ∧ fault ≠ .malformed

/-- Values that no collection has passing do not pass. -/
theorem not_passes_of_refuses
    (hvalues : lineages.map (Lineage.shown part) = values.map .ok)
    (h : ∀ lineage ∈ lineages, ∀ v, ¬ p.Admits part lineage v) :
    ∀ v ∈ values, ¬ Passes p.afterWord v := by
  intro v hmem hpasses
  have hshown : Except.ok v ∈ lineages.map (Lineage.shown part) :=
    hvalues ▸ List.mem_map_of_mem hmem
  obtain ⟨lineage, hlineage, hv⟩ := List.mem_map.1 hshown
  exact h lineage hlineage v ⟨hv, hpasses⟩

theorem firstMatch_of_chooses
    (hvalues : (before ++ chosen :: after).map (Lineage.shown part) = values.map .ok)
    (h : p.Chooses part before chosen value) :
    firstMatch p.afterWord values = .ok (some value) := by
  rw [List.map_append, List.map_cons] at hvalues
  obtain ⟨front, rest, rfl, hfront, hrest⟩ := List.map_eq_append_iff.1 hvalues.symm
  obtain ⟨v, back, rfl, hv, -⟩ := List.map_eq_cons_iff.1 hrest
  obtain rfl : v = value := Except.ok.inj (hv.trans h.admits.1)
  exact (firstMatch_eq_some_iff (readable_of_passes h.admits.2)).2
    ⟨h.admits.2, front, back, rfl, not_passes_of_refuses hfront.symm h.refuses⟩

/-- A collection is taken, or none can be. -/
theorem exists_chooses_or_refuses (p : Placeholder) (part : CollectionPart) (lineages : List Lineage) :
    (∃ before chosen after value, lineages = before ++ chosen :: after ∧
        p.Chooses part before chosen value) ∨
      ∀ lineage ∈ lineages, ∀ v, ¬ p.Admits part lineage v := by
  induction lineages with
  | nil => exact .inr nofun
  | cons lineage rest ih =>
    by_cases hfirst : ∃ value, p.Admits part lineage value
    · obtain ⟨value, hadmits⟩ := hfirst
      exact .inl ⟨[], lineage, rest, value, rfl, hadmits, nofun⟩
    · rw [not_exists] at hfirst
      rcases ih with ⟨before, chosen, after, value, rfl, hadmits, hrefuses⟩ | hrefuses
      · exact .inl ⟨lineage :: before, chosen, after, value, rfl, hadmits,
          List.forall_mem_cons.2 ⟨hfirst, hrefuses⟩⟩
      · exact .inr (List.forall_mem_cons.2 ⟨hfirst, hrefuses⟩)

/-- There is always an answer. -/
theorem exists_answers (p : Placeholder) (part : CollectionPart) (lineages : List Lineage) :
    ∃ text, p.Answers part lineages text := by
  by_cases hempty : lineages = []
  · exact ⟨p.fallback, hempty ▸ .nowhere⟩
  by_cases hreadable : Readable p.afterWord
  · rcases exists_chooses_or_refuses p part lineages with
      ⟨before, chosen, after, value, rfl, hchooses⟩ | hrefuses
    · exact ⟨value, .first hchooses⟩
    · exact ⟨p.fallback, .noMatch hreadable hrefuses⟩
  · obtain ⟨filter, fault, hfilter, hread⟩ := exists_fault_of_not_readable hreadable
    exact ⟨p.text, .fault hempty hfilter hread⟩

section Outcomes

variable (hphoto : photo.NamesCollections) (hcategory : p.category = .collection)
  (hpart : CollectionPart.ofName? p.word = some part)
include hphoto hcategory hpart

omit [Pattern.CharacterNames] in
/-- The placeholder looks through the values of the collections. -/
theorem exists_lists : ∃ values, photo.lineages.map (Lineage.shown part) = values.map .ok ∧
    p.Lists photo values p.afterWord := by
  obtain ⟨paths, hpaths, hvalues⟩ := hphoto.exists_paths part
  exact ⟨paths.map part.of, hvalues, .collections hcategory hpart hpaths⟩

omit [Pattern.CharacterNames] in
/-- A filter is put to use if the photo is in a collection. -/
theorem searches_of_ne_nil (hne : photo.lineages ≠ []) {pattern : Text}
    (hfilter : p.afterWord = some pattern) : p.Searches photo pattern := by
  obtain ⟨values, hvalues, hlists⟩ := exists_lists hphoto hcategory hpart
  rw [hfilter] at hlists
  refine .collections hlists ?_
  rintro rfl
  exact hne (List.map_eq_nil_iff.1 hvalues)

/-- **The collection that is taken does not depend on those behind it,** nor on those in front of it, as long
as none of them can be taken. -/
theorem outcome_of_chooses (hlineages : photo.lineages = before ++ chosen :: after)
    (h : p.Chooses part before chosen value) : p.outcome surroundings photo now = .ok value := by
  obtain ⟨values, hvalues, hlists⟩ := exists_lists hphoto hcategory hpart
  rw [hlineages] at hvalues
  rw [outcome_of_lists hlists, firstMatch_of_chooses hvalues h]
  rfl

/-- Without a filter the first collection is taken. -/
theorem outcome_of_no_filter (hfilter : p.afterWord = none) {first : Lineage} {rest : List Lineage}
    (hlineages : photo.lineages = first :: rest) {path : Text} (hpath : first.path = .ok path) :
    p.outcome surroundings photo now = .ok (part.of path) := by
  have hshown : first.shown part = .ok (part.of path) := by
    rw [Lineage.shown, hpath]
    rfl
  have hpasses : Passes p.afterWord (part.of path) := by
    rw [hfilter]
    trivial
  have hchooses : p.Chooses part [] first (part.of path) := ⟨⟨hshown, hpasses⟩, nofun⟩
  exact outcome_of_chooses hphoto hcategory hpart hlineages hchooses

theorem outcome_of_answers {text : Text} (h : p.Answers part lineages text)
    (hlineages : photo.lineages = lineages) (hescapes : ¬ p.FilterEscapes photo) :
    p.outcome surroundings photo now = .ok text := by
  cases h with
  | first hchooses => exact outcome_of_chooses hphoto hcategory hpart hlineages hchooses
  | nowhere =>
    obtain ⟨values, hvalues, hlists⟩ := exists_lists hphoto hcategory hpart
    rw [hlineages, List.map_nil, eq_comm, List.map_eq_nil_iff] at hvalues
    rw [hvalues] at hlists
    exact outcome_of_unresolvable (.noCollection hlists rfl)
  | @fault _ filter fault hne hfilter hread =>
    have hmalformed : fault = .malformed := by
      by_contra hother
      exact hescapes ⟨hlineages ▸ hne, filter, fault, hfilter, hread, hother⟩
    have hsearches := searches_of_ne_nil hphoto hcategory hpart (hlineages ▸ hne) hfilter
    exact outcome_of_malformed (.pattern hsearches (hmalformed ▸ hread))
  | noMatch hreadable hrefuses =>
    obtain ⟨values, hvalues, hlists⟩ := exists_lists hphoto hcategory hpart
    rw [hlineages] at hvalues
    have hnone := (firstMatch_eq_none_iff hreadable).2 (not_passes_of_refuses hvalues hrefuses)
    exact outcome_of_unresolvable (.noCollection hlists hnone)

theorem outcome_of_filterEscapes (h : p.FilterEscapes photo) :
    ∃ failure, p.outcome surroundings photo now = .error failure := by
  obtain ⟨hne, filter, fault, hfilter, hread, hfault⟩ := h
  have hsearches := searches_of_ne_nil hphoto hcategory hpart hne hfilter
  exact outcome_of_escapes (.pattern hsearches hread hfault)

/-- There is one answer, and it is the outcome, exactly if the filter does not escape. -/
theorem outcome_answers_iff :
    (∃ text, p.outcome surroundings photo now = .ok text ∧
        ∀ other, p.Answers part photo.lineages other ↔ other = text) ↔ ¬ p.FilterEscapes photo := by
  constructor
  · rintro ⟨text, htext, -⟩ hescapes
    obtain ⟨failure, hfailure⟩ := outcome_of_filterEscapes hphoto hcategory hpart hescapes
    rw [hfailure] at htext
    cases htext
  · intro hescapes
    obtain ⟨text, htext⟩ := exists_answers p part photo.lineages
    have hanswers : ∀ other, p.Answers part photo.lineages other →
        p.outcome surroundings photo now = .ok other :=
      fun other hother => outcome_of_answers hphoto hcategory hpart hother rfl hescapes
    refine ⟨text, hanswers text htext, fun other => ⟨fun hother => ?_, fun hother => hother ▸ htext⟩⟩
    exact Except.ok.inj ((hanswers other hother).symm.trans (hanswers text htext))

end Outcomes

/-- Without a filter the name is the last segment of the path. -/
theorem outcome_name_of_path (hphoto : photo.NamesCollections) (hne : photo.lineages ≠ []) {q : Placeholder}
    (hcategory : p.category = .collection) (hpart : CollectionPart.ofName? p.word = some .name)
    (hfilter : p.afterWord = none) (hcategory' : q.category = .collection)
    (hpart' : CollectionPart.ofName? q.word = some .path) (hfilter' : q.afterWord = none) :
    ∃ path, q.outcome surroundings photo now = .ok path ∧
      p.outcome surroundings photo now = .ok ((Path.segments path).getLast?.getD []) := by
  obtain ⟨first, rest, hlineages⟩ := List.exists_cons_of_ne_nil hne
  obtain ⟨path, hpath⟩ := Lineage.exists_path (hphoto first (hlineages ▸ List.mem_cons_self))
  refine ⟨path, outcome_of_no_filter hphoto hcategory' hpart' hfilter' hlineages hpath, ?_⟩
  rw [outcome_of_no_filter hphoto hcategory hpart hfilter hlineages hpath,
    ← Path.afterLast_slash (Lineage.enclosed_of_path hpath)]
  rfl

/-! ## Evaluations -/

/-- What stands for a placeholder in the course of an evaluation. -/
def answer (surroundings : Surroundings) (photo : Photo) (state : Evaluation) (p : Placeholder) :
    Except Failure Text :=
  ((p.value surroundings photo).run.run state).1

theorem answer_eq_outcome (hcategory : p.category = .collection) {state : Evaluation}
    (hstate : ReflectsCollections photo state.snapshot) :
    p.answer surroundings photo state = p.outcome surroundings photo now :=
  (yields_collection hcategory state hstate).1

end Answering

/-- A collection in a set. -/
def trip (name : Text) : Lineage :=
  { self := { name := some name }
    ancestors := [{ name := some "Trips".toList, isSet := true }] }

/-- A photo in collections. -/
def photoIn (lineages : List Lineage) : Photo :=
  { raw := [], collections := some lineages }

/-- A placeholder for the name of a collection. -/
def nameOf (filter : Text) : Placeholder :=
  { category := .collection, args := "name ".toList ++ filter, default := some "none".toList,
    text := "\x7bLrCC:name ".toList ++ filter ++ "|none\x7d".toList, start := 0 }

attribute [local instance] Pattern.CharacterNames.common

end Placeholder

end PhotoPublish
