import Mathlib.Data.Set.List
import PhotoPublish.Collection.Lineage
import PhotoPublish.Proofs.Path.Segments

/-!
# Paths of collections

The path of a collection has a level for each set around it. The name of a set is made legal first, so that
it is one segment whatever separators it holds; the own name of the collection is a path of its own.

* `Lineage.path_eq`, `Lineage.exists_path`: the path as a text, for names that the host gives.
* `Lineage.path_levels`: the segments of the path, the outermost set's first.
-/

set_option autoImplicit false

namespace PhotoPublish

/-! ## Lists of results -/

/-- A list gives values exactly if its items give them one by one. -/
theorem mapM_ok_iff {α β : Type} {f : α → Except Failure β} {items : List α} {values : List β} :
    items.mapM f = .ok values ↔ items.map f = values.map .ok := by
  induction items generalizing values with
  | nil => cases values <;> simp [pure, Except.pure]
  | cons item rest ih =>
    rw [List.mapM_cons]
    cases hitem : f item with
    | error failure => cases values <;> simp [bind, Except.bind, hitem]
    | ok value =>
      cases hrest : rest.mapM f with
      | error failure =>
        cases values <;> simp [bind, Except.bind, ← ih, hrest, hitem]
      | ok later =>
        cases values <;> simp [bind, Except.bind, pure, Except.pure, ← ih, hrest, hitem]

theorem exists_mapM_ok {α β : Type} {f : α → Except Failure β} {items : List α}
    (h : ∀ item ∈ items, ∃ value, f item = .ok value) : ∃ values, items.mapM f = .ok values := by
  obtain ⟨values, hvalues⟩ : items.map f ∈ Set.range (List.map Except.ok) := by
    rw [Set.range_list_map]
    intro result hmem
    obtain ⟨item, hitem, rfl⟩ := List.mem_map.1 hmem
    obtain ⟨value, hvalue⟩ := h item hitem
    exact ⟨value, hvalue.symm⟩
  exact ⟨values, mapM_ok_iff.2 hvalues.symm⟩

/-! ## Legal names as segments -/

theorem legalName_eq_nil {name : Text} : legalName name = [] ↔ name = [] :=
  List.map_eq_nil_iff

/-- A legal name is one segment; the empty name is none. -/
theorem segments_legalName (name : Text) :
    Path.segments (legalName name) = if name.isEmpty then [] else [legalName name] := by
  cases name with
  | nil => rfl
  | cons c rest => exact Path.segments_of_plain (plain_legalName _) (mt legalName_eq_nil.1 nofun)

/-- The levels that the names of sets make: a segment for each name that is not empty. -/
theorem flatMap_segments_legalName (names : List Text) :
    (names.map legalName).flatMap Path.segments =
      (names.filter fun name => !name.isEmpty).map legalName := by
  induction names with
  | nil => rfl
  | cons name rest ih =>
    rw [List.map_cons, List.flatMap_cons, segments_legalName, ih, List.filter_cons]
    cases name <;> rfl

namespace Lineage

variable {lineage : Lineage} {own : Text} {names : List Text}

theorem mapM_givenName {sets : List Collection} (h : sets.map Collection.name = names.map some) :
    sets.mapM givenName = .ok names := by
  have hgiven : givenName = (fun name => name.elim (.error .wrongType) .ok) ∘ Collection.name := by
    funext collection
    rw [givenName, Function.comp_apply]
    cases collection.name <;> rfl
  rw [mapM_ok_iff, hgiven, ← List.map_map, h, List.map_map]
  rfl

/-- The path of a collection whose names are given. -/
theorem path_eq (hown : lineage.self.name = some own)
    (hnames : lineage.ancestors.map Collection.name = names.map some) :
    lineage.path = .ok (normalizePath (Text.join ['/'] ((names.map legalName).reverse ++ [own]))) := by
  rw [path, levels, mapM_givenName hnames, givenName, hown]
  rfl

/-- A collection has a path if it and the sets around it have names. -/
theorem exists_path (h : ∀ collection ∈ lineage.self :: lineage.ancestors, collection.name ≠ none) :
    ∃ path, lineage.path = .ok path := by
  obtain ⟨hself, hancestors⟩ := List.forall_mem_cons.1 h
  obtain ⟨own, hown⟩ := Option.ne_none_iff_exists'.1 hself
  obtain ⟨names, hnames⟩ : ∃ names, lineage.ancestors.mapM givenName = .ok names := by
    refine exists_mapM_ok fun collection hmem => ?_
    obtain ⟨name, hname⟩ := Option.ne_none_iff_exists'.1 (hancestors collection hmem)
    exact ⟨name, by rw [givenName, hname]⟩
  rw [path, levels, hnames, givenName, hown]
  exact ⟨_, rfl⟩

/-- A path of a collection is in normal form. -/
theorem enclosed_of_path {path : Text} (h : lineage.path = .ok path) : Enclosed path := by
  rw [Lineage.path] at h
  cases hlevels : lineage.levels with
  | error failure =>
    rw [hlevels] at h
    cases h
  | ok levels =>
    rw [hlevels] at h
    exact Except.ok.inj h ▸ enclosed_normalizePath _

/-- **A collection path has one level for each set.** From the root down these are the legal forms of the
names of the sets, those that are empty left out, and then the segments of the own name, which keep all its
characters but the separators. A name without separators is the last segment, at any depth. -/
theorem path_levels (hown : lineage.self.name = some own)
    (hnames : lineage.ancestors.map Collection.name = names.map some) :
    ∃ path, lineage.path = .ok path ∧
      Path.segments path =
        ((names.filter fun name => !name.isEmpty).map legalName).reverse ++ Path.segments own ∧
      (Path.segments own).flatten = own.filter (fun c => !isSeparator c) ∧
      (own ≠ [] → Plain own → (Path.segments path).getLast? = some own) := by
  have hsegments :
      Path.segments (normalizePath (Text.join ['/'] ((names.map legalName).reverse ++ [own]))) =
        ((names.filter fun name => !name.isEmpty).map legalName).reverse ++ Path.segments own := by
    rw [Path.segments_normalizePath, Path.segments_join, List.flatMap_append, List.flatMap_singleton,
      ← List.map_reverse, flatMap_segments_legalName, List.filter_reverse, List.map_reverse]
  refine ⟨_, path_eq hown hnames, hsegments, Path.flatten_segments own, fun hne hplain => ?_⟩
  rw [hsegments, Path.segments_of_plain hplain hne, List.getLast?_concat]

/-- A collection in three sets: the name of one holds both separators, another has none. -/
def shelved : Lineage :=
  { self := { name := some "Sea: day 1/2".toList }
    ancestors :=
      [{ name := some "2020/21 \\ a:b".toList, isSet := true }, { name := some [], isSet := true },
        { name := some "Events".toList, isSet := true }] }

/-- The set with the separators is one level, the one without a name none. -/
theorem path_levels_shelved :
    ∃ path, shelved.path = .ok path ∧
      Path.segments path =
        ["Events", "2020-21 - a-b", "Sea: day 1", "2"].map String.toList := by
  obtain ⟨path, hpath, hsegments, -⟩ :=
    @path_levels shelved "Sea: day 1/2".toList
      ["2020/21 \\ a:b".toList, [], "Events".toList] rfl rfl
  exact ⟨path, hpath, hsegments.trans (by decide +kernel)⟩

end Lineage

end PhotoPublish
