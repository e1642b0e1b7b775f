import Mathlib.Data.List.Nodup
import PhotoPublish.Collection.Default

/-!
# The order of collections

The walk through a tree keeps a list of folders to visit, and so does the search for a default collection.

* `Folder.visit_eq`, `Folder.search_eq`: the walk is the recursion over all folders to visit, and the search
  stops at the first collection of the walk that it looks for.
* `Folder.pairwise_places`, `Folder.mem_places`, `Folder.map_collection?_places`: the recursion comes to each
  place of the tree once, in depth-first order (`Folder.Place.Precedes`).
* `Folder.collections_depthFirst`: both loops go through the collections of a tree in that order.
-/

set_option autoImplicit false

namespace PhotoPublish.Folder

variable {α : Type}

/-- Induction over a tree: what holds of a folder if it holds of the sets in it holds of every folder. -/
@[elab_as_elim] theorem induct {motive : Folder α → Prop}
    (node : ∀ collections sets, (∀ set ∈ sets, motive set) → motive (.node collections sets))
    (folder : Folder α) : motive folder :=
  folder.rec (motive_2 := fun sets => ∀ set ∈ sets, motive set) node
    (fun _ hmem => absurd hmem List.not_mem_nil)
    (fun _ _ hset hrest => List.forall_mem_cons.2 ⟨hset, hrest⟩)

/-! ## The two loops -/

theorem inOrderAll_eq (folders : List (Folder α)) : inOrderAll folders = folders.flatMap inOrder := by
  induction folders with
  | nil => rfl
  | cons folder rest ih => rw [inOrderAll, ih, List.flatMap_cons]

theorem inOrder_eq (root : Folder α) : root.inOrder = root.own ++ root.sets.flatMap inOrder := by
  cases root with
  | node collections sets => rw [inOrder, inOrderAll_eq, own, Folder.sets]

/-- **The walk over the trees** comes to the collections in order. -/
theorem visit_eq (folders : List (Folder α)) : visit folders = inOrderAll folders := by
  fun_induction visit folders with
  | case1 => rfl
  | case2 folder rest ih =>
    rw [ih, inOrderAll_eq, inOrderAll_eq, List.flatMap_append, List.flatMap_cons, inOrder_eq folder,
      List.append_assoc]

theorem collections_eq (root : Folder α) : root.collections = root.inOrder := by
  rw [collections, visit_eq, inOrderAll, inOrderAll, List.append_nil]

/-- **The search** finds the first collection that the walk comes to. -/
theorem search_eq (holds : α → Bool) (folders : List (Folder α)) :
    search holds folders = (visit folders).find? holds := by
  fun_induction search holds folders with
  | case1 => rw [visit, List.find?_nil]
  | case2 folder rest found hfound => rw [visit, List.find?_append, hfound, Option.some_or]
  | case3 folder rest hnone ih => rw [visit, List.find?_append, hnone, Option.none_or, ih]

/-! ## Places -/

/-- Where a collection stands in a tree: the numbers of the sets to enter one after the other, and its number
in the last of them. -/
structure Place where
  way : List Nat
  number : Nat

namespace Place

/-- A place in the set of a number. -/
def within (number : Nat) (place : Place) : Place :=
  { place with way := number :: place.way }

/-- The depth-first order. A set comes before the sets in it, which come one after the other by their numbers;
in a set the collections come by theirs. -/
def Precedes (first second : Place) : Prop :=
  first.way < second.way ∨ first.way = second.way ∧ first.number < second.number

theorem Precedes.ne {first second : Place} (h : first.Precedes second) : first ≠ second := by
  rintro rfl
  rcases h with hway | ⟨-, hnumber⟩
  · exact List.lt_irrefl _ hway
  · exact Nat.lt_irrefl _ hnumber

theorem Precedes.within {first second : Place} (h : first.Precedes second) (number : Nat) :
    (first.within number).Precedes (second.within number) := by
  rcases h with hway | ⟨hway, hnumber⟩
  · exact .inl (List.cons_lt_cons_iff.2 (.inr ⟨rfl, hway⟩))
  · exact .inr ⟨congrArg (number :: ·) hway, hnumber⟩

end Place

/-- The set at the end of a way. -/
def at? : Folder α → List Nat → Option (Folder α)
  | folder, [] => some folder
  | folder, number :: way => folder.sets[number]?.bind fun set => set.at? way

/-- The collection at a place. -/
def collection? (root : Folder α) (place : Place) : Option α :=
  (root.at? place.way).bind fun set => set.own[place.number]?

theorem collection?_own (root : Folder α) (number : Nat) :
    root.collection? ⟨[], number⟩ = root.own[number]? := rfl

theorem collection?_within (root : Folder α) (number : Nat) (place : Place) :
    root.collection? (place.within number) =
      root.sets[number]?.bind fun set => set.collection? place :=
  Option.bind_assoc ..

mutual

/-- The places of a tree, as the recursion comes to them. -/
def places : Folder α → List Place
  | node collections sets =>
    (List.range collections.length).map (Place.mk []) ++ placesFrom 0 sets

/-- The places in sets that are numbered from `number` on. -/
def placesFrom (number : Nat) : List (Folder α) → List Place
  | [] => []
  | set :: rest => (places set).map (Place.within number) ++ placesFrom (number + 1) rest

end

theorem placesFrom_eq (sets : List (Folder α)) (number : Nat) :
    placesFrom number sets =
      (sets.zipIdx number).flatMap fun (set, i) => set.places.map (Place.within i) := by
  induction sets generalizing number with
  | nil => rfl
  | cons set rest ih => rw [placesFrom, ih, List.zipIdx_cons, List.flatMap_cons]

theorem places_node (collections : List α) (sets : List (Folder α)) :
    (node collections sets).places =
      (List.range collections.length).map (Place.mk []) ++
        sets.zipIdx.flatMap fun (set, i) => set.places.map (Place.within i) := by
  rw [places, placesFrom_eq]

/-- A place in a folder is the number of a collection of its own, or a place in one of its sets. -/
theorem mem_places_node {collections : List α} {sets : List (Folder α)} {place : Place} :
    place ∈ (node collections sets).places ↔
      (∃ number < collections.length, Place.mk [] number = place) ∨
        ∃ i, ∃ set : Folder α, sets[i]? = some set ∧ ∃ inner ∈ set.places, inner.within i = place := by
  rw [places_node, List.mem_append, List.mem_map, List.mem_flatMap]
  refine or_congr (exists_congr fun number => and_congr_left' List.mem_range) ?_
  constructor
  · rintro ⟨⟨set, i⟩, hset, hplace⟩
    exact ⟨i, set, List.mk_mem_zipIdx_iff_getElem?.1 hset, List.mem_map.1 hplace⟩
  · rintro ⟨i, set, hset, hplace⟩
    exact ⟨(set, i), List.mk_mem_zipIdx_iff_getElem?.2 hset, List.mem_map.2 hplace⟩

/-- **The recursion comes to every place at which there is a collection,** and to no other. -/
theorem mem_places {root : Folder α} {place : Place} :
    place ∈ root.places ↔ (root.collection? place).isSome = true := by
  induction root using induct generalizing place with
  | node collections sets ih =>
    rw [mem_places_node]
    obtain ⟨way, number⟩ := place
    cases way with
    | nil =>
      rw [collection?_own, own, isSome_getElem?]
      constructor
      · rintro (⟨number', hnumber, ⟨⟩⟩ | ⟨i, set, -, inner, -, ⟨⟩⟩)
        exact hnumber
      · exact fun hnumber => .inl ⟨number, hnumber, rfl⟩
    | cons i way =>
      have hwithin := collection?_within (node collections sets) i ⟨way, number⟩
      rw [Place.within, Folder.sets] at hwithin
      rw [hwithin]
      constructor
      · rintro (⟨number', -, ⟨⟩⟩ | ⟨i, set, hset, inner, hinner, ⟨⟩⟩)
        rw [hset, Option.bind_some]
        exact (ih set (List.mem_of_getElem? hset)).1 hinner
      · intro hsome
        cases hset : sets[i]? with
        | none =>
          rw [hset] at hsome
          cases hsome
        | some set =>
          rw [hset, Option.bind_some] at hsome
          exact .inr ⟨i, set, hset, _, (ih set (List.mem_of_getElem? hset)).2 hsome, rfl⟩

/-- **The recursion comes to the places in depth-first order.** -/
theorem pairwise_places (root : Folder α) : root.places.Pairwise Place.Precedes := by
  induction root using induct with
  | node collections sets ih =>
    rw [places_node, List.pairwise_append, List.pairwise_map, List.pairwise_flatMap]
    refine ⟨List.pairwise_lt_range.imp fun hnumber => .inr ⟨rfl, hnumber⟩, ⟨?_, ?_⟩, ?_⟩
    · rintro ⟨set, i⟩ hset
      rw [List.pairwise_map]
      have hmem := List.mem_of_getElem? (List.mk_mem_zipIdx_iff_getElem?.1 hset)
      exact (ih set hmem).imp fun hprecedes => hprecedes.within i
    · -- Of two sets the one with the lower number comes first.
      have hnumbers : (sets.zipIdx.map Prod.snd).Pairwise (· < ·) := by
        rw [List.zipIdx_map_snd]
        exact List.pairwise_lt_range' 1
      refine (List.pairwise_map.1 hnumbers).imp fun hlt first hfirst second hsecond => ?_
      obtain ⟨first', -, rfl⟩ := List.mem_map.1 hfirst
      obtain ⟨second', -, rfl⟩ := List.mem_map.1 hsecond
      exact .inl (List.cons_lt_cons_iff.2 (.inl hlt))
    · intro first hfirst second hsecond
      obtain ⟨number, -, rfl⟩ := List.mem_map.1 hfirst
      obtain ⟨⟨set, i⟩, -, hsecond⟩ := List.mem_flatMap.1 hsecond
      obtain ⟨inner, -, rfl⟩ := List.mem_map.1 hsecond
      exact .inl (List.nil_lt_cons ..)

/-- **At the places stand the collections,** in the order of the recursion. -/
theorem map_collection?_places (root : Folder α) :
    root.places.map root.collection? = root.inOrder.map some := by
  induction root using induct with
  | node collections sets ih =>
    have hown : ((List.range collections.length).map (Place.mk [])).map
        (node collections sets).collection? = collections.map some := by
      refine List.ext_getElem (by simp) fun number hnumber _ => ?_
      rw [List.length_map, List.length_map, List.length_range] at hnumber
      simp only [List.getElem_map, List.getElem_range]
      exact List.getElem?_eq_getElem hnumber
    have hsets : ∀ pair ∈ sets.zipIdx,
        (pair.1.places.map (Place.within pair.2)).map (node collections sets).collection? =
          pair.1.inOrder.map some := by
      rintro ⟨set, i⟩ hset
      have hget := List.mk_mem_zipIdx_iff_getElem?.1 hset
      rw [← ih set (List.mem_of_getElem? hget), List.map_map]
      refine List.map_congr_left fun place _ => ?_
      rw [Function.comp_apply, collection?_within, Folder.sets, hget, Option.bind_some]
    have hfolders : (sets.zipIdx.flatMap fun pair => pair.1.inOrder.map some) =
        sets.flatMap fun set => set.inOrder.map some := by
      rw [← List.flatMap_map Prod.fst fun set : Folder α => set.inOrder.map some,
        List.zipIdx_map_fst]
    rw [places_node, List.map_append, hown, List.map_flatMap, List.flatMap_congr hsets, hfolders,
      inOrder_eq, List.map_append, List.map_flatMap, own, Folder.sets]

/-! ## Both loops in the same order -/

/-- **Both loops go through a tree in depth-first order.** The walk gives the collections of a folder and then,
set by set, what it gives for the sets in it; this is what it gives by recursion. It comes once to every place
at which there is a collection, in depth-first order. The default collection is the first one of the walk that
is marked as such; name and settings are null if there is none. -/
theorem collections_depthFirst (root : Folder Collection) :
    root.collections = root.inOrder ∧
      root.collections = root.own ++ root.sets.flatMap collections ∧
      (∃ places : List Place, places.Nodup ∧ places.Pairwise Place.Precedes ∧
        (∀ place, place ∈ places ↔ (root.collection? place).isSome = true) ∧
        places.map root.collection? = root.collections.map some) ∧
      defaultSettings (some root) =
        (match root.collections.find? Collection.isDefault with
          | some found => (found.name, found.settings)
          | none => (none, none), []) := by
  have hrecursion : collections = inOrder (α := Collection) := funext collections_eq
  refine ⟨collections_eq root, ?_, ?_, ?_⟩
  · rw [hrecursion]
    exact inOrder_eq root
  · refine ⟨root.places, ?_, pairwise_places root, fun _ => mem_places, ?_⟩
    · exact (pairwise_places root).imp Place.Precedes.ne
    · rw [collections_eq, map_collection?_places]
  · rw [collections, ← search_eq, defaultSettings, default?, find?]
    cases search Collection.isDefault [root] <;> rfl

end PhotoPublish.Folder
