import Mathlib.Data.List.Forall2
import PhotoPublish.Proofs.Keyword.Runs

/-!
# Keywords that are added to a photo

* `addNames_adds`: what a granted addition changes in the catalog and on the photo, and that it changes nothing
  the second time. `Adds` is built up hierarchy by hierarchy (`Reaches.concat`).
* `addNames_keeps_iff`: when an addition that fails leaves the photo as it was. The hierarchies before the one
  that is refused stay on the photo, so they have to be there already.
-/

set_option autoImplicit false

namespace PhotoPublish.Tagging

open Keyword

variable {state before mid after : Tagging} {hierarchy : Text} {names hierarchies : List Text}
  {leaves : List Nat}

/-! ## Hierarchies whose keyword is on the photo -/

/-- The photo has the keyword that a hierarchy leads to. -/
def HasLeaf (state : Tagging) (hierarchy : Text) : Prop :=
  ∃ place ∈ state.keywords, locate? state.catalog none (parts hierarchy) = some (some place)

/-- A hierarchy leads to a keyword in the end. -/
theorem exists_leaf (catalog : List Keyword) (hierarchy : Text) :
    ∃ place, (grow catalog none (parts hierarchy)).2 = some place ∧
      Leads (grow catalog none (parts hierarchy)).1 (parts hierarchy) (some place) := by
  have hleads := grow_leads (.root : Leads catalog [] none) (parts hierarchy)
  rw [List.nil_append] at hleads
  cases htarget : (grow catalog none (parts hierarchy)).2 with
  | some place => exact ⟨place, rfl, htarget ▸ hleads⟩
  | none =>
    rw [htarget] at hleads
    exact absurd hleads.eq_nil (parts_ne_nil hierarchy)

/-- A keyword is put behind those of the photo, unless it is one of them. -/
theorem keywords_tagged {place : Nat}
    (h : (grow state.catalog none (parts hierarchy)).2 = some place) :
    (state.tagged hierarchy).keywords =
      if place ∈ state.keywords then state.keywords else state.keywords ++ [place] := by
  simp only [keywords, tagged, h, Option.elim_some, putOn, List.contains_iff_mem]
  split
  case isTrue hmem => exact (if_pos hmem).symm
  case isFalse hmem => exact (if_neg hmem).symm

theorem tagged_kept (h : state.HasLeaf hierarchy) :
    (state.tagged hierarchy).catalog = state.catalog ∧
      (state.tagged hierarchy).photo = state.photo := by
  obtain ⟨place, hmem, hlocated⟩ := h
  have hgrow := grow_located hlocated
  refine ⟨congrArg Prod.fst hgrow, ?_⟩
  rw [tagged, hgrow]
  exact if_pos (List.contains_iff_mem.2 hmem)

theorem foldl_tagged_kept (h : ∀ hierarchy ∈ hierarchies, state.HasLeaf hierarchy) :
    (hierarchies.foldl tagged state).catalog = state.catalog ∧
      (hierarchies.foldl tagged state).photo = state.photo := by
  induction hierarchies generalizing state with
  | nil => exact ⟨rfl, rfl⟩
  | cons hierarchy rest ih =>
    obtain ⟨hcatalog, hphoto⟩ := tagged_kept (h hierarchy List.mem_cons_self)
    rw [List.foldl_cons, ← hcatalog, ← hphoto]
    refine ih fun other hother => ?_
    obtain ⟨place, hmem, hlocated⟩ := h other (List.mem_cons_of_mem _ hother)
    refine ⟨place, ?_, ?_⟩
    · rwa [keywords, hphoto]
    · rwa [hcatalog]

/-! ## One hierarchy more -/

/-- A beginning of the names in one of the hierarchies. -/
def IsMentioned (hierarchies : List Text) (names : List Text) : Prop :=
  names ≠ [] ∧ ∃ hierarchy ∈ hierarchies, names <+: parts hierarchy

/-- The leaves that are not on the photo yet, each once and in order. -/
def fresh (kept leaves : List Nat) : List Nat :=
  (leaves.filter (· ∉ kept)).eraseDups

theorem fresh_concat (kept leaves : List Nat) (place : Nat) :
    kept ++ fresh kept (leaves ++ [place]) =
      if place ∈ kept ++ fresh kept leaves then kept ++ fresh kept leaves
      else kept ++ fresh kept leaves ++ [place] := by
  rw [fresh, List.filter_append, List.eraseDups_append]
  by_cases hkept : place ∈ kept
  · simp [fresh, hkept]
  · by_cases hleaves : place ∈ leaves
    · simp [fresh, hkept, hleaves, List.removeAll]
    · simp [fresh, hkept, hleaves, List.removeAll, List.eraseDups_cons]

/-- What adding hierarchies, which lead to the leaves, has done to the catalog and the photo. -/
structure Reaches (hierarchies : List Text) (leaves : List Nat) (before after : Tagging) : Prop where
  existing : before.catalog <+: after.catalog
  forest : IsForest after.catalog
  leads : List.Forall₂ (fun hierarchy place => Leads after.catalog (parts hierarchy) (some place))
    hierarchies leaves
  mentioned : ∀ place, before.catalog.length ≤ place → place < after.catalog.length →
    ∃ names, IsMentioned hierarchies names ∧ Leads after.catalog names (some place)
  keywords : after.keywords = before.keywords ++ fresh before.keywords leaves

theorem Reaches.refl (hforest : IsForest state.catalog) : Reaches [] [] state state where
  existing := List.prefix_rfl
  forest := hforest
  leads := .nil
  mentioned _ hold hnew := absurd hnew (Nat.not_lt.2 hold)
  keywords := (List.append_nil _).symm

theorem Reaches.of_requesting (h : Reaches hierarchies leaves before.requesting after) :
    Reaches hierarchies leaves before after :=
  ⟨h.existing, h.forest, h.leads, h.mentioned, h.keywords⟩

theorem Reaches.concat (h : Reaches hierarchies leaves before mid) (hierarchy : Text) :
    ∃ place, Reaches (hierarchies ++ [hierarchy]) (leaves ++ [place]) before
      (mid.tagged hierarchy) := by
  obtain ⟨place, htarget, hleads⟩ := exists_leaf mid.catalog hierarchy
  have hlonger : mid.catalog <+: (mid.tagged hierarchy).catalog := prefix_grow _ _ _
  refine ⟨place, ?_⟩
  constructor
  case existing => exact h.existing.trans hlonger
  case forest => exact h.forest.grown .root _
  case leads =>
    refine List.rel_append ?_ (.cons hleads .nil)
    exact h.leads.imp fun _ _ hother => hother.of_isPrefix hlonger
  case mentioned =>
    intro other hold hnew
    rcases Nat.lt_or_ge other mid.catalog.length with hlt | hge
    · obtain ⟨names, ⟨hnames, hierarchy', hmem, hfront⟩, hother⟩ := h.mentioned other hold hlt
      exact ⟨names, ⟨hnames, hierarchy', List.mem_append_left _ hmem, hfront⟩,
        hother.of_isPrefix hlonger⟩
    · obtain ⟨begun, hbegun, hfront, hother⟩ := exists_prefix_of_grow .root hge hnew
      exact ⟨begun, ⟨hbegun, hierarchy, by simp, hfront⟩, hother⟩
  case keywords =>
    rw [keywords_tagged htarget, h.keywords, fresh_concat]

theorem exists_reaches (hforest : IsForest state.catalog) (hierarchies : List Text) :
    ∃ leaves, Reaches hierarchies leaves state (hierarchies.foldl tagged state) := by
  induction hierarchies using List.reverseRecOn with
  | nil => exact ⟨[], .refl hforest⟩
  | append_singleton rest hierarchy ih =>
    obtain ⟨leaves, h⟩ := ih
    obtain ⟨place, hplace⟩ := h.concat hierarchy
    rw [List.foldl_concat]
    exact ⟨_, hplace⟩

theorem Reaches.exists_place (h : Reaches hierarchies leaves before after)
    (hmem : hierarchy ∈ hierarchies) :
    ∃ place ∈ leaves, Leads after.catalog (parts hierarchy) (some place) := by
  obtain ⟨number, hlt, rfl⟩ := List.getElem_of_mem hmem
  have hlt' : number < leaves.length := h.leads.length_eq ▸ hlt
  exact ⟨leaves[number], List.getElem_mem hlt', h.leads.get hlt hlt'⟩

/-- All leaves are on the photo. -/
theorem Reaches.hasLeaf (h : Reaches hierarchies leaves before after)
    (hmem : hierarchy ∈ hierarchies) : after.HasLeaf hierarchy := by
  obtain ⟨place, hplace, hleads⟩ := h.exists_place hmem
  refine ⟨place, ?_, h.forest.locate?_eq .root hleads⟩
  rw [h.keywords, List.mem_append]
  by_cases hkept : place ∈ before.keywords
  · exact .inl hkept
  · exact .inr (by simp [fresh, hkept, hplace])

/-! ## Additions that are granted -/

/-- What adding hierarchies changes. A keyword is created for each beginning of a hierarchy that led to none,
and the leaves are put on the photo. -/
structure Adds (hierarchies : List Text) (before after : Tagging) : Prop where
  existing : before.catalog <+: after.catalog
  forest : IsForest after.catalog
  created : ∀ names, IsMentioned hierarchies names → ¬IsLed before.catalog names →
    ∃! place, before.catalog.length ≤ place ∧ Leads after.catalog names (some place)
  mentioned : ∀ place, before.catalog.length ≤ place → place < after.catalog.length →
    ∃ names, IsMentioned hierarchies names ∧ ¬IsLed before.catalog names ∧
      Leads after.catalog names (some place)
  leaves : ∃ leaves,
    List.Forall₂ (fun hierarchy place => Leads after.catalog (parts hierarchy) (some place))
      hierarchies leaves ∧
    after.keywords = before.keywords ++ fresh before.keywords leaves

theorem Reaches.adds (hforest : IsForest before.catalog)
    (h : Reaches hierarchies leaves before after) : Adds hierarchies before after where
  existing := h.existing
  forest := h.forest
  created names hnames hunled := by
    obtain ⟨hne, hierarchy, hmem, hfront⟩ := hnames
    obtain ⟨leaf, -, hleaf⟩ := h.exists_place hmem
    obtain ⟨target, htarget⟩ := hleaf.exists_of_isPrefix hfront
    obtain ⟨place, hplace⟩ := htarget.isLed hne
    obtain ⟨added, hadded⟩ := h.existing
    refine ⟨place, ⟨Nat.le_of_not_lt fun hlt => ?_, hplace⟩, fun other hother => ?_⟩
    · rw [← hadded] at hplace
      exact hunled ⟨place, hforest.leads_of_append hplace (by simp [hlt])⟩
    · exact Option.some.inj (h.forest.target_eq hother.2 hplace)
  mentioned place hold hnew := by
    obtain ⟨names, hnames, hplace⟩ := h.mentioned place hold hnew
    refine ⟨names, hnames, fun ⟨other, hother⟩ => ?_, hplace⟩
    have hsame := h.forest.target_eq hplace (hother.of_isPrefix h.existing)
    have hlt := hother.lt
    rw [Option.some.inj hsame] at hold
    omega
  leaves := ⟨leaves, h.leads, h.keywords⟩

/-- The host grants write access and every keyword. -/
structure Grants (state : Tagging) : Prop where
  access : ∀ number, state.access.refusals number = none
  keywords : ∀ number name, state.refusals number name = none

namespace Grants

variable (h : state.Grants)
include h

theorem gives (number : Nat) (names : List Text) : gives state.refusals number names = true := by
  induction names generalizing number with
  | nil => rfl
  | cons name rest ih => simp [Tagging.gives, h.keywords, ih]

theorem granted (number : Nat) (hierarchies : List Text) :
    granted state.refusals number hierarchies = hierarchies := by
  induction hierarchies generalizing number with
  | nil => rfl
  | cons hierarchy rest ih => rw [Tagging.granted, if_pos (h.gives ..), ih]

theorem foldl_tagged (hierarchies : List Text) : (hierarchies.foldl tagged state).Grants := by
  induction hierarchies generalizing state with
  | nil => exact h
  | cons hierarchy rest ih => exact @ih (state.tagged hierarchy) ⟨h.access, h.keywords⟩

theorem addNames_run (hierarchies : List Text) :
    (addNames hierarchies).run.run state =
      (.ok true, hierarchies.foldl tagged state.requesting) := by
  refine addNames_granted ?_ (h.granted ..)
  rw [WriteAccess.refused?, h.access]
  rfl

end Grants

/-- **What a granted addition does**, to a photo and a catalog that is a forest. A second one with the same
hierarchies changes neither of them. -/
theorem addNames_adds (hforest : IsForest state.catalog) (hgrants : state.Grants)
    (hierarchies : List Text) :
    ∃ after, (addNames hierarchies).run.run state = (.ok true, after) ∧
      Adds hierarchies state after ∧
      ∃ again, (addNames hierarchies).run.run after = (.ok true, again) ∧
        again.catalog = after.catalog ∧ again.photo = after.photo := by
  obtain ⟨leaves, hreaches⟩ := @exists_reaches state.requesting hforest hierarchies
  have hrequesting : state.requesting.Grants := ⟨hgrants.access, hgrants.keywords⟩
  have hafter := hrequesting.foldl_tagged hierarchies
  refine ⟨_, hgrants.addNames_run hierarchies, hreaches.of_requesting.adds hforest, _,
    hafter.addNames_run hierarchies, ?_⟩
  exact foldl_tagged_kept fun hierarchy hmem => hreaches.hasLeaf hmem

/-- A photo with one of the keywords below `Places`. -/
def travel : Tagging where
  catalog := (grow [] none ["Places".toList, "Paris".toList]).1
  photo := some [1]

/-- Of hierarchies that share names and repeat each other every leaf is added once. -/
theorem addNames_adds_travel :
    Adds ["Places|Rome".toList, "Paris".toList, "Places|Paris".toList, "Paris".toList] travel
        ((addNames ["Places|Rome".toList, "Paris".toList, "Places|Paris".toList,
          "Paris".toList]).run.run travel).2 ∧
      ((addNames ["Places|Rome".toList, "Paris".toList, "Places|Paris".toList,
        "Paris".toList]).run.run travel).2.keywords = [1, 2, 3] := by
  have hforest : IsForest travel.catalog := isForest_nil.grown .root _
  obtain ⟨after, hrun, hadds, -⟩ := @addNames_adds travel hforest
    ⟨fun _ => rfl, fun _ _ => rfl⟩
    ["Places|Rome".toList, "Paris".toList, "Places|Paris".toList, "Paris".toList]
  refine ⟨?_, by decide +kernel⟩
  rw [hrun]
  exact hadds

/-! ## Additions that fail -/

/-- The photo has keywords of the catalog, and these have their parents there. -/
structure IsPlaced (state : Tagging) : Prop where
  parents : IsClosedBelow state.catalog state.catalog.length
  photo : ∀ place ∈ state.keywords, place < state.catalog.length

/-- A hierarchy that leads to no keyword of the photo puts one on it. -/
theorem IsPlaced.exists_concat (hplaced : state.IsPlaced) (h : ¬state.HasLeaf hierarchy) :
    ∃ place, (state.tagged hierarchy).keywords = state.keywords ++ [place] := by
  obtain ⟨place, htarget, -⟩ := exists_leaf state.catalog hierarchy
  refine ⟨place, ?_⟩
  rw [keywords_tagged htarget, if_neg]
  intro hmem
  have hold := hplaced.photo place hmem
  cases hlocated : locate? state.catalog none (parts hierarchy) with
  | some target =>
    rw [grow_located hlocated] at htarget
    exact h ⟨place, hmem, hlocated.trans (congrArg some htarget)⟩
  | none =>
    obtain ⟨new, hnew, hsame⟩ := grow_fresh hplaced.parents hlocated
    obtain rfl := Option.some.inj (hsame.symm.trans htarget)
    omega

theorem length_keywords_le (state : Tagging) (hierarchies : List Text) :
    state.keywords.length ≤ (hierarchies.foldl tagged state).keywords.length := by
  induction hierarchies generalizing state with
  | nil => exact Nat.le_refl _
  | cons hierarchy rest ih =>
    refine Nat.le_trans ?_ (ih (state.tagged hierarchy))
    obtain ⟨place, htarget, -⟩ := exists_leaf state.catalog hierarchy
    rw [keywords_tagged htarget]
    split <;> simp

/-- **The photo stays as it is** when the hierarchies lead to keywords that it has, and only then. -/
theorem IsPlaced.foldl_tagged_photo_iff (hplaced : state.IsPlaced) (hierarchies : List Text) :
    (hierarchies.foldl tagged state).photo = state.photo ↔
      ∀ hierarchy ∈ hierarchies, state.HasLeaf hierarchy := by
  refine ⟨fun hsame => ?_, fun h => (foldl_tagged_kept h).2⟩
  induction hierarchies generalizing state with
  | nil => simp
  | cons hierarchy rest ih =>
    rw [List.foldl_cons] at hsame
    -- A keyword that is put on the photo stays there, so that its list would be longer in the end.
    have hleaf : state.HasLeaf hierarchy := by
      by_contra hno
      obtain ⟨place, hplace⟩ := hplaced.exists_concat hno
      have hlength := length_keywords_le (state.tagged hierarchy) rest
      have hkeywords : (rest.foldl tagged (state.tagged hierarchy)).keywords = state.keywords :=
        congrArg (Option.getD · []) hsame
      rw [hkeywords, hplace, List.length_append, List.length_singleton] at hlength
      omega
    obtain ⟨hcatalog, hphoto⟩ := tagged_kept hleaf
    have hkeywords : (state.tagged hierarchy).keywords = state.keywords :=
      congrArg (Option.getD · []) hphoto
    have hplaced' : (state.tagged hierarchy).IsPlaced :=
      ⟨by rw [hcatalog]; exact hplaced.parents, by rw [hcatalog, hkeywords]; exact hplaced.photo⟩
    rw [List.forall_mem_cons]
    refine ⟨hleaf, fun other hother => ?_⟩
    have hrest := ih hplaced' (hsame.trans hphoto.symm) other hother
    rwa [HasLeaf, hcatalog, hkeywords] at hrest

/-- **An addition that fails** leaves the photo as it was if and only if all hierarchies before the one that is
refused lead to keywords that the photo had. -/
theorem addNames_keeps_iff (hplaced : state.IsPlaced)
    (hfailed : (addNames hierarchies).run.run state = (.ok false, after)) :
    after.photo = state.photo ↔
      ∀ hierarchy ∈ completed state hierarchies, state.HasLeaf hierarchy := by
  rw [addNames_failed hfailed]
  have hrequesting : state.requesting.IsPlaced := ⟨hplaced.parents, hplaced.photo⟩
  exact hrequesting.foldl_tagged_photo_iff _

/-- A host that refuses a keyword. -/
def refusing (state : Tagging) (refused : Text) : Tagging :=
  { state with refusals := fun _ name => if name = refused then some .writeAccess else none }

/-- A photo that has the keyword of the first hierarchy is left alone. -/
theorem addNames_keeps_travel :
    ((addNames ["Places|Paris".toList, "b".toList]).run.run (refusing travel "b".toList)).2.photo =
      travel.photo := by
  have hforest : IsForest travel.catalog := isForest_nil.grown .root _
  have hplaced : (refusing travel "b".toList).IsPlaced :=
    ⟨hforest.isClosedBelow, by decide +kernel⟩
  refine (addNames_keeps_iff hplaced (run_eq_of_toOption (by decide +kernel))).2
    fun hierarchy hmem => ?_
  have hcompleted : completed (refusing travel "b".toList) ["Places|Paris".toList, "b".toList] =
      ["Places|Paris".toList] := by decide +kernel
  rw [hcompleted, List.mem_singleton] at hmem
  subst hmem
  exact ⟨1, by decide +kernel, by decide +kernel⟩

/-- A photo without keywords, in a catalog without any. -/
def blank : Tagging where
  photo := some []

/-- The first of two hierarchies stays on the photo when the second one is refused. -/
theorem addNames_changes : ∃ after,
    (addNames ["a".toList, "b".toList]).run.run (refusing blank "b".toList) = (.ok false, after) ∧
      after.photo ≠ blank.photo :=
  ⟨_, run_eq_of_toOption (by decide +kernel), by decide +kernel⟩

end PhotoPublish.Tagging
