import PhotoPublish.Proofs.Keyword.Forest
import PhotoPublish.Proofs.Photo.Basic

/-!
# Runs of keyword changes

The host gives the keywords of a hierarchy one after the other. `granted` are the hierarchies before the first
of which it refuses a keyword, and `tagged` is the state once the keyword of one hierarchy is on the photo.

* `addHierarchy_granted`, `addHierarchy_refused`: one hierarchy; a refused one leaves the photo as it is.
* `addHierarchies_granted`, `addHierarchies_refused`: all of them; the granted ones stay when another is refused.
* `addNames_granted`, `addNames_failed`: the same inside the transaction.
-/

set_option autoImplicit false

namespace PhotoPublish.Tagging

open Keyword

variable {state after : Tagging} {hierarchy : Text} {names hierarchies : List Text}
  {parent : Option Nat}

/-- The names in a hierarchy, from the root to the leaf. -/
def parts (hierarchy : Text) : List Text :=
  Text.splitOn separator hierarchy

theorem parts_ne_nil (hierarchy : Text) : parts hierarchy ≠ [] :=
  Text.splitOn_ne_nil separator hierarchy

/-- The transaction in which keywords are added. -/
def addition : Transaction :=
  .named "Add keywords"

/-! ## What is granted -/

/-- Whether the host gives all keywords of a list of names, of which the first is asked for with a number. -/
def gives (refusals : Nat → Text → Option Family) : Nat → List Text → Bool
  | _, [] => true
  | number, name :: rest => (refusals number name).isNone && gives refusals (number + 1) rest

/-- The hierarchies before the first of which the host refuses a keyword. -/
def granted (refusals : Nat → Text → Option Family) : Nat → List Text → List Text
  | _, [] => []
  | number, hierarchy :: rest =>
    if gives refusals number (parts hierarchy) then
      hierarchy :: granted refusals (number + (parts hierarchy).length) rest
    else []

/-- The hierarchies whose keywords are put on the photo when those are added. -/
def completed (state : Tagging) (hierarchies : List Text) : List Text :=
  if (state.access.refused? addition).isSome then []
  else granted state.refusals state.asked hierarchies

/-! ## What they change -/

/-- The state with a list of names looked up below a parent. -/
def grown (state : Tagging) (parent : Option Nat) (names : List Text) : Tagging :=
  { state with
    catalog := (grow state.catalog parent names).1
    asked := state.asked + names.length }

/-- The photo's keywords once a keyword is put on it. -/
def putOn (photo : Option (List Nat)) (place : Nat) : Option (List Nat) :=
  if (photo.getD []).contains place then photo else some (photo.getD [] ++ [place])

/-- The state with the leaf of a hierarchy on the photo. -/
def tagged (state : Tagging) (hierarchy : Text) : Tagging :=
  { state.grown none (parts hierarchy) with
    photo := (grow state.catalog none (parts hierarchy)).2.elim state.photo (putOn state.photo) }

/-- The state once write access has been asked for. -/
def requesting (state : Tagging) : Tagging :=
  { state with access := state.access.requested addition }

theorem grown_cons (state : Tagging) (parent : Option Nat) (name : Text) (rest : List Text) :
    (state.grown parent [name]).grown (some (placeOf state.catalog name parent)) rest =
      state.grown parent (name :: rest) := by
  have hasked : state.asked + 1 + rest.length = state.asked + (rest.length + 1) := by omega
  simp [grown, grow, hasked]

/-! ## Steps -/

theorem run_get (state : Tagging) : (get : Tag Tagging).run.run state = (.ok state, state) := rfl

theorem run_set (state next : Tagging) :
    (set next : Tag PUnit).run.run state = (.ok (), next) := rfl

theorem run_modify (state : Tagging) (change : Tagging → Tagging) :
    (modify change : Tag PUnit).run.run state = (.ok (), change state) := rfl

/-- **A keyword that is asked for** is refused, or it is in the catalog afterwards. -/
theorem create_run (name : Text) (parent : Option Nat) (state : Tagging) :
    (create name parent).run.run state =
      match state.refusals state.asked name with
      | some family =>
        (.error (.host family ("cannot create ".toList ++ name)), { state with asked := state.asked + 1 })
      | none => (.ok (placeOf state.catalog name parent), state.grown parent [name]) := by
  rw [create, run_bind_ok (run_get state), run_bind_ok (run_set _ _)]
  cases state.refusals state.asked name with
  | some family => rfl
  | none =>
    dsimp only
    cases hfound : state.find? name parent with
    | some place =>
      obtain ⟨hcatalog, hplace⟩ := withKeyword_found hfound
      rw [grown, grow, hcatalog, hplace]
      rfl
    | none =>
      obtain ⟨hcatalog, hplace⟩ := withKeyword_missing hfound
      rw [grown, grow, hcatalog, hplace]
      rfl

theorem createAll_granted (h : gives state.refusals state.asked names = true) :
    (createAll parent names).run.run state =
      (.ok (grow state.catalog parent names).2, state.grown parent names) := by
  induction names generalizing parent state with
  | nil => rfl
  | cons name rest ih =>
    simp only [gives, Bool.and_eq_true, Option.isNone_iff_eq_none] at h
    have hcreate := create_run name parent state
    rw [h.1] at hcreate
    rw [createAll, run_bind_ok hcreate, ih h.2, grown_cons]
    rfl

theorem createAll_refused (h : gives state.refusals state.asked names = false) :
    ∃ failure after, (createAll parent names).run.run state = (.error failure, after) ∧
      after.photo = state.photo := by
  induction names generalizing parent state with
  | nil => cases h
  | cons name rest ih =>
    have hcreate := create_run name parent state
    cases hrefused : state.refusals state.asked name with
    | some family =>
      rw [hrefused] at hcreate
      exact ⟨_, _, run_bind_error hcreate, rfl⟩
    | none =>
      rw [hrefused] at hcreate
      rw [gives, hrefused] at h
      obtain ⟨failure, after, hrest, hphoto⟩ :=
        @ih (state.grown parent [name]) (some (placeOf state.catalog name parent)) h
      exact ⟨failure, after, by rw [createAll, run_bind_ok hcreate, hrest], hphoto⟩

/-- **A hierarchy whose keywords are given.** -/
theorem addHierarchy_granted (h : gives state.refusals state.asked (parts hierarchy) = true) :
    (addHierarchy hierarchy).run.run state = (.ok (), state.tagged hierarchy) := by
  rw [addHierarchy, ← parts, run_bind_ok (createAll_granted h), tagged]
  cases (grow state.catalog none (parts hierarchy)).2 with
  | none => rfl
  | some place =>
    show (put place).run.run (state.grown none (parts hierarchy)) = _
    have hkeywords : (state.grown none (parts hierarchy)).keywords = state.photo.getD [] := rfl
    rw [put, run_modify, hkeywords, Option.elim_some, putOn]
    split <;> rfl

theorem addHierarchy_refused (h : gives state.refusals state.asked (parts hierarchy) = false) :
    ∃ failure after, (addHierarchy hierarchy).run.run state = (.error failure, after) ∧
      after.photo = state.photo := by
  obtain ⟨failure, after, hrun, hphoto⟩ := @createAll_refused _ _ none h
  exact ⟨failure, after, run_bind_error hrun, hphoto⟩

/-! ## Runs -/

theorem addHierarchies_granted (h : granted state.refusals state.asked hierarchies = hierarchies) :
    (hierarchies.forM addHierarchy).run.run state = (.ok (), hierarchies.foldl tagged state) := by
  induction hierarchies generalizing state with
  | nil => rfl
  | cons hierarchy rest ih =>
    rw [granted] at h
    split at h
    case isFalse => cases h
    case isTrue hgives =>
      rw [List.forM, run_bind_ok (addHierarchy_granted hgives), List.foldl_cons]
      exact ih (List.cons_eq_cons.1 h).2

/-- **Hierarchies of which one is refused**: those before it are on the photo. -/
theorem addHierarchies_refused (h : granted state.refusals state.asked hierarchies ≠ hierarchies) :
    ∃ failure after, (hierarchies.forM addHierarchy).run.run state = (.error failure, after) ∧
      after.photo = ((granted state.refusals state.asked hierarchies).foldl tagged state).photo := by
  induction hierarchies generalizing state with
  | nil => exact absurd rfl h
  | cons hierarchy rest ih =>
    rw [List.forM]
    rw [granted] at h ⊢
    split at h
    case isTrue hgives =>
      obtain ⟨failure, after, hrun, hphoto⟩ := @ih (state.tagged hierarchy) fun hrest =>
        h (congrArg (hierarchy :: ·) hrest)
      rw [if_pos hgives, run_bind_ok (addHierarchy_granted hgives)]
      exact ⟨failure, after, hrun, hphoto⟩
    case isFalse hgives =>
      obtain ⟨failure, after, hrun, hphoto⟩ := addHierarchy_refused (Bool.eq_false_iff.2 hgives)
      rw [if_neg hgives, run_bind_error hrun]
      exact ⟨failure, after, rfl, hphoto⟩

/-! ## Transactions -/

theorem request_run (transaction : Transaction) (state : Tagging) :
    (request transaction).run.run state =
      ((state.access.refused? transaction).elim (.ok ()) .error,
        { state with access := state.access.requested transaction }) := by
  rw [request, run_bind_ok (run_get state), run_bind_ok (run_set _ _)]
  cases state.access.refused? transaction <;> rfl

theorem request_granted (h : state.access.refused? addition = none) :
    (request addition).run.run state = (.ok (), state.requesting) := by
  rw [request_run, h]
  rfl

theorem request_refused {failure : Failure} (h : state.access.refused? addition = some failure) :
    (request addition).run.run state = (.error failure, state.requesting) := by
  rw [request_run, h]
  rfl

/-- A change that could not be completed is only logged. -/
theorem change_failed {transaction : Transaction} {intent : Text} {body : Tag Unit} {failure : Failure}
    {reached : Tagging}
    (h : (do request transaction; body).run.run state = (.error failure, reached))
    (hrun : (change transaction intent body).run.run state = (.ok false, after)) :
    after.photo = reached.photo := by
  have hbody : (do request transaction; body; pure true : Tag Bool).run.run state =
      (.error failure, reached) := by
    rw [← bind_assoc]
    exact run_bind_error h
  rw [change, run_tryCatch_error hbody] at hrun
  split at hrun
  case isTrue =>
    rw [warn, run_bind_ok (run_modify _ _)] at hrun
    cases hrun
    rfl
  case isFalse => cases hrun

/-- What is added is a change inside one transaction. -/
theorem addNames_run (hierarchies : List Text) (state : Tagging) :
    ∃ intent, (addNames hierarchies).run.run state =
      (change addition intent (hierarchies.forM addHierarchy)).run.run state :=
  ⟨_, run_bind_ok (run_get state)⟩

/-- **An addition that is granted.** -/
theorem addNames_granted (haccess : state.access.refused? addition = none)
    (h : granted state.refusals state.asked hierarchies = hierarchies) :
    (addNames hierarchies).run.run state =
      (.ok true, hierarchies.foldl tagged state.requesting) := by
  obtain ⟨intent, hrun⟩ := addNames_run hierarchies state
  rw [hrun, change]
  refine run_tryCatch_ok ?_
  rw [run_bind_ok (request_granted haccess), run_bind_ok (@addHierarchies_granted state.requesting _ h)]
  rfl

/-- **An addition that fails** leaves the completed hierarchies on the photo. -/
theorem addNames_failed (h : (addNames hierarchies).run.run state = (.ok false, after)) :
    after.photo = ((completed state hierarchies).foldl tagged state.requesting).photo := by
  obtain ⟨intent, hrun⟩ := addNames_run hierarchies state
  rw [hrun] at h
  cases haccess : state.access.refused? addition with
  | some failure =>
    rw [completed, haccess, change_failed (run_bind_error (request_refused haccess)) h]
    rfl
  | none =>
    rw [completed, haccess]
    by_cases hgranted : granted state.refusals state.asked hierarchies = hierarchies
    case pos =>
      rw [← hrun, addNames_granted haccess hgranted] at h
      cases h
    case neg =>
      obtain ⟨failure, reached, hbody, hphoto⟩ := @addHierarchies_refused state.requesting _ hgranted
      rw [change_failed ((run_bind_ok (request_granted haccess)).trans hbody) h, hphoto]
      rfl

end PhotoPublish.Tagging
