import Mathlib.Data.List.Nodup
import PhotoPublish.Proofs.Backlink.Course

/-!
# The turns of a run

Between the turns of a run neither the catalog nor the transactions change (`Threads`), so a run has done to a
photo what its turn has done. Names and identifiers of collections and the number of their photos never change.

* `Threads.photoAt?_eq`, `Threads.photoAt?_turn`: a photo that gets no turn stays as it is, and any other one
  is left as its only turn leaves it.
-/

set_option autoImplicit false

namespace PhotoPublish

/-! ## Lists -/

section Lists

variable {α β : Type}

theorem getD_modify {f : α → α} {list : List α} {default : α} (hdefault : f default = default)
    (i j : Nat) :
    (list.modify i f).getD j default =
      if j = i then f (list.getD j default) else list.getD j default := by
  rw [List.getD_eq_getElem?_getD, List.getD_eq_getElem?_getD, List.getElem?_modify]
  rcases eq_or_ne i j with rfl | hne
  · cases list[i]? <;> simp [hdefault]
  · cases list[j]? <;> simp [hne, hne.symm]

theorem map_modify {f : α → α} {g : α → β} (h : ∀ a, g (f a) = g a) (list : List α) (i : Nat) :
    (list.modify i f).map g = list.map g := by
  refine List.ext_getElem? fun j => ?_
  rw [List.getElem?_map, List.getElem?_map, List.getElem?_modify]
  cases list[j]? with
  | none => rfl
  | some a =>
    by_cases hij : i = j
    · simp [hij, h]
    · simp [hij]

end Lists

/-! ## Collections -/

namespace PublishedCollection

/-- The collection once one of its photos has another URL. -/
def relinked (collection : PublishedCollection) (index : Nat) (url : Text) : PublishedCollection :=
  { collection with
    photos := collection.photos.modify index fun photo => { photo with url := some url } }

/-- The collection without the URLs of its photos. -/
def unlinked (collection : PublishedCollection) : PublishedCollection :=
  { collection with photos := collection.photos.map fun photo => { photo with url := none } }

theorem unlinked_relinked (collection : PublishedCollection) (index : Nat) (url : Text) :
    (collection.relinked index url).unlinked = collection.unlinked := by
  have hphotos := map_modify
    (f := fun photo : PublishedPhoto => { photo with url := some url })
    (g := fun photo : PublishedPhoto => { photo with url := none }) (fun _ => rfl)
    collection.photos index
  unfold unlinked relinked
  rw [hphotos]

section Unlinked

variable {collection other : PublishedCollection} (h : collection.unlinked = other.unlinked)
include h

theorem name_eq_of_unlinked : collection.name = other.name :=
  congrArg (·.name) h

theorem identifier_eq_of_unlinked : collection.identifier = other.identifier :=
  congrArg (·.identifier) h

theorem length_eq_of_unlinked : collection.photos.length = other.photos.length := by
  simpa [unlinked] using congrArg (·.photos.length) h

end Unlinked

end PublishedCollection

namespace Conversion

variable {state after : Conversion}

/-! ## Places -/

/-- The photo at a position of the catalog. -/
def photoAt? (state : Conversion) (position : Nat × Nat) : Option PublishedPhoto :=
  (state.photosAt position.1)[position.2]?

/-- The URL of the photo at a position of the catalog. -/
def urlAt (state : Conversion) (position : Nat × Nat) : Option Text :=
  (state.photoAt? position).bind (·.url)

theorem collectionAt_relinked (state : Conversion) (place index other : Nat) (url : Text) :
    (state.relinked place index url).collectionAt other =
      if other = place then (state.collectionAt other).relinked index url
      else state.collectionAt other := by
  refine getD_modify ?_ place other
  exact congrArg (fun photos => { (default : PublishedCollection) with photos := photos })
    (List.modify_nil _ index)

theorem photoAt?_relinked (state : Conversion) (place index : Nat) (url : Text)
    (position : Nat × Nat) :
    (state.relinked place index url).photoAt? position =
      if position = (place, index) then
        (state.photoAt? position).map fun photo => { photo with url := some url }
      else state.photoAt? position := by
  obtain ⟨other, number⟩ := position
  change ((state.relinked place index url).collectionAt other).photos[number]? = _
  rw [collectionAt_relinked]
  by_cases hplace : other = place
  · rw [if_pos hplace, PublishedCollection.relinked, List.getElem?_modify]
    by_cases hindex : index = number
    · simp [hplace, hindex, photoAt?, photosAt, collectionAt]
    · simp [hplace, hindex, Ne.symm hindex, photoAt?, photosAt, collectionAt]
  · rw [if_neg hplace, if_neg fun h => hplace (Prod.mk.inj h).1]
    rfl

theorem collectionAt_of_catalog (h : after.catalog = state.catalog) (place : Nat) :
    after.collectionAt place = state.collectionAt place :=
  congrArg (·.getD place default) h

theorem photoAt?_of_catalog (h : after.catalog = state.catalog) (position : Nat × Nat) :
    after.photoAt? position = state.photoAt? position :=
  congrArg (·.photos[position.2]?) (collectionAt_of_catalog h position.1)

end Conversion

/-! ## What one turn does -/

namespace Turn

variable (turn : Turn)

/-- What becomes of the photo, if the turn does not end the run. -/
def fate? : Option Conversion.Fate :=
  turn.outcome.toOption

theorem run_eq : turn.run = (turn.outcome, turn.after) := rfl

/-- Only a turn that converts its photo changes the catalog. -/
theorem catalog_eq :
    (turn.fate? = some .converted ∧ ∃ second,
        turn.after.catalog = (turn.before.relinked turn.place turn.index
          (Backlink.link turn.collection.identifier second)).catalog) ∨
      (turn.fate? ≠ some .converted ∧ turn.after.catalog = turn.before.catalog) := by
  rcases Conversion.convertPhoto_catalog turn.run_eq with ⟨houtcome, hcatalog⟩ | ⟨hne, hcatalog⟩
  · exact .inl ⟨by rw [fate?, houtcome]; rfl, hcatalog⟩
  · refine .inr ⟨fun hfate => hne ?_, hcatalog⟩
    exact ok_of_toOption hfate

theorem unlinked_eq (place : Nat) :
    (turn.after.collectionAt place).unlinked = (turn.before.collectionAt place).unlinked := by
  rcases turn.catalog_eq with ⟨-, second, hcatalog⟩ | ⟨-, hcatalog⟩
  · rw [Conversion.collectionAt_of_catalog hcatalog, Conversion.collectionAt_relinked]
    split
    · exact PublishedCollection.unlinked_relinked _ _ _
    · rfl
  · rw [Conversion.collectionAt_of_catalog hcatalog]

/-- A turn leaves the other photos as they are. -/
theorem photoAt?_of_ne {position : Nat × Nat} (hne : position ≠ turn.position) :
    turn.after.photoAt? position = turn.before.photoAt? position := by
  rcases turn.catalog_eq with ⟨-, second, hcatalog⟩ | ⟨-, hcatalog⟩
  · rw [Conversion.photoAt?_of_catalog hcatalog, Conversion.photoAt?_relinked]
    exact if_neg hne
  · exact Conversion.photoAt?_of_catalog hcatalog position

/-- A photo that is not converted stays as it is. -/
theorem photoAt?_of_not_converted (hfate : turn.fate? ≠ some .converted)
    (position : Nat × Nat) : turn.after.photoAt? position = turn.before.photoAt? position := by
  rcases turn.catalog_eq with ⟨hconverted, -⟩ | ⟨-, hcatalog⟩
  · exact absurd hconverted hfate
  · exact Conversion.photoAt?_of_catalog hcatalog position

/-- A photo that is converted has a link to its collection. -/
theorem photoAt?_of_converted (hfate : turn.fate? = some .converted) :
    ∃ second, turn.after.photoAt? turn.position =
      (turn.before.photoAt? turn.position).map fun photo =>
        { photo with url := some (Backlink.link turn.collection.identifier second) } := by
  rcases turn.catalog_eq with ⟨-, second, hcatalog⟩ | ⟨hne, -⟩
  · refine ⟨second, ?_⟩
    rw [Conversion.photoAt?_of_catalog hcatalog, Conversion.photoAt?_relinked]
    exact if_pos rfl
  · exact absurd hfate hne

/-- A turn opens one transaction or none. -/
theorem access_eq :
    turn.after.access =
      if turn.opens then turn.before.access.requested Conversion.backlinkTransaction
      else turn.before.access := by
  rcases Conversion.convertPhoto_access turn.run_eq with haccess | haccess
  · have hopens : turn.opens = false := by simp [opens, haccess]
    rw [hopens, haccess]
    rfl
  · have hopens : turn.opens = true := by simp [opens, haccess, WriteAccess.requested]
    rw [hopens, haccess]
    rfl

theorem scopes_eq : turn.after.scopes = turn.before.scopes :=
  (Conversion.convertPhoto_progress turn.run_eq).1

theorem cancelAfter_eq : turn.after.cancelAfter = turn.before.cancelAfter :=
  (Conversion.convertPhoto_progress turn.run_eq).2

variable {turn}

/-- A turn that does not end the run opens a transaction exactly for a photo without a backlink. -/
theorem opens_eq {fate : Conversion.Fate} (hfate : turn.fate? = some fate) :
    turn.opens = turn.collection.isPending turn.photo := by
  have houtcome : turn.outcome = .ok fate := ok_of_toOption hfate
  have hrun : turn.run = (.ok fate, turn.after) := Prod.ext houtcome rfl
  have haccess := (Conversion.convertPhoto_treats hrun).access_eq
  cases hpending : turn.collection.isPending turn.photo with
  | true =>
    rw [hpending, if_pos rfl] at haccess
    simp [opens, haccess, WriteAccess.requested]
  | false =>
    rw [hpending, if_neg Bool.false_ne_true] at haccess
    simp [opens, haccess]

theorem kept_iff {fate : Conversion.Fate} (hfate : turn.fate? = some fate) :
    fate = .kept ↔ turn.collection.isPending turn.photo = false := by
  have houtcome : turn.outcome = .ok fate := ok_of_toOption hfate
  have hrun : turn.run = (.ok fate, turn.after) := Prod.ext houtcome rfl
  have heq := (Conversion.convertPhoto_treats hrun).fate_eq
  cases hpending : turn.collection.isPending turn.photo with
  | true =>
    rw [hpending] at heq
    refine iff_of_false (fun hkept => ?_) Bool.false_ne_true.symm
    rw [hkept] at heq
    simp only [Bool.not_true, Bool.false_eq_true, if_false] at heq
    split at heq <;> cases heq
  | false =>
    rw [hpending] at heq
    exact iff_of_true heq rfl

end Turn

namespace Conversion

variable {place scope index total done : Nat} {collection : PublishedCollection}
  {photos : List PublishedPhoto} {places : List Nat} {result result' : ConversionResult}
  {summary summary' : ConversionSummary} {state mid after : Conversion} {turns turns' : List Turn}
  {turn : Turn} {position : Nat × Nat} {services : List (Folder Nat)} {start : Conversion}

/-! ## From turn to turn -/

/-- The turns lead from one state to another: between them, before them and after them neither the catalog
nor the transactions change. -/
inductive Threads : Conversion → List Turn → Conversion → Prop where
  | nil {state after : Conversion} (hbooks : SameBooks state after) : Threads state [] after
  | cons {state after : Conversion} {turn : Turn} {turns : List Turn}
      (hbooks : SameBooks state turn.before) (hrest : Threads turn.after turns after) :
    Threads state (turn :: turns) after

namespace Threads

theorem of_sameBooks (h : SameBooks state mid) (h' : Threads mid turns after) :
    Threads state turns after := by
  cases h' with
  | nil hbooks => exact .nil (h.trans hbooks)
  | cons hbooks hrest => exact .cons (h.trans hbooks) hrest

theorem append (h : Threads state turns mid) (h' : Threads mid turns' after) :
    Threads state (turns ++ turns') after := by
  induction h with
  | nil hbooks => exact h'.of_sameBooks hbooks
  | cons hbooks _ ih => exact .cons hbooks (ih h')

theorem trans_sameBooks (h : Threads state turns mid) (h' : SameBooks mid after) :
    Threads state turns after := by
  simpa using h.append (.nil h')

/-- The states around a stretch of the turns. -/
theorem exists_of_append (h : Threads state (turns ++ turns') after) :
    ∃ mid, Threads state turns mid ∧ Threads mid turns' after := by
  induction turns generalizing state with
  | nil => exact ⟨state, .nil ⟨rfl, rfl, rfl⟩, h⟩
  | cons turn turns ih =>
    cases h with
    | cons hbooks hrest =>
      obtain ⟨mid, hfirst, hlast⟩ := ih hrest
      exact ⟨mid, .cons hbooks hfirst, hlast⟩

variable (h : Threads state turns after)
include h

theorem unlinked_eq (place : Nat) :
    (after.collectionAt place).unlinked = (state.collectionAt place).unlinked := by
  induction h with
  | nil hbooks => rw [collectionAt_of_catalog hbooks.catalog]
  | @cons state after turn turns hbooks _ ih =>
    rw [ih, turn.unlinked_eq, collectionAt_of_catalog hbooks.catalog]

theorem length_photosAt (place : Nat) :
    (after.photosAt place).length = (state.photosAt place).length :=
  PublishedCollection.length_eq_of_unlinked (h.unlinked_eq place)

/-- Turns that convert no photo change nothing in the catalog. -/
theorem catalog_eq (hnone : ∀ turn ∈ turns, turn.fate? ≠ some .converted) :
    after.catalog = state.catalog := by
  induction h with
  | nil hbooks => exact hbooks.catalog
  | @cons state after turn turns hbooks _ ih =>
    rw [ih fun turn' hmem => hnone turn' (List.mem_cons_of_mem turn hmem), ← hbooks.catalog]
    rcases turn.catalog_eq with ⟨hconverted, -⟩ | ⟨-, hcatalog⟩
    · exact absurd hconverted (hnone turn List.mem_cons_self)
    · exact hcatalog

theorem cancelAfter_eq : after.cancelAfter = state.cancelAfter := by
  induction h with
  | nil hbooks => exact hbooks.cancelAfter
  | @cons state after turn turns hbooks _ ih =>
    rw [ih, turn.cancelAfter_eq, hbooks.cancelAfter]

/-- The transactions are those of the turns. -/
theorem access_eq :
    after.access =
      { state.access with
        requests := state.access.requests ++
          List.replicate (turns.countP Turn.opens) backlinkTransaction } := by
  induction h with
  | nil hbooks => rw [hbooks.access, List.countP_nil, List.replicate_zero, List.append_nil]
  | @cons state after turn turns hbooks _ ih =>
    rw [ih, turn.access_eq, hbooks.access]
    cases hopens : turn.opens with
    | false => simp only [List.countP_cons, hopens, Bool.false_eq_true, if_false, Nat.add_zero]
    | true =>
      simp only [List.countP_cons, hopens, if_true, WriteAccess.requested, List.append_assoc,
        List.replicate_succ, List.singleton_append]

theorem requests_le : state.access.requests.length ≤ after.access.requests.length := by
  rw [h.access_eq, List.length_append]
  exact Nat.le_add_right _ _

theorem requests_le_turn (hmem : turn ∈ turns) :
    state.access.requests.length ≤ turn.before.access.requests.length := by
  obtain ⟨front, back, rfl⟩ := List.append_of_mem hmem
  obtain ⟨mid, hfront, hback⟩ := h.exists_of_append
  cases hback with
  | cons hbooks _ =>
    rw [hbooks.access]
    exact hfront.requests_le

/-- A photo that gets no turn stays as it is. -/
theorem photoAt?_eq (hnone : position ∉ turns.map Turn.position) :
    after.photoAt? position = state.photoAt? position := by
  induction h with
  | nil hbooks => exact photoAt?_of_catalog hbooks.catalog position
  | @cons state after turn turns hbooks _ ih =>
    rw [List.map_cons, List.mem_cons, not_or] at hnone
    rw [ih hnone.2, turn.photoAt?_of_ne hnone.1, photoAt?_of_catalog hbooks.catalog]

/-- A photo that gets one turn comes to it as it was, and is left as the turn leaves it. -/
theorem photoAt?_turn (hmem : turn ∈ turns) (hnodup : (turns.map Turn.position).Nodup) :
    turn.before.photoAt? turn.position = state.photoAt? turn.position ∧
      after.photoAt? turn.position = turn.after.photoAt? turn.position := by
  obtain ⟨front, back, rfl⟩ := List.append_of_mem hmem
  obtain ⟨mid, hfront, hback⟩ := h.exists_of_append
  rw [List.map_append, List.map_cons, List.nodup_append] at hnodup
  obtain ⟨-, hback', hapart⟩ := hnodup
  have hnone : turn.position ∉ front.map Turn.position := fun hfront =>
    hapart _ hfront _ List.mem_cons_self rfl
  cases hback with
  | cons hbooks hrest =>
    refine ⟨?_, hrest.photoAt?_eq (List.nodup_cons.1 hback').1⟩
    rw [photoAt?_of_catalog hbooks.catalog, hfront.photoAt?_eq hnone]

/-- In a turn the collections are those that they were before the turns, but for URLs. -/
theorem unlinked_turn (hmem : turn ∈ turns) (place : Nat) :
    (turn.before.collectionAt place).unlinked = (state.collectionAt place).unlinked := by
  obtain ⟨front, back, rfl⟩ := List.append_of_mem hmem
  obtain ⟨mid, hfront, hback⟩ := h.exists_of_append
  cases hback with
  | cons hbooks _ =>
    rw [collectionAt_of_catalog hbooks.catalog]
    exact hfront.unlinked_eq place

end Threads

theorem photosCourse_threads :
    Threads state (photosCourse place scope collection index photos result state).turns
      (photosCourse place scope collection index photos result state).state := by
  fun_induction photosCourse place scope collection index photos result state with
  | case1 => exact .nil ⟨rfl, rfl, rfl⟩
  | case2 => exact .nil ⟨rfl, rfl, rfl⟩
  | case3 => exact .cons ⟨rfl, rfl, rfl⟩ (.nil ⟨rfl, rfl, rfl⟩)
  | case4 => exact .cons ⟨rfl, rfl, rfl⟩ (.nil ⟨rfl, rfl, rfl⟩)
  | case5 index photo rest result state hcancelled turn fate houtcome portion hportion ih =>
    exact .cons ⟨rfl, rfl, rfl⟩ (ih.of_sameBooks (sameBooks_reported ..))

theorem collectionCourse_threads :
    Threads state (collectionCourse place state).turns (collectionCourse place state).state := by
  have hbegun : SameBooks state (state.withNewScope (scopeTitle (state.collectionAt place))) :=
    ⟨rfl, rfl, rfl⟩
  exact (photosCourse_threads.of_sameBooks hbegun).trans_sameBooks ⟨rfl, rfl, rfl⟩

theorem collectionsCourse_threads :
    Threads state (collectionsCourse scope total done places summary state).turns
      (collectionsCourse scope total done places summary state).state := by
  fun_induction collectionsCourse scope total done places summary state with
  | case1 => exact .nil ⟨rfl, rfl, rfl⟩
  | case2 => exact .nil ⟨rfl, rfl, rfl⟩
  | case3 => exact collectionCourse_threads
  | case4 => exact collectionCourse_threads
  | case5 done place rest summary state hcancelled course result houtcome portion hportion ih =>
    exact collectionCourse_threads.append (ih.of_sameBooks (sameBooks_reported ..))

theorem allCourse_threads :
    Threads start (start.turns services) (start.allCourse services).state := by
  have hbegun : SameBooks start ((start.prepared services).withNewScope overallTitle) :=
    ⟨rfl, rfl, rfl⟩
  exact collectionsCourse_threads.of_sameBooks hbegun

end Conversion

end PhotoPublish
