import PhotoPublish.Proofs.Keyword.Runs

/-!
# Keywords that are taken off a photo

The keywords that are taken off are those that were selected from the photo's list before, while each step makes
that list shorter by the first occurrence of a keyword. So the induction goes along the list itself: what it has
passed over was not selected and stays in front, and the next selected keyword is the first of its kind.

* `take_run`, `take_selected`: one keyword, and all that are selected.
* `removeAll_purges`: selecting keywords by their names and taking them off.
-/

set_option autoImplicit false

namespace PhotoPublish.Tagging

variable {state : Tagging} {names : List Text}

/-- The transaction in which keywords are taken off. -/
def removal : Transaction :=
  .named "Remove keywords"

/-- The state with other keywords on the photo. -/
def wearing (state : Tagging) (places : List Nat) : Tagging :=
  { state with photo := some places }

/-! ## Steps -/

/-- **A keyword that is on the photo** is taken off where it comes first. -/
theorem take_run {passed later : List Nat} {place : Nat} (h : place ∉ passed) :
    (take place).run.run (state.wearing (passed ++ place :: later)) =
      (.ok (), state.wearing (passed ++ later)) := by
  have hcontains : (state.wearing (passed ++ place :: later)).keywords.contains place = true :=
    List.contains_iff_mem.2 (List.mem_append_right _ List.mem_cons_self)
  have herase : (state.wearing (passed ++ place :: later)).keywords.erase place = passed ++ later := by
    show (passed ++ place :: later).erase place = passed ++ later
    rw [List.erase_append_right _ h, List.erase_cons_head]
  rw [take, run_bind_ok (run_get _), if_pos hcontains, herase, run_set]
  rfl

/-- **The selected keywords of a list are taken off**, and the others stay in their order. -/
theorem take_selected (selected : Nat → Bool) {passed : List Nat}
    (hpassed : ∀ place ∈ passed, selected place = false) (later : List Nat) :
    ((later.filter selected).forM take).run.run (state.wearing (passed ++ later)) =
      (.ok (), state.wearing (passed ++ later.filter fun place => !selected place)) := by
  induction later generalizing passed with
  | nil => rfl
  | cons place later ih =>
    cases hselected : selected place with
    | true =>
      have hnotMem : place ∉ passed := fun hmem => by
        rw [hpassed place hmem] at hselected
        cases hselected
      rw [List.filter_cons_of_pos hselected, List.forM, run_bind_ok (take_run hnotMem), ih hpassed,
        List.filter_cons_of_neg (by simp [hselected])]
    | false =>
      have hlonger : ∀ other ∈ passed ++ [place], selected other = false :=
        List.forall_mem_append.2 ⟨hpassed, List.forall_mem_singleton.2 hselected⟩
      have hrest := ih hlonger
      simp only [List.append_assoc, List.singleton_append] at hrest
      rw [List.filter_cons_of_neg (by simp [hselected]), hrest,
        List.filter_cons_of_pos (by simp [hselected])]

/-! ## Removals -/

/-- Whether a keyword is one that is not exported or has none of the names. -/
def isOther (state : Tagging) (names : List Text) (place : Nat) : Bool :=
  match state.catalog[place]? with
  | some keyword => !keyword.isExported || !names.contains keyword.name
  | none => true

theorem isOther_eq_not_isNamed (state : Tagging) (names : List Text) (place : Nat) :
    state.isOther names place = !state.isNamed names place := by
  unfold isOther isNamed
  cases state.catalog[place]? with
  | none => rfl
  | some keyword => exact (Bool.not_and ..).symm

/-- What taking off the keywords with some names changes. -/
structure Purges (names : List Text) (before after : Tagging) : Prop where
  photo : after.photo = before.photo.map (List.filter (before.isOther names))
  exported : after.exported names = []
  catalog : after.catalog = before.catalog
  log : after.log = before.log
  requests : after.access.requests = before.access.requests ++ [removal]

/-- The state after a removal that is granted. -/
def purged (state : Tagging) (names : List Text) : Tagging :=
  { state with
    photo := state.photo.map (List.filter (state.isOther names))
    access := state.access.requested removal }

theorem purged_purges (state : Tagging) (names : List Text) : Purges names state (state.purged names) where
  photo := rfl
  exported := by
    have hkeywords : (state.purged names).keywords = state.keywords.filter (state.isOther names) := by
      unfold keywords purged
      cases state.photo <;> rfl
    have hnamed : (state.purged names).isNamed names = state.isNamed names := rfl
    rw [Tagging.exported, hkeywords, hnamed, List.filter_filter, List.filter_eq_nil_iff]
    intro place _
    rw [isOther_eq_not_isNamed, Bool.and_not_self]
    exact nofun
  catalog := rfl
  log := rfl
  requests := rfl

/-- The selected keywords are taken off also if the photo has no list of keywords, as there are none then. -/
theorem take_exported (state : Tagging) (names : List Text) :
    ((state.exported names).forM take).run.run { state with access := state.access.requested removal } =
      (.ok (), state.purged names) := by
  have hother : (fun place => !state.isNamed names place) = state.isOther names :=
    funext fun place => (isOther_eq_not_isNamed state names place).symm
  unfold exported keywords purged
  cases hphoto : state.photo with
  | none => rfl
  | some places =>
    have hrun := @take_selected { state with access := state.access.requested removal }
      (state.isNamed names) [] nofun places
    rw [hother] at hrun
    exact hrun

/-- **Selecting the keywords with some names and taking them off purges exactly those**, however often a photo
has them, and whatever others are called the same. -/
theorem removeAll_purges (names : List Text) (h : state.access.refused? removal = none) :
    ∃ after, (removeAll (state.exported names)).run.run state = (.ok true, after) ∧
      Purges names state after := by
  refine ⟨state.purged names, ?_, purged_purges state names⟩
  have hrequest : (request removal).run.run state =
      (.ok (), { state with access := state.access.requested removal }) := by
    rw [request_run, h]
    rfl
  rw [removeAll, run_bind_ok (run_get state), change]
  refine run_tryCatch_ok ?_
  rw [← removal, run_bind_ok hrequest, run_bind_ok (take_exported state names)]
  rfl

/-- A photo with two keywords `Paris`, one of them twice, and one that is not exported. -/
def parisian : Tagging where
  catalog := [⟨"Places".toList, none, true⟩, ⟨"Paris".toList, some 0, true⟩, ⟨"People".toList, none, true⟩,
    ⟨"Paris".toList, some 2, true⟩, ⟨"Paris".toList, none, false⟩]
  photo := some [1, 3, 0, 1, 4]

/-- All exported keywords of a name go, under whatever parent. -/
theorem removeAll_purges_parisian :
    ∃ after, (removeAll (parisian.exported ["Paris".toList])).run.run parisian = (.ok true, after) ∧
      Purges ["Paris".toList] parisian after ∧ after.photo = some [0, 4] := by
  obtain ⟨after, hrun, hpurges⟩ := @removeAll_purges parisian ["Paris".toList] rfl
  refine ⟨after, hrun, hpurges, ?_⟩
  rw [hpurges.photo]
  decide +kernel

end PhotoPublish.Tagging
