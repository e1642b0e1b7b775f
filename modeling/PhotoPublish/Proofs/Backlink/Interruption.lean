import PhotoPublish.Proofs.Backlink.InStep

/-!
# Runs that the host ends

A failure that is not of the program's own kinds ends a run at once: the scopes are finished on the way out and
nothing else happens.

* `collectionsCourse_error`, `collectionsCourse_scopes`: the turn that fails is the last one, and what scopes
  there are then.
* `convertAll_interrupted`: what is left of a run that the host ends at a photo.
-/

set_option autoImplicit false

namespace PhotoPublish

/-! ## Lists -/

section Lists

variable {α : Type} {list : List α}

theorem not_mem_drop_of_mem_take (hnodup : list.Nodup) {a : α} {k : Nat} (h : a ∈ list.take k) :
    a ∉ list.drop k := by
  rw [← List.take_append_drop k list, List.nodup_append] at hnodup
  exact fun hdrop => hnodup.2.2 a h a hdrop rfl

section Cut

variable {front back : List α} {a : α} {k : Nat} (hnodup : list.Nodup)
  (hsub : List.Sublist (front ++ back) list) (hk : list[k]? = some a)
include hnodup hsub hk

/-- In a list without repetitions, what stands before a member in a part of the list stands before it in the
whole list. -/
theorem subset_take_of_sublist (hmem : a ∈ back) : front ⊆ list.take k := by
  obtain ⟨first, rest, rfl, hfirst, hrest⟩ := List.append_sublist_iff.1 hsub
  have hapart := (List.nodup_append.1 hnodup).2.2
  have hle : first.length ≤ k := by
    by_contra hlt
    rw [List.getElem?_append_left (by omega)] at hk
    exact hapart a (List.mem_of_getElem? hk) a (hrest.subset hmem) rfl
  rw [List.take_append, List.take_of_length_le hle]
  exact List.Subset.trans hfirst.subset (List.subset_append_left _ _)

theorem subset_drop_of_sublist (hmem : a ∈ front) : back ⊆ list.drop k := by
  obtain ⟨first, rest, rfl, hfirst, hrest⟩ := List.append_sublist_iff.1 hsub
  have hapart := (List.nodup_append.1 hnodup).2.2
  have hlt : k < first.length := by
    by_contra hle
    rw [List.getElem?_append_right (by omega)] at hk
    exact hapart a (hfirst.subset hmem) a (List.mem_of_getElem? hk) rfl
  rw [List.drop_append_of_le_length (Nat.le_of_lt hlt)]
  exact List.Subset.trans hrest.subset (List.subset_append_right _ _)

end Cut

end Lists

namespace Conversion

variable {place scope index total done : Nat} {collection : PublishedCollection}
  {photos : List PublishedPhoto} {places : List Nat} {result : ConversionResult}
  {summary : ConversionSummary} {state : Conversion} {turn : Turn} {failure : Failure}

/-! ## The last turn -/

theorem photosCourse_error
    (hmem : turn ∈ (photosCourse place scope collection index photos result state).turns)
    (hfails : turn.outcome = .error failure) :
    (photosCourse place scope collection index photos result state).outcome = .error failure ∧
      ∃ front, (photosCourse place scope collection index photos result state).turns =
        front ++ [turn] := by
  fun_induction photosCourse place scope collection index photos result state with
  | case1 => cases hmem
  | case2 => cases hmem
  | case3 index photo rest result state hcancelled first failure' houtcome =>
    obtain rfl := List.mem_singleton.1 hmem
    obtain rfl := Except.error.inj (houtcome.symm.trans hfails)
    exact ⟨rfl, [], rfl⟩
  | case4 index photo rest result state hcancelled first fate houtcome =>
    obtain rfl := List.mem_singleton.1 hmem
    cases houtcome.symm.trans hfails
  | case5 index photo rest result state hcancelled first fate houtcome portion hportion ih =>
    rcases List.mem_cons.1 hmem with rfl | hmem
    · cases houtcome.symm.trans hfails
    · obtain ⟨herror, front, hfront⟩ := ih hmem
      exact ⟨herror, first :: front, congrArg (first :: ·) hfront⟩

/-- **A turn that fails is the last one,** and the run fails with it. -/
theorem collectionsCourse_error
    (hmem : turn ∈ (collectionsCourse scope total done places summary state).turns)
    (hfails : turn.outcome = .error failure) :
    (collectionsCourse scope total done places summary state).outcome = .error failure ∧
      ∃ front, (collectionsCourse scope total done places summary state).turns =
        front ++ [turn] := by
  fun_induction collectionsCourse scope total done places summary state with
  | case1 => cases hmem
  | case2 => cases hmem
  | case3 done place rest summary state hcancelled course failure' houtcome =>
    obtain ⟨herror, hlast⟩ := photosCourse_error hmem hfails
    obtain rfl := Except.error.inj (houtcome.symm.trans herror)
    exact ⟨rfl, hlast⟩
  | case4 done place rest summary state hcancelled course result houtcome failure' hportion =>
    cases houtcome.symm.trans (photosCourse_error hmem hfails).1
  | case5 done place rest summary state hcancelled course result houtcome portion hportion ih =>
    rcases List.mem_append.1 hmem with hmem | hmem
    · cases houtcome.symm.trans (photosCourse_error hmem hfails).1
    · obtain ⟨herror, front, hfront⟩ := ih hmem
      exact ⟨herror, course.turns ++ front, by
        rw [Course.behind_turns, hfront, List.append_assoc]⟩

/-! ## Scopes -/

/-- The scopes of some collections, all of them finished. -/
structure Scoped (state : Conversion) (places : List Nat) (records : List ScopeRecord) : Prop where
  titles : records.map (·.scope.title) =
    places.map fun place => .text (scopeTitle (state.collectionAt place))
  finished : ∀ record ∈ records, record.scope.finished = true

theorem photosCourse_scopes {front : List ScopeRecord} (hscope : scope = front.length) :
    ∀ record, state.scopes = front ++ [record] →
      ∃ record', (photosCourse place scope collection index photos result state).state.scopes =
          front ++ [record'] ∧ record'.scope.title = record.scope.title := by
  fun_induction photosCourse place scope collection index photos result state with
  | case1 => exact fun record hscopes => ⟨record, hscopes, rfl⟩
  | case2 => exact fun record hscopes => ⟨record, hscopes, rfl⟩
  | case3 index photo rest result state hcancelled turn =>
    exact fun record hscopes => ⟨record, turn.scopes_eq.trans hscopes, rfl⟩
  | case4 index photo rest result state hcancelled turn =>
    exact fun record hscopes => ⟨record, turn.scopes_eq.trans hscopes, rfl⟩
  | case5 index photo rest result state hcancelled turn fate houtcome portion hportion ih =>
    intro record hscopes
    have hreported : (turn.after.reported scope portion (index + 1) collection.photos.length).scopes =
        front ++ [{ scope := { record.scope with portion := portion }
                    reports := record.reports ++ [(index + 1, collection.photos.length)] }] := by
      rw [reported, turn.scopes_eq, hscopes, hscope, modify_length_append]
    obtain ⟨record', hscopes', htitle⟩ := ih _ hreported
    exact ⟨record', hscopes', htitle⟩

/-- A collection has one scope of its own, which is finished. -/
theorem collectionCourse_scopes (place : Nat) (state : Conversion) :
    ∃ record, (collectionCourse place state).state.scopes = state.scopes ++ [record] ∧
      Scoped state [place] [record] := by
  obtain ⟨record, hscopes, htitle⟩ := @photosCourse_scopes place state.scopes.length 0
    (state.collectionAt place) (state.photosAt place) { photos := (state.photosAt place).length }
    (state.withNewScope (scopeTitle (state.collectionAt place))) state.scopes rfl _ rfl
  refine ⟨{ record with scope := record.scope.finish }, ?_, ?_, ?_⟩
  · have hfinished := congrArg (fun scopes : List ScopeRecord =>
      scopes.modify state.scopes.length fun record =>
        { record with scope := record.scope.finish }) hscopes
    rw [modify_length_append] at hfinished
    exact hfinished
  · exact congrArg (fun title => [title]) htitle
  · intro record' hmem
    obtain rfl := List.mem_singleton.1 hmem
    rfl

theorem Scoped.append {places places' : List Nat} {records records' : List ScopeRecord}
    (h : Scoped state places records) (h' : Scoped state places' records') :
    Scoped state (places ++ places') (records ++ records') where
  titles := by rw [List.map_append, List.map_append, h.titles, h'.titles]
  finished := by
    intro record hmem
    rcases List.mem_append.1 hmem with hmem | hmem
    · exact h.finished record hmem
    · exact h'.finished record hmem

theorem scopeTitle_congr {other : PublishedCollection} (h : other.name = collection.name) :
    scopeTitle other = scopeTitle collection := by
  unfold scopeTitle
  rw [h]

/-- The titles are the same at any time of a run. -/
theorem Scoped.of_threads {mid : Conversion} {turns : List Turn} {records : List ScopeRecord}
    (hthreads : Threads state turns mid) (h : Scoped mid places records) :
    Scoped state places records where
  titles := by
    refine h.titles.trans (List.map_congr_left fun place _ => congrArg Value.text ?_)
    exact scopeTitle_congr (PublishedCollection.name_eq_of_unlinked (hthreads.unlinked_eq place))
  finished := h.finished

/-- **The scopes of a run that fails at a photo:** that of the run and one for each collection up to that of
the photo. -/
theorem collectionsCourse_scopes {front : List ScopeRecord} (hscope : scope = front.length) :
    ∀ overall created, state.scopes = front ++ overall :: created →
      ∀ turn ∈ (collectionsCourse scope total done places summary state).turns,
        turn.outcome = .error failure →
        ∃ before behind overall' records, places = before ++ turn.place :: behind ∧
          (collectionsCourse scope total done places summary state).state.scopes =
            front ++ overall' :: (created ++ records) ∧
          overall'.scope.title = overall.scope.title ∧
          Scoped state (before ++ [turn.place]) records := by
  fun_induction collectionsCourse scope total done places summary state with
  | case1 => exact fun _ _ _ _ hmem => absurd hmem List.not_mem_nil
  | case2 => exact fun _ _ _ _ hmem => absurd hmem List.not_mem_nil
  | case3 done place rest summary state hcancelled course failure' houtcome =>
    intro overall created hscopes turn hmem hfails
    obtain ⟨record, hrecord, hscoped⟩ := collectionCourse_scopes place state
    obtain rfl := place_of_mem hmem
    refine ⟨[], rest, overall, [record], rfl, ?_, rfl, hscoped⟩
    rw [hrecord, hscopes, List.append_assoc, List.cons_append]
  | case4 done place rest summary state hcancelled course result houtcome failure' hportion =>
    intro overall created hscopes turn hmem hfails
    cases houtcome.symm.trans (photosCourse_error hmem hfails).1
  | case5 done place rest summary state hcancelled course result houtcome portion hportion ih =>
    intro overall created hscopes turn hmem hfails
    rcases List.mem_append.1 hmem with hmem | hmem
    · cases houtcome.symm.trans (photosCourse_error hmem hfails).1
    · obtain ⟨record, hrecord, hscoped⟩ := collectionCourse_scopes place state
      have hreported : (course.state.reported scope portion (done + 1) total).scopes =
          front ++ { scope := { overall.scope with portion := portion }
                     reports := overall.reports ++ [(done + 1, total)] } ::
            (created ++ [record]) := by
        rw [reported, hrecord, hscopes, hscope, List.append_assoc, List.cons_append,
          modify_length_append]
      obtain ⟨before, behind, overall', records, rfl, hfinal, htitle, hrecords⟩ :=
        ih _ _ hreported turn hmem hfails
      refine ⟨place :: before, behind, overall', record :: records, rfl, ?_, htitle, ?_⟩
      · rw [Course.behind_state, hfinal, List.append_assoc, List.singleton_append]
      · exact hscoped.append
          (hrecords.of_threads (collectionCourse_threads.trans_sameBooks (sameBooks_reported ..)))

end Conversion

/-! ## Runs that the host ends -/

/-- The host raises a failure in a turn: when write access is requested, or when the URL is set. -/
inductive Turn.Raises (turn : Turn) : Failure → Prop where
  | access {failure : Failure}
      (hpending : Backlink.check turn.collection.identifier turn.photo.url = .ok false)
      (hrefused : turn.before.access.refused? Conversion.backlinkTransaction = some failure) :
    Raises turn failure
  | url {family : Family} {url : Text}
      (hpending : Backlink.check turn.collection.identifier turn.photo.url = .ok false)
      (hgranted : turn.before.access.refused? Conversion.backlinkTransaction = none)
      (hmake : Backlink.make turn.collection.identifier (.real turn.before.clock.now) = .ok url)
      (hrefusal : turn.photo.refusal = some family) :
    Raises turn (.host family "remote url rejected".toList)

namespace Turn

variable {turn : Turn} {failure : Failure}

theorem Raises.run_eq (h : turn.Raises failure) (hforeign : failure.family.isOwn = false) :
    turn.outcome = .error failure ∧
      turn.after.access = turn.before.access.requested Conversion.backlinkTransaction := by
  have hends : ∀ after, Conversion.Breaks turn.place turn.index turn.collection turn.photo turn.before
        failure after →
      after.access = turn.before.access.requested Conversion.backlinkTransaction →
      turn.outcome = .error failure ∧
        turn.after.access = turn.before.access.requested Conversion.backlinkTransaction := by
    intro after hbreaks haccess
    have hrun : turn.run = (.error failure, after) := Conversion.convertPhoto_error_iff.2 hbreaks
    rw [outcome, Turn.after, hrun]
    exact ⟨rfl, haccess⟩
  cases h with
  | access hpending hrefused => exact hends _ (.refused hpending hrefused hforeign) rfl
  | url hpending hgranted hmake hrefusal =>
    exact hends _ (.rejected hpending hgranted hmake hrefusal hforeign) rfl

end Turn

namespace Conversion

variable {turn : Turn} {services : List (Folder Nat)} {start state after : Conversion}
  {failure : Failure} {answers : Answers} {k : Nat}

theorem length_photosAt_otherwise (state : Conversion) (answers : Answers) (place : Nat) :
    ((state.otherwise answers).photosAt place).length = (state.photosAt place).length := by
  change ((state.otherwise answers).collectionAt place).photos.length = _
  rw [collectionAt_otherwise]
  split
  · exact List.length_modify ..
  · rfl

/-- What comes before a turn in the order of the photos is at the end as it was in the turn. -/
theorem photoAt?_of_take {front back : List Turn} {list : List (Nat × Nat)} {position : Nat × Nat}
    (hthreads : Threads state (front ++ turn :: back) after) (hnodup : list.Nodup)
    (hsub : List.Sublist ((front ++ turn :: back).map Turn.position) list)
    (hk : list[k]? = some turn.position) (hposition : position ∈ list.take k) :
    after.photoAt? position = turn.before.photoAt? position := by
  obtain ⟨mid, -, hback⟩ := hthreads.exists_of_append
  cases hback with
  | cons hbooks hrest =>
    have hturn : Threads turn.before (turn :: back) after := .cons ⟨rfl, rfl, rfl⟩ hrest
    refine hturn.photoAt?_eq fun hmem => ?_
    have hdrop := not_mem_drop_of_mem_take hnodup hposition
    rcases List.mem_cons.1 hmem with rfl | hmem
    · exact hdrop (List.mem_of_getElem? (i := 0) (List.getElem?_drop.trans hk))
    · rw [List.map_append, List.map_cons, ← List.singleton_append, ← List.append_assoc] at hsub
      refine hdrop (subset_drop_of_sublist hnodup hsub hk ?_ hmem)
      exact List.mem_append_right _ List.mem_cons_self

/-- What is left of a run that the host ends in a turn, that of the photo with number `k`. -/
structure Interrupted (services : List (Folder Nat)) (start : Conversion) (k : Nat) (turn : Turn)
    (after : Conversion) : Prop where
  /-- The photos before it have the URLs that they get in the run in which the host answers otherwise. -/
  before : ∀ position ∈ (start.positions services).take k, ∀ access refusal,
    after.urlAt position =
      ((convertAll services).run.run (start.otherwise
        ⟨turn.before.access.requests.length, access, turn.position, refusal⟩)).2.urlAt position
  /-- All other photos have their URLs from before the run. -/
  behind : ∀ position, position ∉ (start.positions services).take k →
    after.urlAt position = start.urlAt position
  /-- The transaction of the turn is the last one. -/
  access : after.access = turn.before.access.requested backlinkTransaction
  /-- There are scopes for the run and for the collections up to that of the photo, and they are finished. -/
  scopes : ∃ front back records, placesOf services = front ++ turn.place :: back ∧
    after.scopes = start.scopes ++ records ∧
    (∀ record ∈ records, record.scope.finished = true) ∧
    records.map (·.scope.title) = .text overallTitle ::
      (front ++ [turn.place]).map fun place => .text (scopeTitle (start.collectionAt place))

section Ending

variable (hnodup : (placesOf services).Nodup) (hturn : turn ∈ start.turns services)
include hnodup hturn

/-- A run and the one in which the host answers otherwise agree in the photos before the one in question. -/
theorem urlAt_of_take (hk : (start.positions services)[k]? = some turn.position)
    (access refusal : Option Family) :
    ∀ position ∈ (start.positions services).take k,
      ((convertAll services).run.run (start.otherwise
        ⟨turn.before.access.requests.length, access, turn.position, refusal⟩)).2.urlAt position =
      turn.before.urlAt position := by
  intro position hposition
  let answers : Answers :=
    ⟨turn.before.access.requests.length, access, turn.position, refusal⟩
  have hpositions : (start.otherwise answers).positions services = start.positions services :=
    positionsIn_congr (length_photosAt_otherwise start answers) _
  obtain ⟨turn', hturn', hsame, hbefore⟩ :=
    collectionsCourse_inStep answers hnodup turn hturn rfl (Nat.le_refl _)
  obtain ⟨outcome, last, hrun, hbooks, -⟩ := convertAll_ends services (start.otherwise answers)
  obtain ⟨front, back, hturns⟩ := List.append_of_mem hturn'
  have hthreads : Threads (start.otherwise answers) (front ++ turn' :: back) last :=
    hturns ▸ allCourse_threads.trans_sameBooks hbooks
  have hsub : List.Sublist ((front ++ turn' :: back).map Turn.position)
      (start.positions services) :=
    hpositions ▸ hturns ▸ collectionsCourse_positions
  have hphoto := photoAt?_of_take hthreads (nodup_positionsIn _ hnodup) hsub (hsame ▸ hk) hposition
  rw [hrun]
  change last.urlAt position = _
  rw [urlAt, hphoto, hbefore]
  exact urlAt_otherwise turn.before answers position

/-- **A run that the host ends at a photo.** -/
theorem convertAll_interrupted (hk : (start.positions services)[k]? = some turn.position)
    (hraises : turn.Raises failure) (hforeign : failure.family.isOwn = false) :
    ∃ after, (convertAll services).run.run start = (.error failure, after) ∧
      Interrupted services start k turn after := by
  obtain ⟨houtcome, haccess⟩ := hraises.run_eq hforeign
  obtain ⟨herror, front, hfront⟩ := collectionsCourse_error hturn houtcome
  have hthreads : Threads start (front ++ [turn]) (start.allCourse services).state :=
    hfront ▸ allCourse_threads
  have hsub : List.Sublist ((front ++ [turn]).map Turn.position) (start.positions services) :=
    hfront ▸ collectionsCourse_positions
  obtain ⟨mid, hmid, hlast⟩ := hthreads.exists_of_append
  refine ⟨_, convertAll_error herror, ?_⟩
  cases hlast with
  | cons hbooks hrest =>
    cases hrest with
    | nil hend =>
      have hunconverted : turn.fate? ≠ some .converted := by
        rw [Turn.fate?, houtcome]
        intro h
        cases h
      have hphotos : ∀ position, (start.allCourse services).state.photoAt? position =
          turn.before.photoAt? position := fun position => by
        rw [photoAt?_of_catalog hend.catalog, turn.photoAt?_of_not_converted hunconverted]
      constructor
      case before =>
        intro position hposition access refusal
        rw [urlAt_of_take hnodup hturn hk access refusal position hposition]
        exact congrArg (·.bind (·.url)) (hphotos position)
      case behind =>
        intro position hposition
        have hnone : position ∉ front.map Turn.position := by
          rw [List.map_append] at hsub
          exact fun hmem => hposition (subset_take_of_sublist (nodup_positionsIn _ hnodup) hsub hk
            List.mem_cons_self hmem)
        have hsame := (hphotos position).trans
          ((photoAt?_of_catalog hbooks.catalog position).trans (hmid.photoAt?_eq hnone))
        exact congrArg (·.bind (·.url)) hsame
      case access => exact hend.access.trans haccess
      case scopes =>
        obtain ⟨front', back, overall, records, hplaces, hscopes, htitle, hscoped⟩ :=
          collectionsCourse_scopes rfl _ [] rfl turn hturn houtcome
        refine ⟨front', back, { overall with scope := overall.scope.finish } :: records, hplaces,
          ?_, ?_, ?_⟩
        · have hfinished := congrArg (fun scopes : List ScopeRecord =>
            scopes.modify start.scopes.length fun record =>
              { record with scope := record.scope.finish }) hscopes
          rw [List.nil_append, modify_length_append] at hfinished
          exact hfinished
        · intro record hmem
          rcases List.mem_cons.1 hmem with rfl | hmem
          · rfl
          · exact hscoped.finished record hmem
        · exact congrArg₂ List.cons htitle hscoped.titles

end Ending

/-- The first collection is cancelled when its second photo has refused its URL. In the second one the host fails
at the first photo. -/
def hostileRun : Conversion where
  catalog := [
    { identifier := .whole 3
      photos := [{}, { refusal := some .general }, { url := some "3/1".toList }] },
    { identifier := .whole 12, photos := [{}, {}] }]
  clock := { now := Binary64.ofInt 1600000000 }
  access := {
    refusals := fun number => if number = 2 then some (.foreign "RuntimeError".toList) else none }
  cancelAfter := fun scope => if scope = 1 then some 2 else none

/-- A run that the host ends at its fourth photo, of which it has reached three. -/
theorem convertAll_interrupted_fourth :
    ∃ turn after, turn ∈ turns nestedServices hostileRun ∧
      (positions nestedServices hostileRun)[3]? = some turn.position ∧
      turn.Raises (.host (.foreign "RuntimeError".toList) backlinkTransaction.refusal) ∧
      (convertAll nestedServices).run.run hostileRun =
        (.error (.host (.foreign "RuntimeError".toList) backlinkTransaction.refusal), after) ∧
      Interrupted nestedServices hostileRun 3 turn after := by
  have hthird : (turns nestedServices hostileRun)[2]?.isSome = true := by decide +kernel
  obtain ⟨turn, hturn⟩ := Option.isSome_iff_exists.1 hthird
  have hk : (positions nestedServices hostileRun)[3]? =
      (turns nestedServices hostileRun)[2]?.map Turn.position := by decide +kernel
  have hcheck : (turns nestedServices hostileRun)[2]?.map (fun turn =>
      (Backlink.check turn.collection.identifier turn.photo.url).toOption) =
        some (some false) := by decide +kernel
  have hanswer : (turns nestedServices hostileRun)[2]?.map (fun turn =>
      turn.before.access.refusals turn.before.access.requests.length) =
        some (some (.foreign "RuntimeError".toList)) := by decide +kernel
  rw [hturn] at hk hcheck hanswer
  have hraises : turn.Raises
      (.host (.foreign "RuntimeError".toList) backlinkTransaction.refusal) := by
    exact .access (ok_of_toOption (Option.some.inj hcheck))
      (congrArg (Option.map _) (Option.some.inj hanswer))
  have hnodup : (placesOf nestedServices).Nodup := by
    rw [placesOf_nestedServices]
    decide
  have hmem := List.mem_of_getElem? hturn
  obtain ⟨after, hrun, hinterrupted⟩ := convertAll_interrupted hnodup hmem hk hraises rfl
  exact ⟨turn, after, hmem, hk, hraises, hrun, hinterrupted⟩

end Conversion

end PhotoPublish
