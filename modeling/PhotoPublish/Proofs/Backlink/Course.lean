import PhotoPublish.Proofs.Backlink.Accounts
import PhotoPublish.Proofs.Backlink.Breaking

/-!
# The course of a run

In a run the photos get their turns one after the other, until the run is cancelled or fails. A `Course` is a
run with its turns on record, so that it can be said of a transaction for which photo it was opened.

* `photosCourse_run`, `collectionCourse_run`, `collectionsCourse_run`: a course has the result and the last
  state of the run that it records.
* `convertAll_ends`, `convertAll_error`: what a whole run does around the course of its collections.
-/

set_option autoImplicit false

namespace PhotoPublish

/-- One photo's turn in a run: where the photo stands, what the run has read of it, and the state before. -/
structure Turn where
  place : Nat
  index : Nat
  collection : PublishedCollection
  photo : PublishedPhoto
  before : Conversion

namespace Turn

/-- The place of the photo in the catalog. -/
def position (turn : Turn) : Nat × Nat :=
  (turn.place, turn.index)

/-- What the turn does. -/
def run (turn : Turn) : Except Failure Conversion.Fate × Conversion :=
  (Conversion.convertPhoto turn.place turn.index turn.collection turn.photo).run.run turn.before

/-- What comes of it. -/
def outcome (turn : Turn) : Except Failure Conversion.Fate :=
  turn.run.1

/-- The state after it. -/
def after (turn : Turn) : Conversion :=
  turn.run.2

/-- Whether a transaction is opened in the turn. -/
def opens (turn : Turn) : Bool :=
  turn.before.access.requests.length < turn.after.access.requests.length

end Turn

/-- A run with its turns on record. -/
structure Course (α : Type) where
  turns : List Turn
  outcome : Except Failure α
  state : Conversion

namespace Course

variable {α : Type}

/-- The result of the run and the state after it. -/
def run (course : Course α) : Except Failure α × Conversion :=
  (course.outcome, course.state)

/-- The course with some turns before it. -/
def behind (turns : List Turn) (course : Course α) : Course α :=
  { course with turns := turns ++ course.turns }

section Behind

variable (turns : List Turn) (course : Course α)

@[simp] theorem behind_turns : (course.behind turns).turns = turns ++ course.turns := rfl

@[simp] theorem behind_outcome : (course.behind turns).outcome = course.outcome := rfl

@[simp] theorem behind_state : (course.behind turns).state = course.state := rfl

end Behind

end Course

namespace Conversion

/-! ## Between the turns -/

/-- What a poll of a scope says. -/
def poll (state : Conversion) (scope : Nat) : Bool :=
  match state.cancelAfter scope, state.scopes[scope]? with
  | some bound, some record => bound ≤ record.reports.length
  | _, _ => false

/-- The state with one more log record. -/
def logged (state : Conversion) (level : Level) (text : Text) : Conversion :=
  { state with log := state.log ++ [⟨level, text⟩] }

/-- The state with one more report in a scope. -/
def reported (state : Conversion) (scope : Nat) (portion : Binary64) (done total : Nat) :
    Conversion :=
  { state with
    scopes := state.scopes.modify scope fun record =>
      { scope := { record.scope with portion := portion }
        reports := record.reports ++ [(done, total)] } }

/-- The message about a run that is cancelled. -/
def cancelledMessage (collection : PublishedCollection) (result : ConversionResult) : Text :=
  "Convert(".toList ++ collection.name.display ++ "): canceled after ".toList ++
    Numeral.ofInt result.processed ++ " photos".toList

theorem isCancelled_run (scope : Nat) (state : Conversion) :
    (isCancelled scope).run.run state = (.ok (state.poll scope), state) := by
  rw [isCancelled, run_bind_ok (run_get state), poll]
  cases state.cancelAfter scope with
  | none => rfl
  | some bound => cases state.scopes[scope]? <;> rfl

theorem report_run (scope done total : Nat) (state : Conversion) :
    (report scope done total).run.run state =
      match ProgressScope.portionOf (.whole done) (.whole total) with
      | .error failure => (.error failure, state)
      | .ok portion => (.ok (), state.reported scope portion done total) := by
  rw [report]
  cases ProgressScope.portionOf (.whole done) (.whole total) with
  | error failure => exact run_bind_error (ofExcept_run _ _)
  | ok portion =>
    rw [run_bind_ok (ofExcept_run _ _)]
    exact changeScope_run _ _ _

/-- Only the turns of photos change the catalog and the transactions, and only the host cancels. -/
structure SameBooks (state after : Conversion) : Prop where
  catalog : after.catalog = state.catalog
  access : after.access = state.access
  cancelAfter : after.cancelAfter = state.cancelAfter

theorem SameBooks.trans {state mid after : Conversion} (h : SameBooks state mid)
    (h' : SameBooks mid after) : SameBooks state after :=
  ⟨h'.catalog.trans h.catalog, h'.access.trans h.access, h'.cancelAfter.trans h.cancelAfter⟩

theorem sameBooks_reported (state : Conversion) (scope : Nat) (portion : Binary64) (done total : Nat) :
    SameBooks state (state.reported scope portion done total) :=
  ⟨rfl, rfl, rfl⟩

/-! ## Courses -/

/-- The course of the rest of the photos of a collection, of which `index` are processed. -/
def photosCourse (place scope : Nat) (collection : PublishedCollection) :
    Nat → List PublishedPhoto → ConversionResult → Conversion → Course ConversionResult
  | _, [], result, state => ⟨[], .ok result, state⟩
  | index, photo :: rest, result, state =>
    if state.poll scope then ⟨[], .ok result, state.logged .info (cancelledMessage collection result)⟩
    else
      let turn : Turn := ⟨place, index, collection, photo, state⟩
      match turn.outcome with
      | .error failure => ⟨[turn], .error failure, turn.after⟩
      | .ok fate =>
        match ProgressScope.portionOf (.whole (index + 1 : Nat)) (.whole collection.photos.length) with
        | .error failure => ⟨[turn], .error failure, turn.after⟩
        | .ok portion =>
          (photosCourse place scope collection (index + 1) rest (countFate result fate)
            (turn.after.reported scope portion (index + 1) collection.photos.length)).behind [turn]

/-- The collection at a place of the catalog. -/
def collectionAt (state : Conversion) (place : Nat) : PublishedCollection :=
  state.catalog.getD place default

/-- The course of the collection at a place of the catalog. -/
def collectionCourse (place : Nat) (state : Conversion) : Course ConversionResult :=
  let collection := state.collectionAt place
  let course := photosCourse place state.scopes.length collection 0 collection.photos
    { photos := collection.photos.length } (state.withNewScope (scopeTitle collection))
  { course with state := course.state.withFinished state.scopes.length }

/-- The course of the rest of the collections, of which `done` are done. -/
def collectionsCourse (scope total : Nat) :
    Nat → List Nat → ConversionSummary → Conversion → Course ConversionSummary
  | _, [], summary, state => ⟨[], .ok summary, state⟩
  | done, place :: rest, summary, state =>
    if state.poll scope then ⟨[], .ok summary, state⟩
    else
      let course := collectionCourse place state
      match course.outcome with
      | .error failure => ⟨course.turns, .error failure, course.state⟩
      | .ok result =>
        match ProgressScope.portionOf (.whole (done + 1 : Nat)) (.whole total) with
        | .error failure => ⟨course.turns, .error failure, course.state⟩
        | .ok portion =>
          (collectionsCourse scope total (done + 1) rest (summary.add result)
            (course.state.reported scope portion (done + 1) total)).behind course.turns

variable {place scope index total done : Nat} {collection : PublishedCollection}
  {photos : List PublishedPhoto} {places : List Nat} {result : ConversionResult}
  {summary : ConversionSummary} {state : Conversion}

/-! ## A course is a run -/

theorem photosCourse_run :
    (photosCourse place scope collection index photos result state).run =
      (convertPhotos place scope collection index photos result).run.run state := by
  fun_induction photosCourse place scope collection index photos result state with
  | case1 => rfl
  | case2 index photo rest result state hcancelled =>
    rw [convertPhotos, run_bind_ok (isCancelled_run _ _), hcancelled, if_pos rfl,
      run_bind_ok (write_run _ _ _)]
    rfl
  | case3 index photo rest result state hcancelled turn failure houtcome =>
    have hturn : turn.run = (.error failure, turn.after) := Prod.ext houtcome rfl
    rw [convertPhotos, run_bind_ok (isCancelled_run _ _), if_neg hcancelled, run_bind_error hturn]
    rfl
  | case4 index photo rest result state hcancelled turn fate houtcome failure hportion =>
    have hturn : turn.run = (.ok fate, turn.after) := Prod.ext houtcome rfl
    have hreport := report_run scope (index + 1) collection.photos.length turn.after
    rw [hportion] at hreport
    rw [convertPhotos, run_bind_ok (isCancelled_run _ _), if_neg hcancelled, run_bind_ok hturn,
      run_bind_error hreport]
    rfl
  | case5 index photo rest result state hcancelled turn fate houtcome portion hportion ih =>
    have hturn : turn.run = (.ok fate, turn.after) := Prod.ext houtcome rfl
    have hreport := report_run scope (index + 1) collection.photos.length turn.after
    rw [hportion] at hreport
    rw [convertPhotos, run_bind_ok (isCancelled_run _ _), if_neg hcancelled, run_bind_ok hturn,
      run_bind_ok hreport]
    exact ih

theorem collectionCourse_run :
    (collectionCourse place state).run = (convertCollection place).run.run state := by
  rw [convertCollection, run_bind_ok (run_get state), withScope_run, ← photosCourse_run]
  rfl

theorem collectionsCourse_run :
    (collectionsCourse scope total done places summary state).run =
      (convertCollections scope total done places summary).run.run state := by
  fun_induction collectionsCourse scope total done places summary state with
  | case1 => rfl
  | case2 done place rest summary state hcancelled =>
    rw [convertCollections, run_bind_ok (isCancelled_run _ _), if_pos hcancelled]
    rfl
  | case3 done place rest summary state hcancelled course failure houtcome =>
    have hrun : (convertCollection place).run.run state = (.error failure, course.state) :=
      collectionCourse_run.symm.trans (Prod.ext houtcome rfl)
    rw [convertCollections, run_bind_ok (isCancelled_run _ _), if_neg hcancelled,
      run_bind_error hrun]
    rfl
  | case4 done place rest summary state hcancelled course result houtcome failure hportion =>
    have hrun : (convertCollection place).run.run state = (.ok result, course.state) :=
      collectionCourse_run.symm.trans (Prod.ext houtcome rfl)
    have hreport := report_run scope (done + 1) total course.state
    rw [hportion] at hreport
    rw [convertCollections, run_bind_ok (isCancelled_run _ _), if_neg hcancelled, run_bind_ok hrun,
      run_bind_error hreport]
    rfl
  | case5 done place rest summary state hcancelled course result houtcome portion hportion ih =>
    have hrun : (convertCollection place).run.run state = (.ok result, course.state) :=
      collectionCourse_run.symm.trans (Prod.ext houtcome rfl)
    have hreport := report_run scope (done + 1) total course.state
    rw [hportion] at hreport
    rw [convertCollections, run_bind_ok (isCancelled_run _ _), if_neg hcancelled, run_bind_ok hrun,
      run_bind_ok hreport]
    exact ih

/-! ## A whole run -/

/-- The title of the scope of a whole run. -/
def overallTitle : Text :=
  "Photo StatLr: Converting all collections".toList

/-- The collections of the services, in the order in which a run takes them. -/
def placesOf (services : List (Folder Nat)) : List Nat :=
  services.flatMap Folder.collections

section Whole

variable (services : List (Folder Nat)) (start : Conversion)

/-- The state in which a run opens its scope. -/
def prepared : Conversion :=
  { (start.logged .info "ConvertAllPhotos: starting".toList).logged .info
      ("ConvertAllPhotos: Found ".toList ++ Numeral.ofNat (placesOf services).length ++
        " published collections in ".toList ++ Numeral.ofNat services.length ++
        " publish services".toList) with
    clock := start.clock.tick }

/-- The course of the collections in a run. -/
def allCourse : Course ConversionSummary :=
  collectionsCourse start.scopes.length (placesOf services).length 0 (placesOf services)
    { collections := (placesOf services).length } ((start.prepared services).withNewScope overallTitle)

/-- The turns of a run. -/
def turns : List Turn :=
  (start.allCourse services).turns

end Whole

/-- The end of a run that has begun at some instant. -/
def conclude (begun : Binary64) (summary : ConversionSummary) : Convert ConversionSummary := do
  let stop ← readClock
  let summary := { summary with elapsed := .real (stop.sub begun) }
  let message ← ofExcept summary.message
  write .info ("ConvertAllPhotos: done. ".toList ++ message)
  return summary

section Run

variable {services : List (Folder Nat)} {start after : Conversion} {failure : Failure}
  {summary' : ConversionSummary}

theorem overall_run :
    (withScope overallTitle fun scope =>
        convertCollections scope (placesOf services).length 0 (placesOf services)
          { collections := (placesOf services).length }).run.run (start.prepared services) =
      ((start.allCourse services).outcome,
        (start.allCourse services).state.withFinished start.scopes.length) := by
  have hscopes : (start.prepared services).scopes.length = start.scopes.length := rfl
  rw [withScope_run, hscopes, ← collectionsCourse_run]
  rfl

theorem convertAll_run (hplaces : placesOf services ≠ []) :
    (convertAll services).run.run start =
      (withScope overallTitle (fun scope =>
          convertCollections scope (placesOf services).length 0 (placesOf services)
            { collections := (placesOf services).length }) >>=
        conclude start.clock.now).run.run (start.prepared services) := by
  have hservices : services.isEmpty = false := by
    cases services with
    | nil => exact absurd rfl hplaces
    | cons => rfl
  have hsome : (services.flatMap Folder.collections).isEmpty = false :=
    List.isEmpty_eq_false_iff.2 hplaces
  rw [convertAll, run_bind_ok (write_run _ _ _), hservices, if_neg Bool.false_ne_true]
  simp only [hsome]
  rw [run_bind_ok (write_run _ _ _), if_neg Bool.false_ne_true, run_bind_ok (readClock_run _)]
  rfl

/-- A failure at the collections ends the run. -/
theorem convertAll_error (h : (start.allCourse services).outcome = .error failure) :
    (convertAll services).run.run start =
      (.error failure, (start.allCourse services).state.withFinished start.scopes.length) := by
  have hplaces : placesOf services ≠ [] := by
    intro hnone
    rw [allCourse, hnone] at h
    cases h
  rw [convertAll_run hplaces, run_bind_error (overall_run.trans (Prod.ext h rfl))]

theorem conclude_run (begun : Binary64) (summary : ConversionSummary) :
    ∃ outcome after, (conclude begun summary).run.run state = (outcome, after) ∧
      SameBooks state after ∧
      ∀ summary', outcome = .ok summary' →
        ∃ elapsed, summary' = { summary with elapsed := elapsed } := by
  rw [conclude, run_bind_ok (readClock_run _)]
  dsimp only
  cases ({ summary with elapsed := .real (state.clock.now.sub begun) } :
      ConversionSummary).message with
  | error failure => exact ⟨_, _, run_bind_error (ofExcept_run _ _), ⟨rfl, rfl, rfl⟩, nofun⟩
  | ok message =>
    rw [run_bind_ok (ofExcept_run _ _), run_bind_ok (write_run _ _ _)]
    exact ⟨_, _, rfl, ⟨rfl, rfl, rfl⟩, fun _ h => ⟨_, (Except.ok.inj h).symm⟩⟩

/-- A run without collections changes nothing. -/
theorem convertAll_run_none (hplaces : placesOf services = []) :
    ∃ summary after, (convertAll services).run.run start = (.ok summary, after) ∧
      SameBooks start after ∧ ∃ elapsed, summary = { elapsed := elapsed } := by
  have hnone : (services.flatMap Folder.collections).isEmpty = true := List.isEmpty_iff.2 hplaces
  rw [convertAll, run_bind_ok (write_run _ _ _)]
  cases hservices : services.isEmpty with
  | true =>
    rw [if_pos rfl, run_bind_ok (write_run _ _ _)]
    exact ⟨_, _, rfl, ⟨rfl, rfl, rfl⟩, _, rfl⟩
  | false =>
    have hlength : (services.flatMap Folder.collections).length = 0 := congrArg List.length hplaces
    rw [if_neg Bool.false_ne_true]
    simp only [hnone, if_true]
    rw [run_bind_ok (write_run _ _ _), hlength]
    exact ⟨_, _, rfl, ⟨rfl, rfl, rfl⟩, _, rfl⟩

/-- **A run does nothing to the photos but what its turns do.** -/
theorem convertAll_ends (services : List (Folder Nat)) (start : Conversion) :
    ∃ outcome after, (convertAll services).run.run start = (outcome, after) ∧
      SameBooks (start.allCourse services).state after ∧
      ∀ summary, outcome = .ok summary →
        ∃ summary' elapsed, (start.allCourse services).outcome = .ok summary' ∧
          summary = { summary' with elapsed := elapsed } := by
  rcases eq_or_ne (placesOf services) [] with hplaces | hplaces
  · obtain ⟨summary, after, hrun, hbooks, elapsed, rfl⟩ := convertAll_run_none hplaces
    refine ⟨_, _, hrun, ?_, ?_⟩
    · rw [allCourse, hplaces]
      exact ⟨hbooks.catalog, hbooks.access, hbooks.cancelAfter⟩
    · rw [allCourse, hplaces]
      exact fun _ h => ⟨{}, elapsed, rfl, (Except.ok.inj h).symm⟩
  · cases houtcome : (start.allCourse services).outcome with
    | error failure => exact ⟨_, _, convertAll_error houtcome, ⟨rfl, rfl, rfl⟩, nofun⟩
    | ok summary' =>
      rw [convertAll_run hplaces, run_bind_ok (overall_run.trans (Prod.ext houtcome rfl))]
      obtain ⟨outcome, after, hrun, hbooks, helapsed⟩ := conclude_run start.clock.now summary'
      refine ⟨outcome, after, hrun,
        ⟨hbooks.catalog, hbooks.access, hbooks.cancelAfter⟩, fun summary h => ?_⟩
      obtain ⟨elapsed, hsummary⟩ := helapsed summary h
      exact ⟨summary', elapsed, rfl, hsummary⟩

theorem convertAll_ok (h : (convertAll services).run.run start = (.ok summary, after)) :
    ∃ summary', (start.allCourse services).outcome = .ok summary' ∧
      (∃ elapsed, summary = { summary' with elapsed := elapsed }) ∧
      SameBooks (start.allCourse services).state after := by
  obtain ⟨outcome, after', hrun, hbooks, hsummary⟩ := convertAll_ends services start
  obtain ⟨rfl, rfl⟩ := Prod.mk.inj (hrun.symm.trans h)
  obtain ⟨summary', elapsed, houtcome, heq⟩ := hsummary summary rfl
  exact ⟨summary', houtcome, ⟨elapsed, heq⟩, hbooks⟩

end Run

/-- A service with a collection, and a set with another one. -/
def nestedServices : List (Folder Nat) :=
  [.node [0] [.node [1] []]]

theorem placesOf_nestedServices : placesOf nestedServices = [0, 1] := by decide +kernel

end Conversion

end PhotoPublish
