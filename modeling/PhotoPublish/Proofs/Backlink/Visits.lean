import Mathlib.Algebra.Ring.Int.Defs
import PhotoPublish.Proofs.Backlink.Course
import PhotoPublish.Proofs.Collection.Order

/-!
# Which collections a run visits

* `Conversion.convertCollections_visits`: the loop over the collections converts them one after the other
  (`Visits`), until the scope of the run is cancelled.
* `Conversion.convertAll_visits`: the collections that a run visits, its summary and its reports.
-/

set_option autoImplicit false

namespace PhotoPublish

/-! ## Sums -/

theorem ConversionSummary.foldl_add (results : List ConversionResult) (summary : ConversionSummary) :
    results.foldl add summary =
      { summary with
        photos := summary.photos + (results.map (·.photos)).sum
        processed := summary.processed + (results.map (·.processed)).sum
        converted := summary.converted + (results.map (·.converted)).sum
        failed := summary.failed + (results.map (·.failed)).sum } := by
  induction results generalizing summary with
  | nil => simp
  | cons result rest ih => simp [ih, add, Int.add_assoc]

namespace Conversion

variable {start state mid after : Conversion} {places : List Nat} {place total done : Nat}
  {summary summary' : ConversionSummary} {services : List (Folder Nat)} {title : Text}

theorem placesOf_eq (services : List (Folder Nat)) :
    placesOf services = Folder.inOrderAll services := by
  induction services with
  | nil => rfl
  | cons service rest ih =>
    rw [placesOf, List.flatMap_cons, ← placesOf, ih, Folder.collections_eq, Folder.inOrderAll]

/-! ## From collection to collection -/

/-- The collections are converted one after the other, with a report in a scope after each of them; `done` are
done before. -/
inductive Visits (scope total : Nat) :
    Nat → List Nat → List ConversionResult → Conversion → Conversion → Prop where
  | nil {done : Nat} {state : Conversion} : Visits scope total done [] [] state state
  | cons {done place : Nat} {places : List Nat} {result : ConversionResult}
      {results : List ConversionResult} {state mid after : Conversion} {portion : Binary64}
      (hrun : (convertCollection place).run.run state = (.ok result, mid))
      (hrest : Visits scope total (done + 1) places results
        (mid.reported scope portion (done + 1) total) after) :
    Visits scope total done (place :: places) (result :: results) state after

/-- The scope of a run has a report for each collection that is done, and each of these has had a scope. -/
structure Counted (start : Conversion) (title : Text) (total done : Nat) (state : Conversion) :
    Prop where
  scopes : ∃ portion records, state.scopes = start.scopes ++
      ⟨{ title := .text title, portion := portion }, reportsUpTo total done⟩ :: records ∧
    records.length = done
  cancelAfter : state.cancelAfter = start.cancelAfter

/-- Where the conversion of a collection has stopped: only its own scope, which has a number, cancels it. -/
def StopsBy (start : Conversion) (scope : Nat) (result : ConversionResult) : Prop :=
  ∃ photos processed : Nat, result.photos = photos ∧ result.processed = processed ∧
    processed ≤ photos ∧ (∀ k < processed, start.cancels scope k = false) ∧
    (processed < photos → start.cancels scope processed = true)

namespace Counted

variable (h : Counted start title total done state)
include h

theorem isCancelled_run :
    (isCancelled start.scopes.length).run.run state =
      (.ok (start.cancels start.scopes.length done), state) := by
  obtain ⟨portion, records, hscopes, -⟩ := h.scopes
  rw [Conversion.isCancelled_run, poll, hscopes, List.getElem?_append_right (Nat.le_refl _), Nat.sub_self,
    List.getElem?_cons_zero, h.cancelAfter, cancels]
  cases start.cancelAfter start.scopes.length with
  | none => rfl
  | some bound => simp [reportsUpTo]

/-- The next collection has the next scope. -/
theorem stopsBy {result : ConversionResult} (hhalted : Halted state place result mid) :
    StopsBy start (start.scopes.length + 1 + done) result := by
  obtain ⟨portion, records, hscopes, hlength⟩ := h.scopes
  have hnumber : state.scopes.length = start.scopes.length + 1 + done := by
    rw [hscopes, List.length_append, List.length_cons, hlength]
    omega
  have hcancels : state.cancels = start.cancels := by
    funext scope reports
    rw [cancels, cancels, h.cancelAfter]
  obtain ⟨processed, hprocessed, hstops⟩ := hhalted.stops
  rw [← hnumber, StopsBy, ← hcancels]
  exact ⟨_, processed, hhalted.photos, hprocessed, hstops.le,
    fun k hk => hstops.notBefore k (Nat.zero_le k) hk, hstops.cancelled⟩

theorem next {result : ConversionResult} (hhalted : Halted state place result mid) (portion : Binary64) :
    Counted start title total (done + 1)
      (mid.reported start.scopes.length portion (done + 1) total) := by
  obtain ⟨portion', records, hscopes, hlength⟩ := h.scopes
  obtain ⟨record, hrecord⟩ := hhalted.scopes
  refine ⟨⟨portion, records ++ [record], ?_, ?_⟩, hhalted.cancelAfter.trans h.cancelAfter⟩
  · rw [reported, hrecord, hscopes, List.append_assoc, List.cons_append, modify_length_append]
    simp only [reportsUpTo, List.range_succ, List.map_append, List.map_singleton]
  · rw [List.length_append, List.length_singleton, hlength]

end Counted

/-- **The loop over the collections** converts them in order, until it is cancelled. -/
theorem convertCollections_visits (hcounted : Counted start title total done state)
    (htotal : total = done + places.length)
    (h : (convertCollections start.scopes.length total done places summary).run.run state =
      (.ok summary', after)) :
    ∃ count results, StopsAt start done total (done + count) ∧
      Visits start.scopes.length total done (places.take count) results state after ∧
      summary' = results.foldl ConversionSummary.add summary ∧
      Counted start title total (done + count) after ∧
      ∀ j result, results[j]? = some result →
        StopsBy start (start.scopes.length + 1 + (done + j)) result := by
  -- The scope of the run is asked with as many reports as there are collections done.
  induction places generalizing done summary state with
  | nil =>
    obtain ⟨hsummary, rfl⟩ := Prod.mk.inj h
    obtain rfl := Except.ok.inj hsummary
    rw [List.length_nil] at htotal
    exact ⟨0, [], ⟨by omega, by omega, by omega⟩, .nil, rfl, hcounted, by simp⟩
  | cons place rest ih =>
    rw [List.length_cons] at htotal
    rw [convertCollections, run_bind_ok hcounted.isCancelled_run] at h
    cases hcancels : start.cancels start.scopes.length done with
    | true =>
      rw [hcancels, if_pos rfl] at h
      obtain ⟨hsummary, rfl⟩ := Prod.mk.inj h
      obtain rfl := Except.ok.inj hsummary
      exact ⟨0, [], ⟨by omega, by omega, fun _ => hcancels⟩, .nil, rfl, hcounted, by simp⟩
    | false =>
      rw [hcancels, if_neg Bool.false_ne_true] at h
      obtain ⟨result, mid, hrun, h⟩ := exists_of_run_bind_ok h
      obtain ⟨⟨⟩, last, hreport, h⟩ := exists_of_run_bind_ok h
      obtain ⟨portion, rfl⟩ := report_ok hreport
      have hhalted := convertCollection_halted hrun
      obtain ⟨count, results, hstops, hvisits, hsummary, hcounted', hresults⟩ :=
        ih (hcounted.next hhalted portion) (by omega) h
      have hnumber : done + 1 + count = done + (count + 1) := by omega
      rw [hnumber] at hstops hcounted'
      refine ⟨count + 1, result :: results, ⟨hstops.le, fun k hfirst hk => ?_, hstops.cancelled⟩,
        .cons hrun hvisits, hsummary, hcounted', fun j other hother => ?_⟩
      · rcases Nat.eq_or_lt_of_le hfirst with rfl | hlt
        · exact hcancels
        · exact hstops.notBefore k hlt hk
      · cases j with
        | zero =>
          obtain rfl := Option.some.inj hother
          exact hcounted.stopsBy hhalted
        | succ j =>
          have hscope : done + (j + 1) = done + 1 + j := by omega
          rw [hscope]
          exact hresults j other hother

/-! ## A whole run -/

theorem exists_of_withScope_ok {α : Type} {body : Nat → Convert α} {a : α}
    (h : (withScope title body).run.run state = (.ok a, after)) :
    ∃ last, (body state.scopes.length).run.run (state.withNewScope title) = (.ok a, last) ∧
      after = last.withFinished state.scopes.length := by
  rw [withScope_run] at h
  obtain ⟨hresult, rfl⟩ := Prod.mk.inj h
  exact ⟨_, Prod.ext hresult rfl, rfl⟩

/-- The end of a run reads the clock and writes into the log. -/
theorem conclude_ok {begun : Binary64}
    (h : (conclude begun summary).run.run state = (.ok summary', after)) :
    (∃ elapsed, summary' = { summary with elapsed := elapsed }) ∧
      ∃ log, after = { state with clock := state.clock.tick, log := log } := by
  rw [conclude, run_bind_ok (readClock_run _)] at h
  obtain ⟨message, mid, hmessage, h⟩ := exists_of_run_bind_ok h
  obtain ⟨-, rfl⟩ := eq_of_ofExcept_run_ok hmessage
  rw [run_bind_ok (write_run _ _ _)] at h
  obtain ⟨hsummary, rfl⟩ := Prod.mk.inj h
  exact ⟨⟨_, (Except.ok.inj hsummary).symm⟩, _, rfl⟩

/-- The collections that a run has visited, the results they had, and what it says of them. -/
structure Visited (services : List (Folder Nat)) (start : Conversion) (summary : ConversionSummary)
    (finish : Conversion) (count : Nat) (results : List ConversionResult) : Prop where
  /-- The run stops at the end, or at the first poll of its scope that reports cancellation. -/
  stops : StopsAt start 0 (Folder.inOrderAll services).length count
  /-- Only the scope, the clock and the log change before the first and after the last collection. -/
  visits : ∃ last log, Visits start.scopes.length (Folder.inOrderAll services).length 0
      ((Folder.inOrderAll services).take count) results
      ((start.prepared services).withNewScope overallTitle) last ∧
    finish = { last.withFinished start.scopes.length with clock := last.clock.tick, log := log }
  collections : summary.collections = (Folder.inOrderAll services).length
  photos : summary.photos = (results.map (·.photos)).sum
  processed : summary.processed = (results.map (·.processed)).sum
  converted : summary.converted = (results.map (·.converted)).sum
  failed : summary.failed = (results.map (·.failed)).sum
  reports : ∃ portion, finish.scopes[start.scopes.length]? =
    some ⟨{ title := .text overallTitle, portion := portion, finished := true },
      (List.range count).map fun i => (i + 1, (Folder.inOrderAll services).length)⟩
  /-- A collection is cancelled by its own scope only. -/
  separate : ∀ j result, results[j]? = some result →
    StopsBy start (start.scopes.length + 1 + j) result

/-- **What a run visits**, if there is a collection and the run returns. -/
theorem convertAll_visits (hsome : Folder.inOrderAll services ≠ [])
    (h : (convertAll services).run.run start = (.ok summary, after)) :
    ∃ count results, Visited services start summary after count results := by
  have hplaces := placesOf_eq services
  rw [convertAll_run (hplaces ▸ hsome)] at h
  obtain ⟨summed, reached, hscope, h⟩ := exists_of_run_bind_ok h
  obtain ⟨⟨elapsed, rfl⟩, log, rfl⟩ := conclude_ok h
  obtain ⟨last, hloop, rfl⟩ := exists_of_withScope_ok hscope
  rw [hplaces] at hloop
  have hcounted : Counted start overallTitle (Folder.inOrderAll services).length 0
      ((start.prepared services).withNewScope overallTitle) :=
    ⟨⟨_, [], rfl, rfl⟩, rfl⟩
  obtain ⟨count, results, hstops, hvisits, rfl, hcounted', hresults⟩ :=
    convertCollections_visits hcounted (Nat.zero_add _).symm hloop
  obtain ⟨portion, records, hscopes, -⟩ := hcounted'.scopes
  simp only [Nat.zero_add] at hstops hresults hscopes
  refine ⟨count, results, ?_⟩
  rw [ConversionSummary.foldl_add]
  constructor
  case stops => exact hstops
  case visits => exact ⟨last, log, hvisits, rfl⟩
  case collections => rfl
  case photos => exact Int.zero_add _
  case processed => exact Int.zero_add _
  case converted => exact Int.zero_add _
  case failed => exact Int.zero_add _
  case reports =>
    have hfinished := congrArg (fun scopes : List ScopeRecord =>
      (scopes.modify start.scopes.length fun record =>
        { record with scope := record.scope.finish })[start.scopes.length]?) hscopes
    rw [modify_length_append, List.getElem?_append_right (Nat.le_refl _), Nat.sub_self] at hfinished
    exact ⟨portion, hfinished⟩
  case separate => exact hresults

/-- The second photo of the first collection is not reached, the second one of the other is refused. -/
def unevenRun : Conversion where
  catalog := [
    { identifier := .whole 3, photos := [{}, {}] },
    { identifier := .whole 12
      photos := [{ url := some "12/7".toList }, { refusal := some .general }, {}] }]
  clock := { now := Binary64.ofInt 1600000000 }
  cancelAfter := fun scope => if scope = 1 then some 1 else none

/-- A run in which one collection is cancelled, and the next one is not. -/
theorem convertAll_visits_uneven :
    ∃ summary finish, (convertAll nestedServices).run.run unevenRun = (.ok summary, finish) ∧
      (summary.photos, summary.processed, summary.converted, summary.failed) = (5, 4, 2, 1) ∧
      ∃ count results, Visited nestedServices unevenRun summary finish count results := by
  have hcounts : ((convertAll nestedServices).run.run unevenRun).1.toOption.map (fun summary =>
      (summary.photos, summary.processed, summary.converted, summary.failed)) =
        some (5, 4, 2, 1) := by decide +kernel
  obtain ⟨summary, hsummary, hcounts⟩ := Option.map_eq_some_iff.1 hcounts
  have hrun := run_eq_of_toOption hsummary
  have hsome : Folder.inOrderAll nestedServices ≠ [] := by decide
  exact ⟨summary, _, hrun, hcounts, convertAll_visits hsome hrun⟩

end Conversion

end PhotoPublish
