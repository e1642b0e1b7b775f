import PhotoPublish.Pattern.CharacterName
import Mathlib.Data.List.Nodup
import Mathlib.Data.List.Perm.Subperm
import PhotoPublish.Proofs.Template.Ending
import PhotoPublish.Proofs.Template.Evaluation

/-!
# What an evaluation asks of the host

Every category of placeholders has a source at the host, which is asked for when a placeholder first needs
it. What was found is kept, so that the source is not asked again; a capture date that was not found is not
kept.

* `LooksUp`: all that looking up a source can do to an evaluation.
* `valueOfPieces_asks`: the calls of a run are those of the sources that it read, and how often it read each
  of them (`Readings`).
* `Template.evaluate_asks_iff`: when an evaluation makes no call more often than it needs to.
-/

set_option autoImplicit false

namespace PhotoPublish

/-! ## Sources -/

namespace Category

/-- The calls that placeholders of a category may need. -/
def calls : Category → List Call
  | date => DateSource.all.map DateSource.call
  | formatted => [.allFormatted]
  | path => [.raw Photo.pathKey]
  | collection => [.collections]

theorem nodup_calls (category : Category) : category.calls.Nodup := by
  cases category <;> decide

end Category

namespace Photo

variable (surroundings : Surroundings) (photo : Photo)

/-- The calls that read the source of a category once. A capture date is looked for in one source after the
other. -/
def sourceCalls : Category → List Call
  | .date => photo.datingCalls surroundings
  | category => category.calls

theorem callsAmong_sublist (sources : List DateSource) :
    (callsAmong surroundings photo sources).Sublist (sources.map DateSource.call) := by
  induction sources with
  | nil => exact List.Sublist.slnil
  | cons source rest ih =>
    rw [callsAmong, List.map_cons]
    refine List.Sublist.cons_cons _ ?_
    split
    · exact ih
    · exact List.nil_sublist _

theorem sourceCalls_sublist (category : Category) :
    (photo.sourceCalls surroundings category).Sublist category.calls := by
  cases category with
  | date => exact callsAmong_sublist surroundings photo DateSource.all
  | formatted | path | collection => exact List.Sublist.refl _

theorem count_sourceCalls_le (category : Category) (call : Call) :
    (photo.sourceCalls surroundings category).count call ≤
      if call ∈ category.calls then 1 else 0 := by
  refine Nat.le_trans ((photo.sourceCalls_sublist surroundings category).count_le call) ?_
  rw [(category.nodup_calls).count]

/-- Whatever gives the date in the end, the date on which the photo was taken is asked for first. -/
theorem count_datingCalls_taken :
    (photo.sourceCalls surroundings .date).count (.raw "dateTimeOriginal".toList) = 1 := by
  refine Nat.le_antisymm ?_ (List.one_le_count_iff.2 List.mem_cons_self)
  exact photo.count_sourceCalls_le surroundings .date (.raw "dateTimeOriginal".toList)

end Photo

/-- Whether something is kept of the source of a category. -/
def Snapshot.keeps (snapshot : Snapshot) : Category → Bool
  | .date => snapshot.captureTime.isSome
  | .formatted => snapshot.formatted.isSome
  | .path => snapshot.segments.isSome
  | .collection => snapshot.collectionPaths.isSome

/-- Whether a placeholder needs the source of its category. A date without a format, a directory without a
level and a collection of which no part is named do not. -/
def Placeholder.needsSource (p : Placeholder) : Bool :=
  match p.category with
  | .date => !p.args.trim.isEmpty
  | .formatted => true
  | .path => !(p.level.isEmpty || !p.level.all isDigitCharacter)
  | .collection => (CollectionPart.ofName? p.word).isSome

/-! ## Looking up a source -/

/-- What is found in a source is kept. Only a capture date may not be found. -/
def Found (surroundings : Surroundings) (photo : Photo) (category : Category) (clock : Clock) : Prop :=
  category = .date → ∃ time, photo.timeAt surroundings clock.now = .ok time

/-- What looking up a source does to an evaluation that goes on: nothing if something is kept of it, and
otherwise its calls. -/
inductive LooksUp (surroundings : Surroundings) (photo : Photo) (category : Category)
    (state : Evaluation) : Evaluation → Prop
  | kept : state.snapshot.keeps category = true → LooksUp surroundings photo category state state
  | read {after : Evaluation} : state.snapshot.keeps category = false →
      after.visit.calls = state.visit.calls ++ photo.sourceCalls surroundings category →
      (category ≠ .date → after.visit.clock = state.visit.clock) →
      (∀ other, other ≠ category → after.snapshot.keeps other = state.snapshot.keeps other) →
      (after.snapshot.keeps category = true ↔ Found surroundings photo category state.visit.clock) →
      LooksUp surroundings photo category state after

theorem not_found_iff {surroundings : Surroundings} {photo : Photo} {clock : Clock} :
    ¬ Found surroundings photo .date clock ↔
      ∃ failure, photo.Undated surroundings clock.now failure := by
  unfold Found
  rw [forall_prop_of_true rfl, ok_iff_not_error, Classical.not_not]
  exact exists_congr fun failure => Photo.timeAt_error_iff

section Steps

variable {surroundings : Surroundings} {photo : Photo} {state after : Evaluation}

theorem found_of_ne_date {category : Category} {clock : Clock} (h : category ≠ .date) :
    Found surroundings photo category clock :=
  fun hdate => absurd hdate h

/-- One lookup: a source is read unless something is kept of it. -/
theorem cached_looksUp {α : Type} {category : Category} {kept : Snapshot → Option α}
    {keep : α → Snapshot → Snapshot} {read : Fetch α} {result given : Except Failure α}
    {visit : Visit} (hkept : ∀ snapshot : Snapshot, snapshot.keeps category = (kept snapshot).isSome)
    (hkeep : ∀ a snapshot, (keep a snapshot).keeps category = true ∧
      ∀ other, other ≠ category → (keep a snapshot).keeps other = snapshot.keeps other)
    (hread : read.run.run state.visit = (result, visit))
    (hcalls : visit.calls = state.visit.calls ++ photo.sourceCalls surroundings category)
    (hclock : category ≠ .date → visit.clock = state.visit.clock)
    (hfound : given = result →
      ((∃ a, result = .ok a) ↔ Found surroundings photo category state.visit.clock))
    (h : (Evaluate.cached kept keep read).run.run state = (given, after)) :
    LooksUp surroundings photo category state after := by
  cases hnow : kept state.snapshot with
  | some a =>
    rw [Evaluate.cached_run_of_some hnow] at h
    cases h
    exact .kept (by rw [hkept, hnow]; rfl)
  | none =>
    have hnot : state.snapshot.keeps category = false := by rw [hkept, hnow]; rfl
    rw [Evaluate.cached_run_of_none hnow hread] at h
    obtain ⟨hgiven, rfl⟩ := Prod.mk.inj h
    have hfound := hfound hgiven.symm
    cases result with
    | ok a =>
      obtain ⟨hself, hothers⟩ := hkeep a state.snapshot
      exact .read hnot hcalls hclock hothers (iff_of_true hself (hfound.1 ⟨a, rfl⟩))
    | error failure =>
      have hlost : ¬ Found surroundings photo category state.visit.clock :=
        fun h => not_ok_of_error (hfound.2 h)
      exact .read hnot hcalls hclock (fun _ _ => rfl)
        (iff_of_false (Bool.not_eq_true _ ▸ hnot) hlost)

/-- The capture date is looked up whether or not there is one. -/
theorem captureTime_looksUp {result : Except Failure Binary64}
    (h : (Evaluate.captureTime surroundings photo).run.run state = (result, after)) :
    LooksUp surroundings photo .date state after := by
  refine cached_looksUp (fun _ => rfl) (fun _ _ => ⟨rfl, fun other hother => ?_⟩)
    (Photo.captureTime_run state.visit) rfl (absurd rfl) (fun _ => ?_) h
  · cases other <;> first | rfl | exact absurd rfl hother
  · exact ⟨fun h _ => h, fun h => h rfl⟩

theorem formatted_looksUp {fields : Fields}
    (h : (Evaluate.formatted photo).run.run state = (.ok fields, after)) :
    LooksUp surroundings photo .formatted state after := by
  refine @cached_looksUp surroundings photo state after _ .formatted _ _ _
    (.ok photo.formattedFields) _
    { state.visit with calls := state.visit.calls ++ [.allFormatted] } (fun _ => rfl)
    (fun _ _ => ⟨rfl, fun other hother => ?_⟩) rfl rfl (fun _ => rfl)
    (fun _ => iff_of_true ⟨_, rfl⟩ (found_of_ne_date nofun)) h
  cases other <;> first | rfl | exact absurd rfl hother

theorem segments_looksUp {segments : List Text}
    (h : (Evaluate.segments photo).run.run state = (.ok segments, after)) :
    LooksUp surroundings photo .path state after := by
  refine @cached_looksUp surroundings photo state after _ .path _ _ _ photo.pathSegments _
    { state.visit with calls := state.visit.calls ++ [.raw Photo.pathKey] } (fun _ => rfl)
    (fun _ _ => ⟨rfl, fun other hother => ?_⟩) ?_ rfl (fun _ => rfl)
    (fun hgiven => iff_of_true ⟨_, hgiven.symm⟩ (found_of_ne_date nofun)) h
  · cases other <;> first | rfl | exact absurd rfl hother
  · unfold Photo.pathSegments
    rw [run_bind_ok (photo.fetchRaw_run Photo.pathKey state.visit)]
    cases photo.raw.get Photo.pathKey <;> rfl

theorem collectionPaths_looksUp {paths : List Text}
    (h : (Evaluate.collectionPaths photo).run.run state = (.ok paths, after)) :
    LooksUp surroundings photo .collection state after := by
  refine @cached_looksUp surroundings photo state after _ .collection _ _ _ photo.collectionPaths _
    { state.visit with calls := state.visit.calls ++ [.collections] } (fun _ => rfl)
    (fun _ _ => ⟨rfl, fun other hother => ?_⟩) rfl rfl (fun _ => rfl)
    (fun hgiven => iff_of_true ⟨_, hgiven.symm⟩ (found_of_ne_date nofun)) h
  cases other <;> first | rfl | exact absurd rfl hother

/-! ## Placeholders -/

/-- A result that is passed on asks for nothing. -/
theorem eq_of_run_fetch_ofExcept {α : Type} {result given : Except Failure α}
    (h : (Evaluate.fetch (.ofExcept result)).run.run state = (given, after)) : state = after :=
  (Prod.mk.inj h).2

variable {p : Placeholder} {text : Text}

theorem dateValue_asks (h : (p.dateValue surroundings photo).run.run state = (.ok text, after)) :
    if p.args.trim.isEmpty then after = state
    else LooksUp surroundings photo .date state after := by
  unfold Placeholder.dateValue at h
  split
  · rename_i hblank
    rw [if_pos hblank] at h
    exact (Prod.mk.inj h).2.symm
  · rename_i hargs
    rw [if_neg hargs] at h
    rcases htime : (Evaluate.captureTime surroundings photo).run.run state with ⟨result, mid⟩
    suffices hmid : mid = after from hmid ▸ captureTime_looksUp htime
    -- What writes the format and what catches an invalid value ask for nothing.
    have hcaught : ∀ failure : Failure,
        ((if failure.family = .invalidValue then pure p.text else throw failure :
          Evaluate Text)).run.run mid = (.ok text, after) → mid = after := by
      intro failure hrun
      split at hrun <;> exact (Prod.mk.inj hrun).2
    cases result with
    | error failure =>
      rw [run_tryCatch_error (run_bind_error htime)] at h
      exact hcaught failure h
    | ok time =>
      cases hformat : Timestamp.format surroundings.zone (.real time) p.args with
      | error failure =>
        rw [run_tryCatch_error ((run_bind_ok htime).trans (by rw [hformat]; rfl))] at h
        exact hcaught failure h
      | ok written =>
        rw [run_tryCatch_ok ((run_bind_ok htime).trans (by rw [hformat]; rfl))] at h
        exact (Prod.mk.inj h).2

section Lookups

variable [Pattern.CharacterNames]

theorem formattedValue_asks (h : (p.formattedValue photo).run.run state = (.ok text, after)) :
    LooksUp surroundings photo .formatted state after := by
  obtain ⟨fields, mid, hfields, h⟩ := exists_of_run_bind_ok h
  obtain ⟨value, mid', hvalue, h⟩ := exists_of_run_bind_ok h
  obtain rfl := eq_of_run_fetch_ofExcept hvalue
  obtain rfl := eq_of_run_fetch_ofExcept h
  exact formatted_looksUp hfields

theorem pathValue_asks (h : (p.pathValue photo).run.run state = (.ok text, after)) :
    if (p.level.isEmpty || !p.level.all isDigitCharacter) = true then after = state
    else LooksUp surroundings photo .path state after := by
  unfold Placeholder.pathValue at h
  unfold Placeholder.level
  simp only at h
  split
  · rename_i hlevel
    rw [if_pos hlevel] at h
    exact (Prod.mk.inj h).2.symm
  · rename_i hlevel
    rw [if_neg hlevel] at h
    obtain ⟨level, mid, hread, hrest⟩ := exists_of_run_bind_ok h
    obtain rfl := eq_of_run_fetch_ofExcept hread
    obtain ⟨segments, mid', hsegments, hextracted⟩ := exists_of_run_bind_ok hrest
    obtain rfl := eq_of_run_fetch_ofExcept hextracted
    exact segments_looksUp hsegments

theorem collectionValue_asks (h : (p.collectionValue photo).run.run state = (.ok text, after)) :
    if (Placeholder.CollectionPart.ofName? p.word).isSome then
      LooksUp surroundings photo .collection state after
    else after = state := by
  unfold Placeholder.collectionValue at h
  unfold Placeholder.word
  simp only at h
  cases hpart : Placeholder.CollectionPart.ofName? (splitArguments .word p.args).1 with
  | none =>
    rw [hpart] at h
    exact (Prod.mk.inj h).2.symm
  | some part =>
    rw [hpart] at h
    obtain ⟨paths, mid, hpaths, h⟩ := exists_of_run_bind_ok h
    obtain rfl := eq_of_run_fetch_ofExcept h
    exact collectionPaths_looksUp hpaths

/-- **A placeholder asks for the source of its category, if it needs it, and for nothing else.** -/
theorem value_asks (h : (p.value surroundings photo).run.run state = (.ok text, after)) :
    if p.needsSource then LooksUp surroundings photo p.category state after else after = state := by
  unfold Placeholder.value at h
  unfold Placeholder.needsSource
  cases hcategory : p.category with
  | date =>
    rw [hcategory] at h
    have hasks := dateValue_asks h
    cases hargs : p.args.trim.isEmpty <;> simpa [hargs] using hasks
  | formatted =>
    rw [hcategory] at h
    exact formattedValue_asks h
  | path =>
    rw [hcategory] at h
    have hasks := @pathValue_asks surroundings photo state after p text _ h
    cases hlevel : (p.level.isEmpty || !p.level.all isDigitCharacter) <;> simpa [hlevel] using hasks
  | collection =>
    rw [hcategory] at h
    exact collectionValue_asks h

end Lookups

/-! ## Runs -/

/-- Whether a placeholder writes a date by a format. -/
def Placeholder.isDated (p : Placeholder) : Bool :=
  p.category = .date && p.needsSource

theorem Placeholder.isDated_iff :
    p.isDated = true ↔ p.category = .date ∧ p.needsSource = true := by
  rw [isDated, Bool.and_eq_true, decide_eq_true_iff]

/-- Which sources a run over placeholders reads. A source of which something is kept is not read, and all are
read once at most, the capture date apart: that is read again as long as it is not found. -/
structure Readings (surroundings : Surroundings) (photo : Photo) (state : Evaluation)
    (ps : List Placeholder) (read : List Category) : Prop where
  needed : ∀ category ∈ read, ∃ p ∈ ps, p.category = category
  kept : ∀ category, state.snapshot.keeps category = true → category ∉ read
  once : ∀ category, category ≠ .date → read.count category ≤ 1
  dates : read.count .date ≤ ps.countP (·.isDated)
  found : Found surroundings photo .date state.visit.clock → read.count .date ≤ 1
  first : state.snapshot.keeps .date = false →
    min 1 (ps.countP (·.isDated)) ≤ read.count .date
  again : state.snapshot.keeps .date = false → ¬ Found surroundings photo .date state.visit.clock →
    min 2 (ps.countP (·.isDated)) ≤ read.count .date

namespace Readings

variable {ps : List Placeholder} {read : List Category}

theorem nil (surroundings : Surroundings) (photo : Photo) (state : Evaluation) :
    Readings surroundings photo state [] [] where
  needed := nofun
  kept _ _ := List.not_mem_nil
  once _ _ := Nat.zero_le 1
  dates := Nat.le_refl 0
  found _ := Nat.zero_le 1
  first _ := Nat.le_refl 0
  again _ _ := Nat.le_refl 0

/-- A placeholder for which nothing is read. -/
theorem skip (h : Readings surroundings photo state ps read)
    (hp : p.needsSource = true → state.snapshot.keeps p.category = true) :
    Readings surroundings photo state (p :: ps) read := by
  -- While no date is kept, such a placeholder writes none.
  have hcount : state.snapshot.keeps .date = false →
      (p :: ps).countP (·.isDated) = ps.countP (·.isDated) := by
    intro hnone
    refine List.countP_cons_of_neg fun hdated => ?_
    obtain ⟨hdate, hneeds⟩ := Placeholder.isDated_iff.1 hdated
    rw [← hdate, hp hneeds] at hnone
    cases hnone
  exact {
    needed := fun category hmem =>
      let ⟨q, hq, hcategory⟩ := h.needed category hmem
      ⟨q, List.mem_cons_of_mem p hq, hcategory⟩
    kept := h.kept
    once := h.once
    dates := Nat.le_trans h.dates (List.Sublist.countP_le (List.sublist_cons_self p ps))
    found := h.found
    first := fun hnone => by rw [hcount hnone]; exact h.first hnone
    again := fun hnone hlost => by rw [hcount hnone]; exact h.again hnone hlost }

/-- A placeholder whose source is read. -/
theorem cons {mid : Evaluation} (h : Readings surroundings photo mid ps read)
    (hneeds : p.needsSource = true) (hnot : state.snapshot.keeps p.category = false)
    (hclock : p.category ≠ .date → mid.visit.clock = state.visit.clock)
    (hothers : ∀ other, other ≠ p.category →
      mid.snapshot.keeps other = state.snapshot.keeps other)
    (hself : mid.snapshot.keeps p.category = true ↔
      Found surroundings photo p.category state.visit.clock) :
    Readings surroundings photo state (p :: ps) (p.category :: read) := by
  -- What was found is not read again.
  have hnone : Found surroundings photo p.category state.visit.clock →
      read.count p.category = 0 := fun hfound =>
    List.count_eq_zero.2 (h.kept p.category (hself.2 hfound))
  have hneeded : ∀ category ∈ p.category :: read, ∃ q ∈ p :: ps, q.category = category := by
    refine List.forall_mem_cons.2 ⟨⟨p, List.mem_cons_self, rfl⟩, fun category hmem => ?_⟩
    obtain ⟨q, hq, hcategory⟩ := h.needed category hmem
    exact ⟨q, List.mem_cons_of_mem p hq, hcategory⟩
  have hkept : ∀ category, state.snapshot.keeps category = true →
      category ∉ p.category :: read := by
    intro category hkeeps hmem
    have hne : category ≠ p.category := by
      rintro rfl
      rw [hnot] at hkeeps
      cases hkeeps
    rcases List.mem_cons.1 hmem with heq | hread
    · exact hne heq
    · exact h.kept category ((hothers category hne).trans hkeeps) hread
  have honce : ∀ category, category ≠ .date → (p.category :: read).count category ≤ 1 := by
    intro category hcategory
    by_cases heq : p.category = category
    · subst heq
      rw [List.count_cons_self, hnone (found_of_ne_date hcategory)]
    · rw [List.count_cons_of_ne heq]
      exact h.once category hcategory
  by_cases hdate : p.category = .date
  · have hcount : (p :: ps).countP (·.isDated) = ps.countP (·.isDated) + 1 :=
      List.countP_cons_of_pos (Placeholder.isDated_iff.2 ⟨hdate, hneeds⟩)
    have hread : (p.category :: read).count .date = read.count .date + 1 := by
      rw [hdate, List.count_cons_self]
    rw [hdate] at hself hnone
    refine ⟨hneeded, hkept, honce, ?_, ?_, ?_, ?_⟩
    · have := h.dates
      omega
    · intro hfound
      rw [hread, hnone hfound]
    · intro _
      omega
    · intro _ hlost
      have := h.first (Bool.eq_false_iff.2 fun hkeeps => hlost (hself.1 hkeeps))
      omega
  · have hcount : (p :: ps).countP (·.isDated) = ps.countP (·.isDated) :=
      List.countP_cons_of_neg fun hdated => hdate (Placeholder.isDated_iff.1 hdated).1
    have hread : (p.category :: read).count .date = read.count .date :=
      List.count_cons_of_ne hdate
    have hkeeps := hothers .date (Ne.symm hdate)
    refine ⟨hneeded, hkept, honce, ?_, ?_, fun hnone => ?_, fun hnone => ?_⟩
    · rw [hread, hcount]
      exact h.dates
    · rw [hread, ← hclock hdate]
      exact h.found
    · rw [hread, hcount]
      exact h.first (hkeeps.trans hnone)
    · rw [hread, hcount, ← hclock hdate]
      exact h.again (hkeeps.trans hnone)

end Readings

/-- **The calls of a run are those of the sources that it read.** -/
theorem valueOfPieces_asks [Pattern.CharacterNames] {pieces : List Piece}
    (h : (Template.valueOfPieces surroundings photo pieces).run.run state = (.ok text, after)) :
    ∃ read, Readings surroundings photo state (pieces.filterMap Piece.placeholder?) read ∧
      after.visit.calls = state.visit.calls ++ read.flatMap (photo.sourceCalls surroundings) := by
  induction pieces generalizing state text with
  | nil =>
    obtain ⟨-, rfl⟩ := Prod.mk.inj h
    exact ⟨[], Readings.nil surroundings photo state, (List.append_nil _).symm⟩
  | cons piece rest ih =>
    obtain ⟨first, mid, hpiece, hrest⟩ := exists_of_run_bind_ok h
    obtain ⟨later, mid', hlater, hdone⟩ := exists_of_run_bind_ok hrest
    obtain ⟨-, rfl⟩ := Prod.mk.inj hdone
    obtain ⟨read, hread, hcalls⟩ := ih hlater
    cases piece with
    | literal u =>
      obtain ⟨-, rfl⟩ := Prod.mk.inj hpiece
      exact ⟨read, hread, hcalls⟩
    | placeholder p =>
      rw [List.filterMap_cons]
      have hasks := value_asks hpiece
      by_cases hneeds : p.needsSource = true
      · rw [if_pos hneeds] at hasks
        cases hasks with
        | kept hkeeps => exact ⟨read, hread.skip fun _ => hkeeps, hcalls⟩
        | read hnot hsource hclock hothers hself =>
          refine ⟨p.category :: read, hread.cons hneeds hnot hclock hothers hself, ?_⟩
          rw [hcalls, hsource, List.flatMap_cons, List.append_assoc]
      · rw [if_neg hneeds] at hasks
        subst hasks
        exact ⟨read, hread.skip fun h => absurd h hneeds, hcalls⟩

end Steps

/-! ## Calls -/

section Counts

variable {surroundings : Surroundings} {photo : Photo} {read categories : List Category} {call : Call}

theorem count_flatMap_sourceCalls_le :
    (read.flatMap (photo.sourceCalls surroundings)).count call ≤
      read.countP fun category => call ∈ category.calls := by
  induction read with
  | nil => exact Nat.le_refl 0
  | cons category rest ih =>
    have hsource := photo.count_sourceCalls_le surroundings category call
    rw [List.flatMap_cons, List.count_append, List.countP_cons]
    simp only [decide_eq_true_eq]
    omega

theorem count_le_flatMap_sourceCalls {category : Category}
    (h : (photo.sourceCalls surroundings category).count call = 1) :
    read.count category ≤ (read.flatMap (photo.sourceCalls surroundings)).count call := by
  induction read with
  | nil => exact Nat.le_refl 0
  | cons other rest ih =>
    rw [List.flatMap_cons, List.count_append]
    by_cases hcategory : other = category
    · subst hcategory
      rw [List.count_cons_self, h]
      omega
    · rw [List.count_cons_of_ne hcategory]
      omega

/-- Sources that are read once make no call more often than there are categories that need it. -/
theorem count_le_of_once (hread : read ⊆ categories)
    (honce : ∀ category, call ∈ category.calls → read.count category ≤ 1) :
    (read.flatMap (photo.sourceCalls surroundings)).count call ≤
      categories.countP fun category => call ∈ category.calls := by
  refine Nat.le_trans count_flatMap_sourceCalls_le ?_
  have hnodup : (read.filter fun category => call ∈ category.calls).Nodup := by
    refine List.nodup_iff_count_le_one.2 fun category => ?_
    by_cases hcall : call ∈ category.calls
    · exact Nat.le_trans (List.Sublist.count_le _ List.filter_sublist) (honce category hcall)
    · rw [List.count_eq_zero_of_not_mem fun hmem => hcall (by simpa using (List.mem_filter.1 hmem).2)]
      exact Nat.zero_le 1
  rw [List.countP_eq_length_filter, List.countP_eq_length_filter]
  refine (List.subperm_of_subset hnodup fun category hmem => ?_).length_le
  obtain ⟨hmem, hcall⟩ := List.mem_filter.1 hmem
  exact List.mem_filter.2 ⟨hread hmem, hcall⟩

end Counts

/-! ## Templates -/

/-- No call is made more often than there are categories that need it. -/
def Frugal (categories : List Category) (calls : List Call) : Prop :=
  ∀ call, calls.count call ≤ categories.countP fun category => call ∈ category.calls

namespace Template

section Evaluations

variable [Pattern.CharacterNames] (surroundings : Surroundings) (photo : Photo) (template : Template)
  (clock : Clock)

/-- The calls of an evaluation. -/
def calls : List Call :=
  ((template.evaluate surroundings photo).run.run { clock := clock }).2.calls

/-- The placeholders that an evaluation puts values for. -/
def evaluated : List Placeholder :=
  if template.hasSeparators then [] else placeholders template.text

variable {surroundings : Surroundings} {photo : Photo} {template : Template} {clock : Clock}
  {value : Option Text}

omit [Pattern.CharacterNames] in
theorem mem_categories {category : Category} :
    category ∈ template.categories ↔ ∃ p ∈ placeholders template.text, p.category = category := by
  have hall : category ∈ Category.all := by cases category <;> decide
  show category ∈ PhotoPublish.categories template.text ↔ _
  unfold PhotoPublish.categories
  rw [List.mem_filter, and_iff_right hall, List.contains_iff_mem, List.mem_map]

theorem evaluatePattern_asks {pattern text : Text} {visit after : Visit}
    (h : (evaluatePattern surroundings photo pattern).run.run visit = (.ok text, after)) :
    ∃ read, Readings surroundings photo { visit := visit } (placeholders pattern) read ∧
      after.calls = visit.calls ++ read.flatMap (photo.sourceCalls surroundings) := by
  rcases hpieces : (valueOfPieces surroundings photo (scan pattern)).run.run { visit := visit } with
    ⟨result, state⟩
  have hrun : (evaluatePattern surroundings photo pattern).run.run visit =
      (result.map normalizePath, state.visit) := by
    rw [← congrArg (fun run => Except.map normalizePath run.1) hpieces,
      ← congrArg (fun run => run.2.visit) hpieces]
    rfl
  rw [hrun] at h
  obtain ⟨hresult, rfl⟩ := Prod.mk.inj h
  cases result with
  | error failure => cases hresult
  | ok written => exact valueOfPieces_asks hpieces

/-- The calls of an evaluation are those of the sources that it reads. -/
theorem calls_eq
    (h : ((template.evaluate surroundings photo).run.run { clock := clock }).1 = .ok value) :
    ∃ read, Readings surroundings photo { visit := { clock := clock } } template.evaluated read ∧
      template.calls surroundings photo clock = read.flatMap (photo.sourceCalls surroundings) := by
  have hnone : template.evaluated = [] → template.calls surroundings photo clock = [] →
      ∃ read, Readings surroundings photo { visit := { clock := clock } } template.evaluated read ∧
        template.calls surroundings photo clock =
          read.flatMap (photo.sourceCalls surroundings) := by
    intro hevaluated hcalls
    rw [hevaluated, hcalls]
    exact ⟨[], .nil surroundings photo _, rfl⟩
  cases hseparators : template.hasSeparators with
  | true =>
    refine hnone (if_pos hseparators) ?_
    unfold calls evaluate
    rw [hseparators]
    rfl
  | false =>
    have hevaluated : template.evaluated = placeholders template.text :=
      if_neg (Bool.eq_false_iff.1 hseparators)
    cases hpattern : template.pattern with
    | none =>
      have htext : template.text = [] := by rw [text, hpattern]; rfl
      refine hnone (by rw [hevaluated, htext]; rfl) ?_
      unfold calls evaluate
      rw [hseparators, hpattern]
      rfl
    | some pattern =>
      have htext : template.text = pattern := by rw [text, hpattern]; rfl
      cases hdynamic : template.isDynamic with
      | false =>
        have hopen : pattern.contains '\x7b' = false := by
          rwa [isDynamic, hpattern] at hdynamic
        refine hnone ?_ ?_
        · rw [hevaluated, htext, placeholders, scan_of_not_contains hopen]
          unfold Piece.literals
          split <;> rfl
        · unfold calls evaluate
          rw [hseparators, hpattern, hdynamic]
          rfl
      | true =>
        have hevaluate : template.evaluate surroundings photo =
            some <$> evaluatePattern surroundings photo pattern := by
          unfold evaluate
          rw [hseparators, hpattern, hdynamic]
          rfl
        rw [hevaluated, htext]
        unfold calls
        rw [hevaluate, map_eq_pure_bind] at h ⊢
        rcases hrun : (evaluatePattern surroundings photo pattern).run.run { clock := clock } with
          ⟨result, after⟩
        cases result with
        | error failure =>
          rw [run_bind_error hrun] at h
          cases h
        | ok text =>
          rw [run_bind_ok hrun]
          exact evaluatePattern_asks hrun

/-- **When an evaluation makes no call more often than it needs to.** It never makes a call that no category of
the template needs, and calls that have nothing to do with the capture date are made once at most for every
category that needs them. That is so for all calls unless there is no capture date and two placeholders write
one, which both look for it then. -/
theorem evaluate_asks_iff
    (h : ((template.evaluate surroundings photo).run.run { clock := clock }).1 = .ok value) :
    (∀ call ∈ template.calls surroundings photo clock,
        ∃ category ∈ template.categories, call ∈ category.calls) ∧
      (∀ call, call ∉ Category.date.calls →
        (template.calls surroundings photo clock).count call ≤
          template.categories.countP fun category => call ∈ category.calls) ∧
      (Frugal template.categories (template.calls surroundings photo clock) ↔
        ¬ ((∃ failure, photo.Undated surroundings clock.now failure) ∧
          2 ≤ template.evaluated.countP (·.isDated))) := by
  obtain ⟨read, hread, hcalls⟩ := calls_eq h
  have hevaluated : template.evaluated ⊆ placeholders template.text := by
    unfold evaluated
    split
    · exact List.nil_subset _
    · exact List.Subset.refl _
  have hsubset : read ⊆ template.categories := by
    intro category hmem
    obtain ⟨p, hp, hcategory⟩ := hread.needed category hmem
    exact mem_categories.2 ⟨p, hevaluated hp, hcategory⟩
  rw [hcalls]
  refine ⟨fun call hmem => ?_, fun call hcall => ?_, fun hfrugal => ?_, fun hrepeats call => ?_⟩
  · obtain ⟨category, hcategory, hcall⟩ := List.mem_flatMap.1 hmem
    exact ⟨category, hsubset hcategory, (photo.sourceCalls_sublist surroundings category).subset hcall⟩
  · refine count_le_of_once hsubset fun category hneeds => hread.once category ?_
    rintro rfl
    exact hcall hneeds
  · rintro ⟨hundated, htwo⟩
    -- The first source of a capture date is asked for once by each of the two.
    have hagain := hread.again rfl (not_found_iff.2 hundated)
    have hcount : read.count .date ≤ _ :=
      count_le_flatMap_sourceCalls (photo.count_datingCalls_taken surroundings)
    have hbound := hfrugal (.raw "dateTimeOriginal".toList)
    have hone : template.categories.countP (fun category =>
        .raw "dateTimeOriginal".toList ∈ category.calls) ≤ 1 :=
      List.Sublist.countP_le (List.filter_sublist : template.categories.Sublist Category.all)
    omega
  · refine count_le_of_once hsubset fun category _ => ?_
    by_cases hdate : category = .date
    · subst hdate
      by_cases hfound : Found surroundings photo .date clock
      · exact hread.found hfound
      · have hone := mt (And.intro (not_found_iff.1 hfound)) hrepeats
        have hdates := hread.dates
        omega
    · exact hread.once category hdate

end Evaluations

attribute [local instance] Pattern.CharacterNames.common

/-- A photo whose capture date lies at the edge of the calendar, so that no instant can be told. -/
def edgePhoto : Photo :=
  { raw := [("dateTimeOriginal".toList, .text "0001-01-01".toList),
      ("path".toList, .text "/trips/a.jpg".toList)] }

/-- Looking for one date that is not there asks for it once. -/
theorem evaluate_asks_once :
    (((ofPattern "\x7bPath:1\x7d/\x7bDate %Y\x7d".toList).evaluate {} edgePhoto).run.run
        { clock := { now := .finite 0 } }).1 = .ok (some "trips/\x7bDate %Y\x7d".toList) ∧
      Frugal (ofPattern "\x7bPath:1\x7d/\x7bDate %Y\x7d".toList).categories
        ((ofPattern "\x7bPath:1\x7d/\x7bDate %Y\x7d".toList).calls {} edgePhoto { now := .finite 0 }) :=
  have hvalue := ok_of_toOption (by decide +kernel)
  ⟨hvalue, (evaluate_asks_iff hvalue).2.2.2 fun h => absurd h.2 (by decide +kernel)⟩

/-- A date that is not there is asked for by every placeholder that writes it. -/
theorem evaluate_asks_twice :
    (((ofPattern "\x7bDate %Y\x7d\x7bDate %m\x7d".toList).evaluate {} edgePhoto).run.run
        { clock := { now := .finite 0 } }).1 = .ok (some "\x7bDate %Y\x7d\x7bDate %m\x7d".toList) ∧
      ¬ Frugal (ofPattern "\x7bDate %Y\x7d\x7bDate %m\x7d".toList).categories
        ((ofPattern "\x7bDate %Y\x7d\x7bDate %m\x7d".toList).calls {} edgePhoto { now := .finite 0 }) := by
  refine ⟨ok_of_toOption (by decide +kernel), fun hfrugal => ?_⟩
  exact absurd (hfrugal (.raw "dateTimeOriginal".toList)) (by decide +kernel)

end Template

end PhotoPublish
