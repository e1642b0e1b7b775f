import PhotoPublish.Proofs.Template.Evaluation

/-!
# What an evaluation keeps

A property of what has been kept of a photo stays true in the course of an evaluation if what is read of the
photo does not break it.

* `Keeps`: a step leaves a property true, whether it fails or not.
* `YieldsFrom`: a step gives the same result from every state with the property, and leaves it true.
* `Stable.value`: a property that reading the photo does not break is kept by every placeholder.
-/

set_option autoImplicit false

namespace PhotoPublish

/-- A step leaves a property of what has been kept true. -/
def Keeps {α : Type} (inv : Snapshot → Prop) (step : Evaluate α) : Prop :=
  ∀ state, inv state.snapshot → inv (step.run.run state).2.snapshot

/-- A step gives a result from every state with a property, and leaves the property true. -/
def YieldsFrom {α : Type} (inv : Snapshot → Prop) (step : Evaluate α) (result : Except Failure α) :
    Prop :=
  ∀ state, inv state.snapshot →
    (step.run.run state).1 = result ∧ inv (step.run.run state).2.snapshot

variable {α β : Type} {inv : Snapshot → Prop}

/-! ## Steps that keep a property -/

namespace Keeps

theorem pure (a : α) : Keeps inv (Pure.pure a) :=
  fun _ h => h

theorem throw (failure : Failure) : Keeps inv (MonadExcept.throw failure : Evaluate α) :=
  fun _ h => h

theorem ofExcept (result : Except Failure α) : Keeps inv (.fetch (.ofExcept result)) :=
  fun _ h => h

theorem bind {step : Evaluate α} {next : α → Evaluate β} (hstep : Keeps inv step)
    (hnext : ∀ a, Keeps inv (next a)) : Keeps inv (step >>= next) := by
  intro state hstate
  have hafter := hstep state hstate
  rcases hrun : step.run.run state with ⟨result, after⟩
  rw [hrun] at hafter
  cases result with
  | error failure =>
    rw [run_bind_error hrun]
    exact hafter
  | ok a =>
    rw [run_bind_ok hrun]
    exact hnext a after hafter

theorem tryCatch {step : Evaluate α} {handle : Failure → Evaluate α} (hstep : Keeps inv step)
    (hhandle : ∀ failure, Keeps inv (handle failure)) : Keeps inv (tryCatch step handle) := by
  intro state hstate
  have hafter := hstep state hstate
  rcases hrun : step.run.run state with ⟨result, after⟩
  rw [hrun] at hafter
  cases result with
  | error failure =>
    rw [run_tryCatch_error hrun]
    exact hhandle failure after hafter
  | ok a =>
    rw [run_tryCatch_ok hrun]
    exact hafter

/-- A source whose result is kept, where keeping what has been read does not break the property. -/
theorem cached {kept : Snapshot → Option α} {keep : α → Snapshot → Snapshot} {read : Fetch α}
    (hkeep : ∀ snapshot visit a, (read.run.run visit).1 = .ok a → inv snapshot →
      inv (keep a snapshot)) : Keeps inv (Evaluate.cached kept keep read) := by
  intro state hstate
  cases hfound : kept state.snapshot with
  | some a =>
    rw [Evaluate.cached_run_of_some hfound]
    exact hstate
  | none =>
    rcases hrun : read.run.run state.visit with ⟨result, visit⟩
    rw [Evaluate.cached_run_of_none hfound hrun]
    cases result with
    | error failure => exact hstate
    | ok a => exact hkeep state.snapshot state.visit a (congrArg Prod.fst hrun) hstate

end Keeps

/-! ## Steps with one result -/

namespace YieldsFrom

theorem pure (a : α) : YieldsFrom inv (Pure.pure a) (.ok a) :=
  fun _ h => ⟨rfl, h⟩

theorem ofExcept (result : Except Failure α) : YieldsFrom inv (.fetch (.ofExcept result)) result :=
  fun _ h => ⟨rfl, h⟩

theorem bind {step : Evaluate α} {next : α → Evaluate β} {result : Except Failure α}
    {later : α → Except Failure β} (hstep : YieldsFrom inv step result)
    (hnext : ∀ a, YieldsFrom inv (next a) (later a)) :
    YieldsFrom inv (step >>= next) (result >>= later) := by
  intro state hstate
  obtain ⟨hresult, hafter⟩ := hstep state hstate
  rcases hrun : step.run.run state with ⟨result', after⟩
  rw [hrun] at hresult hafter
  obtain rfl : result' = result := hresult
  cases result' with
  | error failure =>
    rw [run_bind_error hrun]
    exact ⟨rfl, hafter⟩
  | ok a =>
    rw [run_bind_ok hrun]
    exact hnext a after hafter

/-- A source whose result is kept, where the property says that what is kept is what reading gives. -/
theorem cached {kept : Snapshot → Option α} {keep : α → Snapshot → Snapshot} {read : Fetch α}
    {result : Except Failure α}
    (hkept : ∀ snapshot, inv snapshot → ∀ a, kept snapshot = some a → result = .ok a)
    (hread : ∀ visit, (read.run.run visit).1 = result)
    (hkeep : ∀ snapshot a, result = .ok a → inv snapshot → inv (keep a snapshot)) :
    YieldsFrom inv (Evaluate.cached kept keep read) result := by
  intro state hstate
  refine ⟨?_, Keeps.cached (fun snapshot visit a h => hkeep snapshot a (hread visit ▸ h)) state hstate⟩
  cases hfound : kept state.snapshot with
  | some a => rw [Evaluate.cached_run_of_some hfound, hkept _ hstate a hfound]
  | none =>
    rcases hrun : read.run.run state.visit with ⟨result', visit⟩
    rw [Evaluate.cached_run_of_none hfound hrun]
    exact (congrArg Prod.fst hrun).symm.trans (hread state.visit)

end YieldsFrom

/-! ## Placeholders -/

/-- An evaluation that has not read anything. -/
def Placeholder.newEvaluation : Evaluation :=
  { visit := { clock := { now := .finite 0 } } }

/-- What is read of a photo does not break a property of what has been kept of it. -/
structure Stable (photo : Photo) (inv : Snapshot → Prop) : Prop where
  captureTime : ∀ snapshot time, inv snapshot → inv { snapshot with captureTime := some time }
  formatted : ∀ snapshot, inv snapshot →
    inv { snapshot with formatted := some photo.formattedFields }
  segments : ∀ snapshot segments, photo.pathSegments = .ok segments → inv snapshot →
    inv { snapshot with segments := some segments }
  collectionPaths : ∀ snapshot paths, photo.collectionPaths = .ok paths → inv snapshot →
    inv { snapshot with collectionPaths := some paths }

namespace Stable

variable {photo : Photo} (h : Stable photo inv) (surroundings : Surroundings)
include h

theorem keeps_captureTime : Keeps inv (Evaluate.captureTime surroundings photo) :=
  Keeps.cached fun snapshot _ time _ => h.captureTime snapshot time

theorem keeps_formatted : Keeps inv (Evaluate.formatted photo) := by
  refine Keeps.cached fun snapshot visit fields hread => ?_
  obtain rfl : photo.formattedFields = fields := Except.ok.inj hread
  exact h.formatted snapshot

theorem keeps_segments : Keeps inv (Evaluate.segments photo) := by
  refine Keeps.cached fun snapshot visit segments hread => h.segments snapshot segments ?_
  rw [run_bind_ok (photo.fetchRaw_run Photo.pathKey visit)] at hread
  rw [← hread]
  unfold Photo.pathSegments
  cases photo.raw.get Photo.pathKey <;> rfl

theorem keeps_collectionPaths : Keeps inv (Evaluate.collectionPaths photo) :=
  Keeps.cached fun snapshot _ paths hread => h.collectionPaths snapshot paths hread

theorem dateValue (p : Placeholder) : Keeps inv (p.dateValue surroundings photo) := by
  unfold Placeholder.dateValue
  split
  · exact Keeps.pure _
  · refine ((h.keeps_captureTime surroundings).bind fun _ =>
      (Keeps.ofExcept _).bind fun _ => Keeps.pure _).tryCatch fun failure => ?_
    split
    · exact Keeps.pure _
    · exact Keeps.throw failure

variable [Pattern.CharacterNames] (p : Placeholder)

theorem pathValue : Keeps inv (p.pathValue photo) := by
  unfold Placeholder.pathValue
  simp only
  split
  · exact Keeps.pure _
  · exact (Keeps.ofExcept _).bind fun _ => h.keeps_segments.bind fun _ => Keeps.ofExcept _

theorem collectionValue : Keeps inv (p.collectionValue photo) := by
  unfold Placeholder.collectionValue
  simp only
  split
  · exact Keeps.pure _
  · exact h.keeps_collectionPaths.bind fun _ => Keeps.ofExcept _

/-- **Every placeholder keeps what reading the photo does not break.** -/
theorem value : Keeps inv (p.value surroundings photo) := by
  unfold Placeholder.value
  cases p.category with
  | date => exact h.dateValue surroundings p
  | formatted =>
    exact h.keeps_formatted.bind fun _ => (Keeps.ofExcept _).bind fun _ => Keeps.ofExcept _
  | path => exact h.pathValue p
  | collection => exact h.collectionValue p

end Stable

end PhotoPublish
