import PhotoPublish.Photo.Basic

/-!
# Runs of steps

A step that may fail and changes a state is run for its result and the state after it. A run of two steps
goes on with the second one where the first one stopped (`run_bind_ok`), unless that one failed
(`run_bind_error`), so a run that returns is made of two that return (`exists_of_run_bind_ok`); a failure that
is caught goes on with what catches it (`run_tryCatch_error`).
-/

set_option autoImplicit false

namespace PhotoPublish

/-! ## Results that depend on others -/

section Results

variable {α β : Type} {result : Except Failure α} {next : α → Except Failure β}

theorem exists_of_bind_ok {b : β} (h : (result >>= next) = .ok b) :
    ∃ a, result = .ok a ∧ next a = .ok b := by
  cases result with
  | ok a => exact ⟨a, rfl, h⟩
  | error failure => cases h

theorem error_cases_of_bind {failure : Failure} (h : (result >>= next) = .error failure) :
    result = .error failure ∨ ∃ a, result = .ok a ∧ next a = .error failure := by
  cases result with
  | ok a => exact .inr ⟨a, rfl, h⟩
  | error failure' =>
    obtain rfl : failure' = failure := Except.error.inj h
    exact .inl rfl

theorem map_ok_iff {change : α → β} {b : β} :
    change <$> result = .ok b ↔ ∃ a, result = .ok a ∧ change a = b := by
  cases result with
  | ok a => exact ⟨fun h => ⟨a, rfl, Except.ok.inj h⟩, fun ⟨_, h, hb⟩ => by rw [h, ← hb]; rfl⟩
  | error failure => exact iff_of_false nofun fun ⟨_, h, _⟩ => nomatch h

theorem mapError_ok_iff {ε : Type} {result : Except ε α} {change : ε → Failure} {a : α} :
    result.mapError change = .ok a ↔ result = .ok a := by
  cases result with
  | ok a' => exact ⟨fun h => congrArg _ (Except.ok.inj h), fun h => congrArg _ (Except.ok.inj h)⟩
  | error failure => exact iff_of_false nofun nofun

theorem ok_of_toOption {a : α} (h : result.toOption = some a) : result = .ok a := by
  cases result with
  | error failure => cases h
  | ok a' => rw [Option.some.inj h]

theorem run_eq_of_toOption {σ : Type} {run : Except Failure α × σ} {a : α}
    (h : run.1.toOption = some a) : run = (.ok a, run.2) := by
  rw [← ok_of_toOption h]

end Results

/-! ## Steps that may fail -/

section Steps

variable {σ α β : Type} {step : ExceptT Failure (StateM σ) α}
  {next : α → ExceptT Failure (StateM σ) β} {state after : σ}

theorem run_bind_ok {a : α} (h : step.run.run state = (.ok a, after)) :
    (step >>= next).run.run state = (next a).run.run after := by
  simp only [ExceptT.run_bind, StateT.run_bind]
  rw [h]
  rfl

theorem run_bind_error {failure : Failure} (h : step.run.run state = (.error failure, after)) :
    (step >>= next).run.run state = (.error failure, after) := by
  simp only [ExceptT.run_bind, StateT.run_bind]
  rw [h]
  rfl

theorem exists_of_run_bind_ok {b : β} (h : (step >>= next).run.run state = (.ok b, after)) :
    ∃ a mid, step.run.run state = (.ok a, mid) ∧ (next a).run.run mid = (.ok b, after) := by
  rcases hstep : step.run.run state with ⟨result, mid⟩
  cases result with
  | ok a => exact ⟨a, mid, rfl, by rwa [run_bind_ok hstep] at h⟩
  | error failure =>
    rw [run_bind_error hstep] at h
    cases h

theorem run_tryCatch_ok {handle : Failure → ExceptT Failure (StateM σ) α} {a : α}
    (h : step.run.run state = (.ok a, after)) :
    (tryCatch step handle).run.run state = (.ok a, after) := by
  simp only [ExceptT.run_tryCatch, StateT.run_bind]
  rw [h]
  rfl

theorem run_tryCatch_error {handle : Failure → ExceptT Failure (StateM σ) α} {failure : Failure}
    (h : step.run.run state = (.error failure, after)) :
    (tryCatch step handle).run.run state = (handle failure).run.run after := by
  simp only [ExceptT.run_tryCatch, StateT.run_bind]
  rw [h]
  rfl

end Steps

/-! ## Reading -/

namespace Fetch

theorem run_readClock (visit : Visit) :
    readClock.run.run visit = (.ok visit.clock.now, { visit with clock := visit.clock.tick }) := rfl

end Fetch

theorem Photo.fetchRaw_run (photo : Photo) (key : Text) (visit : Visit) :
    (photo.fetchRaw key).run.run visit =
      (.ok (photo.raw.get key), { visit with calls := visit.calls ++ [.raw key] }) := rfl

end PhotoPublish
