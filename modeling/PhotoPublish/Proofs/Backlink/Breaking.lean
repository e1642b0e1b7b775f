import PhotoPublish.Proofs.Backlink.Photo

/-!
# What ends a run at a photo

A failure of the program's own kinds is counted and the run goes on. `Breaks` lists what else can happen at a
photo: each cause ends the run, and each leaves the catalog as it was.

* `convertPhoto_error_iff`: a photo ends the run exactly for one of these causes.
* `convertPhoto_changes`: what a photo's turn can do to the state, however it ends.
-/

set_option autoImplicit false

namespace PhotoPublish

namespace Conversion

variable {place index : Nat} {collection : PublishedCollection} {photo : PublishedPhoto}
  {state after : Conversion} {failure : Failure}

/-! ## Steps that fail -/

/-- The state once write access was requested. -/
def requested (state : Conversion) : Conversion :=
  { state with access := state.access.requested backlinkTransaction }

/-- Why a run ends at a photo, and the state in which it ends. -/
inductive Breaks (place index : Nat) (collection : PublishedCollection) (photo : PublishedPhoto)
    (state : Conversion) : Failure → Conversion → Prop where
  /-- The URL cannot be compared with the identifier. -/
  | unchecked {failure : Failure}
      (hcheck : Backlink.check collection.identifier photo.url = .error failure) :
    Breaks place index collection photo state failure state
  /-- The message about a backlink that the photo has cannot be written. -/
  | unreported {failure : Failure}
      (hcheck : Backlink.check collection.identifier photo.url = .ok true)
      (hmessage : keptMessage state.zone collection photo = .error failure) :
    Breaks place index collection photo state failure state
  /-- The host refuses the transaction with a failure of another kind. -/
  | refused {failure : Failure}
      (hcheck : Backlink.check collection.identifier photo.url = .ok false)
      (hrefused : state.access.refused? backlinkTransaction = some failure)
      (hforeign : failure.family.isOwn = false) :
    Breaks place index collection photo state failure state.requested
  /-- The new backlink cannot be written. -/
  | unlinked {failure : Failure}
      (hcheck : Backlink.check collection.identifier photo.url = .ok false)
      (hgranted : state.access.refused? backlinkTransaction = none)
      (hmake : Backlink.make collection.identifier (.real state.clock.now) = .error failure) :
    Breaks place index collection photo state failure state.granted
  /-- The host refuses the URL with a failure of another kind. -/
  | rejected {family : Family} {url : Text}
      (hcheck : Backlink.check collection.identifier photo.url = .ok false)
      (hgranted : state.access.refused? backlinkTransaction = none)
      (hmake : Backlink.make collection.identifier (.real state.clock.now) = .ok url)
      (hrefusal : photo.refusal = some family) (hforeign : family.isOwn = false) :
    Breaks place index collection photo state (.host family "remote url rejected".toList)
      state.granted

theorem eq_of_run_error {α : Type} {failure failure' : Failure} {state after : Conversion}
    (h : ((.error failure : Except Failure α), state) = (.error failure', after)) :
    failure = failure' ∧ state = after := by
  obtain ⟨hfailure, rfl⟩ := Prod.mk.inj h
  exact ⟨Except.error.inj hfailure, rfl⟩

/-- What comes of giving a photo a backlink once write access was granted. -/
theorem relink_run_made (hgranted : state.access.refused? backlinkTransaction = none) :
    (relink place index collection photo).run.run state =
      match Backlink.make collection.identifier (.real state.clock.now), photo.refusal with
      | .error failure, _ => (.error failure, state.granted)
      | .ok _, some family => (.error (.host family "remote url rejected".toList), state.granted)
      | .ok url, none => (.ok (), state.granted.relinked place index url) := by
  rw [relink_run_granted hgranted]
  cases hmake : Backlink.make collection.identifier (.real state.clock.now) with
  | error failure => exact run_bind_error (ofExcept_run _ _)
  | ok url =>
    rw [run_bind_ok (ofExcept_run _ _)]
    cases photo.refusal <;> rfl

theorem breaks_of_relink (hpending : Backlink.check collection.identifier photo.url = .ok false)
    (h : (relink place index collection photo).run.run state = (.error failure, after))
    (hforeign : failure.family.isOwn = false) :
    Breaks place index collection photo state failure after := by
  cases hrefused : state.access.refused? backlinkTransaction with
  | some failure' =>
    rw [relink_run_refused hrefused] at h
    obtain ⟨rfl, rfl⟩ := eq_of_run_error h
    exact .refused hpending hrefused hforeign
  | none =>
    rw [relink_run_made hrefused] at h
    cases hmake : Backlink.make collection.identifier (.real state.clock.now) with
    | error failure' =>
      rw [hmake] at h
      obtain ⟨rfl, rfl⟩ := eq_of_run_error h
      exact .unlinked hpending hrefused hmake
    | ok url =>
      cases hrefusal : photo.refusal with
      | none =>
        rw [hmake, hrefusal] at h
        cases h
      | some family =>
        rw [hmake, hrefusal] at h
        obtain ⟨rfl, rfl⟩ := eq_of_run_error h
        exact .rejected hpending hrefused hmake hrefusal hforeign

/-! ## One photo -/

section Runs

variable (hlinked : Backlink.check collection.identifier photo.url = .ok true)
  (hpending : Backlink.check collection.identifier photo.url = .ok false)

theorem convertPhoto_run_unchecked
    (hcheck : Backlink.check collection.identifier photo.url = .error failure) :
    (convertPhoto place index collection photo).run.run state = (.error failure, state) := by
  refine run_bind_error ?_
  rw [ofExcept_run, hcheck]

include hlinked in
theorem convertPhoto_run_linked :
    (convertPhoto place index collection photo).run.run state =
      match keptMessage state.zone collection photo with
      | .error failure => (.error failure, state)
      | .ok message => (.ok .kept, { state with log := state.log ++ [⟨.info, message⟩] }) := by
  have hrun := ofExcept_run state (Backlink.check collection.identifier photo.url)
  rw [hlinked] at hrun
  rw [convertPhoto, hlinked, run_bind_ok hrun, if_pos rfl, run_bind_ok (run_get _)]
  cases hmessage : keptMessage state.zone collection photo with
  | error failure => exact run_bind_error (ofExcept_run _ _)
  | ok message =>
    rw [run_bind_ok (ofExcept_run _ _), run_bind_ok (write_run _ _ _)]
    rfl

include hpending in
theorem convertPhoto_run_pending {result : Except Failure Unit} {mid : Conversion}
    (hrelink : (relink place index collection photo).run.run state = (result, mid)) :
    (convertPhoto place index collection photo).run.run state =
      match result with
      | .ok () =>
        (.ok .converted,
          { mid with
            log := mid.log ++
              [⟨.info, about collection photo ++ "converted to new format.".toList⟩] })
      | .error failure =>
        if failure.family.isOwn then
          (.ok .failed,
            { mid with
              log := mid.log ++
                [⟨.warning, about collection photo ++ "failed: ".toList ++ failure.message⟩] })
        else (.error failure, mid) := by
  have hrun := ofExcept_run state (Backlink.check collection.identifier photo.url)
  have hobserve := observe_run state (relink place index collection photo)
  rw [hpending] at hrun
  rw [hrelink] at hobserve
  rw [convertPhoto, hpending, run_bind_ok hrun, if_neg Bool.false_ne_true, run_bind_ok hobserve]
  cases result with
  | ok =>
    rw [run_bind_ok (write_run _ _ _)]
    rfl
  | error failure =>
    cases hown : failure.family.isOwn with
    | true =>
      simp only [hown, if_true]
      rw [run_bind_ok (write_run _ _ _)]
      rfl
    | false =>
      simp only [hown, Bool.false_eq_true, if_false]
      rfl

end Runs

/-- **What ends a run at a photo.** -/
theorem convertPhoto_error_iff :
    (convertPhoto place index collection photo).run.run state = (.error failure, after) ↔
      Breaks place index collection photo state failure after := by
  constructor
  · intro h
    cases hcheck : Backlink.check collection.identifier photo.url with
    | error failure' =>
      rw [convertPhoto_run_unchecked hcheck] at h
      obtain ⟨rfl, rfl⟩ := eq_of_run_error h
      exact .unchecked hcheck
    | ok linked =>
      cases linked with
      | true =>
        rw [convertPhoto_run_linked hcheck] at h
        cases hmessage : keptMessage state.zone collection photo with
        | ok message =>
          rw [hmessage] at h
          cases h
        | error failure' =>
          rw [hmessage] at h
          obtain ⟨rfl, rfl⟩ := eq_of_run_error h
          exact .unreported hcheck hmessage
      | false =>
        rcases hrelink : (relink place index collection photo).run.run state with ⟨result, mid⟩
        rw [convertPhoto_run_pending hcheck hrelink] at h
        cases result with
        | ok => cases h
        | error failure' =>
          cases hown : failure'.family.isOwn with
          | true =>
            simp only [hown, if_true] at h
            cases h
          | false =>
            simp only [hown, Bool.false_eq_true, if_false] at h
            obtain ⟨rfl, rfl⟩ := eq_of_run_error h
            exact breaks_of_relink hcheck hrelink hown
  · intro h
    cases h with
    | unchecked hcheck => exact convertPhoto_run_unchecked hcheck
    | unreported hcheck hmessage => rw [convertPhoto_run_linked hcheck, hmessage]
    | refused hcheck hrefused hforeign =>
      rw [convertPhoto_run_pending hcheck (relink_run_refused hrefused)]
      exact if_neg (by simp [hforeign])
    | unlinked hcheck hgranted hmake =>
      have hrelink := @relink_run_made place index collection photo state hgranted
      rw [hmake] at hrelink
      rw [convertPhoto_run_pending hcheck hrelink]
      exact if_neg (by simp [Backlink.make_error hmake])
    | rejected hcheck hgranted hmake hrefusal hforeign =>
      have hrelink := @relink_run_made place index collection photo state hgranted
      rw [hmake, hrefusal] at hrelink
      rw [convertPhoto_run_pending hcheck hrelink]
      exact if_neg (by simpa [Failure.family] using hforeign)

/-! ## What a photo's turn does, however it ends -/

namespace Breaks

variable (h : Breaks place index collection photo state failure after)
include h

theorem catalog_eq : after.catalog = state.catalog := by
  cases h <;> rfl

theorem access_eq :
    after.access = state.access ∨ after.access = state.access.requested backlinkTransaction := by
  cases h with
  | unchecked | unreported => exact .inl rfl
  | refused | unlinked | rejected => exact .inr rfl

theorem progress_eq : after.scopes = state.scopes ∧ after.cancelAfter = state.cancelAfter := by
  cases h <;> exact ⟨rfl, rfl⟩

end Breaks

section Changes

variable {outcome : Except Failure Fate}
  (h : (convertPhoto place index collection photo).run.run state = (outcome, after))
include h

/-- Only a photo that is converted changes in the catalog. -/
theorem convertPhoto_catalog :
    (outcome = .ok .converted ∧ ∃ second,
        after.catalog =
          (state.relinked place index (Backlink.link collection.identifier second)).catalog) ∨
      (outcome ≠ .ok .converted ∧ after.catalog = state.catalog) := by
  cases outcome with
  | error failure => exact .inr ⟨nofun, (convertPhoto_error_iff.1 h).catalog_eq⟩
  | ok fate =>
    rcases (convertPhoto_treats h).catalog_eq with ⟨rfl, second, -, hcatalog⟩ | ⟨hne, hcatalog⟩
    · exact .inl ⟨rfl, second, hcatalog⟩
    · exact .inr ⟨fun hfate => hne (Except.ok.inj hfate), hcatalog⟩

/-- At most one transaction is opened. -/
theorem convertPhoto_access :
    after.access = state.access ∨ after.access = state.access.requested backlinkTransaction := by
  cases outcome with
  | error failure => exact (convertPhoto_error_iff.1 h).access_eq
  | ok fate =>
    have haccess := (convertPhoto_treats h).access_eq
    cases hpending : collection.isPending photo with
    | true => exact .inr (by rwa [hpending, if_pos rfl] at haccess)
    | false => exact .inl (by rwa [hpending, if_neg Bool.false_ne_true] at haccess)

theorem convertPhoto_progress :
    after.scopes = state.scopes ∧ after.cancelAfter = state.cancelAfter := by
  cases outcome with
  | error failure => exact (convertPhoto_error_iff.1 h).progress_eq
  | ok fate => exact (convertPhoto_treats h).progress_eq

end Changes

end Conversion

end PhotoPublish
