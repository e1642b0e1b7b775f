import PhotoPublish.Backlink.Conversion
import PhotoPublish.Proofs.Photo.Basic

/-!
# Converting one photo

A photo that has a backlink to its collection is kept. For any other one write access is requested; if it is
granted, the clock is read and the photo gets its URL, unless the host refuses that. `Treats` says for each of
these cases what happens to the state; the log is left open.

* `convertPhoto_treats`: a photo whose conversion returns is treated in one of these ways.
-/

set_option autoImplicit false

namespace PhotoPublish

/-! ## Backlinks -/

namespace Backlink

variable {identifier : Value} {now : Binary64}

theorem written_ok {text : Text} (h : written identifier = .ok text) :
    text = identifier.display := by
  unfold written at h
  split at h
  · cases h
  · exact (Except.ok.inj h).symm

theorem written_error {failure : Failure} (h : written identifier = .error failure) :
    failure = .longWhole := by
  unfold written at h
  split at h
  · exact (Except.error.inj h).symm
  · cases h

theorem seconds_real (now : Binary64) :
    (∃ n, now.truncate? = some n ∧ seconds (.real now) = .ok n) ∨
      ∃ failure, failure.family.isOwn = false ∧ seconds (.real now) = .error failure := by
  cases now with
  | nan => exact .inr ⟨.nanToWhole, rfl, rfl⟩
  | infinite negative => exact .inr ⟨.infinityToWhole, rfl, rfl⟩
  | negativeZero | finite units => exact .inl ⟨_, rfl, rfl⟩

/-- The backlink that is made at a whole second. -/
def link (identifier : Value) (second : Int) : Text :=
  identifier.display ++ '/' :: Numeral.ofInt second

theorem make_ok {url : Text} (h : make identifier (.real now) = .ok url) :
    ∃ second, now.truncate? = some second ∧ url = link identifier second := by
  obtain ⟨second, hsecond, h⟩ := exists_of_bind_ok h
  obtain ⟨name, hname, h⟩ := exists_of_bind_ok h
  obtain ⟨time, htime, h⟩ := exists_of_bind_ok h
  obtain rfl := written_ok hname
  obtain rfl := written_ok htime
  rcases seconds_real now with ⟨n, hn, hseconds⟩ | ⟨failure, -, hseconds⟩
  · obtain rfl : n = second := Except.ok.inj (hseconds.symm.trans hsecond)
    exact ⟨n, hn, (Except.ok.inj h).symm⟩
  · cases hseconds.symm.trans hsecond

/-- What keeps a backlink from being made ends the run. -/
theorem make_error {failure : Failure} (h : make identifier (.real now) = .error failure) :
    failure.family.isOwn = false := by
  rcases error_cases_of_bind h with hseconds | ⟨second, -, h⟩
  · rcases seconds_real now with ⟨n, -, hn⟩ | ⟨failure', hown, hfailure⟩
    · cases hn.symm.trans hseconds
    · obtain rfl := Except.error.inj (hfailure.symm.trans hseconds)
      exact hown
  · rcases error_cases_of_bind h with hname | ⟨name, -, h⟩
    · obtain rfl := written_error hname
      rfl
    · rcases error_cases_of_bind h with htime | ⟨time, -, h⟩
      · obtain rfl := written_error htime
        rfl
      · cases h

theorem check_ok {url : Option Text} {found : Bool} (h : check identifier url = .ok found) :
    found = isOf identifier url := by
  unfold check at h
  split at h
  · cases h
  · exact (Except.ok.inj h).symm

end Backlink

/-- A photo that has no backlink to the collection takes a transaction. -/
def PublishedCollection.isPending (collection : PublishedCollection) (photo : PublishedPhoto) :
    Bool :=
  !Backlink.isOf collection.identifier photo.url

namespace Conversion

variable {place index : Nat} {collection : PublishedCollection} {photo : PublishedPhoto}
  {state after : Conversion}

/-! ## Steps -/

/-- The state once a photo has another URL. -/
def relinked (state : Conversion) (place index : Nat) (url : Text) : Conversion :=
  { state with
    catalog := state.catalog.modify place fun entry =>
      { entry with photos := entry.photos.modify index fun photo => { photo with url := some url } } }

section Runs

variable (state)

theorem run_get : (get : Convert Conversion).run.run state = (.ok state, state) := rfl

theorem ofExcept_run {α : Type} (result : Except Failure α) :
    (ofExcept result).run.run state = (result, state) := rfl

theorem observe_run {α : Type} (step : Convert α) :
    (observe step).run.run state = (.ok (step.run.run state).1, (step.run.run state).2) := rfl

theorem write_run (level : Level) (text : Text) :
    (write level text).run.run state = (.ok (), { state with log := state.log ++ [⟨level, text⟩] }) :=
  rfl

theorem readClock_run :
    readClock.run.run state = (.ok state.clock.now, { state with clock := state.clock.tick }) := rfl

theorem setUrl_run (place index : Nat) (url : Text) :
    (setUrl place index url).run.run state = (.ok (), state.relinked place index url) := rfl

theorem request_run (transaction : Transaction) :
    (request transaction).run.run state =
      ((match state.access.refused? transaction with
        | some failure => .error failure
        | none => .ok ()),
        { state with access := state.access.requested transaction }) := by
  have hset (next : Conversion) : (set next : Convert PUnit).run.run state = (.ok (), next) := rfl
  rw [request, run_bind_ok (run_get state), run_bind_ok (hset _)]
  cases state.access.refused? transaction <;> rfl

theorem changeScope_run (number : Nat) (change : ScopeRecord → ScopeRecord) :
    (changeScope number change).run.run state =
      (.ok (), { state with scopes := state.scopes.modify number change }) := rfl

end Runs

theorem eq_of_ofExcept_run_ok {α : Type} {result : Except Failure α} {a : α}
    (h : (ofExcept result).run.run state = (.ok a, after)) : result = .ok a ∧ state = after := by
  obtain ⟨hresult, rfl⟩ := Prod.mk.inj h
  exact ⟨hresult, rfl⟩

/-! ## Scopes -/

/-- The state with a new scope. -/
def withNewScope (state : Conversion) (title : Text) : Conversion :=
  { state with scopes := state.scopes ++ [⟨{ title := .text title }, []⟩] }

/-- The state with a finished scope. -/
def withFinished (state : Conversion) (number : Nat) : Conversion :=
  { state with
    scopes := state.scopes.modify number fun record => { record with scope := record.scope.finish } }

/-- A scope is finished whatever comes of the step in it. -/
theorem withScope_run {α : Type} (title : Text) (body : Nat → Convert α) (state : Conversion) :
    (withScope title body).run.run state =
      (((body state.scopes.length).run.run (state.withNewScope title)).1,
        ((body state.scopes.length).run.run (state.withNewScope title)).2.withFinished
          state.scopes.length) := by
  have hopen : (modify fun state : Conversion =>
      { state with scopes := state.scopes ++ [⟨{ title := .text title }, []⟩] } :
        Convert PUnit).run.run state = (.ok (), state.withNewScope title) := rfl
  refine (run_bind_ok (run_get state)).trans ((run_bind_ok hopen).trans ?_)
  refine (run_bind_ok (observe_run _ _)).trans ((run_bind_ok (changeScope_run _ _ _)).trans ?_)
  exact ofExcept_run _ _

/-! ## One photo -/

/-- The state once write access was granted and the clock was read. -/
def granted (state : Conversion) : Conversion :=
  { state with
    access := state.access.requested backlinkTransaction
    clock := state.clock.tick }

theorem relink_run_refused {failure : Failure}
    (hrefused : state.access.refused? backlinkTransaction = some failure) :
    (relink place index collection photo).run.run state =
      (.error failure, { state with access := state.access.requested backlinkTransaction }) := by
  have hrequest := request_run state backlinkTransaction
  rw [hrefused] at hrequest
  exact run_bind_error hrequest

theorem relink_run_granted (hgranted : state.access.refused? backlinkTransaction = none) :
    (relink place index collection photo).run.run state =
      (do
        let url ← ofExcept (Backlink.make collection.identifier (.real state.clock.now))
        match photo.refusal with
        | some family => throw (.host family "remote url rejected".toList)
        | none => setUrl place index url : Convert Unit).run.run state.granted := by
  have hrequest := request_run state backlinkTransaction
  rw [hgranted] at hrequest
  rw [relink, run_bind_ok hrequest, run_bind_ok (readClock_run _)]
  rfl

/-- A photo that is linked was granted its transaction and accepts its URL. -/
theorem relink_ok
    (h : (relink place index collection photo).run.run state = (.ok (), after)) :
    state.access.refused? backlinkTransaction = none ∧ photo.refusal = none ∧
      ∃ second, state.clock.now.truncate? = some second ∧
        after = state.granted.relinked place index (Backlink.link collection.identifier second) := by
  cases hrefused : state.access.refused? backlinkTransaction with
  | some failure =>
    rw [relink_run_refused hrefused] at h
    cases h
  | none =>
    rw [relink_run_granted hrefused] at h
    obtain ⟨url, mid, hurl, hset⟩ := exists_of_run_bind_ok h
    obtain ⟨hmake, rfl⟩ := eq_of_ofExcept_run_ok hurl
    obtain ⟨second, hsecond, rfl⟩ := Backlink.make_ok hmake
    cases hrefusal : photo.refusal with
    | some family =>
      rw [hrefusal] at hset
      cases hset
    | none =>
      rw [hrefusal] at hset
      obtain ⟨-, rfl⟩ := Prod.mk.inj ((setUrl_run _ _ _ _).symm.trans hset)
      exact ⟨rfl, rfl, second, hsecond, rfl⟩

/-- A photo that fails was refused its transaction, or it refuses its URL. -/
theorem relink_error {failure : Failure}
    (h : (relink place index collection photo).run.run state = (.error failure, after))
    (hown : failure.family.isOwn = true) :
    (state.access.refused? backlinkTransaction = some failure ∧
        after = { state with access := state.access.requested backlinkTransaction }) ∨
      (state.access.refused? backlinkTransaction = none ∧ photo.refusal.isSome ∧
        after = state.granted) := by
  cases hrefused : state.access.refused? backlinkTransaction with
  | some failure' =>
    rw [relink_run_refused hrefused] at h
    obtain ⟨hfailure, rfl⟩ := Prod.mk.inj h
    obtain rfl := Except.error.inj hfailure
    exact .inl ⟨rfl, rfl⟩
  | none =>
    rw [relink_run_granted hrefused] at h
    cases hmake : Backlink.make collection.identifier (.real state.clock.now) with
    | error failure' =>
      have hfails := ofExcept_run state.granted (Except.error failure' : Except Failure Text)
      rw [hmake, run_bind_error hfails] at h
      obtain ⟨hfailure, rfl⟩ := Prod.mk.inj h
      obtain rfl := Except.error.inj hfailure
      rw [Backlink.make_error hmake] at hown
      cases hown
    | ok url =>
      have hpasses := ofExcept_run state.granted (Except.ok url : Except Failure Text)
      rw [hmake, run_bind_ok hpasses] at h
      cases hrefusal : photo.refusal with
      | some family =>
        rw [hrefusal] at h
        exact .inr ⟨rfl, rfl, (Prod.mk.inj h).2.symm⟩
      | none =>
        rw [hrefusal] at h
        cases h

/-- What converting a photo does to the state, by what becomes of the photo. -/
inductive Treats (place index : Nat) (collection : PublishedCollection) (photo : PublishedPhoto)
    (state : Conversion) : Fate → Conversion → Prop where
  | kept (log : List LogRecord) (hlinked : Backlink.isOf collection.identifier photo.url = true) :
    Treats place index collection photo state .kept { state with log := log }
  /-- The transaction was refused. -/
  | refused (log : List LogRecord) (hpending : Backlink.isOf collection.identifier photo.url = false)
      (hrefused : (state.access.refused? backlinkTransaction).isSome) :
    Treats place index collection photo state .failed
      { state with access := state.access.requested backlinkTransaction, log := log }
  /-- The URL was refused. -/
  | rejected (log : List LogRecord)
      (hpending : Backlink.isOf collection.identifier photo.url = false)
      (hgranted : state.access.refused? backlinkTransaction = none) (hrefusal : photo.refusal.isSome) :
    Treats place index collection photo state .failed { state.granted with log := log }
  | converted (log : List LogRecord) (second : Int)
      (hpending : Backlink.isOf collection.identifier photo.url = false)
      (hgranted : state.access.refused? backlinkTransaction = none) (hrefusal : photo.refusal = none)
      (hsecond : state.clock.now.truncate? = some second) :
    Treats place index collection photo state .converted
      { state.granted.relinked place index (Backlink.link collection.identifier second) with
        log := log }

namespace Treats

variable {fate : Fate} (h : Treats place index collection photo state fate after)
include h

theorem fate_eq :
    fate = if !collection.isPending photo then .kept
      else if (state.access.refused? backlinkTransaction).isNone && photo.refusal.isNone then
        .converted
      else .failed := by
  cases h with
  | kept log hlinked => simp [PublishedCollection.isPending, hlinked]
  | refused log hpending hrefused =>
    obtain ⟨failure, hfailure⟩ := Option.isSome_iff_exists.1 hrefused
    simp [PublishedCollection.isPending, hpending, hfailure]
  | rejected log hpending hgranted hrefusal =>
    obtain ⟨family, hfamily⟩ := Option.isSome_iff_exists.1 hrefusal
    simp [PublishedCollection.isPending, hpending, hfamily]
  | converted log second hpending hgranted hrefusal hsecond =>
    simp [PublishedCollection.isPending, hpending, hgranted, hrefusal]

/-- A photo without a backlink is converted or fails. -/
theorem counts_eq :
    (if fate = .converted then 1 else 0 : Int) + (if fate = .failed then 1 else 0) =
      ((if collection.isPending photo then 1 else 0 : Nat) : Int) := by
  cases h with
  | kept log hlinked => simp [PublishedCollection.isPending, hlinked]
  | refused log hpending | rejected log hpending | converted log second hpending =>
    simp [PublishedCollection.isPending, hpending]

theorem access_eq :
    after.access = if collection.isPending photo then state.access.requested backlinkTransaction
      else state.access := by
  cases h with
  | kept log hlinked => simp [PublishedCollection.isPending, hlinked]
  | refused log hpending | rejected log hpending | converted log second hpending =>
    simp [PublishedCollection.isPending, hpending, granted, relinked]

theorem clock_eq :
    after.clock =
      if collection.isPending photo && (state.access.refused? backlinkTransaction).isNone then
        state.clock.tick
      else state.clock := by
  cases h with
  | kept log hlinked => simp [PublishedCollection.isPending, hlinked]
  | refused log hpending hrefused =>
    obtain ⟨failure, hfailure⟩ := Option.isSome_iff_exists.1 hrefused
    simp [PublishedCollection.isPending, hpending, hfailure]
  | rejected log hpending hgranted | converted log second hpending hgranted =>
    simp [PublishedCollection.isPending, hpending, hgranted, granted, relinked]

/-- A converted photo has its link to the second that the clock showed, all else stays. -/
theorem catalog_eq :
    (fate = .converted ∧ ∃ second, state.clock.now.truncate? = some second ∧
        after.catalog =
          (state.relinked place index (Backlink.link collection.identifier second)).catalog) ∨
      (fate ≠ .converted ∧ after.catalog = state.catalog) := by
  cases h with
  | kept | refused | rejected => exact .inr ⟨nofun, rfl⟩
  | converted log second hpending hgranted hrefusal hsecond =>
    exact .inl ⟨rfl, second, hsecond, rfl⟩

/-- The progress stays as it is. -/
theorem progress_eq : after.scopes = state.scopes ∧ after.cancelAfter = state.cancelAfter := by
  cases h <;> exact ⟨rfl, rfl⟩

end Treats

/-- **What becomes of a photo** whose conversion returns. -/
theorem convertPhoto_treats {fate : Fate}
    (h : (convertPhoto place index collection photo).run.run state = (.ok fate, after)) :
    Treats place index collection photo state fate after := by
  obtain ⟨linked, mid, hcheck, h⟩ := exists_of_run_bind_ok h
  obtain ⟨hlinked, rfl⟩ := eq_of_ofExcept_run_ok hcheck
  obtain rfl := Backlink.check_ok hlinked
  cases hof : Backlink.isOf collection.identifier photo.url with
  | true =>
    rw [hof, if_pos rfl, run_bind_ok (run_get _)] at h
    obtain ⟨message, mid, hmessage, h⟩ := exists_of_run_bind_ok h
    obtain ⟨-, rfl⟩ := eq_of_ofExcept_run_ok hmessage
    rw [run_bind_ok (write_run _ _ _)] at h
    obtain ⟨hfate, rfl⟩ := Prod.mk.inj h
    obtain rfl : Fate.kept = fate := Except.ok.inj hfate
    exact .kept _ hof
  | false =>
    rw [hof, if_neg Bool.false_ne_true, run_bind_ok (observe_run _ _)] at h
    rcases hrelink : (relink place index collection photo).run.run state with ⟨result, mid⟩
    rw [hrelink] at h
    cases result with
    | ok =>
      obtain ⟨hgranted, hrefusal, second, hsecond, rfl⟩ := relink_ok hrelink
      rw [run_bind_ok (write_run _ _ _)] at h
      obtain ⟨hfate, rfl⟩ := Prod.mk.inj h
      obtain rfl : Fate.converted = fate := Except.ok.inj hfate
      exact .converted _ second hof hgranted hrefusal hsecond
    | error failure =>
      cases hown : failure.family.isOwn with
      | false =>
        simp only [hown, Bool.false_eq_true, if_false] at h
        cases h
      | true =>
        simp only [hown, if_true] at h
        rw [run_bind_ok (write_run _ _ _)] at h
        obtain ⟨hfate, rfl⟩ := Prod.mk.inj h
        obtain rfl : Fate.failed = fate := Except.ok.inj hfate
        rcases relink_error hrelink hown with ⟨hrefused, rfl⟩ | ⟨hgranted, hrefusal, rfl⟩
        · exact .refused _ hof (Option.isSome_of_eq_some hrefused)
        · exact .rejected _ hof hgranted hrefusal

end Conversion

end PhotoPublish
