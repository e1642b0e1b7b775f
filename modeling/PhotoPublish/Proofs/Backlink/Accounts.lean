import Mathlib.Logic.Function.Iterate
import PhotoPublish.Proofs.Backlink.Photo

/-!
# The books of a conversion

The photos of a collection are treated one after the other, until a poll of the progress scope says that the
run is cancelled. What becomes of a photo follows from the photos before it (`fateAfter`): each of them that
had no backlink has taken one transaction, and each transaction that was granted one reading of the clock.

* `convertCollection_accounts`: the counts, transactions, clock readings, URLs and progress reports of a
  conversion that returns.
-/

set_option autoImplicit false

namespace PhotoPublish

/-! ## Lists -/

section Lists

variable {α β : Type}

/-- The values of a function at the members of a list and those before them. -/
def inTurn (f : List α → α → β) (list : List α) : List β :=
  list.mapIdx fun i a => f (list.take i) a

theorem length_inTurn (f : List α → α → β) (list : List α) :
    (inTurn f list).length = list.length :=
  List.length_mapIdx

theorem getElem?_inTurn_append (f : List α → α → β) (before : List α) (a : α) (behind : List α)
    (rest : List β) :
    (inTurn f (before ++ a :: behind) ++ rest)[before.length]? = some (f before a) := by
  have hlt : before.length < (inTurn f (before ++ a :: behind)).length := by
    rw [length_inTurn, List.length_append, List.length_cons]
    omega
  rw [List.getElem?_append_left hlt, inTurn, List.getElem?_mapIdx, List.getElem?_append_right (Nat.le_refl _),
    Nat.sub_self, List.take_left]
  rfl

theorem inTurn_concat (f : List α → α → β) (list : List α) (a : α) :
    inTurn f (list ++ [a]) = inTurn f list ++ [f list a] := by
  have hlast : (list ++ [a]).take list.length = list := List.take_left
  rw [inTurn, List.mapIdx_concat, hlast, inTurn, List.append_cancel_right_eq,
    List.mapIdx_eq_mapIdx_iff]
  intro i hi
  rw [List.take_append_of_le_length (Nat.le_of_lt hi)]

theorem modify_length_append (f : α → α) (front : List α) (a : α) (back : List α) :
    (front ++ a :: back).modify front.length f = front ++ f a :: back := by
  induction front with
  | nil => rfl
  | cons head front ih => exact congrArg (head :: ·) ih

/-- A change that keeps the member at a place changes nothing there. -/
theorem modify_eq_self_of_getD {f : α → α} {list : List α} {i : Nat} {default : α}
    (h : f (list.getD i default) = list.getD i default) : list.modify i f = list := by
  induction list generalizing i with
  | nil => exact List.modify_nil f i
  | cons head rest ih =>
    cases i with
    | zero => exact congrArg (· :: rest) h
    | succ i => exact congrArg (head :: ·) (ih h)

end Lists

/-! ## What becomes of photos -/

namespace Conversion

section Course

variable (start : Conversion) (collection : PublishedCollection)

/-- Whether the host grants the transaction that comes after a number of others. -/
def grants (number : Nat) : Bool :=
  (start.access.refusals (start.access.requests.length + number)).isNone

/-- The clock after a number of transactions: each one that was granted has read it once. -/
def clockAfter (number : Nat) : Clock :=
  Clock.tick^[(List.range number).countP start.grants] start.clock

/-- What becomes of a photo after some others. -/
def fateAfter (done : List PublishedPhoto) (photo : PublishedPhoto) : Fate :=
  if !collection.isPending photo then .kept
  else if start.grants (done.countP collection.isPending) && photo.refusal.isNone then .converted
  else .failed

/-- The reading of the clock for a photo after some others. -/
def readingAfter (done : List PublishedPhoto) : Binary64 :=
  (start.clockAfter (done.countP collection.isPending)).now

/-- A photo after its turn. -/
def treatedAfter (done : List PublishedPhoto) (photo : PublishedPhoto) : PublishedPhoto :=
  if start.fateAfter collection done photo = .converted then
    { photo with
      url := (start.readingAfter collection done).truncate?.map
        (Backlink.link collection.identifier) }
  else photo

/-- Whether a scope is cancelled once it has a number of reports. -/
def cancels (scope reports : Nat) : Bool :=
  (start.cancelAfter scope).any fun bound => bound ≤ reports

end Course

variable {start state after : Conversion} {collection : PublishedCollection}
  {photo : PublishedPhoto} {done rest : List PublishedPhoto} {result : ConversionResult}
  {place : Nat} {fate : Fate}

theorem clockAfter_succ (start : Conversion) (number : Nat) :
    start.clockAfter (number + 1) =
      if start.grants number then (start.clockAfter number).tick else start.clockAfter number := by
  simp only [clockAfter, List.range_succ, List.countP_append, List.countP_singleton]
  cases start.grants number with
  | false => rfl
  | true => exact Function.iterate_succ_apply' Clock.tick _ start.clock

/-! ## The ledger -/

/-- What the state holds after some photos of a collection had their turn. -/
structure Ledger (start : Conversion) (place : Nat) (collection : PublishedCollection)
    (done rest : List PublishedPhoto) (result : ConversionResult) (state : Conversion) : Prop where
  photos : collection.photos = done ++ rest
  total : result.photos = collection.photos.length
  processed : result.processed = done.length
  converted : result.converted = (inTurn (start.fateAfter collection) done).count .converted
  failed : result.failed = (inTurn (start.fateAfter collection) done).count .failed
  counted : result.converted + result.failed = done.countP collection.isPending
  access : state.access =
    { start.access with
      requests := start.access.requests ++
        List.replicate (done.countP collection.isPending) backlinkTransaction }
  clock : state.clock = start.clockAfter (done.countP collection.isPending)
  catalog : state.catalog = start.catalog.modify place fun entry =>
    { entry with photos := inTurn (start.treatedAfter collection) done ++ rest }
  readable : ∀ before photo behind, done = before ++ photo :: behind →
    start.fateAfter collection before photo = .converted →
      ∃ second, (start.readingAfter collection before).truncate? = some second

namespace Ledger

theorem grants_eq (h : Ledger start place collection done rest result state) :
    (state.access.refused? backlinkTransaction).isNone =
      start.grants (done.countP collection.isPending) := by
  rw [WriteAccess.refused?, h.access, grants]
  simp only [List.length_append, List.length_replicate, Option.isNone_map]

theorem fate_eq (h : Ledger start place collection done (photo :: rest) result state)
    (htreats : Treats place done.length collection photo state fate after) :
    fate = start.fateAfter collection done photo := by
  rw [htreats.fate_eq, h.grants_eq, fateAfter]

/-- **One photo's turn.** -/
theorem treat (h : Ledger start place collection done (photo :: rest) result state)
    (htreats : Treats place done.length collection photo state fate after) :
    Ledger start place collection (done ++ [photo]) rest (countFate result fate) after := by
  have hfate := h.fate_eq htreats
  have hcount : (done ++ [photo]).countP collection.isPending =
      done.countP collection.isPending + if collection.isPending photo then 1 else 0 := by
    rw [List.countP_append, List.countP_singleton]
  constructor
  case photos => rw [h.photos, List.append_assoc, List.singleton_append]
  case total => exact h.total
  case processed =>
    simp only [countFate, h.processed, List.length_append, List.length_singleton]
    omega
  case converted =>
    simp only [countFate, h.converted, inTurn_concat, List.count_append, List.count_singleton, ← hfate]
    cases fate <;> rfl
  case failed =>
    simp only [countFate, h.failed, inTurn_concat, List.count_append, List.count_singleton, ← hfate]
    cases fate <;> rfl
  case counted =>
    have hcounted := h.counted
    have hnew := htreats.counts_eq
    simp only [countFate, hcount]
    omega
  case access =>
    rw [htreats.access_eq, hcount]
    cases collection.isPending photo with
    | false => exact h.access
    | true =>
      simp only [if_true, List.replicate_succ', WriteAccess.requested, h.access, List.append_assoc]
  case clock =>
    rw [htreats.clock_eq, hcount, h.grants_eq, h.clock]
    cases collection.isPending photo with
    | false => rfl
    | true =>
      rw [if_pos rfl, clockAfter_succ, Bool.true_and]
  case catalog =>
    rw [inTurn_concat, List.append_assoc, List.singleton_append, treatedAfter, ← hfate]
    rcases htreats.catalog_eq with ⟨hconverted, second, hsecond, hcatalog⟩ | ⟨hne, hcatalog⟩
    · -- The photo stands behind those that had their turn, so its place is their number.
      have hreading : (start.readingAfter collection done).truncate? = some second := by
        rw [readingAfter, ← h.clock, hsecond]
      have hlink := modify_length_append
        (fun photo : PublishedPhoto =>
          { photo with url := some (Backlink.link collection.identifier second) })
        (inTurn (start.treatedAfter collection) done) photo rest
      rw [length_inTurn] at hlink
      rw [hcatalog, if_pos hconverted, hreading, Option.map_some, ← hlink]
      simp only [relinked, h.catalog]
      exact List.modify_modify_eq _ _ _ _
    · rw [hcatalog, if_neg hne, h.catalog]
  case readable =>
    -- The photo had its turn before, or it is the last one.
    intro before photo' behind hdone hconverted
    rcases List.eq_nil_or_concat behind with rfl | ⟨behind, last, rfl⟩
    · obtain ⟨rfl, hphoto⟩ := List.append_inj' hdone rfl
      obtain rfl := List.singleton_inj.1 hphoto
      rcases htreats.catalog_eq with ⟨-, second, hsecond, -⟩ | ⟨hne, -⟩
      · exact ⟨second, by rw [readingAfter, ← h.clock, hsecond]⟩
      · exact absurd (hfate.trans hconverted) hne
    · rw [List.concat_eq_append, ← List.cons_append, ← List.append_assoc] at hdone
      exact h.readable before photo' behind (List.append_inj_left' hdone rfl) hconverted

end Ledger

/-! ## Progress -/

/-- The reports after the first photos, one after each. -/
def reportsUpTo (total done : Nat) : List (Nat × Nat) :=
  (List.range done).map fun i => (i + 1, total)

/-- The scope of the collection is the last one and has a report for each photo that had its turn. -/
structure Reported (start : Conversion) (title : Text) (total done : Nat) (state : Conversion) :
    Prop where
  scopes : ∃ portion, state.scopes =
    start.scopes ++ [⟨{ title := .text title, portion := portion }, reportsUpTo total done⟩]
  cancelAfter : state.cancelAfter = start.cancelAfter

variable {title : Text} {total index : Nat}

theorem Reported.isCancelled_run (h : Reported start title total index state) :
    (isCancelled start.scopes.length).run.run state =
      (.ok (start.cancels start.scopes.length index), state) := by
  obtain ⟨portion, hscopes⟩ := h.scopes
  rw [isCancelled, run_bind_ok (run_get state), hscopes, List.getElem?_concat_length,
    h.cancelAfter, cancels]
  cases start.cancelAfter start.scopes.length with
  | none => rfl
  | some bound =>
    simp only [Option.any_some, reportsUpTo, List.length_map, List.length_range]
    rfl

theorem report_ok {number done total : Nat}
    (h : (report number done total).run.run state = (.ok (), after)) :
    ∃ portion, after = { state with
      scopes := state.scopes.modify number fun record =>
        { scope := { record.scope with portion := portion }
          reports := record.reports ++ [(done, total)] } } := by
  obtain ⟨portion, mid, hportion, hchange⟩ := exists_of_run_bind_ok h
  obtain ⟨-, rfl⟩ := eq_of_ofExcept_run_ok hportion
  exact ⟨portion, (Prod.mk.inj ((changeScope_run _ _ _).symm.trans hchange)).2.symm⟩

theorem Reported.report (h : Reported start title total index state)
    (hreport : (report start.scopes.length (index + 1) total).run.run state = (.ok (), after)) :
    Reported start title total (index + 1) after := by
  obtain ⟨portion, hscopes⟩ := h.scopes
  obtain ⟨portion', rfl⟩ := report_ok hreport
  refine ⟨⟨portion', ?_⟩, h.cancelAfter⟩
  rw [hscopes, modify_length_append]
  simp only [reportsUpTo, List.range_succ, List.map_append, List.map_singleton]

/-! ## The loop -/

/-- Reports and log records are not in the ledger. -/
theorem Ledger.of_eq (h : Ledger start place collection done rest result state)
    (haccess : after.access = state.access) (hclock : after.clock = state.clock)
    (hcatalog : after.catalog = state.catalog) :
    Ledger start place collection done rest result after :=
  { h with
    access := haccess.trans h.access
    clock := hclock.trans h.clock
    catalog := hcatalog.trans h.catalog }

/-- Where the loop stops: at the end, or before the first photo at which the scope is cancelled. -/
structure StopsAt (start : Conversion) (first total processed : Nat) : Prop where
  le : processed ≤ total
  notBefore : ∀ k, first ≤ k → k < processed → start.cancels start.scopes.length k = false
  cancelled : processed < total → start.cancels start.scopes.length processed = true

/-- **The loop over the photos keeps the books.** -/
theorem convertPhotos_ledger {result' : ConversionResult}
    (hledger : Ledger start place collection done rest result state)
    (hreported : Reported start title collection.photos.length done.length state)
    (h : (convertPhotos place start.scopes.length collection done.length rest result).run.run state =
      (.ok result', after)) :
    ∃ done' rest', StopsAt start done.length collection.photos.length done'.length ∧
      Ledger start place collection done' rest' result' after ∧
      Reported start title collection.photos.length done'.length after := by
  -- On the photos to come; the ledger and the reports of those that had their turn go on with each.
  induction rest generalizing done result state with
  | nil =>
    obtain ⟨hresult, rfl⟩ := Prod.mk.inj h
    obtain rfl := Except.ok.inj hresult
    have hlength : collection.photos.length = done.length := by
      rw [hledger.photos, List.append_nil]
    refine ⟨done, [], ⟨?_, ?_, ?_⟩, hledger, hreported⟩
    · omega
    · omega
    · omega
  | cons photo rest ih =>
    rw [convertPhotos, run_bind_ok hreported.isCancelled_run] at h
    have hlength : collection.photos.length = done.length + (rest.length + 1) := by
      rw [hledger.photos, List.length_append, List.length_cons]
    cases hcancels : start.cancels start.scopes.length done.length with
    | true =>
      rw [hcancels, if_pos rfl, run_bind_ok (write_run _ _ _)] at h
      obtain ⟨hresult, rfl⟩ := Prod.mk.inj h
      obtain rfl := Except.ok.inj hresult
      refine ⟨done, photo :: rest, ⟨?_, ?_, fun _ => hcancels⟩, hledger.of_eq rfl rfl rfl,
        ⟨hreported.scopes, hreported.cancelAfter⟩⟩
      · omega
      · omega
    | false =>
      rw [hcancels, if_neg Bool.false_ne_true] at h
      obtain ⟨fate, mid, hconvert, h⟩ := exists_of_run_bind_ok h
      obtain ⟨⟨⟩, last, hreport, h⟩ := exists_of_run_bind_ok h
      have htreats := convertPhoto_treats hconvert
      have hmid := hledger.treat htreats
      have hscopes : Reported start title collection.photos.length done.length mid := by
        obtain ⟨hscopes, hcancel⟩ := htreats.progress_eq
        exact ⟨hscopes ▸ hreported.scopes, hcancel.trans hreported.cancelAfter⟩
      have hlast := hscopes.report hreport
      have hnext : Ledger start place collection (done ++ [photo]) rest (countFate result fate)
          last := by
        obtain ⟨portion, rfl⟩ := report_ok hreport
        exact hmid.of_eq rfl rfl rfl
      have hone : (done ++ [photo]).length = done.length + 1 := by
        rw [List.length_append, List.length_singleton]
      rw [← hone] at hlast h
      obtain ⟨done', rest', hstops, hledger', hreported'⟩ := ih hnext hlast h
      refine ⟨done', rest', ⟨hstops.le, fun k hfirst hk => ?_, hstops.cancelled⟩, hledger',
        hreported'⟩
      rcases Nat.eq_or_lt_of_le hfirst with rfl | hlt
      · exact hcancels
      · exact hstops.notBefore k (hone ▸ hlt) hk

/-! ## A collection -/

/-- The photos of the collection at a place of the catalog. -/
def photosAt (state : Conversion) (place : Nat) : List PublishedPhoto :=
  (state.catalog.getD place default).photos

/-- The title of the scope of a collection. -/
def scopeTitle (collection : PublishedCollection) : Text :=
  "Converting collection '".toList ++ collection.name.display ++ ['\'']

/-- The books of a conversion that returned when some photos had had their turn and the rest had not. -/
structure Account (start finish : Conversion) (place : Nat) (collection : PublishedCollection)
    (done rest : List PublishedPhoto) (result : ConversionResult) : Prop where
  photos : collection.photos = done ++ rest
  total : result.photos = collection.photos.length
  processed : result.processed = done.length
  /-- The run stops at the end, or at the first poll that reports cancellation. -/
  stops : StopsAt start 0 collection.photos.length done.length
  converted : result.converted = (inTurn (start.fateAfter collection) done).count .converted
  failed : result.failed = (inTurn (start.fateAfter collection) done).count .failed
  /-- Each photo without a backlink was converted or failed. -/
  counted : result.converted + result.failed = done.countP collection.isPending
  /-- Each of them took one transaction. -/
  access : finish.access =
    { start.access with
      requests := start.access.requests ++
        List.replicate (done.countP collection.isPending) backlinkTransaction }
  /-- Each transaction that was granted read the clock once. -/
  clock : finish.clock =
    Clock.tick^[(List.range (done.countP collection.isPending)).countP start.grants] start.clock
  /-- A converted photo has its link to the second that the clock showed. -/
  linked : ∀ before photo behind, done = before ++ photo :: behind →
    start.fateAfter collection before photo = .converted →
      ∃ second, (start.readingAfter collection before).truncate? = some second ∧
        (finish.photosAt place)[before.length]? =
          some { photo with url := some (Backlink.link collection.identifier second) }
  /-- A photo that failed or had a backlink is as it was. -/
  kept : ∀ before photo behind, done = before ++ photo :: behind →
    start.fateAfter collection before photo ≠ .converted →
      (finish.photosAt place)[before.length]? = some photo
  /-- So are the photos that were not reached, and all other collections. -/
  unreached : (finish.photosAt place).drop done.length = rest
  elsewhere : ∀ other, other ≠ place → finish.catalog[other]? = start.catalog[other]?
  /-- The scope got a report after each photo, and it is finished. -/
  scopes : ∃ portion, finish.scopes = start.scopes ++
    [⟨{ title := .text (scopeTitle collection), portion := portion, finished := true },
      (List.range done.length).map fun i => (i + 1, collection.photos.length)⟩]

theorem photosAt_of_catalog {photos : List PublishedPhoto}
    (hlength : photos.length = (start.photosAt place).length)
    (h : after.catalog = start.catalog.modify place fun entry => { entry with photos := photos }) :
    after.photosAt place = photos := by
  unfold photosAt at hlength ⊢
  rw [List.getD_eq_getElem?_getD] at hlength ⊢
  rw [h, List.getElem?_modify]
  cases hentry : start.catalog[place]? with
  | some entry => simp
  | none =>
    rw [hentry] at hlength
    exact (List.eq_nil_of_length_eq_zero hlength).symm

/-- Before the first photo nothing has happened. -/
theorem ledger_withNewScope (start : Conversion) (place : Nat) (title : Text) :
    Ledger start place (start.catalog.getD place default) []
      (start.catalog.getD place default).photos
      { photos := (start.catalog.getD place default).photos.length } (start.withNewScope title) where
  photos := rfl
  total := rfl
  processed := rfl
  converted := rfl
  failed := rfl
  counted := rfl
  access := by
    simp only [withNewScope, List.countP_nil, List.replicate_zero, List.append_nil]
  clock := rfl
  catalog := (modify_eq_self_of_getD rfl).symm
  readable := by
    intro before photo behind hdone
    cases before <;> cases hdone

theorem Ledger.photosAt_eq
    (h : Ledger start place (start.catalog.getD place default) done rest result state) :
    state.photosAt place =
      inTurn (start.treatedAfter (start.catalog.getD place default)) done ++ rest := by
  refine photosAt_of_catalog ?_ h.catalog
  rw [List.length_append, length_inTurn, photosAt, h.photos, List.length_append]

/-- When the scope is finished, the books are closed. -/
theorem Ledger.account
    (h : Ledger start place (start.catalog.getD place default) done rest result state)
    (hstops : StopsAt start 0 (start.catalog.getD place default).photos.length done.length)
    (hreported : Reported start (scopeTitle (start.catalog.getD place default))
      (start.catalog.getD place default).photos.length done.length state) :
    Account start (state.withFinished start.scopes.length) place
      (start.catalog.getD place default) done rest result where
  photos := h.photos
  total := h.total
  processed := h.processed
  stops := hstops
  converted := h.converted
  failed := h.failed
  counted := h.counted
  access := h.access
  clock := h.clock
  linked := by
    intro before photo behind hdone hconverted
    obtain ⟨second, hsecond⟩ := h.readable before photo behind hdone hconverted
    refine ⟨second, hsecond, ?_⟩
    change (state.photosAt place)[before.length]? = _
    rw [h.photosAt_eq, hdone, getElem?_inTurn_append, treatedAfter, if_pos hconverted, hsecond,
      Option.map_some]
  kept := by
    intro before photo behind hdone hkept
    change (state.photosAt place)[before.length]? = _
    rw [h.photosAt_eq, hdone, getElem?_inTurn_append, treatedAfter, if_neg hkept]
  unreached := by
    change (state.photosAt place).drop done.length = rest
    rw [h.photosAt_eq, ← length_inTurn (start.treatedAfter (start.catalog.getD place default)) done,
      List.drop_left]
  elsewhere := by
    intro other hother
    change state.catalog[other]? = _
    rw [h.catalog]
    exact List.getElem?_modify_ne _ _ hother.symm
  scopes := by
    obtain ⟨portion, hscopes⟩ := hreported.scopes
    refine ⟨portion, ?_⟩
    simp only [withFinished, hscopes, modify_length_append]
    rfl

/-- Where a conversion has stopped; of the scopes only its own one is new. -/
structure Halted (start : Conversion) (place : Nat) (result : ConversionResult) (finish : Conversion) :
    Prop where
  photos : result.photos = (start.photosAt place).length
  stops : ∃ processed : Nat, result.processed = processed ∧
    StopsAt start 0 (start.photosAt place).length processed
  scopes : ∃ record, finish.scopes = start.scopes ++ [record]
  cancelAfter : finish.cancelAfter = start.cancelAfter

theorem convertCollection_halted
    (h : (convertCollection place).run.run start = (.ok result, after)) :
    Halted start place result after := by
  have hrun := (run_bind_ok (run_get start)).symm.trans h
  rw [withScope_run] at hrun
  obtain ⟨hresult, rfl⟩ := Prod.mk.inj hrun
  obtain ⟨done, rest, hstops, hledger, hreported⟩ :=
    convertPhotos_ledger (ledger_withNewScope start place (scopeTitle (start.catalog.getD place default)))
      ⟨⟨_, rfl⟩, rfl⟩ (Prod.ext hresult rfl)
  obtain ⟨portion, hscopes⟩ := hreported.scopes
  constructor
  case photos => exact hledger.total
  case stops => exact ⟨done.length, hledger.processed, hstops⟩
  case scopes =>
    have hfinished := congrArg (fun scopes : List ScopeRecord =>
      scopes.modify start.scopes.length fun record =>
        { record with scope := record.scope.finish }) hscopes
    rw [modify_length_append] at hfinished
    exact ⟨_, hfinished⟩
  case cancelAfter => exact hreported.cancelAfter

/-- **The books of a conversion.** -/
theorem convertCollection_accounts
    (h : (convertCollection place).run.run start = (.ok result, after)) :
    ∃ done rest, Account start after place (start.catalog.getD place default) done rest result := by
  have hrun := (run_bind_ok (run_get start)).symm.trans h
  rw [withScope_run] at hrun
  obtain ⟨hresult, rfl⟩ := Prod.mk.inj hrun
  have hreported : Reported start (scopeTitle (start.catalog.getD place default))
      (start.catalog.getD place default).photos.length 0
      (start.withNewScope (scopeTitle (start.catalog.getD place default))) :=
    ⟨⟨_, rfl⟩, rfl⟩
  obtain ⟨done, rest, hstops, hledger, hreported'⟩ :=
    convertPhotos_ledger (ledger_withNewScope start place _) hreported (Prod.ext hresult rfl)
  exact ⟨done, rest, hledger.account hstops hreported'⟩

/-- Six photos: the first has its backlink, the second transaction and the URL of the fourth photo are
refused, and the run is cancelled before the last. -/
def mixedRun : Conversion where
  catalog := [{
    name := .text "Album".toList
    identifier := .whole 3
    photos := [{ url := some "3".toList }, { url := some "2/2".toList }, {},
      { url := some "4/4".toList, refusal := some .general }, { url := some [] },
      { url := some "9/9".toList }] }]
  clock := {
    now := Binary64.ofInt 1600000000
    later := [Binary64.ofInt 1600000100, Binary64.ofInt 1600000200] }
  access := { refusals := fun number => if number = 1 then some .writeTimeout else none }
  cancelAfter := fun scope => if scope = 0 then some 5 else none

/-- A run with every fate a photo can have, that is cancelled. -/
theorem convertCollection_accounts_mixed :
    ∃ finish, (convertCollection 0).run.run mixedRun = (.ok ⟨6, 5, 2, 2⟩, finish) ∧
      ∃ done rest, Account mixedRun finish 0 (mixedRun.catalog.getD 0 default) done rest
        ⟨6, 5, 2, 2⟩ := by
  have hresult : ((convertCollection 0).run.run mixedRun).1.toOption = some ⟨6, 5, 2, 2⟩ := by
    decide +kernel
  have hrun := run_eq_of_toOption hresult
  exact ⟨_, hrun, convertCollection_accounts hrun⟩

end Conversion

end PhotoPublish
