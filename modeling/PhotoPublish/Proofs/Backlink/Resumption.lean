import PhotoPublish.Proofs.Backlink.Coverage
import PhotoPublish.Proofs.Backlink.Recognition
import PhotoPublish.Proofs.Number.Numeral

/-!
# Running a conversion again

What a run writes is a backlink (`Backlink.isOf_link`), and a photo that fails, or is not reached, stays as it
is. So a photo is without a backlink after a run exactly if it failed in it, or had none and was not reached
(`isPendingAt_after`), and a second run takes these photos and no others.

* `convertAll_resumes`: what a second run does after a first one that returned.
-/

set_option autoImplicit false

namespace PhotoPublish

namespace Backlink

/-- **A link that is made is recognised.** -/
theorem isOf_link (n : Nat) (second : Int) :
    isOf (.whole n) (some (link (.whole n) second)) = true := by
  refine (isOf_iff n _).2 ⟨[], '/' :: Numeral.ofInt second, rfl, nofun, ?_, ?_⟩
  · exact fun c hc => isDecimal_of_isDigit (Numeral.isDigit_of_mem_ofNat hc)
  · intro c hc
    obtain rfl : '/' = c := Option.some.inj hc
    decide

end Backlink

namespace Conversion

variable {place : Nat} {position : Nat × Nat} {services : List (Folder Nat)}
  {start finish again last state after : Conversion} {first second summary : ConversionSummary}
  {turns : List Turn} {turn : Turn}

/-! ## Links -/

/-- What links the photos: the identifiers of the collections and the URLs of their photos. -/
def links (state : Conversion) : List (Value × List (Option Text)) :=
  state.catalog.map fun collection => (collection.identifier, collection.photos.map (·.url))

/-- Whether there is a photo without a backlink at a position of the catalog. -/
def isPendingAt (state : Conversion) (position : Nat × Nat) : Bool :=
  (state.photoAt? position).any (state.collectionAt position.1).isPending

theorem links_getD (state : Conversion) (place : Nat) :
    state.links.getD place (.null, []) =
      ((state.collectionAt place).identifier, (state.photosAt place).map (·.url)) := by
  rw [links, collectionAt, photosAt, List.getD_eq_getElem?_getD, List.getD_eq_getElem?_getD,
    List.getElem?_map]
  cases state.catalog[place]? <;> rfl

section Links

variable (hlinks : again.links = state.links)
include hlinks

theorem identifier_of_links (place : Nat) :
    (again.collectionAt place).identifier = (state.collectionAt place).identifier := by
  have hplace := congrArg (·.getD place (.null, [])) hlinks
  simp only [links_getD] at hplace
  exact (Prod.mk.inj hplace).1

theorem urls_of_links (place : Nat) :
    (again.photosAt place).map (·.url) = (state.photosAt place).map (·.url) := by
  have hplace := congrArg (·.getD place (.null, [])) hlinks
  simp only [links_getD] at hplace
  exact (Prod.mk.inj hplace).2

theorem length_of_links (place : Nat) :
    (again.photosAt place).length = (state.photosAt place).length := by
  simpa using congrArg List.length (urls_of_links hlinks place)

theorem url?_of_links (position : Nat × Nat) :
    (again.photoAt? position).map (·.url) = (state.photoAt? position).map (·.url) := by
  simpa [photoAt?] using congrArg (·[position.2]?) (urls_of_links hlinks position.1)

theorem isPendingAt_of_links (position : Nat × Nat) :
    again.isPendingAt position = state.isPendingAt position := by
  have hany (state : Conversion) : state.isPendingAt position =
      ((state.photoAt? position).map (·.url)).any fun url =>
        !Backlink.isOf (state.collectionAt position.1).identifier url := by
    rw [isPendingAt, Option.any_map]
    rfl
  rw [hany, hany, url?_of_links hlinks, identifier_of_links hlinks]

end Links

/-! ## Photos and turns -/

theorem isPending_of_unlinked {collection other : PublishedCollection}
    (h : collection.unlinked = other.unlinked) (photo : PublishedPhoto) :
    collection.isPending photo = other.isPending photo := by
  rw [PublishedCollection.isPending, PublishedCollection.isPending,
    PublishedCollection.identifier_eq_of_unlinked h]

/-- A photo is without a backlink in its turn exactly if it was so before the turns. -/
theorem isPendingAt_turn (hthreads : Threads state turns after)
    (hnodup : (turns.map Turn.position).Nodup) (hmem : turn ∈ turns) (hfaithful : Faithful turn) :
    state.isPendingAt turn.position = turn.collection.isPending turn.photo := by
  have hphoto := (hthreads.photoAt?_turn hmem hnodup).1.symm.trans hfaithful.photo
  have hcollection := hfaithful.collection.trans (hthreads.unlinked_turn hmem turn.place)
  rw [isPendingAt, hphoto, isPending_of_unlinked hcollection]
  rfl

/-- A photo that had its turn is without a backlink afterwards exactly if it failed. -/
theorem isPendingAt_after_turn (hthreads : Threads state turns after)
    (hnodup : (turns.map Turn.position).Nodup) (hmem : turn ∈ turns) (hfaithful : Faithful turn)
    {fate : Fate} (hfate : turn.fate? = some fate) {n : Nat}
    (hidentifier : (state.collectionAt turn.place).identifier = .whole n) :
    after.isPendingAt turn.position = decide (fate = .failed) := by
  have hbefore := hfaithful.collection.trans (hthreads.unlinked_turn hmem turn.place)
  have hafter := (hthreads.photoAt?_turn hmem hnodup).2
  have hnumber : turn.collection.identifier = .whole n :=
    (PublishedCollection.identifier_eq_of_unlinked hbefore).trans hidentifier
  -- The collection asks the same of a photo as it did in the turn.
  have hasks : ∀ photo, after.photoAt? turn.position = some photo →
      after.isPendingAt turn.position = turn.collection.isPending photo := by
    intro photo hphoto
    rw [isPendingAt, hphoto]
    exact isPending_of_unlinked ((hthreads.unlinked_eq turn.place).trans hbefore.symm) photo
  by_cases hconverted : fate = .converted
  · obtain ⟨second, hlink⟩ := turn.photoAt?_of_converted (hconverted ▸ hfate)
    rw [hfaithful.photo] at hlink
    rw [hasks _ (hafter.trans hlink), PublishedCollection.isPending, hnumber, Backlink.isOf_link,
      hconverted]
    rfl
  · have hsame := turn.photoAt?_of_not_converted
      (fun h => hconverted (Option.some.inj (hfate.symm.trans h))) turn.position
    rw [hasks _ ((hafter.trans hsame).trans hfaithful.photo)]
    cases hpending : turn.collection.isPending turn.photo with
    | false =>
      rw [(Turn.kept_iff hfate).2 hpending]
      rfl
    | true =>
      cases fate with
      | kept =>
        rw [(Turn.kept_iff hfate).1 rfl] at hpending
        cases hpending
      | converted => exact absurd rfl hconverted
      | failed => rfl

/-- In a run that takes no photo twice, a turn is known by its position. -/
theorem contains_position_iff {p : Turn → Bool} (hnodup : (turns.map Turn.position).Nodup)
    (hmem : turn ∈ turns) :
    ((turns.filter p).map Turn.position).contains turn.position = p turn := by
  refine Bool.eq_iff_iff.2 ?_
  rw [List.contains_iff_mem, List.mem_map]
  constructor
  · rintro ⟨turn', hmem', hposition⟩
    obtain ⟨hmem', hp⟩ := List.mem_filter.1 hmem'
    exact List.inj_on_of_nodup_map hnodup hmem' hmem hposition ▸ hp
  · exact fun hp => ⟨turn, List.mem_filter.2 ⟨hmem, hp⟩, rfl⟩

/-! ## Runs -/

section Positions

variable (services : List (Folder Nat)) (start : Conversion)

/-- The positions of the photos that a run reaches. -/
def reached : List (Nat × Nat) :=
  (start.turns services).map Turn.position

/-- The positions of the photos that fail in a run. -/
def failed : List (Nat × Nat) :=
  ((start.turns services).filter fun turn => turn.fate? = some .failed).map Turn.position

/-- The positions of the photos for which a run opens transactions. -/
def opened : List (Nat × Nat) :=
  ((start.turns services).filter Turn.opens).map Turn.position

end Positions

/-- A run that is not cancelled and returns counts all photos. -/
theorem allCourse_photos (hfree : ∀ scope, start.cancelAfter scope = none)
    (hreturns : (start.allCourse services).outcome = .ok summary) :
    summary.photos = (start.positions services).length := by
  have hprepared : ∀ scope,
      ((start.prepared services).withNewScope overallTitle).cancelAfter scope = none := hfree
  exact (collectionsCourse_photos hprepared hreturns).trans (Int.zero_add _)

section Run

variable (hnodup : (placesOf services).Nodup)
include hnodup

theorem nodup_reached (start : Conversion) : (start.reached services).Nodup :=
  (nodup_positionsIn _ hnodup).sublist collectionsCourse_positions

/-- **The photos without a backlink after a run** are those that failed, and those that were so before and
were not reached. -/
theorem isPendingAt_after (hfated : AllFated (start.turns services))
    (hidentifiers : ∀ place ∈ placesOf services,
      ∃ n : Nat, (start.collectionAt place).identifier = .whole n)
    (hafter : after.catalog = (start.allCourse services).state.catalog) (position : Nat × Nat) :
    after.isPendingAt position =
      ((start.failed services).contains position ||
        (!(start.reached services).contains position && start.isPendingAt position)) := by
  have hthreads : Threads start (start.turns services) (start.allCourse services).state :=
    allCourse_threads
  have hreached := nodup_reached hnodup start
  have hsame : after.isPendingAt position = (start.allCourse services).state.isPendingAt position := by
    rw [isPendingAt, isPendingAt, photoAt?_of_catalog hafter, collectionAt_of_catalog hafter]
  rw [hsame]
  by_cases hmem : position ∈ start.reached services
  · obtain ⟨turn, hturn, rfl⟩ := List.mem_map.1 hmem
    obtain ⟨fate, hfate⟩ := hfated turn hturn
    have hplace : turn.place ∈ placesOf services := by
      obtain ⟨place, hplace, hposition⟩ := List.mem_flatMap.1
        (collectionsCourse_positions.subset hmem)
      rw [show turn.place = place from (mem_stretch.1 hposition).1]
      exact hplace
    obtain ⟨n, hidentifier⟩ := hidentifiers turn.place hplace
    rw [isPendingAt_after_turn hthreads hreached hturn (collectionsCourse_faithful turn hturn) hfate
      hidentifier, failed, contains_position_iff hreached hturn, List.contains_iff_mem.2 hmem, hfate]
    simp
  · have hnotFailed : (start.failed services).contains position = false := by
      refine Bool.eq_false_iff.2 fun hfailed => hmem ?_
      exact (List.filter_sublist.map Turn.position).subset (List.contains_iff_mem.1 hfailed)
    have hnotReached : (start.reached services).contains position = false :=
      Bool.eq_false_iff.2 fun h => hmem (List.contains_iff_mem.1 h)
    rw [hnotFailed, hnotReached, isPendingAt, hthreads.photoAt?_eq hmem]
    rw [funext (isPending_of_unlinked (hthreads.unlinked_eq position.1))]
    rfl

/-- **What a run takes** that is not cancelled and returns: the photos without a backlink. -/
theorem opened_eq (hfree : ∀ scope, start.cancelAfter scope = none)
    (hreturns : (start.allCourse services).outcome = .ok summary) :
    start.opened services = (start.positions services).filter start.isPendingAt := by
  have hthreads : Threads start (start.turns services) (start.allCourse services).state :=
    allCourse_threads
  have hfated : AllFated (start.turns services) := (collectionsCourse_summed hreturns).fated
  have hcomplete : (start.turns services).map Turn.position = start.positions services :=
    collectionsCourse_complete hfree hreturns
  rw [← hcomplete, List.filter_map, opened]
  refine congrArg (List.map Turn.position) (List.filter_congr fun turn hmem => ?_)
  obtain ⟨fate, hfate⟩ := hfated turn hmem
  rw [Turn.opens_eq hfate]
  exact (isPendingAt_turn hthreads (nodup_reached hnodup start) hmem
    (collectionsCourse_faithful turn hmem)).symm

end Run

/-- A turn without a transaction leaves its photo as it is. -/
theorem kept_of_not_opens {fate : Fate} (hfate : turn.fate? = some fate) (hopens : turn.opens = false) :
    fate = .kept :=
  (Turn.kept_iff hfate).2 ((Turn.opens_eq hfate).symm.trans hopens)

/-- A photo for which no transaction is opened stays as it is. -/
theorem photoAt?_of_not_opened (hthreads : Threads state turns after) (hfated : AllFated turns)
    (hnodup : (turns.map Turn.position).Nodup)
    (hnone : position ∉ (turns.filter Turn.opens).map Turn.position) :
    after.photoAt? position = state.photoAt? position := by
  by_cases hmem : position ∈ turns.map Turn.position
  · obtain ⟨turn, hturn, rfl⟩ := List.mem_map.1 hmem
    obtain ⟨fate, hfate⟩ := hfated turn hturn
    have hopens : turn.opens = false := by
      rw [← contains_position_iff (p := Turn.opens) hnodup hturn]
      exact Bool.eq_false_iff.2 fun h => hnone (List.contains_iff_mem.1 h)
    obtain rfl := kept_of_not_opens hfate hopens
    obtain ⟨hbefore, hafter⟩ := hthreads.photoAt?_turn hturn hnodup
    rw [hafter, turn.photoAt?_of_not_converted (by rw [hfate]; decide), hbefore]
  · exact hthreads.photoAt?_eq hmem

theorem tally_eq_zero_iff {fate : Fate} :
    tally turns fate = 0 ↔ (turns.filter fun turn => turn.fate? = some fate) = [] := by
  rw [tally, List.countP_eq_length_filter, List.length_eq_zero_iff]

/-- Without transactions all photos that are reached are kept. -/
theorem kept_of_opened_nil (hfated : AllFated turns)
    (hnone : (turns.filter Turn.opens).map Turn.position = []) :
    ∀ turn ∈ turns, turn.fate? = some .kept := by
  intro turn hmem
  obtain ⟨fate, hfate⟩ := hfated turn hmem
  have hopens : turn.opens = false := by
    have hnot := List.filter_eq_nil_iff.1 (List.map_eq_nil_iff.1 hnone) turn hmem
    exact Bool.eq_false_iff.2 hnot
  rw [hfate, kept_of_not_opens hfate hopens]

theorem tally_of_kept (hkept : ∀ turn ∈ turns, turn.fate? = some .kept) {fate : Fate}
    (hne : fate ≠ .kept) : tally turns fate = 0 := by
  rw [tally, List.countP_eq_zero]
  intro turn hmem hfate
  rw [hkept turn hmem, decide_eq_true_eq] at hfate
  exact hne (Option.some.inj hfate).symm

/-- What a run does after another one. -/
structure Resumes (services : List (Folder Nat)) (start again last : Conversion)
    (first second : ConversionSummary) : Prop where
  /-- It opens transactions for the photos that failed, and for those that were not reached and had no
  backlink. -/
  opened : again.opened services = (start.positions services).filter fun position =>
    (start.failed services).contains position ||
      (!(start.reached services).contains position && start.isPendingAt position)
  access : last.access =
    { again.access with
      requests := again.access.requests ++
        List.replicate (again.opened services).length backlinkTransaction }
  /-- The URLs of all other photos stay. -/
  kept : ∀ position, position ∉ again.opened services → last.urlAt position = again.urlAt position
  /-- After a run without failures that was not cancelled there is nothing to do. -/
  idle : (∀ scope, start.cancelAfter scope = none) → first.failed = 0 →
    last.access = again.access ∧ last.catalog = again.catalog ∧ second.converted = 0 ∧
      second.failed = 0 ∧ second.photos = first.photos ∧ second.processed = first.processed

/-- **A conversion can be resumed.** -/
theorem convertAll_resumes (hnodup : (placesOf services).Nodup)
    (hidentifiers : ∀ place ∈ placesOf services,
      ∃ n : Nat, (start.collectionAt place).identifier = .whole n)
    (hfirst : (convertAll services).run.run start = (.ok first, finish))
    (hlinks : again.links = finish.links)
    (hfree : ∀ scope, again.cancelAfter scope = none)
    (hsecond : (convertAll services).run.run again = (.ok second, last)) :
    Resumes services start again last first second := by
  obtain ⟨first', hfirst', ⟨elapsed, rfl⟩, hfinish⟩ := convertAll_ok hfirst
  obtain ⟨second', hsecond', ⟨elapsed', rfl⟩, hlast⟩ := convertAll_ok hsecond
  have hsummed : Summed (start.turns services) _ first' := collectionsCourse_summed hfirst'
  have hsummed' : Summed (again.turns services) _ second' := collectionsCourse_summed hsecond'
  have hthreads : Threads again (again.turns services) last :=
    allCourse_threads.trans_sameBooks hlast
  have hcomplete : again.reached services = again.positions services :=
    collectionsCourse_complete hfree hsecond'
  have hpositions : again.positions services = start.positions services := by
    refine positionsIn_congr (fun place => ?_) _
    rw [length_of_links hlinks]
    exact (allCourse_threads.trans_sameBooks hfinish).length_photosAt place
  have hpending := isPendingAt_after hnodup hsummed.fated hidentifiers hfinish.catalog
  have hopened : again.opened services = (start.positions services).filter fun position =>
      (start.failed services).contains position ||
        (!(start.reached services).contains position && start.isPendingAt position) := by
    rw [opened_eq hnodup hfree hsecond', hpositions]
    refine List.filter_congr fun position _ => ?_
    rw [isPendingAt_of_links hlinks, hpending]
  have hcount : (again.turns services).countP Turn.opens = (again.opened services).length := by
    rw [opened, List.length_map, List.countP_eq_length_filter]
  constructor
  case opened => exact hopened
  case access => rw [hthreads.access_eq, hcount]
  case kept =>
    intro position hnone
    exact congrArg (·.bind (·.url)) (photoAt?_of_not_opened hthreads hsummed'.fated
      (nodup_reached hnodup again) hnone)
  case idle =>
    intro hfree' hfailed
    have hcomplete' : start.reached services = start.positions services :=
      collectionsCourse_complete hfree' hfirst'
    have hnoneFailed : start.failed services = [] := by
      have htally := hsummed.failed.symm.trans hfailed
      rw [failed, tally_eq_zero_iff.1 (by simpa using htally), List.map_nil]
    have hnone : again.opened services = [] := by
      rw [hopened, hnoneFailed, hcomplete']
      exact List.filter_eq_nil_iff.2 fun position hmem => by simp [hmem]
    have hkept := kept_of_opened_nil hsummed'.fated hnone
    refine ⟨?_, ?_, ?_, ?_, ?_, ?_⟩
    · rw [hthreads.access_eq, hcount, hnone, List.length_nil, List.replicate_zero, List.append_nil]
    · exact hthreads.catalog_eq fun turn hmem => by rw [hkept turn hmem]; decide
    · rw [hsummed'.converted, tally_of_kept hkept (by decide)]
      rfl
    · rw [hsummed'.failed, tally_of_kept hkept (by decide)]
      rfl
    · have hphotos := allCourse_photos hfree hsecond'
      have hphotos' := allCourse_photos hfree' hfirst'
      exact hphotos.trans ((congrArg (fun list => (list.length : Int)) hpositions).trans
        hphotos'.symm)
    · have hlength : (again.turns services).length = (start.turns services).length := by
        have heq := congrArg List.length (hcomplete.trans (hpositions.trans hcomplete'.symm))
        rwa [reached, reached, List.length_map, List.length_map] at heq
      rw [hsummed'.processed, hsummed.processed, hlength]

/-- In the first collection a transaction is refused; the second one is cancelled after one photo. -/
def interruptedRun : Conversion where
  catalog := [
    { identifier := .whole 3
      photos := [{ url := some "3/1".toList }, {}, { url := some "2/2".toList }] },
    { identifier := .whole 12, photos := [{}, {}, { url := some "12".toList }] }]
  clock := { now := Binary64.ofInt 1600000000 }
  access := { refusals := fun number => if number = 0 then some .writeTimeout else none }
  cancelAfter := fun scope => if scope = 2 then some 1 else none

/-- Two photos are left to the second run: the one that failed, and the one that was not reached. -/
theorem convertAll_resumes_interrupted :
    ∃ first finish second last,
      (convertAll nestedServices).run.run interruptedRun = (.ok first, finish) ∧
        (convertAll nestedServices).run.run
            { finish with access := {}, cancelAfter := fun _ => none } = (.ok second, last) ∧
        Resumes nestedServices interruptedRun
          { finish with access := {}, cancelAfter := fun _ => none } last first second ∧
        opened nestedServices { finish with access := {}, cancelAfter := fun _ => none } =
          [(0, 1), (1, 1)] := by
  have hfirst : ((convertAll nestedServices).run.run interruptedRun).1.toOption.isSome = true := by
    decide +kernel
  obtain ⟨first, hfirst⟩ := Option.isSome_iff_exists.1 hfirst
  have hrun := run_eq_of_toOption hfirst
  have hsecond : ((convertAll nestedServices).run.run
      { ((convertAll nestedServices).run.run interruptedRun).2 with
        access := {}, cancelAfter := fun _ => none }).1.toOption.isSome = true := by
    decide +kernel
  obtain ⟨second, hsecond⟩ := Option.isSome_iff_exists.1 hsecond
  have hrun' := run_eq_of_toOption hsecond
  refine ⟨first, _, second, _, hrun, hrun', convertAll_resumes ?_ ?_ hrun rfl (fun _ => rfl) hrun', ?_⟩
  · decide +kernel
  · rw [placesOf_nestedServices]
    intro place hplace
    rcases List.mem_cons.1 hplace with rfl | hplace
    · exact ⟨3, rfl⟩
    · obtain rfl := List.mem_singleton.1 hplace
      exact ⟨12, rfl⟩
  · decide +kernel

end Conversion

end PhotoPublish
