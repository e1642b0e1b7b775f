import PhotoPublish.Proofs.Backlink.Turns

/-!
# Which photos get turns

A run takes the photos in the order of the collections and gives each of them one turn at most.

* `collectionsCourse_positions`, `collectionsCourse_complete`: the photos that get turns; all of them, unless
  the run is cancelled or fails.
* `collectionsCourse_faithful`: a turn has read of the catalog what still stands in it.
* `collectionsCourse_summed`, `collectionsCourse_photos`: the summary counts the turns, and the photos.
-/

set_option autoImplicit false

namespace PhotoPublish

namespace Conversion

variable {place scope index total done : Nat} {collection : PublishedCollection}
  {photos : List PublishedPhoto} {places : List Nat} {result result' : ConversionResult}
  {summary summary' : ConversionSummary} {state after : Conversion} {turns turns' : List Turn}

/-! ## Positions -/

/-- The positions of some photos of a collection, from one on. -/
def stretch (place index count : Nat) : List (Nat × Nat) :=
  (List.range' index count).map fun number => (place, number)

theorem stretch_succ (place index count : Nat) :
    stretch place index (count + 1) = (place, index) :: stretch place (index + 1) count := by
  rw [stretch, List.range'_succ, List.map_cons, stretch]

/-- The positions of the photos in some collections, in the order in which a run takes them. -/
def positionsIn (state : Conversion) (places : List Nat) : List (Nat × Nat) :=
  places.flatMap fun place => stretch place 0 (state.photosAt place).length

/-- The positions of the photos of the services, in the order in which a run takes them. -/
def positions (services : List (Folder Nat)) (state : Conversion) : List (Nat × Nat) :=
  state.positionsIn (placesOf services)

theorem positionsIn_congr (h : ∀ place, (after.photosAt place).length = (state.photosAt place).length)
    (places : List Nat) : after.positionsIn places = state.positionsIn places := by
  simp only [positionsIn, h]

theorem positionsIn_next (place scope done total : Nat) (portion : Binary64) (places : List Nat) :
    ((collectionCourse place state).state.reported scope portion done total).positionsIn places =
      state.positionsIn places :=
  positionsIn_congr (fun place => collectionCourse_threads.length_photosAt place) places

theorem mem_stretch {place index count : Nat} {position : Nat × Nat} :
    position ∈ stretch place index count ↔
      position.1 = place ∧ index ≤ position.2 ∧ position.2 < index + count := by
  obtain ⟨other, number⟩ := position
  simp only [stretch, List.mem_map, List.mem_range'_1, Prod.mk.injEq]
  constructor
  · rintro ⟨_, ⟨hle, hlt⟩, rfl, rfl⟩
    exact ⟨rfl, hle, hlt⟩
  · rintro ⟨rfl, hle, hlt⟩
    exact ⟨number, ⟨hle, hlt⟩, rfl, rfl⟩

/-- No photo comes twice if no collection does. -/
theorem nodup_positionsIn (state : Conversion) (hnodup : places.Nodup) :
    (state.positionsIn places).Nodup := by
  refine List.nodup_flatMap.2 ⟨fun place _ => ?_, hnodup.imp fun hne position hposition hother => ?_⟩
  · exact List.Nodup.map (fun _ _ h => (Prod.mk.inj h).2) List.nodup_range'
  · exact hne ((mem_stretch.1 hposition).1.symm.trans (mem_stretch.1 hother).1)

theorem poll_of_free (h : ∀ scope, state.cancelAfter scope = none) (scope : Nat) :
    state.poll scope = false := by
  rw [poll, h scope]

theorem photosCourse_positions :
    List.Sublist
      ((photosCourse place scope collection index photos result state).turns.map Turn.position)
      (stretch place index photos.length) := by
  fun_induction photosCourse place scope collection index photos result state with
  | case1 => exact List.Sublist.refl _
  | case2 => exact List.nil_sublist _
  | case3 | case4 =>
    rw [List.length_cons, stretch_succ]
    exact (List.nil_sublist _).cons_cons _
  | case5 index photo rest result state hcancelled turn fate houtcome portion hportion ih =>
    rw [List.length_cons, stretch_succ]
    exact ih.cons_cons _

/-- The photos of a collection get their turns one after the other. -/
theorem photosCourse_position : ∀ j turn,
    (photosCourse place scope collection index photos result state).turns[j]? = some turn →
      turn.position = (place, index + j) := by
  fun_induction photosCourse place scope collection index photos result state with
  | case1 | case2 =>
    intro j turn h
    cases h
  | case3 | case4 =>
    intro j turn h
    cases j with
    | zero =>
      obtain rfl := Option.some.inj h
      rfl
    | succ j => cases h
  | case5 index photo rest result state hcancelled first fate houtcome portion hportion ih =>
    intro j turn h
    cases j with
    | zero =>
      obtain rfl := Option.some.inj h
      rfl
    | succ j =>
      rw [ih j turn h]
      exact congrArg (Prod.mk place) (by omega)

theorem collectionCourse_positions :
    List.Sublist ((collectionCourse place state).turns.map Turn.position)
      (stretch place 0 (state.photosAt place).length) :=
  photosCourse_positions

/-- The photos that get turns, in the order of the collections. -/
theorem collectionsCourse_positions :
    List.Sublist
      ((collectionsCourse scope total done places summary state).turns.map Turn.position)
      (state.positionsIn places) := by
  fun_induction collectionsCourse scope total done places summary state with
  | case1 => exact List.Sublist.refl _
  | case2 => exact List.nil_sublist _
  | case3 | case4 =>
    exact collectionCourse_positions.trans (List.sublist_append_left _ _)
  | case5 done place rest summary state hcancelled course result houtcome portion hportion ih =>
    rw [positionsIn_next] at ih
    rw [Course.behind_turns, List.map_append]
    exact collectionCourse_positions.append ih

/-- A run that is not cancelled and returns has come to all photos. -/
theorem photosCourse_complete (hfree : ∀ scope, state.cancelAfter scope = none)
    (hreturns : (photosCourse place scope collection index photos result state).outcome =
      .ok result') :
    (photosCourse place scope collection index photos result state).turns.map Turn.position =
      stretch place index photos.length := by
  fun_induction photosCourse place scope collection index photos result state with
  | case1 => rfl
  | case2 index photo rest result state hcancelled =>
    cases (poll_of_free hfree scope).symm.trans hcancelled
  | case3 => cases hreturns
  | case4 => cases hreturns
  | case5 index photo rest result state hcancelled turn fate houtcome portion hportion ih =>
    have hnext : ∀ scope, turn.after.cancelAfter scope = none := by
      rw [turn.cancelAfter_eq]
      exact hfree
    rw [List.length_cons, stretch_succ, Course.behind_turns, List.map_append, ih hnext hreturns]
    rfl

theorem collectionsCourse_complete (hfree : ∀ scope, state.cancelAfter scope = none)
    (hreturns : (collectionsCourse scope total done places summary state).outcome = .ok summary') :
    (collectionsCourse scope total done places summary state).turns.map Turn.position =
      state.positionsIn places := by
  fun_induction collectionsCourse scope total done places summary state with
  | case1 => rfl
  | case2 done place rest summary state hcancelled =>
    cases (poll_of_free hfree scope).symm.trans hcancelled
  | case3 => cases hreturns
  | case4 => cases hreturns
  | case5 done place rest summary state hcancelled course result houtcome portion hportion ih =>
    have hnext : ∀ scope, course.state.cancelAfter scope = none := by
      rw [collectionCourse_threads.cancelAfter_eq]
      exact hfree
    have hfirst : course.turns.map Turn.position =
        stretch place 0 (state.photosAt place).length :=
      photosCourse_complete hfree houtcome
    rw [positionsIn_next] at ih
    rw [Course.behind_turns, List.map_append, hfirst, ih hnext hreturns]
    rfl

/-! ## What a turn has read -/

/-- What the turn has read of the catalog is what the catalog holds, but for URLs of other photos. -/
structure Faithful (turn : Turn) : Prop where
  photo : turn.before.photoAt? turn.position = some turn.photo
  collection : turn.collection.unlinked = (turn.before.collectionAt turn.place).unlinked

theorem photosCourse_faithful
    (hcollection : collection.unlinked = (state.collectionAt place).unlinked)
    (hphotos : ∀ j, state.photoAt? (place, index + j) = photos[j]?) :
    ∀ turn ∈ (photosCourse place scope collection index photos result state).turns,
      Faithful turn := by
  fun_induction photosCourse place scope collection index photos result state with
  | case1 => exact fun _ hmem => absurd hmem List.not_mem_nil
  | case2 => exact fun _ hmem => absurd hmem List.not_mem_nil
  | case3 | case4 =>
    intro turn hmem
    obtain rfl := List.mem_singleton.1 hmem
    exact ⟨hphotos 0, hcollection⟩
  | case5 index photo rest result state hcancelled first fate houtcome portion hportion ih =>
    intro turn hmem
    rcases List.mem_cons.1 hmem with rfl | hmem
    · exact ⟨hphotos 0, hcollection⟩
    · refine ih (hcollection.trans (first.unlinked_eq place).symm) (fun j => ?_) turn hmem
      have hne : (place, index + 1 + j) ≠ first.position := by
        intro h
        have hindex : index + 1 + j = index := (Prod.mk.inj h).2
        omega
      have hnext := hphotos (j + 1)
      rw [← Nat.add_assoc, Nat.add_right_comm] at hnext
      exact (first.photoAt?_of_ne hne).trans hnext

theorem collectionCourse_faithful : ∀ turn ∈ (collectionCourse place state).turns, Faithful turn :=
  photosCourse_faithful rfl fun j => by rw [Nat.zero_add]; rfl

theorem collectionsCourse_faithful :
    ∀ turn ∈ (collectionsCourse scope total done places summary state).turns, Faithful turn := by
  fun_induction collectionsCourse scope total done places summary state with
  | case1 => exact fun _ hmem => absurd hmem List.not_mem_nil
  | case2 => exact fun _ hmem => absurd hmem List.not_mem_nil
  | case3 => exact collectionCourse_faithful
  | case4 => exact collectionCourse_faithful
  | case5 done place rest summary state hcancelled course result houtcome portion hportion ih =>
    intro turn hmem
    rcases List.mem_append.1 hmem with hmem | hmem
    · exact collectionCourse_faithful turn hmem
    · exact ih turn hmem

/-! ## What the summary counts -/

/-- The turns with some fate. -/
def tally (turns : List Turn) (fate : Fate) : Nat :=
  turns.countP fun turn => turn.fate? = some fate

/-- No turn has ended the run. -/
def AllFated (turns : List Turn) : Prop :=
  ∀ turn ∈ turns, ∃ fate, turn.fate? = some fate

theorem tally_cons (turn : Turn) (turns : List Turn) (fate : Fate) :
    tally (turn :: turns) fate = tally turns fate + if turn.fate? = some fate then 1 else 0 := by
  simp only [tally, List.countP_cons, decide_eq_true_eq]

theorem tally_append (turns turns' : List Turn) (fate : Fate) :
    tally (turns ++ turns') fate = tally turns fate + tally turns' fate :=
  List.countP_append

/-- The counts of a collection go up by what the turns make. -/
structure Tallied (turns : List Turn) (result result' : ConversionResult) : Prop where
  photos : result'.photos = result.photos
  processed : result'.processed = result.processed + turns.length
  converted : result'.converted = result.converted + tally turns .converted
  failed : result'.failed = result.failed + tally turns .failed
  fated : AllFated turns

theorem Tallied.nil (result : ConversionResult) : Tallied [] result result := by
  constructor <;> simp [tally, AllFated]

theorem Tallied.cons {turn : Turn} {fate : Fate} (hfate : turn.fate? = some fate)
    (h : Tallied turns (countFate result fate) result') : Tallied (turn :: turns) result result' where
  photos := h.photos
  processed := by
    have hone : (countFate result fate).processed = result.processed + 1 := rfl
    rw [h.processed, List.length_cons, hone]
    omega
  converted := by
    rw [h.converted, tally_cons, hfate, countFate]
    simp only [Option.some.injEq]
    split <;> omega
  failed := by
    rw [h.failed, tally_cons, hfate, countFate]
    simp only [Option.some.injEq]
    split <;> omega
  fated := by
    intro turn' hmem
    rcases List.mem_cons.1 hmem with rfl | hmem
    · exact ⟨fate, hfate⟩
    · exact h.fated turn' hmem

theorem photosCourse_tallied
    (hreturns : (photosCourse place scope collection index photos result state).outcome =
      .ok result') :
    Tallied (photosCourse place scope collection index photos result state).turns result result' := by
  fun_induction photosCourse place scope collection index photos result state with
  | case1 | case2 =>
    obtain rfl := Except.ok.inj hreturns
    exact .nil _
  | case3 => cases hreturns
  | case4 => cases hreturns
  | case5 index photo rest result state hcancelled turn fate houtcome portion hportion ih =>
    exact (ih hreturns).cons (congrArg Except.toOption houtcome)

/-- The counts of a run go up by what the turns make. -/
structure Summed (turns : List Turn) (summary summary' : ConversionSummary) : Prop where
  processed : summary'.processed = summary.processed + turns.length
  converted : summary'.converted = summary.converted + tally turns .converted
  failed : summary'.failed = summary.failed + tally turns .failed
  fated : AllFated turns

theorem Summed.nil (summary : ConversionSummary) : Summed [] summary summary := by
  constructor <;> simp [tally, AllFated]

theorem Summed.behind (h : Tallied turns { photos := total } result)
    (h' : Summed turns' (summary.add result) summary') :
    Summed (turns ++ turns') summary summary' where
  processed := by
    rw [h'.processed, ConversionSummary.add, h.processed, List.length_append]
    push_cast
    omega
  converted := by
    rw [h'.converted, ConversionSummary.add, h.converted, tally_append]
    push_cast
    omega
  failed := by
    rw [h'.failed, ConversionSummary.add, h.failed, tally_append]
    push_cast
    omega
  fated := by
    intro turn hmem
    rcases List.mem_append.1 hmem with hmem | hmem
    · exact h.fated turn hmem
    · exact h'.fated turn hmem

theorem collectionsCourse_summed
    (hreturns : (collectionsCourse scope total done places summary state).outcome = .ok summary') :
    Summed (collectionsCourse scope total done places summary state).turns summary summary' := by
  fun_induction collectionsCourse scope total done places summary state with
  | case1 | case2 =>
    obtain rfl := Except.ok.inj hreturns
    exact .nil _
  | case3 => cases hreturns
  | case4 => cases hreturns
  | case5 done place rest summary state hcancelled course result houtcome portion hportion ih =>
    exact (ih hreturns).behind (photosCourse_tallied houtcome)

/-- A run that is not cancelled and returns counts all photos. -/
theorem collectionsCourse_photos (hfree : ∀ scope, state.cancelAfter scope = none)
    (hreturns : (collectionsCourse scope total done places summary state).outcome = .ok summary') :
    summary'.photos = summary.photos + (state.positionsIn places).length := by
  fun_induction collectionsCourse scope total done places summary state with
  | case1 =>
    obtain rfl := Except.ok.inj hreturns
    exact (Int.add_zero _).symm
  | case2 done place rest summary state hcancelled =>
    cases (poll_of_free hfree scope).symm.trans hcancelled
  | case3 => cases hreturns
  | case4 => cases hreturns
  | case5 done place rest summary state hcancelled course result houtcome portion hportion ih =>
    have hnext : ∀ scope, course.state.cancelAfter scope = none := by
      rw [collectionCourse_threads.cancelAfter_eq]
      exact hfree
    have hphotos : result.photos = (state.photosAt place).length :=
      (photosCourse_tallied houtcome).photos
    rw [positionsIn_next] at ih
    have hcons : (state.positionsIn (place :: rest)).length =
        (state.photosAt place).length + (state.positionsIn rest).length := by
      rw [positionsIn, List.flatMap_cons, List.length_append, stretch, List.length_map,
        List.length_range', positionsIn]
    rw [ih hnext hreturns, hcons, ConversionSummary.add, hphotos]
    push_cast
    omega

end Conversion

end PhotoPublish
