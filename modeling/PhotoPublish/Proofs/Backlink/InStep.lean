import PhotoPublish.Proofs.Backlink.Coverage

/-!
# Runs in step

Until the host answers otherwise, a run goes in step with the one in which it does: other answers to one request
for write access and to the URL of one photo do not matter before they are asked for.

* `convertPhoto_inStep`: one turn.
* `collectionsCourse_inStep`: a run comes to the turn of the photo in question in the same state.
-/

set_option autoImplicit false

namespace PhotoPublish

/-! ## Lists -/

section Lists

variable {α : Type} {list : List α}

theorem modify_comm {f g : α → α} (h : ∀ a, f (g a) = g (f a)) (list : List α) (i j : Nat) :
    (list.modify i g).modify j f = (list.modify j f).modify i g := by
  refine List.ext_getElem? fun k => ?_
  simp only [List.getElem?_modify]
  cases list[k]? with
  | none => rfl
  | some a => by_cases hi : i = k <;> by_cases hj : j = k <;> simp [hi, hj, h]

end Lists

namespace PublishedCollection

/-- The collection once the host answers otherwise to the URL of a photo. -/
def withRefusal (collection : PublishedCollection) (index : Nat) (refusal : Option Family) :
    PublishedCollection :=
  { collection with
    photos := collection.photos.modify index fun photo => { photo with refusal := refusal } }

theorem relinked_withRefusal (collection : PublishedCollection) (index number : Nat)
    (refusal : Option Family) (url : Text) :
    (collection.withRefusal number refusal).relinked index url =
      (collection.relinked index url).withRefusal number refusal := by
  have hphotos := modify_comm
    (f := fun photo : PublishedPhoto => { photo with url := some url })
    (g := fun photo : PublishedPhoto => { photo with refusal := refusal }) (fun _ => rfl)
    collection.photos number index
  exact congrArg (fun photos => { collection with photos := photos }) hphotos

end PublishedCollection

/-- Other answers of the host: to a request for write access, by its number, and to the URL of the photo at a
position of the catalog. -/
structure Answers where
  number : Nat
  access : Option Family
  position : Nat × Nat
  refusal : Option Family

namespace Conversion

/-- The state in which the host gives other answers. -/
def otherwise (state : Conversion) (answers : Answers) : Conversion :=
  { state with
    access :=
      { state.access with
        refusals := Function.update state.access.refusals answers.number answers.access }
    catalog := state.catalog.modify answers.position.1
      (·.withRefusal answers.position.2 answers.refusal) }

/-! ## Going in step -/

section Otherwise

variable (state : Conversion) (answers : Answers)

theorem collectionAt_otherwise (place : Nat) :
    (state.otherwise answers).collectionAt place =
      if place = answers.position.1 then
        (state.collectionAt place).withRefusal answers.position.2 answers.refusal
      else state.collectionAt place := by
  refine getD_modify ?_ answers.position.1 place
  exact congrArg (fun photos => { (default : PublishedCollection) with photos := photos })
    (List.modify_nil _ answers.position.2)

theorem photoAt?_otherwise (position : Nat × Nat) :
    (state.otherwise answers).photoAt? position =
      if position = answers.position then
        (state.photoAt? position).map fun photo => { photo with refusal := answers.refusal }
      else state.photoAt? position := by
  change ((state.otherwise answers).collectionAt position.1).photos[position.2]? = _
  rw [collectionAt_otherwise]
  by_cases hplace : position.1 = answers.position.1
  · rw [if_pos hplace, PublishedCollection.withRefusal, List.getElem?_modify]
    by_cases hindex : answers.position.2 = position.2
    · simp [Prod.ext_iff, hplace, hindex, photoAt?, photosAt, collectionAt]
    · simp [Prod.ext_iff, hplace, hindex, Ne.symm hindex, photoAt?, photosAt, collectionAt]
  · rw [if_neg hplace, if_neg fun h => hplace (congrArg Prod.fst h)]
    rfl

theorem urlAt_otherwise (position : Nat × Nat) :
    (state.otherwise answers).urlAt position = state.urlAt position := by
  rw [urlAt, photoAt?_otherwise]
  split
  · rw [urlAt, Option.bind_map]
    rfl
  · rfl

theorem relinked_otherwise (place index : Nat) (url : Text) :
    (state.otherwise answers).relinked place index url =
      (state.relinked place index url).otherwise answers := by
  have hcatalog := modify_comm
    (f := fun entry : PublishedCollection => entry.relinked index url)
    (g := fun entry => entry.withRefusal answers.position.2 answers.refusal)
    (fun entry => entry.relinked_withRefusal index answers.position.2 answers.refusal url)
    state.catalog answers.position.1 place
  exact congrArg (fun catalog => { state.otherwise answers with catalog := catalog }) hcatalog

end Otherwise

section Photo

variable (place index : Nat) (collection : PublishedCollection) (photo : PublishedPhoto)
  {state : Conversion} {answers : Answers}

theorem relink_access (state : Conversion) :
    ((relink place index collection photo).run.run state).2.access =
      state.access.requested backlinkTransaction := by
  cases hrefused : state.access.refused? backlinkTransaction with
  | some failure => rw [relink_run_refused hrefused]
  | none =>
    rw [relink_run_made hrefused]
    cases Backlink.make collection.identifier (.real state.clock.now) with
    | error failure => rfl
    | ok url => cases photo.refusal <;> rfl

theorem relink_inStep (hne : state.access.requests.length ≠ answers.number) :
    (relink place index collection photo).run.run (state.otherwise answers) =
      (((relink place index collection photo).run.run state).1,
        ((relink place index collection photo).run.run state).2.otherwise answers) := by
  have hanswer : (state.otherwise answers).access.refusals state.access.requests.length =
      state.access.refusals state.access.requests.length :=
    Function.update_of_ne hne _ _
  have hsame : (state.otherwise answers).access.refused? backlinkTransaction =
      state.access.refused? backlinkTransaction := congrArg (Option.map _) hanswer
  cases hrefused : state.access.refused? backlinkTransaction with
  | some failure =>
    rw [relink_run_refused hrefused, relink_run_refused (hsame.trans hrefused)]
    rfl
  | none =>
    have hclock : (state.otherwise answers).clock = state.clock := rfl
    rw [relink_run_made hrefused, relink_run_made (hsame.trans hrefused), hclock]
    cases Backlink.make collection.identifier (.real state.clock.now) with
    | error failure => rfl
    | ok url =>
      cases photo.refusal with
      | some family => rfl
      | none => exact congrArg (Prod.mk _) (relinked_otherwise state.granted ..)

/-- **One turn in step:** the answers that are other have not been asked for. -/
theorem convertPhoto_inStep
    (hle : ((convertPhoto place index collection photo).run.run state).2.access.requests.length ≤
      answers.number) :
    (convertPhoto place index collection photo).run.run (state.otherwise answers) =
      (((convertPhoto place index collection photo).run.run state).1,
        ((convertPhoto place index collection photo).run.run state).2.otherwise answers) := by
  cases hcheck : Backlink.check collection.identifier photo.url with
  | error failure => rw [convertPhoto_run_unchecked hcheck, convertPhoto_run_unchecked hcheck]
  | ok linked =>
    cases linked with
    | true =>
      have hzone : (state.otherwise answers).zone = state.zone := rfl
      rw [convertPhoto_run_linked hcheck, convertPhoto_run_linked hcheck, hzone]
      cases keptMessage state.zone collection photo <;> rfl
    | false =>
      have haccess := relink_access place index collection photo state
      rcases hrelink : (relink place index collection photo).run.run state with ⟨result, mid⟩
      rw [hrelink] at haccess
      rw [convertPhoto_run_pending hcheck hrelink] at hle ⊢
      have hne : state.access.requests.length ≠ answers.number := by
        have hmid : mid.access.requests.length ≤ answers.number := by
          cases result with
          | ok => exact hle
          | error failure =>
            dsimp only at hle
            split at hle <;> exact hle
        rw [haccess, WriteAccess.requested, List.length_append, List.length_singleton] at hmid
        omega
      have hinStep := relink_inStep place index collection photo hne
      rw [hrelink] at hinStep
      rw [convertPhoto_run_pending hcheck hinStep]
      cases result with
      | ok => rfl
      | error failure =>
        dsimp only
        split <;> rfl

variable {collection} {other : PublishedCollection}

/-- What a turn does with a photo depends on the name and the identifier of the collection only. -/
theorem convertPhoto_congr (hname : other.name = collection.name)
    (hidentifier : other.identifier = collection.identifier) :
    convertPhoto place index other photo = convertPhoto place index collection photo := by
  obtain ⟨name, identifier, photos⟩ := collection
  obtain ⟨_, _, photos'⟩ := other
  cases hname
  cases hidentifier
  rfl

end Photo

end Conversion

namespace Turn

/-- The turn of the photo in the state in which the host gives other answers. -/
def otherwise (turn : Turn) (collection : PublishedCollection) (answers : Answers) : Turn :=
  { turn with collection := collection, before := turn.before.otherwise answers }

section InStep

variable {turn : Turn} {collection : PublishedCollection} {answers : Answers}
  (hname : collection.name = turn.collection.name)
  (hidentifier : collection.identifier = turn.collection.identifier)
  (hle : turn.after.access.requests.length ≤ answers.number)
include hname hidentifier hle

theorem run_otherwise :
    (turn.otherwise collection answers).run = (turn.outcome, turn.after.otherwise answers) := by
  have hcongr :=
    Conversion.convertPhoto_congr turn.place turn.index turn.photo hname hidentifier
  change (Conversion.convertPhoto turn.place turn.index collection turn.photo).run.run _ = _
  rw [hcongr]
  exact Conversion.convertPhoto_inStep turn.place turn.index turn.collection turn.photo hle

theorem outcome_otherwise : (turn.otherwise collection answers).outcome = turn.outcome := by
  rw [outcome, run_otherwise hname hidentifier hle]

theorem after_otherwise :
    (turn.otherwise collection answers).after = turn.after.otherwise answers := by
  rw [after, run_otherwise hname hidentifier hle]

end InStep

end Turn

namespace Conversion

variable {place scope index total done : Nat} {collection : PublishedCollection}
  {photo : PublishedPhoto} {photos : List PublishedPhoto} {places : List Nat}
  {result : ConversionResult} {summary : ConversionSummary} {state after : Conversion} {turn : Turn}
  {answers : Answers} {services : List (Folder Nat)} {start : Conversion} {failure : Failure}

/-! ## Courses in step -/

section Steps

variable {rest : List PublishedPhoto} {fate : Fate} {portion : Binary64}

theorem photosCourse_cancelled (hpoll : state.poll scope = true) :
    photosCourse place scope collection index (photo :: rest) result state =
      ⟨[], .ok result, state.logged .info (cancelledMessage collection result)⟩ := by
  rw [photosCourse, if_pos hpoll]

variable (hpoll : ¬ state.poll scope = true)
  (hturn : turn = ⟨place, index, collection, photo, state⟩)
include hpoll hturn

theorem photosCourse_failed (houtcome : turn.outcome = .error failure) :
    photosCourse place scope collection index (photo :: rest) result state =
      ⟨[turn], .error failure, turn.after⟩ := by
  subst hturn
  rw [photosCourse, if_neg hpoll]
  simp only [houtcome]

theorem photosCourse_unreported (houtcome : turn.outcome = .ok fate)
    (hportion : ProgressScope.portionOf (.whole (index + 1 : Nat))
      (.whole collection.photos.length) = .error failure) :
    photosCourse place scope collection index (photo :: rest) result state =
      ⟨[turn], .error failure, turn.after⟩ := by
  subst hturn
  rw [photosCourse, if_neg hpoll]
  simp only [houtcome, hportion]

theorem photosCourse_went (houtcome : turn.outcome = .ok fate)
    (hportion : ProgressScope.portionOf (.whole (index + 1 : Nat))
      (.whole collection.photos.length) = .ok portion) :
    photosCourse place scope collection index (photo :: rest) result state =
      (photosCourse place scope collection (index + 1) rest (countFate result fate)
        (turn.after.reported scope portion (index + 1) collection.photos.length)).behind [turn] := by
  subst hturn
  rw [photosCourse, if_neg hpoll]
  simp only [houtcome, hportion]

omit hturn in
theorem photosCourse_head :
    (photosCourse place scope collection index (photo :: rest) result state).turns[0]? =
      some ⟨place, index, collection, photo, state⟩ := by
  cases houtcome : (⟨place, index, collection, photo, state⟩ : Turn).outcome with
  | error failure => rw [photosCourse_failed hpoll rfl houtcome]; rfl
  | ok fate =>
    cases hportion : ProgressScope.portionOf (.whole (index + 1 : Nat))
        (.whole collection.photos.length) with
    | error failure => rw [photosCourse_unreported hpoll rfl houtcome hportion]; rfl
    | ok portion => rw [photosCourse_went hpoll rfl houtcome hportion]; rfl

end Steps

variable (answers) in
/-- The course of photos that are done before the other answers are asked for. -/
theorem photosCourse_inStep
    (hle : (photosCourse place scope collection index photos result state).state.access.requests.length ≤
      answers.number) :
    (photosCourse place scope collection index photos result (state.otherwise answers)).run =
      ((photosCourse place scope collection index photos result state).outcome,
        (photosCourse place scope collection index photos result state).state.otherwise
          answers) := by
  fun_induction photosCourse place scope collection index photos result state with
  | case1 => rfl
  | case2 index photo rest result state hcancelled =>
    have hpoll : (state.otherwise answers).poll scope = true := hcancelled
    rw [photosCourse_cancelled hpoll]
    rfl
  | case3 index photo rest result state hcancelled turn failure houtcome =>
    have hpoll : ¬ (state.otherwise answers).poll scope = true := hcancelled
    have hturn : turn.otherwise collection answers =
        ⟨place, index, collection, photo, state.otherwise answers⟩ := rfl
    have houtcome' := (Turn.outcome_otherwise rfl rfl hle).trans houtcome
    rw [photosCourse_failed hpoll hturn houtcome']
    exact Prod.ext rfl (Turn.after_otherwise rfl rfl hle)
  | case4 index photo rest result state hcancelled turn fate houtcome failure hportion =>
    have hpoll : ¬ (state.otherwise answers).poll scope = true := hcancelled
    have hturn : turn.otherwise collection answers =
        ⟨place, index, collection, photo, state.otherwise answers⟩ := rfl
    have houtcome' := (Turn.outcome_otherwise rfl rfl hle).trans houtcome
    rw [photosCourse_unreported hpoll hturn houtcome' hportion]
    exact Prod.ext rfl (Turn.after_otherwise rfl rfl hle)
  | case5 index photo rest result state hcancelled turn fate houtcome portion hportion ih =>
    have hpoll : ¬ (state.otherwise answers).poll scope = true := hcancelled
    have hle' : turn.after.access.requests.length ≤ answers.number := by
      have hrest := @photosCourse_threads place scope (index + 1) collection rest
        (countFate result fate) (turn.after.reported scope portion (index + 1) collection.photos.length)
      exact Nat.le_trans hrest.requests_le hle
    have hturn : turn.otherwise collection answers =
        ⟨place, index, collection, photo, state.otherwise answers⟩ := rfl
    have houtcome' := (Turn.outcome_otherwise rfl rfl hle').trans houtcome
    have hafter : (turn.otherwise collection answers).after = turn.after.otherwise answers :=
      Turn.after_otherwise rfl rfl hle'
    rw [photosCourse_went hpoll hturn houtcome' hportion, hafter]
    exact ih hle

/-- A turn in the course of a collection before the other answers are asked for. -/
theorem photosCourse_turn_inStep {other : PublishedCollection} (hname : other.name = collection.name)
    (hidentifier : other.identifier = collection.identifier)
    (hlength : other.photos.length = collection.photos.length) (f : PublishedPhoto → PublishedPhoto) :
    ∀ j turn, (photosCourse place scope collection index photos result state).turns[j]? = some turn →
      turn.before.access.requests.length ≤ answers.number →
      ∃ turn', (photosCourse place scope other index (photos.modify j f) result
          (state.otherwise answers)).turns[j]? = some turn' ∧
        turn'.position = turn.position ∧ turn'.before = turn.before.otherwise answers := by
  fun_induction photosCourse place scope collection index photos result state with
  | case1 | case2 =>
    intro j turn h
    cases h
  | case3 index photo rest result state hcancelled | case4 index photo rest result state hcancelled =>
    intro j turn h hle
    have hpoll : ¬ (state.otherwise answers).poll scope = true := hcancelled
    cases j with
    | zero =>
      obtain rfl := Option.some.inj h
      exact ⟨_, photosCourse_head hpoll, rfl, rfl⟩
    | succ j => cases h
  | case5 index photo rest result state hcancelled first fate houtcome portion hportion ih =>
    intro j turn h hle
    have hpoll : ¬ (state.otherwise answers).poll scope = true := hcancelled
    cases j with
    | zero =>
      obtain rfl := Option.some.inj h
      exact ⟨_, photosCourse_head hpoll, rfl, rfl⟩
    | succ j =>
      have hle' : first.after.access.requests.length ≤ answers.number := by
        have hrest := @photosCourse_threads place scope (index + 1) collection rest
          (countFate result fate) (first.after.reported scope portion (index + 1) collection.photos.length)
        exact Nat.le_trans (hrest.requests_le_turn (List.mem_of_getElem? h)) hle
      have hfirst : first.otherwise other answers =
          ⟨place, index, other, photo, state.otherwise answers⟩ := rfl
      have houtcome' := (Turn.outcome_otherwise hname hidentifier hle').trans houtcome
      have hafter : (first.otherwise other answers).after = first.after.otherwise answers :=
        Turn.after_otherwise hname hidentifier hle'
      obtain ⟨turn', hturn', hsame⟩ := ih j turn h hle
      refine ⟨turn', ?_, hsame⟩
      rw [List.modify_succ_cons, photosCourse_went hpoll hfirst houtcome' (hlength ▸ hportion),
        hafter, hlength]
      exact hturn'

/-- A collection that is done before the other answers are asked for, without the photo in question. -/
theorem collectionCourse_inStep (hplace : place ≠ answers.position.1)
    (hle : (collectionCourse place state).state.access.requests.length ≤ answers.number) :
    (collectionCourse place (state.otherwise answers)).run =
      ((collectionCourse place state).outcome,
        (collectionCourse place state).state.otherwise answers) := by
  have hcollection : (state.otherwise answers).collectionAt place = state.collectionAt place := by
    rw [collectionAt_otherwise, if_neg hplace]
  obtain ⟨houtcome, hstate⟩ := Prod.mk.inj (photosCourse_inStep answers hle)
  unfold collectionCourse
  rw [hcollection]
  exact Prod.ext houtcome (congrArg (·.withFinished state.scopes.length) hstate)

/-- A turn in the collection with the photo in question, before the other answers are asked for. -/
theorem collectionCourse_turn_inStep (hmem : turn ∈ (collectionCourse place state).turns)
    (hposition : answers.position = turn.position)
    (hle : turn.before.access.requests.length ≤ answers.number) :
    ∃ turn' ∈ (collectionCourse place (state.otherwise answers)).turns,
      turn'.position = turn.position ∧ turn'.before = turn.before.otherwise answers := by
  obtain ⟨j, hj⟩ := List.getElem?_of_mem hmem
  have hphoto : answers.position = (place, j) := by
    rw [hposition, photosCourse_position j turn hj, Nat.zero_add]
  have hcollection : (state.otherwise answers).collectionAt place =
      (state.collectionAt place).withRefusal j answers.refusal := by
    rw [collectionAt_otherwise, hphoto, if_pos rfl]
  have hname : ((state.collectionAt place).withRefusal j answers.refusal).name =
      (state.collectionAt place).name := rfl
  have hlength : ((state.collectionAt place).withRefusal j answers.refusal).photos.length =
      (state.collectionAt place).photos.length := List.length_modify ..
  obtain ⟨turn', hturn', hsame⟩ := photosCourse_turn_inStep hname rfl hlength
    (fun photo => { photo with refusal := answers.refusal }) j turn hj hle
  refine ⟨turn', List.mem_of_getElem? (i := j) ?_, hsame⟩
  unfold collectionCourse
  rw [hcollection]
  dsimp only
  rw [hlength]
  exact hturn'

/-! ## Collections in step -/

section Steps

variable {rest : List Nat} (hpoll : ¬ state.poll scope = true)
include hpoll

theorem collectionsCourse_first :
    ∀ turn ∈ (collectionCourse place state).turns,
      turn ∈ (collectionsCourse scope total done (place :: rest) summary state).turns := by
  rw [collectionsCourse, if_neg hpoll]
  intro turn hmem
  dsimp only
  split
  · exact hmem
  · split
    · exact hmem
    · exact List.mem_append_left _ hmem

theorem collectionsCourse_went {portion : Binary64}
    (houtcome : (collectionCourse place state).outcome = .ok result)
    (hportion : ProgressScope.portionOf (.whole (done + 1 : Nat)) (.whole total) = .ok portion) :
    collectionsCourse scope total done (place :: rest) summary state =
      (collectionsCourse scope total (done + 1) rest (summary.add result)
        ((collectionCourse place state).state.reported scope portion (done + 1) total)).behind
          (collectionCourse place state).turns := by
  rw [collectionsCourse, if_neg hpoll]
  simp only [houtcome, hportion]

end Steps

theorem place_of_mem (hmem : turn ∈ (collectionCourse place state).turns) : turn.place = place := by
  obtain ⟨j, hj⟩ := List.getElem?_of_mem hmem
  exact congrArg Prod.fst (photosCourse_position j turn hj)

variable (answers) in
/-- **A run in step:** the run in which the host gives other answers comes to the turn of the photo in question
in the same state, if they have not been asked for until then. -/
theorem collectionsCourse_inStep (hnodup : places.Nodup) :
    ∀ turn ∈ (collectionsCourse scope total done places summary state).turns,
      answers.position = turn.position →
      turn.before.access.requests.length ≤ answers.number →
      ∃ turn' ∈ (collectionsCourse scope total done places summary (state.otherwise answers)).turns,
        turn'.position = turn.position ∧ turn'.before = turn.before.otherwise answers := by
  fun_induction collectionsCourse scope total done places summary state with
  | case1 => exact fun _ hmem => absurd hmem List.not_mem_nil
  | case2 => exact fun _ hmem => absurd hmem List.not_mem_nil
  | case3 done place rest summary state hcancelled | case4 done place rest summary state hcancelled =>
    intro turn hmem hposition hle
    have hpoll : ¬ (state.otherwise answers).poll scope = true := hcancelled
    obtain ⟨turn', hmem', hsame⟩ := collectionCourse_turn_inStep hmem hposition hle
    exact ⟨turn', collectionsCourse_first hpoll turn' hmem', hsame⟩
  | case5 done place rest summary state hcancelled course result houtcome portion hportion ih =>
    intro turn hmem hposition hle
    have hpoll : ¬ (state.otherwise answers).poll scope = true := hcancelled
    obtain ⟨hnew, hnodup⟩ := List.nodup_cons.1 hnodup
    rcases List.mem_append.1 hmem with hmem | hmem
    · obtain ⟨turn', hmem', hsame⟩ := collectionCourse_turn_inStep hmem hposition hle
      exact ⟨turn', collectionsCourse_first hpoll turn' hmem', hsame⟩
    · have hrest := @collectionsCourse_threads scope total (done + 1) rest (summary.add result)
        (course.state.reported scope portion (done + 1) total)
      have hle' : course.state.access.requests.length ≤ answers.number :=
        Nat.le_trans (hrest.requests_le_turn hmem) hle
      have hplace : place ≠ answers.position.1 := by
        intro h
        have hturn := collectionsCourse_positions.subset (List.mem_map_of_mem hmem)
        obtain ⟨place', hplace', hmem'⟩ := List.mem_flatMap.1 hturn
        have hsame : turn.position.1 = place' := (mem_stretch.1 hmem').1
        rw [← hsame, ← hposition, ← h] at hplace'
        exact hnew hplace'
      obtain ⟨houtcome', hstate'⟩ := Prod.mk.inj (collectionCourse_inStep hplace hle')
      obtain ⟨turn', hmem', hsame⟩ := ih hnodup turn hmem hposition hle
      refine ⟨turn', ?_, hsame⟩
      rw [collectionsCourse_went hpoll (houtcome'.trans houtcome) hportion, hstate']
      exact List.mem_append_right _ hmem'

end Conversion

end PhotoPublish
