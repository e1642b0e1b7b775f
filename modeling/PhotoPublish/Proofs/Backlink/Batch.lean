import PhotoPublish.Proofs.Backlink.Course
import PhotoPublish.Proofs.Backlink.Recognition
import PhotoPublish.Proofs.Calendar.Display
import PhotoPublish.Proofs.Number.Binary64
import PhotoPublish.Proofs.Number.Reading

/-!
# Batches that run to the end

When all that the host refuses is of the program's own kinds, the photos themselves can still stop a batch.
`Stops` lists how: the identifier cannot be written, the time in a URL cannot be shown, or the progress
cannot be counted.

* `keptMessage_error_iff`: when the message about a backlink that a photo has cannot be written.
* `convertCollection_returns_iff`: a batch runs to the end exactly if no photo stops it.
-/

set_option autoImplicit false

namespace PhotoPublish

/-- A property of the members of a list and those before them, from the first member on. -/
theorem forall_split_cons {α : Type} {P : List α → α → Prop} {a : α} {list : List α} :
    (∀ before b behind, a :: list = before ++ b :: behind → P before b) ↔
      P [] a ∧ ∀ before b behind, list = before ++ b :: behind → P (a :: before) b := by
  constructor
  · intro h
    refine ⟨h [] a list rfl, fun before b behind hsplit => h (a :: before) b behind ?_⟩
    rw [hsplit, List.cons_append]
  · rintro ⟨hfirst, hrest⟩ before b behind hsplit
    cases before with
    | nil =>
      obtain ⟨rfl, -⟩ := List.cons.inj hsplit
      exact hfirst
    | cons c before =>
      obtain ⟨rfl, hlist⟩ := List.cons.inj hsplit
      exact hrest before b behind hlist

/-! ## Times in URLs -/

namespace Backlink

theorem time?_digits {url digits : Text} (h : time? url = some digits) :
    digits ≠ [] ∧ digits.all isDecimal = true := by
  fun_induction time? url with
  | case1 => cases h
  | case2 c d more hdigits =>
    obtain rfl := Option.some.inj h
    rw [Bool.and_eq_true] at hdigits
    refine ⟨List.cons_ne_nil _ _, ?_⟩
    rw [List.all_cons, hdigits.2, Bool.true_and, List.all_eq_true]
    exact fun c hc => List.mem_takeWhile_imp hc
  | case3 c d more hdigits ih => exact ih h
  | case4 c rest hrest ih => exact ih h

/-- The instant that a URL gives as the time of publishing. -/
def published? (url : Text) : Option Binary64 :=
  (time? url).map fun digits => Binary64.ofDecimal false (numeralValue digits) 0

end Backlink

namespace Conversion

variable {zone : Zone} {collection : PublishedCollection} {photo : PublishedPhoto}

theorem dateText_error_iff {instant : Binary64} :
    (∃ failure, dateText zone (some instant) = .error failure) ↔
      ∃ failure, Timestamp.clocked zone (.real instant) = .error failure := by
  have hnul : Timestamp.messageFormat.contains '\x00' = false := by decide
  rw [dateText, Timestamp.format_eq]
  simp only [hnul]
  cases Timestamp.clocked zone (.real instant) with
  | error failure => exact iff_of_true ⟨failure, rfl⟩ ⟨failure, rfl⟩
  | ok found => exact iff_of_false (fun ⟨_, h⟩ => nomatch h) fun ⟨_, h⟩ => nomatch h

/-- **When the message about a backlink cannot be written** of a photo that was never edited: when the time of
publishing in its URL cannot be shown. -/
theorem keptMessage_error_iff (hedit : photo.lastEdit = .null) :
    (∃ failure, keptMessage zone collection photo = .error failure) ↔
      ∃ instant, Backlink.published? (photo.url.getD []) = some instant ∧
        ∃ failure, Timestamp.clocked zone (.real instant) = .error failure := by
  have hedited : toTimestamp zone photo.lastEdit = .ok none := by rw [hedit]; rfl
  unfold keptMessage Backlink.published?
  rw [hedited]
  cases htime : Backlink.time? (photo.url.getD []) with
  | none => exact iff_of_false (fun ⟨_, h⟩ => nomatch h) fun ⟨_, h, _⟩ => nomatch h
  | some digits =>
    obtain ⟨hne, hdecimal⟩ := Backlink.time?_digits htime
    simp only [Binary64.read_decimals hne hdecimal, Option.map_some, Option.some.injEq,
      exists_eq_left', ← dateText_error_iff]
    cases hpublished : dateText zone
        (some (Binary64.ofDecimal false (numeralValue digits) 0)) with
    | error failure =>
      refine iff_of_true ⟨failure, ?_⟩ ⟨failure, rfl⟩
      change (dateText zone _ >>= fun publishedText => _) = _
      rw [hpublished]
      rfl
    | ok text =>
      refine iff_of_false (fun ⟨_, h⟩ => ?_) fun ⟨_, h⟩ => nomatch h
      change (dateText zone _ >>= fun publishedText => _) = _ at h
      rw [hpublished] at h
      cases h

end Conversion

/-! ## Instants that a clock can show -/

namespace Timestamp

/-- An instant that can be shown lies in a second that a clock can count. -/
theorem floor?_of_clocked {zone : Zone} {now : Binary64} {found : Int × LocalTime}
    (h : clocked zone (.real now) = .ok found) :
    ∃ second, now.floor? = some second ∧ -clockBound ≤ second ∧ second < clockBound := by
  obtain ⟨second, hsecond, h⟩ := exists_of_bind_ok h
  obtain ⟨shown, hshown, -⟩ := exists_of_bind_ok h
  have hfloor : now.floor? = some second := by
    cases now with
    | nan => cases hsecond
    | infinite negative => cases hsecond
    | negativeZero | finite units => exact congrArg some (Except.ok.inj hsecond)
  refine ⟨second, hfloor, ?_⟩
  by_contra hbound
  have houtside : zone.clockAt? second = .error .outsideClock := if_pos (by omega)
  rw [houtside] at hshown
  cases hshown

theorem clocked_of_all {zone : Zone} {instants : List Binary64}
    (h : instants.all (fun now => (clocked zone (.real now)).toOption.isSome) = true) :
    ∀ now ∈ instants, ∃ found, clocked zone (.real now) = .ok found := by
  intro now hnow
  obtain ⟨found, hfound⟩ := Option.isSome_iff_exists.1 (List.all_eq_true.1 h now hnow)
  exact ⟨found, ok_of_toOption hfound⟩

end Timestamp

namespace Binary64

/-- Cutting off and rounding down differ by one at most. -/
theorem truncate?_of_floor? {x : Binary64} {second : Int} (h : x.floor? = some second) :
    ∃ n, x.truncate? = some n ∧ second ≤ n ∧ n ≤ second + 1 := by
  obtain ⟨units, hunits, rfl⟩ := Option.map_eq_some_iff.1 h
  refine ⟨units.tdiv one, by rw [truncate?, hunits]; rfl, ?_⟩
  rw [Int.tdiv_eq_ediv, Int.sign_eq_one_of_pos (Int.natCast_pos.2 one_pos)]
  split <;> omega

end Binary64

/-- The seconds that a clock can count have few digits. -/
theorem Value.not_hasLongWhole {n : Int} (hlow : -clockBound ≤ n) (hhigh : n ≤ clockBound) :
    (Value.whole n).hasLongWhole = false := by
  have hbound : n.natAbs ≤ 0x8000000000000000 := by
    have hclock : clockBound = 0x8000000000000000 := rfl
    omega
  have hlength : (Numeral.ofNat n.natAbs).length ≤ 20 :=
    (Nat.length_toDigits_le_iff (by decide) (by decide)).2 (Nat.lt_of_le_of_lt hbound (by decide))
  exact decide_eq_false (Nat.not_lt.2 (Nat.le_trans hlength (by decide)))

namespace Backlink

variable {zone : Zone} {now : Binary64} {found : Int × LocalTime} {n : Nat}

theorem seconds_of_truncate? {second : Int} (h : now.truncate? = some second) :
    seconds (.real now) = .ok second := by
  cases now with
  | nan => cases h
  | infinite negative => cases h
  | negativeZero | finite units => exact congrArg Except.ok (Option.some.inj h)

/-- **When a backlink cannot be made** at an instant that can be shown: when the identifier is too long. -/
theorem make_of_clocked (h : Timestamp.clocked zone (.real now) = .ok found) :
    ∃ second, make (.whole n) (.real now) =
      if Numeral.longest < (Numeral.ofNat n).length then .error .longWhole
      else .ok (link (.whole n) second) := by
  obtain ⟨floor, hfloor, hlow, hhigh⟩ := Timestamp.floor?_of_clocked h
  obtain ⟨second, hsecond, hle, hle'⟩ := Binary64.truncate?_of_floor? hfloor
  have hshort : (Value.whole second).hasLongWhole = false :=
    Value.not_hasLongWhole (by omega) (by omega)
  have htime : written (.whole second) = .ok (Numeral.ofInt second) :=
    if_neg (Bool.eq_false_iff.1 hshort)
  refine ⟨second, ?_⟩
  unfold make
  rw [seconds_of_truncate? hsecond]
  by_cases hlong : Numeral.longest < (Numeral.ofNat n).length
  · have hname : written (.whole n) = .error .longWhole := if_pos (decide_eq_true hlong)
    rw [if_pos hlong, hname]
    rfl
  · have hname : written (.whole n) = .ok (Value.whole n).display :=
      if_neg fun h => hlong (of_decide_eq_true h)
    rw [if_neg hlong, hname]
    change (written (.whole second) >>= fun time =>
      Except.ok ((Value.whole n).display ++ '/' :: time)) = _
    rw [htime]
    rfl

end Backlink

theorem Clock.now_iterate_tick (clock : Clock) (k : Nat) :
    (tick^[k] clock).now ∈ clock.now :: clock.later := by
  induction k generalizing clock with
  | zero => exact List.mem_cons_self
  | succ k ih =>
    rw [Function.iterate_succ_apply]
    have hmem := ih clock.tick
    cases hlater : clock.later with
    | nil => simpa [tick, hlater] using hmem
    | cons next later => simpa [tick, hlater] using Or.inr hmem

namespace Conversion

variable {start state after : Conversion} {place n : Nat} {collection : PublishedCollection}
  {done rest : List PublishedPhoto} {photo : PublishedPhoto} {result : ConversionResult}
  {failure : Failure}

/-! ## What stops a batch -/

/-- A run in which nothing but the photos can stop the batch: the photos were never edited, the clock shows
instants that can be shown, all that the host refuses is of the program's own kinds, and the run is not
cancelled. -/
structure Undisturbed (start : Conversion) (place n : Nat) : Prop where
  identifier : (start.collectionAt place).identifier = .whole n
  edits : ∀ photo ∈ start.photosAt place, photo.lastEdit = .null
  clock : ∀ now ∈ start.clock.now :: start.clock.later,
    ∃ found, Timestamp.clocked start.zone (.real now) = .ok found
  access : ∀ number family, start.access.refusals number = some family → family.isOwn = true
  refusals : ∀ photo ∈ start.photosAt place, ∀ family, photo.refusal = some family →
    family.isOwn = true
  notCancelled : start.cancelAfter start.scopes.length = none

/-- How a photo that comes after some others stops a batch of the collection with a number as its
identifier. -/
inductive Stops (start : Conversion) (collection : PublishedCollection) (n : Nat)
    (done : List PublishedPhoto) (photo : PublishedPhoto) : Prop where
  /-- The identifier is too long to be compared with a number in the URL. -/
  | unwritable (hurl : Backlink.Unwritable n (photo.url.getD []))
  /-- The identifier is too long to be written in a backlink, for which there is a transaction. -/
  | unlinkable (hlong : Numeral.longest < (Numeral.ofNat n).length)
      (hpending : collection.isPending photo = true)
      (hgrants : start.grants (done.countP collection.isPending) = true)
  /-- The photo has a backlink, and the time in it lies beyond what clocks can show. -/
  | undatable {instant : Binary64} {failure : Failure} (hlinked : collection.isPending photo = false)
      (htime : Backlink.published? (photo.url.getD []) = some instant)
      (hbeyond : Timestamp.clocked start.zone (.real instant) = .error failure)
  /-- There are more photos than a double can count. -/
  | uncountable {failure : Failure}
      (hcount : ProgressScope.portionOf (.whole (done.length + 1 : Nat))
        (.whole collection.photos.length) = .error failure)

/-- A batch underway: the books of the photos that had their turns, the scope with their reports, and the zone
in which messages show times. -/
structure Underway (start : Conversion) (place : Nat) (collection : PublishedCollection)
    (done rest : List PublishedPhoto) (result : ConversionResult) (state : Conversion) : Prop where
  ledger : Ledger start place collection done rest result state
  reported : Reported start (scopeTitle collection) collection.photos.length done.length state
  zone : state.zone = start.zone

theorem Treats.zone_eq {index : Nat} {fate : Fate}
    (h : Treats place index collection photo state fate after) : after.zone = state.zone := by
  cases h <;> rfl

/-- A photo that had its turn goes over to those that are done. -/
theorem Underway.next {fate : Fate} {portion : Binary64}
    (h : Underway start place collection done (photo :: rest) result state)
    (hturn : (convertPhoto place done.length collection photo).run.run state = (.ok fate, after))
    (hportion : ProgressScope.portionOf (.whole (done.length + 1 : Nat))
      (.whole collection.photos.length) = .ok portion) :
    Underway start place collection (done ++ [photo]) rest (countFate result fate)
      (after.reported start.scopes.length portion (done.length + 1) collection.photos.length) := by
  have htreats := convertPhoto_treats hturn
  have hreport := report_run start.scopes.length (done.length + 1) collection.photos.length after
  rw [hportion] at hreport
  have hafter : Reported start (scopeTitle collection) collection.photos.length done.length after := by
    obtain ⟨hscopes, hcancel⟩ := htreats.progress_eq
    exact ⟨hscopes ▸ h.reported.scopes, hcancel.trans h.reported.cancelAfter⟩
  constructor
  case ledger => exact (h.ledger.treat htreats).of_eq rfl rfl rfl
  case reported =>
    rw [List.length_append, List.length_singleton]
    exact hafter.report hreport
  case zone => exact htreats.zone_eq.trans h.zone

section Step

variable (hcalm : Undisturbed start place n) (hcollection : collection = start.collectionAt place)
  (hunderway : Underway start place collection done (photo :: rest) result state)
include hcalm hcollection hunderway

omit hcalm in
theorem mem_photosAt_of_underway : photo ∈ start.photosAt place := by
  have hphotos : start.photosAt place = done ++ photo :: rest := by
    rw [← hunderway.ledger.photos, hcollection]
    rfl
  rw [hphotos]
  exact List.mem_append_right _ List.mem_cons_self

omit hcollection in
theorem clocked_of_underway :
    ∃ found, Timestamp.clocked start.zone (.real state.clock.now) = .ok found := by
  rw [hunderway.ledger.clock]
  exact hcalm.clock _ (Clock.now_iterate_tick _ _)

/-- A photo that ends the run is one that stops the batch. -/
theorem stops_of_breaks (h : Breaks place done.length collection photo state failure after) :
    Stops start collection n done photo := by
  have hidentifier : collection.identifier = .whole n := hcollection ▸ hcalm.identifier
  have hmem := mem_photosAt_of_underway hcollection hunderway
  obtain ⟨found, hclocked⟩ := clocked_of_underway hcalm hunderway
  cases h with
  | unchecked hcheck =>
    refine .unwritable ?_
    by_contra hwritable
    rw [hidentifier, Backlink.check_of_not_unwritable hwritable] at hcheck
    cases hcheck
  | unreported hcheck hmessage =>
    obtain ⟨instant, htime, failure', hbeyond⟩ :=
      (keptMessage_error_iff (hcalm.edits photo hmem)).1 ⟨_, hmessage⟩
    rw [hunderway.zone] at hbeyond
    refine .undatable ?_ htime hbeyond
    rw [PublishedCollection.isPending, ← Backlink.check_ok hcheck]
    rfl
  | refused hcheck hrefused hforeign =>
    obtain ⟨family, hfamily, rfl⟩ := Option.map_eq_some_iff.1 hrefused
    rw [hunderway.ledger.access] at hfamily
    exact absurd (hcalm.access _ family hfamily) (Bool.eq_false_iff.1 hforeign)
  | unlinked hcheck hgranted hmake =>
    rw [hidentifier] at hmake
    obtain ⟨second, hmade⟩ := Backlink.make_of_clocked (n := n) hclocked
    rw [hmade] at hmake
    split at hmake
    · rename_i hlong
      refine .unlinkable hlong ?_ ?_
      · rw [PublishedCollection.isPending, ← Backlink.check_ok hcheck]
        rfl
      · rw [← hunderway.ledger.grants_eq, hgranted]
        rfl
    · cases hmake
  | rejected hcheck hgranted hmake hrefusal hforeign =>
    exact absurd (hcalm.refusals photo hmem _ hrefusal) (Bool.eq_false_iff.1 hforeign)

/-- A photo that stops the batch ends the run in its turn, or it cannot be counted. -/
theorem breaks_of_stops (h : Stops start collection n done photo) :
    (∃ failure after, Breaks place done.length collection photo state failure after) ∨
      ∃ failure, ProgressScope.portionOf (.whole (done.length + 1 : Nat))
        (.whole collection.photos.length) = .error failure := by
  have hidentifier : collection.identifier = .whole n := hcollection ▸ hcalm.identifier
  have hmem := mem_photosAt_of_underway hcollection hunderway
  obtain ⟨found, hclocked⟩ := clocked_of_underway hcalm hunderway
  by_cases hwritable : Backlink.Unwritable n (photo.url.getD [])
  · exact .inl ⟨_, _, .unchecked (hidentifier ▸ Backlink.check_of_unwritable hwritable)⟩
  have hcheck : Backlink.check collection.identifier photo.url =
      .ok (!collection.isPending photo) := by
    rw [PublishedCollection.isPending, Bool.not_not, hidentifier]
    exact Backlink.check_of_not_unwritable hwritable
  cases h with
  | unwritable hurl => exact absurd hurl hwritable
  | unlinkable hlong hpending hgrants =>
    rw [hpending] at hcheck
    have hgranted : state.access.refused? backlinkTransaction = none := by
      rw [← Option.isNone_iff_eq_none, hunderway.ledger.grants_eq, hgrants]
    obtain ⟨second, hmade⟩ := Backlink.make_of_clocked (n := n) hclocked
    rw [if_pos hlong, ← hidentifier] at hmade
    exact .inl ⟨_, _, .unlinked hcheck hgranted hmade⟩
  | undatable hlinked htime hbeyond =>
    rw [hlinked] at hcheck
    rw [← hunderway.zone] at hbeyond
    obtain ⟨failure, hmessage⟩ : ∃ failure, keptMessage state.zone collection photo = .error failure :=
      (keptMessage_error_iff (hcalm.edits photo hmem)).2 ⟨_, htime, _, hbeyond⟩
    exact .inl ⟨_, _, .unreported hcheck hmessage⟩
  | uncountable hcount => exact .inr ⟨_, hcount⟩

/-- **A photo lets the batch go on** exactly if its turn returns and can be reported. -/
theorem not_stops_iff : ¬ Stops start collection n done photo ↔
    ∃ fate after portion,
      (convertPhoto place done.length collection photo).run.run state = (.ok fate, after) ∧
      ProgressScope.portionOf (.whole (done.length + 1 : Nat)) (.whole collection.photos.length) =
        .ok portion := by
  constructor
  · intro hgoes
    rcases hturn : (convertPhoto place done.length collection photo).run.run state with ⟨outcome, after⟩
    cases outcome with
    | error failure =>
      exact absurd (stops_of_breaks hcalm hcollection hunderway (convertPhoto_error_iff.1 hturn)) hgoes
    | ok fate =>
      cases hportion : ProgressScope.portionOf (.whole (done.length + 1 : Nat))
          (.whole collection.photos.length) with
      | error failure => exact absurd (.uncountable hportion) hgoes
      | ok portion => exact ⟨fate, after, portion, rfl, rfl⟩
  · rintro ⟨fate, after, portion, hturn, hportion⟩ hstops
    rcases breaks_of_stops hcalm hcollection hunderway hstops with
      ⟨failure, after', hbreaks⟩ | ⟨failure, hcount⟩
    · cases hturn.symm.trans (convertPhoto_error_iff.2 hbreaks)
    · cases hportion.symm.trans hcount

end Step

/-! ## Batches -/

/-- A loop that is not cancelled returns if the turn of its first photo does and can be reported, and the loop
over the other photos returns then. -/
theorem convertPhotos_cons_returns_iff {scope index : Nat}
    (hpoll : (isCancelled scope).run.run state = (.ok false, state)) :
    (∃ result' last, (convertPhotos place scope collection index (photo :: rest) result).run.run state =
        (.ok result', last)) ↔
      ∃ fate after portion,
        ((convertPhoto place index collection photo).run.run state = (.ok fate, after) ∧
          ProgressScope.portionOf (.whole (index + 1 : Nat)) (.whole collection.photos.length) =
            .ok portion) ∧
        ∃ result' last,
          (convertPhotos place scope collection (index + 1) rest (countFate result fate)).run.run
            (after.reported scope portion (index + 1) collection.photos.length) = (.ok result', last) := by
  rw [convertPhotos, run_bind_ok hpoll, if_neg Bool.false_ne_true]
  constructor
  · rintro ⟨result', last, h⟩
    obtain ⟨fate, after, hturn, h⟩ := exists_of_run_bind_ok h
    have hreport := report_run scope (index + 1) collection.photos.length after
    cases hportion : ProgressScope.portionOf (.whole (index + 1 : Nat))
        (.whole collection.photos.length) with
    | error failure =>
      rw [hportion] at hreport
      rw [run_bind_error hreport] at h
      cases h
    | ok portion =>
      rw [hportion] at hreport
      rw [run_bind_ok hreport] at h
      exact ⟨fate, after, portion, ⟨hturn, rfl⟩, result', last, h⟩
  · rintro ⟨fate, after, portion, ⟨hturn, hportion⟩, result', last, h⟩
    have hreport := report_run scope (index + 1) collection.photos.length after
    rw [hportion] at hreport
    rw [run_bind_ok hturn, run_bind_ok hreport]
    exact ⟨result', last, h⟩

/-- **The loop returns exactly if no photo stops it.** -/
theorem convertPhotos_returns_iff (hcalm : Undisturbed start place n)
    (hcollection : collection = start.collectionAt place)
    (hunderway : Underway start place collection done rest result state) :
    (∃ result' last, (convertPhotos place start.scopes.length collection done.length rest result).run.run
        state = (.ok result', last)) ↔
      ∀ before photo behind, rest = before ++ photo :: behind →
        ¬ Stops start collection n (done ++ before) photo := by
  -- On the photos to come. Each of them is asked with the books that those before it have left.
  induction rest generalizing done result state with
  | nil =>
    refine iff_of_true ⟨_, _, rfl⟩ fun before photo behind hsplit => ?_
    cases before <;> cases hsplit
  | cons photo rest ih =>
    have hpoll : (isCancelled start.scopes.length).run.run state = (.ok false, state) := by
      rw [hunderway.reported.isCancelled_run, cancels, hcalm.notCancelled]
      rfl
    have hnext : ∀ fate after portion,
        (convertPhoto place done.length collection photo).run.run state = (.ok fate, after) →
        ProgressScope.portionOf (.whole (done.length + 1 : Nat)) (.whole collection.photos.length) =
          .ok portion →
        ((∃ result' last,
            (convertPhotos place start.scopes.length collection (done.length + 1) rest
              (countFate result fate)).run.run (after.reported start.scopes.length portion
                (done.length + 1) collection.photos.length) = (.ok result', last)) ↔
          ∀ before later behind, rest = before ++ later :: behind →
            ¬ Stops start collection n (done ++ photo :: before) later) := by
      intro fate after portion hturn hportion
      have hrest := ih (hunderway.next hturn hportion)
      simpa only [List.length_append, List.length_singleton, List.append_assoc,
        List.singleton_append] using hrest
    rw [convertPhotos_cons_returns_iff hpoll, forall_split_cons, List.append_nil,
      not_stops_iff hcalm hcollection hunderway]
    constructor
    · rintro ⟨fate, after, portion, ⟨hturn, hportion⟩, hrest⟩
      exact ⟨⟨fate, after, portion, hturn, hportion⟩,
        (hnext fate after portion hturn hportion).1 hrest⟩
    · rintro ⟨⟨fate, after, portion, hturn, hportion⟩, hrest⟩
      exact ⟨fate, after, portion, ⟨hturn, hportion⟩,
        (hnext fate after portion hturn hportion).2 hrest⟩

theorem convertCollection_run (place : Nat) (start : Conversion) :
    (convertCollection place).run.run start =
      (((convertPhotos place start.scopes.length (start.collectionAt place) 0
            (start.collectionAt place).photos
            { photos := (start.collectionAt place).photos.length }).run.run
          (start.withNewScope (scopeTitle (start.collectionAt place)))).1,
        ((convertPhotos place start.scopes.length (start.collectionAt place) 0
            (start.collectionAt place).photos
            { photos := (start.collectionAt place).photos.length }).run.run
          (start.withNewScope (scopeTitle (start.collectionAt place)))).2.withFinished
            start.scopes.length) :=
  (run_bind_ok (run_get start)).trans (withScope_run _ _ _)

/-- A batch that returns has processed all photos if it was not cancelled. -/
theorem processed_eq_photos (hfree : start.cancelAfter start.scopes.length = none)
    (h : (convertCollection place).run.run start = (.ok result, after)) :
    result.processed = result.photos := by
  have hhalted := convertCollection_halted h
  obtain ⟨processed, hprocessed, hstops⟩ := hhalted.stops
  have hcancels : start.cancels start.scopes.length processed = false := by
    rw [cancels, hfree]
    rfl
  have hlength : processed = (start.photosAt place).length := by
    refine Nat.le_antisymm hstops.le (Nat.le_of_not_lt fun hlt => ?_)
    cases hcancels.symm.trans (hstops.cancelled hlt)
  rw [hprocessed, hhalted.photos, hlength]

/-- **A batch runs to the end exactly if no photo stops it.** -/
theorem convertCollection_returns_iff (hcalm : Undisturbed start place n) :
    (∃ result finish, (convertCollection place).run.run start = (.ok result, finish) ∧
        result.processed = result.photos) ↔
      ∀ before photo behind, start.photosAt place = before ++ photo :: behind →
        ¬ Stops start (start.collectionAt place) n before photo := by
  have hunderway : Underway start place (start.collectionAt place) [] (start.photosAt place)
      { photos := (start.collectionAt place).photos.length }
      (start.withNewScope (scopeTitle (start.collectionAt place))) :=
    ⟨ledger_withNewScope start place _, ⟨⟨_, rfl⟩, rfl⟩, rfl⟩
  refine Iff.trans ⟨?_, ?_⟩ (convertPhotos_returns_iff hcalm rfl hunderway)
  · rintro ⟨result, finish, hrun, -⟩
    rw [convertCollection_run] at hrun
    exact ⟨result, _, Prod.ext (Prod.mk.inj hrun).1 rfl⟩
  · rintro ⟨result, finish, hloop⟩
    have hloop' : (convertPhotos place start.scopes.length (start.collectionAt place) 0
          (start.collectionAt place).photos
          { photos := (start.collectionAt place).photos.length }).run.run
        (start.withNewScope (scopeTitle (start.collectionAt place))) = (.ok result, finish) := hloop
    have hrun : (convertCollection place).run.run start =
        (.ok result, finish.withFinished start.scopes.length) := by
      rw [convertCollection_run, hloop']
    exact ⟨result, _, hrun, processed_eq_photos hcalm.notCancelled hrun⟩

/-- Photos that have their backlinks, one with a time, photos without, and refusals by the host. -/
def calmRun : Conversion where
  catalog := [{
    name := .text "Album".toList
    identifier := .whole 12
    photos := [{ url := some "12/1500000000".toList }, {}, { url := some "photo/12".toList },
      { url := some "4/4".toList, refusal := some .general }, { url := some "9/9".toList }] }]
  clock := { now := Binary64.ofInt 1600000000, later := [Binary64.ofInt 1600000100] }
  access := { refusals := fun number => if number = 0 then some .writeTimeout else none }

/-- A run that nothing disturbs, with every fate a photo can have, in which no photo stops the batch. -/
theorem convertCollection_returns_iff_calm :
    Undisturbed calmRun 0 12 ∧
      ∀ before photo behind, calmRun.photosAt 0 = before ++ photo :: behind →
        ¬ Stops calmRun (calmRun.collectionAt 0) 12 before photo := by
  have hcalm : Undisturbed calmRun 0 12 := {
    identifier := rfl
    edits := by
      have hedits : (calmRun.photosAt 0).map PublishedPhoto.lastEdit = List.replicate 5 .null := rfl
      exact fun photo hphoto => List.eq_of_mem_replicate (hedits ▸ List.mem_map_of_mem hphoto)
    clock := Timestamp.clocked_of_all (by decide +kernel)
    access := by
      intro number family hfamily
      obtain ⟨-, hfamily⟩ := Option.ite_none_right_eq_some.1 hfamily
      rw [← Option.some.inj hfamily]
      rfl
    refusals := by
      have hrefusals : (calmRun.photosAt 0).all (fun photo =>
          photo.refusal.all Family.isOwn) = true := by decide +kernel
      intro photo hphoto family hfamily
      have hall := List.all_eq_true.1 hrefusals photo hphoto
      rwa [hfamily] at hall
    notCancelled := rfl }
  have hresult : ((convertCollection 0).run.run calmRun).1.toOption = some ⟨5, 5, 1, 2⟩ := by
    decide +kernel
  exact ⟨hcalm, (convertCollection_returns_iff hcalm).1 ⟨_, _, run_eq_of_toOption hresult, rfl⟩⟩

/-- One photo, with a backlink whose time lies beyond what clocks can show. -/
def farRun : Conversion where
  catalog := [{
    name := .text "Album".toList
    identifier := .whole 12
    photos := [{ identifier := .text "a".toList, url := some "12/99999999999999999999".toList }] }]
  clock := { now := Binary64.ofInt 1600000000 }

/-- A run that nothing disturbs may fail. -/
theorem convertCollection_fails_far :
    Undisturbed farRun 0 12 ∧
      ((convertCollection 0).run.run farRun).1 = .error (.instant .outsideClock) := by
  refine ⟨{
    identifier := rfl
    edits := by
      intro photo hphoto
      obtain rfl := List.mem_singleton.1 hphoto
      rfl
    clock := Timestamp.clocked_of_all (by decide +kernel)
    access := fun number family hfamily => nomatch hfamily
    refusals := by
      intro photo hphoto family hfamily
      obtain rfl := List.mem_singleton.1 hphoto
      cases hfamily
    notCancelled := rfl }, ?_⟩
  have hfault : (match ((convertCollection 0).run.run farRun).1 with
      | .error (.instant fault) => some fault
      | _ => none) = some .outsideClock := by decide +kernel
  split at hfault
  · rename_i fault heq
    rw [heq, Option.some.inj hfault]
  · cases hfault

end Conversion

end PhotoPublish
