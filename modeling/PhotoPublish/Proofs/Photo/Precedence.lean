import PhotoPublish.Proofs.Photo.DateText

/-!
# The precedence of the sources of a capture date

The clock is the last source of a capture date. `TimeSource.Says` tells what a source says, by the kind of the value
that it holds.

* `TimeSource.says_asked_iff`: this is what is read from it.
* `Photo.captureDate_of_source`, `Photo.captureDate_of_silent`: the run up to the source that decides.
* `Photo.captureDate_decides`: the first source that says a time decides, and nothing beyond it is read or counts.
-/

set_option autoImplicit false

namespace PhotoPublish

/-- A source of a capture date: one that the host is asked for, or the clock. -/
inductive TimeSource where
  | asked (source : DateSource)
  | clock
deriving DecidableEq, Repr

namespace TimeSource

/-- All sources, those that count most first. -/
def all : List TimeSource :=
  DateSource.all.map asked ++ [clock]

/-- The calls that read a source. -/
def calls : TimeSource → List Call
  | asked source => [source.call]
  | clock => []

/-- The metadata that a source is read from; the clock has none. -/
def value (photo : Photo) : TimeSource → Value
  | asked source => source.value photo
  | clock => .null

/-- The clock after a source has been read. -/
def clockAfter (clock : Clock) : TimeSource → Clock
  | asked _ => clock
  | .clock => clock.tick

/-- Whole numbers; truth values count as zero and one. -/
def whole? : Value → Option Int
  | .whole n => some n
  | .bool b => some (if b then 1 else 0)
  | _ => none

/-- What a source says: a time, or nothing. -/
inductive Says (surroundings : Surroundings) (photo : Photo) (now : Binary64) :
    TimeSource → Option Binary64 → Prop
  /-- Null says nothing. -/
  | null {source : DateSource} : source ≠ .file → source.value photo = .null →
      Says surroundings photo now (asked source) none
  /-- A text says what its first date denotes, if it has one. -/
  | text {source : DateSource} {text : Text} {time? : Option Binary64} : source ≠ .file →
      source.value photo = .text text → parseIsoDate surroundings.zone text = .ok time? →
      Says surroundings photo now (asked source) time?
  /-- A date and time says its timestamp. -/
  | moment {key : Text} {taken : Bool} {moment : DateTime} {time : Binary64} :
      photo.raw.get key = .moment moment → moment.timestamp surroundings.zone = .ok time →
      Says surroundings photo now (asked (.raw key taken)) (some time)
  /-- A number says itself, zero as well. -/
  | real {key : Text} {taken : Bool} {time : Binary64} : photo.raw.get key = .real time →
      Says surroundings photo now (asked (.raw key taken)) (some time)
  | whole {key : Text} {taken : Bool} {n : Int} {time : Binary64} : whole? (photo.raw.get key) = some n →
      Binary64.ofInt? n = some time → Says surroundings photo now (asked (.raw key taken)) (some time)
  /-- Bytes say the number that they denote. -/
  | bytes {key : Text} {taken : Bool} {b : List UInt8} {time : Binary64} :
      photo.raw.get key = .bytes b → Binary64.readBytes b = .ok time →
      Says surroundings photo now (asked (.raw key taken)) (some time)
  /-- A created date that is not set says nothing. -/
  | unset : (photo.formattedFields.get DateSource.createdKey).isSet = false →
      Says surroundings photo now (asked .created) none
  /-- The file says when it was made, if there is one. -/
  | file : Says surroundings photo now (asked .file)
      (DateSource.ofFile surroundings (photo.raw.get Photo.pathKey))
  /-- The clock says the time that it shows. -/
  | clock : Says surroundings photo now clock (some now)

variable {surroundings : Surroundings} {photo : Photo} {now : Binary64} {time? : Option Binary64}

theorem toTimestamp_whole {zone : Zone} {value : Value} {n : Int} (h : whole? value = some n) :
    toTimestamp zone value =
      (Binary64.ofInt? n).elim (.error .wholeTooLarge) fun time => .ok (some time) := by
  cases value with
  | whole m =>
    obtain rfl : m = n := Option.some.inj h
    unfold toTimestamp
    dsimp only
    cases Binary64.ofInt? m <;> rfl
  | bool b =>
    obtain rfl : (if b then 1 else 0) = n := Option.some.inj h
    unfold toTimestamp
    dsimp only
    cases Binary64.ofInt? _ <;> rfl
  | _ => cases h

theorem toTimestamp_moment_ok_iff {zone : Zone} {moment : DateTime} :
    toTimestamp zone (.moment moment) = .ok time? ↔
      ∃ time, moment.timestamp zone = .ok time ∧ some time = time? := by
  unfold toTimestamp
  simp only [map_ok_iff, mapError_ok_iff]

theorem toTimestamp_bytes_ok_iff {zone : Zone} {b : List UInt8} :
    toTimestamp zone (.bytes b) = .ok time? ↔
      ∃ time, Binary64.readBytes b = .ok time ∧ some time = time? := by
  unfold toTimestamp
  simp only [map_ok_iff]

theorem Says.instant_eq {source : DateSource} (h : Says surroundings photo now (asked source) time?) :
    source.instant surroundings photo = .ok time? := by
  cases h with
  | null hsource hvalue =>
    cases source with
    | raw key taken =>
      show toTimestamp surroundings.zone (photo.raw.get key) = _
      rw [show photo.raw.get key = .null from hvalue]
      rfl
    | created =>
      show DateSource.ofCreated surroundings.zone (photo.formattedFields.get DateSource.createdKey) = _
      rw [show photo.formattedFields.get DateSource.createdKey = .null from hvalue]
      rfl
    | file => exact absurd rfl hsource
  | text hsource hvalue hparse => rw [DateSource.instant_of_text hsource hvalue, hparse]
  | moment hvalue htime =>
    exact (congrArg _ hvalue).trans (toTimestamp_moment_ok_iff.2 ⟨_, htime, rfl⟩)
  | real hvalue =>
    show toTimestamp _ _ = _
    rw [hvalue]
    rfl
  | whole hvalue htime =>
    show toTimestamp _ _ = _
    rw [toTimestamp_whole hvalue, htime]
    rfl
  | bytes hvalue htime =>
    exact (congrArg _ hvalue).trans (toTimestamp_bytes_ok_iff.2 ⟨_, htime, rfl⟩)
  | unset hvalue => exact if_neg (Bool.eq_false_iff.1 hvalue)
  | file => rfl

theorem says_of_whole {key : Text} {taken : Bool} {n : Int} (hvalue : whole? (photo.raw.get key) = some n)
    (h : toTimestamp surroundings.zone (photo.raw.get key) = .ok time?) :
    Says surroundings photo now (asked (.raw key taken)) time? := by
  rw [toTimestamp_whole hvalue] at h
  cases htime : Binary64.ofInt? n with
  | none =>
    rw [htime] at h
    cases h
  | some time =>
    rw [htime] at h
    obtain rfl := Except.ok.inj h
    exact .whole hvalue htime

theorem says_of_toTimestamp {key : Text} {taken : Bool}
    (h : toTimestamp surroundings.zone (photo.raw.get key) = .ok time?) :
    Says surroundings photo now (asked (.raw key taken)) time? := by
  cases hvalue : photo.raw.get key with
  | null =>
    rw [hvalue] at h
    obtain rfl := Except.ok.inj h
    exact .null nofun hvalue
  | text text =>
    rw [hvalue] at h
    exact .text nofun hvalue h
  | moment moment =>
    rw [hvalue] at h
    obtain ⟨time, htime, rfl⟩ := toTimestamp_moment_ok_iff.1 h
    exact .moment hvalue htime
  | bool b => exact says_of_whole (congrArg whole? hvalue) h
  | whole n => exact says_of_whole (congrArg whole? hvalue) h
  | real time =>
    rw [hvalue] at h
    obtain rfl := Except.ok.inj h
    exact .real hvalue
  | bytes b =>
    rw [hvalue] at h
    obtain ⟨time, htime, rfl⟩ := toTimestamp_bytes_ok_iff.1 h
    exact .bytes hvalue htime
  | date d | list items | map entries | enclosing isMap =>
    rw [hvalue] at h
    cases h

theorem says_of_ofCreated
    (h : DateSource.ofCreated surroundings.zone (photo.formattedFields.get DateSource.createdKey) =
      .ok time?) :
    Says surroundings photo now (asked .created) time? := by
  unfold DateSource.ofCreated at h
  split at h
  · cases hvalue : photo.formattedFields.get DateSource.createdKey with
    | text text =>
      rw [hvalue] at h
      exact .text nofun hvalue h
    | _ =>
      rw [hvalue] at h
      cases h
  · rename_i hset
    obtain rfl := Except.ok.inj h
    exact .unset (Bool.eq_false_iff.2 hset)

/-- **A source says what is read from it.** -/
theorem says_asked_iff {source : DateSource} :
    Says surroundings photo now (asked source) time? ↔ source.instant surroundings photo = .ok time? := by
  refine ⟨Says.instant_eq, fun h => ?_⟩
  cases source with
  | raw key taken => exact says_of_toTimestamp h
  | created => exact says_of_ofCreated h
  | file =>
    obtain rfl := Except.ok.inj h
    exact .file

end TimeSource

/-! ## The source that decides -/

namespace DateSource

/-- A source depends on its own metadata only. -/
theorem instant_congr {surroundings : Surroundings} {photo other : Photo} {source : DateSource}
    (h : source.value other = source.value photo) :
    source.instant surroundings other = source.instant surroundings photo := by
  cases source with
  | raw key taken => exact congrArg (toTimestamp surroundings.zone) h
  | created => exact congrArg (ofCreated surroundings.zone) h
  | file => exact congrArg (fun path => Except.ok (ofFile surroundings path)) h

/-- The first two sources say when a photo was taken. -/
theorem isTaken_iff {before later : List DateSource} {source : DateSource}
    (hall : all = before ++ source :: later) : source.isTaken = true ↔ before.length < 2 := by
  have hplace : ∀ i : Fin all.length, all[i].isTaken = true ↔ (i : Nat) < 2 := by decide
  have hlength : before.length < all.length := by
    rw [hall, List.length_append, List.length_cons]
    omega
  have hsource : all[before.length] = source := by
    simp [hall]
  rw [← hsource]
  exact hplace ⟨before.length, hlength⟩

end DateSource

namespace Photo

variable {surroundings : Surroundings} {photo : Photo} {before later : List DateSource}
  {source : DateSource}

/-- Silent sources are read one by one. -/
theorem callsAmong_append (h : Silent surroundings photo before) (later : List DateSource) :
    callsAmong surroundings photo (before ++ later) =
      before.map DateSource.call ++ callsAmong surroundings photo later := by
  induction before with
  | nil => rfl
  | cons source rest ih =>
    obtain ⟨hsource, hrest⟩ := List.forall_mem_cons.1 h
    rw [List.cons_append, callsAmong, hsource, List.map_cons, List.cons_append]
    exact congrArg (source.call :: ·) (ih hrest)

/-- **The run up to a source that gives an instant.** -/
theorem captureDate_of_source (hall : DateSource.all = before ++ source :: later)
    (hbefore : Silent surroundings photo before) {instant : Binary64}
    (h : source.instant surroundings photo = .ok (some instant)) (visit : Visit) :
    (photo.captureDate surroundings).run.run visit =
      ((shown surroundings instant).map fun time => (time, source.isTaken),
        { visit with calls := visit.calls ++ (before ++ [source]).map DateSource.call }) := by
  have hdate := dateAmong_append hbefore (source :: later)
  have hcalls := callsAmong_append hbefore (source :: later)
  rw [← hall, dateAmong, h] at hdate
  rw [← hall, callsAmong, h] at hcalls
  simp only at hdate hcalls
  rw [captureDate_run]
  unfold dateAt afterDating datingCalls readsClock
  rw [hdate, hcalls, List.map_append]
  cases hshown : shown surroundings instant <;> rfl

/-- **The run if all sources are silent.** -/
theorem captureDate_of_silent (h : Silent surroundings photo DateSource.all) (visit : Visit) :
    (photo.captureDate surroundings).run.run visit =
      ((shown surroundings visit.clock.now).map fun time => (time, false),
        { calls := visit.calls ++ DateSource.all.map DateSource.call, clock := visit.clock.tick }) := by
  have hdate := dateAmong_append h []
  have hcalls := callsAmong_append h []
  rw [List.append_nil] at hdate hcalls
  rw [captureDate_run]
  unfold dateAt afterDating datingCalls readsClock
  rw [hdate, hcalls]
  simp only [dateAmong, callsAmong, List.append_nil]
  rfl

/-- The first source that is not silent gives an instant, if the capture date is known. -/
theorem exists_instant (hall : DateSource.all = before ++ source :: later)
    (hbefore : Silent surroundings photo before) (hsource : source.instant surroundings photo ≠ .ok none)
    {visit after : Visit} {found : Binary64 × Bool}
    (h : (photo.captureDate surroundings).run.run visit = (.ok found, after)) :
    ∃ instant, source.instant surroundings photo = .ok (some instant) := by
  cases hinstant : source.instant surroundings photo with
  | error failure =>
    have herror := @timeAt_of_error surroundings photo visit.clock.now before later source hall hbefore
      failure hinstant
    rw [captureDate_run] at h
    rw [timeAt, (Prod.mk.inj h).1] at herror
    cases herror
  | ok found =>
    cases found with
    | none => exact absurd hinstant hsource
    | some instant => exact ⟨instant, rfl⟩

/-- Sources that hold the same metadata in another photo are silent there as well. -/
theorem Silent.congr {other : Photo} (h : Silent surroundings photo before)
    (hvalues : ∀ source ∈ before.map TimeSource.asked, source.value other = source.value photo) :
    Silent surroundings other before := by
  intro source hmem
  have hvalue : source.value other = source.value photo := hvalues (.asked source) (List.mem_map_of_mem hmem)
  exact (DateSource.instant_congr hvalue).trans (h source hmem)

theorem says_none_of_silent (h : Silent surroundings photo before) (now : Binary64) :
    ∀ source ∈ before.map TimeSource.asked, source.Says surroundings photo now none := by
  intro source hmem
  obtain ⟨asked, hasked, rfl⟩ := List.mem_map.1 hmem
  exact TimeSource.says_asked_iff.2 (h asked hasked)

theorem flatMap_calls_asked (sources : List DateSource) :
    (sources.map TimeSource.asked).flatMap TimeSource.calls = sources.map DateSource.call := by
  induction sources with
  | nil => rfl
  | cons source rest ih =>
    rw [List.map_cons, List.flatMap_cons, ih]
    rfl

/-- **The first source that says a time decides.** All sources before it say nothing, the flag tells whether it is one
of the first two, it is the last one that is read, and no other metadata counts. -/
theorem captureDate_decides {visit after : Visit} {time : Binary64} {taken : Bool}
    (h : (photo.captureDate surroundings).run.run visit = (.ok (time, taken), after)) :
    ∃ before decider later, TimeSource.all = before ++ decider :: later ∧
      (∀ source ∈ before, source.Says surroundings photo visit.clock.now none) ∧
      decider.Says surroundings photo visit.clock.now (some time) ∧
      (taken = true ↔ before.length < 2) ∧
      after.calls = visit.calls ++ (before ++ [decider]).flatMap TimeSource.calls ∧
      after.clock = decider.clockAfter visit.clock ∧
      ∀ other : Photo, (∀ source ∈ before ++ [decider], source.value other = source.value photo) →
        (other.captureDate surroundings).run.run visit = (.ok (time, taken), after) := by
  rcases @silent_or_first surroundings photo DateSource.all with
    hsilent | ⟨before, source, later, hall, hbefore, hsource⟩
  · have hrun := h
    rw [captureDate_of_silent hsilent] at hrun
    obtain ⟨hdate, rfl⟩ := Prod.mk.inj hrun
    obtain ⟨hfound, -⟩ := clocked_of_map hdate
    obtain ⟨rfl, rfl⟩ := Prod.mk.inj hfound
    refine ⟨DateSource.all.map .asked, .clock, [], rfl, says_none_of_silent hsilent _, .clock, by decide,
      rfl, rfl, fun other hvalues => ?_⟩
    have hother : Silent surroundings other DateSource.all :=
      hsilent.congr fun source hmem => hvalues source (List.mem_append_left _ hmem)
    rw [captureDate_of_silent hother, hdate]
  · obtain ⟨instant, hinstant⟩ := exists_instant hall hbefore hsource h
    have hrun := h
    rw [captureDate_of_source hall hbefore hinstant] at hrun
    obtain ⟨hdate, rfl⟩ := Prod.mk.inj hrun
    obtain ⟨hfound, -⟩ := clocked_of_map hdate
    obtain ⟨rfl, rfl⟩ := Prod.mk.inj hfound
    refine ⟨before.map .asked, .asked source, later.map .asked ++ [.clock], ?_,
      says_none_of_silent hbefore _, TimeSource.says_asked_iff.2 hinstant, ?_, ?_, rfl,
      fun other hvalues => ?_⟩
    · rw [TimeSource.all, hall, List.map_append, List.map_cons, List.append_assoc, List.cons_append]
    · rw [List.length_map]
      exact DateSource.isTaken_iff hall
    · rw [List.flatMap_append, flatMap_calls_asked, List.map_append]
      rfl
    · have hother : Silent surroundings other before :=
        hbefore.congr fun source' hmem => hvalues source' (List.mem_append_left _ hmem)
      have hinstant' := (DateSource.instant_congr
        (hvalues (.asked source) (List.mem_append_right _ (.head _)))).trans hinstant
      rw [captureDate_of_source hall hother hinstant', hdate]

/-- A text without a date, a zero behind it, and a later date. -/
def digitized (later : Text) : Photo :=
  { raw := [("dateTimeOriginalISO8601".toList, .text "garbage".toList),
      ("dateTimeDigitized".toList, .whole 0), ("dateTimeDigitizedISO8601".toList, .text later)] }

/-- Zero is a time, and the date behind it does not count, whatever it is. -/
theorem captureDate_decides_digitized : ∃ after : Visit,
    ((digitized "2020-01-01".toList).captureDate {}).run.run { clock := default } =
      (.ok (.finite 0, false), after) ∧
    after.calls = [.raw "dateTimeOriginal".toList, .raw "dateTimeOriginalISO8601".toList,
      .raw "dateTimeDigitized".toList] ∧
    ∀ later, ((digitized later).captureDate {}).run.run { clock := default } =
      (.ok (.finite 0, false), after) := by
  have hrun := run_eq_of_toOption
    (show (((digitized "2020-01-01".toList).captureDate {}).run.run { clock := default }).1.toOption =
      some (.finite 0, false) by decide +kernel)
  obtain ⟨before, decider, behind, hall, -, -, -, hcalls, -, hothers⟩ := captureDate_decides hrun
  refine ⟨_, hrun, by decide +kernel, fun later => hothers (digitized later) ?_⟩
  -- Three calls are made, so that the third source decides.
  have htake : before ++ [decider] = TimeSource.all.take (before.length + 1) := by
    rw [hall, List.take_append, List.take_of_length_le (Nat.le_succ _), Nat.add_sub_cancel_left]
    rfl
  have hplace : ∀ n < TimeSource.all.length, (TimeSource.all.take (n + 1)).flatMap TimeSource.calls =
      [.raw "dateTimeOriginal".toList, .raw "dateTimeOriginalISO8601".toList,
        .raw "dateTimeDigitized".toList] → n = 2 := by decide
  have hlength : before.length < TimeSource.all.length := by
    rw [hall, List.length_append, List.length_cons]
    omega
  rw [htake, hplace before.length hlength (by rw [← htake]; exact hcalls.symm.trans (by decide +kernel))]
  exact List.forall_mem_cons.2 ⟨rfl, List.forall_mem_cons.2 ⟨rfl, List.forall_mem_cons.2 ⟨rfl, nofun⟩⟩⟩

end Photo

end PhotoPublish
