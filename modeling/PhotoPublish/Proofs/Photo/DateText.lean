import PhotoPublish.Proofs.Calendar.Denotation
import PhotoPublish.Proofs.Photo.CaptureDate

/-!
# Dates in the texts of metadata

A source of the capture date may hold any text.

* `DateSource.instant_of_text`: it gives what the first ISO date of the text denotes.
* `parseIsoDate_returns_iff`: which texts can be read, and which of them give nothing, so that the next source
  is asked.
-/

set_option autoImplicit false

namespace PhotoPublish

namespace DateSource

variable {surroundings : Surroundings} {photo : Photo} {source : DateSource} {text : Text}

/-- The metadata that a source is read from. -/
def value (photo : Photo) : DateSource → Value
  | raw key _ => photo.raw.get key
  | created => photo.formattedFields.get createdKey
  | file => photo.raw.get Photo.pathKey

/-- A text gives what its first date denotes. -/
theorem instant_of_text (hsource : source ≠ file) (h : source.value photo = .text text) :
    source.instant surroundings photo = parseIsoDate surroundings.zone text := by
  cases source with
  | raw key taken =>
    show toTimestamp surroundings.zone (photo.raw.get key) = _
    rw [show photo.raw.get key = .text text from h]
    rfl
  | created =>
    show ofCreated surroundings.zone (photo.formattedFields.get createdKey) = _
    rw [show photo.formattedFields.get createdKey = .text text from h]
    cases text with
    | nil => rfl
    | cons c rest => rfl
  | file => exact absurd rfl hsource

end DateSource

namespace Photo

variable {surroundings : Surroundings} {photo : Photo} {source : DateSource}

/-- After a silent source the next ones are asked. -/
theorem firstDate_of_silent (h : source.instant surroundings photo = .ok none) (rest : List DateSource)
    (visit : Visit) :
    (photo.firstDate surroundings (source :: rest)).run.run visit =
      (photo.firstDate surroundings rest).run.run { visit with calls := visit.calls ++ [source.call] } := by
  have hread := DateSource.read_run surroundings photo source visit
  rw [h] at hread
  rw [firstDate, run_bind_ok hread]

end Photo

open IsoDate

variable {zone : Zone}

/-- **Which texts can be read as dates.** Reading fails only for a number beyond all calendars and for a local time
at an end of the calendar. All other texts whose first date denotes nothing give nothing, and then the next source
of the capture date is asked. -/
theorem parseIsoDate_returns_iff (hzone : zone ∈ Zone.supported) (text : Text) :
    ((∃ result, parseIsoDate zone text = .ok result) ↔ ¬ Fails zone text) ∧
      (parseIsoDate zone text = .ok none ↔ ∀ date, find? text = some date → date.IsVoid) ∧
      ∀ (surroundings : Surroundings) (photo : Photo) (source : DateSource) (rest : List DateSource)
        (visit : Visit), surroundings.zone = zone → source ≠ .file → source.value photo = .text text →
        (∀ date, find? text = some date → date.IsVoid) →
        (photo.firstDate surroundings (source :: rest)).run.run visit =
          (photo.firstDate surroundings rest).run.run
            { visit with calls := visit.calls ++ [source.call] } := by
  refine ⟨?_, parseIsoDate_none_iff, ?_⟩
  · rw [← parseIsoDate_error_iff hzone]
    cases parseIsoDate zone text with
    | error failure => exact iff_of_false nofun (not_not_intro ⟨failure, rfl⟩)
    | ok result => exact iff_of_true ⟨result, rfl⟩ nofun
  · rintro surroundings photo source rest visit rfl hsource htext hvoid
    apply Photo.firstDate_of_silent
    rw [DateSource.instant_of_text hsource htext]
    exact parseIsoDate_none_iff.2 hvoid

/-- The last second that can be read in India, and a month that does not exist. -/
theorem parseIsoDate_returns_evening :
    Zone.ist ∈ Zone.supported ∧
      (∃ result, parseIsoDate Zone.ist "9999-12-31T18:29:59".toList = .ok result) ∧
      (Photo.firstDate { zone := Zone.ist } { raw := [("taken".toList, .text "2020-13-45".toList)] }
        [.raw "taken".toList true]).run.run { clock := default } =
          (.ok none, { calls := [.raw "taken".toList], clock := default }) := by
  have hfind : find? "9999-12-31T18:29:59".toList = some ⟨"9999".toList, "12".toList, "31".toList,
      "18".toList, "29".toList, "59".toList, none⟩ := by
    decide
  have hfind' : find? "2020-13-45".toList =
      some ⟨"2020".toList, "13".toList, "45".toList, [], [], [], none⟩ := by
    decide
  refine ⟨by decide, (parseIsoDate_returns_iff (by decide) _).1.2 fun hfails => ?_, ?_⟩
  · cases hfails with
    | vast hdate hvast =>
      obtain rfl := Option.some.inj (hfind.symm.trans hdate)
      obtain ⟨-, part, hpart, hlarge⟩ := hvast
      revert part
      decide
    | marginal hdate hdenotes hoffset hmarginal =>
      obtain rfl := Option.some.inj (hfind.symm.trans hdate)
      obtain rfl := hdenotes.eq
      revert hmarginal
      decide
  · refine (parseIsoDate_returns_iff (by decide) "2020-13-45".toList).2.2 _ _ _ [] _ rfl nofun rfl ?_
    intro date hdate
    obtain rfl := Option.some.inj (hfind'.symm.trans hdate)
    refine .inr ⟨by decide, fun time hdenotes => ?_⟩
    have hproper := hdenotes.proper
    rw [hdenotes.eq] at hproper
    exact absurd hproper.date (by decide)

/-- A year of eleven digits cannot be read. -/
theorem parseIsoDate_fails_vast :
    ¬ ∃ result, parseIsoDate Zone.utc "99999999999-01-01".toList = .ok result := by
  rintro ⟨result, hresult⟩
  have hnone : (parseIsoDate Zone.utc "99999999999-01-01".toList).toOption = none := by decide
  rw [hresult] at hnone
  cases hnone

end PhotoPublish
