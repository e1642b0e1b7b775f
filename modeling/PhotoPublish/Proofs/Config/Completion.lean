import PhotoPublish.Proofs.Config.Entries
import PhotoPublish.Proofs.Number.Numeral
import PhotoPublish.Upload.Batch

/-!
# Completed settings

Validating a mapping of texts refuses it if it is unsound and completes it otherwise, unless a whole number in it
has too many digits to be written.

* `Config.validate_ok_iff`: all that validating can return.
* `Config.validate_entries`: the entries of a config that was returned make the same config again.
* `Config.validate_settles_iff`: when validating does what it should (`Config.Settles`).
-/

set_option autoImplicit false

namespace PhotoPublish

namespace Config

variable {entries : Entries} {config : Config} {setting : Setting} {v scheme host : Value} {cause : Failure}

/-! ## What validating returns -/

theorem isProtocol_iff : isProtocol v = true ↔ v = .text "http".toList ∨ v = .text "https".toList := by
  cases v <;> simp [isProtocol, protocols]

theorem fault?_eq_none_iff :
    config.fault? = none ↔ isProtocol (config.value .protocol) = true ∧
      ((config.value .copyTree).isSet = true → (config.value .sourceRoot).isSet = true) ∧
      ((config.value .rename).isSet = true → (config.value .filename).isSet = true) := by
  unfold fault?
  split
  · simp_all
  · split
    · simp_all
    · split <;> simp_all

/-- **Validating returns** the completed config if no key is unknown, the values go together and the address, if
it is to be made, can be written. -/
theorem validate_ok_iff :
    validate entries = .ok config ↔ entries.unknown = [] ∧ (complete entries).fault? = none ∧
      ¬((complete entries).lacksAddress = true ∧
        ((complete entries).value .serverName).hasLongWhole = true) ∧
      (complete entries).withAddress = config := by
  unfold validate
  by_cases hknown : entries.unknown = []
  case neg =>
    have hempty : entries.unknown.isEmpty = false := List.isEmpty_eq_false_iff.2 hknown
    simp only [hempty, Bool.false_eq_true, if_false, hknown, false_and, iff_false]
    split <;> exact nofun
  case pos =>
    simp only [hknown, List.isEmpty_nil, if_true]
    cases hfault : (complete entries).fault? with
    | some fault => simp
    | none =>
      by_cases hlong : (complete entries).lacksAddress = true ∧
          ((complete entries).value .serverName).hasLongWhole = true
      · simp [hlong]
      · simp only [Bool.and_eq_true, if_neg hlong, Except.ok.injEq, true_and]
        exact (and_iff_right hlong).symm

section Mapping

variable (hmapping : entries.IsMapping)
include hmapping

/-- **Entries are sound** if their keys are known and the completed config has no fault. -/
theorem not_isUnsound_iff :
    ¬entries.IsUnsound ↔ entries.unknown = [] ∧ (complete entries).fault? = none := by
  rw [Entries.unknown_eq_nil_iff hmapping, fault?_eq_none_iff]
  constructor
  · intro hsound
    refine ⟨fun name v hgiven => ?_, ?_, fun htree => ?_, fun hrename => ?_⟩
    · by_contra hno
      exact hsound (.unknown hgiven fun setting hname => hno ⟨setting, hname⟩)
    · by_contra hno
      rw [isProtocol_iff, not_or] at hno
      exact hsound (.protocol (hmapping.effective _) hno.1 hno.2)
    · by_contra hno
      exact hsound (.tree (hmapping.effective _) htree (hmapping.effective _) (Bool.eq_false_iff.2 hno))
    · by_contra hno
      exact hsound
        (.rename (hmapping.effective _) hrename (hmapping.effective _) (Bool.eq_false_iff.2 hno))
  · rintro ⟨hknown, hprotocol, htree, hrename⟩ hunsound
    cases hunsound with
    | unknown hgiven hunknown =>
      obtain ⟨setting, hname⟩ := hknown _ _ hgiven
      exact hunknown setting hname
    | protocol heffective hhttp hhttps =>
      obtain rfl := hmapping.eq_value heffective
      exact (isProtocol_iff.1 hprotocol).elim hhttp hhttps
    | tree htreeOf hset hroot hunset =>
      obtain rfl := hmapping.eq_value htreeOf
      obtain rfl := hmapping.eq_value hroot
      exact Bool.false_ne_true (hunset.symm.trans (htree hset))
    | rename hrenameOf hset hfilename hunset =>
      obtain rfl := hmapping.eq_value hrenameOf
      obtain rfl := hmapping.eq_value hfilename
      exact Bool.false_ne_true (hunset.symm.trans (hrename hset))

theorem lacksAddress_iff :
    entries.LacksAddress scheme host ↔ (complete entries).lacksAddress = true ∧
      scheme = (complete entries).value .protocol ∧ host = (complete entries).value .serverName := by
  constructor
  · rintro ⟨hprotocol, hserver, hnamed, url, hurl, hunset⟩
    obtain rfl := hmapping.eq_value hprotocol
    obtain rfl := hmapping.eq_value hserver
    obtain rfl := hmapping.eq_value hurl
    simp [lacksAddress, hnamed, hunset]
  · rintro ⟨hlacks, rfl, rfl⟩
    simp only [lacksAddress, Bool.and_eq_true, Bool.not_eq_true'] at hlacks
    exact ⟨hmapping.effective _, hmapping.effective _, hlacks.1, _, hmapping.effective _, hlacks.2⟩

/-- **Every setting of the config that is returned** has its value from the entries, the defaults or the
name of the server. -/
theorem completed_iff :
    entries.Completed setting v ↔ (complete entries).withAddress.value setting = v := by
  by_cases hlacks : (complete entries).lacksAddress = true
  case pos =>
    -- The address is put in one place only; every other setting keeps its effective value.
    have hmade := (lacksAddress_iff hmapping).2 ⟨hlacks, rfl, rfl⟩
    simp only [withAddress, hlacks, if_true]
    constructor
    · intro h
      cases h with
      | address h =>
        obtain ⟨-, rfl, rfl⟩ := (lacksAddress_iff hmapping).1 h
        exact if_pos rfl
      | effective heffective hkept =>
        rw [if_neg fun hurl => hkept hurl _ _ hmade]
        exact (hmapping.eq_value heffective).symm
    · intro h
      by_cases hurl : setting = .serverUrl
      · subst hurl
        rw [if_pos rfl] at h
        exact h ▸ .address hmade
      · rw [if_neg hurl] at h
        exact .effective ((Entries.effective_iff hmapping).2 h.symm) fun hsame => absurd hsame hurl
  case neg =>
    have hkept : ∀ scheme host, ¬entries.LacksAddress scheme host := fun scheme host h =>
      hlacks ((lacksAddress_iff hmapping).1 h).1
    simp only [withAddress, hlacks]
    constructor
    · intro h
      cases h with
      | address h => exact absurd h (hkept _ _)
      | effective heffective => exact (hmapping.eq_value heffective).symm
    · intro h
      exact .effective ((Entries.effective_iff hmapping).2 h.symm) fun _ => hkept

/-- **What validating a mapping fails with,** unless it is a fault of the configuration: its keys are texts, which
can be sorted and shown. -/
theorem confuses_iff : Confuses entries cause ↔ entries.IsUnwritable ∧ cause = .longWhole := by
  constructor
  · intro hconfuses
    cases hconfuses with
    | order hkeys => exact absurd (Entries.pairwise_comparable_unknown hmapping) hkeys
    | digits hwords hlong =>
      cases hwords with
      | unknown _ hsorted =>
        rw [Value.hasLongWhole_of_sortKeys? hsorted, Entries.hasLongWhole_unknown hmapping] at hlong
        cases hlong
      | protocol hknown hbad =>
        rw [← Bool.not_eq_true, isProtocol_iff, not_or] at hbad
        exact ⟨.protocol ((Entries.unknown_eq_nil_iff hmapping).1 hknown) (hmapping.effective _) hbad.1
          hbad.2 hlong, rfl⟩
      | address hknown hsound hlacks =>
        exact ⟨.address ((not_isUnsound_iff hmapping).2 ⟨hknown, hsound⟩)
          ((lacksAddress_iff hmapping).2 ⟨hlacks, rfl, rfl⟩) hlong, rfl⟩
  · rintro ⟨hunwritable, rfl⟩
    cases hunwritable with
    | protocol hknown hprotocol hhttp hhttps hlong =>
      obtain rfl := hmapping.eq_value hprotocol
      refine .digits (.protocol ((Entries.unknown_eq_nil_iff hmapping).2 hknown) ?_) hlong
      rw [← Bool.not_eq_true, isProtocol_iff, not_or]
      exact ⟨hhttp, hhttps⟩
    | address hsound hlacks hlong =>
      obtain ⟨hknown, hfault⟩ := (not_isUnsound_iff hmapping).1 hsound
      obtain ⟨hmade, -, rfl⟩ := (lacksAddress_iff hmapping).1 hlacks
      exact .digits (.address hknown hfault hmade) hlong

end Mapping

/-! ## The entries of a config -/

theorem gives_entries_iff : config.entries.Gives setting v ↔ config.value setting = v := by
  unfold Entries.Gives Config.entries
  rw [List.mem_map]
  constructor
  · rintro ⟨other, -, hentry⟩
    obtain ⟨hkey, rfl⟩ := Prod.mk.inj hentry
    rw [Setting.name_inj.1 (Value.text.inj hkey)]
  · rintro rfl
    exact ⟨setting, Setting.mem_all setting, rfl⟩

theorem keys_entries (config : Config) :
    config.entries.map Prod.fst = Setting.all.map fun setting => .text setting.name := by
  unfold Config.entries
  rw [List.map_map]
  rfl

theorem isMapping_entries (config : Config) : config.entries.IsMapping := by
  constructor
  · rw [keys_entries]
    intro key hkey
    obtain ⟨setting, -, rfl⟩ := List.mem_map.1 hkey
    exact ⟨_, rfl⟩
  · rw [keys_entries]
    refine List.Nodup.map (fun setting other hkey => Setting.name_inj.1 (Value.text.inj hkey)) ?_
    decide

/-- A config is made of its own entries. -/
theorem complete_entries (config : Config) : complete config.entries = config := by
  have hvalue : (complete config.entries).value = config.value := by
    funext setting
    exact ((Entries.effective_iff (isMapping_entries config)).1 (.inl (gives_entries_iff.2 rfl))).symm
  exact congrArg Config.mk hvalue

theorem unknown_entries (config : Config) : config.entries.unknown = [] := by
  refine (Entries.unknown_eq_nil_iff (isMapping_entries config)).2 fun name v hgiven => ?_
  obtain ⟨setting, -, hentry⟩ := List.mem_map.1 hgiven
  exact ⟨setting, (Value.text.inj (Prod.mk.inj hentry).1).symm⟩

theorem value_withAddress (h : setting ≠ .serverUrl) :
    config.withAddress.value setting = config.value setting := by
  unfold withAddress
  split
  · exact if_neg h
  · rfl

theorem fault?_withAddress (config : Config) : config.withAddress.fault? = config.fault? := by
  unfold fault?
  rw [value_withAddress, value_withAddress, value_withAddress, value_withAddress, value_withAddress] <;> decide

/-- A config with an address does not lack one. -/
theorem lacksAddress_withAddress (config : Config) : config.withAddress.lacksAddress = false := by
  cases hlacks : config.lacksAddress with
  | false =>
    rw [withAddress, if_neg (Bool.eq_false_iff.1 hlacks)]
    exact hlacks
  | true =>
    rw [withAddress, if_pos hlacks]
    simp [lacksAddress, address, Value.isSet]

/-- **A config that was returned is made of its own entries again.** -/
theorem validate_entries (h : validate entries = .ok config) : validate config.entries = .ok config := by
  -- The address that was made is set, so that it is not made again.
  obtain ⟨-, hfault, -, rfl⟩ := validate_ok_iff.1 h
  rw [validate_ok_iff, complete_entries, fault?_withAddress, lacksAddress_withAddress]
  refine ⟨unknown_entries _, hfault, by simp, ?_⟩
  rw [withAddress, if_neg]
  rw [lacksAddress_withAddress]
  exact Bool.false_ne_true

end Config

/-! ## Batches with these settings -/

namespace UploadBatch

theorem ofEntries_ok_iff {entries : Entries} {batch : UploadBatch} :
    ofEntries entries = .ok batch ↔ ∃ config, Config.validate entries = .ok config ∧ batch = ⟨config, []⟩ := by
  unfold ofEntries
  cases Config.validate entries with
  | error failure => simp [bind, Except.bind]
  | ok config => simp [bind, Except.bind, pure, Except.pure, eq_comm]

/-- Noting albums leaves the settings alone. -/
theorem config_foldl_noteRemoved (batch : UploadBatch) (removed : List Text) :
    (removed.foldl noteRemoved batch).config = batch.config := by
  induction removed generalizing batch with
  | nil => rfl
  | cons path rest ih => exact ih (batch.noteRemoved path)

/-- Another batch that is made of the settings of this one has its settings and its patterns. -/
def IsRemade (batch : UploadBatch) : Prop :=
  ∃ other, ofEntries batch.config.entries = .ok other ∧ other.config = batch.config ∧
    other.albumPattern = batch.albumPattern ∧ other.filenamePattern = batch.filenamePattern

theorem isRemade_foldl_noteRemoved {entries : Entries} {batch : UploadBatch}
    (h : ofEntries entries = .ok batch) (removed : List Text) :
    (removed.foldl noteRemoved batch).IsRemade := by
  obtain ⟨config, hconfig, rfl⟩ := ofEntries_ok_iff.1 h
  have hsame : (removed.foldl noteRemoved ⟨config, []⟩).config = config := config_foldl_noteRemoved _ removed
  refine ⟨⟨config, []⟩, ?_, hsame.symm, ?_, ?_⟩
  · rw [hsame]
    exact ofEntries_ok_iff.2 ⟨config, Config.validate_entries hconfig, rfl⟩
  · unfold albumPattern
    rw [hsame]
  · unfold filenamePattern
    rw [hsame]

end UploadBatch

namespace Config

variable {entries : Entries} {cause : Failure}

/-! ## Refused or completed -/

/-- Validating settles the entries: it refuses them for a fault of the configuration if they are unsound and
completes them otherwise, so that the config is made of its own entries again, by itself and in a batch. -/
structure Settles (entries : Entries) : Prop where
  fails_iff : (∃ failure, validate entries = .error failure) ↔ entries.IsUnsound
  fault : ∀ failure, validate entries = .error failure → ∃ fault, failure = .config fault
  keys : ∀ config, validate entries = .ok config →
    config.entries.map Prod.fst = Setting.all.map fun setting => .text setting.name
  value : ∀ config, validate entries = .ok config →
    ∀ setting v, config.entries.Gives setting v ↔ entries.Completed setting v
  again : ∀ config, validate entries = .ok config → validate config.entries = .ok config
  batch : ∀ batch, UploadBatch.ofEntries entries = .ok batch →
    ∀ removed : List Text, (removed.foldl UploadBatch.noteRemoved batch).IsRemade

theorem not_settles_of_confuses (h : Confuses entries cause) : ¬Settles entries := by
  intro hsettles
  obtain ⟨fault, rfl⟩ := hsettles.fault cause ((validate_error_iff h.isForeign).2 h)
  exact h.isForeign fault rfl

section Mapping

variable (hmapping : entries.IsMapping)
include hmapping

theorem validate_of_isUnwritable (h : entries.IsUnwritable) : validate entries = .error .longWhole := by
  have hconfuses := (confuses_iff hmapping).2 ⟨h, rfl⟩
  exact (validate_error_iff hconfuses.isForeign).2 hconfuses

/-- Unless a number is too long, validating fails with faults of the configuration only. -/
theorem exists_fault_of_error (hwritable : ¬entries.IsUnwritable) (h : validate entries = .error cause) :
    ∃ fault, cause = .config fault := by
  by_contra hforeign
  rw [not_exists] at hforeign
  exact hwritable ((confuses_iff hmapping).1 ((validate_error_iff hforeign).1 h)).1

/-- Unless a number is too long, validating fails on unsound entries and on no others. -/
theorem fails_iff_isUnsound (hwritable : ¬entries.IsUnwritable) :
    (∃ failure, validate entries = .error failure) ↔ entries.IsUnsound := by
  constructor
  · rintro ⟨failure, hfailure⟩
    by_contra hsound
    obtain ⟨hknown, hfault⟩ := (not_isUnsound_iff hmapping).1 hsound
    have hok : validate entries = .ok (complete entries).withAddress := by
      refine validate_ok_iff.2 ⟨hknown, hfault, fun hlong => hwritable ?_, rfl⟩
      exact .address hsound ((lacksAddress_iff hmapping).2 ⟨hlong.1, rfl, rfl⟩) hlong.2
    cases hfailure.symm.trans hok
  · intro hunsound
    cases hvalidate : validate entries with
    | error failure => exact ⟨failure, rfl⟩
    | ok config =>
      obtain ⟨hknown, hfault, -⟩ := validate_ok_iff.1 hvalidate
      exact absurd hunsound ((not_isUnsound_iff hmapping).2 ⟨hknown, hfault⟩)

/-- **Validating settles a mapping,** unless a whole number in it has too many digits to be written; then it fails
for that number. -/
theorem validate_settles_iff :
    (Settles entries ↔ ¬entries.IsUnwritable) ∧
      (entries.IsUnwritable → validate entries = .error .longWhole) := by
  refine ⟨⟨fun hsettles hunwritable => ?_, fun hwritable => ?_⟩, validate_of_isUnwritable hmapping⟩
  · exact not_settles_of_confuses ((confuses_iff hmapping).2 ⟨hunwritable, rfl⟩) hsettles
  · refine ⟨fails_iff_isUnsound hmapping hwritable, fun _ => exists_fault_of_error hmapping hwritable,
      fun config _ => keys_entries config, fun config hconfig setting v => ?_,
      fun _ => validate_entries, fun _ => UploadBatch.isRemade_foldl_noteRemoved⟩
    obtain ⟨-, -, -, rfl⟩ := validate_ok_iff.1 hconfig
    rw [gives_entries_iff, completed_iff hmapping]

end Mapping

/-- Settings of a server that the source folders are copied to. -/
def mirrored : Entries :=
  [(.text "servername".toList, .text "photos".toList), (.text "copyTree".toList, .whole 1),
    (.text "srcRoot".toList, .text "/home".toList), (.text "serverUrl".toList, .null)]

/-- They are settled, and the address is made of the name. -/
theorem validate_settles_mirrored :
    mirrored.IsMapping ∧ Settles mirrored ∧ mirrored.Completed .serverUrl (.text "http://photos".toList) := by
  have hmapping : mirrored.IsMapping := by
    constructor <;> simp [mirrored]
  have hok : validate mirrored = .ok (complete mirrored).withAddress :=
    validate_ok_iff.2 ⟨rfl, rfl, by decide +kernel, rfl⟩
  refine ⟨hmapping, (validate_settles_iff hmapping).1.2 fun hunwritable => ?_,
    (completed_iff hmapping).2 rfl⟩
  cases hok.symm.trans ((validate_settles_iff hmapping).2 hunwritable)

/-- A whole number in place of the protocol that cannot be shown is no fault of the configuration. -/
theorem not_settles_of_longProtocol {n : Nat} (h : Numeral.longest < (Numeral.ofNat n).length) :
    ¬Settles [(.text "proto".toList, .whole n)] :=
  not_settles_of_confuses (.digits (.protocol rfl rfl) (decide_eq_true h))

/-- A number of 3601 hexadecimal digits cannot be shown. -/
theorem not_settles_vastProtocol : ¬Settles [(.text "proto".toList, .whole (Nat.pow 16 3600))] := by
  have hdigits : Nat.pow 10 Numeral.longest ≤ Nat.pow 16 3600 := by decide +kernel
  exact not_settles_of_longProtocol (Numeral.lt_length_ofNat (by decide) hdigits)

end Config

end PhotoPublish
