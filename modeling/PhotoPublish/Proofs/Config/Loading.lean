import Mathlib.Data.List.Pairwise
import PhotoPublish.Config.Load
import PhotoPublish.Proofs.Yaml.Faults

/-!
# How loading fails

Loading should fail with the faults of a configuration only. `Escapes` are the other failures.

* `Value.sortKeys?_eq_none_iff`: keys can be sorted if each two of them have an order.
* `Config.words_iff`: what validating puts into words.
* `Config.validate_error_iff`: what else than a fault of the configuration validating fails with.
* `Config.load_returns_or_refuses_iff`: loading fails with a fault of the configuration, or not at all, exactly
  when nothing escapes.
* `Config.escapes_of_readBytes`: whatever reading a document fails with escapes, apart from faults of the
  notation.
-/

set_option autoImplicit false

namespace PhotoPublish

/-! ## Keys that have an order -/

namespace Value

theorem SortKey.isSome_le?_iff (k l : SortKey) : (k.le? l).isSome = true ↔ k.ctorIdx = l.ctorIdx := by
  cases k <;> cases l <;> simp [le?, SortKey.ctorIdx]

/-- Two keys can be compared. -/
def Comparable (a b : Value) : Prop :=
  (a.le? b).isSome = true

theorem comparable_iff {a b : Value} :
    Comparable a b ↔ ∃ k l, a.sortKey? = some k ∧ b.sortKey? = some l ∧ k.ctorIdx = l.ctorIdx := by
  unfold Comparable le?
  cases a.sortKey? <;> cases b.sortKey? <;> simp [SortKey.isSome_le?_iff]

theorem Comparable.symm {a b : Value} (h : Comparable a b) : Comparable b a := by
  obtain ⟨k, l, ha, hb, hsame⟩ := comparable_iff.1 h
  exact comparable_iff.2 ⟨l, k, hb, ha, hsame.symm⟩

theorem Comparable.trans {a b c : Value} (h : Comparable a b) (h' : Comparable b c) :
    Comparable a c := by
  obtain ⟨k, l, ha, hb, hsame⟩ := comparable_iff.1 h
  obtain ⟨l', m, hb', hc, hsame'⟩ := comparable_iff.1 h'
  obtain rfl := Option.some.inj (hb.symm.trans hb')
  exact comparable_iff.2 ⟨k, m, ha, hc, hsame.trans hsame'⟩

/-- **Keys cannot be sorted** if two of them cannot be compared. -/
theorem sortKeys?_eq_none_iff {keys : List Value} :
    sortKeys? keys = none ↔ ¬keys.Pairwise Comparable := by
  match keys with
  | [] => simp [sortKeys?]
  | [key] => simp [sortKeys?]
  | first :: second :: rest =>
    -- Two keys are compared with the first one only, which is enough: keys of one kind have an order.
    have hall : (first :: second :: rest).Pairwise Comparable ↔
        ∀ key ∈ first :: second :: rest, Comparable first key := by
      constructor
      · intro h key hkey
        have htail := (List.pairwise_cons.1 h).1
        rcases List.mem_cons.1 hkey with rfl | hkey
        · have hsecond := htail second List.mem_cons_self
          exact hsecond.trans hsecond.symm
        · exact htail key hkey
      · intro h
        exact List.pairwise_of_forall_mem_list fun a ha b hb => (h a ha).symm.trans (h b hb)
    rw [hall]
    simp [sortKeys?, Comparable]

theorem anyLongWhole_eq (items : List Value) : anyLongWhole items = items.any hasLongWhole := by
  induction items with
  | nil => simp [anyLongWhole]
  | cons v rest ih => simp [anyLongWhole, ih]

theorem hasLongWhole_of_sortKeys? {keys sorted : List Value} (h : sortKeys? keys = some sorted) :
    (list sorted).hasLongWhole = (list keys).hasLongWhole := by
  have hperm : sorted.Perm keys := by
    unfold sortKeys? at h
    split at h
    · cases h; exact .refl _
    · cases h; exact .refl _
    · split at h
      · cases h; exact List.mergeSort_perm _ _
      · cases h
  simp only [hasLongWhole, anyLongWhole_eq]
  rw [Bool.eq_iff_iff, List.any_eq_true, List.any_eq_true]
  simp only [hperm.mem_iff]

end Value

/-! ## Entries that validating fails on -/

namespace Config

variable {entries : Entries} {cause : Failure} {value : Value}

/-- The failure is no fault of the configuration. -/
def IsForeign (cause : Failure) : Prop :=
  ∀ fault, cause ≠ .config fault

/-- What validating some entries puts into words: the unknown keys in their order, an invalid protocol, or the
server name that the address of the server is made of. -/
inductive Words (entries : Entries) : Value → Prop where
  | unknown {keys : List Value} (hunknown : entries.unknown ≠ [])
      (hsorted : Value.sortKeys? entries.unknown = some keys) : Words entries (.list keys)
  | protocol (hknown : entries.unknown = [])
      (hbad : isProtocol ((complete entries).value .protocol) = false) :
      Words entries ((complete entries).value .protocol)
  | address (hknown : entries.unknown = []) (hsound : (complete entries).fault? = none)
      (hlacks : (complete entries).lacksAddress = true) :
      Words entries ((complete entries).value .serverName)

/-- What validating some entries fails with, unless it is a fault of the configuration: unknown keys that cannot
be sorted, or a whole number that is too long for the words. -/
inductive Confuses (entries : Entries) : Failure → Prop where
  | order (hkeys : ¬entries.unknown.Pairwise Value.Comparable) : Confuses entries .wrongType
  | digits {value : Value} (hwords : Words entries value) (hlong : value.hasLongWhole = true) :
    Confuses entries .longWhole

theorem Confuses.isForeign (h : Confuses entries cause) : IsForeign cause := by
  cases h <;> exact nofun

/-- Of the faults in the values only an invalid protocol is shown. -/
theorem shown?_of_fault? {config : Config} {fault : ConfigFault} (h : config.fault? = some fault) :
    fault.shown? = some value ↔
      isProtocol (config.value .protocol) = false ∧ config.value .protocol = value := by
  cases hprotocol : isProtocol (config.value .protocol) with
  | false =>
    rw [fault?, hprotocol] at h
    obtain rfl := Option.some.inj h
    simp [ConfigFault.shown?]
  | true =>
    have hnone : fault.shown? = none := by
      simp only [fault?, hprotocol, Bool.not_true, Bool.false_eq_true, if_false] at h
      split at h
      · obtain rfl := Option.some.inj h
        rfl
      · split at h
        · obtain rfl := Option.some.inj h
          rfl
        · cases h
    simp [hnone]

theorem isProtocol_of_fault? {config : Config} (h : config.fault? = none) :
    isProtocol (config.value .protocol) = true := by
  by_contra hbad
  rw [fault?, Bool.eq_false_iff.2 hbad] at h
  cases h

theorem words_iff_of_known (hknown : entries.unknown = []) :
    Words entries value ↔
      isProtocol ((complete entries).value .protocol) = false ∧
          (complete entries).value .protocol = value ∨
        (complete entries).fault? = none ∧ (complete entries).lacksAddress = true ∧
          (complete entries).value .serverName = value := by
  constructor
  · intro h
    cases h with
    | unknown hunknown => exact absurd hknown hunknown
    | protocol _ hbad => exact .inl ⟨hbad, rfl⟩
    | address _ hsound hlacks => exact .inr ⟨hsound, hlacks, rfl⟩
  · rintro (⟨hbad, rfl⟩ | ⟨hsound, hlacks, rfl⟩)
    · exact .protocol hknown hbad
    · exact .address hknown hsound hlacks

/-- **What validating puts into words** is the value that is shown. -/
theorem words_iff : Words entries value ↔ shown? entries = some value := by
  by_cases hknown : entries.unknown = []
  case pos =>
    rw [words_iff_of_known hknown]
    simp only [shown?, hknown, List.isEmpty_nil, if_true]
    cases hfault : (complete entries).fault? with
    | some fault => simp [shown?_of_fault? hfault]
    | none => simp [isProtocol_of_fault? hfault]
  case neg =>
    simp only [shown?, List.isEmpty_eq_false_iff.2 hknown, Bool.false_eq_true, if_false,
      Option.map_eq_some_iff]
    constructor
    · intro h
      cases h with
      | unknown _ hsorted => exact ⟨_, hsorted, rfl⟩
      | protocol hempty => exact absurd hempty hknown
      | address hempty => exact absurd hempty hknown
    · rintro ⟨keys, hsorted, rfl⟩
      exact .unknown hknown hsorted

theorem validate_of_known (hknown : entries.unknown = []) :
    validate entries =
      match (complete entries).fault? with
      | some fault => .error fault.failure
      | none =>
        if (complete entries).lacksAddress && ((complete entries).value .serverName).hasLongWhole then
          .error .longWhole
        else .ok (complete entries).withAddress := by
  rw [validate, hknown]
  rfl

theorem validate_of_unknown (hunknown : entries.unknown ≠ []) :
    validate entries =
      match Value.sortKeys? entries.unknown with
      | some keys => .error (ConfigFault.unknownKeys keys).failure
      | none => .error .wrongType :=
  if_neg (by simpa using hunknown)

/-- A fault that shows no number that is too long is one of the configuration. -/
theorem failure_eq {fault : ConfigFault}
    (h : ∀ value, fault.shown? = some value → value.hasLongWhole = false) :
    fault.failure = .config fault := by
  have hshort : fault.hasLongWhole = false := by
    cases fault with
    | unknownKeys keys => exact h _ rfl
    | badProtocol protocol => exact h _ rfl
    | _ => rfl
  rw [ConfigFault.failure, hshort]
  rfl

/-- A whole number that is too long for the words is what validating fails with. -/
theorem validate_of_words (hwords : Words entries value) (hlong : value.hasLongWhole = true) :
    validate entries = .error .longWhole := by
  cases hwords with
  | unknown hunknown hsorted =>
    rw [validate_of_unknown hunknown, hsorted]
    exact congrArg Except.error (if_pos hlong)
  | protocol hknown hbad =>
    have hfault : (complete entries).fault? = some (.badProtocol ((complete entries).value .protocol)) := by
      rw [fault?, hbad]
      rfl
    rw [validate_of_known hknown, hfault]
    exact congrArg Except.error (if_pos hlong)
  | address hknown hsound hlacks =>
    rw [validate_of_known hknown, hsound]
    exact if_pos (by rw [hlacks, hlong]; rfl)

/-- If the keys can be sorted and the words can be written, validating fails with faults of the configuration
only. -/
theorem exists_fault_of_validate (hkeys : entries.unknown.Pairwise Value.Comparable)
    (hwords : ∀ value, shown? entries = some value → value.hasLongWhole = false)
    (h : validate entries = .error cause) : ∃ fault, cause = .config fault := by
  by_cases hknown : entries.unknown = []
  case pos =>
    simp only [shown?, hknown, List.isEmpty_nil, if_true] at hwords
    rw [validate_of_known hknown] at h
    cases hfault : (complete entries).fault? with
    | some fault =>
      rw [hfault] at h hwords
      exact ⟨fault, (Except.error.inj h).symm.trans (failure_eq hwords)⟩
    | none =>
      rw [hfault] at h hwords
      dsimp only at h
      split at h
      case isTrue hlong =>
        obtain ⟨hlacks, hlong⟩ := Bool.and_eq_true_iff.1 hlong
        cases hlong.symm.trans (hwords _ (if_pos hlacks))
      case isFalse => cases h
  case neg =>
    simp only [shown?, List.isEmpty_eq_false_iff.2 hknown, Bool.false_eq_true, if_false] at hwords
    rw [validate_of_unknown hknown] at h
    cases hsorted : Value.sortKeys? entries.unknown with
    | none => exact absurd hkeys (Value.sortKeys?_eq_none_iff.1 hsorted)
    | some keys =>
      rw [hsorted] at h hwords
      exact ⟨.unknownKeys keys, (Except.error.inj h).symm.trans (failure_eq hwords)⟩

/-- **Validating** fails with a fault of the configuration, or for one of these reasons. -/
theorem validate_error_iff (hforeign : IsForeign cause) :
    validate entries = .error cause ↔ Confuses entries cause := by
  constructor
  · intro h
    by_cases hkeys : entries.unknown.Pairwise Value.Comparable
    case neg =>
      have hunknown : entries.unknown ≠ [] := fun hknown => hkeys (hknown ▸ List.Pairwise.nil)
      rw [validate_of_unknown hunknown, Value.sortKeys?_eq_none_iff.2 hkeys] at h
      exact Except.error.inj h ▸ .order hkeys
    case pos =>
      by_cases hwords : ∃ value, shown? entries = some value ∧ value.hasLongWhole = true
      · obtain ⟨value, hshown, hlong⟩ := hwords
        have hvalidate := validate_of_words (words_iff.2 hshown) hlong
        exact Except.error.inj (hvalidate.symm.trans h) ▸ .digits (words_iff.2 hshown) hlong
      · have hshort : ∀ value, shown? entries = some value → value.hasLongWhole = false :=
          fun value hshown => Bool.eq_false_iff.2 fun hlong => hwords ⟨value, hshown, hlong⟩
        obtain ⟨fault, hfault⟩ := exists_fault_of_validate hkeys hshort h
        exact absurd hfault (hforeign fault)
  · intro h
    cases h with
    | order hkeys =>
      have hunknown : entries.unknown ≠ [] := fun hknown => hkeys (hknown ▸ List.Pairwise.nil)
      rw [validate_of_unknown hunknown, Value.sortKeys?_eq_none_iff.2 hkeys]
    | digits hwords hlong => exact validate_of_words hwords hlong

/-! ## Files -/

section Loading

variable {platform : Platform} {given : Option Text}

/-- The file that is chosen is opened and holds some bytes. -/
def Opens (platform : Platform) (given : Option Text) (bytes : ByteArray) : Prop :=
  ∃ path, chosenPath? given platform.environment = some path ∧ '\x00' ∉ path ∧
    platform.readFile path = .ok bytes

/-- The file that is chosen stands for some entries. -/
def Denotes (platform : Platform) (given : Option Text) (entries : Entries) : Prop :=
  ∃ bytes, Opens platform given bytes ∧
    (platform.readDocument bytes = .ok (.map entries) ∨
      platform.readDocument bytes = .ok .null ∧ entries = [])

/-- What loading fails with, unless it is a fault of the configuration. -/
inductive Escapes (platform : Platform) (given : Option Text) : Failure → Prop where
  | path {path : Text} (hchosen : chosenPath? given platform.environment = some path)
      (hnul : '\x00' ∈ path) : Escapes platform given .nulInPath
  /-- The document cannot be read for another reason than its notation and the system. -/
  | document {bytes : ByteArray} {cause : Failure} (hopens : Opens platform given bytes)
      (hread : platform.readDocument bytes = .error (.failure cause)) (hforeign : IsForeign cause)
      (hsystem : cause.family ≠ .system) : Escapes platform given cause
  /-- The unknown keys cannot be sorted. -/
  | order {entries : Entries} (hdenotes : Denotes platform given entries)
      (hkeys : ¬entries.unknown.Pairwise Value.Comparable) : Escapes platform given .wrongType
  /-- The stack does not suffice for the words. -/
  | stack {entries : Entries} {value : Value} (hdenotes : Denotes platform given entries)
      (hwords : Words entries value) (hdeep : platform.isTooDeep value = true) :
      Escapes platform given .exhausted
  /-- A whole number is too long for the words. -/
  | digits {entries : Entries} {value : Value} (hdenotes : Denotes platform given entries)
      (hwords : Words entries value) (hshallow : platform.isTooDeep value = false)
      (hlong : value.hasLongWhole = true) : Escapes platform given .longWhole

theorem Escapes.isForeign (h : Escapes platform given cause) : IsForeign cause := by
  cases h with
  | document _ _ hforeign => exact hforeign
  | path | order | stack | digits => exact nofun

theorem validateOn_of_words (hwords : Words entries value) :
    validateOn platform entries =
      if platform.isTooDeep value then .error .exhausted else validate entries := by
  rw [validateOn, words_iff.1 hwords]
  rfl

theorem validateOn_of_wordless (h : shown? entries = none) :
    validateOn platform entries = validate entries := by
  rw [validateOn, h]
  rfl

/-- Keys that cannot be sorted are not shown. -/
theorem validateOn_of_unordered (hkeys : ¬entries.unknown.Pairwise Value.Comparable) :
    validateOn platform entries = .error .wrongType := by
  have hwordless : shown? entries = none := by
    rw [Option.eq_none_iff_forall_ne_some]
    intro value hshown
    cases words_iff.2 hshown with
    | unknown _ hsorted => cases hsorted.symm.trans (Value.sortKeys?_eq_none_iff.2 hkeys)
    | protocol hknown => exact hkeys (hknown ▸ List.Pairwise.nil)
    | address hknown => exact hkeys (hknown ▸ List.Pairwise.nil)
  rw [validateOn_of_wordless hwordless]
  have hconfuses : Confuses entries .wrongType := .order hkeys
  exact (validate_error_iff hconfuses.isForeign).2 hconfuses

theorem load_of_opens {bytes : ByteArray} (h : Opens platform given bytes) :
    ∃ path, load platform given = ofDocument platform path (platform.readDocument bytes) := by
  obtain ⟨path, hchosen, hnul, hread⟩ := h
  exact ⟨path, by simp [load, hchosen, hnul, hread]⟩

theorem load_of_denotes (h : Denotes platform given entries) :
    load platform given = validateOn platform entries := by
  obtain ⟨bytes, hopens, hdocument⟩ := h
  obtain ⟨path, hload⟩ := load_of_opens hopens
  rcases hdocument with hread | ⟨hread, rfl⟩
  · rw [hload, hread]
    rfl
  · rw [hload, hread]
    rfl

theorem Escapes.load_eq (h : Escapes platform given cause) : load platform given = .error cause := by
  cases h with
  | path hchosen hnul => simp [load, hchosen, hnul]
  | document hopens hread _ hsystem =>
    obtain ⟨path, hload⟩ := load_of_opens hopens
    rw [hload, hread]
    exact if_neg hsystem
  | order hdenotes hkeys => rw [load_of_denotes hdenotes, validateOn_of_unordered hkeys]
  | stack hdenotes hwords hdeep =>
    rw [load_of_denotes hdenotes, validateOn_of_words hwords, if_pos hdeep]
  | digits hdenotes hwords hshallow hlong =>
    rw [load_of_denotes hdenotes, validateOn_of_words hwords, if_neg (Bool.eq_false_iff.1 hshallow)]
    exact validate_of_words hwords hlong

theorem escapes_of_validateOn (hforeign : IsForeign cause) (hdenotes : Denotes platform given entries)
    (h : validateOn platform entries = .error cause) : Escapes platform given cause := by
  cases hshown : shown? entries with
  | none =>
    rw [validateOn_of_wordless hshown] at h
    cases (validate_error_iff hforeign).1 h with
    | order hkeys => exact .order hdenotes hkeys
    | digits hwords => cases hshown.symm.trans (words_iff.1 hwords)
  | some value =>
    have hwords := words_iff.2 hshown
    rw [validateOn_of_words hwords] at h
    split at h
    case isTrue hdeep =>
      obtain rfl := Except.error.inj h
      exact .stack hdenotes hwords hdeep
    case isFalse hshallow =>
      cases (validate_error_iff hforeign).1 h with
      | order hkeys => exact .order hdenotes hkeys
      | digits hwords' hlong =>
        obtain rfl := Option.some.inj (hshown.symm.trans (words_iff.1 hwords'))
        exact .digits hdenotes hwords (Bool.eq_false_iff.2 hshallow) hlong

theorem escapes_of_ofDocument {path : Text} {bytes : ByteArray} (hforeign : IsForeign cause)
    (hopens : Opens platform given bytes)
    (h : ofDocument platform path (platform.readDocument bytes) = .error cause) :
    Escapes platform given cause := by
  cases hread : platform.readDocument bytes with
  | error fault =>
    rw [hread] at h
    cases fault with
    | malformed => exact absurd (Except.error.inj h).symm (hforeign _)
    | failure other =>
      simp only [ofDocument] at h
      split at h
      · exact absurd (Except.error.inj h).symm (hforeign _)
      case isFalse hsystem =>
        obtain rfl := Except.error.inj h
        exact .document hopens hread hforeign hsystem
  | ok value =>
    rw [hread] at h
    cases value with
    | null => exact escapes_of_validateOn hforeign ⟨bytes, hopens, .inr ⟨hread, rfl⟩⟩ h
    | map entries => exact escapes_of_validateOn hforeign ⟨bytes, hopens, .inl hread⟩ h
    | bool | whole | real | text | bytes | date | moment | list | enclosing =>
      exact absurd (Except.error.inj h).symm (hforeign _)

/-- **Loading** fails with a fault of the configuration, or for one of these reasons. -/
theorem load_error_iff (hforeign : IsForeign cause) :
    load platform given = .error cause ↔ Escapes platform given cause := by
  refine ⟨fun h => ?_, Escapes.load_eq⟩
  cases hchosen : chosenPath? given platform.environment with
  | none =>
    rw [load, hchosen] at h
    exact absurd (Except.error.inj h).symm (hforeign _)
  | some path =>
    simp only [load, hchosen, List.contains_iff_mem] at h
    split at h
    case isTrue hnul =>
      obtain rfl := Except.error.inj h
      exact .path hchosen hnul
    case isFalse hnul =>
      cases hread : platform.readFile path with
      | error fault =>
        rw [hread] at h
        exact absurd (Except.error.inj h).symm (hforeign _)
      | ok bytes =>
        rw [hread] at h
        exact escapes_of_ofDocument hforeign ⟨path, hchosen, hnul, hread⟩ h

/-- **Loading returns a value for every setting or fails with a fault of the configuration,** exactly when
nothing escapes; what escapes is what it fails with. -/
theorem load_returns_or_refuses_iff (platform : Platform) (given : Option Text) :
    (((∃ config, load platform given = .ok config ∧
        config.entries.map Prod.fst = Setting.all.map fun setting => .text setting.name) ∨
      ∃ fault, load platform given = .error (.config fault)) ↔
        ∀ cause, ¬Escapes platform given cause) ∧
      ∀ cause, Escapes platform given cause → load platform given = .error cause := by
  refine ⟨⟨fun h cause hescapes => ?_, fun h => ?_⟩, fun _ => Escapes.load_eq⟩
  · have hload := hescapes.load_eq
    rcases h with ⟨config, hconfig, -⟩ | ⟨fault, hfault⟩
    · cases hload.symm.trans hconfig
    · exact hescapes.isForeign fault (Except.error.inj (hload.symm.trans hfault))
  · cases hload : load platform given with
    | ok config => exact .inl ⟨config, rfl, by simp [entries]⟩
    | error cause =>
      refine .inr ?_
      by_contra hno
      have hforeign : IsForeign cause := fun fault hcause => hno ⟨fault, by rw [hcause]⟩
      exact h cause ((load_error_iff hforeign).1 hload)

/-- Whatever a document cannot be read for escapes, apart from its notation. -/
theorem escapes_of_readBytes (hreader : platform.readDocument = Yaml.readBytes) {bytes : ByteArray}
    (hopens : Opens platform given bytes) (h : Yaml.readBytes bytes = .error (.failure cause)) :
    Escapes platform given cause := by
  have hplain := Yaml.isPlain_of_readBytes h
  refine .document hopens (hreader ▸ h) ?_ ?_
  · rintro fault rfl
    cases hplain
  · intro hsystem
    rw [Failure.IsPlain, hsystem] at hplain
    cases hplain

end Loading

/-! ## Two files -/

/-- Any file holds the text, and nothing is too deep. -/
def holding (text : String) : Platform where
  readFile _ := .ok text.toByteArray
  environment := none
  readDocument := Yaml.readBytes
  isTooDeep _ := false

theorem readBytes_toByteArray (text : String) :
    Yaml.readBytes text.toByteArray = Yaml.read (Yaml.unifyLines text.toList) := by
  have hdecoded : Yaml.decode? text.toByteArray = some text.toList := by
    unfold Yaml.decode? String.fromUTF8?
    rw [dif_pos text.isValidUTF8]
    rfl
  rw [Yaml.readBytes, hdecoded]

theorem load_holding (text : String) :
    load (holding text) (some ['c']) =
      ofDocument (holding text) ['c'] (Yaml.read (Yaml.unifyLines text.toList)) := by
  rw [← readBytes_toByteArray]
  rfl

/-- The kind of the failure, if the result is one. -/
def family? {α : Type} : Except Failure α → Option Family
  | .ok _ => none
  | .error failure => some failure.family

/-- Settings in a file. -/
def plainFile : String :=
  "'proto': 'https'\n'servername': 'photos'"

/-- Settings that are known are loaded. -/
theorem load_returns_plain :
    (∃ config, load (holding plainFile) (some ['c']) = .ok config) ∧
      ∀ cause, ¬Escapes (holding plainFile) (some ['c']) cause := by
  have hfamily : family? (load (holding plainFile) (some ['c'])) = none := by
    rw [load_holding]
    decide +kernel
  cases hload : load (holding plainFile) (some ['c']) with
  | error failure =>
    rw [hload] at hfamily
    cases hfamily
  | ok config =>
    refine ⟨⟨config, rfl⟩, (load_returns_or_refuses_iff (holding plainFile) (some ['c'])).1.1 ?_⟩
    exact .inl ⟨config, hload, by simp [entries]⟩

/-- Unknown keys in a file, a number and a text. -/
def mixedFile : String :=
  "!!int 1:\n'b':"

/-- They cannot be sorted. -/
theorem load_fails_mixed : ∃ failure,
    load (holding mixedFile) (some ['c']) = .error failure ∧ failure.family = .wrongType := by
  have hfamily : family? (load (holding mixedFile) (some ['c'])) = some .wrongType := by
    rw [load_holding]
    decide +kernel
  cases hload : load (holding mixedFile) (some ['c']) with
  | ok config =>
    rw [hload] at hfamily
    cases hfamily
  | error failure =>
    rw [hload] at hfamily
    exact ⟨failure, rfl, Option.some.inj hfamily⟩

end Config

end PhotoPublish
