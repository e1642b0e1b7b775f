import Mathlib.Data.List.Nodup
import PhotoPublish.Proofs.Config.Loading

/-!
# What entries say

The entries of a configuration are a mapping of texts (`Entries.IsMapping`), which gives values to some settings;
the others have their defaults. `Entries.Effective` is the value that counts, and it is the value in the completed
config (`Entries.effective_iff`). In these terms entries are unsound, lack an address, or hold a number that cannot
be written, and `Entries.Completed` says what config they make.
-/

set_option autoImplicit false

namespace PhotoPublish

theorem Setting.name_inj {setting other : Setting} : setting.name = other.name ↔ setting = other := by
  constructor
  · intro h
    exact Option.some.inj (by rw [← ofName?_name, h, ofName?_name])
  · exact congrArg name

namespace Entries

variable {entries : Entries} {setting : Setting} {v : Value}

/-- The keys are texts, each of them given once. -/
structure IsMapping (entries : Entries) : Prop where
  text : ∀ key ∈ entries.map Prod.fst, ∃ name, key = .text name
  nodup : (entries.map Prod.fst).Nodup

/-- A setting is given a value. -/
def Gives (entries : Entries) (setting : Setting) (v : Value) : Prop :=
  (.text setting.name, v) ∈ entries

/-- The value that counts for a setting: the given one or else the default. -/
def Effective (entries : Entries) (setting : Setting) (v : Value) : Prop :=
  entries.Gives setting v ∨ (∀ w, ¬entries.Gives setting w) ∧ v = setting.default

/-- Entries that make no config: a key that names no setting, or values that do not go together. -/
inductive IsUnsound (entries : Entries) : Prop where
  | unknown {name : Text} {v : Value} (hgiven : (.text name, v) ∈ entries)
      (hunknown : ∀ setting : Setting, name ≠ setting.name) : IsUnsound entries
  | protocol {v : Value} (hprotocol : entries.Effective .protocol v) (hhttp : v ≠ .text "http".toList)
      (hhttps : v ≠ .text "https".toList) : IsUnsound entries
  | tree {tree root : Value} (htree : entries.Effective .copyTree tree) (hset : tree.isSet = true)
      (hroot : entries.Effective .sourceRoot root) (hunset : root.isSet = false) : IsUnsound entries
  | rename {rename filename : Value} (hrename : entries.Effective .rename rename)
      (hset : rename.isSet = true) (hfilename : entries.Effective .filename filename)
      (hunset : filename.isSet = false) : IsUnsound entries

/-- The server is named but its address is not given, so that it is to be made of the protocol and the name. -/
structure LacksAddress (entries : Entries) (scheme host : Value) : Prop where
  protocol : entries.Effective .protocol scheme
  server : entries.Effective .serverName host
  named : host.isSet = true
  lacks : ∃ url, entries.Effective .serverUrl url ∧ url.isSet = false

/-- The value of a setting in the config that entries make. -/
inductive Completed (entries : Entries) : Setting → Value → Prop where
  | address {scheme host : Value} (h : entries.LacksAddress scheme host) :
    Completed entries .serverUrl (.text (scheme.display ++ "://".toList ++ host.display))
  | effective {setting : Setting} {v : Value} (heffective : entries.Effective setting v)
      (hkept : setting = .serverUrl → ∀ scheme host, ¬entries.LacksAddress scheme host) :
    Completed entries setting v

/-- A whole number has too many digits to be written: it is in the protocol, which is to be shown as a bad
one, or in the name of the server, of which the address is to be made. -/
inductive IsUnwritable (entries : Entries) : Prop where
  | protocol {v : Value} (hknown : ∀ name w, (.text name, w) ∈ entries → ∃ setting : Setting, name = setting.name)
      (hprotocol : entries.Effective .protocol v) (hhttp : v ≠ .text "http".toList)
      (hhttps : v ≠ .text "https".toList) (hlong : v.hasLongWhole = true) : IsUnwritable entries
  | address {scheme host : Value} (hsound : ¬entries.IsUnsound) (hlacks : entries.LacksAddress scheme host)
      (hlong : host.hasLongWhole = true) : IsUnwritable entries

/-! ## Looking up -/

theorem gives_of_get? (h : entries.get? setting = some v) : entries.Gives setting v := by
  obtain ⟨⟨key, _⟩, hfound, rfl⟩ := Option.map_eq_some_iff.1 h
  have hkey := List.find?_some hfound
  cases key with
  | text name =>
    obtain rfl : name = setting.name := of_decide_eq_true hkey
    exact List.mem_of_find?_eq_some hfound
  | _ => cases hkey

theorem get?_eq_none_iff : entries.get? setting = none ↔ ∀ v, ¬entries.Gives setting v := by
  constructor
  · intro h v hgiven
    exact List.find?_eq_none.1 (Option.map_eq_none_iff.1 h) _ hgiven (decide_eq_true rfl)
  · intro h
    cases hget : entries.get? setting with
    | none => rfl
    | some v => exact absurd (gives_of_get? hget) (h v)

/-- A key that is given once has one value. -/
theorem eq_of_gives {w : Value} (hmapping : entries.IsMapping) (hv : entries.Gives setting v)
    (hw : entries.Gives setting w) : v = w :=
  (Prod.mk.inj (List.inj_on_of_nodup_map hmapping.nodup hv hw rfl)).2

/-- **The value that counts** is the one in the completed config. -/
theorem effective_iff (hmapping : entries.IsMapping) :
    entries.Effective setting v ↔ v = (Config.complete entries).value setting := by
  unfold Effective Config.complete
  dsimp only
  cases hget : entries.get? setting with
  | none =>
    have hnone := get?_eq_none_iff.1 hget
    simp [hnone]
  | some w =>
    have hw := gives_of_get? hget
    constructor
    · rintro (hv | ⟨hnone, -⟩)
      · exact eq_of_gives hmapping hv hw
      · exact absurd hw (hnone w)
    · rintro rfl
      exact .inl hw

theorem IsMapping.effective (hmapping : entries.IsMapping) (setting : Setting) :
    entries.Effective setting ((Config.complete entries).value setting) :=
  (effective_iff hmapping).2 rfl

theorem IsMapping.eq_value (hmapping : entries.IsMapping) (h : entries.Effective setting v) :
    v = (Config.complete entries).value setting :=
  (effective_iff hmapping).1 h

/-! ## Keys -/

theorem isKnown_iff {name : Text} : isKnown (.text name) = true ↔ ∃ setting : Setting, name = setting.name := by
  unfold isKnown Setting.ofName?
  rw [List.find?_isSome]
  constructor
  · rintro ⟨setting, -, hname⟩
    exact ⟨setting, (of_decide_eq_true hname).symm⟩
  · rintro ⟨setting, rfl⟩
    exact ⟨setting, Setting.mem_all setting, decide_eq_true rfl⟩

theorem unknown_eq_nil_iff (hmapping : entries.IsMapping) :
    entries.unknown = [] ↔ ∀ name v, (.text name, v) ∈ entries → ∃ setting : Setting, name = setting.name := by
  unfold unknown
  rw [List.filter_eq_nil_iff]
  constructor
  · intro h name v hgiven
    have hkey := h _ (List.mem_map_of_mem hgiven)
    exact isKnown_iff.1 (by simpa using hkey)
  · intro h key hkey
    obtain ⟨name, rfl⟩ := hmapping.text key hkey
    obtain ⟨⟨_, v⟩, hgiven, rfl⟩ := List.mem_map.1 hkey
    simp [isKnown_iff.2 (h name v hgiven)]

theorem text_of_mem_unknown (hmapping : entries.IsMapping) {key : Value} (hkey : key ∈ entries.unknown) :
    ∃ name, key = .text name :=
  hmapping.text key (List.mem_filter.1 hkey).1

/-- Texts can be sorted. -/
theorem pairwise_comparable_unknown (hmapping : entries.IsMapping) :
    entries.unknown.Pairwise Value.Comparable := by
  refine List.pairwise_of_forall_mem_list fun a ha b hb => ?_
  obtain ⟨name, rfl⟩ := text_of_mem_unknown hmapping ha
  obtain ⟨other, rfl⟩ := text_of_mem_unknown hmapping hb
  exact Value.comparable_iff.2 ⟨_, _, rfl, rfl, rfl⟩

/-- Texts can be shown. -/
theorem hasLongWhole_unknown (hmapping : entries.IsMapping) :
    (Value.list entries.unknown).hasLongWhole = false := by
  rw [Value.hasLongWhole, Value.anyLongWhole_eq, List.any_eq_false]
  intro key hkey
  obtain ⟨name, rfl⟩ := text_of_mem_unknown hmapping hkey
  simp [Value.hasLongWhole]

end Entries

end PhotoPublish
