import Mathlib.Data.List.Infix
import PhotoPublish.Keyword

/-!
# The forest of keywords

A keyword knows its parent by its place in the catalog. `Leads` says which names lead from a root to a keyword;
a catalog in which no two keywords have the same name and parent and all of them are led to is a forest
(`IsForest`). A keyword that is missing is put at the end (`withKeyword`), so what led to a keyword goes on to do
so (`Leads.append`).

* `Leads.names_eq`, `IsForest.target_eq`: in a forest a keyword and the names that lead to it determine each other.
* `IsForest.extended`: a forest stays one.
* `grow_leads`, `IsForest.grown`: looking up a list of names, with the missing ones put in.
* `grow_located`, `grow_fresh`: names that lead to a keyword change nothing; others end in a new one.
-/

set_option autoImplicit false

namespace PhotoPublish.Keyword

/-! ## Names and keywords -/

/-- Whether a keyword has a name and a parent. -/
def fits (name : Text) (parent : Option Nat) (keyword : Keyword) : Bool :=
  keyword.name = name && keyword.parent = parent

theorem fits_iff {name : Text} {parent : Option Nat} {keyword : Keyword} :
    keyword.fits name parent = true ↔ keyword.name = name ∧ keyword.parent = parent := by
  simp [fits]

/-- The names lead from a root to the keyword at a place; no names lead to no keyword. -/
inductive Leads (catalog : List Keyword) : List Text → Option Nat → Prop where
  | root : Leads catalog [] none
  | child {names : List Text} {parent : Option Nat} {place : Nat} {keyword : Keyword}
      (habove : Leads catalog names parent) (hplace : catalog[place]? = some keyword)
      (hparent : keyword.parent = parent) : Leads catalog (names ++ [keyword.name]) (some place)

/-- A catalog of which no two keywords have the same name and parent, and of which all keywords are led to. -/
structure IsForest (catalog : List Keyword) : Prop where
  distinct : ∀ {place other : Nat} {keyword keyword' : Keyword}, catalog[place]? = some keyword →
    catalog[other]? = some keyword' → keyword.name = keyword'.name →
      keyword.parent = keyword'.parent → place = other
  rooted : ∀ place < catalog.length, ∃ names, Leads catalog names (some place)

/-- Some keyword is led to by the names. -/
def IsLed (catalog : List Keyword) (names : List Text) : Prop :=
  ∃ place, Leads catalog names (some place)

variable {catalog added : List Keyword} {names names' front : List Text} {name : Text}
  {parent target target' : Option Nat} {place : Nat}

namespace Leads

theorem append (h : Leads catalog names target) (added : List Keyword) :
    Leads (catalog ++ added) names target := by
  induction h with
  | root => exact .root
  | child _ hplace hparent ih =>
    refine .child ih ?_ hparent
    rw [List.getElem?_append_left (List.getElem?_eq_some_iff.1 hplace).1]
    exact hplace

theorem ne_nil (h : Leads catalog names (some place)) : names ≠ [] := by
  cases h with
  | child => simp

theorem lt (h : Leads catalog names (some place)) : place < catalog.length := by
  cases h with
  | child _ hplace => exact (List.getElem?_eq_some_iff.1 hplace).1

/-- Only one list of names leads to a keyword. -/
theorem names_eq (h : Leads catalog names target) (h' : Leads catalog names' target) :
    names = names' := by
  induction h generalizing names' with
  | root =>
    cases h'
    rfl
  | child _ hplace hparent ih =>
    cases h' with
    | child habove' hplace' hparent' =>
      obtain rfl := Option.some.inj (hplace.symm.trans hplace')
      obtain rfl := hparent.symm.trans hparent'
      rw [ih habove']

/-- What leads to a keyword leads to those above it. -/
theorem of_concat (h : Leads catalog (names ++ [name]) target) :
    ∃ parent place keyword, Leads catalog names parent ∧ target = some place ∧
      catalog[place]? = some keyword ∧ keyword.name = name ∧ keyword.parent = parent := by
  generalize hall : names ++ [name] = all at h
  cases h with
  | root => simp at hall
  | @child above parent place keyword habove hplace hparent =>
    obtain ⟨rfl, hname⟩ := List.append_inj' hall rfl
    exact ⟨parent, place, keyword, habove, rfl, hplace, (List.singleton_inj.1 hname).symm, hparent⟩

theorem exists_of_isPrefix (h : Leads catalog names target) (hfront : front <+: names) :
    ∃ target', Leads catalog front target' := by
  induction h with
  | root =>
    obtain rfl := List.prefix_nil.1 hfront
    exact ⟨none, .root⟩
  | @child above parent place keyword habove hplace hparent ih =>
    rcases List.prefix_concat_iff.1 hfront with rfl | hfront
    · exact ⟨some place, .child habove hplace hparent⟩
    · exact ih hfront

theorem eq_nil (h : Leads catalog names none) : names = [] := by
  cases h
  rfl

/-- Names lead to a keyword, unless there are none. -/
theorem isLed (h : Leads catalog names target) (hnames : names ≠ []) : IsLed catalog names := by
  cases h with
  | root => exact absurd rfl hnames
  | child habove hplace hparent => exact ⟨_, .child habove hplace hparent⟩

end Leads

theorem isForest_nil : IsForest [] where
  distinct h := by cases h
  rooted place h := absurd h (Nat.not_lt_zero place)

namespace IsForest

variable (hforest : IsForest catalog)
include hforest

/-- Names lead to one keyword at most. -/
theorem target_eq (h : Leads catalog names target) (h' : Leads catalog names target') :
    target = target' := by
  induction h generalizing target' with
  | root =>
    cases target' with
    | none => rfl
    | some place => exact absurd rfl h'.ne_nil
  | child _ hplace hparent ih =>
    obtain ⟨parent', place', keyword', habove', rfl, hplace', hname', hparent'⟩ := h'.of_concat
    obtain rfl := ih habove'
    exact congrArg some (hforest.distinct hplace hplace' hname'.symm (hparent.trans hparent'.symm))

/-- The parent of a keyword is led to. -/
theorem parent_leads {keyword : Keyword} (hplace : catalog[place]? = some keyword) :
    ∃ names, Leads catalog names keyword.parent := by
  obtain ⟨names, h⟩ := hforest.rooted place (List.getElem?_eq_some_iff.1 hplace).1
  cases h with
  | child habove hplace' hparent =>
    obtain rfl := Option.some.inj (hplace.symm.trans hplace')
    exact ⟨_, hparent ▸ habove⟩

/-- What leads to an old keyword has done so before. -/
theorem leads_of_append (h : Leads (catalog ++ added) names target)
    (htarget : ∀ place, target = some place → place < catalog.length) :
    Leads catalog names target := by
  induction h with
  | root => exact .root
  | @child names parent place keyword _ hplace hparent ih =>
    have hold : catalog[place]? = some keyword := by
      rw [← hplace, List.getElem?_append_left (htarget place rfl)]
    obtain ⟨above, habove⟩ := hforest.parent_leads hold
    subst hparent
    refine .child (ih fun other hother => ?_) hold rfl
    rw [hother] at habove
    exact habove.lt

end IsForest

/-! ## Looking up names -/

/-- The catalog once it has a keyword with a name and a parent; a missing one is put at the end. -/
def withKeyword (catalog : List Keyword) (name : Text) (parent : Option Nat) : List Keyword :=
  if catalog.any (fits name parent) then catalog else catalog ++ [{ name := name, parent := parent }]

/-- The place that a keyword has then. -/
def placeOf (catalog : List Keyword) (name : Text) (parent : Option Nat) : Nat :=
  catalog.findIdx (fits name parent)

/-- The catalog once a list of names leads to a keyword below a parent, and that keyword. -/
def grow (catalog : List Keyword) (parent : Option Nat) : List Text → List Keyword × Option Nat
  | [] => (catalog, parent)
  | name :: rest => grow (withKeyword catalog name parent) (some (placeOf catalog name parent)) rest

/-- The keyword that a list of names leads to below a parent; of keywords with the same name and parent the
first. -/
def locate? (catalog : List Keyword) (parent : Option Nat) : List Text → Option (Option Nat)
  | [] => some parent
  | name :: rest =>
    (catalog.findIdx? (fits name parent)).bind fun place => locate? catalog (some place) rest

theorem withKeyword_found (h : catalog.findIdx? (fits name parent) = some place) :
    withKeyword catalog name parent = catalog ∧ placeOf catalog name parent = place := by
  have hany : catalog.any (fits name parent) = true := by
    rw [← List.findIdx?_isSome, h]
    rfl
  refine ⟨if_pos hany, ?_⟩
  rw [placeOf, List.findIdx_eq_getD_findIdx?, h]
  rfl

theorem withKeyword_missing (h : catalog.findIdx? (fits name parent) = none) :
    withKeyword catalog name parent = catalog ++ [{ name := name, parent := parent }] ∧
      placeOf catalog name parent = catalog.length := by
  have hany : catalog.any (fits name parent) = false := by
    rw [← List.findIdx?_isSome, h]
    rfl
  refine ⟨if_neg (Bool.eq_false_iff.1 hany), ?_⟩
  rw [placeOf, List.findIdx_eq_getD_findIdx?, h]
  rfl

theorem grow_found (h : catalog.findIdx? (fits name parent) = some place) (rest : List Text) :
    grow catalog parent (name :: rest) = grow catalog (some place) rest := by
  rw [grow, (withKeyword_found h).1, (withKeyword_found h).2]

theorem grow_missing (h : catalog.findIdx? (fits name parent) = none) (rest : List Text) :
    grow catalog parent (name :: rest) =
      grow (catalog ++ [{ name := name, parent := parent }]) (some catalog.length) rest := by
  rw [grow, (withKeyword_missing h).1, (withKeyword_missing h).2]

theorem prefix_withKeyword (catalog : List Keyword) (name : Text) (parent : Option Nat) :
    catalog <+: withKeyword catalog name parent := by
  unfold withKeyword
  split
  · exact List.prefix_rfl
  · exact List.prefix_append _ _

/-- The keyword that is asked for has its place. -/
theorem getElem?_withKeyword (catalog : List Keyword) (name : Text) (parent : Option Nat) :
    ∃ keyword, (withKeyword catalog name parent)[placeOf catalog name parent]? = some keyword ∧
      keyword.name = name ∧ keyword.parent = parent := by
  cases hfound : catalog.findIdx? (fits name parent) with
  | some place =>
    obtain ⟨hcatalog, hplace⟩ := withKeyword_found hfound
    obtain ⟨hlt, hfits, -⟩ := List.findIdx?_eq_some_iff_getElem.1 hfound
    rw [hcatalog, hplace]
    exact ⟨_, List.getElem?_eq_getElem hlt, fits_iff.1 hfits⟩
  | none =>
    obtain ⟨hcatalog, hplace⟩ := withKeyword_missing hfound
    rw [hcatalog, hplace]
    exact ⟨_, List.getElem?_concat_length, rfl, rfl⟩

theorem Leads.of_isPrefix {larger : List Keyword} (h : Leads catalog names target)
    (hfront : catalog <+: larger) : Leads larger names target := by
  obtain ⟨added, rfl⟩ := hfront
  exact h.append added

/-- **A keyword that is asked for** is led to. -/
theorem Leads.extended (h : Leads catalog names parent) (name : Text) :
    Leads (withKeyword catalog name parent) (names ++ [name])
      (some (placeOf catalog name parent)) := by
  obtain ⟨keyword, hplace, rfl, hparent⟩ := getElem?_withKeyword catalog name parent
  exact .child (h.of_isPrefix (prefix_withKeyword ..)) hplace hparent

/-- No keyword has the name and the parent of one that is missing. -/
theorem not_fits_of_missing {keyword : Keyword} (h : catalog.findIdx? (fits name parent) = none)
    (hplace : catalog[place]? = some keyword) : ¬(keyword.name = name ∧ keyword.parent = parent) := by
  intro hfits
  have hno := List.findIdx?_eq_none_iff.1 h keyword (List.mem_of_getElem? hplace)
  rw [fits_iff.2 hfits] at hno
  cases hno

/-- A keyword of the longer catalog is an old one, or it is the new one at the end. -/
theorem getElem?_concat_cases {keyword new : Keyword} (h : (catalog ++ [new])[place]? = some keyword) :
    catalog[place]? = some keyword ∨ place = catalog.length ∧ keyword = new := by
  rcases Nat.lt_or_ge place catalog.length with hlt | hge
  · exact .inl (List.getElem?_append_left hlt ▸ h)
  · rw [List.getElem?_append_right hge] at h
    obtain ⟨hlt, heq⟩ := List.getElem?_eq_some_iff.1 h
    rw [List.length_singleton] at hlt
    refine .inr ⟨by omega, heq.symm.trans ?_⟩
    simp

theorem IsForest.extended (hforest : IsForest catalog) (h : Leads catalog names parent)
    (name : Text) : IsForest (withKeyword catalog name parent) := by
  cases hfound : catalog.findIdx? (fits name parent) with
  | some place => rwa [(withKeyword_found hfound).1]
  | none =>
    have hleads := h.extended name
    rw [(withKeyword_missing hfound).1, (withKeyword_missing hfound).2] at hleads
    rw [(withKeyword_missing hfound).1]
    constructor
    case distinct =>
      intro place other keyword keyword' hplace hother hname hparent
      rcases getElem?_concat_cases hplace with hold | ⟨rfl, rfl⟩
      · rcases getElem?_concat_cases hother with hold' | ⟨rfl, rfl⟩
        · exact hforest.distinct hold hold' hname hparent
        · exact absurd ⟨hname, hparent⟩ (not_fits_of_missing hfound hold)
      · rcases getElem?_concat_cases hother with hold' | ⟨rfl, -⟩
        · exact absurd ⟨hname.symm, hparent.symm⟩ (not_fits_of_missing hfound hold')
        · rfl
    case rooted =>
      intro place hlt
      rw [List.length_append, List.length_singleton] at hlt
      rcases Nat.lt_or_ge place catalog.length with hold | hge
      · obtain ⟨names, hnames⟩ := hforest.rooted place hold
        exact ⟨names, hnames.append _⟩
      · obtain rfl : place = catalog.length := by omega
        exact ⟨_, hleads⟩

/-! ## Lists of names -/

theorem prefix_grow (catalog : List Keyword) (parent : Option Nat) (names : List Text) :
    catalog <+: (grow catalog parent names).1 := by
  induction names generalizing catalog parent with
  | nil => exact List.prefix_rfl
  | cons name rest ih => exact (prefix_withKeyword ..).trans (ih _ _)

theorem grow_leads (h : Leads catalog front parent) (names : List Text) :
    Leads (grow catalog parent names).1 (front ++ names) (grow catalog parent names).2 := by
  induction names generalizing catalog parent front with
  | nil => rwa [List.append_nil]
  | cons name rest ih =>
    have hnext := ih (h.extended name)
    rwa [List.append_assoc, List.singleton_append] at hnext

theorem IsForest.grown (hforest : IsForest catalog) (h : Leads catalog front parent)
    (names : List Text) : IsForest (grow catalog parent names).1 := by
  induction names generalizing catalog parent front with
  | nil => exact hforest
  | cons name rest ih => exact ih (hforest.extended h name) (h.extended name)

/-- The only keyword that may be new is the one that was asked for. -/
theorem placeOf_eq_of_new (hold : catalog.length ≤ place)
    (hnew : place < (withKeyword catalog name parent).length) : placeOf catalog name parent = place := by
  cases hfound : catalog.findIdx? (fits name parent) with
  | some found =>
    rw [(withKeyword_found hfound).1] at hnew
    exact absurd hnew (Nat.not_lt.2 hold)
  | none =>
    rw [(withKeyword_missing hfound).1, List.length_append, List.length_singleton] at hnew
    rw [(withKeyword_missing hfound).2]
    omega

/-- A keyword that is new is led to by a beginning of the names. -/
theorem exists_prefix_of_grow (h : Leads catalog front parent) (hold : catalog.length ≤ place)
    (hnew : place < (grow catalog parent names).1.length) :
    ∃ begun, begun ≠ [] ∧ begun <+: names ∧
      Leads (grow catalog parent names).1 (front ++ begun) (some place) := by
  induction names generalizing catalog parent front with
  | nil => exact absurd hnew (Nat.not_lt.2 hold)
  | cons name rest ih =>
    -- The keyword is the one for the first name, or it comes with the names after it.
    rcases Nat.lt_or_ge place (withKeyword catalog name parent).length with hlt | hge
    · have hplace := placeOf_eq_of_new hold hlt
      have hleads := (h.extended name).of_isPrefix
        (prefix_grow _ (some (placeOf catalog name parent)) rest)
      rw [hplace] at hleads
      refine ⟨[name], by simp, ⟨rest, rfl⟩, ?_⟩
      rw [grow, hplace]
      exact hleads
    · obtain ⟨begun, -, hbegun, hleads⟩ := ih (h.extended name) hge hnew
      refine ⟨name :: begun, by simp, List.cons_prefix_cons.2 ⟨rfl, hbegun⟩, ?_⟩
      rwa [List.append_assoc, List.singleton_append] at hleads

/-! ## Names that lead to a keyword, and others -/

/-- In a forest, what is led to is found. -/
theorem IsForest.findIdx?_eq {keyword : Keyword} (hforest : IsForest catalog)
    (hplace : catalog[place]? = some keyword) :
    catalog.findIdx? (fits keyword.name keyword.parent) = some place := by
  obtain ⟨hlt, rfl⟩ := List.getElem?_eq_some_iff.1 hplace
  refine List.findIdx?_eq_some_iff_getElem.2 ⟨hlt, fits_iff.2 ⟨rfl, rfl⟩, fun other hother hfits => ?_⟩
  obtain ⟨hname, hparent⟩ := fits_iff.1 hfits
  have hsame := hforest.distinct (List.getElem?_eq_getElem (by omega)) hplace hname hparent
  omega

theorem IsForest.locate?_eq (hforest : IsForest catalog) (h : Leads catalog front parent)
    (hleads : Leads catalog (front ++ names) target) : locate? catalog parent names = some target := by
  induction names generalizing parent front with
  | nil =>
    rw [List.append_nil] at hleads
    exact congrArg some (hforest.target_eq h hleads)
  | cons name rest ih =>
    have hbegun : front ++ [name] <+: front ++ name :: rest := ⟨rest, by simp⟩
    obtain ⟨target', hfirst⟩ := hleads.exists_of_isPrefix hbegun
    obtain ⟨parent', place, keyword, habove, rfl, hplace, rfl, hparent⟩ := hfirst.of_concat
    obtain rfl := hforest.target_eq h habove
    rw [locate?, ← hparent, hforest.findIdx?_eq hplace, Option.bind_some]
    exact ih hfirst (by rwa [List.append_assoc, List.singleton_append])

/-- Names that lead to a keyword need no other one. -/
theorem grow_located (h : locate? catalog parent names = some target) :
    grow catalog parent names = (catalog, target) := by
  induction names generalizing parent with
  | nil => exact congrArg (Prod.mk catalog) (Option.some.inj h)
  | cons name rest ih =>
    obtain ⟨place, hfound, hrest⟩ := Option.bind_eq_some_iff.1 h
    rw [grow_found hfound, ih hrest]

/-- The keywords before a place have their parents before it. -/
def IsClosedBelow (catalog : List Keyword) (bound : Nat) : Prop :=
  ∀ place < bound, ∀ keyword, catalog[place]? = some keyword →
    ∀ parent, keyword.parent = some parent → parent < bound

theorem IsForest.isClosedBelow (hforest : IsForest catalog) : IsClosedBelow catalog catalog.length := by
  intro place _ keyword hplace parent hparent
  obtain ⟨names, hnames⟩ := hforest.parent_leads hplace
  rw [hparent] at hnames
  exact hnames.lt

theorem IsClosedBelow.append {bound : Nat} (h : IsClosedBelow catalog bound)
    (hbound : bound ≤ catalog.length) (added : List Keyword) :
    IsClosedBelow (catalog ++ added) bound := by
  intro place hold keyword hkeyword
  rw [List.getElem?_append_left (Nat.lt_of_lt_of_le hold hbound)] at hkeyword
  exact h place hold keyword hkeyword

/-- Below a new keyword all keywords are new. -/
theorem grow_below_fresh {bound above : Nat} (hclosed : IsClosedBelow catalog bound)
    (hbound : bound ≤ catalog.length) (habove : bound ≤ above) (names : List Text) :
    ∃ place, bound ≤ place ∧ (grow catalog (some above) names).2 = some place := by
  induction names generalizing catalog above with
  | nil => exact ⟨above, habove, rfl⟩
  | cons name rest ih =>
    cases hfound : catalog.findIdx? (fits name (some above)) with
    | some place =>
      rw [grow_found hfound]
      obtain ⟨hlt, hfits, -⟩ := List.findIdx?_eq_some_iff_getElem.1 hfound
      -- A keyword below a new one is new, since the old ones have old parents.
      refine ih hclosed hbound (Nat.le_of_not_lt fun hold => ?_)
      have hparent := hclosed place hold _ (List.getElem?_eq_getElem hlt) above (fits_iff.1 hfits).2
      omega
    | none =>
      rw [grow_missing hfound]
      refine ih (hclosed.append hbound _) ?_ hbound
      rw [List.length_append]
      omega

/-- Names that lead to no keyword lead to a new one in the end. -/
theorem grow_fresh (hclosed : IsClosedBelow catalog catalog.length)
    (h : locate? catalog parent names = none) :
    ∃ place, catalog.length ≤ place ∧ (grow catalog parent names).2 = some place := by
  induction names generalizing parent with
  | nil => cases h
  | cons name rest ih =>
    cases hfound : catalog.findIdx? (fits name parent) with
    | some place =>
      rw [locate?, hfound] at h
      rw [grow_found hfound]
      exact ih h
    | none =>
      rw [grow_missing hfound]
      refine grow_below_fresh (hclosed.append (Nat.le_refl _) _) ?_ (Nat.le_refl _) rest
      rw [List.length_append]
      omega

end PhotoPublish.Keyword
