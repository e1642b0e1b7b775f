import PhotoPublish.Proofs.Path.Extension
import PhotoPublish.Proofs.Template.Token
import PhotoPublish.Proofs.Text.Run

/-!
# The grammar of placeholders

`Placeholder.Spelling` says how a placeholder is spelled: between braces its category, what separates it from
the rest, the arguments and perhaps a bar and a default. It says nothing of how a text is read.

* `Category.arguments?_eq_some_iff`, `Placeholder.cutDefault_eq_iff`: what the parts of a reader cut off.
* `Placeholder.parse?_iff_spelling`: the placeholders that are read are those that are spelled so, and a text
  spells one at most.
-/

set_option autoImplicit false

namespace PhotoPublish

/-! ## Categories -/

namespace Category

theorem ofName?_eq_some_iff {name : Text} {category : Category} :
    ofName? name = some category ↔ name = category.name := by
  constructor
  · intro h
    exact (of_decide_eq_true (List.find?_some (p := fun c : Category => decide (c.name = name)) h)).symm
  · rintro rfl
    exact ofName?_name category

theorem isWord_name (category : Category) : ∀ c ∈ category.name, isWord c = true := by
  refine List.all_eq_true.1 ?_
  cases category <;> decide

/-- What stands between a category and the rest of a placeholder: a colon. Behind the category of a date it
is all the blanks that there are; there may be none only where no format follows. -/
def Separates : Category → Text → Text → Prop
  | date, separator, rest =>
    (∀ c ∈ separator, isBlank c = true) ∧ Text.Stops isBlank rest ∧
      (separator = [] → rest = [] ∨ rest.head? = some '|')
  | _, separator, _ => separator = [':']

variable {category : Category} {rest args separator : Text}

/-- What separates a category from the rest ends its word. -/
theorem Separates.stops (h : category.Separates separator args) :
    Text.Stops isWord (separator ++ args) := by
  cases category with
  | date =>
    obtain ⟨hblank, -, hnone⟩ := h
    cases separator with
    | nil =>
      rcases hnone rfl with rfl | hbar
      · exact Text.stops_nil isWord
      · obtain ⟨more, rfl⟩ := List.head?_eq_some_iff.1 hbar
        exact Text.stops_cons (by decide) more
    | cons c more =>
      exact Text.stops_cons (not_isWord_of_isBlank (hblank c List.mem_cons_self)) _
  | formatted | path | collection =>
    obtain rfl : separator = [':'] := h
    exact Text.stops_cons (by decide) args

theorem arguments?_date_iff : date.arguments? rest = some args ↔
    ∃ separator, rest = separator ++ args ∧ date.Separates separator args := by
  constructor
  · intro h
    cases rest with
    | nil =>
      obtain rfl := Option.some.inj h
      exact ⟨[], rfl, nofun, Text.stops_nil isBlank, fun _ => .inl rfl⟩
    | cons c more =>
      simp only [arguments?] at h
      split at h
      · rename_i hstart
        obtain rfl := Option.some.inj h
        refine ⟨(c :: more).takeWhile isBlank, List.takeWhile_append_dropWhile.symm,
          fun c hc => List.mem_takeWhile_imp hc, Text.stops_dropWhile isBlank _, fun hnone => .inr ?_⟩
        cases hc : isBlank c with
        | true =>
          rw [List.takeWhile_cons_of_pos hc] at hnone
          cases hnone
        | false =>
          have hbar : c = '|' := by simpa [hc] using hstart
          rw [Text.trimLeft, List.dropWhile_cons_of_neg (by simp [hc]), hbar]
          rfl
      · cases h
  · rintro ⟨separator, rfl, hblank, hstops, hnone⟩
    cases separator with
    | nil =>
      rcases hnone rfl with rfl | hbar
      · rfl
      · obtain ⟨more, rfl⟩ := List.head?_eq_some_iff.1 hbar
        exact congrArg some (Text.dropWhile_eq_self hstops)
    | cons c more =>
      have hc := hblank c List.mem_cons_self
      have htrim : Text.trimLeft (c :: more ++ args) = args := Text.dropWhile_append hblank hstops
      rw [List.cons_append] at htrim ⊢
      simp [arguments?, hc, htrim]

/-- **What stands behind a category is separated from it as its grammar says.** -/
theorem arguments?_eq_some_iff : category.arguments? rest = some args ↔
    ∃ separator, rest = separator ++ args ∧ category.Separates separator args := by
  cases category with
  | date => exact arguments?_date_iff
  | formatted | path | collection =>
    constructor
    · intro h
      unfold arguments? at h
      split at h
      · contradiction
      · contradiction
      · exact ⟨[':'], congrArg (':' :: ·) (Option.some.inj h), rfl⟩
      · cases h
    · rintro ⟨separator, rfl, rfl⟩
      rfl

end Category

/-! ## Placeholders -/

namespace Placeholder

/-- A default with the bar in front of it. -/
def behindBar : Option Text → Text
  | none => []
  | some text => '|' :: text

/-- How a placeholder is spelled (module doc). -/
structure Spelling (text : Text) (category : Category) (separator args : Text)
    (default : Option Text) : Prop where
  text_eq : text =
    '\x7b' :: (category.name ++ (separator ++ (args ++ behindBar default)) ++ ['\x7d'])
  separates : category.Separates separator (args ++ behindBar default)
  args_noBar : default = none → '|' ∉ args
  default_noBar : ∀ value, default = some value → '|' ∉ value

variable {text body rest args : Text} {default : Option Text} {start : Int}

theorem body?_eq_some_iff : body? text = some body ↔ text = '\x7b' :: (body ++ ['\x7d']) := by
  constructor
  · intro h
    unfold body? at h
    split at h
    · rename_i rest
      split at h
      · rename_i hlast
        obtain rfl := Option.some.inj h
        rw [List.dropLast_append_getLast? _ hlast]
      · cases h
    · cases h
  · rintro rfl
    exact body?_braced body

theorem cutDefault_eq_iff : cutDefault rest = (args, default) ↔ rest = args ++ behindBar default ∧
    (default = none → '|' ∉ args) ∧ ∀ value, default = some value → '|' ∉ value := by
  constructor
  · intro h
    rcases Text.notMem_or_cut '|' rest with hbar | ⟨before, after, rfl, hbar⟩
    · rw [cutDefault, Text.cutLast?_of_notMem hbar] at h
      obtain ⟨rfl, rfl⟩ := Prod.mk.inj h
      exact ⟨(List.append_nil rest).symm, fun _ => hbar, nofun⟩
    · rw [cutDefault, Text.cutLast?_append_cons before hbar] at h
      obtain ⟨rfl, rfl⟩ := Prod.mk.inj h
      refine ⟨rfl, nofun, ?_⟩
      rintro _ ⟨⟩
      exact hbar
  · rintro ⟨rfl, hargs, hdefault⟩
    cases default with
    | none => rw [behindBar, List.append_nil, cutDefault, Text.cutLast?_of_notMem (hargs rfl)]
    | some value => rw [behindBar, cutDefault, Text.cutLast?_append_cons args (hdefault value rfl)]

theorem Spelling.parse? {category : Category} {separator : Text}
    (h : Spelling text category separator args default) (start : Int) :
    parse? text start = some { category, args, default, text, start } := by
  have hbody := body?_eq_some_iff.2 h.text_eq
  have hname := category.isWord_name
  have hstops := h.separates.stops
  have hrest := Category.arguments?_eq_some_iff.2 ⟨separator, rfl, h.separates⟩
  have hcut := cutDefault_eq_iff.2 ⟨rfl, h.args_noBar, h.default_noBar⟩
  simp only [Placeholder.parse?, hbody, Option.bind_eq_bind, Option.bind_some,
    Text.takeWhile_append hname hstops, Text.dropWhile_append hname hstops,
    Category.ofName?_name, hrest, hcut, Option.pure_def]

theorem exists_spelling {p : Placeholder} (h : parse? text start = some p) :
    ∃ separator, Spelling text p.category separator p.args p.default := by
  simp only [parse?, Option.bind_eq_bind, Option.bind_eq_some_iff, Option.pure_def,
    Option.some.injEq] at h
  obtain ⟨body, hbody, category, hcategory, rest, hrest, hp⟩ := h
  rcases hparts : cutDefault rest with ⟨args, default⟩
  rw [hparts] at hp
  obtain rfl := hp
  obtain ⟨separator, hafter, hseparates⟩ := Category.arguments?_eq_some_iff.1 hrest
  obtain ⟨rfl, hargs, hdefault⟩ := cutDefault_eq_iff.1 hparts
  refine ⟨separator, ?_, hseparates, hargs, hdefault⟩
  rw [body?_eq_some_iff.1 hbody, ← Category.ofName?_eq_some_iff.1 hcategory, ← hafter,
    List.takeWhile_append_dropWhile]

/-- A text spells a placeholder in one way. -/
theorem Spelling.unique {category category' : Category} {separator separator' args' : Text}
    {default' : Option Text} (h : Spelling text category separator args default)
    (h' : Spelling text category' separator' args' default') :
    category = category' ∧ separator = separator' ∧ args = args' ∧ default = default' := by
  have hsame := (h.parse? 0).symm.trans (h'.parse? 0)
  simp only [Option.some.injEq, mk.injEq, and_true] at hsame
  obtain ⟨rfl, rfl, rfl⟩ := hsame
  have htext := h.text_eq.symm.trans h'.text_eq
  simp only [List.cons.injEq, true_and, List.append_cancel_right_eq, List.append_cancel_left_eq]
    at htext
  exact ⟨rfl, htext, rfl, rfl⟩

/-- **The placeholders that are read are those that the grammar spells,** with the parts that it names. A text
spells one at most, and one that spells none is no placeholder. -/
theorem parse?_iff_spelling (text : Text) (start : Int) :
    (∀ p, parse? text start = some p ↔ p.text = text ∧ p.start = start ∧
      ∃ separator, Spelling text p.category separator p.args p.default) ∧
    (∀ category separator args default category' separator' args' default',
      Spelling text category separator args default →
      Spelling text category' separator' args' default' →
        category = category' ∧ separator = separator' ∧ args = args' ∧ default = default') ∧
    (parse? text start = none ↔
      ∀ category separator args default, ¬ Spelling text category separator args default) := by
  refine ⟨fun p => ⟨fun h => ?_, ?_⟩, fun _ _ _ _ _ _ _ _ h h' => h.unique h', ?_, fun hnone => ?_⟩
  · obtain ⟨htext, hstart⟩ := text_of_parse? h
    exact ⟨htext, hstart, exists_spelling h⟩
  · rintro ⟨rfl, rfl, separator, h⟩
    exact h.parse? p.start
  · intro hnone category separator args default h
    rw [h.parse?] at hnone
    cases hnone
  · cases hparse : parse? text start with
    | none => rfl
    | some p =>
      obtain ⟨separator, h⟩ := exists_spelling hparse
      exact absurd h (hnone _ _ _ _)

/-- The last bar begins the default. -/
example : (parse? "\x7bLrFM:title a|b|none\x7d".toList).map (fun p => (p.args, p.default)) =
    some ("title a|b".toList, some "none".toList) := by
  decide +kernel

end Placeholder

end PhotoPublish
