import Mathlib.Data.List.Infix
import PhotoPublish.Path.Segments

/-!
# Where the separators of a text stand

A text without separators (`Plain`) makes one segment of a path at most. A text whose separators stand
inside it (`Enclosed`) keeps its slashes in the normal form of paths (`slash_mem_normalizePath`), also next
to other such texts (`Enclosed.append`). The normal form is such a text itself (`enclosed_normalizePath`).
-/

set_option autoImplicit false

namespace PhotoPublish

/-! ## Texts without separators -/

/-- A text without separators. -/
def Plain (text : Text) : Prop :=
  ∀ c ∈ text, isSeparator c = false

namespace Plain

variable {x y : Text}

instance (text : Text) : Decidable (Plain text) :=
  List.decidableBAll (fun c => isSeparator c = false) text

theorem of_subset (h : Plain y) (hsub : x ⊆ y) : Plain x :=
  fun c hmem => h c (hsub hmem)

theorem take (h : Plain x) (n : Nat) : Plain (x.take n) :=
  h.of_subset (List.take_subset n x)

theorem slash_notMem (h : Plain x) : '/' ∉ x :=
  fun hmem => nomatch h '/' hmem

theorem backslash_notMem (h : Plain x) : '\\' ∉ x :=
  fun hmem => nomatch h '\\' hmem

end Plain

@[simp] theorem plain_nil : Plain [] :=
  fun _ hmem => absurd hmem List.not_mem_nil

@[simp] theorem plain_cons {c : Char} {text : Text} :
    Plain (c :: text) ↔ isSeparator c = false ∧ Plain text :=
  List.forall_mem_cons

@[simp] theorem plain_append {x y : Text} : Plain (x ++ y) ↔ Plain x ∧ Plain y :=
  List.forall_mem_append

theorem plain_of_notMem {text : Text} (hslash : '/' ∉ text) (hback : '\\' ∉ text) : Plain text := by
  intro c hmem
  rw [isSeparator, Bool.or_eq_false_iff, beq_eq_false_iff_ne, beq_eq_false_iff_ne]
  exact ⟨fun hc => hslash (hc ▸ hmem), fun hc => hback (hc ▸ hmem)⟩

theorem plain_legalName (name : Text) : Plain (legalName name) := by
  intro c hmem
  obtain ⟨d, -, rfl⟩ := List.mem_map.1 hmem
  split
  · rfl
  · rename_i hlegal
    rw [isSeparator, Bool.or_eq_false_iff, beq_eq_false_iff_ne, beq_eq_false_iff_ne]
    constructor <;> rintro rfl <;> exact hlegal rfl

/-! ## Texts without separators at their ends -/

/-- A text whose separators are slashes, none of which stands at an end. -/
structure Enclosed (text : Text) : Prop where
  backslash : '\\' ∉ text
  head : text.head? ≠ some '/'
  last : text.getLast? ≠ some '/'

namespace Enclosed

variable {x y : Text}

theorem append (hx : Enclosed x) (hy : Enclosed y) : Enclosed (x ++ y) where
  backslash := by
    rw [List.mem_append]
    exact not_or_intro hx.backslash hy.backslash
  head := by
    cases x with
    | nil => exact hy.head
    | cons c x => exact hx.head
  last := by
    rw [List.getLast?_append]
    cases hlast : y.getLast? with
    | none => exact hx.last
    | some c =>
      rw [Option.some_or, ← hlast]
      exact hy.last

/-- A slash between two texts is no end. -/
theorem slash (hx : Enclosed x) (hy : Enclosed y) (hxne : x ≠ []) (hyne : y ≠ []) :
    Enclosed (x ++ '/' :: y) where
  backslash := by
    rw [List.mem_append, List.mem_cons]
    exact not_or_intro hx.backslash (not_or_intro (by decide) hy.backslash)
  head := by
    rw [List.head?_append_of_ne_nil _ hxne]
    exact hx.head
  last := by
    rw [List.getLast?_append_of_ne_nil _ (List.cons_ne_nil _ _), List.getLast?_cons_of_ne_nil hyne]
    exact hy.last

theorem flatMap {α : Type} {f : α → Text} {items : List α} (h : ∀ item ∈ items, Enclosed (f item)) :
    Enclosed (items.flatMap f) := by
  induction items with
  | nil => exact ⟨List.not_mem_nil, nofun, nofun⟩
  | cons item rest ih =>
    obtain ⟨hitem, hrest⟩ := List.forall_mem_cons.1 h
    exact hitem.append (ih hrest)

end Enclosed

theorem Plain.enclosed {text : Text} (h : Plain text) : Enclosed text where
  backslash := h.backslash_notMem
  head hhead := h.slash_notMem (List.mem_of_head? hhead)
  last hlast := h.slash_notMem (List.mem_of_getLast? hlast)

theorem Enclosed.plain_iff {text : Text} (h : Enclosed text) : Plain text ↔ '/' ∉ text :=
  ⟨Plain.slash_notMem, fun hslash => plain_of_notMem hslash h.backslash⟩

/-! ## The normal form -/

namespace Path

theorem head?_squeezed (path : Text) : (squeezed path).head? = path.head? := by
  fun_induction squeezed path with
  | case1 rest ih => exact ih
  | case2 | case3 => rfl

theorem getLast?_squeezed (path : Text) : (squeezed path).getLast? = path.getLast? := by
  fun_induction squeezed path with
  | case1 rest ih => rw [ih]; rfl
  | case2 c rest _ ih => rw [List.getLast?_cons, List.getLast?_cons, ih]
  | case3 => rfl

theorem mem_squeezed {path : Text} {c : Char} : c ∈ squeezed path ↔ c ∈ path := by
  fun_induction squeezed path with
  | case1 rest ih => simp [ih]
  | case2 d rest _ ih => rw [List.mem_cons, List.mem_cons, ih]
  | case3 => rfl

theorem slashed_of_notMem {path : Text} (h : '\\' ∉ path) : slashed path = path := by
  refine (List.map_congr_left fun c hmem => if_neg ?_).trans (List.map_id path)
  rintro rfl
  exact h hmem

theorem backslash_notMem_slashed (path : Text) : '\\' ∉ slashed path := by
  intro hmem
  obtain ⟨c, -, hc⟩ := List.mem_map.1 hmem
  split at hc
  · cases hc
  · rename_i hne
    exact hne hc

theorem slashed_slashed (path : Text) : slashed (slashed path) = slashed path :=
  slashed_of_notMem (backslash_notMem_slashed path)

/-- Nothing is cut off where no slash stands. -/
theorem dropWhile_of_head? {path : Text} (h : path.head? ≠ some '/') :
    path.dropWhile (· = '/') = path := by
  cases path with
  | nil => rfl
  | cons c rest => exact List.dropWhile_cons_of_neg fun hc => h (congrArg some (of_decide_eq_true hc))

theorem head?_dropWhile_ne (path : Text) : (path.dropWhile (· = '/')).head? ≠ some '/' := by
  induction path with
  | nil => nofun
  | cons c rest ih =>
    rw [List.dropWhile_cons]
    split
    · exact ih
    · rename_i hc
      exact fun h => hc (decide_eq_true (Option.some.inj h))

theorem stripped_of_ends {path : Text} (hhead : path.head? ≠ some '/')
    (hlast : path.getLast? ≠ some '/') : stripped path = path := by
  rw [← List.head?_reverse] at hlast
  rw [stripped, dropWhile_of_head? hhead, dropWhile_of_head? hlast, List.reverse_reverse]

theorem getLast?_stripped_ne (path : Text) : (stripped path).getLast? ≠ some '/' := by
  rw [stripped, List.getLast?_reverse]
  exact head?_dropWhile_ne _

theorem head?_stripped_ne (path : Text) : (stripped path).head? ≠ some '/' := by
  rw [stripped, List.head?_reverse]
  intro hlast
  -- What is cut off at the end of the path does not reach its beginning.
  obtain ⟨cut, hcut⟩ : _ <:+ (path.dropWhile (· = '/')).reverse := List.dropWhile_suffix (· = '/')
  have hends : '/' ∈ (cut ++ _).getLast? := List.mem_getLast?_append_of_mem_getLast? hlast
  rw [hcut, List.getLast?_reverse] at hends
  exact head?_dropWhile_ne path hends

theorem mem_of_mem_stripped {path : Text} {c : Char} (h : c ∈ stripped path) : c ∈ path :=
  (List.dropWhile_suffix _).subset
    (List.mem_reverse.1 ((List.dropWhile_suffix _).subset (List.mem_reverse.1 h)))

end Path

/-- The normal form of paths does not have separators at its ends. -/
theorem enclosed_normalizePath (path : Text) : Enclosed (normalizePath path) where
  backslash hmem :=
    Path.backslash_notMem_slashed path (Path.mem_squeezed.1 (Path.mem_of_mem_stripped hmem))
  head := Path.head?_stripped_ne _
  last := Path.getLast?_stripped_ne _

/-- **Slashes that are not at an end are kept by the normal form.** -/
theorem slash_mem_normalizePath {text : Text} (h : Enclosed text) :
    '/' ∈ normalizePath text ↔ '/' ∈ text := by
  rw [normalizePath, Path.slashed_of_notMem h.backslash, Path.stripped_of_ends, Path.mem_squeezed]
  · rw [Path.head?_squeezed]
    exact h.head
  · rw [Path.getLast?_squeezed]
    exact h.last

/-! ## The last segment -/

namespace Text

theorem notMem_of_cutLast? {separator : Char} {text : Text} (h : cutLast? separator text = none) :
    separator ∉ text := by
  induction text with
  | nil => exact List.not_mem_nil
  | cons c rest ih =>
    rw [cutLast?] at h
    cases hrest : cutLast? separator rest with
    | some parts =>
      rw [hrest] at h
      cases h
    | none =>
      rw [hrest] at h
      rw [List.mem_cons, not_or]
      refine ⟨fun hc => ?_, ih hrest⟩
      rw [if_pos hc.symm] at h
      cases h

theorem notMem_afterLast (separator : Char) (text : Text) : separator ∉ afterLast separator text := by
  unfold afterLast
  cases hcut : cutLast? separator text with
  | none => exact notMem_of_cutLast? hcut
  | some parts => exact not_mem_after_of_cutLast? hcut

theorem afterLast_subset (separator : Char) (text : Text) : afterLast separator text ⊆ text := by
  unfold afterLast
  cases hcut : cutLast? separator text with
  | none => exact List.Subset.refl text
  | some parts =>
    rw [eq_of_cutLast? hcut]
    exact fun c hmem => List.mem_append_right _ (List.mem_cons_of_mem _ hmem)

end Text

theorem Enclosed.plain_afterLast {path : Text} (h : Enclosed path) : Plain (Text.afterLast '/' path) :=
  plain_of_notMem (Text.notMem_afterLast '/' path) fun hmem =>
    h.backslash (Text.afterLast_subset '/' path hmem)

end PhotoPublish
