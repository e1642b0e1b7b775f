import PhotoPublish.Proofs.Path.Separators

/-!
# Segments and the normal form

The normal form of a path is written on its text, its segments are read off the runs between separators.
Writing a path in normal form keeps its segments (`segments_normalizePath`), and two paths with a separator
between them have the segments of both (`segments_append_cons`). The segments are also what is left of the
normal form when it is split at its slashes (`segments_eq_splitOn`).
-/

set_option autoImplicit false

namespace PhotoPublish.Path

/-! ## Runs and separators -/

theorem isSeparator_slash : isSeparator '/' = true := rfl

theorem eq_of_isSeparator {c : Char} (hc : isSeparator c = true) : c = '/' ∨ c = '\\' := by
  simpa [isSeparator] using hc

@[simp] theorem segments_nil : segments [] = [] := rfl

theorem runs_cons_of_isSeparator {c : Char} (hc : isSeparator c = true) (rest : Text) :
    runs (c :: rest) = ([], segments rest) := by
  simp [runs, segments, hc]

theorem runs_cons_of_not_isSeparator {c : Char} (hc : isSeparator c = false) (rest : Text) :
    runs (c :: rest) = (c :: (runs rest).1, (runs rest).2) := by
  simp [runs, hc]

theorem segments_cons_of_isSeparator {c : Char} (hc : isSeparator c = true) (rest : Text) :
    segments (c :: rest) = segments rest := by
  simp [segments, runs_cons_of_isSeparator hc]

theorem runs_append_cons {c : Char} (hc : isSeparator c = true) (x y : Text) :
    runs (x ++ c :: y) = ((runs x).1, (runs x).2 ++ segments y) := by
  induction x with
  | nil => exact runs_cons_of_isSeparator hc y
  | cons d x ih =>
    rw [List.cons_append]
    cases hd : isSeparator d with
    | true =>
      rw [runs_cons_of_isSeparator hd, runs_cons_of_isSeparator hd]
      simp only [segments, ih]
      split <;> simp
    | false =>
      rw [runs_cons_of_not_isSeparator hd, runs_cons_of_not_isSeparator hd, ih]

/-- **Two paths with a separator between them have the segments of both.** -/
theorem segments_append_cons {c : Char} (hc : isSeparator c = true) (x y : Text) :
    segments (x ++ c :: y) = segments x ++ segments y := by
  simp only [segments, runs_append_cons hc]
  split <;> simp

/-! ## A text in front of a path -/

/-- The segments that runs make. -/
def whole (later : Text × List Text) : List Text :=
  if later.1.isEmpty then later.2 else later.1 :: later.2

/-- The runs of a path with a character in front of it. -/
def ontoStep (c : Char) (later : Text × List Text) : Text × List Text :=
  if isSeparator c then ([], whole later) else (c :: later.1, later.2)

/-- The runs of a path with a text in front of it. -/
def onto (text : Text) (later : Text × List Text) : Text × List Text :=
  text.foldr ontoStep later

theorem onto_cons (c : Char) (x : Text) : onto (c :: x) = ontoStep c ∘ onto x := rfl

theorem onto_append (x y : Text) : onto (x ++ y) = onto x ∘ onto y :=
  funext fun _ => List.foldr_append

theorem runs_eq_onto (path : Text) : runs path = onto path ([], []) := by
  induction path with
  | nil => rfl
  | cons c rest ih =>
    rw [runs, ih]
    rfl

theorem segments_eq_whole (path : Text) : segments path = whole (onto path ([], [])) := by
  rw [← runs_eq_onto]
  rfl

/-- A second slash makes nothing new. -/
theorem onto_slash_slash (rest : Text) : onto ('/' :: '/' :: rest) = onto ('/' :: rest) := rfl

/-! ## The steps to the normal form -/

theorem onto_slashed (path : Text) : onto (slashed path) = onto path := by
  induction path with
  | nil => rfl
  | cons c rest ih =>
    have hcons : slashed (c :: rest) = (if c = '\\' then '/' else c) :: slashed rest := rfl
    rw [hcons, onto_cons, onto_cons, ih]
    split
    · rename_i hc
      subst hc
      rfl
    · rfl

theorem onto_squeezed (path : Text) : onto (squeezed path) = onto path := by
  induction path using squeezed.induct with
  | case1 rest ih => rw [squeezed, ih, onto_slash_slash]
  | case2 c rest hne ih =>
    rw [squeezed]
    · rw [onto_cons, onto_cons, ih]
    · exact hne
  | case3 => rfl

section Stripping

variable {α : Type} {f : Text → α} (hfront : ∀ x, f ('/' :: x) = f x)
include hfront

theorem apply_dropWhile (path : Text) : f (path.dropWhile (· = '/')) = f path := by
  induction path with
  | nil => rfl
  | cons c rest ih =>
    rw [List.dropWhile_cons]
    split
    · rename_i hc
      obtain rfl : c = '/' := of_decide_eq_true hc
      rw [ih, hfront]
    · rfl

/-- What does not depend on a slash at an end does not depend on all the slashes there. -/
theorem apply_stripped (hback : ∀ x, f (x ++ ['/']) = f x) (path : Text) :
    f (stripped path) = f path := by
  have hreverse : ∀ x : Text, f ('/' :: x).reverse = f x.reverse := by
    intro x
    rw [List.reverse_cons, hback]
  calc f (stripped path)
      = f (path.dropWhile (· = '/')).reverse.reverse :=
        apply_dropWhile (f := fun x => f x.reverse) hreverse _
    _ = f (path.dropWhile (· = '/')) := by rw [List.reverse_reverse]
    _ = f path := apply_dropWhile hfront path

end Stripping

theorem segments_stripped (path : Text) : segments (stripped path) = segments path := by
  refine apply_stripped (segments_cons_of_isSeparator isSeparator_slash) (fun x => ?_) path
  rw [segments_append_cons isSeparator_slash, segments_nil, List.append_nil]

/-- **The normal form of a path has the same segments.** -/
theorem segments_normalizePath (path : Text) :
    segments (normalizePath path) = segments path := by
  rw [normalizePath, segments_stripped, segments_eq_whole, segments_eq_whole, onto_squeezed,
    onto_slashed]

/-! ## Splitting at slashes -/

theorem filter_runs {path : Text} {later : List Text}
    (h : later.filter (fun part => !part.isEmpty) = (runs path).2) :
    ((runs path).1 :: later).filter (fun part => !part.isEmpty) = segments path := by
  have hsegments : segments path =
    if (runs path).1.isEmpty then (runs path).2 else (runs path).1 :: (runs path).2 := rfl
  rw [List.filter_cons, h, hsegments]
  cases (runs path).1 <;> rfl

/-- Splitting at slashes cuts a path without backslashes into its runs and empty texts. -/
theorem exists_splitOn {path : Text} (h : '\\' ∉ path) :
    ∃ later, Text.splitOn '/' path = (runs path).1 :: later ∧
      later.filter (fun part => !part.isEmpty) = (runs path).2 := by
  induction path with
  | nil => exact ⟨[], rfl, rfl⟩
  | cons c rest ih =>
    rw [List.mem_cons, not_or] at h
    obtain ⟨later, hsplit, hlater⟩ := ih h.2
    by_cases hc : c = '/'
    · subst hc
      refine ⟨(runs rest).1 :: later, ?_, ?_⟩
      · rw [Text.splitOn, if_pos rfl, hsplit, runs_cons_of_isSeparator isSeparator_slash]
      · rw [runs_cons_of_isSeparator isSeparator_slash, filter_runs hlater]
    · have hseparator : isSeparator c = false := by simp [isSeparator, hc, Ne.symm h.1]
      refine ⟨later, ?_, ?_⟩
      · rw [Text.splitOn, if_neg hc, hsplit, runs_cons_of_not_isSeparator hseparator]
      · rw [runs_cons_of_not_isSeparator hseparator, hlater]

/-- **The segments of a path are the parts between the slashes of its normal form,** the empty ones left
out. -/
theorem segments_eq_splitOn (path : Text) :
    segments path =
      (Text.splitOn '/' (normalizePath path)).filter fun part => !part.isEmpty := by
  obtain ⟨later, hsplit, hlater⟩ := exists_splitOn (enclosed_normalizePath path).backslash
  rw [hsplit, filter_runs hlater, segments_normalizePath]

theorem ne_nil_of_mem_segments {path segment : Text} (h : segment ∈ segments path) : segment ≠ [] := by
  rw [segments_eq_splitOn, List.mem_filter] at h
  simpa using h.2

/-! ## What segments are made of -/

theorem runs_of_plain {text : Text} (h : Plain text) : runs text = (text, []) := by
  induction text with
  | nil => rfl
  | cons c rest ih =>
    rw [plain_cons] at h
    rw [runs_cons_of_not_isSeparator h.1, ih h.2]

/-- A text without separators is a segment as a whole. -/
theorem segments_of_plain {text : Text} (h : Plain text) (hne : text ≠ []) : segments text = [text] := by
  rw [segments, runs_of_plain h]
  exact if_neg (by simpa using hne)

theorem flatten_whole (later : Text × List Text) : (whole later).flatten = later.1 ++ later.2.flatten := by
  obtain ⟨first, rest⟩ := later
  cases first <;> rfl

/-- **All characters of a path but its separators stand in its segments,** in their order. -/
theorem flatten_segments (path : Text) :
    (segments path).flatten = path.filter fun c => !isSeparator c := by
  induction path with
  | nil => rfl
  | cons c rest ih =>
    cases hc : isSeparator c with
    | true =>
      rw [segments_cons_of_isSeparator hc, List.filter_cons_of_neg (by simp [hc]), ih]
    | false =>
      have hcons : segments (c :: rest) = (c :: (runs rest).1) :: (runs rest).2 := by
        rw [segments, runs_cons_of_not_isSeparator hc]
        rfl
      rw [hcons, List.filter_cons_of_pos (by simp [hc]), ← ih]
      exact congrArg (c :: ·) (flatten_whole (runs rest)).symm

theorem segments_eq_nil_iff {path : Text} : segments path = [] ↔ ∀ c ∈ path, isSeparator c = true := by
  constructor
  · intro hnil c hmem
    have hflatten := flatten_segments path
    rw [hnil, List.flatten_nil, eq_comm, List.filter_eq_nil_iff] at hflatten
    simpa using hflatten c hmem
  · intro hseparators
    induction path with
    | nil => rfl
    | cons c rest ih =>
      obtain ⟨hc, hrest⟩ := List.forall_mem_cons.1 hseparators
      rw [segments_cons_of_isSeparator hc, ih hrest]

/-- What follows the last slash is the last segment. -/
theorem afterLast_slash {path : Text} (h : Enclosed path) :
    Text.afterLast '/' path = (segments path).getLast?.getD [] := by
  have hplain := h.plain_afterLast
  unfold Text.afterLast at hplain ⊢
  cases hcut : Text.cutLast? '/' path with
  | none =>
    rw [hcut] at hplain
    by_cases hempty : path = []
    · rw [hempty]
      rfl
    · rw [segments_of_plain hplain hempty]
      rfl
  | some parts =>
    obtain ⟨before, after⟩ := parts
    rw [hcut] at hplain
    have hpath := Text.eq_of_cutLast? hcut
    have hne : after ≠ [] := by
      rintro rfl
      exact h.last (hpath ▸ List.getLast?_concat)
    rw [hpath, segments_append_cons isSeparator_slash, segments_of_plain hplain hne,
      List.getLast?_concat]
    rfl

/-- **Joined paths have the segments of their parts.** -/
theorem segments_join (parts : List Text) :
    segments (Text.join ['/'] parts) = parts.flatMap segments := by
  induction parts with
  | nil => rfl
  | cons part rest ih =>
    cases rest with
    | nil => simp [Text.join, List.intercalate]
    | cons next rest =>
      rw [Text.join, List.intercalate_cons_cons, ← Text.join, List.append_assoc,
        List.singleton_append, segments_append_cons isSeparator_slash, ih, ← List.flatMap_cons]

end PhotoPublish.Path
