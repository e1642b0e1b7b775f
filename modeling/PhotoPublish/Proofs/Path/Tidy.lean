import PhotoPublish.Proofs.Path.Separators
import PhotoPublish.Proofs.Path.Segments

/-!
# Single slashes

`Path.tidy` writes one slash for each run of separators and keeps everything else, also at the ends of the
text. What is tidied on the two sides of any other character is tidied as a whole (`tidy_append_cons`), and
in front of a path the tidied text makes the same segments (`onto_tidy`). Text without separators is not
touched by the normal form, whatever stands around it (`plain_isInfix_normalizePath`).
-/

set_option autoImplicit false

namespace PhotoPublish.Path

/-- The text with one slash for each run of separators. -/
def tidy (text : Text) : Text :=
  squeezed (slashed text)

theorem normalizePath_eq (path : Text) : normalizePath path = stripped (tidy path) := rfl

theorem onto_tidy (text : Text) : onto (tidy text) = onto text := by
  rw [tidy, onto_squeezed, onto_slashed]

/-! ## Tidying around a character that is no separator -/

variable {c : Char} {x y : Text}

theorem squeezed_append_cons (hc : c ≠ '/') (x y : Text) :
    squeezed (x ++ c :: y) = squeezed x ++ c :: squeezed y := by
  have hcons : squeezed (c :: y) = c :: squeezed y := by
    rw [squeezed]
    rintro rest ⟨⟩
    exact absurd rfl hc
  induction x using squeezed.induct with
  | case1 rest ih => exact ih
  | case2 d rest hne ih =>
    rw [List.cons_append, squeezed, squeezed, ih]
    · rfl
    · exact hne
    · -- What follows is not a second slash, be it the rest or the character itself.
      intro later hd hlater
      cases rest with
      | nil => exact hc (List.cons.inj hlater).1
      | cons e rest =>
        obtain ⟨rfl, -⟩ := List.cons.inj hlater
        exact hne rest hd rfl
  | case3 => exact hcons

theorem slashed_append_cons (hc : isSeparator c = false) (x y : Text) :
    slashed (x ++ c :: y) = slashed x ++ c :: slashed y := by
  have hne : c ≠ '\\' := by
    rintro rfl
    cases hc
  unfold slashed
  rw [List.map_append, List.map_cons, if_neg hne]

/-- **Tidying stops at a character that is no separator.** -/
theorem tidy_append_cons (hc : isSeparator c = false) (x y : Text) :
    tidy (x ++ c :: y) = tidy x ++ c :: tidy y := by
  have hne : c ≠ '/' := by
    rintro rfl
    cases hc
  rw [tidy, slashed_append_cons hc, squeezed_append_cons hne]
  rfl

theorem tidy_cons (hc : isSeparator c = false) (x : Text) : tidy (c :: x) = c :: tidy x :=
  tidy_append_cons hc [] x

theorem slashed_cons_of_isSeparator (hc : isSeparator c = true) (x : Text) :
    slashed (c :: x) = '/' :: slashed x := by
  rcases eq_of_isSeparator hc with rfl | rfl <;> rfl

theorem tidy_cons_of_isSeparator (hc : isSeparator c = true) (x : Text) :
    ∃ y, tidy (c :: x) = '/' :: y := by
  have hhead : (tidy (c :: x)).head? = some '/' := by
    rw [tidy, head?_squeezed, slashed_cons_of_isSeparator hc]
    rfl
  obtain ⟨y, hy⟩ := List.head?_eq_some_iff.1 hhead
  exact ⟨y, hy⟩

/-! ## What tidying leaves alone -/

section Skipping

variable {f : Char → Bool} (hf : ∀ c, isSeparator c = true → ¬ f c = true)
include hf

theorem filter_squeezed (x : Text) : (squeezed x).filter f = x.filter f := by
  have hslash := hf '/' rfl
  fun_induction squeezed x with
  | case1 rest ih =>
    rw [ih, List.filter_cons_of_neg hslash, List.filter_cons_of_neg hslash,
      List.filter_cons_of_neg hslash]
  | case2 d rest _ ih => rw [List.filter_cons, List.filter_cons, ih]
  | case3 => rfl

theorem filter_slashed (x : Text) : (slashed x).filter f = x.filter f := by
  induction x with
  | nil => rfl
  | cons d rest ih =>
    cases hd : isSeparator d with
    | true =>
      rw [slashed_cons_of_isSeparator hd, List.filter_cons_of_neg (hf '/' rfl),
        List.filter_cons_of_neg (hf d hd), ih]
    | false =>
      have hcons : slashed (d :: rest) = d :: slashed rest := slashed_append_cons hd [] rest
      rw [hcons, List.filter_cons, List.filter_cons, ih]

/-- Characters other than separators stay, in their order. -/
theorem filter_tidy (x : Text) : (tidy x).filter f = x.filter f := by
  rw [tidy, filter_squeezed hf, filter_slashed hf]

theorem takeWhile_tidy (x : Text) : (tidy x).takeWhile f = x.takeWhile f := by
  induction x with
  | nil => rfl
  | cons d rest ih =>
    cases hd : isSeparator d with
    | true =>
      obtain ⟨y, hy⟩ := tidy_cons_of_isSeparator hd rest
      rw [hy, List.takeWhile_cons_of_neg (hf '/' rfl), List.takeWhile_cons_of_neg (hf d hd)]
    | false => rw [tidy_cons hd, List.takeWhile_cons, List.takeWhile_cons, ih]

theorem dropWhile_tidy (x : Text) : (tidy x).dropWhile f = tidy (x.dropWhile f) := by
  induction x with
  | nil => rfl
  | cons d rest ih =>
    cases hd : isSeparator d with
    | true =>
      obtain ⟨y, hy⟩ := tidy_cons_of_isSeparator hd rest
      rw [List.dropWhile_cons_of_neg (hf d hd), hy, List.dropWhile_cons_of_neg (hf '/' rfl)]
    | false =>
      rw [tidy_cons hd, List.dropWhile_cons, List.dropWhile_cons, ih]
      split
      · rfl
      · rw [tidy_cons hd]

/-- The normal form of a path keeps characters other than separators, in their order. -/
theorem filter_normalizePath (path : Text) : (normalizePath path).filter f = path.filter f := by
  have hslash : ['/'].filter f = [] := List.filter_cons_of_neg (hf '/' rfl)
  have hstripped := @apply_stripped (List Char) (List.filter f)
    (fun x => List.filter_cons_of_neg (hf '/' rfl))
    (fun x => by rw [List.filter_append, hslash, List.append_nil]) (tidy path)
  rw [normalizePath_eq, hstripped, filter_tidy hf]

end Skipping

theorem mem_tidy (hc : isSeparator c = false) : c ∈ tidy x ↔ c ∈ x := by
  have hfilter := @filter_tidy (fun d => !isSeparator d) (fun d hd => by rw [hd]; nofun) x
  have hmem : ∀ text : Text, c ∈ text ↔ c ∈ text.filter fun d => !isSeparator d := by
    intro text
    rw [List.mem_filter, hc]
    exact (and_iff_left rfl).symm
  rw [hmem, hfilter, ← hmem]

/-- Squeezed text has no two slashes in a row. -/
theorem not_slashes_infix_squeezed (x : Text) : ¬ ['/', '/'] <:+: squeezed x := by
  fun_induction squeezed x with
  | case1 rest ih => exact ih
  | case2 d rest hne ih =>
    rw [List.infix_cons_iff]
    rintro (⟨later, hlater⟩ | hdouble)
    · obtain ⟨rfl, hrest⟩ := List.cons.inj hlater
      have hhead := head?_squeezed rest
      rw [← hrest] at hhead
      obtain ⟨rest', hrest'⟩ := List.head?_eq_some_iff.1 hhead.symm
      exact hne rest' rfl hrest'
    · exact ih hdouble
  | case3 => simp

theorem squeezed_of_not_slashes_infix (h : ¬ ['/', '/'] <:+: x) : squeezed x = x := by
  fun_induction squeezed x with
  | case1 rest => exact absurd ⟨[], rest, rfl⟩ h
  | case2 d rest _ ih => rw [ih fun hdouble => h (hdouble.trans (List.suffix_cons d rest).isInfix)]
  | case3 => rfl

theorem squeezed_squeezed (x : Text) : squeezed (squeezed x) = squeezed x :=
  squeezed_of_not_slashes_infix (not_slashes_infix_squeezed x)

theorem stripped_isInfix (path : Text) : stripped path <:+: path := by
  have hback : stripped path <+: path.dropWhile (· = '/') := by
    rw [stripped, ← List.reverse_suffix, List.reverse_reverse]
    exact List.dropWhile_suffix _
  exact hback.isInfix.trans (List.dropWhile_suffix _).isInfix

/-- **The normal form of a path has no empty segment.** -/
theorem not_slashes_infix_normalizePath (path : Text) : ¬ ['/', '/'] <:+: normalizePath path :=
  fun hdouble => not_slashes_infix_squeezed _ (hdouble.trans (stripped_isInfix _))

/-- **What is tidy stays as it is.** -/
theorem tidy_tidy (x : Text) : tidy (tidy x) = tidy x := by
  have hback : '\\' ∉ squeezed (slashed x) := by
    rw [mem_squeezed]
    exact backslash_notMem_slashed x
  rw [tidy, tidy, slashed_of_notMem hback, squeezed_squeezed]

/-! ## Texts without separators in a path -/

theorem tidy_plain_append {w : Text} (hw : Plain w) (y : Text) : tidy (w ++ y) = w ++ tidy y := by
  induction w with
  | nil => rfl
  | cons d w ih =>
    rw [plain_cons] at hw
    rw [List.cons_append, tidy_cons hw.1, ih hw.2, List.cons_append]

theorem tidy_append_plain_append {w : Text} (hw : Plain w) (hne : w ≠ []) (x y : Text) :
    tidy (x ++ (w ++ y)) = tidy x ++ (w ++ tidy y) := by
  obtain ⟨d, w, rfl⟩ := List.exists_cons_of_ne_nil hne
  rw [plain_cons] at hw
  rw [List.cons_append, tidy_append_cons hw.1, tidy_plain_append hw.2, List.cons_append]

/-- What is cut off at the beginning ends before a text that holds none of it. -/
theorem exists_dropWhile_append {f : Char → Bool} {w : Text} (hw : ∀ d ∈ w, ¬ f d = true)
    (hne : w ≠ []) (x y : Text) : ∃ x', (x ++ (w ++ y)).dropWhile f = x' ++ (w ++ y) := by
  induction x with
  | nil =>
    obtain ⟨d, w, rfl⟩ := List.exists_cons_of_ne_nil hne
    exact ⟨[], List.dropWhile_cons_of_neg (hw d List.mem_cons_self)⟩
  | cons d x ih =>
    by_cases hd : f d = true
    · obtain ⟨x', hx'⟩ := ih
      exact ⟨x', by rw [List.cons_append, List.dropWhile_cons_of_pos hd, hx']⟩
    · exact ⟨d :: x, List.dropWhile_cons_of_neg hd⟩

/-- **A text without separators stands in the normal form of a path as it does in the path.** -/
theorem plain_isInfix_normalizePath {w : Text} (hw : Plain w) (x y : Text) :
    w <:+: normalizePath (x ++ (w ++ y)) := by
  by_cases hne : w = []
  · exact hne ▸ List.nil_infix
  · have hslash : ∀ d ∈ w, ¬ decide (d = '/') = true := by
      intro d hd hslash
      rw [of_decide_eq_true hslash] at hd
      exact hw.slash_notMem hd
    obtain ⟨x', hx'⟩ := exists_dropWhile_append hslash hne (tidy x) (tidy y)
    have hreverse : ∀ d ∈ w.reverse, ¬ decide (d = '/') = true :=
      fun d hd => hslash d (List.mem_reverse.1 hd)
    obtain ⟨y', hy'⟩ := exists_dropWhile_append hreverse (mt List.reverse_eq_nil_iff.1 hne)
      (tidy y).reverse x'.reverse
    refine ⟨x', y'.reverse, ?_⟩
    have hends : (x' ++ (w ++ tidy y)).reverse = (tidy y).reverse ++ (w.reverse ++ x'.reverse) := by
      simp
    rw [normalizePath_eq, tidy_append_plain_append hw hne, stripped, hx', hends, hy']
    simp

end PhotoPublish.Path
