import PhotoPublish.Proofs.Path.Extension
import PhotoPublish.Proofs.Path.Tidy
import PhotoPublish.Proofs.Template.Junction

/-!
# Tidied templates

A template is tidied like a path, its placeholders not excepted. Braces are no separators, so that the
placeholders stay where they are, and each has its parts tidied (`Placeholder.tidied`).

* `Placeholder.parse?_tidy`: what tidied text between braces is as a placeholder.
* `map_onto_tidy`: a tidied template expands as the template does with its placeholders tidied, but for
  separators that make no segment.
* `segmentsWith_normalizePath`: the segments that a template in normal form makes.
-/

set_option autoImplicit false

namespace PhotoPublish

/-! ## Tidied placeholders -/

theorem not_isWord_of_isSeparator (c : Char) (hc : isSeparator c = true) : ¬ isWord c = true := by
  rcases Path.eq_of_isSeparator hc with rfl | rfl <;> decide

theorem not_isBlank_of_isSeparator (c : Char) (hc : isSeparator c = true) : ¬ isBlank c = true := by
  rcases Path.eq_of_isSeparator hc with rfl | rfl <;> decide

theorem not_isBrace_of_isSeparator (c : Char) (hc : isSeparator c = true) : ¬ isBrace c = true := by
  rcases Path.eq_of_isSeparator hc with rfl | rfl <;> decide

/-- No arguments start with a separator. -/
theorem Category.arguments?_of_isSeparator (category : Category) {c : Char}
    (hc : isSeparator c = true) (rest : Text) : category.arguments? (c :: rest) = none := by
  rcases Path.eq_of_isSeparator hc with rfl | rfl <;> cases category <;> rfl

theorem Category.arguments?_tidy (category : Category) (rest : Text) :
    category.arguments? (Path.tidy rest) = (category.arguments? rest).map Path.tidy := by
  cases rest with
  | nil => cases category <;> rfl
  | cons c rest =>
    cases hc : isSeparator c with
    | true =>
      obtain ⟨y, hy⟩ := Path.tidy_cons_of_isSeparator hc rest
      rw [hy, arguments?_of_isSeparator category rfl, arguments?_of_isSeparator category hc]
      rfl
    | false =>
      cases category with
      | date =>
        have htrim : Text.trimLeft (Path.tidy (c :: rest)) = Path.tidy (Text.trimLeft (c :: rest)) :=
          Path.dropWhile_tidy not_isBlank_of_isSeparator _
        rw [Path.tidy_cons hc] at htrim ⊢
        simp only [arguments?]
        split
        · exact congrArg some htrim
        · rfl
      | formatted | path | collection =>
        rw [Path.tidy_cons hc]
        by_cases hcolon : c = ':'
        · subst hcolon
          rfl
        · simp [arguments?, hcolon]

namespace Placeholder

/-- The placeholder with its parts tidied. -/
def tidied (p : Placeholder) : Placeholder :=
  { p with args := Path.tidy p.args, default := p.default.map Path.tidy, text := Path.tidy p.text }

theorem tidied_tidied (p : Placeholder) : p.tidied.tidied = p.tidied := by
  have hdefault : (p.default.map Path.tidy).map Path.tidy = p.default.map Path.tidy := by
    cases p.default with
    | none => rfl
    | some text => exact congrArg some (Path.tidy_tidy text)
  simp only [tidied, Path.tidy_tidy, hdefault]

theorem cutDefault_tidy (rest : Text) :
    cutDefault (Path.tidy rest) =
      (Path.tidy (cutDefault rest).1, (cutDefault rest).2.map Path.tidy) := by
  unfold cutDefault
  rcases Text.notMem_or_cut '|' rest with h | ⟨before, after, rfl, h⟩
  · rw [Text.cutLast?_of_notMem h, Text.cutLast?_of_notMem]
    · rfl
    · rwa [Path.mem_tidy rfl]
  · rw [Path.tidy_append_cons rfl, Text.cutLast?_append_cons _ h, Text.cutLast?_append_cons]
    · rfl
    · rwa [Path.mem_tidy rfl]

/-- **Tidied text between braces is the tidied placeholder.** -/
theorem parse?_tidy (body : Text) (start : Int) :
    parse? ('\x7b' :: (Path.tidy body ++ ['\x7d'])) start =
      (parse? ('\x7b' :: (body ++ ['\x7d'])) start).map tidied := by
  have htext : Path.tidy ('\x7b' :: (body ++ ['\x7d'])) = '\x7b' :: (Path.tidy body ++ ['\x7d']) := by
    rw [Path.tidy_cons rfl, Path.tidy_append_cons rfl]
    rfl
  simp only [parse?, body?_braced, Option.bind_eq_bind, Option.bind_some,
    Path.takeWhile_tidy not_isWord_of_isSeparator, Path.dropWhile_tidy not_isWord_of_isSeparator,
    Category.arguments?_tidy]
  cases Category.ofName? (body.takeWhile isWord) with
  | none => rfl
  | some category =>
    cases hrest : category.arguments? (body.dropWhile isWord) with
    | none => simp [hrest]
    | some rest => simp [hrest, cutDefault_tidy, tidied, htext]

end Placeholder

/-! ## Scanning from brace to brace -/

/-- A text without braces. -/
def Unbraced (text : Text) : Prop :=
  ∀ c ∈ text, isBrace c = false

theorem ne_close_of_not_isBrace {c : Char} (hc : isBrace c = false) : c ≠ '\x7d' := by
  rintro rfl
  cases hc

theorem eq_of_isBrace {c : Char} (hc : isBrace c = true) : c = '\x7b' ∨ c = '\x7d' := by
  simpa [isBrace] using hc

theorem Unbraced.tidy {text : Text} (h : Unbraced text) : Unbraced (Path.tidy text) := by
  intro c hmem
  cases hc : isSeparator c with
  | true => exact Bool.eq_false_iff.2 (not_isBrace_of_isSeparator c hc)
  | false => exact h c ((Path.mem_tidy hc).1 hmem)

/-- A text has no braces or is cut at the first one. -/
theorem unbraced_or_cut (text : Text) : Unbraced text ∨
    ∃ before c after, text = before ++ c :: after ∧ Unbraced before ∧ isBrace c = true := by
  induction text with
  | nil => exact .inl nofun
  | cons c rest ih =>
    cases hc : isBrace c with
    | true => exact .inr ⟨[], c, rest, rfl, nofun, hc⟩
    | false =>
      rcases ih with h | ⟨before, d, after, rfl, h, hd⟩
      · exact .inl (List.forall_mem_cons.2 ⟨hc, h⟩)
      · exact .inr ⟨c :: before, d, after, rfl, List.forall_mem_cons.2 ⟨hc, h⟩, hd⟩

section Runs

variable {position : Nat} {literal token u : Text}

theorem scanFrom_unbraced (hu : Unbraced u) (rest : Text) :
    scanFrom position literal none (u ++ rest) =
      scanFrom (position + u.length) (literal ++ u) none rest := by
  induction u generalizing position literal with
  | nil => rw [List.append_nil]; rfl
  | cons c u ih =>
    obtain ⟨hc, hu⟩ := List.forall_mem_cons.1 hu
    rw [List.cons_append, scanFrom_skip (ne_open_of_not_isBrace hc), ih hu, List.append_assoc,
      List.length_cons, Nat.add_assoc, Nat.add_comm 1]
    rfl

theorem scanFrom_unbraced_some (hu : Unbraced u) (rest : Text) :
    scanFrom position literal (some token) (u ++ rest) =
      scanFrom (position + u.length) literal (some (token ++ u)) rest := by
  induction u generalizing position token with
  | nil => rw [List.append_nil]; rfl
  | cons c u ih =>
    obtain ⟨hc, hu⟩ := List.forall_mem_cons.1 hu
    rw [List.cons_append,
      scanFrom_extend (ne_open_of_not_isBrace hc) (ne_close_of_not_isBrace hc), ih hu,
      List.append_assoc, List.length_cons, Nat.add_assoc, Nat.add_comm 1]
    rfl

end Runs

section Expanding

variable {value : Placeholder → Except Failure Text}
  (hvalue : ∀ p start, value { p with start := start } = value p) {u : Text}

variable (value) in
/-- What the rest of a template expands to behind an open brace. -/
def expandOpened (rest : Text) : Except Failure Text :=
  expand value (scanFrom 0 [] (some ['\x7b']) rest)

theorem expand_scan_unbraced (hu : Unbraced u) : expand value (scan u) = .ok u := by
  have hscan := @scanFrom_unbraced 0 [] u hu []
  rw [List.append_nil] at hscan
  rw [scan, hscan, scanFrom, expand_literals]
  exact congrArg Except.ok (List.append_nil u)

theorem expandOpened_unbraced (hu : Unbraced u) : expandOpened value u = .ok ('\x7b' :: u) := by
  have hscan := @scanFrom_unbraced_some 0 [] ['\x7b'] u hu []
  rw [List.append_nil] at hscan
  rw [expandOpened, hscan, scanFrom, expand_literals]
  rfl

/-- A character at the end that is no brace belongs to no placeholder. -/
theorem expand_scanFrom_concat {c : Char} (hc : isBrace c = false) {position : Nat} {literal : Text}
    {opened : Option Text} (rest : Text) :
    expand value (scanFrom position literal opened (rest ++ [c])) =
      (· ++ [c]) <$> expand value (scanFrom position literal opened rest) := by
  induction rest generalizing position literal opened with
  | nil =>
    cases opened with
    | none =>
      rw [List.nil_append, scanFrom_skip (ne_open_of_not_isBrace hc), scanFrom, scanFrom, expand_literals,
        expand_literals]
      exact congrArg Except.ok (by simp)
    | some token =>
      rw [List.nil_append, scanFrom_extend (ne_open_of_not_isBrace hc) (ne_close_of_not_isBrace hc),
        scanFrom, scanFrom, expand_literals, expand_literals]
      exact congrArg Except.ok (List.append_assoc literal token [c]).symm
  | cons d rest ih =>
    rw [List.cons_append]
    by_cases hopen : d = '\x7b'
    · subst hopen
      rw [scanFrom_open, scanFrom_open]
      exact ih
    · cases opened with
      | none =>
        rw [scanFrom_skip hopen, scanFrom_skip hopen]
        exact ih
      | some token =>
        by_cases hclose : d = '\x7d'
        · subst hclose
          rw [scanFrom_close, scanFrom_close]
          cases Placeholder.parse? (token ++ ['\x7d']) (position - token.length : Nat) with
          | none => exact ih
          | some p =>
            simp only [expand_literals_append, expand_placeholder_cons, ih]
            cases value p with
            | error failure => rfl
            | ok text =>
              cases expand value (scanFrom (position + 1) [] none rest) with
              | error failure => rfl
              | ok later => exact congrArg Except.ok (by simp)
        · rw [scanFrom_extend hopen hclose, scanFrom_extend hopen hclose]
          exact ih

include hvalue

/-- Literal text and place of a rest do not matter for what comes behind. -/
theorem expand_scanFrom_eq (position : Nat) (literal : Text) (opened : Option Text) (rest : Text) :
    expand value (scanFrom position literal opened rest) =
      (literal ++ ·) <$> expand value (scanFrom 0 [] opened rest) := by
  have hliteral := @expand_scanFrom_literal value literal position [] opened rest
  rw [List.append_nil] at hliteral
  rw [hliteral, expand_scanFrom_position hvalue position 0]

theorem expand_scan_open (hu : Unbraced u) (rest : Text) :
    expand value (scan (u ++ '\x7b' :: rest)) = (u ++ ·) <$> expandOpened value rest := by
  rw [scan, scanFrom_unbraced hu, scanFrom_open, expand_scanFrom_eq hvalue, Option.getD_none,
    List.append_nil]
  rfl

theorem expand_scan_close (hu : Unbraced u) (rest : Text) :
    expand value (scan (u ++ '\x7d' :: rest)) =
      (u ++ ['\x7d'] ++ ·) <$> expand value (scan rest) := by
  rw [scan, scanFrom_unbraced hu, scanFrom_skip (by decide), expand_scanFrom_eq hvalue]
  rfl

theorem expandOpened_open (hu : Unbraced u) (rest : Text) :
    expandOpened value (u ++ '\x7b' :: rest) = ('\x7b' :: u ++ ·) <$> expandOpened value rest := by
  rw [expandOpened, scanFrom_unbraced_some hu, scanFrom_open, expand_scanFrom_eq hvalue]
  rfl

theorem expandOpened_close (hu : Unbraced u) (rest : Text) :
    expandOpened value (u ++ '\x7d' :: rest) =
      match Placeholder.parse? ('\x7b' :: (u ++ ['\x7d'])) with
      | some p => value p >>= fun text => (text ++ ·) <$> expand value (scan rest)
      | none => ('\x7b' :: (u ++ ['\x7d']) ++ ·) <$> expand value (scan rest) := by
  rw [expandOpened, scanFrom_unbraced_some hu, scanFrom_close, Placeholder.parse?_start _ 0]
  have htoken : ['\x7b'] ++ u ++ ['\x7d'] = '\x7b' :: (u ++ ['\x7d']) := rfl
  rw [htoken]
  cases Placeholder.parse? ('\x7b' :: (u ++ ['\x7d'])) with
  | none => exact expand_scanFrom_eq hvalue ..
  | some p =>
    simp only [Option.map_some, expand_literals_append, expand_placeholder_cons, hvalue]
    rw [expand_scanFrom_position hvalue _ 0, ← scan]
    exact id_map _

/-! ## Tidied templates -/

omit hvalue in
theorem map_onto_prepend (text : Text) (result : Except Failure Text) :
    ((text ++ ·) <$> result).map Path.onto = (result.map Path.onto).map (Path.onto text ∘ ·) := by
  cases result with
  | error failure => rfl
  | ok later => exact congrArg Except.ok (Path.onto_append text later)

omit hvalue in
theorem map_onto_bind (first second : Except Failure Text) :
    (first >>= fun text => (text ++ ·) <$> second).map Path.onto =
      first.map Path.onto >>= fun ahead => (second.map Path.onto).map (ahead ∘ ·) := by
  cases first with
  | error failure => rfl
  | ok text => exact map_onto_prepend text second

theorem map_onto_tidy (rest : Text) :
    (expand value (scan (Path.tidy rest))).map Path.onto =
        (expand (value ∘ Placeholder.tidied) (scan rest)).map Path.onto ∧
      (expandOpened value (Path.tidy rest)).map Path.onto =
        (expandOpened (value ∘ Placeholder.tidied) rest).map Path.onto := by
  have hvalue' : ∀ p start, (value ∘ Placeholder.tidied) { p with start := start } =
      (value ∘ Placeholder.tidied) p := fun p start => hvalue p.tidied start
  rcases unbraced_or_cut rest with hu | ⟨u, c, after, rfl, hu, hc⟩
  · rw [expand_scan_unbraced hu, expand_scan_unbraced hu.tidy, expandOpened_unbraced hu,
      expandOpened_unbraced hu.tidy]
    exact ⟨congrArg Except.ok (Path.onto_tidy rest), congrArg Except.ok <| by
      rw [Path.onto_cons, Path.onto_cons, Path.onto_tidy]⟩
  · obtain ⟨hclosed, hopened⟩ := map_onto_tidy after
    rcases eq_of_isBrace hc with rfl | rfl
    · rw [Path.tidy_append_cons rfl, expand_scan_open hvalue hu.tidy, expand_scan_open hvalue' hu,
        expandOpened_open hvalue hu.tidy, expandOpened_open hvalue' hu]
      simp only [map_onto_prepend, hopened, Path.onto_cons, Path.onto_tidy, and_self]
    · rw [Path.tidy_append_cons rfl, expand_scan_close hvalue hu.tidy, expand_scan_close hvalue' hu,
        expandOpened_close hvalue hu.tidy, expandOpened_close hvalue' hu, Placeholder.parse?_tidy]
      refine ⟨?_, ?_⟩
      · simp only [map_onto_prepend, hclosed, Path.onto_append, Path.onto_tidy]
      · cases Placeholder.parse? ('\x7b' :: (u ++ ['\x7d'])) with
        | none =>
          simp only [Option.map_none, map_onto_prepend, hclosed, Path.onto_cons, Path.onto_append,
            Path.onto_tidy]
        | some p => simp only [Option.map_some, map_onto_bind, hclosed, Function.comp_apply]
termination_by rest.length
decreasing_by
  subst_vars
  simp
  omega

end Expanding

/-! ## Segments of a template -/

theorem lastBrace?_normalizePath (path : Text) : lastBrace? (normalizePath path) = lastBrace? path :=
  congrArg List.getLast? (Path.filter_normalizePath not_isBrace_of_isSeparator path)

/-- The segments that a template makes with the given texts for its placeholders. -/
def segmentsWith (value : Placeholder → Except Failure Text) (template : Text) :
    Except Failure (List Text) :=
  (expand value (scan template)).map Path.segments

section Segments

variable {value other : Placeholder → Except Failure Text} {a b : Text}

/-- The segments of a result depend on what it makes of the runs of a path behind it. -/
theorem segmentsWith_congr
    (h : (expand value (scan a)).map Path.onto = (expand other (scan b)).map Path.onto) :
    segmentsWith value a = segmentsWith other b := by
  have hsegments : ∀ result : Except Failure Text,
      result.map Path.segments = (result.map Path.onto).map fun ahead => Path.whole (ahead ([], [])) := by
    intro result
    cases result with
    | error failure => rfl
    | ok text => exact congrArg Except.ok (Path.segments_eq_whole text)
  rw [segmentsWith, segmentsWith, hsegments, hsegments, h]

theorem segmentsWith_nil : segmentsWith value [] = .ok [] := rfl

variable (hvalue : ∀ p start, value { p with start := start } = value p)
include hvalue

/-- **Two patterns with a slash between them make the segments of both.** -/
theorem segmentsWith_append_slash (ha : lastBrace? a ≠ some '\x7b') (b : Text) :
    segmentsWith value (a ++ '/' :: b) =
      segmentsWith value a >>= fun first => (first ++ ·) <$> segmentsWith value b := by
  unfold segmentsWith
  rw [expand_scan_append hvalue ha rfl]
  cases expand value (scan a) with
  | error failure => rfl
  | ok first =>
    cases expand value (scan b) with
    | error failure => rfl
    | ok second => exact congrArg Except.ok (Path.segments_append_cons Path.isSeparator_slash first second)

theorem segmentsWith_slash (x : Text) : segmentsWith value ('/' :: x) = segmentsWith value x := by
  have happend := segmentsWith_append_slash hvalue (a := []) nofun x
  rw [List.nil_append] at happend
  rw [happend, segmentsWith_nil]
  cases segmentsWith value x <;> rfl

omit hvalue in
theorem segmentsWith_concat_slash (x : Text) :
    segmentsWith value (x ++ ['/']) = segmentsWith value x := by
  rw [segmentsWith, segmentsWith, scan, expand_scanFrom_concat rfl, ← scan]
  cases expand value (scan x) with
  | error failure => rfl
  | ok text =>
    refine congrArg Except.ok ?_
    rw [Path.segments_append_cons Path.isSeparator_slash, Path.segments_nil, List.append_nil]

theorem segmentsWith_tidy (template : Text) :
    segmentsWith value (Path.tidy template) =
      segmentsWith (value ∘ Placeholder.tidied) template :=
  segmentsWith_congr (map_onto_tidy hvalue template).1

/-- **A template in normal form makes the segments of the template with its placeholders tidied.** -/
theorem segmentsWith_normalizePath (template : Text) :
    segmentsWith value (normalizePath template) =
      segmentsWith (value ∘ Placeholder.tidied) template := by
  rw [Path.normalizePath_eq, Path.apply_stripped (segmentsWith_slash hvalue) segmentsWith_concat_slash,
    segmentsWith_tidy hvalue]

end Segments

end PhotoPublish
