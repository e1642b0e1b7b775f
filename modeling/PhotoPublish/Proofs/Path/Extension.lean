import PhotoPublish.Path.Relative
import PhotoPublish.Proofs.Path.Separators

/-!
# Extensions of paths

The extension of a path is read off its last name, so that it is there after the path is cut, put below a
directory or made relative (`Path.extension_relative`). What is put in front of a point and an extension may
take that away: if its own last name has nothing but points (`Path.endsInPoints`), the point in front of the
extension counts as one of them (`Path.extension_append_point`). Suffixes that are put in front of the extension
one after the other stand side by side (`Path.addSuffix_addSuffix`).
-/

set_option autoImplicit false

namespace PhotoPublish

/-! ## Cuts at the last separator -/

namespace Text

variable {separator : Char} {x y : Text}

theorem cutLast?_of_notMem (h : separator ∉ x) : cutLast? separator x = none := by
  cases hcut : cutLast? separator x with
  | none => rfl
  | some parts =>
    rw [eq_of_cutLast? hcut] at h
    exact absurd (List.mem_append_right _ List.mem_cons_self) h

theorem cutLast?_append_cons (x : Text) (h : separator ∉ y) :
    cutLast? separator (x ++ separator :: y) = some (x, y) := by
  induction x with
  | nil =>
    rw [List.nil_append, cutLast?, cutLast?_of_notMem h]
    exact if_pos rfl
  | cons c rest ih => rw [List.cons_append, cutLast?, ih]

theorem afterLast_of_notMem (h : separator ∉ x) : afterLast separator x = x := by
  rw [afterLast, cutLast?_of_notMem h]

theorem afterLast_of_cut (x : Text) (h : separator ∉ y) :
    afterLast separator (x ++ separator :: y) = y := by
  rw [afterLast, cutLast?_append_cons x h]

/-- A text has no separator or is cut at the last one. -/
theorem notMem_or_cut (separator : Char) (x : Text) :
    separator ∉ x ∨ ∃ before after, x = before ++ separator :: after ∧ separator ∉ after := by
  cases hcut : cutLast? separator x with
  | none => exact .inl (notMem_of_cutLast? hcut)
  | some parts =>
    exact .inr ⟨parts.1, parts.2, eq_of_cutLast? hcut, not_mem_after_of_cutLast? hcut⟩

theorem afterLast_append_cons (separator : Char) (x y : Text) :
    afterLast separator (x ++ separator :: y) = afterLast separator y := by
  rcases notMem_or_cut separator y with h | ⟨before, after, rfl, h⟩
  · rw [afterLast_of_notMem h, afterLast_of_cut x h]
  · rw [← List.cons_append, ← List.append_assoc, afterLast_of_cut _ h, afterLast_of_cut _ h]

theorem afterLast_append (x : Text) (h : separator ∉ y) :
    afterLast separator (x ++ y) = afterLast separator x ++ y := by
  rcases notMem_or_cut separator x with hx | ⟨before, after, rfl, hx⟩
  · rw [afterLast_of_notMem hx, afterLast_of_notMem]
    rw [List.mem_append]
    exact not_or_intro hx h
  · rw [afterLast_of_cut before hx, List.append_assoc, List.cons_append, afterLast_of_cut]
    rw [List.mem_append]
    exact not_or_intro hx h

theorem splitOn_eq (separator : Char) (x : Text) : splitOn separator x = List.splitOn separator x := by
  induction x with
  | nil => rfl
  | cons c rest ih =>
    rw [splitOn, List.splitOn_cons_eq_if_modifyHead, ih]
    obtain ⟨part, parts, hparts⟩ := List.exists_cons_of_ne_nil (List.splitOn_ne_nil separator rest)
    rw [hparts]
    exact if_congr beq_iff_eq.symm rfl rfl

theorem splitOn_of_notMem (h : separator ∉ x) : splitOn separator x = [x] := by
  rw [splitOn_eq, List.splitOn_eq_singleton h]

theorem splitOn_append_cons (separator : Char) (x y : Text) :
    splitOn separator (x ++ separator :: y) = splitOn separator x ++ splitOn separator y := by
  rw [splitOn_eq, splitOn_eq, splitOn_eq, List.splitOn_append_cons_self]

theorem splitOn_join {parts : List Text} (h : ∀ part ∈ parts, separator ∉ part) (hne : parts ≠ []) :
    splitOn separator (join [separator] parts) = parts := by
  rw [splitOn_eq, join, List.splitOn_intercalate separator h hne]

/-- No part holds the separator. -/
theorem notMem_of_mem_splitOn {part : Text} (h : part ∈ splitOn separator x) : separator ∉ part := by
  induction x generalizing part with
  | nil =>
    obtain rfl := List.mem_singleton.1 h
    exact List.not_mem_nil
  | cons c rest ih =>
    rw [splitOn] at h
    split at h
    · rcases List.mem_cons.1 h with rfl | hmem
      · exact List.not_mem_nil
      · exact ih hmem
    · rename_i hc
      obtain ⟨first, parts, hparts⟩ := List.exists_cons_of_ne_nil (splitOn_ne_nil separator rest)
      rw [hparts] at h ih
      rcases List.mem_cons.1 h with rfl | hmem
      · rw [List.mem_cons, not_or]
        exact ⟨Ne.symm hc, ih List.mem_cons_self⟩
      · exact ih (List.mem_cons_of_mem first hmem)

/-- What follows the last separator is the last part. -/
theorem splitOn_eq_concat (separator : Char) (x : Text) :
    ∃ parts, splitOn separator x = parts ++ [afterLast separator x] := by
  rcases notMem_or_cut separator x with h | ⟨before, after, rfl, h⟩
  · exact ⟨[], by rw [splitOn_of_notMem h, afterLast_of_notMem h, List.nil_append]⟩
  · exact ⟨splitOn separator before, by
      rw [splitOn_append_cons, splitOn_of_notMem h, afterLast_of_cut before h]⟩

end Text

namespace Path

/-! ## Extensions -/

theorem slashed_append (x y : Text) : slashed (x ++ y) = slashed x ++ slashed y :=
  List.map_append

theorem slash_mem_slashed {path : Text} : '/' ∈ slashed path ↔ path.any isSeparator = true := by
  unfold slashed
  rw [List.mem_map, List.any_eq_true]
  refine exists_congr fun c => and_congr_right fun _ => ?_
  unfold isSeparator
  split
  · rename_i hc
    simp [hc]
  · rename_i hc
    simp [hc]

theorem slashed_of_plain {path : Text} (h : Plain path) : slashed path = path :=
  slashed_of_notMem h.backslash_notMem

/-- The last name of a path, both separators counting. -/
def lastName (path : Text) : Text :=
  Text.afterLast '/' (slashed path)

theorem lastName_of_plain {path : Text} (h : Plain path) : lastName path = path := by
  rw [lastName, slashed_of_plain h, Text.afterLast_of_notMem h.slash_notMem]

theorem cutName_snd (path : Text) : (cutName path).2 = Text.afterLast '/' path := by
  unfold cutName Text.afterLast
  cases Text.cutLast? '/' path <;> rfl

theorem extension_eq (path : Text) :
    extension path = ((cutExtension? (lastName path)).map Prod.snd).getD [] := by
  unfold extension lastName
  rw [cutName_snd]
  cases cutExtension? (Text.afterLast '/' (slashed path)) <;> rfl

/-- The extension depends on the last name alone. -/
theorem extension_congr {x y : Text} (h : lastName x = lastName y) : extension x = extension y := by
  rw [extension_eq, extension_eq, h]

theorem lastName_append_slash (x y : Text) : lastName (x ++ '/' :: y) = lastName y := by
  unfold lastName
  rw [slashed_append]
  exact Text.afterLast_append_cons '/' (slashed x) (slashed y)

/-- What stands in front of a slash does not matter. -/
theorem extension_append_slash (x y : Text) : extension (x ++ '/' :: y) = extension y :=
  extension_congr (lastName_append_slash x y)

theorem extension_afterLast (path : Text) : extension (Text.afterLast '/' path) = extension path := by
  rcases Text.notMem_or_cut '/' path with h | ⟨before, after, rfl, h⟩
  · rw [Text.afterLast_of_notMem h]
  · rw [Text.afterLast_of_cut before h, extension_append_slash]

/-- A file has the same extension below every directory. -/
theorem extension_inside (directory path : Text) : extension (inside directory path) = extension path := by
  unfold inside
  split
  · rfl
  · split
    · rename_i h
      rcases h with hempty | hslash
      · rw [List.isEmpty_iff.1 hempty, List.nil_append]
      · obtain ⟨front, rfl⟩ := List.getLast?_eq_some_iff.1 hslash
        rw [List.append_assoc]
        exact extension_append_slash front path
    · exact extension_append_slash directory path

/-- Only points, or nothing, stand after the last separator. -/
def endsInPoints (path : Text) : Bool :=
  (lastName path).all (· = '.')

theorem slash_notMem_point_cons {extension : Text} (hplain : Plain extension) : '/' ∉ '.' :: extension := by
  rw [List.mem_cons, not_or]
  exact ⟨by decide, hplain.slash_notMem⟩

/-- **A point makes an extension of what follows it, unless only points stand in front of it.** -/
theorem extension_append_point (x : Text) {y : Text} (hplain : Plain y) (hpoint : '.' ∉ y) :
    extension (x ++ '.' :: y) = if endsInPoints x then [] else y := by
  have hname : lastName (x ++ '.' :: y) = lastName x ++ '.' :: y := by
    have hslashed : slashed ('.' :: y) = '.' :: y :=
      slashed_of_plain (plain_cons.2 ⟨rfl, hplain⟩)
    unfold lastName
    rw [slashed_append, hslashed, Text.afterLast_append _ (slash_notMem_point_cons hplain)]
  rw [extension_eq, hname, cutExtension?, Text.cutLast?_append_cons _ hpoint]
  unfold endsInPoints
  dsimp only
  split <;> rfl

/-- An extension is made of a name that ends in it. -/
theorem exists_of_extension {path : Text} (h : extension path ≠ []) :
    ∃ before, lastName path = before ++ '.' :: extension path ∧ before.all (· = '.') = false ∧
      '.' ∉ extension path := by
  rw [extension_eq, cutExtension?] at h ⊢
  cases hcut : Text.cutLast? '.' (lastName path) with
  | none =>
    rw [hcut] at h
    exact absurd rfl h
  | some parts =>
    rw [hcut] at h
    dsimp only at h ⊢
    split at h
    · exact absurd rfl h
    · rename_i hpoints
      rw [if_neg hpoints]
      exact ⟨parts.1, Text.eq_of_cutLast? hcut, Bool.eq_false_iff.2 hpoints,
        Text.not_mem_after_of_cutLast? hcut⟩

theorem plain_lastName (path : Text) : Plain (lastName path) := by
  refine plain_of_notMem (Text.notMem_afterLast '/' _) fun hmem => ?_
  obtain ⟨c, -, hc⟩ := List.mem_map.1 (Text.afterLast_subset '/' _ hmem)
  split at hc
  · cases hc
  · rename_i hne
    exact hne hc

theorem plain_extension (path : Text) : Plain (extension path) := by
  by_cases h : extension path = []
  · rw [h]
    exact plain_nil
  · obtain ⟨before, hname, -⟩ := exists_of_extension h
    have hplain := plain_lastName path
    rw [hname, plain_append, plain_cons] at hplain
    exact hplain.2.2

theorem point_notMem_extension (path : Text) : '.' ∉ extension path := by
  by_cases h : extension path = []
  · rw [h]
    exact List.not_mem_nil
  · exact (exists_of_extension h).choose_spec.2.2

/-- What is put behind a character other than a point ends in points only if it starts a new name. -/
theorem endsInPoints_append_cons {c : Char} (hseparator : isSeparator c = false) (hpoint : c ≠ '.')
    (x y : Text) : endsInPoints (x ++ c :: y) = (y.any isSeparator && endsInPoints y) := by
  have hslashed : slashed (x ++ c :: y) = slashed x ++ c :: slashed y := by
    rw [slashed_append]
    exact congrArg (slashed x ++ ·) (congrArg (· :: slashed y)
      (if_neg (by rintro rfl; cases hseparator)))
  unfold endsInPoints lastName
  rw [hslashed]
  rcases Text.notMem_or_cut '/' (slashed y) with h | ⟨before, after, hcut, h⟩
  · have hany : y.any isSeparator = false := Bool.eq_false_iff.2 (mt slash_mem_slashed.2 h)
    have hslash : '/' ∉ c :: slashed y := by
      rw [List.mem_cons, not_or]
      exact ⟨(by rintro rfl; cases hseparator), h⟩
    rw [Text.afterLast_append _ hslash, List.all_append, List.all_cons, decide_eq_false hpoint, hany,
      Bool.false_and, Bool.false_and, Bool.and_false]
  · have hany : y.any isSeparator = true :=
      slash_mem_slashed.1 (hcut ▸ List.mem_append_right _ List.mem_cons_self)
    rw [hany, Bool.true_and, hcut, ← List.cons_append, ← List.append_assoc, Text.afterLast_of_cut _ h,
      Text.afterLast_of_cut _ h]

/-! ## Stems -/

/-- A front that a name is put behind: nothing, or directories up to a slash. -/
def IsFront (front : Text) : Prop :=
  front = [] ∨ ∃ directory, front = directory ++ ['/']

theorem cutName_of_notMem {name : Text} (h : '/' ∉ name) : cutName name = ([], name) := by
  rw [cutName, Text.cutLast?_of_notMem h]

section Fronts

variable {front name : Text} (hfront : IsFront front) (hname : '/' ∉ name)

include hfront hname

theorem cutName_append : cutName (front ++ name) = (front, name) := by
  rcases hfront with rfl | ⟨directory, rfl⟩
  · exact cutName_of_notMem hname
  · rw [cutName, List.append_assoc, List.singleton_append, Text.cutLast?_append_cons directory hname]

/-- What stands in front of a name stays in front of its stem. -/
theorem stem_append : stem (front ++ name) = front ++ stem name := by
  unfold stem
  rw [cutName_append hfront hname, cutName_of_notMem hname]
  dsimp only
  cases cutExtension? name <;> rfl

theorem addSuffix_append (suffix extension : Text) :
    addSuffix (front ++ name) suffix extension = front ++ addSuffix name suffix extension := by
  unfold addSuffix
  rw [stem_append hfront hname, List.append_assoc, List.append_assoc, List.append_assoc]

end Fronts

/-- The front that a directory is for the files in it. -/
def frontOf (directory : Text) : Text :=
  if directory.isEmpty ∨ directory.getLast? = some '/' then directory else directory ++ ['/']

theorem isFront_frontOf (directory : Text) : IsFront (frontOf directory) := by
  unfold frontOf
  split
  · rename_i h
    rcases h with hempty | hslash
    · exact .inl (List.isEmpty_iff.1 hempty)
    · exact .inr (List.getLast?_eq_some_iff.1 hslash)
  · exact .inr ⟨directory, rfl⟩

/-- A file in a directory is its name behind a front. -/
theorem inside_eq (directory : Text) {name : Text} (hname : '/' ∉ name) :
    inside directory name = frontOf directory ++ name := by
  have hrelative : name.head? ≠ some '/' := fun h => hname (List.mem_of_mem_head? h)
  unfold inside frontOf
  rw [if_neg hrelative]
  split
  · rfl
  · rw [List.append_assoc, List.singleton_append]

theorem slash_notMem_append_point {name extension : Text} (hname : '/' ∉ name) (hplain : Plain extension) :
    '/' ∉ name ++ '.' :: extension := by
  rw [List.mem_append, not_or]
  exact ⟨hname, slash_notMem_point_cons hplain⟩

/-- The stem is what stands in front of the last point, unless that is nothing but points. -/
theorem stem_append_point {name extension : Text} (hname : '/' ∉ name) (hplain : Plain extension)
    (hpoint : '.' ∉ extension) :
    stem (name ++ '.' :: extension) =
      if name.all (· = '.') then name ++ '.' :: extension else name := by
  unfold stem
  rw [cutName_of_notMem (slash_notMem_append_point hname hplain)]
  dsimp only
  rw [cutExtension?, Text.cutLast?_append_cons name hpoint]
  dsimp only
  by_cases hpoints : name.all (· = '.') = true
  · rw [if_pos hpoints, if_pos hpoints]
  · rw [if_neg hpoints, if_neg hpoints]
    rfl

theorem stem_isPrefix {name : Text} (h : '/' ∉ name) : stem name <+: name := by
  unfold stem
  rw [cutName_of_notMem h]
  dsimp only
  unfold cutExtension?
  cases hparts : Text.cutLast? '.' name with
  | none => exact List.prefix_rfl
  | some parts =>
    dsimp only
    by_cases hpoints : parts.1.all (· = '.') = true
    · rw [if_pos hpoints]
    · rw [if_neg hpoints]
      exact ⟨'.' :: parts.2, (Text.eq_of_cutLast? hparts).symm⟩

/-- **Suffixes that are put in one after the other stand side by side**, if the first one starts with a sign other
than a point: the second one finds the stem that the first one made. -/
theorem addSuffix_addSuffix {name suffix extension : Text} {c : Char} (hname : '/' ∉ name)
    (hsuffix : '/' ∉ c :: suffix) (hc : c ≠ '.') (hplain : Plain extension) (hpoint : '.' ∉ extension)
    (later : Text) :
    addSuffix (addSuffix name (c :: suffix) extension) later extension =
      addSuffix name (c :: suffix ++ later) extension := by
  have hslash : '/' ∉ stem name ++ c :: suffix := by
    rw [List.mem_append, not_or]
    exact ⟨fun hmem => hname ((stem_isPrefix hname).subset hmem), hsuffix⟩
  have hpoints : (stem name ++ c :: suffix).all (· = '.') = false := by
    rw [List.all_append, List.all_cons, decide_eq_false hc, Bool.false_and, Bool.and_false]
  unfold addSuffix
  rw [stem_append_point hslash hplain hpoint, hpoints, if_neg nofun, List.append_assoc (stem name)]

/-- A name with an extension is its stem, a point and the extension. -/
theorem stem_append_extension {name : Text} (hplain : Plain name) (h : extension name ≠ []) :
    stem name ++ '.' :: extension name = name ∧ endsInPoints (stem name) = false := by
  obtain ⟨before, hname, hpoints, hpoint⟩ := exists_of_extension h
  rw [lastName_of_plain hplain] at hname
  have hparts : Plain (before ++ '.' :: extension name) := hname ▸ hplain
  obtain ⟨hbefore, hafter⟩ := plain_append.1 hparts
  have hstem : stem name = before := by
    conv_lhs => rw [hname]
    rw [stem_append_point hbefore.slash_notMem (plain_cons.1 hafter).2 hpoint, hpoints, if_neg nofun]
  refine ⟨hstem ▸ hname.symm, ?_⟩
  rw [hstem, endsInPoints, lastName_of_plain hbefore]
  exact hpoints

/-! ## Relative paths -/

theorem join_concat (steps : List Text) (last : Text) :
    steps = [] ∨ ∃ front, Text.join ['/'] (steps ++ [last]) = front ++ '/' :: last := by
  induction steps with
  | nil => exact .inl rfl
  | cons step rest ih =>
    right
    rcases ih with rfl | ⟨front, hfront⟩
    · exact ⟨step, by simp [Text.join, List.intercalate]⟩
    · refine ⟨step ++ '/' :: front, ?_⟩
      obtain ⟨next, more, hnext⟩ : ∃ next more, rest ++ [last] = next :: more :=
        List.exists_cons_of_ne_nil (by simp)
      rw [hnext] at hfront
      rw [List.cons_append, hnext, Text.join, List.intercalate_cons_cons, ← Text.join, hfront]
      simp

/-- A path has the extension of its last step. -/
theorem extension_join (steps : List Text) (last : Text) :
    extension (Text.join ['/'] (steps ++ [last])) = extension last := by
  rcases join_concat steps last with rfl | ⟨front, hfront⟩
  · simp [Text.join, List.intercalate]
  · rw [hfront, extension_append_slash]

/-- The last step of the way to a path from the root on. -/
def lastStep (path : Text) : Text :=
  (absolute path).getLast?.getD []

/-- A name that is no sign for a directory is the last step. -/
theorem lastStep_eq {path : Text} (h : (Text.afterLast '/' path).all (· = '.') = false) :
    lastStep path = Text.afterLast '/' path := by
  obtain ⟨parts, hparts⟩ := Text.splitOn_eq_concat '/' path
  have hnot : ∀ sign : Text, sign.all (· = '.') = true → Text.afterLast '/' path ≠ sign := by
    rintro sign hsign rfl
    rw [h] at hsign
    cases hsign
  unfold lastStep absolute
  rw [hparts, List.foldl_append, List.foldl_cons, List.foldl_nil, step,
    if_neg (not_or.2 ⟨hnot [] rfl, hnot here rfl⟩), if_neg (hnot above rfl), List.reverse_cons,
    List.getLast?_concat]
  rfl

theorem extension_of_points {name : Text} (h : name.all (· = '.') = true) : extension name = [] := by
  have hplain : Plain name := by
    intro c hmem
    rw [of_decide_eq_true (List.all_eq_true.1 h c hmem)]
    rfl
  rw [extension_eq, lastName_of_plain hplain, cutExtension?]
  cases hcut : Text.cutLast? '.' name with
  | none => rfl
  | some parts =>
    have hbefore : parts.1.all (· = '.') = true := by
      rw [Text.eq_of_cutLast? hcut, List.all_append, Bool.and_eq_true] at h
      exact h.1
    dsimp only
    rw [if_pos hbefore]
    rfl

theorem extension_lastStep {path : Text} (h : (Text.afterLast '/' path).all (· = '.') = false) :
    extension (lastStep path) = extension path := by
  rw [lastStep_eq h, extension_afterLast]

/-- A path with an extension keeps it on the way from the root. -/
theorem extension_lastStep_of_ne_nil {path : Text} (h : extension path ≠ []) :
    extension (lastStep path) = extension path := by
  refine extension_lastStep (Bool.eq_false_iff.2 fun hpoints => h ?_)
  rw [← extension_afterLast, extension_of_points hpoints]

/-- A name behind a point is no sign for a directory. -/
theorem extension_lastStep_append_point (x : Text) {y : Text} (hplain : Plain y) (hpoint : '.' ∉ y)
    (hne : y ≠ []) : extension (lastStep (x ++ '.' :: y)) = extension (x ++ '.' :: y) := by
  refine extension_lastStep (Bool.eq_false_iff.2 fun hpoints => ?_)
  rw [Text.afterLast_append x (slash_notMem_point_cons hplain), List.all_append, List.all_cons, Bool.and_eq_true,
    Bool.and_eq_true] at hpoints
  obtain ⟨c, hmem⟩ := List.exists_mem_of_ne_nil y hne
  exact hpoint (of_decide_eq_true (List.all_eq_true.1 hpoints.2.2 c hmem) ▸ hmem)

theorem drop_sharedDepth {start target : List Text} :
    target.drop (sharedDepth start target) = [] ↔ target <+: start := by
  induction start generalizing target with
  | nil => cases target <;> simp [sharedDepth]
  | cons a start ih =>
    cases target with
    | nil => simp [sharedDepth]
    | cons b target =>
      rw [sharedDepth, List.cons_prefix_cons]
      split
      · rename_i hab
        rw [List.drop_succ_cons, ih, and_iff_right hab.symm]
      · rename_i hab
        exact iff_of_false (List.cons_ne_nil b target) fun h => hab h.1.symm

theorem extension_above (n : Nat) : extension (Text.join ['/'] (List.replicate n above)) = [] := by
  cases n with
  | zero => decide
  | succ n =>
    rw [List.replicate_succ', extension_join]
    decide

/-- The steps of a relative path: those of the way, or the sign for the directory itself if there are none. -/
def steps (start target : List Text) : List Text :=
  if way start target = [] then [here] else way start target

theorem relative_eq {path : Text} (hne : path ≠ []) (start : Text) :
    relative path start = .ok (Text.join ['/'] (steps (absolute start) (absolute path))) := by
  unfold relative steps
  rw [if_neg (mt List.isEmpty_iff.1 hne)]
  cases way (absolute start) (absolute path) with
  | nil => rfl
  | cons first rest => rfl

theorem ne_nil_of_relative {path start text : Text} (h : relative path start = .ok text) : path ≠ [] := by
  rintro rfl
  cases h

/-- **A relative path has the extension of the last step to its target, unless it only goes up.** -/
theorem extension_relative {path start way : Text} (h : relative path start = .ok way) :
    extension way = if absolute path <+: absolute start then [] else extension (lastStep path) := by
  rw [relative_eq (ne_nil_of_relative h)] at h
  obtain rfl := Except.ok.inj h
  have hsteps : Path.way (absolute start) (absolute path) = steps (absolute start) (absolute path) ∨
      Path.way (absolute start) (absolute path) = [] ∧ steps (absolute start) (absolute path) = [here] := by
    unfold steps
    split
    · rename_i hnone
      exact .inr ⟨hnone, rfl⟩
    · exact .inl rfl
  split
  · rename_i hprefix
    rcases hsteps with hway | ⟨-, hhere⟩
    · rw [← hway, Path.way, drop_sharedDepth.2 hprefix, List.append_nil]
      exact extension_above _
    · rw [hhere]
      decide
  · rename_i hprefix
    obtain ⟨down, last, hdown⟩ :=
      (List.eq_nil_or_concat' _).resolve_left (mt drop_sharedDepth.1 hprefix)
    have hway : Path.way (absolute start) (absolute path) =
        (List.replicate ((absolute start).length - sharedDepth (absolute start) (absolute path)) above ++
          down) ++ [last] := by
      rw [Path.way, hdown, List.append_assoc]
    have hlast : lastStep path = last := by
      have htarget := List.take_append_drop (sharedDepth (absolute start) (absolute path)) (absolute path)
      rw [hdown, ← List.append_assoc] at htarget
      rw [lastStep, ← htarget, List.getLast?_concat]
      rfl
    rw [hlast]
    rcases hsteps with hsame | ⟨hnone, -⟩
    · rw [← hsame, hway, extension_join]
    · rw [hway] at hnone
      exact absurd hnone (List.concat_ne_nil _ _)

end Path

end PhotoPublish
