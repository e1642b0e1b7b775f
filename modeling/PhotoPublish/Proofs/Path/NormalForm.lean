import PhotoPublish.Proofs.Path.Extension
import PhotoPublish.Proofs.Path.Tidy
import PhotoPublish.Proofs.Text.Run

/-!
# The normal form as the list of segments

The segments of a path are its runs: the texts without separators, not empty, that have a separator or an end of
the path on both sides (`IsRun`). A text with slashes inside it only, no two of them in a row, is its own
segments with slashes between them, and the normal form of a path is such a text.

* `areRuns_segments`: the segments are all runs of a path, each once, in their order.
* `normalizePath_eq_join`: the normal form has the segments and nothing else.
* `normalizePath_canonical`: these and the laws of the normal form together.
-/

set_option autoImplicit false

namespace PhotoPublish.Path

variable {path before run x y : Text} {c : Char}

/-! ## Cuts at the first separator -/

theorem plain_or_cut (path : Text) :
    Plain path ∨ ∃ x c y, Plain x ∧ isSeparator c = true ∧ path = x ++ c :: y := by
  induction path with
  | nil => exact .inl plain_nil
  | cons d rest ih =>
    cases hd : isSeparator d with
    | true => exact .inr ⟨[], d, rest, plain_nil, hd, rfl⟩
    | false =>
      rcases ih with hplain | ⟨x, c, y, hx, hc, rfl⟩
      · exact .inl (plain_cons.2 ⟨hd, hplain⟩)
      · exact .inr ⟨d :: x, c, y, plain_cons.2 ⟨hd, hx⟩, hc, rfl⟩

/-- Induction along the separators of a path. -/
@[elab_as_elim]
theorem cutInduction {motive : Text → Prop} (plain : ∀ x, Plain x → motive x)
    (cut : ∀ x c y, Plain x → isSeparator c = true → motive y → motive (x ++ c :: y)) (path : Text) :
    motive path := by
  rcases plain_or_cut path with h | ⟨x, c, y, hx, hc, hpath⟩
  · exact plain path h
  · have hshorter : y.length < path.length := by
      rw [hpath, List.length_append, List.length_cons]
      omega
    rw [hpath]
    exact cut x c y hx hc (cutInduction plain cut y)
termination_by path.length

/-! ## Runs -/

/-- The text is empty or begins with a separator. -/
def Borders (text : Text) : Prop :=
  Text.Stops (fun c => !isSeparator c) text

/-- A run of a path, with what stands before it: the run is not empty, has no separators and cannot be made longer
on either side. -/
structure IsRun (path before run : Text) : Prop where
  ne_nil : run ≠ []
  plain : Plain run
  front : Borders before.reverse
  back : ∃ after, path = before ++ (run ++ after) ∧ Borders after

/-- The texts are all runs of a path, each once, in their order. -/
def AreRuns (path : Text) (texts : List Text) : Prop :=
  ∃ runs : List (Text × Text), texts = runs.map Prod.snd ∧
    (∀ before run, (before, run) ∈ runs ↔ IsRun path before run) ∧
    runs.Pairwise fun a b => a.1.length < b.1.length

theorem borders_cons (hc : isSeparator c = true) (rest : Text) : Borders (c :: rest) :=
  Text.stops_cons (by rw [hc]; rfl) rest

theorem borders_append_cons {text : Text} (h : Borders text) (hc : isSeparator c = true) (rest : Text) :
    Borders (text ++ c :: rest) := by
  cases text with
  | nil => exact borders_cons hc rest
  | cons d text => exact h

theorem borders_iff_of_plain {text : Text} (h : Plain text) : Borders text ↔ text = [] := by
  constructor
  · intro hborders
    cases text with
    | nil => rfl
    | cons d rest =>
      have hd : (!isSeparator d) = false := hborders d rfl
      rw [(plain_cons.1 h).1] at hd
      cases hd
  · rintro rfl
    exact Text.stops_nil _

theorem plain_iff_all {text : Text} : Plain text ↔ ∀ d ∈ text, (!isSeparator d) = true := by
  simp [Plain]

/-- A path without separators is a run as a whole. -/
theorem isRun_iff_of_plain (h : Plain path) : IsRun path before run ↔ path ≠ [] ∧ before = [] ∧ run = path := by
  constructor
  · rintro ⟨hne, -, hfront, after, rfl, hback⟩
    rw [plain_append, plain_append] at h
    have hbefore : Plain before.reverse := fun d hd => h.1 d (List.mem_reverse.1 hd)
    obtain rfl := List.reverse_eq_nil_iff.1 ((borders_iff_of_plain hbefore).1 hfront)
    obtain rfl := (borders_iff_of_plain h.2.2).1 hback
    simpa using hne
  · rintro ⟨hne, rfl, rfl⟩
    exact ⟨hne, h, Text.stops_nil _, [], (List.append_nil _).symm, Text.stops_nil _⟩

/-- The run at the beginning of a path goes up to the first separator. -/
theorem isRun_nil_iff (hx : Plain x) (hc : isSeparator c = true) :
    IsRun (x ++ c :: y) [] run ↔ x ≠ [] ∧ run = x := by
  constructor
  · rintro ⟨hne, hrun, -, after, hpath, hback⟩
    rw [List.nil_append] at hpath
    obtain ⟨rfl, -⟩ := Text.eq_of_cut hpath (plain_iff_all.1 hx) (borders_cons hc y)
      (plain_iff_all.1 hrun) hback
    exact ⟨hne, rfl⟩
  · rintro ⟨hne, rfl⟩
    exact ⟨hne, hx, Text.stops_nil _, c :: y, rfl, borders_cons hc y⟩

/-- A separator is the first one of a path or stands behind it. -/
theorem eq_or_behind_of_cut {front rest : Text} {d : Char} (hx : Plain x) (hd : isSeparator d = true)
    (h : x ++ c :: y = front ++ d :: rest) :
    (front = x ∧ d = c ∧ rest = y) ∨ ∃ later, front = x ++ c :: later ∧ y = later ++ d :: rest := by
  rcases List.append_eq_append_iff.1 h with ⟨middle, rfl, hmiddle⟩ | ⟨middle, rfl, hmiddle⟩
  · cases middle with
    | nil =>
      obtain ⟨rfl, rfl⟩ := List.cons.inj hmiddle
      exact .inl ⟨List.append_nil x, rfl, rfl⟩
    | cons e later =>
      obtain ⟨rfl, rfl⟩ := List.cons.inj hmiddle
      exact .inr ⟨later, rfl, rfl⟩
  · cases middle with
    | nil =>
      obtain ⟨rfl, rfl⟩ := List.cons.inj hmiddle
      exact .inl ⟨(List.append_nil front).symm, rfl, rfl⟩
    | cons e later =>
      obtain ⟨rfl, -⟩ := List.cons.inj hmiddle
      rw [hx d (List.mem_append_right _ List.mem_cons_self)] at hd
      cases hd

theorem exists_concat_of_borders {front : Text} (hne : front ≠ []) (h : Borders front.reverse) :
    ∃ first d, front = first ++ [d] ∧ isSeparator d = true := by
  obtain ⟨first, d, rfl⟩ := (List.eq_nil_or_concat' front).resolve_left hne
  rw [List.reverse_concat'] at h
  have hd : (!isSeparator d) = false := h d rfl
  exact ⟨first, d, rfl, by simpa using hd⟩

/-- Every other run stands behind that separator. -/
theorem isRun_cons_iff (hx : Plain x) (hc : isSeparator c = true) (hbefore : before ≠ []) :
    IsRun (x ++ c :: y) before run ↔ ∃ later, before = x ++ c :: later ∧ IsRun y later run := by
  constructor
  · rintro ⟨hne, hrun, hfront, after, hpath, hback⟩
    -- The separator in front of the run is the first one of the path or stands behind that one.
    obtain ⟨first, d, rfl, hd⟩ := exists_concat_of_borders hbefore hfront
    rw [List.append_assoc, List.singleton_append] at hpath
    rcases eq_or_behind_of_cut hx hd hpath with ⟨rfl, rfl, rfl⟩ | ⟨later, rfl, rfl⟩
    · exact ⟨[], rfl, hne, hrun, Text.stops_nil _, after, rfl, hback⟩
    · refine ⟨later ++ [d], by simp, hne, hrun, ?_, after, by simp, hback⟩
      rw [List.reverse_concat']
      exact borders_cons hd _
  · rintro ⟨later, rfl, hne, hrun, hfront, after, rfl, hback⟩
    refine ⟨hne, hrun, ?_, after, by simp, hback⟩
    rw [List.reverse_append, List.reverse_cons, List.append_assoc]
    exact borders_append_cons hfront hc _

/-- The run, if there is one, of a text without separators, with what stands before it. -/
def runOf (text : Text) : List (Text × Text) :=
  if text.isEmpty then [] else [([], text)]

theorem mem_runOf : (before, run) ∈ runOf x ↔ x ≠ [] ∧ before = [] ∧ run = x := by
  cases x <;> simp [runOf]

theorem segments_eq_runOf (hx : Plain x) : segments x = (runOf x).map Prod.snd := by
  cases x with
  | nil => rfl
  | cons d rest => exact segments_of_plain hx (List.cons_ne_nil d rest)

/-- A run that stands behind a text. -/
def behind (front : Text) (run : Text × Text) : Text × Text :=
  (front ++ run.1, run.2)

/-- What stands behind a separator stands further on than what comes before it. -/
theorem pairwise_runOf_append {runs : List (Text × Text)} (c : Char)
    (h : runs.Pairwise fun a b => a.1.length < b.1.length) :
    (runOf x ++ runs.map (behind (x ++ [c]))).Pairwise fun a b => a.1.length < b.1.length := by
  refine List.pairwise_append.2 ⟨?_, List.pairwise_map.2 (h.imp fun hlt => ?_), fun a ha b hb => ?_⟩
  · cases x <;> simp [runOf]
  · simp only [behind, List.length_append]
    omega
  · obtain ⟨-, hnil, -⟩ := mem_runOf.1 ha
    obtain ⟨later, -, rfl⟩ := List.mem_map.1 hb
    rw [hnil, behind, List.length_append, List.length_append, List.length_singleton, List.length_nil]
    omega

/-- The runs up to the first separator and those behind it are all runs. -/
theorem mem_runOf_append {runs : List (Text × Text)} (hx : Plain x) (hc : isSeparator c = true)
    (hruns : ∀ before run, (before, run) ∈ runs ↔ IsRun y before run) :
    (before, run) ∈ runOf x ++ runs.map (behind (x ++ [c])) ↔ IsRun (x ++ c :: y) before run := by
  rw [List.mem_append, mem_runOf]
  by_cases hbefore : before = []
  · subst hbefore
    simp [isRun_nil_iff hx hc, behind]
  · rw [isRun_cons_iff hx hc hbefore]
    constructor
    · rintro (⟨-, hnil, -⟩ | hmem)
      · exact absurd hnil hbefore
      · obtain ⟨⟨later, run⟩, hrun, ⟨⟩⟩ := List.mem_map.1 hmem
        exact ⟨later, by simp, (hruns later run).1 hrun⟩
    · rintro ⟨later, rfl, hrun⟩
      exact .inr (List.mem_map.2 ⟨(later, run), (hruns later run).2 hrun, by simp [behind]⟩)

/-- **The segments of a path are all its runs,** each once, in their order. -/
theorem areRuns_segments (path : Text) : AreRuns path (segments path) := by
  induction path using cutInduction with
  | plain x hx =>
    refine ⟨runOf x, segments_eq_runOf hx, fun before run => ?_, ?_⟩
    · rw [mem_runOf, isRun_iff_of_plain hx]
    · cases x <;> simp [runOf]
  | cut x c y hx hc ih =>
    obtain ⟨runs, hsegments, hruns, hordered⟩ := ih
    refine ⟨runOf x ++ runs.map (behind (x ++ [c])), ?_, fun _ _ => mem_runOf_append hx hc hruns,
      pairwise_runOf_append c hordered⟩
    rw [segments_append_cons hc, segments_eq_runOf hx, hsegments, List.map_append, List.map_map]
    rfl

/-! ## Segments with slashes between them -/

theorem join_cons {parts : List Text} (h : parts ≠ []) (part : Text) :
    Text.join ['/'] (part :: parts) = part ++ '/' :: Text.join ['/'] parts := by
  obtain ⟨next, rest, rfl⟩ := List.exists_cons_of_ne_nil h
  rw [Text.join, List.intercalate_cons_cons, List.append_assoc, List.singleton_append]
  rfl

/-- Behind a slash there is a text of the same kind. -/
theorem behind_slash (hyne : y ≠ []) (henclosed : Enclosed (x ++ '/' :: y))
    (hsingle : ¬ ['/', '/'] <:+: x ++ '/' :: y) : Enclosed y ∧ ¬ ['/', '/'] <:+: y := by
  have hsuffix : y <:+ x ++ '/' :: y := (List.suffix_cons '/' y).trans (List.suffix_append x _)
  refine ⟨⟨fun hmem => henclosed.backslash (hsuffix.subset hmem), fun hhead => ?_, fun hlast => ?_⟩,
    fun hdouble => hsingle (hdouble.trans hsuffix.isInfix)⟩
  · obtain ⟨rest, rfl⟩ := List.head?_eq_some_iff.1 hhead
    exact hsingle ⟨x, rest, by simp⟩
  · apply henclosed.last
    rw [List.getLast?_append_of_ne_nil _ (List.cons_ne_nil _ _), List.getLast?_cons_of_ne_nil hyne]
    exact hlast

/-- **A text with slashes inside it only, no two in a row, is its segments with slashes between them.** -/
theorem join_segments {text : Text} (henclosed : Enclosed text) (hsingle : ¬ ['/', '/'] <:+: text) :
    Text.join ['/'] (segments text) = text := by
  induction text using cutInduction with
  | plain x hx =>
    by_cases hne : x = []
    · subst hne
      rfl
    · rw [segments_of_plain hx hne]
      exact List.intercalate_singleton
  | cut x c y hx hc ih =>
    obtain rfl : c = '/' := by
      rcases eq_of_isSeparator hc with rfl | rfl
      · rfl
      · exact absurd (List.mem_append_right x List.mem_cons_self) henclosed.backslash
    have hxne : x ≠ [] := by
      rintro rfl
      exact henclosed.head rfl
    have hyne : y ≠ [] := by
      rintro rfl
      exact henclosed.last List.getLast?_concat
    obtain ⟨hy, hysingle⟩ := behind_slash hyne henclosed hsingle
    -- What stands behind the slash has segments, so that a slash is put in front of them.
    have hsegments : segments y ≠ [] := by
      intro hnil
      rw [← ih hy hysingle, hnil] at hyne
      exact hyne rfl
    rw [segments_append_cons hc, segments_of_plain hx hxne, List.singleton_append, join_cons hsegments,
      ih hy hysingle]

/-- **The normal form of a path is its segments with slashes between them.** -/
theorem normalizePath_eq_join (path : Text) :
    normalizePath path = Text.join ['/'] (segments path) := by
  rw [← segments_normalizePath]
  exact (join_segments (enclosed_normalizePath path) (not_slashes_infix_normalizePath path)).symm

theorem normalizePath_eq_iff : normalizePath x = normalizePath y ↔ segments x = segments y := by
  constructor
  · intro h
    rw [← segments_normalizePath x, h, segments_normalizePath]
  · intro h
    rw [normalizePath_eq_join, h, ← normalizePath_eq_join]

/-- **The normal form of a path stays as it is.** -/
theorem normalizePath_normalizePath (path : Text) :
    normalizePath (normalizePath path) = normalizePath path :=
  normalizePath_eq_iff.2 (segments_normalizePath path)

/-- **The normal form of a path is canonical.** It is the segments, which are the runs of the path as well as
the parts between the slashes of the normal form, with slashes between them; no other separators are in it. It is
its own normal form, joined paths have the segments of both, and paths with the same segments have the same normal
form. -/
theorem normalizePath_canonical (p q : Text) :
    AreRuns p (segments p) ∧
      segments p = (Text.splitOn '/' (normalizePath p)).filter (fun part => !part.isEmpty) ∧
      normalizePath p = Text.join ['/'] (segments p) ∧
      Enclosed (normalizePath p) ∧ ¬ ['/', '/'] <:+: normalizePath p ∧
      normalizePath (normalizePath p) = normalizePath p ∧
      segments (p ++ '/' :: q) = segments p ++ segments q ∧
      (normalizePath p = normalizePath q ↔ segments p = segments q) := by
  refine ⟨areRuns_segments p, segments_eq_splitOn p, normalizePath_eq_join p, enclosed_normalizePath p,
    not_slashes_infix_normalizePath p, normalizePath_normalizePath p, ?_, normalizePath_eq_iff⟩
  exact segments_append_cons isSeparator_slash p q

example : normalizePath "\\\\nas\\photo//2020/".toList = "nas/photo/2020".toList := by decide

end PhotoPublish.Path
