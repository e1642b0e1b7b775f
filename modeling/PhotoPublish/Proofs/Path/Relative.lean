import PhotoPublish.Proofs.Path.Extension
import PhotoPublish.Proofs.Path.Segments

/-!
# Ways between places

A place is given by the names that lead to it from the root. `Path.follow` goes on from a place by names, one after
the other, and the place of a path is where its names lead from the root on. The way from one place to another
leads there (`follow_way`), so that it tells where it ends, and it goes up unless it ends below its start
(`above_mem_way`).

* `splitOn_relative`: the names in a relative path.
* `absolute_relative`: a relative path leads from its start to its target.
* `above_mem_relative`: when a relative path goes up.
* `relative_eq_iff`: relative paths from one start are equal exactly if they lead to one place.
-/

set_option autoImplicit false

namespace PhotoPublish.Path

variable {name path text : Text} {place start target names : List Text}

/-! ## Places -/

/-- A name that leads down: it is not empty and no sign for a directory. -/
structure IsName (name : Text) : Prop where
  ne_nil : name ≠ []
  ne_here : name ≠ here
  ne_above : name ≠ above

/-- Names that lead to a place from the root on. -/
def IsPlace (place : List Text) : Prop :=
  ∀ name ∈ place, IsName name

/-- The place that names lead to from another one. -/
def follow (place names : List Text) : List Text :=
  (names.foldl step place.reverse).reverse

theorem absolute_eq_follow (path : Text) : absolute path = follow [] (Text.splitOn '/' path) := rfl

theorem follow_nil (place : List Text) : follow place [] = place :=
  List.reverse_reverse place

theorem follow_append (place names later : List Text) :
    follow place (names ++ later) = follow (follow place names) later := by
  unfold follow
  rw [List.foldl_append, List.reverse_reverse]

theorem follow_cons (place : List Text) (name : Text) (later : List Text) :
    follow place (name :: later) = follow (follow place [name]) later :=
  follow_append place [name] later

/-! ### Single names -/

theorem follow_name (hname : IsName name) (place : List Text) : follow place [name] = place ++ [name] := by
  unfold follow
  rw [List.foldl_cons, List.foldl_nil, step, if_neg (not_or.2 ⟨hname.ne_nil, hname.ne_here⟩),
    if_neg hname.ne_above, List.reverse_cons, List.reverse_reverse]

theorem follow_empty (place : List Text) : follow place [[]] = place := by
  unfold follow
  rw [List.foldl_cons, List.foldl_nil, step, if_pos (.inl rfl), List.reverse_reverse]

theorem follow_here (place : List Text) : follow place [here] = place := by
  unfold follow
  rw [List.foldl_cons, List.foldl_nil, step, if_pos (.inr rfl), List.reverse_reverse]

theorem follow_above (place : List Text) : follow place [above] = place.dropLast := by
  unfold follow
  rw [List.foldl_cons, List.foldl_nil, step, if_neg (by decide), if_pos rfl, ← List.dropLast_reverse,
    List.reverse_reverse]

/-- A name leads down, up, or nowhere. -/
theorem follow_cases (place : List Text) (name : Text) :
    IsName name ∧ follow place [name] = place ++ [name] ∨ follow place [name] <+: place := by
  by_cases hempty : name = []
  · rw [hempty, follow_empty]
    exact .inr List.prefix_rfl
  by_cases hhere : name = here
  · rw [hhere, follow_here]
    exact .inr List.prefix_rfl
  by_cases habove : name = above
  · rw [habove, follow_above]
    exact .inr (List.dropLast_prefix place)
  · exact .inl ⟨⟨hempty, hhere, habove⟩, follow_name ⟨hempty, hhere, habove⟩ place⟩

/-! ### Many names -/

/-- **Names that lead down are added to a place.** -/
theorem follow_of_isPlace (hnames : IsPlace names) (place : List Text) :
    follow place names = place ++ names := by
  induction names generalizing place with
  | nil => rw [follow_nil, List.append_nil]
  | cons name later ih =>
    obtain ⟨hname, hlater⟩ := List.forall_mem_cons.1 hnames
    rw [follow_cons, follow_name hname, ih hlater, List.append_assoc, List.singleton_append]

/-- **Signs for the directory above take names off a place.** -/
theorem follow_replicate_above (place : List Text) (count : Nat) :
    follow place (List.replicate count above) = place.take (place.length - count) := by
  induction count generalizing place with
  | zero => rw [List.replicate_zero, follow_nil, Nat.sub_zero, List.take_length]
  | succ count ih =>
    rw [List.replicate_succ, follow_cons, follow_above, ih, List.length_dropLast, List.dropLast_eq_take,
      List.take_take, Nat.sub_sub, Nat.add_comm 1 count, Nat.min_eq_left (by omega)]

/-- Names keep to those that are named. -/
theorem of_mem_follow {p : Text → Prop} (hplace : ∀ name ∈ place, p name)
    (hnames : ∀ name ∈ names, IsName name → p name) : ∀ name ∈ follow place names, p name := by
  induction names generalizing place with
  | nil =>
    rw [follow_nil]
    exact hplace
  | cons first later ih =>
    obtain ⟨hfirst, hlater⟩ := List.forall_mem_cons.1 hnames
    rw [follow_cons]
    refine ih ?_ hlater
    rcases follow_cases place first with ⟨hname, hdown⟩ | hup
    · rw [hdown]
      exact List.forall_mem_append.2 ⟨hplace, List.forall_mem_singleton.2 (hfirst hname)⟩
    · exact fun name hmem => hplace name (hup.subset hmem)

theorem isPlace_absolute (path : Text) : IsPlace (absolute path) := by
  rw [absolute_eq_follow]
  exact of_mem_follow (List.forall_mem_nil _) fun _ _ hname => hname

theorem slash_notMem_of_mem_absolute : ∀ name ∈ absolute path, '/' ∉ name := by
  rw [absolute_eq_follow]
  exact of_mem_follow (List.forall_mem_nil _) fun _ hmem _ => Text.notMem_of_mem_splitOn hmem

/-! ## Places of paths -/

/-- **What follows a slash is followed from the place in front of it.** -/
theorem absolute_append_cons (x y : Text) :
    absolute (x ++ '/' :: y) = follow (absolute x) (Text.splitOn '/' y) := by
  rw [absolute_eq_follow, Text.splitOn_append_cons, follow_append]
  rfl

theorem absolute_append_slash (x : Text) : absolute (x ++ ['/']) = absolute x := by
  rw [absolute_append_cons]
  exact follow_empty (absolute x)

theorem absolute_append {front : Text} (hfront : IsFront front) (x : Text) :
    absolute (front ++ x) = follow (absolute front) (Text.splitOn '/' x) := by
  rcases hfront with rfl | ⟨directory, rfl⟩
  · rfl
  · rw [List.append_assoc, List.singleton_append, absolute_append_cons, absolute_append_slash]

theorem absolute_frontOf (directory : Text) : absolute (frontOf directory) = absolute directory := by
  unfold frontOf
  split
  · rfl
  · exact absolute_append_slash directory

/-- The place of a directory is where the names of a path lead but for the last one. -/
theorem absolute_directory (path : Text) :
    absolute (directory path) = follow [] (Text.splitOn '/' path).dropLast := by
  rcases Text.notMem_or_cut '/' path with h | ⟨before, after, rfl, h⟩
  · rw [directory, cutName_of_notMem h, Text.splitOn_of_notMem h]
    rfl
  · rw [Text.splitOn_append_cons, Text.splitOn_of_notMem h, List.dropLast_concat, ← absolute_eq_follow,
      directory, cutName, Text.cutLast?_append_cons before h]
    dsimp only
    split
    · exact absolute_append_slash before
    · -- The slashes that are taken off at the end lead nowhere.
      have hstripped := @apply_dropWhile _ (fun x : Text => absolute x.reverse)
        (fun x => by rw [List.reverse_cons, absolute_append_slash]) (before ++ ['/']).reverse
      rw [List.reverse_reverse, absolute_append_slash] at hstripped
      exact hstripped

/-- The place of a file that lies next to another one. -/
def beside (path name : Text) : List Text :=
  follow [] ((Text.splitOn '/' path).dropLast ++ [name])

theorem absolute_inside_directory (path : Text) (hname : '/' ∉ name) :
    absolute (inside (directory path) name) = beside path name := by
  rw [inside_eq _ hname, absolute_append (isFront_frontOf _), absolute_frontOf, absolute_directory,
    Text.splitOn_of_notMem hname, ← follow_append]
  rfl

/-! ## Ways -/

theorem take_sharedDepth (start target : List Text) :
    start.take (sharedDepth start target) = target.take (sharedDepth start target) := by
  induction start generalizing target with
  | nil => cases target <;> rfl
  | cons a start ih =>
    cases target with
    | nil => rfl
    | cons b target =>
      rw [sharedDepth]
      split
      · rename_i hab
        rw [List.take_succ_cons, List.take_succ_cons, ih, hab]
      · rfl

theorem sharedDepth_le (start target : List Text) : sharedDepth start target ≤ start.length := by
  induction start generalizing target with
  | nil => cases target <;> exact Nat.le_refl 0
  | cons a start ih =>
    cases target with
    | nil => exact Nat.zero_le _
    | cons b target =>
      rw [sharedDepth]
      split
      · exact Nat.succ_le_succ (ih target)
      · exact Nat.zero_le _

theorem length_le_sharedDepth_iff : start.length ≤ sharedDepth start target ↔ start <+: target := by
  constructor
  · intro hle
    rw [List.prefix_iff_eq_take]
    have htake := take_sharedDepth start target
    rw [Nat.le_antisymm (sharedDepth_le start target) hle, List.take_length] at htake
    exact htake
  · rintro ⟨rest, rfl⟩
    induction start with
    | nil => exact Nat.zero_le _
    | cons a start ih =>
      rw [List.cons_append, sharedDepth, if_pos rfl, List.length_cons]
      exact Nat.succ_le_succ ih

/-- **The way from a place to another one leads there.** -/
theorem follow_way (htarget : IsPlace target) : follow start (way start target) = target := by
  have hdown : IsPlace (target.drop (sharedDepth start target)) :=
    fun name hmem => htarget name (List.mem_of_mem_drop hmem)
  rw [way, follow_append, follow_replicate_above, follow_of_isPlace hdown,
    Nat.sub_sub_self (sharedDepth_le start target), take_sharedDepth, List.take_append_drop]

/-- **A way goes up unless it ends below its start.** -/
theorem above_mem_way (htarget : IsPlace target) : above ∈ way start target ↔ ¬ start <+: target := by
  have hdown : above ∉ target.drop (sharedDepth start target) :=
    fun hmem => (htarget above (List.mem_of_mem_drop hmem)).ne_above rfl
  rw [way, List.mem_append, or_iff_left hdown, List.mem_replicate, and_iff_left rfl,
    ← length_le_sharedDepth_iff, Nat.sub_ne_zero_iff_lt, Nat.not_le]

theorem mem_way (h : name ∈ way start target) : name = above ∨ name ∈ target := by
  rw [way, List.mem_append] at h
  exact h.imp List.eq_of_mem_replicate List.mem_of_mem_drop

/-! ## Steps of relative paths -/

theorem follow_steps (htarget : IsPlace target) : follow start (steps start target) = target := by
  unfold steps
  split
  · rename_i hnone
    have hway := @follow_way start target htarget
    rw [hnone, follow_nil] at hway
    rw [follow_here, hway]
  · exact follow_way htarget

theorem above_mem_steps (htarget : IsPlace target) :
    above ∈ steps start target ↔ ¬ start <+: target := by
  rw [← above_mem_way htarget]
  unfold steps
  split
  · rename_i hnone
    rw [hnone]
    exact iff_of_false (by decide) List.not_mem_nil
  · rfl

theorem mem_steps (h : name ∈ steps start target) : name = here ∨ name = above ∨ name ∈ target := by
  unfold steps at h
  split at h
  · exact .inl (List.mem_singleton.1 h)
  · exact .inr (mem_way h)

theorem steps_ne_nil (start target : List Text) : steps start target ≠ [] := by
  unfold steps
  split
  · exact List.cons_ne_nil _ _
  · assumption

/-! ## Relative paths -/

section Relative

variable {root : Text} (h : relative path root = .ok text)
include h

/-- **The names in a relative path are the steps to its target.** -/
theorem splitOn_relative : Text.splitOn '/' text = steps (absolute root) (absolute path) := by
  rw [relative_eq (ne_nil_of_relative h)] at h
  obtain rfl := Except.ok.inj h
  refine Text.splitOn_join (fun name hmem => ?_) (steps_ne_nil _ _)
  rcases mem_steps hmem with rfl | rfl | hname
  · decide
  · decide
  · exact slash_notMem_of_mem_absolute name hname

/-- **A relative path leads from its start to its target.** -/
theorem absolute_relative : absolute (root ++ '/' :: text) = absolute path := by
  rw [absolute_append_cons, splitOn_relative h, follow_steps (isPlace_absolute path)]

/-- **A relative path goes up unless its target lies below its start.** -/
theorem above_mem_relative :
    above ∈ Text.splitOn '/' text ↔ ¬ absolute root <+: absolute path := by
  rw [splitOn_relative h, above_mem_steps (isPlace_absolute path)]

theorem nil_notMem_relative : [] ∉ Text.splitOn '/' text := by
  rw [splitOn_relative h]
  intro hmem
  rcases mem_steps hmem with hhere | habove | hname
  · cases hhere
  · cases habove
  · exact (isPlace_absolute path [] hname).ne_nil rfl

theorem head?_relative : text.head? ≠ some '/' := by
  intro hhead
  obtain ⟨rest, rfl⟩ := List.head?_eq_some_iff.1 hhead
  refine nil_notMem_relative h ?_
  rw [Text.splitOn, if_pos rfl]
  exact List.mem_cons_self

/-- A relative path that does not go up stays below every place that it is followed from. -/
theorem prefix_follow_relative (hbelow : absolute root <+: absolute path) (place : List Text) :
    place <+: follow place (Text.splitOn '/' text) := by
  rw [splitOn_relative h]
  unfold steps
  split
  · rw [follow_here]
  · rename_i hsome
    have hup : above ∉ way (absolute root) (absolute path) :=
      mt (above_mem_way (isPlace_absolute path)).1 (not_not_intro hbelow)
    rw [follow_of_isPlace fun name hmem => ?_]
    · exact List.prefix_append place _
    · rcases mem_way hmem with rfl | hname
      · exact absurd hmem hup
      · exact isPlace_absolute path name hname

end Relative

/-- **Relative paths from one start are equal exactly if they lead to one place.** -/
theorem relative_eq_iff {other : Text} (hne : path ≠ []) (hother : other ≠ []) (root : Text) :
    relative path root = relative other root ↔ absolute path = absolute other := by
  refine ⟨fun h => ?_, fun h => by rw [relative_eq hne, relative_eq hother, h]⟩
  have hpath := absolute_relative (relative_eq hne root)
  rw [← hpath, absolute_relative (h ▸ relative_eq hne root)]

end PhotoPublish.Path
