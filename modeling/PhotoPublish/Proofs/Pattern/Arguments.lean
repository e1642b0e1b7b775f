import PhotoPublish.Pattern.Match
import PhotoPublish.Proofs.Template.Arguments

/-!
# The pattern for arguments

The arguments of a placeholder are split as a pattern takes them: blanks, a key as its first group, blanks, and
anything up to the end as its second group (`argumentsPattern`). The matcher tries the longest run of each part
first and gives characters back where what follows fails.

* `ArgumentsPattern.read_pattern`: the tree that the pattern is read as.
* `Pattern.repeatClass_top`, `Pattern.repeatClass_none`: a greedy repetition of which no shorter run helps.
* `splitArguments_eq_match`: `splitArguments` gives the groups of the match at the start of the arguments. Only
  behind the key a blank can be given back, if nothing else is left for the second group.
-/

set_option autoImplicit false

namespace PhotoPublish

namespace Pattern

variable {text : Text} {cls : CharClass} {place : Place} {next : Continuation} {least : Nat}

/-! ## Greedy repetitions -/

/-- The place after some more characters. -/
def Place.moved (place : Place) (count : Nat) : Place :=
  { place with position := place.position + count }

theorem runLength_eq (cls : CharClass) {limit position : Nat} (h : limit = text.length - position) :
    runLength text.toArray cls limit position =
      ((text.drop position).takeWhile cls.accepts).length := by
  induction limit generalizing position with
  | zero =>
    rw [List.drop_eq_nil_of_le (by omega)]
    rfl
  | succ limit ih =>
    have hposition : position < text.length := by omega
    have hc : text.toArray[position]? = some text[position] := by simp [hposition]
    rw [runLength, acceptsAt, hc, List.drop_eq_getElem_cons hposition, List.takeWhile_cons]
    simp only
    split
    · rw [ih (by omega), List.length_cons]
    · rfl

/-- The highest count comes first. -/
theorem tryDown_succ (extra : Nat) : tryDown place next least (extra + 1) =
    (next (place.moved (least + (extra + 1)))).or (tryDown place next least extra) := by
  rw [tryDown, Nat.add_assoc, Place.moved]
  cases next { place with position := place.position + (least + (extra + 1)) } <;> rfl

theorem tryDown_none {extra : Nat}
    (h : ∀ count, least ≤ count → count ≤ least + extra → next (place.moved count) = none) :
    tryDown place next least extra = none := by
  induction extra with
  | zero => exact h least (Nat.le_refl least) (Nat.le_refl least)
  | succ extra ih =>
    rw [tryDown_succ, h (least + (extra + 1)) (Nat.le_add_right _ _) (Nat.le_refl _), Option.none_or]
    exact ih fun count hleast hcount => h count hleast (by omega)

/-- Nothing is given back if that does not help. -/
theorem tryDown_top {extra : Nat} (h : next (place.moved (least + extra)) = none →
      ∀ count, least ≤ count → count < least + extra → next (place.moved count) = none) :
    tryDown place next least extra = next (place.moved (least + extra)) := by
  cases extra with
  | zero => rfl
  | succ extra =>
    rw [tryDown_succ]
    cases htop : next (place.moved (least + (extra + 1))) with
    | some found => rfl
    | none => exact tryDown_none fun count hleast hcount => h htop count hleast (by omega)

theorem repeatClass_eq : repeatClass text.toArray cls .greedy least none place next =
    if ((text.drop place.position).takeWhile cls.accepts).length < least then none
    else tryDown place next least
      (((text.drop place.position).takeWhile cls.accepts).length - least) := by
  have hroom : min (text.toArray.size - place.position)
      ((none : Option Nat).getD (text.toArray.size - place.position)) =
        text.length - place.position := by
    simp
  unfold repeatClass
  simp only [hroom, runLength_eq cls rfl]

variable {run rest : Text}

theorem repeatClass_none (htext : text.drop place.position = run ++ rest)
    (hrun : ∀ c ∈ run, cls.accepts c = true) (hrest : Text.Stops cls.accepts rest)
    (h : ∀ count, least ≤ count → count ≤ run.length → next (place.moved count) = none) :
    repeatClass text.toArray cls .greedy least none place next = none := by
  rw [repeatClass_eq, htext, Text.takeWhile_append hrun hrest]
  split
  · rfl
  · exact tryDown_none fun count hleast hcount => h count hleast (by omega)

/-- **A greedy repetition takes the whole run** unless what follows fails there and does not behind a shorter
one. -/
theorem repeatClass_top (htext : text.drop place.position = run ++ rest)
    (hrun : ∀ c ∈ run, cls.accepts c = true) (hrest : Text.Stops cls.accepts rest)
    (hleast : least ≤ run.length) (h : next (place.moved run.length) = none →
      ∀ count, least ≤ count → count < run.length → next (place.moved count) = none) :
    repeatClass text.toArray cls .greedy least none place next =
      next (place.moved run.length) := by
  have hcount : least + (run.length - least) = run.length := Nat.add_sub_cancel' hleast
  rw [repeatClass_eq, htext, Text.takeWhile_append hrun hrest, if_neg (by omega), tryDown_top, hcount]
  rwa [hcount]

/-- One character is given back if what follows fails behind the whole run and not before its last
character. -/
theorem repeatClass_back {c : Char} {found : Place}
    (htext : text.drop place.position = (run ++ [c]) ++ rest)
    (hrun : ∀ d ∈ run ++ [c], cls.accepts d = true) (hrest : Text.Stops cls.accepts rest)
    (hleast : least ≤ run.length) (htop : next (place.moved (run.length + 1)) = none)
    (hback : next (place.moved run.length) = some found) :
    repeatClass text.toArray cls .greedy least none place next = some found := by
  have hextra : run.length + 1 - least = run.length - least + 1 := by omega
  have hcount : least + (run.length - least) = run.length := Nat.add_sub_cancel' hleast
  rw [repeatClass_eq, htext, Text.takeWhile_append hrun hrest, List.length_append,
    List.length_singleton, if_neg (by omega), hextra, tryDown_succ, ← Nat.add_assoc, hcount, htop,
    Option.none_or, tryDown_top, hcount, hback]
  rw [hcount, hback]
  nofun

/-! ## Classes -/

theorem charOf?_toNat (c : Char) : charOf? c.toNat = some c := by
  have hvalid : c.toNat.isValidChar := c.valid
  rw [charOf?, if_pos hvalid, Char.ofNat_toNat]

/-- The class of a category. -/
def classOf (category : Category) : CharClass :=
  ⟨.none, false, [.category category false false]⟩

theorem accepts_classOf (category : Category) :
    (classOf category).accepts = category.holds false := by
  funext c
  simp [CharClass.accepts, classOf, ClassItem.holds, Fold.apply, charOf?_toNat]

theorem accepts_anything (c : Char) : CharClass.anything.accepts c = true := rfl

/-! ## Groups -/

/-- The text that a group has matched. -/
def Place.groupText (text : Text) (place : Place) (index : Nat) : Option Text :=
  (place.group? index).map fun (first, last) => text.slice first last

/-- The match at the start of a text. -/
def Compiled.matchStart (pattern : Compiled) (text : Text) : Option Place :=
  pattern.root.matchAt text.toArray ⟨0, Array.replicate (2 * pattern.groups) none⟩ some

end Pattern

/-! ## The pattern -/

open Pattern

namespace KeyKind

/-- The category of the characters of a key. -/
def category : KeyKind → Pattern.Category
  | word => .word
  | level => .digit

theorem accepts_category (kind : KeyKind) : (classOf kind.category).accepts = kind.holds := by
  rw [accepts_classOf]
  cases kind <;> rfl

end KeyKind

/-- The pattern that takes arguments apart. -/
def argumentsPattern : KeyKind → Text
  | .word => "(?s)\\s*(\\w+)\\s+(.+)$".toList
  | .level => "(?s)\\s*(\\d+)\\s+(.+)$".toList

namespace ArgumentsPattern

/-- The part of its tree for everything up to the end. -/
def restItems : List Node :=
  [.group 2 (.seq [.repeated .greedy 1 none (.one .anything)]), .anchor .lastLineEnd]

/-- The part from the blanks behind the key on. -/
def blankItems : List Node :=
  .repeated .greedy 1 none (.one (classOf .blank)) :: restItems

/-- The part from the key on. -/
def keyItems (kind : KeyKind) : List Node :=
  .group 1 (.seq [.repeated .greedy 1 none (.one (classOf kind.category))]) :: blankItems

/-- Its tree. -/
def tree (kind : KeyKind) : Node :=
  .seq (.repeated .greedy 0 none (.one (classOf .blank)) :: keyItems kind)

theorem read_pattern [CharacterNames] (kind : KeyKind) :
    Pattern.read (argumentsPattern kind) = .ok ⟨tree kind, 2⟩ := by
  cases kind with
  | word =>
    have htext : argumentsPattern .word = ['(', '?', 's', ')', '\\', 's', '*', '(', '\\', 'w', '+', ')',
        '\\', 's', '+', '(', '.', '+', ')', '$'] := rfl
    rw [htext]
    rfl
  | level =>
    have htext : argumentsPattern .level = ['(', '?', 's', ')', '\\', 's', '*', '(', '\\', 'd', '+', ')',
        '\\', 's', '+', '(', '.', '+', ')', '$'] := rfl
    rw [htext]
    rfl

/-! ## Matching the pattern -/

section Matching

variable {kind : KeyKind} {args key blanks rest pattern : Text} {place : Place}

/-- The end of a match with the second group. -/
def ended (args pattern : Text) (place : Place) : Place where
  position := args.length
  marks := (place.marks.setIfInBounds 2 (some (args.length - pattern.length))).setIfInBounds 3
    (some args.length)

/-- The place behind a key that is the first group. -/
def keyed (place : Place) (key : Text) : Place :=
  ((place.mark 0).moved key.length).mark 1

theorem drop_add_length {position : Nat} {run : Text} (h : args.drop position = run ++ rest) :
    args.drop (position + run.length) = rest := by
  rw [← List.drop_drop, h, List.drop_left]

theorem position_eq (h : args.drop place.position = pattern) (hne : pattern ≠ []) :
    place.position + pattern.length = args.length := by
  have hlength := congrArg List.length h
  rw [List.length_drop] at hlength
  have hpositive : 0 < pattern.length := List.length_pos_iff.2 hne
  omega

theorem matchSeq_rest (h : args.drop place.position = pattern) :
    Node.matchSeq args.toArray restItems place some =
      if pattern = [] then none else some (ended args pattern place) := by
  simp only [restItems, Node.matchSeq, Node.matchAt, Node.unit?]
  split
  · rename_i hempty
    refine @repeatClass_none args _ (place.mark 2) _ 1 [] [] (h.trans hempty) nofun
      (Text.stops_nil _) fun count hleast hcount => ?_
    exact absurd (Nat.le_trans hleast hcount) (by decide)
  · rename_i hne
    have hend := position_eq h hne
    have hstart : args.length - pattern.length = place.position := by omega
    have hfound : Anchor.holds args.toArray (place.position + pattern.length) .lastLineEnd = true := by
      simp [Anchor.holds, hend]
    refine (@repeatClass_top args _ (place.mark 2) _ 1 pattern [] ?_ (fun c _ => accepts_anything c)
      (Text.stops_nil _) (List.length_pos_iff.2 hne) ?_).trans ?_
    · rw [List.append_nil]
      exact h
    · intro hnone
      cases hnone.symm.trans (if_pos hfound)
    · refine (if_pos hfound).trans (congrArg some ?_)
      rw [ended, hstart, ← hend]
      rfl

theorem accepts_blank : (classOf .blank).accepts = isBlank :=
  accepts_classOf .blank

theorem matchSeq_blanks (h : args.drop place.position = blanks ++ rest)
    (hblanks : ∀ c ∈ blanks, isBlank c = true) (hrest : Text.Stops isBlank rest) :
    Node.matchSeq args.toArray blankItems place some =
      (patternAfter blanks rest).map (ended args · place) := by
  simp only [blankItems, Node.matchSeq, Node.matchAt, Node.unit?]
  rw [← accepts_blank] at hblanks hrest
  have hwhole := @matchSeq_rest args rest (place.moved blanks.length) (drop_add_length h)
  cases rest with
  | cons c rest =>
    rw [if_neg (List.cons_ne_nil c rest)] at hwhole
    by_cases hnone : blanks = []
    · subst hnone
      rw [repeatClass_none h hblanks hrest fun count hleast hcount =>
        absurd (Nat.le_trans hleast hcount) (by decide)]
      simp [patternAfter]
    · have hpattern : patternAfter blanks (c :: rest) = some (c :: rest) := by
        simp [patternAfter, hnone]
      rw [repeatClass_top h hblanks hrest (List.length_pos_iff.2 hnone), hwhole, hpattern]
      · rfl
      · intro hfails
        cases hfails.symm.trans hwhole
  | nil =>
    rw [if_pos rfl] at hwhole
    rcases List.eq_nil_or_concat blanks with rfl | ⟨front, c, rfl⟩
    · rw [repeatClass_none h hblanks hrest fun count hleast hcount =>
        absurd (Nat.le_trans hleast hcount) (by decide)]
      rfl
    · rw [List.concat_eq_append] at h hblanks hwhole ⊢
      cases front with
      | nil =>
        rw [repeatClass_none h hblanks hrest]
        · rfl
        · intro count hleast hcount
          obtain rfl : count = 1 := Nat.le_antisymm hcount hleast
          exact hwhole
      | cons d front =>
        have hback := @matchSeq_rest args _ (place.moved (d :: front).length)
          (drop_add_length (h.trans (List.append_assoc ..)))
        have hpattern : patternAfter (d :: front ++ [c]) [] = some [c] := by
          rw [patternAfter, if_neg (by simp), if_pos (by simp), List.getLast?_concat]
          rfl
        rw [List.append_nil, if_neg (List.cons_ne_nil c [])] at hback
        rw [List.length_append] at hwhole
        rw [repeatClass_back h hblanks hrest (by simp) hwhole hback, hpattern]
        rfl

theorem matchSeq_key (h : args.drop place.position = key ++ rest)
    (hkey : ∀ c ∈ key, kind.holds c = true) (hrest : Text.Stops kind.holds rest) :
    Node.matchSeq args.toArray (keyItems kind) place some =
      if key = [] then none
      else (patternAfter (rest.takeWhile isBlank) (rest.dropWhile isBlank)).map
        (ended args · (keyed place key)) := by
  simp only [keyItems, Node.matchSeq, Node.matchAt, Node.unit?]
  have hblanks := @matchSeq_blanks args (rest.takeWhile isBlank) (rest.dropWhile isBlank)
    (keyed place key) (by rw [List.takeWhile_append_dropWhile]; exact drop_add_length h)
    (fun c hc => List.mem_takeWhile_imp hc) (Text.stops_dropWhile isBlank rest)
  rw [← kind.accepts_category] at hkey hrest
  split
  · rename_i hempty
    subst hempty
    exact repeatClass_none h hkey hrest fun count hleast hcount =>
      absurd (Nat.le_trans hleast hcount) (by decide)
  · rename_i hne
    refine (@repeatClass_top args _ (place.mark 0) _ 1 key rest h hkey hrest
      (List.length_pos_iff.2 hne) ?_).trans hblanks
    · intro _ count hleast hcount
      -- Behind a shorter key its next character stands, which is no blank.
      have hdrop : args.drop (place.position + count) = [] ++ (key.drop count ++ rest) := by
        rw [← List.drop_drop]
        exact (congrArg (List.drop count) h).trans
          (List.drop_append_of_le_length (Nat.le_of_lt hcount))
      have hnext : key.drop count ≠ [] := by
        rw [ne_eq, List.drop_eq_nil_iff]
        omega
      rw [kind.accepts_category] at hkey
      have hstops : Text.Stops isBlank (key.drop count ++ rest) :=
        Text.stops_of_disjoint (fun _ => kind.not_isBlank_of_holds) hnext
          (fun c hc => hkey c (List.mem_of_mem_drop hc)) rest
      refine (@matchSeq_blanks args [] _ (((place.mark 0).moved count).mark 1) hdrop nofun hstops).trans ?_
      simp [patternAfter]

theorem matchAt_tree (marks : Array (Option Nat)) :
    (tree kind).matchAt args.toArray ⟨0, marks⟩ some =
      Node.matchSeq args.toArray (keyItems kind) ⟨(args.takeWhile isBlank).length, marks⟩ some := by
  have hsplit : args = args.takeWhile isBlank ++ args.dropWhile isBlank :=
    List.takeWhile_append_dropWhile.symm
  have hblanks : ∀ c ∈ args.takeWhile isBlank, isBlank c = true := fun c hc => List.mem_takeWhile_imp hc
  have hstops := Text.stops_dropWhile isBlank args
  rw [← accepts_blank] at hblanks hstops
  simp only [tree, Node.matchAt, Node.matchSeq, Node.unit?]
  rw [← accepts_blank] at hsplit ⊢
  refine (@repeatClass_top args _ ⟨0, marks⟩ _ 0 _ _ hsplit hblanks hstops (Nat.zero_le _) ?_).trans ?_
  · intro _ count _ hcount
    -- Behind fewer blanks another one stands, with which no key begins.
    have hdrop : args.drop (0 + count) = [] ++ ((args.takeWhile (classOf .blank).accepts).drop count ++
        args.dropWhile (classOf .blank).accepts) := by
      rw [Nat.zero_add]
      exact (congrArg (List.drop count) hsplit).trans
        (List.drop_append_of_le_length (Nat.le_of_lt hcount))
    have hnext : (args.takeWhile (classOf .blank).accepts).drop count ≠ [] := by
      rw [ne_eq, List.drop_eq_nil_iff]
      omega
    rw [accepts_blank] at hblanks hnext hdrop
    have hnone : Text.Stops kind.holds
        ((args.takeWhile isBlank).drop count ++ args.dropWhile isBlank) :=
      Text.stops_of_disjoint (fun _ => kind.not_holds_of_isBlank) hnext
        (fun c hc => hblanks c (List.mem_of_mem_drop hc)) _
    exact @matchSeq_key kind args [] _ ((⟨0, marks⟩ : Place).moved count) hdrop nofun hnone
  · rw [Place.moved, Nat.zero_add]

end Matching

section Groups

variable {args key rest pattern : Text} {start : Nat}

theorem groupText_key (h : args.drop start = key ++ rest) :
    (ended args pattern (keyed ⟨start, Array.replicate 4 none⟩ key)).groupText args 1 = some key := by
  have hslice : args.slice start (start + key.length) = key := by
    rw [Text.slice, Nat.add_sub_cancel_left, h, List.take_left]
  simp [Place.groupText, Place.group?, ended, keyed, Place.mark, Place.moved, hslice]

theorem groupText_pattern (h : pattern <:+ args) :
    (ended args pattern (keyed ⟨start, Array.replicate 4 none⟩ key)).groupText args 2 = some pattern := by
  have hslice : args.slice (args.length - pattern.length) args.length = pattern := by
    rw [Text.slice_length]
    exact (List.suffix_iff_eq_drop.1 h).symm
  simp [Place.groupText, Place.group?, ended, keyed, Place.mark, Place.moved, hslice]

end Groups

end ArgumentsPattern

theorem patternAfter_isSuffix {blanks rest pattern : Text}
    (h : patternAfter blanks rest = some pattern) : pattern <:+ blanks ++ rest := by
  unfold patternAfter at h
  split at h
  · obtain rfl := Option.some.inj h
    exact List.suffix_append blanks rest
  · rename_i hnone
    split at h
    · rename_i hlong
      obtain ⟨c, hlast, rfl⟩ := Option.map_eq_some_iff.1 h
      have hrest : rest = [] := by
        by_contra hne
        have hblanks : blanks ≠ [] := List.length_pos_iff.1 (by omega)
        exact hnone (by simp [hne, hblanks])
      obtain ⟨front, hfront⟩ := List.getLast?_eq_some_iff.1 hlast
      rw [hrest, List.append_nil, hfront]
      exact List.suffix_append front [c]
    · cases h

/-- **Arguments are split as the pattern takes them.** If it matches at their start, its groups are the key and
the pattern; otherwise the arguments are taken as they stand. -/
theorem splitArguments_eq_match [CharacterNames] (kind : KeyKind) (args : Text) :
    ∃ compiled, Pattern.read (argumentsPattern kind) = .ok compiled ∧
      splitArguments kind args =
        match compiled.matchStart args with
        | none => (args.trim, none)
        | some place => ((place.groupText args 1).getD [], place.groupText args 2) := by
  refine ⟨_, ArgumentsPattern.read_pattern kind, ?_⟩
  have hbody : args.drop (args.takeWhile isBlank).length =
      args.trimLeft.takeWhile kind.holds ++ args.trimLeft.dropWhile kind.holds := by
    have hsplit : args.drop 0 = args.takeWhile isBlank ++ args.dropWhile isBlank :=
      List.takeWhile_append_dropWhile.symm
    have hdrop := ArgumentsPattern.drop_add_length hsplit
    rwa [Nat.zero_add, ← @List.takeWhile_append_dropWhile _ kind.holds (args.dropWhile isBlank)] at hdrop
  have hmatch := @ArgumentsPattern.matchSeq_key kind args _ _ ⟨_, Array.replicate (2 * 2) none⟩ hbody
    (fun c hc => List.mem_takeWhile_imp hc) (Text.stops_dropWhile kind.holds _)
  rw [Compiled.matchStart, ArgumentsPattern.matchAt_tree, hmatch]
  unfold splitArguments
  simp only
  by_cases hkey : args.trimLeft.takeWhile kind.holds = []
  · simp [hkey]
  · cases hpattern : patternAfter ((args.trimLeft.dropWhile kind.holds).takeWhile isBlank)
      ((args.trimLeft.dropWhile kind.holds).dropWhile isBlank) with
    | none => simp [hkey]
    | some pattern =>
      have hsuffix : pattern <:+ args := by
        have hrest := patternAfter_isSuffix hpattern
        rw [List.takeWhile_append_dropWhile] at hrest
        exact (hrest.trans (List.dropWhile_suffix _)).trans (List.dropWhile_suffix _)
      simp [hkey, ArgumentsPattern.groupText_key hbody, ArgumentsPattern.groupText_pattern hsuffix]

end PhotoPublish
