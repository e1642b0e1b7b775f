import PhotoPublish.Proofs.Text.Run
import PhotoPublish.Template.Arguments

/-!
# Keys and patterns in arguments

`KeyCut` cuts arguments behind their key, where blanks end it. What follows the blanks is the pattern. If
nothing does, there is none; but the last of several blanks is taken for one
(`KeyCut.splitArguments_of_blanks`).

* `splitArguments_splits_iff`: arguments are split where they should be, unless they end in several blanks
  behind a key.
-/

set_option autoImplicit false

namespace PhotoPublish

theorem KeyKind.not_holds_of_isBlank (kind : KeyKind) {c : Char} (h : isBlank c = true) :
    kind.holds c = false := by
  cases kind with
  | word => exact not_isWord_of_isBlank h
  | level => exact not_isDecimal_of_isBlank h

theorem KeyKind.not_isBlank_of_holds (kind : KeyKind) {c : Char} (h : kind.holds c = true) :
    isBlank c = false := by
  rw [Bool.eq_false_iff]
  intro hblank
  rw [kind.not_holds_of_isBlank hblank] at h
  cases h

/-- Arguments that begin with a key, perhaps behind blanks, cut where the blanks behind the key end. -/
structure KeyCut (kind : KeyKind) (args before key blanks after : Text) : Prop where
  split : args = before ++ (key ++ (blanks ++ after))
  before : ∀ c ∈ before, isBlank c = true
  key_ne_nil : key ≠ []
  key : ∀ c ∈ key, kind.holds c = true
  blanks_ne_nil : blanks ≠ []
  blanks : ∀ c ∈ blanks, isBlank c = true
  after : Text.Stops isBlank after

/-- The arguments are a key, blanks and a pattern that does not begin with a blank. -/
def HoldsPattern (kind : KeyKind) (args key pattern : Text) : Prop :=
  pattern ≠ [] ∧ ∃ before blanks, KeyCut kind args before key blanks pattern

/-- The arguments are a key and several blanks behind it. -/
def EndsInBlanks (kind : KeyKind) (args : Text) : Prop :=
  ∃ before key blanks, KeyCut kind args before key blanks [] ∧ 2 ≤ blanks.length

variable {kind : KeyKind} {args before key blanks after : Text}

/-! ## What is cut off -/

namespace KeyCut

theorem stops_key (h : KeyCut kind args before key blanks after) :
    Text.Stops isBlank (key ++ (blanks ++ after)) :=
  Text.stops_of_disjoint (fun _ => kind.not_isBlank_of_holds) h.key_ne_nil h.key _

theorem stops_blanks (h : KeyCut kind args before key blanks after) :
    Text.Stops kind.holds (blanks ++ after) :=
  Text.stops_of_disjoint (fun _ => kind.not_holds_of_isBlank) h.blanks_ne_nil h.blanks _

/-- Arguments are cut behind a key in one way. -/
theorem unique {before' key' blanks' after' : Text} (h : KeyCut kind args before key blanks after)
    (h' : KeyCut kind args before' key' blanks' after') :
    key = key' ∧ blanks = blanks' ∧ after = after' := by
  have hsplit := h.split.symm.trans h'.split
  obtain ⟨-, hbody⟩ := Text.eq_of_cut hsplit h.before h.stops_key h'.before h'.stops_key
  obtain ⟨hkey, hrest⟩ := Text.eq_of_cut hbody h.key h.stops_blanks h'.key h'.stops_blanks
  exact ⟨hkey, Text.eq_of_cut hrest h.blanks h.after h'.blanks h'.after⟩

/-- Blanks alone are no pattern. -/
theorem not_holdsPattern (h : KeyCut kind args before key blanks []) :
    ¬ ∃ key pattern, HoldsPattern kind args key pattern := by
  rintro ⟨key', pattern, hne, before', blanks', h'⟩
  exact hne (h'.unique h).2.2

theorem splitArguments_eq (h : KeyCut kind args before key blanks after) :
    splitArguments kind args =
      if (patternAfter blanks after).isNone then (args.trim, none)
      else (key, patternAfter blanks after) := by
  have hbody : args.trimLeft = key ++ (blanks ++ after) := by
    rw [h.split]
    exact Text.dropWhile_append h.before h.stops_key
  have hkey : key.isEmpty = false := List.isEmpty_eq_false_iff.2 h.key_ne_nil
  simp only [splitArguments, hbody, Text.takeWhile_append h.key h.stops_blanks,
    Text.dropWhile_append h.key h.stops_blanks, Text.takeWhile_append h.blanks h.after,
    Text.dropWhile_append h.blanks h.after, hkey, Bool.false_or]

theorem splitArguments_of_pattern (h : KeyCut kind args before key blanks after)
    (hafter : after ≠ []) : splitArguments kind args = (key, some after) := by
  have hpattern : patternAfter blanks after = some after := by
    simp [patternAfter, hafter, h.blanks_ne_nil]
  rw [h.splitArguments_eq, hpattern]
  rfl

theorem splitArguments_of_blank (h : KeyCut kind args before key blanks [])
    (hblanks : blanks.length < 2) : splitArguments kind args = (args.trim, none) := by
  have hpattern : patternAfter blanks [] = none := if_neg (Nat.not_le.2 hblanks)
  rw [h.splitArguments_eq, hpattern]
  rfl

/-- **The last of several blanks behind a key is taken for the pattern.** -/
theorem splitArguments_of_blanks (h : KeyCut kind args before key blanks [])
    (hblanks : 2 ≤ blanks.length) :
    ∃ c, blanks.getLast? = some c ∧ splitArguments kind args = (key, some [c]) := by
  obtain ⟨c, hlast⟩ : ∃ c, blanks.getLast? = some c :=
    ⟨_, List.getLast?_eq_some_getLast h.blanks_ne_nil⟩
  have hpattern : patternAfter blanks [] = some [c] := by
    simp [patternAfter, hblanks, hlast]
  refine ⟨c, hlast, ?_⟩
  rw [h.splitArguments_eq, hpattern]
  rfl

end KeyCut

/-- What the reader cuts off is a cut behind the key, unless it finds no key or no blanks behind it. -/
theorem keyCut_of_ne_nil (hkey : args.trimLeft.takeWhile kind.holds ≠ [])
    (hblanks : (args.trimLeft.dropWhile kind.holds).takeWhile isBlank ≠ []) :
    KeyCut kind args (args.takeWhile isBlank) (args.trimLeft.takeWhile kind.holds)
      ((args.trimLeft.dropWhile kind.holds).takeWhile isBlank)
      ((args.trimLeft.dropWhile kind.holds).dropWhile isBlank) where
  split := by
    rw [List.takeWhile_append_dropWhile, List.takeWhile_append_dropWhile, Text.trimLeft,
      List.takeWhile_append_dropWhile]
  before _ hc := List.mem_takeWhile_imp hc
  key_ne_nil := hkey
  key _ hc := List.mem_takeWhile_imp hc
  blanks_ne_nil := hblanks
  blanks _ hc := List.mem_takeWhile_imp hc
  after := Text.stops_dropWhile isBlank _

/-- Arguments that are not cut behind a key are taken as they stand. -/
theorem splitArguments_of_not_keyCut
    (h : ∀ before key blanks after, ¬ KeyCut kind args before key blanks after) :
    splitArguments kind args = (args.trim, none) := by
  by_cases hkey : args.trimLeft.takeWhile kind.holds = []
  · simp [splitArguments, hkey]
  · by_cases hblanks : (args.trimLeft.dropWhile kind.holds).takeWhile isBlank = []
    · simp [splitArguments, hblanks, patternAfter]
    · exact absurd (keyCut_of_ne_nil hkey hblanks) (h _ _ _ _)

theorem splitArguments_eq_trim_iff (hnone : ¬ ∃ key pattern, HoldsPattern kind args key pattern) :
    splitArguments kind args = (args.trim, none) ↔ ¬ EndsInBlanks kind args := by
  constructor
  · rintro htrim ⟨before, key, blanks, h, hblanks⟩
    obtain ⟨c, -, hsplit⟩ := h.splitArguments_of_blanks hblanks
    rw [htrim] at hsplit
    cases hsplit
  · intro hends
    by_cases hcut : ∃ before key blanks after, KeyCut kind args before key blanks after
    · obtain ⟨before, key, blanks, after, h⟩ := hcut
      cases after with
      | nil =>
        refine h.splitArguments_of_blank (Nat.lt_of_not_le fun hblanks => ?_)
        exact hends ⟨before, key, blanks, h, hblanks⟩
      | cons c after =>
        exact absurd ⟨key, c :: after, List.cons_ne_nil c after, before, blanks, h⟩ hnone
    · exact splitArguments_of_not_keyCut (by simpa using hcut)

/-- **Where arguments are split.** They are split at the blanks behind the key if a pattern follows these. All
others should be taken as they stand, and they are exactly if they do not end in several blanks behind a
key. -/
theorem splitArguments_splits_iff (kind : KeyKind) (args : Text) :
    (∀ key pattern, HoldsPattern kind args key pattern →
      splitArguments kind args = (key, some pattern)) ∧
    ((¬ ∃ key pattern, HoldsPattern kind args key pattern) →
      (splitArguments kind args = (args.trim, none) ↔ ¬ EndsInBlanks kind args)) := by
  refine ⟨?_, splitArguments_eq_trim_iff⟩
  rintro key pattern ⟨hne, before, blanks, h⟩
  exact h.splitArguments_of_pattern hne

/-- Two blanks behind a key are no pattern, but the second one is taken for one. -/
theorem splitArguments_two_blanks :
    (¬ ∃ key pattern, HoldsPattern .word "title  ".toList key pattern) ∧
      splitArguments .word "title  ".toList = ("title".toList, some [' ']) ∧
      Text.trim "title  ".toList = "title".toList := by
  have hcut : KeyCut .word "title  ".toList [] "title".toList "  ".toList [] :=
    ⟨rfl, nofun, by decide, List.all_eq_true.1 (by decide), by decide, List.all_eq_true.1 (by decide),
      Text.stops_nil isBlank⟩
  exact ⟨hcut.not_holdsPattern, by decide, by decide⟩

end PhotoPublish
