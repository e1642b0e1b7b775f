import PhotoPublish.Pattern.CharacterName
import PhotoPublish.Proofs.Path.Segments
import PhotoPublish.Proofs.Template.Evaluation

/-!
# Templates at a directory boundary

Two patterns with a slash between them are scanned as if each stood alone, unless a brace that the first one
leaves open takes in some of the second (`lastBrace?`).

* `expand_scan_append`: the pieces of the whole expand to the texts of both with the slash between them.
* `Template.evaluate_append_slash`: the segments of the whole are the segments of both.
-/

set_option autoImplicit false

namespace PhotoPublish

/-! ## Braces -/

/-- An open or a close brace. -/
def isBrace (c : Char) : Bool :=
  c == '\x7b' || c == '\x7d'

/-- The last brace of a text. -/
def lastBrace? (text : Text) : Option Char :=
  (text.filter isBrace).getLast?

theorem ne_open_of_not_isBrace {c : Char} (hc : isBrace c = false) : c ≠ '\x7b' := by
  rintro rfl
  cases hc

theorem lastBrace?_cons (c : Char) (text : Text) :
    lastBrace? (c :: text) = (lastBrace? text).or (if isBrace c then some c else none) := by
  unfold lastBrace?
  rw [List.filter_cons]
  split
  · rw [List.getLast?_cons]
    cases (text.filter isBrace).getLast? <;> rfl
  · rw [Option.or_none]

/-- A text whose last brace is not open leaves none open, wherever it is entered. -/
theorem lastBrace?_ne_of_cons {c : Char} {text : Text} (h : lastBrace? (c :: text) ≠ some '\x7b') :
    lastBrace? text ≠ some '\x7b' := by
  intro hlast
  rw [lastBrace?_cons, hlast] at h
  exact h rfl

theorem lastBrace?_ne_none_of_cons {text : Text} (h : lastBrace? ('\x7b' :: text) ≠ some '\x7b') :
    lastBrace? text ≠ none := by
  intro hlast
  rw [lastBrace?_cons, hlast] at h
  exact h rfl

theorem lastBrace?_cons_of_not_isBrace {c : Char} {text : Text} (hc : isBrace c = false) :
    lastBrace? (c :: text) = lastBrace? text := by
  rw [lastBrace?_cons, hc]
  exact Option.or_none

/-! ## Steps of the scanner -/

section Steps

variable {position : Nat} {literal token rest : Text} {opened : Option Text} {c : Char}

theorem scanFrom_open : scanFrom position literal opened ('\x7b' :: rest) =
    scanFrom (position + 1) (literal ++ opened.getD []) (some ['\x7b']) rest := by
  cases opened <;> rw [scanFrom, if_pos rfl]

theorem scanFrom_skip (hc : c ≠ '\x7b') : scanFrom position literal none (c :: rest) =
    scanFrom (position + 1) (literal ++ [c]) none rest := by
  rw [scanFrom, if_neg hc]

theorem scanFrom_extend (hopen : c ≠ '\x7b') (hclose : c ≠ '\x7d') :
    scanFrom position literal (some token) (c :: rest) =
      scanFrom (position + 1) literal (some (token ++ [c])) rest := by
  rw [scanFrom, if_neg hopen, if_neg hclose]

theorem scanFrom_close : scanFrom position literal (some token) ('\x7d' :: rest) =
    match Placeholder.parse? (token ++ ['\x7d']) (position - token.length : Nat) with
    | some p => Piece.literals literal ++ .placeholder p :: scanFrom (position + 1) [] none rest
    | none => scanFrom (position + 1) (literal ++ token ++ ['\x7d']) none rest := by
  rw [scanFrom, if_neg (by decide)]
  exact if_pos rfl

end Steps

/-! ## Expanding while scanning -/

variable {value : Placeholder → Except Failure Text}

/-- Literal text from before goes in front. -/
theorem expand_scanFrom_literal (before : Text) (position : Nat) (literal : Text)
    (opened : Option Text) (rest : Text) :
    expand value (scanFrom position (before ++ literal) opened rest) =
      (before ++ ·) <$> expand value (scanFrom position literal opened rest) := by
  induction rest generalizing position literal opened with
  | nil =>
    rw [scanFrom, scanFrom, expand_literals, expand_literals, List.append_assoc]
    rfl
  | cons c rest ih =>
    by_cases hopen : c = '\x7b'
    · subst hopen
      rw [scanFrom_open, scanFrom_open, List.append_assoc, ih]
    · cases opened with
      | none => rw [scanFrom_skip hopen, scanFrom_skip hopen, List.append_assoc, ih]
      | some token =>
        by_cases hclose : c = '\x7d'
        · subst hclose
          rw [scanFrom_close, scanFrom_close]
          cases Placeholder.parse? (token ++ ['\x7d']) (position - token.length : Nat) with
          | none =>
            simp only
            rw [List.append_assoc, List.append_assoc, ← List.append_assoc literal, ih]
          | some p =>
            simp only
            rw [expand_literals_append, expand_literals_append, ← comp_map]
            simp [Function.comp_def]
        · rw [scanFrom_extend hopen hclose, scanFrom_extend hopen hclose]
          exact ih ..

/-- Where the rest of a template stands does not matter for what it expands to. -/
theorem expand_scanFrom_position (hvalue : ∀ p start, value { p with start := start } = value p)
    (position other : Nat) (literal : Text) (opened : Option Text) (rest : Text) :
    expand value (scanFrom position literal opened rest) =
      expand value (scanFrom other literal opened rest) := by
  induction rest generalizing position other literal opened with
  | nil => rfl
  | cons c rest ih =>
    by_cases hopen : c = '\x7b'
    · subst hopen
      rw [scanFrom_open, scanFrom_open]
      exact ih ..
    · cases opened with
      | none =>
        rw [scanFrom_skip hopen, scanFrom_skip hopen]
        exact ih ..
      | some token =>
        by_cases hclose : c = '\x7d'
        · subst hclose
          rw [scanFrom_close, scanFrom_close,
            Placeholder.parse?_start _ (other - token.length : Nat)]
          cases Placeholder.parse? (token ++ ['\x7d']) (other - token.length : Nat) with
          | none => exact ih ..
          | some p =>
            simp only [Option.map_some, expand_literals_append, expand, hvalue]
            rw [ih (position + 1) (other + 1)]
        · rw [scanFrom_extend hopen hclose, scanFrom_extend hopen hclose]
          exact ih ..

/-- **A rest that leaves no brace open is cut off from what follows it.** What the scanner remembers as
open is closed in the rest, or there is nothing. -/
theorem expand_scanFrom_append (hvalue : ∀ p start, value { p with start := start } = value p)
    {c : Char} (hc : isBrace c = false) (later : Text) {position : Nat} {literal : Text}
    {opened : Option Text} {rest : Text} (hlast : lastBrace? rest ≠ some '\x7b')
    (hopened : opened ≠ none → lastBrace? rest ≠ none) :
    expand value (scanFrom position literal opened (rest ++ c :: later)) =
      expand value (scanFrom position literal opened rest) >>= fun text =>
        (text ++ c :: ·) <$> expand value (scan later) := by
  induction rest generalizing position literal opened with
  | nil =>
    cases opened with
    | some token => exact absurd rfl (hopened nofun)
    | none =>
      -- Nothing is open at the junction, so what follows is scanned as if it stood on its own.
      have hliteral : literal ++ [c] = (literal ++ [c]) ++ [] := (List.append_nil _).symm
      rw [List.nil_append, scanFrom_skip (ne_open_of_not_isBrace hc), hliteral, expand_scanFrom_literal,
        expand_scanFrom_position hvalue (position + 1) 0, scanFrom, expand_literals, scan]
      simp [bind, Except.bind]
  | cons d rest ih =>
    rw [List.cons_append]
    have hrest := lastBrace?_ne_of_cons hlast
    by_cases hopen : d = '\x7b'
    · subst hopen
      rw [scanFrom_open, scanFrom_open]
      exact ih hrest fun _ => lastBrace?_ne_none_of_cons hlast
    · cases opened with
      | none =>
        rw [scanFrom_skip hopen, scanFrom_skip hopen]
        exact ih hrest (absurd rfl)
      | some token =>
        by_cases hclose : d = '\x7d'
        · subst hclose
          rw [scanFrom_close, scanFrom_close]
          cases Placeholder.parse? (token ++ ['\x7d']) (position - token.length : Nat) with
          | none => exact ih hrest (absurd rfl)
          | some p =>
            simp only [expand_literals_append, expand, ih hrest (absurd rfl)]
            cases value p with
            | error failure => rfl
            | ok text =>
              cases expand value (scanFrom (position + 1) [] none rest) with
              | error failure => rfl
              | ok mid =>
                cases expand value (scan later) <;>
                  simp [Functor.map, Except.map, bind, Except.bind, pure, Except.pure]
        · rw [scanFrom_extend hopen hclose, scanFrom_extend hopen hclose]
          have hd : isBrace d = false := by simp [isBrace, hopen, hclose]
          rw [lastBrace?_cons_of_not_isBrace hd] at hopened
          exact ih hrest fun _ => hopened nofun

/-- **Two patterns with a slash between them expand to the texts of both.** -/
theorem expand_scan_append (hvalue : ∀ p start, value { p with start := start } = value p)
    {a : Text} (ha : lastBrace? a ≠ some '\x7b') {c : Char} (hc : isBrace c = false) (b : Text) :
    expand value (scan (a ++ c :: b)) =
      expand value (scan a) >>= fun text => (text ++ c :: ·) <$> expand value (scan b) :=
  expand_scanFrom_append hvalue hc b ha (absurd rfl)

namespace Template

theorem ok_of_map_some {α : Type} {outcome : Except Failure α} {a : α}
    (h : outcome.map some = .ok (some a)) : outcome = .ok a := by
  cases outcome with
  | error failure => cases h
  | ok a' => rw [Option.some.inj (Except.ok.inj h)]

section Slash

variable [Pattern.CharacterNames] {surroundings : Surroundings} {photo : Photo} {now : Binary64}
  {a b x y : Text}

/-- What both patterns expand to stands on the two sides of the slash, each before its normal form. -/
theorem outcome_append_slash (hlast : lastBrace? a ≠ some '\x7b')
    (ha : outcome surroundings photo now a = .ok x) (hb : outcome surroundings photo now b = .ok y) :
    ∃ u v, x = normalizePath u ∧ y = normalizePath v ∧
      outcome surroundings photo now (a ++ '/' :: b) = .ok (normalizePath (u ++ '/' :: v)) := by
  have hscan := @expand_scan_append (Placeholder.outcome surroundings photo now)
    (fun p start => p.outcome_start surroundings photo now start) a hlast '/' rfl b
  unfold outcome at ha hb ⊢
  rw [hscan]
  cases hu : expand (Placeholder.outcome surroundings photo now) (scan a) with
  | error failure =>
    rw [hu] at ha
    cases ha
  | ok u =>
    cases hv : expand (Placeholder.outcome surroundings photo now) (scan b) with
    | error failure =>
      rw [hv] at hb
      cases hb
    | ok v =>
      rw [hu] at ha
      rw [hv] at hb
      exact ⟨u, v, (Except.ok.inj ha).symm, (Except.ok.inj hb).symm, rfl⟩

/-- **Evaluation is compositional at directory boundaries.** If no brace of the first pattern is left open
and the clock does not advance, the evaluation of two patterns with a slash between them returns as soon as
both evaluations return, and has the segments of both. -/
theorem evaluate_append_slash (hlast : lastBrace? a ≠ some '\x7b')
    {visitA visitB visit : Visit} (hclockA : visitA.clock.Stopped now)
    (hclockB : visitB.clock.Stopped now) (hclock : visit.clock.Stopped now)
    (ha : result surroundings photo a visitA = .ok (some x))
    (hb : result surroundings photo b visitB = .ok (some y)) :
    ∃ z, result surroundings photo (a ++ '/' :: b) visit = .ok (some z) ∧
      Path.segments z = Path.segments x ++ Path.segments y := by
  rw [evaluate_result hclockA.shows] at ha
  rw [evaluate_result hclockB.shows] at hb
  obtain ⟨u, v, rfl, rfl, houtcome⟩ :=
    outcome_append_slash hlast (ok_of_map_some ha) (ok_of_map_some hb)
  refine ⟨normalizePath (u ++ '/' :: v), ?_, ?_⟩
  · rw [evaluate_result hclock.shows, houtcome]
    rfl
  · rw [Path.segments_normalizePath, Path.segments_normalizePath, Path.segments_normalizePath,
      Path.segments_append_cons Path.isSeparator_slash]

end Slash

attribute [local instance] Pattern.CharacterNames.common

/-- A photo whose title has braces. -/
def braced : Photo :=
  { raw := [("path".toList, .text "/raw/trip.jpg".toList)],
    formatted := some [("title".toList, .text "a\x7b\\\x7dPath:1\x7d".toList)] }

/-- A clock that shows the start of the epoch. -/
def epoch : Visit :=
  { clock := { now := .finite 0 } }

/-- Braces in metadata are not scanned again. -/
theorem evaluate_append_slash_braced :
    ∃ z, result {} braced ("x\x7d\x7bLrFM:title\x7d".toList ++ '/' :: "\x7bPath:1\x7d/y\x7b".toList)
        epoch = .ok (some z) ∧
      Path.segments z = Path.segments "x\x7da\x7b-\x7dPath-1\x7d".toList ++
        Path.segments "raw/y\x7b".toList :=
  have hstopped : epoch.clock.Stopped (.finite 0) := ⟨rfl, nofun⟩
  evaluate_append_slash (by decide +kernel) hstopped hstopped hstopped
    (ok_of_toOption (by decide +kernel)) (ok_of_toOption (by decide +kernel))

end Template

end PhotoPublish
