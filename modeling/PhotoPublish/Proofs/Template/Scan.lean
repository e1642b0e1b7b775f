import Mathlib.Data.List.Chain
import PhotoPublish.Proofs.Template.Token

/-!
# What a scan cuts out of a template

`Cut t n pieces`: from place `n` on, `pieces` are the tokens of the text `t` in their order, with the
stretches between them. The scanner makes such a cut (`scan_cut`): at every step no token starts
between the last placeholder and the open brace it remembers (`Pending`).

* `scan_spec`: the pieces are exactly the tokens, interleaved with the stretches between them; nothing is
  lost, and a literal scanned on its own is one literal again.
-/

set_option autoImplicit false

namespace PhotoPublish

/-! ## Cuts -/

/-- A cut of a text from a place on (module doc). -/
inductive Cut (t : Text) : Nat → List Piece → Prop
  | last {n : Nat} : (∀ i j p, n ≤ i → ¬ TokenAt t i j p) → Cut t n (Piece.literals (t.drop n))
  | next {n i j : Nat} {p : Placeholder} {pieces : List Piece} : n ≤ i → TokenAt t i j p →
      (∀ i' j' p', n ≤ i' → TokenAt t i' j' p' → i ≤ i') → Cut t j pieces →
      Cut t n (Piece.literals (t.slice n i) ++ .placeholder p :: pieces)

/-- What the scanner knows at place `pos`: no token starts from place `n` up to place `k`, where the text
it takes to be open starts. -/
structure Pending (t : Text) (n k pos : Nat) (opened : Option Text) : Prop where
  le : n ≤ k
  le_pos : k ≤ pos
  noToken : ∀ i j p, n ≤ i → i < k → ¬ TokenAt t i j p
  closed : opened = none → k = pos
  opens : ∀ token, opened = some token → token = t.slice k pos ∧ t[k]? = some '\x7b' ∧ k < pos ∧
    ∀ m, k < m → m < pos → t[m]? ≠ some '\x7b' ∧ t[m]? ≠ some '\x7d'

namespace Pending

variable {t : Text} {n k pos : Nat} {opened : Option Text}

theorem literal_append (h : Pending t n k pos opened) :
    t.slice n k ++ opened.getD [] = t.slice n pos := by
  cases opened with
  | none =>
    rw [h.closed rfl]
    simp
  | some token =>
    rw [Option.getD_some, (h.opens token rfl).1]
    exact Text.slice_append_slice t h.le h.le_pos

/-- An open brace that is not closed up to `pos` starts no token that closes before. -/
theorem le_of_token (h : Pending t n k pos opened) {i j : Nat} {p : Placeholder} (hn : n ≤ i)
    (hi : i < pos) (htoken : TokenAt t i j p) : i = k ∧ pos < j := by
  have hk : k ≤ i := Nat.le_of_not_lt fun hlt => h.noToken i j p hn hlt htoken
  cases hopened : opened with
  | none =>
    have := h.closed hopened
    omega
  | some token =>
    obtain ⟨-, -, hkpos, hbetween⟩ := h.opens token hopened
    have hik : i = k := by
      rcases Nat.eq_or_lt_of_le hk with rfl | hlt
      · rfl
      · exact absurd htoken.1.opens (hbetween i hlt hi).1
    refine ⟨hik, ?_⟩
    rcases Nat.lt_or_ge pos j with hlt | hge
    · exact hlt
    · have hsucc := htoken.1.succ_lt
      exact absurd htoken.1.closes (hbetween (j - 1) (by omega) (by omega)).2

/-- No token starts up to `pos` if what is open makes none. -/
theorem noToken_of (h : Pending t n k pos opened)
    (hk : k < pos → ∀ j p, pos < j → ¬ TokenAt t k j p) :
    ∀ i j p, n ≤ i → i < pos → ¬ TokenAt t i j p := by
  intro i j p hn hi htoken
  obtain ⟨rfl, hj⟩ := h.le_of_token hn hi htoken
  exact hk hi j p hj htoken

/-- A brace opens: it is what is open from now on. -/
theorem openBrace (h : Pending t n k pos opened) (hc : t[pos]? = some '\x7b') :
    Pending t n pos (pos + 1) (some ['\x7b']) := by
  refine ⟨Nat.le_trans h.le h.le_pos, Nat.le_add_right _ 1, ?_, nofun, ?_⟩
  · exact h.noToken_of fun hlt j p hj htoken => htoken.1.not_opens hlt hj hc
  · rintro token ⟨⟩
    refine ⟨?_, hc, Nat.lt_add_one pos, by omega⟩
    rw [← Text.slice_concat (Nat.le_refl pos) hc, Text.slice_self]
    rfl

/-- A character while nothing is open. -/
theorem skip (h : Pending t n k pos none) (hc : t[pos]? ≠ some '\x7b') :
    Pending t n (pos + 1) (pos + 1) none := by
  obtain rfl := h.closed rfl
  refine ⟨Nat.le_add_right_of_le h.le, Nat.le_refl _, fun i j p hn hi htoken => ?_, fun _ => rfl,
    nofun⟩
  rcases Nat.eq_or_lt_of_le (Nat.le_of_lt_succ hi) with rfl | hlt
  · exact hc htoken.1.opens
  · exact h.noToken i j p hn hlt htoken

/-- A character that is no brace while a brace is open. -/
theorem extend {token : Text} {c : Char} (h : Pending t n k pos (some token))
    (hc : t[pos]? = some c) (hopen : c ≠ '\x7b') (hclose : c ≠ '\x7d') :
    Pending t n k (pos + 1) (some (token ++ [c])) := by
  obtain ⟨rfl, hk, hkpos, hbetween⟩ := h.opens token rfl
  refine ⟨h.le, Nat.le_add_right_of_le h.le_pos, h.noToken, nofun, ?_⟩
  rintro _ ⟨⟩
  refine ⟨Text.slice_concat h.le_pos hc, hk, Nat.lt_add_right 1 hkpos, fun m hkm hm => ?_⟩
  rcases Nat.eq_or_lt_of_le (Nat.le_of_lt_succ hm) with rfl | hlt
  · simp [hc, hopen, hclose]
  · exact hbetween m hkm hlt

/-- A brace closes the open one: the two are innermost. -/
theorem innermost {token : Text} (h : Pending t n k pos (some token)) (hc : t[pos]? = some '\x7d') :
    Innermost t k (pos + 1) := by
  obtain ⟨-, hk, hkpos, hbetween⟩ := h.opens token rfl
  exact ⟨by omega, hk, hc, fun m hkm hm => hbetween m hkm hm⟩

/-- A closed pair of braces that makes no placeholder is literal text. -/
theorem reject {token : Text} (h : Pending t n k pos (some token)) (hc : t[pos]? = some '\x7d')
    (hparse : Placeholder.parse? (t.slice k (pos + 1)) k = none) :
    Pending t n (pos + 1) (pos + 1) none := by
  have hpair := h.innermost hc
  refine ⟨Nat.le_add_right_of_le (Nat.le_trans h.le h.le_pos), Nat.le_refl _,
    fun i j p hn hi htoken => ?_, fun _ => rfl, nofun⟩
  rcases Nat.eq_or_lt_of_le (Nat.le_of_lt_succ hi) with rfl | hlt
  · have := htoken.1.opens
    simp [hc] at this
  · obtain ⟨rfl, -⟩ := h.le_of_token hn hlt htoken
    have hp := htoken.2
    rw [htoken.1.stop_unique hpair, hparse] at hp
    simp at hp

/-- Nothing is pending where a scan starts. -/
theorem start (t : Text) (n : Nat) : Pending t n n n none :=
  ⟨Nat.le_refl n, Nat.le_refl n, by omega, fun _ => rfl, nofun⟩

end Pending

/-- The scanner makes a cut from where the last placeholder ended. -/
theorem scanFrom_cut {t : Text} : ∀ {rest : Text} {n k pos : Nat} {opened : Option Text},
    t.drop pos = rest → Pending t n k pos opened →
      Cut t n (scanFrom pos (t.slice n k) opened rest)
  | [], n, k, pos, opened, hrest, h => by
    have hlen : t.length ≤ pos := List.drop_eq_nil_iff.1 hrest
    rw [scanFrom, h.literal_append]
    have hcut : t.slice n pos = t.drop n := by
      rw [Text.slice, List.take_of_length_le]
      simp only [List.length_drop]
      omega
    rw [hcut]
    refine .last fun i j p hn htoken => ?_
    have hi := (List.getElem?_eq_some_iff.1 htoken.1.opens).1
    obtain ⟨-, hj⟩ := h.le_of_token hn (Nat.lt_of_lt_of_le hi hlen) htoken
    have := htoken.1.le_length
    omega
  | c :: rest, n, k, pos, opened, hrest, h => by
    have hc : t[pos]? = some c := by
      have := congrArg (·[0]?) hrest
      simpa [List.getElem?_drop] using this
    have hrest' : t.drop (pos + 1) = rest := by
      rw [← List.tail_drop, hrest]
      rfl
    unfold scanFrom
    split
    · rename_i hopen
      subst hopen
      rw [h.literal_append]
      exact scanFrom_cut hrest' (h.openBrace hc)
    · rename_i hopen
      cases opened with
      | none =>
        obtain rfl := h.closed rfl
        simp only
        rw [Text.slice_concat h.le hc]
        exact scanFrom_cut hrest' (h.skip (by simpa [hc] using hopen))
      | some token =>
        obtain ⟨rfl, -, hkpos, -⟩ := h.opens token rfl
        have hpos : pos < t.length := (List.getElem?_eq_some_iff.1 hc).1
        have hk : pos - (t.slice k pos).length = k := by
          rw [Text.length_slice (Nat.le_of_lt hpos)]
          omega
        simp only [hk, Text.slice_concat h.le_pos hc]
        split
        · rename_i hclose
          subst hclose
          cases hparse : Placeholder.parse? (t.slice k (pos + 1)) k with
          | none =>
            -- The span is innermost, so no token starts at its brace: it joins the literal.
            simp only
            rw [List.append_assoc, Text.slice_concat h.le_pos hc,
              Text.slice_append_slice t h.le (Nat.le_add_right_of_le h.le_pos)]
            exact scanFrom_cut hrest' (h.reject hc hparse)
          | some p =>
            simp only
            have hcut := scanFrom_cut hrest' (Pending.start t (pos + 1))
            rw [Text.slice_self] at hcut
            refine .next h.le ⟨h.innermost hc, hparse⟩ (fun i' j' p' hn htoken => ?_) hcut
            exact Nat.le_of_not_lt fun hlt => h.noToken i' j' p' hn hlt htoken
        · rename_i hclose
          have hnext := h.extend hc hopen hclose
          rw [Text.slice_concat h.le_pos hc] at hnext
          exact scanFrom_cut hrest' hnext

/-- **The scanner cuts a template into its tokens and the stretches between them.** -/
theorem scan_cut (t : Text) : Cut t 0 (scan t) := by
  have hcut := scanFrom_cut (t := t) rfl (Pending.start t 0)
  rwa [Text.slice_self] at hcut

/-! ## Facts about cuts -/

namespace Piece

/-- Whether a piece is literal text. -/
def isLiteral (piece : Piece) : Bool :=
  piece.placeholder?.isNone

theorem flatMap_text_literals (u : Text) : (literals u).flatMap text = u := by
  unfold literals
  split
  · rename_i h
    simpa using h.symm
  · simp [text]

theorem placeholder_notMem_literals (p : Placeholder) (u : Text) : placeholder p ∉ literals u := by
  unfold literals
  split <;> simp

theorem literal_mem_literals {u v : Text} : literal v ∈ literals u ↔ v = u ∧ u ≠ [] := by
  unfold literals
  split <;> simp_all

theorem filterMap_literals (u : Text) : (literals u).filterMap placeholder? = [] := by
  unfold literals
  split <;> simp [placeholder?]

end Piece

/-- Placeholders with the stretches of the text between them, from a place on. -/
def interleaved (t : Text) : Nat → List Placeholder → List Piece
  | n, [] => Piece.literals (t.drop n)
  | n, p :: rest =>
    Piece.literals (t.slice n p.start.toNat) ++ .placeholder p :: interleaved t p.stop.toNat rest

namespace Cut

variable {t : Text} {n : Nat} {pieces : List Piece}

theorem flatMap_text (h : Cut t n pieces) : pieces.flatMap Piece.text = t.drop n := by
  induction h with
  | last => exact Piece.flatMap_text_literals _
  | @next n i j p pieces hn htoken _ _ ih =>
    have hij := Nat.le_of_lt htoken.1.lt
    rw [List.flatMap_append, List.flatMap_cons, Piece.flatMap_text_literals, ih, Piece.text,
      htoken.text_eq, Text.slice_append_drop t hij, Text.slice_append_drop t hn]

theorem eq_interleaved (h : Cut t n pieces) :
    pieces = interleaved t n (pieces.filterMap Piece.placeholder?) := by
  induction h with
  | last => rw [Piece.filterMap_literals, interleaved]
  | next hn htoken _ _ ih =>
    rw [List.filterMap_append, Piece.filterMap_literals, List.nil_append, List.filterMap_cons]
    simp only [Piece.placeholder?, interleaved, htoken.start_eq, htoken.stop_eq,
      Int.toNat_natCast]
    rw [← ih]

/-- **No token is missed and none invented.** -/
theorem mem_iff (h : Cut t n pieces) {p : Placeholder} :
    .placeholder p ∈ pieces ↔ ∃ i j, n ≤ i ∧ TokenAt t i j p := by
  induction h with
  | last hnone =>
    constructor
    · intro hp
      exact absurd hp (Piece.placeholder_notMem_literals p _)
    · rintro ⟨i, j, hi, htoken⟩
      exact absurd htoken (hnone i j p hi)
  | @next n i j q pieces hn htoken hfirst _ ih =>
    simp only [List.mem_append, List.mem_cons, Piece.placeholder_notMem_literals, false_or, ih,
      Piece.placeholder.injEq]
    constructor
    · rintro (rfl | ⟨i', j', hi', htoken'⟩)
      · exact ⟨i, j, hn, htoken⟩
      · exact ⟨i', j', Nat.le_trans hn (Nat.le_trans (Nat.le_of_lt htoken.1.lt) hi'), htoken'⟩
    · rintro ⟨i', j', hi', htoken'⟩
      rcases Nat.eq_or_lt_of_le (hfirst i' j' p hi' htoken') with rfl | hlt
      · obtain rfl := htoken.1.stop_unique htoken'.1
        exact .inl (Option.some.inj (htoken'.2.symm.trans htoken.2))
      · exact .inr ⟨i', j', htoken.1.le_of_lt htoken'.1 hlt, htoken'⟩

theorem pairwise (h : Cut t n pieces) :
    (pieces.filterMap Piece.placeholder?).Pairwise fun p q => p.stop ≤ q.start := by
  induction h with
  | last => simp [Piece.filterMap_literals]
  | @next n i j p pieces _ htoken _ hrest ih =>
    rw [List.filterMap_append, Piece.filterMap_literals, List.nil_append, List.filterMap_cons]
    refine List.pairwise_cons.2 ⟨fun q hq => ?_, ih⟩
    obtain ⟨piece, hpiece, hq⟩ := List.mem_filterMap.1 hq
    cases piece with
    | literal u => simp [Piece.placeholder?] at hq
    | placeholder q' =>
      obtain rfl : q' = q := by simpa [Piece.placeholder?] using hq
      obtain ⟨i', j', hi', htoken'⟩ := hrest.mem_iff.1 hpiece
      rw [htoken.stop_eq, htoken'.start_eq]
      omega

/-- A literal is a stretch of the text that is not empty and holds no token. -/
theorem literal_mem (h : Cut t n pieces) {u : Text} (hu : .literal u ∈ pieces) :
    u ≠ [] ∧ ∃ a b, b ≤ t.length ∧ u = t.slice a b ∧
      ∀ i j p, a ≤ i → j ≤ b → ¬ TokenAt t i j p := by
  induction h with
  | @last n hnone =>
    obtain ⟨rfl, hne⟩ := Piece.literal_mem_literals.1 hu
    exact ⟨hne, n, t.length, Nat.le_refl _, (Text.slice_length t n).symm,
      fun i j p hi _ => hnone i j p hi⟩
  | @next n i j p pieces hn htoken hfirst _ ih =>
    rcases List.mem_append.1 hu with hu | hu
    · obtain ⟨rfl, hne⟩ := Piece.literal_mem_literals.1 hu
      have hlen := htoken.1.le_length
      have hlt := htoken.1.lt
      refine ⟨hne, n, i, by omega, rfl, fun i' j' p' hi' hj' htoken' => ?_⟩
      have := hfirst i' j' p' hi' htoken'
      have := htoken'.1.lt
      omega
    · exact ih (by simpa using hu)

/-- A placeholder stands between any two literals. -/
theorem isChain (h : Cut t n pieces) :
    pieces.IsChain fun a b => ¬ (a.isLiteral = true ∧ b.isLiteral = true) := by
  induction h with
  | last =>
    unfold Piece.literals
    split <;> simp
  | @next n i j p pieces _ _ _ _ ih =>
    have hp : (Piece.placeholder p).isLiteral = false := rfl
    have htail : (Piece.placeholder p :: pieces).IsChain
        fun a b => ¬ (a.isLiteral = true ∧ b.isLiteral = true) := by
      cases pieces with
      | nil => exact List.isChain_singleton _
      | cons q rest => exact List.isChain_cons_cons.2 ⟨by simp [hp], ih⟩
    unfold Piece.literals
    split
    · exact htail
    · exact List.isChain_cons_cons.2 ⟨by simp [hp], htail⟩

end Cut

/-- A text without tokens is one literal. -/
theorem scan_eq_literals {t : Text} (h : ∀ i j p, ¬ TokenAt t i j p) :
    scan t = Piece.literals t := by
  have hcut := scan_cut t
  revert hcut
  generalize hpieces : scan t = pieces
  intro hcut
  cases hcut with
  | last => rfl
  | next _ htoken => exact absurd htoken (h _ _ _)

theorem text_subset_of_mem_scan {pattern : Text} {piece : Piece} (h : piece ∈ scan pattern) :
    piece.text ⊆ pattern := by
  intro c hmem
  have hwhole := (scan_cut pattern).flatMap_text
  rw [List.drop_zero] at hwhole
  rw [← hwhole]
  exact List.mem_flatMap.2 ⟨piece, h, hmem⟩

theorem mem_placeholders {t : Text} {p : Placeholder} :
    p ∈ placeholders t ↔ .placeholder p ∈ scan t := by
  simp only [placeholders, List.mem_filterMap]
  constructor
  · rintro ⟨piece, hpiece, hp⟩
    cases piece with
    | literal u => simp [Piece.placeholder?] at hp
    | placeholder q =>
      obtain rfl : q = p := by simpa [Piece.placeholder?] using hp
      exact hpiece
  · intro hp
    exact ⟨_, hp, rfl⟩

theorem mem_placeholders_iff_token {t : Text} {p : Placeholder} :
    p ∈ placeholders t ↔ ∃ i j, TokenAt t i j p := by
  rw [mem_placeholders, (scan_cut t).mem_iff]
  simp

/-- The placeholders of a template stand in the order of their places. -/
theorem placeholders_pairwise (t : Text) :
    (placeholders t).Pairwise fun p q => p.start < q.start := by
  refine (scan_cut t).pairwise.imp_of_mem fun {p q} hp _ hle => ?_
  obtain ⟨i, j, htoken⟩ := mem_placeholders_iff_token.1 hp
  have hlt := htoken.1.lt
  rw [htoken.stop_eq] at hle
  rw [htoken.start_eq]
  omega

/-- A literal of a scan is not empty, and is one literal again when it is scanned on its own. -/
theorem scan_literal {t u : Text} (hu : .literal u ∈ scan t) : u ≠ [] ∧ scan u = [.literal u] := by
  obtain ⟨hne, a, b, hb, rfl, hnone⟩ := (scan_cut t).literal_mem hu
  refine ⟨hne, ?_⟩
  rw [scan_eq_literals fun i j p htoken => ?_, Piece.literals, if_neg (by simpa using hne)]
  obtain ⟨htoken', hle⟩ := htoken.of_slice hb
  exact hnone _ _ _ (Nat.le_add_right a i) hle htoken'

/-- **A scan finds exactly the tokens and loses nothing.** The placeholders are those that innermost
pairs of braces make, in the order of their places; between them stand the stretches of the text that
are not empty. So the pieces give back the text, every placeholder stands where it says, and literal text
is cut as far as it can be. -/
theorem scan_spec (t : Text) :
    scan t = interleaved t 0 (placeholders t) ∧
    (∀ p, p ∈ placeholders t ↔
      ∃ i j, Innermost t i j ∧ Placeholder.parse? (t.slice i j) i = some p) ∧
    ((placeholders t).Pairwise fun p q => p.start < q.start) ∧
    (scan t).flatMap Piece.text = t ∧
    (∀ p ∈ placeholders t, 0 ≤ p.start ∧ t.slice p.start.toNat p.stop.toNat = p.text) ∧
    ((scan t).IsChain fun a b => ¬ (a.isLiteral = true ∧ b.isLiteral = true)) ∧
    ∀ u, .literal u ∈ scan t → u ≠ [] ∧ scan u = [.literal u] := by
  have hcut := scan_cut t
  refine ⟨hcut.eq_interleaved, fun p => mem_placeholders_iff_token, placeholders_pairwise t,
    hcut.flatMap_text, fun p hp => ?_, hcut.isChain, fun u hu => scan_literal hu⟩
  obtain ⟨i, j, htoken⟩ := mem_placeholders_iff_token.1 hp
  rw [htoken.start_eq, htoken.stop_eq, htoken.text_eq]
  exact ⟨Int.natCast_nonneg i, rfl⟩

/-- Only the innermost of two open braces starts a placeholder. -/
example : (scan "a\x7b\x7bPath:1\x7d\x7d".toList).map Piece.text =
    ["a\x7b".toList, "\x7bPath:1\x7d".toList, "\x7d".toList] := by
  decide +kernel

end PhotoPublish
