import PhotoPublish.Template.Placeholder

/-!
# Innermost braces

`Innermost t i j`: a brace opens at place `i` of the text `t`, one closes right before place `j`, and
none stands between them. `TokenAt t i j p`: such a pair of braces makes the placeholder `p`. Both say
nothing of how a template is scanned; what is scanned is compared with them.

* Innermost pairs are disjoint (`Innermost.le_of_lt`) and have one end each (`Innermost.stop_unique`).
* A token of a slice is a token of the text around it (`TokenAt.of_slice`).
-/

set_option autoImplicit false

namespace PhotoPublish

namespace Placeholder

/-! ## Reading a placeholder -/

theorem text_of_parse? {text : Text} {start : Int} {p : Placeholder}
    (h : parse? text start = some p) : p.text = text ∧ p.start = start := by
  simp only [parse?, Option.bind_eq_bind, Option.bind_eq_some_iff, Option.pure_def,
    Option.some.injEq] at h
  obtain ⟨body, -, category, -, rest, -, rfl⟩ := h
  exact ⟨rfl, rfl⟩

theorem body?_braced (body : Text) : body? ('\x7b' :: (body ++ ['\x7d'])) = some body := by
  have hlast : (body ++ ['\x7d']).getLast? = some '\x7d' := List.getLast?_concat
  rw [body?, if_pos hlast, List.dropLast_concat]

theorem body?_subset {text body : Text} (h : body? text = some body) : body ⊆ text := by
  unfold body? at h
  split at h
  · rename_i rest
    split at h
    · rw [← Option.some.inj h]
      exact List.subset_cons_of_subset _ (List.dropLast_subset rest)
    · cases h
  · cases h

theorem arguments?_subset {category : Category} {rest args : Text}
    (h : category.arguments? rest = some args) : args ⊆ rest := by
  unfold Category.arguments? at h
  split at h
  · rw [← Option.some.inj h]
    exact List.nil_subset _
  · split at h
    · rw [← Option.some.inj h]
      exact (List.dropWhile_suffix _).subset
    · cases h
  · rw [← Option.some.inj h]
    exact List.subset_cons_self _ _
  · cases h

theorem cutDefault_subset (rest : Text) :
    (cutDefault rest).1 ⊆ rest ∧ (cutDefault rest).2.getD [] ⊆ rest := by
  unfold cutDefault
  cases hcut : Text.cutLast? '|' rest with
  | none => exact ⟨List.Subset.refl rest, List.nil_subset rest⟩
  | some parts =>
    rw [Text.eq_of_cutLast? hcut]
    exact ⟨List.subset_append_left _ _,
      List.subset_append_of_subset_right _ (List.subset_cons_self _ _)⟩

/-- Arguments and default are parts of the text. -/
theorem parts_subset_of_parse? {text : Text} {start : Int} {p : Placeholder}
    (h : parse? text start = some p) :
    p.args ⊆ text ∧ p.fallback ⊆ text := by
  simp only [parse?, Option.bind_eq_bind, Option.bind_eq_some_iff, Option.pure_def,
    Option.some.injEq] at h
  obtain ⟨body, hbody, category, -, rest, hrest, rfl⟩ := h
  have hsub : rest ⊆ text := List.Subset.trans (arguments?_subset hrest)
    (List.Subset.trans (List.dropWhile_suffix _).subset (body?_subset hbody))
  obtain ⟨hargs, hdefault⟩ := cutDefault_subset rest
  exact ⟨List.Subset.trans hargs hsub, List.Subset.trans hdefault hsub⟩

/-- The place of a placeholder says nothing else about it. -/
theorem parse?_start (text : Text) (start other : Int) :
    parse? text other = (parse? text start).map ({ · with start := other }) := by
  simp only [parse?, Option.bind_eq_bind, Option.pure_def, Option.map_bind, Function.comp_def,
    Option.map_some]

end Placeholder

/-! ## Pairs of braces -/

/-- An innermost pair of braces (module doc). -/
structure Innermost (t : Text) (i j : Nat) : Prop where
  lt : i < j
  opens : t[i]? = some '\x7b'
  closes : t[j - 1]? = some '\x7d'
  between : ∀ k, i < k → k < j - 1 → t[k]? ≠ some '\x7b' ∧ t[k]? ≠ some '\x7d'

namespace Innermost

variable {t : Text} {i j i' j' : Nat}

theorem succ_lt (h : Innermost t i j) : i + 1 < j := by
  rcases Nat.lt_or_ge (i + 1) j with hlt | hge
  · exact hlt
  · have hij : j - 1 = i := by have := h.lt; omega
    have hc := h.closes
    rw [hij, h.opens] at hc
    simp at hc

theorem le_length (h : Innermost t i j) : j ≤ t.length := by
  have hj := (List.getElem?_eq_some_iff.1 h.closes).1
  omega

/-- No brace opens inside a pair. -/
theorem not_opens (h : Innermost t i j) {k : Nat} (hik : i < k) (hkj : k < j) :
    t[k]? ≠ some '\x7b' := by
  intro hk
  rcases Nat.lt_or_ge k (j - 1) with hlt | hge
  · exact (h.between k hik hlt).1 hk
  · have hkj' : k = j - 1 := by omega
    have hc := h.closes
    rw [← hkj', hk] at hc
    simp at hc

/-- No brace closes inside a pair, its last character apart. -/
theorem not_closes (h : Innermost t i j) {k : Nat} (hik : i ≤ k) (hkj : k < j - 1) :
    t[k]? ≠ some '\x7d' := by
  intro hk
  rcases Nat.eq_or_lt_of_le hik with rfl | hlt
  · rw [h.opens] at hk
    simp at hk
  · exact (h.between k hlt hkj).2 hk

/-- Of two pairs the one that opens later opens after the other one has closed. -/
theorem le_of_lt (h : Innermost t i j) (h' : Innermost t i' j') (hlt : i < i') : j ≤ i' := by
  rcases Nat.lt_or_ge i' j with hin | hout
  · exact absurd h'.opens (h.not_opens hlt hin)
  · exact hout

theorem stop_le (h : Innermost t i j) (h' : Innermost t i j') : j ≤ j' := by
  rcases Nat.lt_or_ge (j' - 1) (j - 1) with hlt | hge
  · exact absurd h'.closes (h.not_closes (by have := h'.lt; omega) hlt)
  · have := h.lt
    have := h'.lt
    omega

/-- A brace is closed once. -/
theorem stop_unique (h : Innermost t i j) (h' : Innermost t i j') : j = j' :=
  Nat.le_antisymm (h.stop_le h') (h'.stop_le h)

/-- An innermost pair of a slice is one of the text. -/
theorem of_slice {a b : Nat} (hb : b ≤ t.length) (h : Innermost (t.slice a b) i j) :
    Innermost t (a + i) (a + j) ∧ a + j ≤ b := by
  have hlt := h.lt
  have hlen : j ≤ b - a := by
    have := h.le_length
    rwa [Text.length_slice hb] at this
  have hget : ∀ k, k < j → (t.slice a b)[k]? = t[a + k]? := fun k hk =>
    Text.getElem?_slice (by omega)
  refine ⟨⟨by omega, ?_, ?_, fun k hik hkj => ?_⟩, by omega⟩
  · rw [← hget i hlt]
    exact h.opens
  · rw [show a + j - 1 = a + (j - 1) by omega, ← hget (j - 1) (by omega)]
    exact h.closes
  · have hk := h.between (k - a) (by omega) (by omega)
    rwa [hget (k - a) (by omega), Nat.add_sub_cancel' (by omega)] at hk

end Innermost

/-! ## Tokens -/

/-- An innermost pair of braces makes a placeholder (module doc). -/
def TokenAt (t : Text) (i j : Nat) (p : Placeholder) : Prop :=
  Innermost t i j ∧ Placeholder.parse? (t.slice i j) i = some p

namespace TokenAt

variable {t : Text} {i j : Nat} {p : Placeholder}

theorem text_eq (h : TokenAt t i j p) : p.text = t.slice i j :=
  (Placeholder.text_of_parse? h.2).1

theorem start_eq (h : TokenAt t i j p) : p.start = i :=
  (Placeholder.text_of_parse? h.2).2

theorem stop_eq (h : TokenAt t i j p) : p.stop = j := by
  have hlt := h.1.lt
  rw [Placeholder.stop, h.start_eq, h.text_eq, Text.length_slice h.1.le_length]
  omega

/-- A token of a slice is one of the text, only its place is another. -/
theorem of_slice {a b : Nat} (hb : b ≤ t.length) (h : TokenAt (t.slice a b) i j p) :
    TokenAt t (a + i) (a + j) { p with start := (a + i : Nat) } ∧ a + j ≤ b := by
  obtain ⟨hpair, hle⟩ := h.1.of_slice hb
  refine ⟨⟨hpair, ?_⟩, hle⟩
  have hp := h.2
  rw [Text.slice_slice t hle] at hp
  rw [Placeholder.parse?_start _ i, hp]
  rfl

end TokenAt

end PhotoPublish
