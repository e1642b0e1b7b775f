/-!
# Texts

A `Text` is a list of characters, so that every rule about names, paths and patterns is a recursion
on it. This module holds the cuts and joins that the other modules share: splitting at every
separator, cutting at the last one, joining, and the slice between two positions.
-/

set_option autoImplicit false

namespace PhotoPublish

/-- Text as the list of its characters. -/
abbrev Text := List Char

namespace Text

/-- The parts between separators: one more than there are separators. -/
def splitOn (separator : Char) : Text → List Text
  | [] => [[]]
  | c :: rest =>
    if c = separator then [] :: splitOn separator rest
    else match splitOn separator rest with
      | [] => [[c]]
      | part :: parts => (c :: part) :: parts

/-- What stands before and after the last separator. -/
def cutLast? (separator : Char) : Text → Option (Text × Text)
  | [] => none
  | c :: rest =>
    match cutLast? separator rest with
    | some (before, after) => some (c :: before, after)
    | none => if c = separator then some ([], rest) else none

/-- What stands after the last separator; the whole text if there is none. -/
def afterLast (separator : Char) (text : Text) : Text :=
  match cutLast? separator text with
  | some (_, after) => after
  | none => text

/-- The parts with a separator between neighbours. -/
def join (separator : Text) (parts : List Text) : Text :=
  separator.intercalate parts

/-- The characters between two positions. -/
def slice (text : Text) (first last : Nat) : Text :=
  (text.drop first).take (last - first)

theorem splitOn_ne_nil (separator : Char) (text : Text) : splitOn separator text ≠ [] := by
  cases text with
  | nil => simp [splitOn]
  | cons c rest =>
    simp only [splitOn]
    split
    · simp
    · split <;> simp

/-- A cut gives back the text with the separator between its parts. -/
theorem eq_of_cutLast? {separator : Char} {text before after : Text}
    (h : cutLast? separator text = some (before, after)) :
    text = before ++ separator :: after := by
  induction text generalizing before with
  | nil => simp [cutLast?] at h
  | cons c rest ih =>
    simp only [cutLast?] at h
    split at h
    · rename_i b a hrest
      obtain ⟨rfl, rfl⟩ : c :: b = before ∧ a = after := by simpa using h
      simp [ih hrest]
    · split at h
      · rename_i hc
        obtain ⟨rfl, rfl⟩ : [] = before ∧ rest = after := by simpa using h
        simp [hc]
      · simp at h

/-- The part after the last separator holds none. -/
theorem not_mem_after_of_cutLast? {separator : Char} {text before after : Text}
    (h : cutLast? separator text = some (before, after)) : separator ∉ after := by
  induction text generalizing before with
  | nil => simp [cutLast?] at h
  | cons c rest ih =>
    simp only [cutLast?] at h
    split at h
    · rename_i b a hrest
      obtain ⟨-, rfl⟩ : c :: b = before ∧ a = after := by simpa using h
      exact ih hrest
    · rename_i hnone
      split at h
      · obtain ⟨-, rfl⟩ : [] = before ∧ rest = after := by simpa using h
        clear ih h
        induction rest with
        | nil => simp
        | cons d rest ih =>
          simp only [cutLast?] at hnone
          split at hnone
          · simp at hnone
          · rename_i hrest
            split at hnone
            · simp at hnone
            · rename_i hd
              simp only [List.mem_cons, not_or]
              exact ⟨fun h => hd h.symm, ih hrest⟩
      · simp at h

/-! ## Slices -/

theorem length_slice {text : Text} {first last : Nat} (h : last ≤ text.length) :
    (text.slice first last).length = last - first := by
  simp only [slice, List.length_take, List.length_drop]
  omega

theorem slice_self (text : Text) (i : Nat) : text.slice i i = [] := by
  simp [slice]

/-- The slice up to the end is what is left of the text. -/
theorem slice_length (text : Text) (first : Nat) :
    text.slice first text.length = text.drop first :=
  List.take_of_length_le (by simp)

/-- Neighbouring slices make one. -/
theorem slice_append_slice (text : Text) {i j k : Nat} (hij : i ≤ j) (hjk : j ≤ k) :
    text.slice i j ++ text.slice j k = text.slice i k := by
  simp only [slice]
  rw [show k - i = (j - i) + (k - j) by omega, List.take_add, List.drop_drop,
    Nat.add_sub_cancel' hij]

/-- A slice and the rest of the text after it. -/
theorem slice_append_drop (text : Text) {i j : Nat} (hij : i ≤ j) :
    text.slice i j ++ text.drop j = text.drop i := by
  have h := List.take_append_drop (j - i) (text.drop i)
  rwa [List.drop_drop, Nat.add_sub_cancel' hij] at h

/-- A slice with the character after it. -/
theorem slice_concat {text : Text} {i j : Nat} {c : Char} (hij : i ≤ j) (hc : text[j]? = some c) :
    text.slice i j ++ [c] = text.slice i (j + 1) := by
  rw [← slice_append_slice text hij (Nat.le_add_right j 1)]
  simp only [slice, Nat.add_sub_cancel_left, List.take_add_one, List.getElem?_drop]
  simp [hc]

theorem getElem?_slice {text : Text} {first last k : Nat} (hk : k < last - first) :
    (text.slice first last)[k]? = text[first + k]? := by
  simp only [slice, List.getElem?_take_of_lt hk, List.getElem?_drop]

/-- A slice of a slice is a slice of the text. -/
theorem slice_slice (text : Text) {i j a b : Nat} (hb : i + b ≤ j) :
    (text.slice i j).slice a b = text.slice (i + a) (i + b) := by
  simp only [slice, List.drop_take, List.take_take, List.drop_drop]
  congr 1
  omega

end Text

end PhotoPublish
