import Mathlib.Data.List.TakeWhile
import PhotoPublish.Proofs.Calendar.Display
import PhotoPublish.Proofs.Calendar.Separators
import PhotoPublish.Proofs.Path.Extension
import PhotoPublish.Proofs.Path.Segments

/-!
# Formats with slashes for backslashes

No directive has a separator for its conversion, so that a separator in a format stands for itself, be it
behind a percent sign or not. A format with slashes for its backslashes writes the same but for these
(`DateFormat.slashed_format`), at the same length.
-/

set_option autoImplicit false

namespace PhotoPublish

open PhotoPublish.Path (slashed)

namespace Path

/-- A slash for a backslash. -/
def slash (c : Char) : Char :=
  if c = '\\' then '/' else c

theorem slashed_eq_map (x : Text) : slashed x = x.map slash := rfl

theorem slashed_cons (c : Char) (x : Text) : slashed (c :: x) = slash c :: slashed x := rfl

theorem slash_of_ne {c : Char} (h : c ≠ '\\') : slash c = c :=
  if_neg h

theorem length_slashed (x : Text) : (slashed x).length = x.length :=
  List.length_map _

section Skipping

variable {f : Char → Bool} (hf : f '/' = f '\\')
include hf

theorem apply_slash (c : Char) : f (slash c) = f c := by
  unfold slash
  split
  · rename_i hc
    rw [hc, hf]
  · rfl

theorem takeWhile_slashed (x : Text) : (slashed x).takeWhile f = slashed (x.takeWhile f) := by
  have hcomp : f ∘ slash = f := funext (apply_slash hf)
  have hmap := @List.takeWhile_map _ _ slash f x
  rwa [hcomp] at hmap

theorem dropWhile_slashed (x : Text) : (slashed x).dropWhile f = slashed (x.dropWhile f) := by
  have hcomp : f ∘ slash = f := funext (apply_slash hf)
  have hmap := @List.dropWhile_map _ _ slash f x
  rwa [hcomp] at hmap

end Skipping

end Path

namespace DateFormat

variable {d : Directive} {room : Nat} {instant : Int} {time : LocalTime}

/-! ## Cutting -/

theorem backslash_notMem_takeWhile {f : Char → Bool} (hf : f '\\' = false) (text : Text) :
    '\\' ∉ text.takeWhile f :=
  fun hmem => Bool.eq_false_iff.1 hf (List.mem_takeWhile_imp hmem)

theorem takeWhile_slashed_of_not {f : Char → Bool} (hslash : f '/' = f '\\') (hf : f '\\' = false)
    (text : Text) : (slashed text).takeWhile f = text.takeWhile f := by
  rw [Path.takeWhile_slashed hslash, Path.slashed_of_notMem (backslash_notMem_takeWhile hf text)]

/-- The digits of a width, behind the flags. -/
def widthDigits (rest : Text) : Text :=
  (rest.dropWhile isFlag).takeWhile Char.isDigit

/-- What follows the width. -/
def behindWidth (rest : Text) : Text :=
  (rest.dropWhile isFlag).dropWhile Char.isDigit

/-- The modifier at the start of a text. -/
def modifier? (text : Text) : Option Char :=
  match text with
  | 'E' :: _ => some 'E'
  | 'O' :: _ => some 'O'
  | _ => none

/-- The text of a directive in front of its conversion. -/
def directiveStart (rest : Text) : Text :=
  '%' :: rest.takeWhile isFlag ++ widthDigits rest ++ (modifier? (behindWidth rest)).toList

/-- The conversion of a directive. -/
def conversion? (rest : Text) : Option Char :=
  ((behindWidth rest).drop (modifier? (behindWidth rest)).toList.length).head?

theorem readDirective_eq (rest : Text) : readDirective rest =
    { pad := (rest.takeWhile isFlag).reverse.find? fun c => c == '_' || c == '-' || c == '0'
      upper := (rest.takeWhile isFlag).contains '^'
      changeCase := (rest.takeWhile isFlag).contains '#'
      width := if (widthDigits rest).isEmpty then none
        else some ((widthDigits rest).foldl (fun n c => 10 * n + (c.toNat - 48)) 0)
      modifier := modifier? (behindWidth rest)
      conversion := conversion? rest
      source := directiveStart rest ++ (conversion? rest).toList } := rfl

section Slashed

variable (rest : Text)

theorem flags_slashed : (slashed rest).takeWhile isFlag = rest.takeWhile isFlag :=
  takeWhile_slashed_of_not rfl rfl rest

theorem widthDigits_slashed : widthDigits (slashed rest) = widthDigits rest := by
  rw [widthDigits, Path.dropWhile_slashed rfl, takeWhile_slashed_of_not rfl rfl]
  rfl

theorem behindWidth_slashed : behindWidth (slashed rest) = slashed (behindWidth rest) := by
  rw [behindWidth, Path.dropWhile_slashed rfl, Path.dropWhile_slashed rfl]
  rfl

theorem modifier?_slashed : modifier? (slashed rest) = modifier? rest := by
  cases rest with
  | nil => rfl
  | cons c rest =>
    rw [Path.slashed_cons]
    by_cases hc : c = '\\'
    · subst hc
      rfl
    · rw [Path.slash_of_ne hc]
      unfold modifier?
      split <;> simp_all

theorem directiveStart_slashed : directiveStart (slashed rest) = directiveStart rest := by
  rw [directiveStart, flags_slashed, widthDigits_slashed, behindWidth_slashed, modifier?_slashed]
  rfl

theorem conversion?_slashed : conversion? (slashed rest) = (conversion? rest).map Path.slash := by
  rw [conversion?, behindWidth_slashed, modifier?_slashed, Path.slashed_eq_map, ← List.map_drop,
    List.head?_map]
  rfl

/-- Only the conversion can be another character. -/
theorem readDirective_slashed : readDirective (slashed rest) =
    { readDirective rest with
      conversion := (conversion? rest).map Path.slash
      source := directiveStart rest ++ ((conversion? rest).map Path.slash).toList } := by
  rw [readDirective_eq, readDirective_eq, flags_slashed, widthDigits_slashed, behindWidth_slashed,
    modifier?_slashed, directiveStart_slashed, conversion?_slashed]

theorem length_source_slashed :
    (readDirective (slashed rest)).source.length = (readDirective rest).source.length := by
  rw [readDirective_slashed, readDirective_eq]
  cases conversion? rest <;> simp

end Slashed

/-! ## Writing -/

namespace Directive

/-- A directive with a separator for its conversion stands for its own text. -/
theorem write_of_isSeparator {c : Char} (hc : isSeparator c = true) (h : d.conversion = some c) :
    d.write room instant time = d.fill room (d.inCase d.source) := by
  have htext : d.asText room = d.fill room (d.inCase d.source) := by
    rcases Path.eq_of_isSeparator hc with rfl | rfl <;> simp [asText, h]
  have hnone : d.conversion.bind expansion? = none := by
    rw [h]
    rcases Path.eq_of_isSeparator hc with rfl | rfl <;> rfl
  have hpart : d.writePart room instant time = d.asText room := by
    unfold writePart
    rw [h]
    rcases Path.eq_of_isSeparator hc with rfl | rfl <;> exact ite_self _
  rw [write_eq, hnone, ← htext]
  exact hpart

theorem inCase_concat {c : Char} (hc : isSeparator c = true) (start : Text) :
    d.inCase (start ++ [c]) = d.inCase start ++ [c] := by
  unfold inCase upperText
  split
  · rw [List.map_append]
    rcases Path.eq_of_isSeparator hc with rfl | rfl <;> rfl
  · rfl

/-- Filling up and changing the case do not touch a separator at the end. -/
theorem slashed_fill_inCase (start : Text) :
    slashed (d.fill room (d.inCase (start ++ ['/']))) =
      slashed (d.fill room (d.inCase (start ++ ['\\']))) := by
  rw [inCase_concat rfl, inCase_concat rfl]
  simp only [fill, Numeral.padLeft, List.length_append, List.length_cons, List.length_nil,
    Path.slashed_append]
  rfl

end Directive

theorem slashed_write_readDirective (rest : Text) :
    slashed ((readDirective (slashed rest)).write room instant time) =
      slashed ((readDirective rest).write room instant time) := by
  rw [readDirective_slashed]
  by_cases hback : conversion? rest = some '\\'
  · have hsource : (readDirective rest).source = directiveStart rest ++ ['\\'] := by
      rw [readDirective_eq, hback]
      rfl
    rw [hback, @Directive.write_of_isSeparator (readDirective rest) _ _ _ '\\' rfl hback,
      @Directive.write_of_isSeparator _ _ _ _ '/' rfl rfl, hsource]
    exact Directive.slashed_fill_inCase (directiveStart rest)
  · have hsame : (conversion? rest).map Path.slash = conversion? rest := by
      cases hconversion : conversion? rest with
      | none => rfl
      | some c =>
        rw [hconversion] at hback
        exact congrArg some (Path.slash_of_ne fun hc => hback (congrArg some hc))
    rw [hsame, readDirective_eq]

theorem slashed_flatMap_write (skip : Nat) (shape : Text) :
    slashed ((piecesFrom skip (slashed shape)).flatMap (Piece.write room instant time)) =
      slashed ((piecesFrom skip shape).flatMap (Piece.write room instant time)) := by
  fun_induction piecesFrom skip shape with
  | case1 => rfl
  | case2 skip c rest ih => exact ih
  | case3 rest d ih =>
    -- The two directives are of one length, so that both formats go on at the same place.
    have hpercent : slashed ('%' :: rest) = '%' :: slashed rest := rfl
    rw [hpercent, piecesFrom, if_pos rfl, List.flatMap_cons, List.flatMap_cons, Path.slashed_append,
      Path.slashed_append, length_source_slashed, ih]
    exact congrArg (· ++ _) (slashed_write_readDirective rest)
  | case4 c rest hc ih =>
    have hne : Path.slash c ≠ '%' := by
      unfold Path.slash
      split
      · decide
      · exact hc
    rw [Path.slashed_cons, piecesFrom, if_neg hne, List.flatMap_cons, List.flatMap_cons,
      Path.slashed_append, Path.slashed_append, ih]
    exact congrArg (· ++ _) (Path.slashed_slashed [c])

/-- **A format with slashes for its backslashes writes the same but for these.** -/
theorem slashed_format (shape : Text) :
    slashed (format (slashed shape) instant time) = slashed (format shape instant time) := by
  have hroom : room (slashed shape) = room shape := by
    unfold room
    rw [Path.length_slashed]
  have htext := @slashed_flatMap_write (room shape) instant time 0 shape
  have hlength := congrArg List.length htext
  rw [Path.length_slashed, Path.length_slashed] at hlength
  rw [format_eq, format_eq, hroom, pieces, pieces]
  dsimp only
  rw [hlength]
  split
  · exact htext
  · rfl

end DateFormat

/-! ## Dates -/

theorem Text.trim_slashed (text : Text) : Text.trim (slashed text) = slashed (Text.trim text) := by
  have hblank : isBlank '/' = isBlank '\\' := by decide
  unfold Text.trim Text.trimRight Text.trimLeft
  rw [Path.dropWhile_slashed hblank, Path.slashed_eq_map, ← List.map_reverse, ← Path.slashed_eq_map,
    Path.dropWhile_slashed hblank, Path.slashed_eq_map, ← List.map_reverse]
  rfl

/-- **A date by a format with slashes for its backslashes is the same but for these.** -/
theorem Timestamp.format_slashed (zone : Zone) (instant : Value) (shape : Text) :
    (format zone instant (slashed shape)).map slashed = (format zone instant shape).map slashed := by
  have hnul : (slashed shape).contains '\x00' = shape.contains '\x00' := by
    have hnone : (('\x00' == ·) ∘ Path.slash) = ('\x00' == ·) := funext (Path.apply_slash rfl)
    rw [List.contains_eq_any_beq, List.contains_eq_any_beq, Path.slashed_eq_map, List.any_map, hnone]
  rw [format_eq, format_eq, hnul]
  cases clocked zone instant with
  | error failure => rfl
  | ok found =>
    simp only [bind, Except.bind]
    split
    · rfl
    · exact congrArg Except.ok (DateFormat.slashed_format shape)

end PhotoPublish
