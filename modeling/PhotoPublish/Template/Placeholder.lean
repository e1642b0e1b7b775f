import PhotoPublish.Text.Alphanumeric
import PhotoPublish.Text.Blank
import PhotoPublish.Text.Quoted
import PhotoPublish.Number.Numeral

/-!
# Placeholders

A placeholder is a text such as `{Date %Y|unknown}`: between braces a category, the arguments, and after
the last bar perhaps a default. `Placeholder.parse?` reads one. `scan` cuts a template into placeholders
and the literal texts between them. Only an innermost pair of braces makes a placeholder; braces that do
not are literal text.
-/

set_option autoImplicit false

namespace PhotoPublish

/-- What a placeholder stands for. -/
inductive Category where
  /-- The capture date, formatted. -/
  | date
  /-- A formatted metadata value. -/
  | formatted
  /-- A directory of the photo's path. -/
  | path
  /-- A collection that holds the photo. -/
  | collection
deriving DecidableEq, Repr

namespace Category

/-- The categories in the order in which they are listed. -/
def all : List Category :=
  [date, formatted, path, collection]

/-- The word for a category. -/
def name : Category → Text
  | date => "Date".toList
  | formatted => "LrFM".toList
  | path => "Path".toList
  | collection => "LrCC".toList

/-- The category of a word. -/
def ofName? (name : Text) : Option Category :=
  all.find? (·.name = name)

theorem ofName?_name (category : Category) : ofName? category.name = some category := by
  cases category <;> decide

/-- The arguments behind a category. A colon stands in front of them; in front of the format of a date
there are blanks instead, and there may be neither blanks nor format. -/
def arguments? (category : Category) (rest : Text) : Option Text :=
  match category, rest with
  | date, [] => some []
  | date, c :: _ => if isBlank c || c == '|' then some rest.trimLeft else none
  | _, ':' :: args => some args
  | _, _ => none

end Category

/-- A placeholder with its text and the place in the template where it starts. -/
structure Placeholder where
  category : Category
  args : Text
  default : Option Text
  text : Text
  start : Int
deriving DecidableEq, Repr

namespace Placeholder

/-- The place in the template after it. -/
def stop (p : Placeholder) : Int :=
  p.start + p.text.length

/-- What stands for it if there is no value. -/
def fallback (p : Placeholder) : Text :=
  p.default.getD []

/-- Arguments and default, which follows the last bar. -/
def cutDefault (rest : Text) : Text × Option Text :=
  match Text.cutLast? '|' rest with
  | some (args, default) => (args, some default)
  | none => (rest, none)

/-- The text between the braces. -/
def body? (text : Text) : Option Text :=
  match text with
  | '\x7b' :: rest => if rest.getLast? = some '\x7d' then some rest.dropLast else none
  | _ => none

/-- The placeholder that a text is, if it is one. -/
def parse? (text : Text) (start : Int := 0) : Option Placeholder := do
  let body ← body? text
  let category ← Category.ofName? (body.takeWhile isWord)
  let rest ← category.arguments? (body.dropWhile isWord)
  let (args, default) := cutDefault rest
  return { category, args, default, text, start }

/-- The text that shows a placeholder with its parts. -/
def shown (p : Placeholder) : Text :=
  let default := match p.default with
    | some text => text.quoted
    | none => "None".toList
  "Placeholder(".toList ++ Text.join ", ".toList
    [p.category.name.quoted, p.args.quoted, default, p.text.quoted,
      "start=".toList ++ Numeral.ofInt p.start] ++ [')']

end Placeholder

/-- A part of a template. -/
inductive Piece where
  | literal (text : Text)
  | placeholder (p : Placeholder)
deriving DecidableEq, Repr

namespace Piece

/-- A literal text, unless it is empty. -/
def literals (text : Text) : List Piece :=
  if text.isEmpty then [] else [literal text]

/-- The placeholder of a piece. -/
def placeholder? : Piece → Option Placeholder
  | literal _ => none
  | placeholder p => some p

/-- The text of a piece in the template. -/
def text : Piece → Text
  | literal text => text
  | placeholder p => p.text

end Piece

/-- The pieces of the rest of a template. `position` is the place of the rest, `literal` the text since
the last placeholder, and `opened` the text since the last open brace, if no brace has closed it. -/
def scanFrom (position : Nat) (literal : Text) (opened : Option Text) : Text → List Piece
  | [] => Piece.literals (literal ++ opened.getD [])
  | c :: rest =>
    if c = '\x7b' then
      scanFrom (position + 1) (literal ++ opened.getD []) (some [c]) rest
    else
      match opened with
      | none => scanFrom (position + 1) (literal ++ [c]) none rest
      | some token =>
        if c = '\x7d' then
          match Placeholder.parse? (token ++ [c]) (position - token.length : Nat) with
          | some p => Piece.literals literal ++ .placeholder p :: scanFrom (position + 1) [] none rest
          | none => scanFrom (position + 1) (literal ++ token ++ [c]) none rest
        else scanFrom (position + 1) literal (some (token ++ [c])) rest

/-- The pieces of a template. -/
def scan (template : Text) : List Piece :=
  scanFrom 0 [] none template

/-- The placeholders of a template. -/
def placeholders (template : Text) : List Placeholder :=
  (scan template).filterMap Piece.placeholder?

/-- The categories of the placeholders of a template. -/
def categories (template : Text) : List Category :=
  let found := (placeholders template).map (·.category)
  Category.all.filter found.contains

end PhotoPublish
