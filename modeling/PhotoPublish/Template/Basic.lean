import PhotoPublish.Template.Substitution

/-!
# Templates

A `Template` is a pattern with placeholders for an album path or a file name. `Template.evaluate` puts
values for the placeholders and brings the result into the normal form of paths. The pattern of a file
name must not hold separators; if it does, its value is `missing`.
-/

set_option autoImplicit false

namespace PhotoPublish

/-- What a template makes. -/
inductive TemplateKind where
  | path
  | filename
deriving DecidableEq, Repr

namespace TemplateKind

/-- The kind of a word. -/
def ofName? (name : Text) : Option TemplateKind :=
  if name = "path".toList then some path
  else if name = "filename".toList then some filename
  else none

end TemplateKind

/-- A pattern with placeholders; there may be none. -/
structure Template where
  kind : TemplateKind
  pattern : Option Text
deriving DecidableEq, Repr

namespace Template

/-- The value of a file name whose pattern makes none. -/
def missing : Text := ['?']

/-- Whether the pattern may hold placeholders: it has an open brace. -/
def isDynamic (template : Template) : Bool :=
  (template.pattern.getD []).contains '\x7b'

/-- The categories of its placeholders. -/
def categories (template : Template) : List Category :=
  PhotoPublish.categories (template.pattern.getD [])

/-- The pattern as text. -/
def text (template : Template) : Text :=
  template.pattern.getD []

/-- The text that shows a template. -/
def shown (template : Template) : Text :=
  let name := match template.kind with
    | .path => "Template"
    | .filename => "NameTemplate"
  let pattern := match template.pattern with
    | some pattern => pattern.quoted
    | none => "None".toList
  Value.quotedCall name [pattern]

variable [Pattern.CharacterNames]

/-- The text that stands for a piece. -/
def pieceValue (surroundings : Surroundings) (photo : Photo) : Piece → Evaluate Text
  | .literal text => return text
  | .placeholder p => p.value surroundings photo

/-- The texts that stand for pieces, one after the other. -/
def valueOfPieces (surroundings : Surroundings) (photo : Photo) : List Piece → Evaluate Text
  | [] => return []
  | piece :: rest => do
    let text ← pieceValue surroundings photo piece
    return text ++ (← valueOfPieces surroundings photo rest)

/-- The value of a pattern, in a new evaluation. -/
def evaluatePattern (surroundings : Surroundings) (photo : Photo) (pattern : Text) : Fetch Text :=
  ExceptT.mk fun visit =>
    let (result, state) :=
      (valueOfPieces surroundings photo (scan pattern)).run.run { visit := visit }
    (result.map normalizePath, state.visit)

/-- Whether the pattern of a file name holds separators. -/
def hasSeparators (template : Template) : Bool :=
  template.kind = .filename && template.text.any isSeparator

/-- The value of a template for a photo; a template without a pattern has none. -/
def evaluate (template : Template) (surroundings : Surroundings) (photo : Photo) :
    Fetch (Option Text) := do
  if template.hasSeparators then return some missing
  match template.pattern with
  | none => return none
  | some pattern =>
    if template.isDynamic then some <$> evaluatePattern surroundings photo pattern
    else return some (normalizePath pattern)

end Template

end PhotoPublish
