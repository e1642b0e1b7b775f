import PhotoPublish.Pattern.Match

/-!
# Tags

A `Tag` says what type of value a node denotes. A plain scalar without a tag gets one from its text
(`Tag.ofPlain`): `true` and `off` are truth values, `0x1F`, `017` and `1:30` whole numbers, `1.0e+3`
and `.inf` reals, `2020-06-15` a date.
-/

set_option autoImplicit false

namespace PhotoPublish.Yaml

/-- The type of value that a node denotes. -/
inductive Tag where
  | null
  | bool
  | whole
  | real
  | timestamp
  | binary
  | text
  | sequence
  | mapping
  | set
  | orderedMap
  | pairs
  /-- The key whose mappings are merged into the one that holds it. -/
  | merge
  /-- The key of the value that a mapping has as a scalar. -/
  | default
  /-- A type without values. -/
  | other
deriving DecidableEq, Repr

namespace Tag

/-- What the full names of the standard tags begin with. -/
def stem : Text :=
  "tag:yaml.org,2002:".toList

/-- The standard tags by the rest of their names. -/
def standard : List (Text × Tag) :=
  [("null".toList, null), ("bool".toList, bool), ("int".toList, whole), ("float".toList, real),
    ("timestamp".toList, timestamp), ("binary".toList, binary), ("str".toList, text),
    ("seq".toList, sequence), ("map".toList, mapping), ("set".toList, set),
    ("omap".toList, orderedMap), ("pairs".toList, pairs), ("merge".toList, merge),
    ("value".toList, default)]

/-- The tag of a full name. -/
def ofName (name : Text) : Tag :=
  if stem.isPrefixOf name then (standard.lookup (name.drop stem.length)).getD other else other

/-- The forms of truth values. -/
def boolForm : String :=
  "^(?:yes|Yes|YES|no|No|NO|true|True|TRUE|false|False|FALSE|on|On|ON|off|Off|OFF)$"

/-- The forms of reals: with a point, in base sixty, or not finite. -/
def realForm : String :=
  "^(?:[-+]?[0-9][0-9_]*\\.[0-9_]*(?:[eE][-+][0-9]+)?|\\.[0-9][0-9_]*(?:[eE][-+][0-9]+)?" ++
    "|[-+]?[0-9][0-9_]*(?::[0-5]?[0-9])+\\.[0-9_]*|[-+]?\\.(?:inf|Inf|INF)|\\.(?:nan|NaN|NAN))$"

/-- The forms of whole numbers: in base two, eight, ten, sixteen or sixty. -/
def wholeForm : String :=
  "^(?:[-+]?0b[0-1_]+|[-+]?0[0-7_]+|[-+]?(?:0|[1-9][0-9_]*)|[-+]?0x[0-9a-fA-F_]+" ++
    "|[-+]?[1-9][0-9_]*(?::[0-5]?[0-9])+)$"

/-- The forms of null, apart from the empty one. -/
def nullForm : String :=
  "^(?:~|null|Null|NULL)$"

/-- The forms of a date, alone or with a time of day and a zone. -/
def timestampForm : String :=
  "^(?:[0-9][0-9][0-9][0-9]-[0-9][0-9]-[0-9][0-9]|[0-9][0-9][0-9][0-9]-[0-9][0-9]?-[0-9][0-9]?" ++
    "(?:[Tt]|[ \\t]+)[0-9][0-9]?:[0-9][0-9]:[0-9][0-9](?:\\.[0-9]*)?" ++
    "(?:[ \\t]*(?:Z|[-+][0-9][0-9]?(?::[0-9][0-9])?))?)$"

/-- The forms of plain scalars that are no text; the first that fits decides. -/
def forms : List (String × Tag) :=
  [(boolForm, bool), (realForm, real), (wholeForm, whole), ("^(?:<<)$", merge), (nullForm, null),
    (timestampForm, timestamp), ("^(?:=)$", default), ("^(?:!|&|\\*)$", other)]

/-- Whether a text has a form; the forms name no characters. -/
def hasForm (text : Text) (form : String) : Bool :=
  match @Pattern.occursIn .none form.toList text with
  | .ok found => found
  | .error _ => false

/-- The tag that a plain scalar has by its text. -/
def ofPlain (text : Text) : Tag :=
  if text.isEmpty then null
  else match forms.find? fun (form, _) => hasForm text form with
    | some (_, tag) => tag
    | none => Tag.text

end Tag

end PhotoPublish.Yaml
