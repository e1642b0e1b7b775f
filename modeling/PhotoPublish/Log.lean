import PhotoPublish.Failure
import PhotoPublish.Text.Case

/-!
# Log records

A `LogRecord` is a message with a `Level`. The verbosity of the settings is a number from 1 to 4 or the
name of a level, which `levelName` settles; a sink shows the records of that level and above.
-/

set_option autoImplicit false

namespace PhotoPublish

/-- Levels of log records, in ascending order. -/
inductive Level where
  | trace
  | debug
  | info
  | success
  | warning
  | error
  | critical
deriving DecidableEq, Repr

namespace Level

/-- The levels in ascending order. -/
def all : List Level :=
  [trace, debug, info, success, warning, error, critical]

/-- The name of a level. -/
def name : Level → Text
  | trace => "TRACE".toList
  | debug => "DEBUG".toList
  | info => "INFO".toList
  | success => "SUCCESS".toList
  | warning => "WARNING".toList
  | error => "ERROR".toList
  | critical => "CRITICAL".toList

/-- The number of levels below. -/
def rank : Level → Nat
  | trace => 0
  | debug => 1
  | info => 2
  | success => 3
  | warning => 4
  | error => 5
  | critical => 6

/-- The level of a name. -/
def ofName? (name : Text) : Option Level :=
  all.find? (·.name = name)

theorem ofName?_name (level : Level) : ofName? level.name = some level := by
  cases level <;> decide

end Level

/-- A message with its level. -/
structure LogRecord where
  level : Level
  text : Text
deriving DecidableEq, Repr

namespace Verbosity

/-- The verbosity of settings that name none. -/
def usual : Value := .whole 2

/-- The levels that the numbers stand for. -/
def ofNumber? (n : Int) : Option Level :=
  if n = 1 then some .error
  else if n = 2 then some .info
  else if n = 3 then some .debug
  else if n = 4 then some .trace
  else none

/-- The name of the level that a verbosity stands for. Texts are not checked. -/
def levelName (verbosity : Value) : Except Failure Text :=
  let numbered (n : Int) : Except Failure Text :=
    match ofNumber? n with
    | some level => .ok level.name
    | none => .error (.badLogLevel verbosity)
  match verbosity with
  | .whole n => numbered n
  | .bool b => numbered (if b then 1 else 0)
  | .text name => .ok name.upper
  | _ => .error .noOperation

/-- The least level that a sink of some verbosity shows. -/
def level (verbosity : Value) : Except Failure Level := do
  let name ← levelName verbosity
  match Level.ofName? name with
  | some level => return level
  | none => throw (.unknownLogLevel name)

/-- The records that a sink of some verbosity shows. -/
def shown (verbosity : Value) (records : List LogRecord) : Except Failure (List LogRecord) := do
  let least ← level verbosity
  return records.filter fun record => least.rank ≤ record.level.rank

end Verbosity

end PhotoPublish
