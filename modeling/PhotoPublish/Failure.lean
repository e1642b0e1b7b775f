import PhotoPublish.Value

/-!
# Failures

Every way in which an operation can fail, as its cause. `Failure.family` groups the causes for those
who treat failures by kind: a template keeps a placeholder whose value is invalid, a batch goes on
after a failure of its own family (`Family.isOwn`), and a keyword change reports a transaction that
could not be opened (`Family.isWriteAccess`). `Failure.message` holds all the wording.
-/

set_option autoImplicit false

namespace PhotoPublish

/-- Kinds of failures. -/
inductive Family where
  /-- Any failure of a photo operation that has no kind of its own. -/
  | general
  /-- A configuration that cannot be read or used. -/
  | configuration
  /-- No usable destination for a photo. -/
  | format
  /-- A catalog transaction that could not be completed. -/
  | writeAccess
  /-- A catalog transaction that was not granted in time. -/
  | writeTimeout
  /-- A value of the right type that means nothing. -/
  | invalidValue
  /-- A number too large for its place. -/
  | overflow
  /-- A refusal of the operating system. -/
  | system
  /-- An operand of a type that the operation does not take. -/
  | wrongType
  /-- A value that lacks the operation asked of it. -/
  | noOperation
  /-- A name that is not in a table. -/
  | missingKey
  /-- A position past the end. -/
  | missingIndex
  /-- Bytes that are no text. -/
  | undecodable
  /-- An operation that an interface leaves to others. -/
  | unsupported
  /-- Data nested too deeply for the stack. -/
  | exhausted
  /-- A kind that only the host knows, by its name. -/
  | foreign (name : Text)
deriving DecidableEq, Repr, Inhabited

namespace Family

/-- The kinds that concern one photo, after which a batch goes on. -/
def isOwn : Family → Bool
  | general | configuration | format | writeAccess | writeTimeout => true
  | _ => false

/-- The kinds that say that a transaction was not completed. -/
def isWriteAccess : Family → Bool
  | writeAccess | writeTimeout => true
  | _ => false

end Family

/-- A part of a date or time outside its range. -/
inductive CalendarFault where
  | year (year : Int)
  | month
  | day
  | hour
  | minute
  | second
  /-- An offset of a day or more, in seconds. -/
  | offset (seconds : Int)
deriving DecidableEq, Repr

/-- Why the number of an instant or of a date cannot be used. -/
inductive InstantFault where
  /-- The instant is not a number. -/
  | notANumber
  /-- The instant lies outside the seconds that a clock counts. -/
  | outsideClock
  /-- The year of the instant does not fit a calendar record. -/
  | outsideRecord
  /-- A number does not fit the 32 bits of its place in a calendar record. -/
  | beyondInt
  /-- A number does not even fit 64 bits. -/
  | beyondLong
deriving DecidableEq, Repr

/-- Why a file cannot be opened. -/
inductive FileFault where
  | missing
  | directory
  /-- Any other refusal of the system, in its words. -/
  | other (text : Text)
deriving DecidableEq, Repr

/-- Why there is no usable configuration. -/
inductive ConfigFault where
  | notGiven
  | unreadable (path : Text) (fault : FileFault)
  | malformed (path : Text)
  | notMapping (path : Text)
  | unknownKeys (keys : List Value)
  | badProtocol (protocol : Value)
  | treeWithoutRoot
  | renameWithoutPattern

/-- The cause of a failure. -/
inductive Failure where
  | badNumeral (base : Nat) (text : Text)
  | longNumeral (digits : Nat)
  /-- A whole number that has too many digits to be written. -/
  | longWhole
  | badDecimal (value : Value)
  | wholeTooLarge
  | quotientTooLarge
  | nanToWhole
  | infinityToWhole
  | calendar (fault : CalendarFault)
  | instant (fault : InstantFault)
  | nulInText
  | nulInPath
  | noPath
  | unknownName (name : Value)
  | emptyScalar
  | codePoint
  | hugeCodePoint
  | hugeCount
  | conflictingFlags
  | wrongType
  | noOperation
  | unsupported
  | undecodable
  | exhausted
  | badFilename (filename : Value) (pattern path : Value)
  | badLogLevel (level : Value)
  | unknownLogLevel (name : Text)
  | config (fault : ConfigFault)
  /-- A failure that the host raised, with its own words. -/
  | host (family : Family) (text : Text)

namespace CalendarFault

/-- What is wrong with the part. -/
def message : CalendarFault → Text
  | year y => "year ".toList ++ Numeral.ofInt y ++ " is out of range".toList
  | month => "month must be in 1..12".toList
  | day => "day is out of range for month".toList
  | hour => "hour must be in 0..23".toList
  | minute => "minute must be in 0..59".toList
  | second => "second must be in 0..59".toList
  | offset seconds =>
    let days := seconds / 86400
    let rest := seconds % 86400
    let dayParts := if days = 0 then [] else ["days=".toList ++ Numeral.ofInt days]
    let restParts := if rest = 0 then [] else ["seconds=".toList ++ Numeral.ofInt rest]
    "offset must be a timedelta strictly between ".toList ++
      "-timedelta(hours=24) and timedelta(hours=24), not ".toList ++
      Value.quotedCall "datetime.timedelta" (dayParts ++ restParts) ++ ['.']

end CalendarFault

namespace InstantFault

/-- Not a number is an invalid value, a year beyond the calendar record a refusal of the system, and
all else an overflow. -/
def family : InstantFault → Family
  | notANumber => .invalidValue
  | outsideRecord => .system
  | outsideClock | beyondInt | beyondLong => .overflow

/-- What is wrong with the number. -/
def message : InstantFault → Text
  | notANumber => "Invalid value NaN (not a number)".toList
  | outsideClock => "timestamp out of range for platform time_t".toList
  | outsideRecord => "[Errno 75] Value too large for defined data type".toList
  | beyondInt => "signed integer is greater than maximum".toList
  | beyondLong => "Python int too large to convert to C long".toList

end InstantFault

namespace FileFault

/-- The number and words of the system for a file with a path. -/
def message (path : Text) : FileFault → Text
  | missing => "[Errno 2] No such file or directory: ".toList ++ path.quoted
  | directory => "[Errno 21] Is a directory: ".toList ++ path.quoted
  | other text => text

end FileFault

/-- The protocols that photos are uploaded by. -/
def protocols : List Text :=
  ["http".toList, "https".toList]

namespace ConfigFault

/-- What is wrong with the configuration. -/
def message : ConfigFault → Text
  | notGiven => "No configuration given and PHOTOSTATLR_CONFIG is not set".toList
  | unreadable path fault =>
    "Cannot read configuration ".toList ++ path ++ ": ".toList ++ fault.message path
  | malformed path => "Invalid configuration ".toList ++ path
  | notMapping path => "Configuration ".toList ++ path ++ " must be a mapping".toList
  | unknownKeys keys => "Unknown configuration keys: ".toList ++ (Value.list keys).quoted
  | badProtocol protocol =>
    "Invalid protocol ".toList ++ protocol.quoted ++ ", must be one of (".toList ++
      Text.join ", ".toList (protocols.map Text.quoted) ++ [')']
  | treeWithoutRoot => "copyTree requires srcRoot".toList
  | renameWithoutPattern => "renameDstFile requires dstFilename".toList

/-- Whether the words show a whole number that has too many digits to be written. -/
def hasLongWhole : ConfigFault → Bool
  | unknownKeys keys => (Value.list keys).hasLongWhole
  | badProtocol protocol => protocol.hasLongWhole
  | _ => false

/-- The failure that a fault of a configuration is; one that cannot be put into words is another
failure. -/
def failure (fault : ConfigFault) : Failure :=
  if fault.hasLongWhole then .longWhole else .config fault

end ConfigFault

namespace Failure

/-- The kind of a failure. -/
def family : Failure → Family
  | badNumeral _ _ | longNumeral _ | longWhole | badDecimal _ | nanToWhole | calendar _ | nulInText
  | nulInPath | noPath | badLogLevel _ | unknownLogLevel _ | codePoint | conflictingFlags => .invalidValue
  | wholeTooLarge | quotientTooLarge | infinityToWhole | hugeCodePoint | hugeCount => .overflow
  | instant fault => fault.family
  | unknownName _ => .missingKey
  | emptyScalar => .missingIndex
  | wrongType => .wrongType
  | noOperation => .noOperation
  | unsupported => .unsupported
  | undecodable => .undecodable
  | exhausted => .exhausted
  | badFilename _ _ _ => .format
  | config _ => .configuration
  | host family _ => family

/-- A numeral in a message is cut to this many characters, quotes included. -/
def shownNumeral : Nat := 200

/-- The words of a failure; those that only name a misuse have none. -/
def message : Failure → Text
  | badNumeral base text =>
    "invalid literal for int() with base ".toList ++ Numeral.ofNat base ++ ": ".toList ++
      text.quoted.take shownNumeral
  | longNumeral digits =>
    "Exceeds the limit (4300 digits) for integer string conversion: value has ".toList ++
      Numeral.ofNat digits ++
      " digits; use sys.set_int_max_str_digits() to increase the limit".toList
  | longWhole =>
    "Exceeds the limit (4300 digits) for integer string conversion; ".toList ++
      "use sys.set_int_max_str_digits() to increase the limit".toList
  | badDecimal value => "could not convert string to float: ".toList ++ value.quoted
  | wholeTooLarge => "int too large to convert to float".toList
  | quotientTooLarge => "integer division result too large for a float".toList
  | nanToWhole => "cannot convert float NaN to integer".toList
  | infinityToWhole => "cannot convert float infinity to integer".toList
  | calendar fault => fault.message
  | instant fault => fault.message
  | nulInText => "embedded null character".toList
  | nulInPath => "embedded null byte".toList
  | noPath => "no path specified".toList
  | unknownName name => name.quoted
  | emptyScalar => "string index out of range".toList
  | codePoint => "chr() arg not in range(0x110000)".toList
  | hugeCodePoint => "Python int too large to convert to C int".toList
  | hugeCount => "the repetition number is too large".toList
  | conflictingFlags => "ASCII and UNICODE flags are incompatible".toList
  | badFilename filename pattern path =>
    "Invalid filename ".toList ++ filename.quoted ++ " from template ".toList ++ pattern.quoted ++
      " for ".toList ++ path.display
  | badLogLevel level =>
    "Invalid log level ".toList ++ level.display ++ ", must be one of [1, 2, 3, 4]".toList
  | unknownLogLevel name => "Level '".toList ++ name ++ "' does not exist".toList
  | config fault => fault.message
  | host .missingKey text => text.quoted
  | host _ text => text
  | wrongType | noOperation | unsupported | undecodable | exhausted => []

end Failure

end PhotoPublish
