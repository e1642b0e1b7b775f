import PhotoPublish.Number.Reading

/-!
# Backlinks

The URL of a published photo links back to the collection it was published in: `12/1500000000` is the
identifier of the collection and the time of publishing. `Backlink.isOf` says whether a URL is a backlink
of a collection: the first number in it is the identifier.
-/

set_option autoImplicit false

namespace PhotoPublish.Backlink

/-- The whole seconds of an instant of any type. -/
def seconds : Value → Except Failure Int
  | .bool b => .ok (if b then 1 else 0)
  | .whole n => .ok n
  | .real .nan => .error .nanToWhole
  | .real x =>
    match x.truncate? with
    | some n => .ok n
    | none => .error .infinityToWhole
  | .text text => Numeral.read 10 text
  | _ => .error .wrongType

/-- The text of an identifier, unless a whole number in it has too many digits to be written. -/
def written (identifier : Value) : Except Failure Text :=
  if identifier.hasLongWhole then .error .longWhole else .ok identifier.display

/-- The backlink of a photo that is published in a collection at an instant. -/
def make (identifier instant : Value) : Except Failure Text := do
  let seconds ← seconds instant
  return (← written identifier) ++ '/' :: (← written (.whole seconds))

/-- The first run of decimal digits; empty if there is none. -/
def firstNumber (url : Text) : Text :=
  (url.dropWhile fun c => !isDecimal c).takeWhile isDecimal

/-- Whether a URL is a backlink of the collection with an identifier. -/
def isOf (identifier : Value) (url : Option Text) : Bool :=
  let number := firstNumber (url.getD [])
  !number.isEmpty && number == identifier.display

/-- The same question as the run puts it: the identifier is written before it is compared with a number. -/
def check (identifier : Value) (url : Option Text) : Except Failure Bool :=
  if identifier.hasLongWhole && !(firstNumber (url.getD [])).isEmpty then .error .longWhole
  else .ok (isOf identifier url)

/-- The digits of the time in a URL: those behind the first slash between digits. -/
def time? : Text → Option Text
  | [] => none
  | c :: rest =>
    match rest with
    | '/' :: d :: more =>
      if isDecimal c && isDecimal d then some (d :: more.takeWhile isDecimal) else time? rest
    | _ => time? rest

end PhotoPublish.Backlink
