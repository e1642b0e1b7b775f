import PhotoPublish.Config.Basic
import PhotoPublish.Yaml.Cursor

/-!
# Loading settings

`Config.load` reads the settings from a file, which is named directly or by the environment. The file
holds a mapping in YAML; an empty document stands for an empty mapping. Files, the reader of documents and
the stack are those of a `Platform`.
-/

set_option autoImplicit false

namespace PhotoPublish

/-- What settings are loaded with. -/
structure Platform where
  /-- The bytes of the file with a path. -/
  readFile : Text → Except FileFault ByteArray
  /-- The path that the environment names. -/
  environment : Option Text
  /-- The value that a document in YAML denotes, by its bytes. -/
  readDocument : ByteArray → Except Yaml.Fault Value
  /-- Whether putting a value into words exhausts the stack, as it does with one that is nested too deeply. -/
  isTooDeep : Value → Bool

/-- The value that the words of a fault show. -/
def ConfigFault.shown? : ConfigFault → Option Value
  | unknownKeys keys => some (.list keys)
  | badProtocol protocol => some protocol
  | _ => none

namespace Config

/-- The value that validating entries puts into words, in a message or in the address of the server. -/
def shown? (entries : Entries) : Option Value :=
  if entries.unknown.isEmpty then
    match (complete entries).fault? with
    | some fault => fault.shown?
    | none =>
      if (complete entries).lacksAddress then some ((complete entries).value .serverName) else none
  else (Value.sortKeys? entries.unknown).map Value.list

/-- The config that the given entries make, as far as the stack suffices. -/
def validateOn (platform : Platform) (entries : Entries) : Except Failure Config :=
  if (shown? entries).any platform.isTooDeep then .error .exhausted else validate entries

/-- The config in a document that has been read. The path is that of its file, for messages. A refusal of the
system counts as one to open the file. -/
def ofDocument (platform : Platform) (path : Text) : Except Yaml.Fault Value → Except Failure Config
  | .error .malformed => .error (.config (.malformed path))
  | .error (.failure cause) =>
    if cause.family = .system then .error (.config (.unreadable path (.other cause.message)))
    else .error cause
  | .ok .null => validateOn platform []
  | .ok (.map entries) => validateOn platform entries
  | .ok _ => .error (.config (.notMapping path))

/-- The path of the file to read: the given one, or else that of the environment. -/
def chosenPath? (given environment : Option Text) : Option Text :=
  let path := if (given.getD []).isEmpty then environment.getD [] else given.getD []
  if path.isEmpty then none else some path

/-- The config in a file. A path with a NUL names no file. -/
def load (platform : Platform) (given : Option Text) : Except Failure Config :=
  match chosenPath? given platform.environment with
  | none => .error (.config .notGiven)
  | some path =>
    if path.contains '\x00' then .error .nulInPath
    else
      match platform.readFile path with
      | .error fault => .error (.config (.unreadable path fault))
      | .ok bytes => ofDocument platform path (platform.readDocument bytes)

end Config

end PhotoPublish
