import PhotoPublish.Config.Order
import PhotoPublish.Failure

/-!
# Export settings

A `Config` gives a value to every `Setting`. `Config.validate` completes given values by the defaults and
refuses unknown settings and values that do not go together. A config is the result of validating its
own entries.
-/

set_option autoImplicit false

namespace PhotoPublish

/-- A setting of an export. -/
inductive Setting where
  /-- The protocol of the upload. -/
  | protocol
  /-- Name or address of the server. -/
  | serverName
  | serverUrl
  | userName
  | password
  /-- Whether the tree of source folders is copied. -/
  | copyTree
  /-- The root of the source folders. -/
  | sourceRoot
  /-- The destination album, which may hold placeholders. -/
  | destination
  /-- Whether raw images and others go to the same album. -/
  | rawAndOthers
  /-- Whether uploaded files are renamed. -/
  | rename
  /-- The file name template for renaming. -/
  | filename
  | versionSix
  /-- Whether the upload goes to a personal station. -/
  | personal
  | personalOwner
  | verbosity
deriving DecidableEq, Repr

namespace Setting

/-- The settings in their usual order. -/
def all : List Setting :=
  [protocol, serverName, serverUrl, userName, password, copyTree, sourceRoot, destination,
    rawAndOthers, rename, filename, versionSix, personal, personalOwner, verbosity]

/-- The name of a setting in a configuration. -/
def name : Setting → Text
  | protocol => "proto".toList
  | serverName => "servername".toList
  | serverUrl => "serverUrl".toList
  | userName => "username".toList
  | password => "password".toList
  | copyTree => "copyTree".toList
  | sourceRoot => "srcRoot".toList
  | destination => "dstRoot".toList
  | rawAndOthers => "RAWandJPG".toList
  | rename => "renameDstFile".toList
  | filename => "dstFilename".toList
  | versionSix => "isPS6".toList
  | personal => "usePersonalPS".toList
  | personalOwner => "personalPSOwner".toList
  | verbosity => "logLevel".toList

/-- The setting of a name. -/
def ofName? (name : Text) : Option Setting :=
  all.find? (·.name = name)

theorem mem_all (setting : Setting) : setting ∈ all := by
  cases setting <;> decide

theorem ofName?_name (setting : Setting) : ofName? setting.name = some setting := by
  cases setting <;> decide

/-- The value of a setting that is not given. -/
def default : Setting → Value
  | protocol => .text "http".toList
  | copyTree | rawAndOthers | rename | versionSix | personal => .bool false
  | verbosity => .whole 2
  | serverName | serverUrl | userName | password | sourceRoot | destination | filename
  | personalOwner => .null

end Setting

/-- Entries of a configuration as they are given. -/
abbrev Entries := List (Value × Value)

namespace Entries

/-- The value that a setting is given. -/
def get? (entries : Entries) (setting : Setting) : Option Value :=
  (entries.find? fun (key, _) =>
    match key with
    | .text name => name = setting.name
    | _ => false).map Prod.snd

/-- Whether a key names a setting. -/
def isKnown : Value → Bool
  | .text name => (Setting.ofName? name).isSome
  | _ => false

/-- The keys that name no setting. -/
def unknown (entries : Entries) : List Value :=
  (entries.map Prod.fst).filter fun key => !isKnown key

end Entries

/-- A value for every setting. -/
structure Config where
  value : Setting → Value

instance : Inhabited Config :=
  ⟨⟨Setting.default⟩⟩

namespace Config

/-- The given values, completed by the defaults. -/
def complete (entries : Entries) : Config :=
  ⟨fun setting => (entries.get? setting).getD setting.default⟩

/-- The entries of a config in the usual order. -/
def entries (config : Config) : Entries :=
  Setting.all.map fun setting => (.text setting.name, config.value setting)

/-- Whether the value is one of the protocols. -/
def isProtocol : Value → Bool
  | .text name => protocols.contains name
  | _ => false

/-- What is wrong with the values of a config. -/
def fault? (config : Config) : Option ConfigFault :=
  if !isProtocol (config.value .protocol) then some (.badProtocol (config.value .protocol))
  else if (config.value .copyTree).isSet && !(config.value .sourceRoot).isSet then
    some .treeWithoutRoot
  else if (config.value .rename).isSet && !(config.value .filename).isSet then
    some .renameWithoutPattern
  else none

/-- The address of a server by its protocol and name. -/
def address (config : Config) : Value :=
  .text ((config.value .protocol).display ++ "://".toList ++ (config.value .serverName).display)

/-- Whether the address of the server is to be made from its name. -/
def lacksAddress (config : Config) : Bool :=
  (config.value .serverName).isSet && !(config.value .serverUrl).isSet

/-- The config with the address of its server, if that is not given. -/
def withAddress (config : Config) : Config :=
  if config.lacksAddress then
    ⟨fun setting => if setting = .serverUrl then config.address else config.value setting⟩
  else config

/-- The config that the given entries make. -/
def validate (entries : Entries) : Except Failure Config :=
  let unknown := entries.unknown
  if unknown.isEmpty then
    let config := complete entries
    match config.fault? with
    | some fault => .error fault.failure
    | none =>
      if config.lacksAddress && (config.value .serverName).hasLongWhole then .error .longWhole
      else .ok config.withAddress
  else
    match Value.sortKeys? unknown with
    | some keys => .error (ConfigFault.unknownKeys keys).failure
    | none => .error .wrongType

end Config

end PhotoPublish
