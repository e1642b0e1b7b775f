import PhotoPublish.Collection.Folder
import PhotoPublish.Collection.Lineage
import PhotoPublish.Log

/-!
# The default collection

Every publish service may have a default collection. `Folder.default?` searches for it, and says so if
there is no service at all. `Folder.defaultSettings` is the name of that collection with its settings.
-/

set_option autoImplicit false

namespace PhotoPublish.Folder

/-- The record of a search without a service. -/
def noServiceRecord : LogRecord :=
  ⟨.error, "get_default_collection_settings: publish service is None!".toList⟩

/-- The default collection of a service, if there is one, and the records of the search. -/
def default? {α : Type} (isDefault : α → Bool) (service : Option (Folder α)) :
    Option α × List LogRecord :=
  match service with
  | none => (none, [noServiceRecord])
  | some root => (root.find? isDefault, [])

/-- The name and the settings of the default collection of a service, both null if there is none, and the
records of the search. -/
def defaultSettings (service : Option (Folder Collection)) :
    (Option Text × Option Fields) × List LogRecord :=
  let (found, records) := default? Collection.isDefault service
  match found with
  | some collection => ((collection.name, collection.settings), records)
  | none => ((none, none), records)

end PhotoPublish.Folder
