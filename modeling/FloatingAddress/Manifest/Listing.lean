import FloatingAddress.Manifest.Metadata

/-!
# Lists of objects

The answer to a list request: metadata of the list and the array of its items. A single item
that cannot be read makes the whole list unreadable.
-/

namespace FloatingAddress.Manifest

/-- Whether the metadata of a list are well formed. -/
def listMetadataOk (json : Json) : Bool :=
  (fieldsValue?
    [("continue", textValue?), ("remainingItemCount", wordValue?),
     ("resourceVersion", textValue?), ("selfLink", textValue?)] [] json).isSome

/-- The items of a list, each read with `item?`. -/
def listing? (item? : Json → Option α) (json : Json) : Option (List α) := do
  let metadata ← json.get? "metadata"
  if !listMetadataOk metadata then none
  (json.get? "items").bind (items? item?)

end FloatingAddress.Manifest
