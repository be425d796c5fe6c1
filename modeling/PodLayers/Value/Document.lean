import PodLayers.Value.Basic

/-!
# Layered documents

A document is a value, normally a mapping. An edit laid over a document goes into nested mappings key by
key; a null removes its key; anything but a mapping replaces what stood there. A mapping laid over
something else starts from an empty mapping, so it never leaves a null behind.
-/

namespace PodLayers.Value

mutual

/-- The document after an edit. -/
def merge (lower : Value) : Value → Value
  | .mapping edits => .mapping (mergeEntries lower.entries edits)
  | edit => edit

/-- The entries after each of the edits, in their order. -/
def mergeEntries (target : List (String × Value)) : List (String × Value) → List (String × Value)
  | [] => target
  | (key, edit) :: rest =>
    if edit.isNull then mergeEntries (Entries.erase key target) rest
    else
      let lower := (Entries.find? key target).getD .null
      mergeEntries (Entries.insert key (lower.merge edit) target) rest

end

/-- The empty document. -/
def emptyDocument : Value := .mapping []

/-- The document reached by edits in their order. -/
def mergeAll (edits : List Value) : Value := edits.foldl merge emptyDocument

end PodLayers.Value
