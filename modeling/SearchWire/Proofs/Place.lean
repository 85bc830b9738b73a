import SearchWire.Error
import SearchWire.Compiler.Basic
import SearchWire.Entries.Lemmas

/-!
# Places in bodies

What stands in a body where a path leads, one member or item at a time.
-/

namespace SearchWire

-- ---------------------------------------------------------------------------
-- Members
-- ---------------------------------------------------------------------------

namespace Json

@[simp] theorem get?_optional (key name : String) (value : Option Json) :
    Entries.get? key (optional name value) = if name = key then value else none := by
  cases value <;> simp [optional, Entries.get?]

@[simp] theorem get?_group (key name : String) (items : List Json) :
    Entries.get? key (group name items) =
      if name = key ∧ items ≠ [] then some (.array items) else none := by
  cases items <;> simp [group, Entries.get?]

@[simp] theorem get?_section? (key name : String) (members : Entries Json) :
    Entries.get? key (section? name members) =
      if name = key ∧ members ≠ [] then some (.object members) else none := by
  cases members <;> simp [section?, Entries.get?]

-- ---------------------------------------------------------------------------
-- Places
-- ---------------------------------------------------------------------------

def at? : Path → Json → Option Json
  | [], json => some json
  | .key name :: rest, .object members => (Entries.get? name members).bind (at? rest)
  | .index position :: rest, .array items => items[position]?.bind (at? rest)
  | _ :: _, _ => none

end Json

end SearchWire
