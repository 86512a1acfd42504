import OrderDesk.Json.Basic

/-!
# Records in JSON

A record is an object with a key for each field, or an array of its fields in the
order in which they are declared. In an object other keys are skipped and no field
may come twice. An array may be shorter than the record, not longer.

A field that is missing is refused, unless it has a value of its own for that case
(`orElse`).

A tagged value is an object with one more key that names its case, or an array that
begins with the name. All its parts have to be usable, skipped ones included.
-/

namespace OrderDesk.Json

/-- The fields that a record is read from, under their keys. -/
structure Fields where
  entries : List (String × Json)

namespace Fields

/-- How many entries have the key. -/
def count (entries : List (String × Json)) (key : String) : Nat :=
  (entries.filter fun e => e.1 == key).length

/-- The entries of an object, none of the known keys twice. -/
def ofEntries? (known : List String) (entries : List (String × Json)) : Option Fields :=
  if known.all fun key => count entries key ≤ 1 then some ⟨entries⟩ else none

/-- The items of an array under the known keys. -/
def ofItems? (known : List String) (items : List Json) : Option Fields :=
  if items.length ≤ known.length then some ⟨known.zip items⟩ else none

/-- The fields of a record with the known keys. -/
def of? (known : List String) : Json → Option Fields
  | .obj entries => ofEntries? known entries
  | .arr items => ofItems? known items
  | _ => none

/-- The value of a field. -/
def find? (fields : Fields) (key : String) : Option Json := fields.entries.lookup key

/-- A field that has to be there. -/
def required {α : Type} (fields : Fields) (key : String) (read : Json → Option α) : Option α :=
  (fields.find? key).bind read

/-- A field that stands for `other` when it is missing. -/
def orElse {α : Type} (fields : Fields) (key : String) (read : Json → Option α) (other : α) :
    Option α :=
  match fields.find? key with
  | none => some other
  | some value => read value

end Fields

/-- The case and the fields of a tagged value. The fields are read with the keys that
belong to the case. -/
def tagged? (tag : String) : Json → Option (String × (List String → Option Fields))
  | .obj entries =>
    if Fields.count entries tag = 1 ∧ usableEntries entries then
      match entries.lookup tag with
      | some (.str name) =>
        some (name, fun known => Fields.ofEntries? known (entries.filter fun e => e.1 != tag))
      | _ => none
    else none
  | .arr (.str name :: items) =>
    if usableItems items then some (name, fun known => Fields.ofItems? known items) else none
  | _ => none

/-- One of several named values: its name, or an object with the name as its only key
and `null` under it. -/
def name? : Json → Option String
  | .str name => some name
  | .obj [(name, .null)] => some name
  | _ => none

end OrderDesk.Json
