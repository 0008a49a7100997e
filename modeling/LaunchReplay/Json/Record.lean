import LaunchReplay.Json.Basic

/-!
# Records and variants in JSON

A record is an object with the names of its fields as keys, in any order, or the array of its
fields. Other keys are passed over, and a key of the record must not be repeated. A variant is an
object with its name as the only key, or its name alone if it holds nothing.
-/

namespace LaunchReplay.Json

/-- The fields that are there of a record. -/
structure Record where
  /-- Names of fields with their values, no name twice. -/
  fields : List (String × Json)

namespace Record

/-- The value of a field, if it is there. -/
def get? (record : Record) (name : String) : Option Json :=
  record.fields.lookup name

/-- A field that must be there. -/
def required {α : Type} (record : Record) (name : String) (decode : Json → Option α) :
    Option α := do
  decode (← record.get? name)

end Record

/-- The value that is not null, decoded. -/
def optional? {α : Type} (decode : Json → Option α) : Json → Option (Option α)
  | .null => some none
  | json => (decode json).map some

/-- A field that may be missing or null. -/
def Record.optional {α : Type} (record : Record) (name : String) (decode : Json → Option α) :
    Option (Option α) :=
  match record.get? name with
  | none => some none
  | some json => optional? decode json

/-- Adds a member of an object to a record with the given names. -/
def addField (names : List String) (fields : List (String × Json))
    (member : List Char × Json) : Option (List (String × Json)) := do
  let key := String.ofList (← unescape? member.1)
  if names.contains key then
    if (fields.lookup key).isSome then none else some ((key, member.2) :: fields)
  else some fields

/-- The record with the given names that a value holds. -/
def record? (names : List String) : Json → Option Record
  | .object members => (members.foldlM (addField names) []).map Record.mk
  | .array items => if items.length = names.length then some ⟨names.zip items⟩ else none
  | _ => none

/-- The name of a variant and what it holds, if anything. -/
def variant? : Json → Option (String × Option Json)
  | .string written => (unescape? written).map fun name => (String.ofList name, none)
  | .object [(key, payload)] =>
    (unescape? key).map fun name => (String.ofList name, some payload)
  | _ => none

/-- Accepts what a variant without content may hold. -/
def nothing? : Option Json → Option Unit
  | none | some .null => some ()
  | _ => none

/-- The variant of a name. -/
def variant (name : String) (payload : Json) : Json :=
  record [(name, payload)]

end LaunchReplay.Json
