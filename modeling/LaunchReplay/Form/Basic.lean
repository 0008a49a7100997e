import LaunchReplay.Json.Record
import LaunchReplay.Text.Bytes

/-!
# JSON forms

How values are written in JSON and read from it. Reading checks the form and the ranges of numbers,
and no more.
-/

namespace LaunchReplay

/-- A type whose values have a JSON form. -/
class JsonForm (α : Type) where
  /-- The form of a value. -/
  toJson : α → Json
  /-- The value of a form. -/
  ofJson? : Json → Option α

export JsonForm (toJson ofJson?)

namespace Json

variable {α β : Type}

/-- An array of values. -/
def list (write : α → Json) (values : List α) : Json :=
  .array (values.map write)

/-- The values of an array. -/
def list? (read : Json → Option α) (json : Json) : Option (List α) := do
  (← json.items?).mapM read

/-- An array of numbers. -/
def naturals (numbers : List Nat) : Json :=
  list natural numbers

/-- The numbers of an array, all below a bound. -/
def naturals? (bound : Nat) (json : Json) : Option (List Nat) :=
  list? (natural? bound) json

/-- An array of two values. -/
def pair (write : α → Json) (writeSecond : β → Json) (value : α × β) : Json :=
  .array [write value.1, writeSecond value.2]

/-- The values of an array of two. -/
def pair? (read : Json → Option α) (readSecond : Json → Option β) : Json → Option (α × β)
  | .array [first, second] => do some (← read first, ← readSecond second)
  | _ => none

/-- The value of a named alternative that holds nothing. -/
def alternative? (alternatives : List (String × α)) (json : Json) : Option α := do
  let (name, payload) ← json.variant?
  let value ← alternatives.lookup name
  nothing? payload
  some value

end Json

instance : JsonForm String where
  toJson := Json.text
  ofJson? := Json.text?

instance : JsonForm Bool where
  toJson := Json.bool
  ofJson? := Json.bool?

instance : JsonForm UInt8 where
  toJson byte := .natural byte.toNat
  ofJson? json := (json.natural? 256).map Nat.toUInt8

instance {α : Type} [JsonForm α] : JsonForm (List α) where
  toJson := Json.list toJson
  ofJson? := Json.list? ofJson?

instance {α : Type} [JsonForm α] : JsonForm (Option α) where
  toJson
    | none => .null
    | some value => toJson value
  ofJson? := Json.optional? ofJson?

end LaunchReplay
