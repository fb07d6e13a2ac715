/-
# Query filters

A filter selects resources of one object type by their fields. It compares a
field with an operand, asks whether a field is present, is always or never
true, or combines other filters.

Key definitions: `Operand`, `Comparison`, `Filter`, `Filter.same`,
`Filter.allOf?`, `Filter.anyOf?`, `Filter.oneOf?`.
-/
import IdentityTypes.Json.Number

namespace IdentityTypes

open Json

/-- What a field is compared with. -/
inductive Operand where
  | null
  | bool (b : Bool)
  | number (n : Number)
  | string (s : String)
  deriving DecidableEq, Repr

/-- Equality of operands, where numbers are equal by value. -/
def Operand.same : Operand → Operand → Bool
  | .number m, .number n => m.same n
  | x, y => x = y

/-- A floating point number as operand; one that is not finite is null. -/
def Operand.ofFloat (x : Option Decimal.Binary64) : Operand :=
  match x with
  | some x => .number (.float x)
  | none => .null

/-- A text as operand, null if there is none. -/
def Operand.ofText (s : Option String) : Operand :=
  match s with
  | some s => .string s
  | none => .null

/-- How a field is compared. -/
inductive Comparison where
  | equal
  | greater
  | greaterOrEqual
  | less
  | lessOrEqual
  | contains
  | startsWith
  deriving DecidableEq, Repr

/-- A filter. -/
inductive Filter where
  | compare (comparison : Comparison) (field : String) (operand : Operand)
  | present (field : String)
  | always
  | never
  | not (filter : Filter)
  | and (a b : Filter)
  | or (a b : Filter)
  deriving DecidableEq, Repr

namespace Filter

/-- Equality of filters, where numbers are equal by value. -/
def same : Filter → Filter → Bool
  | .compare c f x, .compare d g y => c = d && f = g && x.same y
  | .present f, .present g => f = g
  | .always, .always => true
  | .never, .never => true
  | .not f, .not g => f.same g
  | .and a b, .and c d => a.same c && b.same d
  | .or a b, .or c d => a.same c && b.same d
  | _, _ => false

/-- The field equals the operand. -/
def equals (field : String) (operand : Operand) : Filter := .compare .equal field operand

/-- The filters combined from left to right, unless there are none. -/
def combine (join : Filter → Filter → Filter) : List Filter → Option Filter
  | [] => none
  | f :: fs => some (fs.foldl join f)

/-- True when every one of the filters is. There is none for no filters. -/
def allOf? (filters : List Filter) : Option Filter := combine .and filters

/-- True when any of the filters is. There is none for no filters. -/
def anyOf? (filters : List Filter) : Option Filter := combine .or filters

/-- The field equals one of the operands. There is none for no operands. -/
def oneOf? (field : String) (operands : List Operand) : Option Filter :=
  anyOf? (operands.map (equals field))

end Filter

end IdentityTypes
