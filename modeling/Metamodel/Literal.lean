/-
Literals: values together with the types they have in a model.
-/

import Metamodel.Timestamp
import Metamodel.TypeInfo

namespace Metamodel

mutual

inductive LiteralValue where
  /-- A number, kept as it was written. -/
  | numeric (text : String)
  | boolean (value : Bool)
  | text (value : String)
  | timestamp (instant : Timestamp)
  | interval (interval : Interval)
  /-- The name of an enum value. -/
  | enum (name : String)
  /-- Values by attribute name. -/
  | entity (attributes : List (String × Literal))
  | collection (elements : List Literal)

inductive Literal where
  | mk (type : TypeInfo) (value : LiteralValue)

end

namespace Literal

def type : Literal → TypeInfo
  | mk type _ => type

def value : Literal → LiteralValue
  | mk _ value => value

/-- The same value under another type. -/
def retyped (literal : Literal) (type : TypeInfo) : Literal := mk type literal.value

/-! ### Comparing -/

mutual

/-- Whether two literals have the same value and types at the same place. -/
def same : Literal → Literal → Bool
  | mk firstType first, mk secondType second =>
    firstType.handle = secondType.handle && sameValue first second

def sameValue : LiteralValue → LiteralValue → Bool
  | .numeric first, .numeric second => first = second
  | .boolean first, .boolean second => first = second
  | .text first, .text second => first = second
  | .timestamp first, .timestamp second => first = second
  | .interval first, .interval second => first = second
  | .enum first, .enum second => first = second
  | .entity first, .entity second => sameAttributes first second
  | .collection first, .collection second => sameElements first second
  | _, _ => false

def sameAttributes : List (String × Literal) → List (String × Literal) → Bool
  | [], [] => true
  | (firstName, first) :: firstRest, (secondName, second) :: secondRest =>
    firstName = secondName && same first second && sameAttributes firstRest secondRest
  | _, _ => false

def sameElements : List Literal → List Literal → Bool
  | [], [] => true
  | first :: firstRest, second :: secondRest =>
    same first second && sameElements firstRest secondRest
  | _, _ => false

end

/-! ### Writing -/

mutual

/-- The literal as messages show it. -/
def display : Literal → String
  | mk type value =>
    match value with
    | .numeric text => text
    | .boolean value => if value then "true" else "false"
    | .text value => "'" ++ value ++ "'"
    | .timestamp instant => instant.write
    | .interval interval => interval.display
    | .enum name => type.display ++ "." ++ name
    | .entity attributes =>
      type.display ++ "(" ++ String.intercalate ", " (displayAttributes attributes) ++ ")"
    | .collection elements => "[" ++ String.intercalate ", " (displayElements elements) ++ "]"

def displayAttributes : List (String × Literal) → List String
  | [] => []
  | (name, literal) :: rest => (name ++ " = " ++ display literal) :: displayAttributes rest

def displayElements : List Literal → List String
  | [] => []
  | literal :: rest => display literal :: displayElements rest

end

end Literal

/-- The families of literals for which a model assigns types. -/
structure LiteralFamilies where
  numeric : Bool := false
  boolean : Bool := false
  text : Bool := false
  temporal : Bool := false
  enum : Bool := false
  entity : Bool := false
  collection : Bool := false
deriving DecidableEq, Inhabited

namespace LiteralFamilies

/-- The families whose types are found by the tags of the standard types. -/
def standard : LiteralFamilies := { numeric := true, boolean := true, text := true, temporal := true }

def union (first second : LiteralFamilies) : LiteralFamilies where
  numeric := first.numeric || second.numeric
  boolean := first.boolean || second.boolean
  text := first.text || second.text
  temporal := first.temporal || second.temporal
  enum := first.enum || second.enum
  entity := first.entity || second.entity
  collection := first.collection || second.collection

end LiteralFamilies

end Metamodel
