/-
What a type can be made to support: operators, which compute a value, and predicates, which ask a
question of it. Both are switched on type by type, and both carry a rule for the type of their
result, so much of the library speaks of them together as capabilities.
-/

namespace Metamodel

inductive Operator where
  | unaryPlus
  | unaryMinus
  | plus
  | minus
  | multiplication
  | division
  | modulo
  | not
deriving DecidableEq, Inhabited

namespace Operator

/-- All operators, in the order in which they are listed everywhere. -/
def all : List Operator :=
  [unaryPlus, unaryMinus, plus, minus, multiplication, division, modulo, not]

/-- The operators on numbers. -/
def arithmetic : List Operator :=
  [unaryPlus, unaryMinus, plus, minus, multiplication, division, modulo]

def name : Operator → String
  | unaryPlus => "UNARY_PLUS"
  | unaryMinus => "UNARY_MINUS"
  | plus => "PLUS"
  | minus => "MINUS"
  | multiplication => "MULTIPLICATION"
  | division => "DIVISION"
  | modulo => "MODULO"
  | not => "NOT"

/-- The operator in the form of a variant name, as descriptions of expectations show it. -/
def title : Operator → String
  | unaryPlus => "UnaryPlus"
  | unaryMinus => "UnaryMinus"
  | plus => "Plus"
  | minus => "Minus"
  | multiplication => "Multiplication"
  | division => "Division"
  | modulo => "Modulo"
  | not => "Not"

/-- The one-character code that exports use. -/
def code : Operator → Char
  | unaryPlus => 'P'
  | unaryMinus => 'M'
  | plus => '+'
  | minus => '-'
  | multiplication => '*'
  | division => '/'
  | modulo => '%'
  | not => '!'

def ofCode? (code : Char) : Option Operator := all.find? (fun operator => operator.code = code)

def ofName? (name : String) : Option Operator := all.find? (fun operator => operator.name = name)

/-- Takes one operand. -/
def isUnary : Operator → Bool
  | unaryPlus | unaryMinus | not => true
  | _ => false

def isArithmetic (operator : Operator) : Bool := arithmetic.contains operator

/-- The operators listed after this one. -/
def greater (operator : Operator) : List Operator :=
  (all.dropWhile (fun other => other ≠ operator)).drop 1

end Operator

inductive Predicate where
  | nullness
  | collection
  | relational
  | equality
deriving DecidableEq, Inhabited

namespace Predicate

/-- All predicates, in the order in which they are listed everywhere. -/
def all : List Predicate := [nullness, collection, relational, equality]

/-- The predicates of types whose values are ordered. -/
def comparable : List Predicate := [nullness, relational, equality]

/-- The predicates of types whose values can only be told apart. -/
def distinguishable : List Predicate := [nullness, equality]

def name : Predicate → String
  | nullness => "NULLNESS"
  | collection => "COLLECTION"
  | relational => "RELATIONAL"
  | equality => "EQUALITY"

/-- The predicate in the form of a variant name, as descriptions of expectations show it. -/
def title : Predicate → String
  | nullness => "Nullness"
  | collection => "Collection"
  | relational => "Relational"
  | equality => "Equality"

/-- The one-character code that exports use. -/
def code : Predicate → Char
  | nullness => 'N'
  | collection => 'C'
  | relational => 'R'
  | equality => 'E'

def ofCode? (code : Char) : Option Predicate := all.find? (fun predicate => predicate.code = code)

def ofName? (name : String) : Option Predicate := all.find? (fun predicate => predicate.name = name)

def isComparable (predicate : Predicate) : Bool := comparable.contains predicate

def isDistinguishable (predicate : Predicate) : Bool := distinguishable.contains predicate

/-- The predicates listed after this one. -/
def greater (predicate : Predicate) : List Predicate :=
  (all.dropWhile (fun other => other ≠ predicate)).drop 1

end Predicate

/-- An operator or a predicate. -/
inductive Capability where
  | operator (operator : Operator)
  | predicate (predicate : Predicate)
deriving DecidableEq, Inhabited

namespace Capability

def all : List Capability := Operator.all.map operator ++ Predicate.all.map predicate

def name : Capability → String
  | operator op => op.name
  | predicate pred => pred.name

/-- What messages call the capability itself. -/
def noun : Capability → String
  | operator _ => "operator"
  | predicate _ => "predicate"

/-- What messages call a use of the capability, of which a rule tells the result type. -/
def usage : Capability → String
  | operator _ => "operation"
  | predicate _ => "predicate"

theorem mem_all (capability : Capability) : capability ∈ all := by
  cases capability with
  | operator op => cases op <;> decide
  | predicate pred => cases pred <;> decide

end Capability

/-! ### Sets of capabilities -/

/-- A set of operators, or of predicates. Sets with the same members are the same set, whatever the
order in which the members were given. -/
structure CapabilitySet (α : Type) where
  has : α → Bool

namespace CapabilitySet

variable {α : Type} [DecidableEq α]

def empty : CapabilitySet α := ⟨fun _ => false⟩

instance : Inhabited (CapabilitySet α) := ⟨empty⟩

def ofList (members : List α) : CapabilitySet α := ⟨fun member => members.contains member⟩

def union (first second : CapabilitySet α) : CapabilitySet α :=
  ⟨fun member => first.has member || second.has member⟩

/-- The members among `all`, in its order. -/
def toList (set : CapabilitySet α) (all : List α) : List α := all.filter set.has

end CapabilitySet

end Metamodel
