/-
Rules for the type of a result.

A rule is data: it says which type an operator, a predicate or a function yields, and is only
consulted in a sealed model, in which it looks its types up by name or tag. Besides the rules in
stock there are those that users bring along, of which no more is known here than which ones they
are. The text of a rule appears in messages, where it stands for the registration that went wrong.
-/

import Metamodel.Reference
import Metamodel.Text.Quoted

namespace Metamodel

/-- A rule of the user's own: which one it is, and its text in messages. -/
structure CustomRule where
  identity : Nat
  text : String
deriving DecidableEq, Inhabited

/-- The result type of an operator or a predicate. -/
inductive OperandRule where
  /-- Always the same type. -/
  | fixed (target : Reference)
  /-- The same type, if every operand has one of the supported types. -/
  | restricted (result : Reference) (supported : List String)
  /-- The same type, if every operand has one of the types supported at its place. -/
  | operandRestricted (result : Reference) (supported : List (List String))
  /-- The operand type that comes first in a list from the widest to the narrowest. -/
  | widest (precedence : List String)
  | custom (rule : CustomRule)
deriving DecidableEq, Inhabited

/-- The result type of a function. -/
inductive FunctionRule where
  /-- Always the same type. -/
  | fixed (target : Reference)
  /-- The argument type that comes first in a list from the widest to the narrowest. -/
  | widest (precedence : List String)
  /-- The type of the first argument. -/
  | firstArgument
  | custom (rule : CustomRule)
deriving DecidableEq, Inhabited

def OperandRule.isStock : OperandRule → Bool
  | custom _ => false
  | _ => true

def FunctionRule.isStock : FunctionRule → Bool
  | custom _ => false
  | _ => true

open Text

/-! ### Rules in messages -/

def HostTag.describe (tag : HostTag) : String := "HostTypeTag(" ++ quoted tag.id ++ ")"

def Reference.describe : Reference → String
  | named name => "Name(" ++ quoted name ++ ")"
  | tagged tag => "Tag(" ++ tag.describe ++ ")"

def OperandRule.describe : OperandRule → String
  | fixed target => described "FixedTypeResolver" [("target", target.describe)]
  | restricted result supported =>
    described "RestrictedTypeResolver"
      [("result", result.describe), ("supported", quotedList supported)]
  | operandRestricted result supported =>
    described "OperandRestrictedTypeResolver"
      [("result", result.describe),
        ("supported_per_operand", bracketed (supported.map quotedList))]
  | widest precedence => described "WidestTypeResolver" [("precedence", quotedList precedence)]
  | custom rule => rule.text

def FunctionRule.describe : FunctionRule → String
  | fixed target => described "FixedTypeResolver" [("target", target.describe)]
  | widest precedence => described "WidestTypeResolver" [("precedence", quotedList precedence)]
  | firstArgument => "FirstArgumentTypeResolver"
  | custom rule => rule.text

end Metamodel
