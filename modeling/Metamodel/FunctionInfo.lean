/-
The functions of a sealed model.

A function may take more arguments than it declares, and fewer: the counts it accepts are bounds of
their own. Arguments without a declared type take any type, or any collection if so declared.
-/

import Metamodel.TypeInfo

namespace Metamodel

/-- How far the result of a function may be trusted to stay the same. -/
inductive Volatility where
  /-- The same arguments always give the same result. -/
  | immutable
  /-- The same arguments give the same result within one evaluation. -/
  | stable
  /-- Any two calls may differ. -/
  | volatile
deriving DecidableEq, Inhabited

namespace Volatility

def name : Volatility → String
  | immutable => "IMMUTABLE"
  | stable => "STABLE"
  | volatile => "VOLATILE"

def ofName? (name : String) : Option Volatility :=
  [immutable, stable, volatile].find? (fun volatility => volatility.name = name)

end Volatility

structure ArgumentInfo where
  /-- Absent for positional arguments. -/
  name : Option String
  index : Nat
  /-- The declared type, if any. -/
  handle : Option TypeHandle
  typeName : Option String
  collection : Bool
  metadata : Metadata

/-- What messages call an argument without a name; the first one has index 0. -/
def positionalName (index : Nat) : String := "argument" ++ toString (index + 1)

def ArgumentInfo.display (argument : ArgumentInfo) : String :=
  argument.name.getD (positionalName argument.index)

structure FunctionInfo where
  name : String
  arguments : List ArgumentInfo
  minimum : Nat
  /-- Absent when any number of further arguments is accepted. -/
  maximum : Option Nat
  /-- The declared result type, if any. -/
  result : Option TypeHandle
  resultName : Option String
  resultCollection : Bool
  volatility : Volatility
  metadata : Metadata

namespace FunctionInfo

def isVariadic (function : FunctionInfo) : Bool := function.maximum.isNone

/-- Whether a call with so many arguments is acceptable. -/
def accepts (function : FunctionInfo) (count : Nat) : Bool :=
  function.minimum ≤ count && function.maximum.all (fun maximum => count ≤ maximum)

def argument? (function : FunctionInfo) (name : String) : Option ArgumentInfo :=
  function.arguments.find? (fun argument => argument.name = some name)

/-- The names of the arguments in order; a function that declares none is given as many as a call
needs. -/
def argumentNames (function : FunctionInfo) : List String :=
  if function.arguments.isEmpty then (List.range function.minimum).map positionalName
  else function.arguments.map ArgumentInfo.display

/-- The function with its arguments, as listings show it. -/
def display (function : FunctionInfo) : String :=
  let more := if function.isVariadic then ["..."] else []
  function.name ++ "(" ++ String.intercalate ", " (function.argumentNames ++ more) ++ ")"

/-- The accepted counts as messages show them. -/
def countDisplay (function : FunctionInfo) : String :=
  match function.maximum with
  | some maximum =>
    if maximum = function.minimum then toString maximum
    else toString function.minimum ++ " to " ++ toString maximum
  | none => "at least " ++ toString function.minimum

end FunctionInfo

end Metamodel
