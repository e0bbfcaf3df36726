/-
The standard types: numbers, texts, truth values and points in time.

Each carries the tag under which the host program knows it, so that literals and the default results
of predicates find it whatever it is called.
-/

import Metamodel.Draft

namespace Metamodel

namespace StandardTypes

def sketch (name : String) (tag : HostTag) (operators : List Operator)
    (predicates : List Predicate) : TypeSketch where
  decl := { name, tag := some tag }
  operators := .ofList operators
  predicates := .ofList predicates

def all : List TypeSketch := [
  sketch "Integer" .integer Operator.arithmetic Predicate.comparable,
  sketch "Decimal" .decimal Operator.arithmetic Predicate.comparable,
  sketch "String" .text [.plus] Predicate.comparable,
  sketch "Boolean" .boolean [.not] Predicate.distinguishable,
  sketch "Timestamp" .timestamp [.plus, .minus] Predicate.comparable,
  sketch "Interval" .interval [.plus, .minus] Predicate.distinguishable]

end StandardTypes

/-- The draft with the standard types declared. -/
def Draft.declareStandardTypes (draft : Draft) : Draft :=
  StandardTypes.all.foldl Draft.declareType draft

end Metamodel
