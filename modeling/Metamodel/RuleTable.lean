/-
The rules of a model, and the registrations they come from.

A rule is registered for a type, by name or by tag, and for a capability of it. In a model it is
filed under the name of the type and, when the type has a tag, under the tag as well.
-/

import Metamodel.Capability
import Metamodel.Keyed
import Metamodel.Rule
import Metamodel.TypeInfo

namespace Metamodel

/-- Rules by type and capability. -/
structure RuleTable where
  byName : Table (String × Capability) OperandRule
  byTag : Table (HostTag × Capability) OperandRule

namespace RuleTable

def empty : RuleTable := ⟨Keyed.empty, Keyed.empty⟩

instance : Inhabited RuleTable := ⟨empty⟩

def get? (table : RuleTable) (name : String) (capability : Capability) : Option OperandRule :=
  table.byName.get? (name, capability)

def getByTag? (table : RuleTable) (tag : HostTag) (capability : Capability) :
    Option OperandRule :=
  table.byTag.get? (tag, capability)

/-- File a rule under the name of a type, and under its tag if it has one. -/
def insert (table : RuleTable) (type : TypeInfo) (capability : Capability) (rule : OperandRule) :
    RuleTable where
  byName := table.byName.set (type.name, capability) rule
  byTag :=
    match type.tag with
    | some tag => table.byTag.set (tag, capability) rule
    | none => table.byTag

end RuleTable

/-! ### Registrations -/

/-- Rules as they were registered for operators, or for predicates. Registering again for the same
type and capability replaces the rule where it stands. -/
structure Registrations (α : Type) where
  byName : Table String (Table α OperandRule)
  byTag : Table HostTag (Table α OperandRule)

namespace Registrations

variable {α : Type}

def empty : Registrations α := ⟨Keyed.empty, Keyed.empty⟩

instance : Inhabited (Registrations α) := ⟨empty⟩

variable [DecidableEq α]

/-- Add a rule to those already registered for a type. -/
def addRule {κ : Type} [DecidableEq κ] (table : Table κ (Table α OperandRule)) (target : κ)
    (capability : α) (rule : OperandRule) : Table κ (Table α OperandRule) :=
  table.set target (((table.get? target).getD Keyed.empty).set capability rule)

def register (registrations : Registrations α) (target : Reference) (capability : α)
    (rule : OperandRule) : Registrations α :=
  match target with
  | .named name => { registrations with byName := addRule registrations.byName name capability rule }
  | .tagged tag => { registrations with byTag := addRule registrations.byTag tag capability rule }

/-- The rule registered for a type by its name. -/
def get? (registrations : Registrations α) (name : String) (capability : α) : Option OperandRule :=
  (registrations.byName.get? name).bind (·.get? capability)

end Registrations

/-- A rule and what it was registered for. -/
structure Registration where
  target : Reference
  capability : Capability
  rule : OperandRule
deriving DecidableEq

/-- All registrations, those by name before those by tag, the rules for one type together. -/
def Registrations.toList {α : Type} (registrations : Registrations α)
    (capability : α → Capability) : List Registration :=
  let under := fun (target : Reference) (rules : Table α OperandRule) =>
    rules.items.map fun entry => (⟨target, capability entry.1, entry.2⟩ : Registration)
  registrations.byName.items.flatMap (fun entry => under (.named entry.1) entry.2) ++
    registrations.byTag.items.flatMap (fun entry => under (.tagged entry.1) entry.2)

end Metamodel
