/-
Names, and when two of them count as the same.

A table of names either tells every spelling apart or folds the spelling before it compares. Which
folding that is does not matter to the table, so it is carried along: everything said about a
folding table holds for any folding. The one in use is full lower-casing.
-/

import Metamodel.Keyed
import Metamodel.Text.LowerCase

namespace Metamodel

/-- How the names of a table are compared. -/
inductive Casing where
  /-- Every spelling is a name of its own. -/
  | sensitive
  /-- Spellings with the same folded form are one name. -/
  | folding (fold : String → String)

namespace Casing

instance : Inhabited Casing := ⟨sensitive⟩

/-- Names that differ only in letter case are one name. -/
def insensitive : Casing := folding Text.lowerCase

def ofSensitive (flag : Bool) : Casing := if flag then sensitive else insensitive

def isSensitive : Casing → Bool
  | sensitive => true
  | folding _ => false

/-- What a name is compared by. -/
def key : Casing → String → String
  | sensitive, name => name
  | folding fold, name => fold name

/-- The clashes among names under a casing. -/
def nameClashes (casing : Casing) (names : List String) : List (String × String) :=
  Keyed.clashes (fun name => some (casing.key name)) names

end Casing

/-- Values under names. A name given again replaces the value and the spelling of the first one and
keeps its place. -/
structure NameTable (α : Type) where
  casing : Casing
  entries : Keyed (fun entry : String × α => casing.key entry.1)

namespace NameTable

variable {α : Type}

def empty (casing : Casing) : NameTable α := ⟨casing, Keyed.empty⟩

instance : Inhabited (NameTable α) := ⟨empty .sensitive⟩

/-- The name as it was last spelled, with its value. -/
def find? (table : NameTable α) (name : String) : Option (String × α) :=
  table.entries.find? (table.casing.key name)

def get? (table : NameTable α) (name : String) : Option α := (table.find? name).map Prod.snd

def contains (table : NameTable α) (name : String) : Bool := (table.find? name).isSome

def insert (table : NameTable α) (name : String) (value : α) : NameTable α where
  casing := table.casing
  entries := table.entries.insert (name, value)

/-- Insert a value and give back the entry whose place it took. -/
def exchange (table : NameTable α) (name : String) (value : α) :
    Option (String × α) × NameTable α :=
  (table.find? name, table.insert name value)

def insertAll (table : NameTable α) (entries : List (String × α)) : NameTable α :=
  entries.foldl (fun table entry => table.insert entry.1 entry.2) table

def ofList (casing : Casing) (entries : List (String × α)) : NameTable α :=
  (empty casing).insertAll entries

def toList (table : NameTable α) : List (String × α) := table.entries.items

def names (table : NameTable α) : List String := table.toList.map Prod.fst

def values (table : NameTable α) : List α := table.toList.map Prod.snd

def size (table : NameTable α) : Nat := table.entries.size

def isEmpty (table : NameTable α) : Bool := table.entries.isEmpty

theorem find?_insert_self (table : NameTable α) (name : String) (value : α) :
    (table.insert name value).find? name = some (name, value) :=
  Keyed.find?_insert_self table.entries (name, value)

theorem find?_insert_other (table : NameTable α) {name wanted : String} (value : α)
    (other : table.casing.key wanted ≠ table.casing.key name) :
    (table.insert name value).find? wanted = table.find? wanted :=
  Keyed.find?_insert_other table.entries (name, value) other

end NameTable

end Metamodel
