/-
Values attached to declarations.

A declaration carries at most one value of each kind, and attaching a second one replaces the first.
Users bring whatever kinds they need. Their values are kept and copied and otherwise left alone; only
documentation is read, to be shown in exports.
-/

import Metamodel.Keyed
import Metamodel.Text.Quoted

namespace Metamodel

/-- A value as it is kept, whatever its kind. -/
inductive Datum where
  | text (content : String)
  | integer (value : Int)
  | flag (value : Bool)
  /-- A value of which nothing is known but which one it is. -/
  | foreign (identity : Nat)
deriving DecidableEq, Inhabited

/-- A kind of values: its full name, and how its values are kept. -/
structure MetadataKind (α : Type) where
  name : String
  keep : α → Datum
  read? : Datum → Option α
  read?_keep : ∀ value, read? (keep value) = some value

namespace MetadataKind

/-- The kind of plain texts, and of other texts by another name. -/
def text (name : String) : MetadataKind String where
  name
  keep := .text
  read?
    | .text content => some content
    | _ => none
  read?_keep _ := rfl

def string : MetadataKind String := text "alloc::string::String"

def documentation : MetadataKind String := text "domain_core::metadata::Documentation"

def integer : MetadataKind Int where
  name := "i64"
  keep := .integer
  read?
    | .integer value => some value
    | _ => none
  read?_keep _ := rfl

def flag : MetadataKind Bool where
  name := "bool"
  keep := .flag
  read?
    | .flag value => some value
    | _ => none
  read?_keep _ := rfl

end MetadataKind

/-- The values attached to a declaration, under the names of their kinds. -/
structure Metadata where
  entries : Table String Datum
deriving Inhabited

namespace Metadata

variable {α β : Type}

def empty : Metadata := ⟨Keyed.empty⟩

/-- Attach a value, in place of one of the same kind. -/
def insert (metadata : Metadata) (kind : MetadataKind α) (value : α) : Metadata :=
  ⟨metadata.entries.set kind.name (kind.keep value)⟩

def get? (metadata : Metadata) (kind : MetadataKind α) : Option α :=
  (metadata.entries.get? kind.name).bind kind.read?

def contains (metadata : Metadata) (kind : MetadataKind α) : Bool :=
  metadata.entries.contains kind.name

/-- All values of both, those of `later` where both have one. -/
def extend (earlier later : Metadata) : Metadata :=
  ⟨earlier.entries.insertAll later.entries.items⟩

def documented (content : String) : Metadata := empty.insert .documentation content

def documentation (metadata : Metadata) : Option String := metadata.get? .documentation

/-- The kinds of the attached values by their names, in alphabetical order. -/
def kinds (metadata : Metadata) : List String := metadata.entries.keys.mergeSort (· ≤ ·)

def size (metadata : Metadata) : Nat := metadata.entries.size

def isEmpty (metadata : Metadata) : Bool := metadata.entries.isEmpty

/-- The kinds of the attached values, as a set in words. -/
def describe (metadata : Metadata) : String :=
  "\x7b" ++ String.intercalate ", " (metadata.kinds.map Text.quoted) ++ "\x7d"

theorem get?_insert_self (metadata : Metadata) (kind : MetadataKind α) (value : α) :
    (metadata.insert kind value).get? kind = some value := by
  unfold get? insert
  rw [Table.get?_set_self, Option.bind_some, kind.read?_keep]

theorem get?_insert_other (metadata : Metadata) (kind : MetadataKind α) (value : α)
    {wanted : MetadataKind β} (other : wanted.name ≠ kind.name) :
    (metadata.insert kind value).get? wanted = metadata.get? wanted := by
  unfold get? insert
  rw [Table.get?_set_other _ _ other]

end Metadata

end Metamodel
