/-
JSON values and their text.

An object keeps its members as they were given; they are put in the order of their names when the
object is written. Text is written either compactly or over several lines, with two blanks for each
level.
-/

namespace Metamodel

inductive Json where
  | null
  | boolean (value : Bool)
  | integer (value : Int)
  | text (value : String)
  | array (elements : List Json)
  | object (members : List (String × Json))

namespace Json

/-! ### Members that may be left out -/

def memberOf (name : String) (value : Option Json) : List (String × Json) :=
  (value.map (name, ·)).toList

/-- A list, unless it is empty. -/
def memberOfList (name : String) (elements : List Json) : List (String × Json) :=
  if elements.isEmpty then [] else [(name, .array elements)]

/-- A flag, unless it is down. -/
def memberOfFlag (name : String) (flag : Bool) : List (String × Json) :=
  if flag then [(name, .boolean true)] else []

/-! ### Writing -/

def escapeChar (char : Char) : List Char :=
  if char = '"' then ['\\', '"']
  else if char = '\\' then ['\\', '\\']
  else if char = '\n' then ['\\', 'n']
  else if char = '\r' then ['\\', 'r']
  else if char = '\t' then ['\\', 't']
  else if char = '\x08' then ['\\', 'b']
  else if char = '\x0c' then ['\\', 'f']
  else if char.toNat < 16 then ['\\', 'u', '0', '0', '0'] ++ Nat.toDigits 16 char.toNat
  else if char.toNat < 32 then ['\\', 'u', '0', '0'] ++ Nat.toDigits 16 char.toNat
  else [char]

def writeText (text : String) : String :=
  String.ofList (['"'] ++ text.toList.flatMap escapeChar ++ ['"'])

/-- Written members in the order of their names. -/
def inOrder (members : List (String × String)) : List (String × String) :=
  members.mergeSort (fun first second => first.1 ≤ second.1)

mutual

/-- The value without any blanks. -/
def write : Json → String
  | null => "null"
  | boolean value => if value then "true" else "false"
  | integer value => toString value
  | text value => writeText value
  | array elements => "[" ++ String.intercalate "," (writeElements elements) ++ "]"
  | object members =>
    "\x7b" ++ String.intercalate ","
      ((inOrder (writeMembers members)).map fun member => writeText member.1 ++ ":" ++ member.2) ++
      "\x7d"

def writeElements : List Json → List String
  | [] => []
  | element :: rest => write element :: writeElements rest

def writeMembers : List (String × Json) → List (String × String)
  | [] => []
  | (name, value) :: rest => (name, write value) :: writeMembers rest

end

/-- Lines between an opening and a closing mark, one level further in than the marks. -/
def block (level : Nat) (first last : String) (lines : List String) : String :=
  if lines.isEmpty then first ++ last
  else
    let blanks := fun level => String.ofList (List.replicate (2 * level) ' ')
    first ++ "\n" ++
      String.intercalate ",\n" (lines.map fun line => blanks (level + 1) ++ line) ++
      "\n" ++ blanks level ++ last

mutual

/-- The value over several lines; `level` is the depth at which it stands. -/
def writeLines (level : Nat) : Json → String
  | null => "null"
  | boolean value => if value then "true" else "false"
  | integer value => toString value
  | text value => writeText value
  | array elements => block level "[" "]" (writeElementLines (level + 1) elements)
  | object members =>
    block level "\x7b" "\x7d"
      ((inOrder (writeMemberLines (level + 1) members)).map fun member =>
        writeText member.1 ++ ": " ++ member.2)

def writeElementLines (level : Nat) : List Json → List String
  | [] => []
  | element :: rest => writeLines level element :: writeElementLines level rest

def writeMemberLines (level : Nat) : List (String × Json) → List (String × String)
  | [] => []
  | (name, value) :: rest => (name, writeLines level value) :: writeMemberLines level rest

end

def writePretty (value : Json) : String := writeLines 0 value

end Json

end Metamodel
