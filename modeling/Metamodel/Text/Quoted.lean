/-
Quoted texts, as messages show them.

A quoted text stands between double quotes. Quotes and backslashes in it take a backslash, tab,
line feed, carriage return and the null character have a short form each, and any other character
that would not be seen is written by its code point in hexadecimal digits. Apostrophes and visible
characters of any script stay as they are.
-/

import Metamodel.Text.CharacterTables

namespace Metamodel.Text

/-- A code point between braces, in hexadecimal digits without leading zeros. -/
def escapeCode (char : Char) : List Char :=
  ['\\', 'u', '\x7b'] ++ Nat.toDigits 16 char.toNat ++ ['\x7d']

def escapeChar (char : Char) : List Char :=
  if char = '"' then ['\\', '"']
  else if char = '\\' then ['\\', '\\']
  else if char = '\t' then ['\\', 't']
  else if char = '\n' then ['\\', 'n']
  else if char = '\r' then ['\\', 'r']
  else if char.toNat = 0 then ['\\', '0']
  else if isHidden char then escapeCode char
  else [char]

/-- A text between double quotes. -/
def quoted (text : String) : String :=
  String.ofList (['"'] ++ text.toList.flatMap escapeChar ++ ['"'])

/-- Parts between brackets, separated by a comma and a space. -/
def bracketed (parts : List String) : String := "[" ++ String.intercalate ", " parts ++ "]"

/-- A list of texts, each of them quoted. -/
def quotedList (texts : List String) : String := bracketed (texts.map quoted)

/-- What may be absent: the given part, named as present, or the word for absence. -/
def presence (part : Option String) : String :=
  match part with
  | none => "None"
  | some text => "Some(" ++ text ++ ")"

/-- Named parts between braces after a title. -/
def described (title : String) (parts : List (String × String)) : String :=
  title ++ " \x7b " ++ String.intercalate ", " (parts.map fun part => part.1 ++ ": " ++ part.2) ++
    " \x7d"

end Metamodel.Text
