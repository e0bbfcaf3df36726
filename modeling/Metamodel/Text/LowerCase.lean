/-
Full lower-casing of a text.

Most characters are mapped one by one. Two are not: the dotted capital I becomes an i followed by a
combining dot, and a capital sigma becomes a final sigma where it ends a word. It ends a word when,
passing over the characters that do not count, a letter with case comes before it and none after.
-/

import Metamodel.Text.CharacterTables

namespace Metamodel.Text

/-- The lower-case counterpart of a character under a list of sorted runs. -/
def lowerUnder : List CaseRun → Char → Char
  | [], char => char
  | run :: rest, char =>
    let code := char.toNat
    if code ≤ run.last then
      if run.first ≤ code ∧ (code - run.first) % run.stride = 0 then
        Char.ofNat (code + run.offset).toNat
      else char
    else lowerUnder rest char

/-- Lower case of a character by itself. -/
def lowerChar (char : Char) : List Char :=
  if char = 'İ' then ['i', '\u0307']
  else if char.toNat < 128 then [char.toLower]
  else [lowerUnder caseRuns char]

/-- Whether the first character that counts is a letter with case. -/
def meetsCased (chars : List Char) : Bool :=
  match chars.dropWhile isCaseIgnorable with
  | [] => false
  | char :: _ => isCased char

/-- Lower case of the characters that follow `before`, which is given nearest first. -/
def lowerAfter (before : List Char) : List Char → List Char
  | [] => []
  | char :: rest =>
    let lowered :=
      if char = 'Σ' then
        if meetsCased before && !meetsCased rest then ['ς'] else ['σ']
      else lowerChar char
    lowered ++ lowerAfter (char :: before) rest

def lowerCase (text : String) : String := String.ofList (lowerAfter [] text.toList)

end Metamodel.Text
