/-
Reading numbers: which texts are 64-bit integers, and which are decimal fractions.

An integer is refused with the reason that comes first from the left. A fraction is a matter of form
alone: one too large for a binary fraction of 64 bits is still one, it becomes infinite.
-/

namespace Metamodel.Text

/-- Why a text is not a number. -/
inductive NumberFault where
  | emptyInteger
  | invalidDigit
  | tooLarge
  | tooSmall
  | notDecimal
deriving DecidableEq, Inhabited

def NumberFault.message : NumberFault → String
  | emptyInteger => "cannot parse integer from empty string"
  | invalidDigit => "invalid digit found in string"
  | tooLarge => "number too large to fit in target type"
  | tooSmall => "number too small to fit in target type"
  | notDecimal => "invalid float literal"

/-! ### Integers -/

/-- Read digits from the left, as long as the number stays within the limit. -/
def readDigits (limit : Nat) (beyond : NumberFault) (sofar : Nat) :
    List Char → Except NumberFault Nat
  | [] => .ok sofar
  | char :: rest =>
    if char.isDigit then
      let next := sofar * 10 + (char.toNat - '0'.toNat)
      if limit < next then .error beyond else readDigits limit beyond next rest
    else .error .invalidDigit

/-- The 64-bit integer that a text stands for, with an optional sign in front. -/
def readInteger (chars : List Char) : Except NumberFault Int :=
  match chars with
  | [] => .error .emptyInteger
  | ['+'] | ['-'] => .error .invalidDigit
  | '-' :: digits => (readDigits 9223372036854775808 .tooSmall 0 digits).map fun size => -(size : Int)
  | '+' :: digits => (readDigits 9223372036854775807 .tooLarge 0 digits).map Int.ofNat
  | digits => (readDigits 9223372036854775807 .tooLarge 0 digits).map Int.ofNat

/-! ### Decimal fractions -/

def dropSign : List Char → List Char
  | '+' :: rest => rest
  | '-' :: rest => rest
  | chars => chars

/-- The end of a fraction: nothing, or an exponent with at least one digit. -/
def isExponent : List Char → Bool
  | [] => true
  | mark :: rest =>
    let digits := dropSign rest
    (mark = 'e' || mark = 'E') && !digits.isEmpty && digits.all Char.isDigit

/-- An optional sign, digits around an optional point with one digit at least, and an optional
exponent. -/
def isDecimal (chars : List Char) : Bool :=
  let chars := dropSign chars
  let whole := chars.takeWhile Char.isDigit
  let rest := chars.dropWhile Char.isDigit
  match rest with
  | '.' :: rest =>
    let fraction := rest.takeWhile Char.isDigit
    (!whole.isEmpty || !fraction.isEmpty) && isExponent (rest.dropWhile Char.isDigit)
  | _ => !whole.isEmpty && isExponent rest

end Metamodel.Text
