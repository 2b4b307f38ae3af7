import InterfaceSync.Data.Datum
import InterfaceSync.Text.HexDigit

/-!
# Unquoted values of TOML

The words for truth values and for the numbers that are none, whole numbers in four bases, numbers
with a fraction or an exponent, and points in time.

Nothing here calculates with numbers, so all that is asked of one is that it is well formed and not
out of range: a whole number must fit into 128 bits, with a sign or without, and a number with a
fraction or an exponent must not be rounded to infinity when it is stored with 53 binary digits.
-/

namespace InterfaceSync.Toml

/-- The characters of an unquoted value. -/
def isScalarChar (c : Char) : Bool :=
  c.isAlphanum || c == '+' || c == '-' || c == '_' || c == '.' || c == ':'

/-- The digits of a text in which underscores stand between digits only, without the underscores;
`none` if it has another form or no digit. -/
def digits? (isDigit : Char → Bool) : List Char → Option (List Char)
  | [] => none
  | [c] => if isDigit c then some [c] else none
  | c :: '_' :: rest => if isDigit c then (digits? isDigit rest).map (c :: ·) else none
  | c :: rest => if isDigit c then (digits? isDigit rest).map (c :: ·) else none

/-- A text without the sign in front of it, and whether that is a minus. -/
def splitSign (text : List Char) : Bool × List Char :=
  match text with
  | '-' :: rest => (true, rest)
  | '+' :: rest => (false, rest)
  | _ => (false, text)

/-- The digits of a whole number in base ten, which do not begin with a zero that could be left
out. -/
def wholeDigits? (text : List Char) : Option (List Char) :=
  (digits? Char.isDigit text).filter fun digits => digits.length == 1 || digits.head? != some '0'

/-- Whether a number in base ten fits into 128 bits. -/
def isInRange (negative : Bool) (n : Nat) : Bool :=
  if negative then decide (n ≤ Nat.pow 2 127) else decide (n < Nat.pow 2 128)

/-- Whether a text is a whole number in base ten. -/
def isDecimal (text : List Char) : Bool :=
  let (negative, rest) := splitSign text
  (wholeDigits? rest).any fun digits => isInRange negative (Text.numberInBase 10 digits)

/-- Whether a text consists of digits of a base and the number fits into 128 bits. -/
def isInBase (base : Nat) (text : List Char) : Bool :=
  (digits? (fun c => (Text.hexDigit? c).any fun d => decide (d < base)) text).any fun digits =>
    isInRange false (Text.numberInBase base digits)

/-- Whether a text is a whole number. -/
def isWhole (text : List Char) : Bool :=
  match text with
  | '0' :: 'x' :: rest => isInBase 16 rest
  | '0' :: 'o' :: rest => isInBase 8 rest
  | '0' :: 'b' :: rest => isInBase 2 rest
  | _ => isDecimal text

/-- A number with a fraction or an exponent: the digits in front of the point, those behind it, and
the exponent of ten. -/
structure Fractional where
  whole : List Char
  fraction : List Char
  exponent : Int
  deriving DecidableEq, Repr

namespace Fractional

/-- Whether the number is at least the midpoint between the greatest number with 53 binary digits and
an exponent below 1024 and the next one that would follow.  A look at the position of the first digit
comes first and settles the matter except near the border. -/
def isTooGreat (x : Fractional) : Bool :=
  let digits := (x.whole ++ x.fraction).dropWhile (· == '0')
  if digits.isEmpty then false
  else
    let scale := x.exponent - x.fraction.length
    let magnitude := scale + digits.length
    if magnitude ≤ 300 then false
    else if 310 < magnitude then true
    else
      let n := Text.numberInBase 10 digits
      let border := Nat.pow 2 1024 - Nat.pow 2 970
      if 0 ≤ scale then decide (border ≤ n * Nat.pow 10 scale.toNat)
      else decide (border * Nat.pow 10 (-scale).toNat ≤ n)

/-- The number that an exponent writes. -/
def readExponent? (text : List Char) : Option Int :=
  let (negative, rest) := splitSign text
  (digits? Char.isDigit rest).map fun digits =>
    let n : Int := Text.numberInBase 10 digits
    if negative then -n else n

/-- Whether a character begins an exponent. -/
def startsExponent (c : Char) : Bool := c == 'e' || c == 'E'

/-- Reads a number with a fraction, an exponent, or both. -/
def read? (text : List Char) : Option Fractional := do
  let rest := (splitSign text).2
  let front := rest.takeWhile fun c => c != '.' && !startsExponent c
  let whole ← wholeDigits? front
  match rest.drop front.length with
  | '.' :: behind =>
    let middle := behind.takeWhile fun c => !startsExponent c
    let fraction ← digits? Char.isDigit middle
    match behind.drop middle.length with
    | [] => some ⟨whole, fraction, 0⟩
    | _ :: power => some ⟨whole, fraction, ← readExponent? power⟩
  | _ :: power => some ⟨whole, [], ← readExponent? power⟩
  | [] => none

end Fractional

/-- Whether a text is a number that is not whole: a fractional one in range, infinity, or the word for
what is not a number. -/
def isFractional (text : List Char) : Bool :=
  let word := (splitSign text).2
  word == "inf".toList || word == "nan".toList
    || (Fractional.read? text).any fun x => !x.isTooGreat

end InterfaceSync.Toml
