import Encounter.Text.Decimal
import Encounter.Text.Digit
import Encounter.World.Distance

/-!
# Number literals of a document

A literal is an integer in one of four radixes or a decimal with a point or an exponent, either
perhaps with underscores between the digits and with the name of its machine type behind it.  A
field decides which readings it takes: `unsigned?` reads an integer of a given width, `distance?` a
binary32 number, rounded once from the exact decimal.
-/

namespace Encounter.Document

structure IntegerType where
  name : String
  signed : Bool
  bits : Nat
  deriving DecidableEq, Repr

namespace IntegerType

def unsigned (bits : Nat) : IntegerType where
  name := "u" ++ bits.repr
  signed := false
  bits := bits

def signedOf (bits : Nat) : IntegerType where
  name := "i" ++ bits.repr
  signed := true
  bits := bits

def all : List IntegerType :=
  [8, 16, 32, 64].map unsigned ++ [8, 16, 32, 64].map signedOf

def holds (type : IntegerType) (value : Int) : Bool :=
  if type.signed then
    -Int.pow 2 (type.bits - 1) ≤ value && value < Int.pow 2 (type.bits - 1)
  else
    0 ≤ value && value < Int.pow 2 type.bits

end IntegerType

namespace Number

def splitSign : List Char → Bool × List Char
  | '+' :: rest => (false, rest)
  | '-' :: rest => (true, rest)
  | literal => (false, literal)

def splitRadix : List Char → Nat × List Char
  | '0' :: 'b' :: digits => (2, digits)
  | '0' :: 'o' :: digits => (8, digits)
  | '0' :: 'x' :: digits => (16, digits)
  | digits => (10, digits)

/-- The number that digits and underscores denote when `value` is in front of them. -/
def digitsOnto? (radix value : Nat) : List Char → Option Nat
  | [] => some value
  | '_' :: rest => digitsOnto? radix value rest
  | c :: rest => (Text.digit? radix c).bind fun d => digitsOnto? radix (value * radix + d) rest

def digits? (radix : Nat) : List Char → Option Nat
  | [] => none
  | '_' :: _ => none
  | run => digitsOnto? radix 0 run

def isIntegerChar (c : Char) : Bool :=
  (Text.digit? 16 c).isSome || c == '_'

def integer? (literal : List Char) : Option (Int × Option IntegerType) :=
  let (negative, body) := splitSign literal
  let (radix, digits) := splitRadix body
  let named := digits.dropWhile isIntegerChar
  let type := IntegerType.all.find? fun type => type.name.toList == named
  if named = [] ∨ type.isSome then
    (digits? radix (digits.takeWhile isIntegerChar)).map fun n =>
      (if negative then -(n : Int) else n, type)
  else none

/-- The value of a literal for an unsigned field of a given width.  A type that is named has to be
the field's own. -/
def unsigned? (bits : Nat) (literal : List Char) : Option Nat :=
  match integer? literal with
  | none => none
  | some (value, named) =>
      let type := IntegerType.unsigned bits
      if named.all (· == type) && type.holds value then some value.toNat else none

def isInteger (literal : List Char) : Bool :=
  (integer? literal).any fun (value, named) =>
    match named with
    | some type => type.holds value
    | none => (IntegerType.unsigned 64).holds value || (IntegerType.signedOf 64).holds value

structure Decimal where
  negative : Bool
  digits : Nat
  exponent : Int
  deriving DecidableEq, Repr

def Decimal.nearest (d : Decimal) : Distance :=
  Distance.ofDecimal d.negative d.digits d.exponent

def isDecimalChar (c : Char) : Bool :=
  c.isDigit || c == 'e' || c == 'E' || c == '.' || c == '+' || c == '-' || c == '_'

/-- Takes the underscores out of a decimal.  One may follow a digit or the mark of the exponent, but
neither the point nor the sign in front. -/
def dropUnderscores (allowed : Bool) : List Char → Option (List Char)
  | [] => some []
  | '_' :: rest => if allowed then dropUnderscores allowed rest else none
  | c :: rest =>
      let allowed := c.isDigit || c == 'e' || c == 'E' || (c != '.' && allowed)
      (dropUnderscores allowed rest).map (c :: ·)

def exponent? : List Char → Option Int
  | [] => some 0
  | c :: rest =>
      if c = 'e' ∨ c = 'E' then
        let (negative, run) := splitSign rest
        (Text.Decimal.digits? run).map fun n => if negative then -(n : Int) else n
      else none

/-- Reads a decimal without underscores: digits on at least one side of an optional point, then
perhaps an exponent. -/
def decimal? (s : List Char) : Option Decimal :=
  let (negative, body) := splitSign s
  let whole := body.takeWhile Char.isDigit
  let (fraction, rest) :=
    match body.dropWhile Char.isDigit with
    | '.' :: rest => (rest.takeWhile Char.isDigit, rest.dropWhile Char.isDigit)
    | rest => ([], rest)
  match Text.Decimal.digits? (whole ++ fraction), exponent? rest with
  | some digits, some exponent => some { negative, digits, exponent := exponent - fraction.length }
  | _, _ => none

def splitDecimal? (literal : List Char) : Option (Decimal × List Char) :=
  ((dropUnderscores false (literal.takeWhile isDecimalChar)).bind decimal?).map
    (·, literal.dropWhile isDecimalChar)

def splitSpecial? (literal : List Char) : Option (Distance × List Char) :=
  let (negative, body) := splitSign literal
  match "inf".toList.isPrefixOf? body, "NaN".toList.isPrefixOf? body with
  | some rest, _ => some (.infinity negative, rest)
  | none, some rest => some (.notANumber negative, rest)
  | none, none => none

def distance? (literal : List Char) : Option Distance :=
  let finite := (splitDecimal? literal).map fun (d, rest) => (d.nearest, rest)
  match (splitSpecial? literal).or finite with
  | some (distance, rest) => if rest = [] ∨ rest = "f32".toList then some distance else none
  | none => none

/-- Whether a literal is a number with a point, an exponent or no finite value, perhaps with its
type. -/
def isFloat (literal : List Char) : Bool :=
  match ((splitSpecial? literal).map Prod.snd).or ((splitDecimal? literal).map Prod.snd) with
  | some rest => rest == [] || rest == "f32".toList || rest == "f64".toList
  | none => false

def isNumber (literal : List Char) : Bool :=
  isInteger literal || isFloat literal

def isStart (c : Char) : Bool :=
  c.isDigit || c == '.' || c == '+' || c == '-'

def isContinue (c : Char) : Bool :=
  c.isAlphanum || c == '_' || c == '.' || c == '+' || c == '-'

/-- The literal at the front of a text, and what is left.  Two dots in a row are no part of it. -/
def split : List Char → List Char × List Char
  | [] => ([], [])
  | c :: rest =>
      if isContinue c && !(c == '.' && rest.head? == some '.') then
        let (literal, left) := split rest
        (c :: literal, left)
      else ([], c :: rest)

end Number

end Encounter.Document
