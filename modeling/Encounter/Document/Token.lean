import Encounter.Document.Gap
import Encounter.Document.Number
import Encounter.Document.Quoted
import Encounter.Text.Identifier

/-!
# Tokens of a document

A document is read as a list of tokens; the gaps between them are dropped.  A range, two dots
between bounds that may be missing, is a single token, and so is a bracket without anything in it,
not even a blank.
-/

namespace Encounter.Document

structure Word where
  text : String
  raw : Bool := false
  deriving DecidableEq, Repr

namespace Word

def isKeyword (word : Word) (keyword : String) : Bool :=
  !word.raw && word.text == keyword

def isNumber (word : Word) : Bool :=
  !word.raw && Number.isNumber word.text.toList

end Word

inductive Token where
  /-- A bracket or another single mark, but not the next one. -/
  | mark (c : Char)
  /-- A round bracket that opens, and the text behind it. -/
  | opening (behind : List Char)
  | unit
  | word (word : Word)
  | number (literal : List Char)
  | text (content : String)
  /-- A range, a character, a byte or a string of bytes; no field takes one, so its content is
  dropped. -/
  | blob
  deriving DecidableEq, Repr

namespace Token

def isMark (c : Char) : Bool :=
  [')', '[', ']', '\x7b', '\x7d', ',', ':', '#', '!', '='].contains c

def isRawWordChar (c : Char) : Bool :=
  Text.Identifier.isContinue c || c == '.' || c == '+' || c == '-'

def plainWord (c : Char) (rest : List Char) : Word × List Char :=
  ({ text := String.ofList (c :: rest.takeWhile Text.Identifier.isContinue) },
    rest.dropWhile Text.Identifier.isContinue)

def bound? : List Char → Option (Token × List Char)
  | [] => none
  | 'b' :: '\'' :: rest => (Quoted.dropByte? rest).map (.blob, ·)
  | c :: rest =>
      if Number.isStart c then
        let (literal, left) := Number.split (c :: rest)
        if Number.isNumber literal then some (.number literal, left) else none
      else if Text.Identifier.isStart c then
        let (name, left) := plainWord c rest
        if name.isNumber then some (.word name, left) else none
      else none

/-- What is left behind the upper bound of a range, given what follows the two dots.  A bound may be
missing, unless an equals sign says that it belongs to the range. -/
def dropUpper (s : List Char) : List Char :=
  let upper := match s with
    | '=' :: rest => bound? rest
    | _ => bound? s
  upper.elim s Prod.snd

def afterR (rest : List Char) : Option (Token × List Char) :=
  match rest with
  | '"' :: _ => (Quoted.rawText? rest).map fun (content, left) => (.text content, left)
  | '#' :: c :: _ =>
      if isRawWordChar c then
        some (.word { text := String.ofList ((rest.drop 1).takeWhile isRawWordChar), raw := true },
          (rest.drop 1).dropWhile isRawWordChar)
      else (Quoted.rawText? rest).map fun (content, left) => (.text content, left)
  | ['#'] => none
  | _ =>
      let (name, left) := plainWord 'r' rest
      some (.word name, left)

def afterB (rest : List Char) : Option (Token × List Char) :=
  match rest with
  | '"' :: content => (Quoted.dropBytes? content).map (.blob, ·)
  | '\'' :: _ => none
  | 'r' :: '"' :: _ | 'r' :: '#' :: _ =>
      (Quoted.rawText? (rest.drop 1)).map fun (_, left) => (.blob, left)
  | _ =>
      let (name, left) := plainWord 'b' rest
      some (.word name, left)

/-- The token that starts with `c` and bounds no range, and what is left. -/
def readOther? (c : Char) (rest : List Char) : Option (Token × List Char) :=
  if c = '(' then
    if rest.head? = some ')' then some (.unit, rest.drop 1) else some (.opening rest, rest)
  else if isMark c then some (.mark c, rest)
  else if c = '.' ∧ rest.head? = some '.' then some (.blob, dropUpper (rest.drop 1))
  else if c = '"' then (Quoted.text? rest).map fun (content, left) => (.text content, left)
  else if c = '\'' then (Quoted.dropCharacter? rest).map (.blob, ·)
  else if c = 'r' then afterR rest
  else if c = 'b' then afterB rest
  else if Text.Identifier.isStart c then
    let (name, left) := plainWord c rest
    some (.word name, left)
  else none

def read? (c : Char) (rest : List Char) : Option (Token × List Char) :=
  match bound? (c :: rest) with
  | some (_, '.' :: '.' :: left) => some (.blob, dropUpper left)
  | some bound => some bound
  | none => readOther? c rest

def readAll : Nat → List Char → Option (List Token)
  | 0, _ => none
  | steps + 1, s =>
      match Gap.dropWithin steps s with
      | none => none
      | some [] => some []
      | some (c :: rest) =>
          match read? c rest with
          | some (token, left) => (readAll steps left).map (token :: ·)
          | none => none

def ofText? (s : List Char) : Option (List Token) :=
  readAll (s.length + 1) s

end Token

end Encounter.Document
