import Encounter.Text.Digit

/-!
# Quoted things of a document

Texts, strings of bytes and single characters stand in quotes.  A backslash starts an escape, which
stands for a byte or for a character; in a text, escapes in a row may stand for the bytes of one
character.  Raw texts have no escapes and end at a quote with as many hashes as they opened with.
-/

namespace Encounter.Document.Quoted

inductive Escape where
  | byte (b : UInt8)
  | character (c : Char)
  deriving DecidableEq, Repr

def simple? : Char → Option UInt8
  | '\'' => some 39
  | '"' => some 34
  | '\\' => some 92
  | 'n' => some 10
  | 'r' => some 13
  | 't' => some 9
  | '0' => some 0
  | _ => none

def hexadecimal? (run : List Char) : Option Nat :=
  run.foldlM (fun value c => (Text.digit? 16 c).map (value * 16 + ·)) 0

def character? (code : Nat) : Option Char :=
  if code.isValidChar then some (Char.ofNat code) else none

/-- The character that stands in braces as one to six hexadecimal digits, given what follows the
opening brace, and what is left. -/
def code? (s : List Char) : Option (Char × List Char) :=
  let run := s.takeWhile (· != '\x7d')
  match s.drop run.length with
  | [] => none
  | _ :: left =>
      if 0 < run.length ∧ run.length ≤ 6 then
        ((hexadecimal? run).bind character?).map (·, left)
      else none

def escape? : List Char → Option (Escape × List Char)
  | 'x' :: high :: low :: left =>
      (hexadecimal? [high, low]).map fun value => (.byte (UInt8.ofNat value), left)
  | 'u' :: '\x7b' :: rest => (code? rest).map fun (c, left) => (.character c, left)
  | c :: left => (simple? c).map fun b => (.byte b, left)
  | [] => none

def followers (first : UInt8) : Nat :=
  if first < 0xC0 then 0 else if first < 0xE0 then 1 else if first < 0xF0 then 2 else 3

def byteEscapes? : Nat → List Char → Option (List UInt8 × List Char)
  | 0, s => some ([], s)
  | count + 1, '\\' :: 'x' :: rest =>
      match escape? ('x' :: rest) with
      | some (.byte b, left) =>
          (byteEscapes? count left).map fun (bytes, left) => (b :: bytes, left)
      | _ => none
  | _ + 1, _ => none

def textEscape? (s : List Char) : Option (Char × List Char) :=
  match escape? s with
  | some (.character c, left) => some (c, left)
  | some (.byte first, left) =>
      match byteEscapes? (followers first) left with
      | some (bytes, left) =>
          ((String.fromUTF8? ⟨(first :: bytes).toArray⟩).bind (·.toList.head?)).map (·, left)
      | none => none
  | none => none

/-- What stands before the closing quote, which is the first one that is not behind a backslash,
and what is left. -/
def body? : List Char → Option (List Char × List Char)
  | [] => none
  | '"' :: left => some ([], left)
  | '\\' :: c :: rest => (body? rest).map fun (body, left) => ('\\' :: c :: body, left)
  | c :: rest => (body? rest).map fun (body, left) => (c :: body, left)

def isIndent (c : Char) : Bool :=
  c == ' ' || c == '\t' || c == '\n' || c == '\r'

/-- What a body holds, plain characters and escapes, in up to `steps` steps.  A backslash at the
end of a line continues the line with the first character behind it that is not blank. -/
def contentWithin {α : Type} (plain : Char → α) (escaped? : List Char → Option (α × List Char)) :
    Nat → List Char → Option (List α)
  | _, [] => some []
  | 0, _ :: _ => none
  | steps + 1, '\\' :: '\n' :: rest =>
      contentWithin plain escaped? steps (rest.dropWhile isIndent)
  | steps + 1, '\\' :: '\r' :: '\n' :: rest =>
      contentWithin plain escaped? steps (rest.dropWhile isIndent)
  | steps + 1, '\\' :: rest =>
      match escaped? rest with
      | some (a, left) => (contentWithin plain escaped? steps left).map (a :: ·)
      | none => none
  | steps + 1, c :: rest => (contentWithin plain escaped? steps rest).map (plain c :: ·)

def content? {α : Type} (plain : Char → α) (escaped? : List Char → Option (α × List Char))
    (body : List Char) : Option (List α) :=
  contentWithin plain escaped? body.length body

def text? (s : List Char) : Option (String × List Char) :=
  match body? s with
  | some (body, left) =>
      (content? id textEscape? body).map fun content => (String.ofList content, left)
  | none => none

def dropBytes? (s : List Char) : Option (List Char) :=
  match body? s with
  | some (body, left) => (content? .character escape? body).map fun _ => left
  | none => none

def rawContent (hashes : Nat) : List Char → Option (List Char × List Char)
  | [] => none
  | c :: rest =>
      if c = '"' ∧ (List.replicate hashes '#').isPrefixOf rest then some ([], rest.drop hashes)
      else (rawContent hashes rest).map fun (content, left) => (c :: content, left)

def rawText? (s : List Char) : Option (String × List Char) :=
  let hashes := (s.takeWhile (· == '#')).length
  match s.drop hashes with
  | '"' :: rest => (rawContent hashes rest).map fun (content, left) => (String.ofList content, left)
  | _ => none

def dropClosing? : List Char → Option (List Char)
  | '\'' :: left => some left
  | _ => none

def dropCharacter? : List Char → Option (List Char)
  | '\\' :: rest =>
      match escape? rest with
      | some (.byte b, left) => if b < 128 then dropClosing? left else none
      | some (.character _, left) => dropClosing? left
      | none => none
  | _ :: left => dropClosing? left
  | [] => none

/-- What is left behind a single byte, given what follows its opening quote.  A byte may be written
as a character of seven bits or as an escape that is no code point. -/
def dropByte? : List Char → Option (List Char)
  | '\\' :: rest =>
      match escape? rest with
      | some (.byte _, left) => dropClosing? left
      | _ => none
  | c :: left => if c.toNat < 128 then dropClosing? left else none
  | [] => none

def skipCharacter (s : List Char) : List Char :=
  match s with
  | '\'' :: rest => (dropCharacter? rest).getD s
  | _ => s

/-- What is left behind a raw text at the front of `s`, given what follows the letters that
announce it, or `s` if none starts there; nothing if it is not closed. -/
def skipRaw? (s rest : List Char) : Option (List Char) :=
  if (rest.dropWhile (· == '#')).head? = some '"' then (rawText? rest).map Prod.snd else some s

def skipText? (s : List Char) : Option (List Char) :=
  match s with
  | '"' :: rest => (text? rest).map Prod.snd
  | 'r' :: rest => skipRaw? s rest
  | _ => some s

def skipBytes? (s : List Char) : Option (List Char) :=
  match s with
  | 'b' :: '"' :: rest => dropBytes? rest
  | 'b' :: 'r' :: rest => skipRaw? s rest
  | _ => some s

end Encounter.Document.Quoted
