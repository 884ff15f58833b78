import Encounter.Document.Gap
import Encounter.Document.Quoted

/-!
# Brackets of a document

Whether a bracket holds more than one item is decided on its text, before its tokens are read: by
the first comma that is in no further bracket, no comment and nothing quoted.  Single bytes do not
count as quoted here; the letter in front of one is passed over, and the rest is taken for a
character if it is one.
-/

namespace Encounter.Document.Bracket

def opens (c : Char) : Bool :=
  c == '(' || c == '[' || c == '\x7b'

def closes (c : Char) : Bool :=
  c == ')' || c == ']' || c == '\x7d'

/-- What is left behind the gaps and quoted things at the front of a text: up to one character, one
text and one string of bytes, in this order; nothing if the text or the string of bytes cannot be
read, or a gap is not closed. -/
def skipQuoted? (steps : Nat) (s : List Char) : Option (List Char) := do
  let s ← Gap.dropWithin steps s
  let s ← Gap.dropWithin steps (Quoted.skipCharacter s)
  let s ← Quoted.skipText? s
  let s ← Gap.dropWithin steps s
  let s ← Quoted.skipBytes? s
  Gap.dropWithin steps s

/-- Whether a second item follows, given what is left of a bracket inside `depth` more, in up to
`steps` steps; nothing if the bracket is not closed or something in it cannot be skipped. -/
def hasSecondWithin : Nat → Nat → List Char → Option Bool
  | 0, _, _ => none
  | steps + 1, depth, s =>
      match skipQuoted? steps s with
      | none | some [] => none
      | some (c :: rest) =>
          if opens c then hasSecondWithin steps (depth + 1) rest
          else if closes c then
            match depth with
            | 0 => some false
            | depth + 1 => hasSecondWithin steps depth rest
          else if c = ',' ∧ depth = 0 then
            (Gap.dropWithin steps rest).map fun left => left.head? != some ')'
          else hasSecondWithin steps depth rest

def hasSecond? (s : List Char) : Option Bool :=
  hasSecondWithin (s.length + 1) 0 s

end Encounter.Document.Bracket
