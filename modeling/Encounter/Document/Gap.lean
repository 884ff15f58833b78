/-!
# Gaps of a document

Blanks and comments may stand between any two tokens.  A line comment ends with its line; a block
comment may hold others and has to be closed.
-/

namespace Encounter.Document.Gap

def isBlank (c : Char) : Bool :=
  c == ' ' || c == '\t' || c == '\n' || c == '\r' || c == '\x0B' || c == '\x0C' ||
    c == '\u0085' || c == '\u200E' || c == '\u200F' || c == '\u2028' || c == '\u2029'

/-- What is left after a block comment, of which `depth` are open around it. -/
def dropBlock : Nat → List Char → Option (List Char)
  | _, [] => none
  | 0, '*' :: '/' :: rest => some rest
  | depth + 1, '*' :: '/' :: rest => dropBlock depth rest
  | depth, '/' :: '*' :: rest => dropBlock (depth + 1) rest
  | depth, _ :: rest => dropBlock depth rest

def dropComment : List Char → Option (List Char)
  | '/' :: rest => some (rest.dropWhile (· != '\n'))
  | '*' :: rest => dropBlock 0 rest
  | _ => none

/-- What is left after a gap, in up to `steps` steps; nothing if a comment is not closed or a slash
starts none. -/
def dropWithin : Nat → List Char → Option (List Char)
  | _, [] => some []
  | 0, _ :: _ => none
  | steps + 1, c :: rest =>
      if isBlank c then dropWithin steps rest
      else if c = '/' then
        match dropComment rest with
        | some left => dropWithin steps left
        | none => none
      else some (c :: rest)

end Encounter.Document.Gap
