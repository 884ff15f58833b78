import Encounter.Document.Bracket
import Encounter.Document.Token

/-!
# Values of a document

A document is one value, perhaps behind attributes that switch on extensions of the notation.  A
value is a word, a number, a text, a list, a map, a record with named fields or a tuple.  Nesting is
limited: a bracket takes one level and each thing in it one more, the marker of optional values
takes one, and a document may go 128 levels deep.
-/

namespace Encounter.Document

inductive Value where
  | word (word : Word)
  | number (literal : List Char)
  | text (content : String)
  | blob
  | present (value : Value)
  | list (items : List Value)
  | map (entries : List (Value × Value))
  | tuple (name : Option Word) (items : List Value)
  | record (name : Option Word) (fields : List (String × Value))

structure Extensions where
  /-- An optional value may stand without its marker, or behind it without a bracket. -/
  implicitSome : Bool := false
  /-- The bracket behind the marker of optional values may stand for that of its content. -/
  unwrapVariants : Bool := false
  /-- A record has to be named. -/
  explicitNames : Bool := false
  deriving DecidableEq, Repr

/-- A reader takes a value off the front of a list of tokens. -/
abbrev Reader (α : Type) := List Token → Option (α × List Token)

namespace Reader

def startsWith (c : Char) : List Token → Bool
  | .mark d :: _ => c == d
  | _ => false

/-- Takes items with commas between them up to a closing mark, in up to `steps` steps.  One comma
may follow the last item. -/
def itemsWithin {α : Type} (close : Char) (item : Reader α) : Nat → Reader (List α)
  | 0, _ => none
  | steps + 1, tokens =>
      if startsWith close tokens then some ([], tokens.drop 1)
      else
        match item tokens with
        | none => none
        | some (a, rest) =>
            if startsWith close rest then some ([a], rest.drop 1)
            else if startsWith ',' rest then
              (itemsWithin close item steps (rest.drop 1)).map fun (as, left) => (a :: as, left)
            else none

def items {α : Type} (close : Char) (item : Reader α) : Reader (List α) := fun tokens =>
  itemsWithin close item (tokens.length + 1) tokens

def entry {α β : Type} (key : Reader α) (value : Reader β) : Reader (α × β) := fun tokens =>
  match key tokens with
  | none => none
  | some (a, rest) =>
      if startsWith ':' rest then (value (rest.drop 1)).map fun (b, left) => ((a, b), left)
      else none

def fieldName : Reader String
  | .word word :: rest => some (word.text, rest)
  | _ => none

def opened : List Token → Option (List Char × List Token)
  | .opening behind :: rest => some (behind, rest)
  | .unit :: rest => some ([')'], .mark ')' :: rest)
  | _ => none

def refuse {α : Type} : Reader α := fun _ => none

end Reader

namespace Value

open Reader

/-- The reader of what is in a bracket, two levels below it; the readers of the levels below the
bracket are given, the nearest one first. -/
def inside : List (Reader Value) → Reader Value
  | _ :: deeper :: _ => deeper
  | _ => refuse

def bracket (below : List (Reader Value)) (name : Option Word) : Reader Value := fun tokens =>
  if below.isEmpty then none
  else
    match tokens with
    | .word _ :: .mark ':' :: _ =>
        (items ')' (entry fieldName (inside below)) tokens).map fun (fields, left) =>
          (.record name fields, left)
    | _ => (items ')' (inside below) tokens).map fun (values, left) => (.tuple name values, left)

/-- Whether a bracket, given the text and the tokens behind its opening, holds the parts of a value:
fields, or more than one item. -/
def hasParts? (behind : List Char) : List Token → Option Bool
  | .word _ :: .mark ':' :: _ => some true
  | _ => Bracket.hasSecond? behind

def alone (item : Reader Value) : Reader Value := fun tokens =>
  match item tokens with
  | none => none
  | some (value, rest) =>
      let rest := if startsWith ',' rest then rest.drop 1 else rest
      if startsWith ')' rest then some (value, rest.drop 1) else none

/-- Takes an optional value that is there, given what follows its marker.  The bracket behind the
marker holds one value or, with the extension for it, the parts of one that has no bracket of its
own; an extension also lets a value follow the marker directly. -/
def optional (ext : Extensions) : List (Reader Value) → Reader Value
  | [], _ => none
  | behind :: below, tokens =>
      match opened tokens with
      | none => if ext.implicitSome then behind tokens else none
      | some (source, content) =>
          if ext.unwrapVariants && startsWith ')' content then
            some (.tuple none [], content.drop 1)
          else
            match if ext.unwrapVariants then hasParts? source content else some false with
            | none => none
            | some true => bracket below none content
            | some false => alone behind content

def standsAlone (word : Word) : Bool :=
  word.isKeyword "None" || word.isKeyword "true" || word.isKeyword "false" || word.isNumber

def step (ext : Extensions) (below : List (Reader Value)) : Reader Value
  | .number literal :: rest => some (.number literal, rest)
  | .text content :: rest => some (.text content, rest)
  | .blob :: rest => some (.blob, rest)
  | .unit :: rest => some (.tuple none [], rest)
  | .word w :: rest =>
      if w.isKeyword "Some" then
        (optional ext below rest).map fun (value, left) => (.present value, left)
      else
        match opened rest with
        | none => some (.word w, rest)
        | some (_, content) =>
            if standsAlone w then none else bracket below (some w) content
  | .opening _ :: rest => bracket below none rest
  | .mark '[' :: rest =>
      if below.isEmpty then none
      else (items ']' (inside below) rest).map fun (values, left) => (.list values, left)
  | .mark '\x7b' :: rest =>
      if below.isEmpty then none
      else (items '\x7d' (entry (inside below) (inside below)) rest).map fun (entries, left) =>
        (.map entries, left)
  | _ => none

def readers (ext : Extensions) : Nat → List (Reader Value)
  | 0 => []
  | levels + 1 => step ext (readers ext levels) :: readers ext levels

def read (ext : Extensions) (levels : Nat) : Reader Value :=
  step ext (readers ext levels)

end Value

def depthLimit : Nat := 128

namespace Extensions

open Reader

def enable (ext : Extensions) : String → Option Extensions
  | "implicit_some" => some { ext with implicitSome := true }
  | "explicit_struct_names" => some { ext with explicitNames := true }
  | "unwrap_variant_newtypes" => some { ext with unwrapVariants := true }
  | "unwrap_newtypes" => some ext
  | _ => none

/-- Takes the attributes in front of a document, in up to `steps` steps.  Those that name the type
or the schema of the document say nothing about how it is read. -/
def read (ext : Extensions) : Nat → Reader Extensions
  | 0, _ => none
  | steps + 1, tokens =>
      match tokens with
      | .mark '#' :: .mark '!' :: .mark '[' :: .word word :: .opening _ :: rest =>
          if word.isKeyword "enable" then
            match items ')' fieldName rest with
            | some (name :: names, .mark ']' :: left) =>
                ((name :: names).foldlM enable ext).bind fun ext' => read ext' steps left
            | _ => none
          else none
      | .mark '#' :: .mark '!' :: .mark '[' :: .word word :: .mark '=' :: .text _ :: .mark ']' ::
          rest =>
          if word.isKeyword "type" || word.isKeyword "schema" then read ext steps rest else none
      | .mark '#' :: _ => none
      | _ => some (ext, tokens)

end Extensions

def read? (s : String) : Option (Extensions × Value) :=
  match Token.ofText? s.toList with
  | none => none
  | some tokens =>
      match Extensions.read {} (tokens.length + 1) tokens with
      | none => none
      | some (ext, rest) =>
          match Value.read ext depthLimit rest with
          | some (value, []) => some (ext, value)
          | _ => none

end Encounter.Document
