import Encounter.Document.Value

/-!
# Taking values apart

A `Decoder α` says which values stand for something of type `α`.  Records are taken apart by the
names of their fields: a known field may be there once, an unknown one as often as it likes.
-/

namespace Encounter.Document

abbrev Decoder (α : Type) := Extensions → Value → Option α

namespace Decoder

variable {α : Type}

def bool : Decoder Bool
  | _, .word word =>
      if word.isKeyword "true" then some true
      else if word.isKeyword "false" then some false
      else none
  | _, _ => none

def word32 : Decoder UInt32
  | _, .number literal => (Number.unsigned? 32 literal).map UInt32.ofNat
  | _, _ => none

def word64 : Decoder UInt64
  | _, .number literal => (Number.unsigned? 64 literal).map UInt64.ofNat
  | _, _ => none

def distance : Decoder Distance
  | _, .number literal => Number.distance? literal
  | _, .word word => if word.raw then none else (Number.distance? word.text.toList)
  | _, _ => none

def text : Decoder String
  | _, .text content => some content
  | _, _ => none

def list (item : Decoder α) : Decoder (List α)
  | ext, .list items => items.mapM (item ext)
  | _, _ => none

def textMap : Decoder (List (String × String))
  | ext, .map entries => entries.mapM fun (key, value) =>
      match text ext key, text ext value with
      | some k, some v => some (k, v)
      | _, _ => none
  | _, _ => none

def optional (item : Decoder α) : Decoder (Option α)
  | ext, .present value => (item ext value).map some
  | ext, .word word =>
      if word.isKeyword "None" then some none
      else if ext.implicitSome then (item ext (.word word)).map some
      else none
  | ext, value => if ext.implicitSome then (item ext value).map some else none

/-- Whether a record may bear a name, when it should be that of a given type. -/
def admitsName (typeName : String) (ext : Extensions) : Option Word → Bool
  | some word => word.text == typeName
  | none => !ext.explicitNames

/-- The fields of a record of a given type.  Brackets without anything in them have no fields. -/
def fields (typeName : String) : Decoder (List (String × Value))
  | ext, .record name fields => if admitsName typeName ext name then some fields else none
  | ext, .tuple name [] => if admitsName typeName ext name then some [] else none
  | _, _ => none

def required (ext : Extensions) (fields : List (String × Value)) (name : String)
    (item : Decoder α) : Option α :=
  match fields.filter (·.1 == name) with
  | [(_, value)] => item ext value
  | _ => none

def optionally (ext : Extensions) (fields : List (String × Value)) (name : String)
    (item : Decoder α) (default : α) : Option α :=
  match fields.filter (·.1 == name) with
  | [] => some default
  | [(_, value)] => item ext value
  | _ => none

end Decoder

end Encounter.Document
