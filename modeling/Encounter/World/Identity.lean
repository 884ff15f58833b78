/-!
# Identities in the world

A `Guid` names one creature for as long as it exists, a `Kind` the template it was spawned from, an
`Aura` an effect it carries.  All three are machine words; they differ only in how they are written.
-/

namespace Encounter

structure Guid where
  val : UInt64
  deriving DecidableEq, Repr, Inhabited

structure Kind where
  val : UInt32
  deriving DecidableEq, Repr, Inhabited

structure Aura where
  val : UInt32
  deriving DecidableEq, Repr, Inhabited

/-- Identities are written in hexadecimal, in capitals and without leading zeros, behind `0x`. -/
def Guid.text (guid : Guid) : String :=
  "0x" ++ String.ofList ((Nat.toDigits 16 guid.val.toNat).map Char.toUpper)

def Kind.text (kind : Kind) : String :=
  kind.val.toNat.repr

def Aura.text (aura : Aura) : String :=
  aura.val.toNat.repr

end Encounter
