/-!
# Distances

A distance is a binary32 number, kept as its bit pattern: a sign, eight exponent bits and 23
fraction bits.  Distances are compared by the total order of the format, in which every pattern has
a place of its own: negative before positive, `-0` before `0`, and not-a-number outermost on the
side of its sign.  `Distance.ofDecimal` takes an exact decimal to the nearest distance.
-/

namespace Encounter

structure Distance where
  bits : UInt32
  deriving DecidableEq, Repr, Inhabited

namespace Distance

/-- The pattern of the sign bit alone. -/
def signPattern : Nat := 0x80000000

/-- The pattern of the last exponent bit alone. -/
def exponentUnit : Nat := 0x800000

def magnitude (d : Distance) : Nat :=
  d.bits.toNat % signPattern

def isNegative (d : Distance) : Bool :=
  signPattern ≤ d.bits.toNat

/-- The magnitude of infinity; every finite number is below it. -/
def infinityMagnitude : Nat := 0x7F800000

def isFinite (d : Distance) : Bool :=
  d.magnitude < infinityMagnitude

def isNaN (d : Distance) : Bool :=
  infinityMagnitude < d.magnitude

/-- The place of a pattern in the total order: magnitudes upward from `0` for positive patterns,
downward from `-1` for negative ones. -/
def rank (d : Distance) : Int :=
  if d.isNegative then -(d.magnitude : Int) - 1 else d.magnitude

def ofMagnitude (negative : Bool) (magnitude : Nat) : Distance :=
  ⟨UInt32.ofNat (magnitude + if negative then signPattern else 0)⟩

def infinity (negative : Bool) : Distance :=
  ofMagnitude negative infinityMagnitude

def notANumber (negative : Bool) : Distance :=
  ofMagnitude negative 0x7FC00000

/-- The natural number nearest to `num / den`; of two as near, the even one. -/
def roundHalfEven (num den : Nat) : Nat :=
  let rest := 2 * (num % den)
  if rest < den ∨ (rest = den ∧ num / den % 2 = 0) then num / den else num / den + 1

def binaryExponent (num den : Nat) : Int :=
  let guess : Int := (num.log2 : Int) - den.log2
  if num <<< (-guess).toNat < den <<< guess.toNat then guess - 1 else guess

/-- The distance nearest to `num / den`, of two as near the one with the even pattern.  A number
with `k` as its last binary place has as its pattern `k + 149` exponent units plus its multiple of
`2 ^ k`, also when rounding carries into the next exponent; past the greatest finite number this is
at least the pattern of infinity. -/
def ofFraction (negative : Bool) (num den : Nat) : Distance :=
  if num = 0 then
    ofMagnitude negative 0
  else
    let place := max (binaryExponent num den - 23) (-149)
    let multiple := roundHalfEven (num <<< (-place).toNat) (den <<< place.toNat)
    ofMagnitude negative (min ((place + 149).toNat * exponentUnit + multiple) infinityMagnitude)

/-- The distance nearest to `digits * 10 ^ exponent`.  Decimals from `10 ^ 40` on are infinite and
those below `10 ^ -46` are zero, so that no great power of ten is ever formed for them. -/
def ofDecimal (negative : Bool) (digits : Nat) (exponent : Int) : Distance :=
  let point := exponent + (Nat.toDigits 10 digits).length
  if digits = 0 ∨ point < -45 then
    ofMagnitude negative 0
  else if 40 < point then
    infinity negative
  else
    ofFraction negative (digits * Nat.pow 10 exponent.toNat) (Nat.pow 10 (-exponent).toNat)

end Distance

end Encounter
