/-
  The arithmetic of the samples and of the profile values.  One type stands for
  `float` and `double`: conversions between the two are the identity, and
  nothing is assumed of the operations.
-/
import Mathlib.Data.List.Basic

namespace NativeLdac.Engine

class FloatArith (F : Type) extends
    Add F, Sub F, Mul F, Div F, Neg F, LE F, LT F, BEq F, OfScientific F where
  isFinite : F → Bool
  ofNat : Nat → F
  ceil : F → F
  /-- the conversion to an unsigned 64-bit integer -/
  toUInt64 : F → UInt64
  decLe : DecidableLE F
  decLt : DecidableLT F

variable {F : Type} [FloatArith F]

instance decidableLE : DecidableLE F := FloatArith.decLe

instance decidableLT : DecidableLT F := FloatArith.decLt

namespace FloatArith

def fabs (x : F) : F := if x < 0.0 then -x else x

def fmin (x y : F) : F := if y < x then y else x

def fmax (x y : F) : F := if x < y then y else x

def clamp (x lo hi : F) : F := if x < lo then lo else if hi < x then hi else x

end FloatArith

/-- An interleaved stereo block. -/
abbrev PcmBlock (F : Type) := List F

end NativeLdac.Engine
