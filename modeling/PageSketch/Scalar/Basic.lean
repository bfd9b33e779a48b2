import PageSketch.Decimal.Fixed
import PageSketch.Decimal.Numeral

/-! # Numbers for coordinates

Geometry is written once, over any type of numbers that offers the operations
of `Scalar`. Binary floating point numbers (`Scalar.Binary`) run the program;
rational numbers (`Scalar.Exact`) give the same definitions without rounding. -/

namespace PageSketch

/-- The exact meaning of a number. A finite number keeps its sign apart from its
magnitude, so that a negative zero can be told from a positive one. -/
inductive Reading where
  | undefined
  | infinite (negative : Bool)
  | finite (negative : Bool) (magnitude : Rat)
deriving DecidableEq, Repr

/-- The operations that geometry needs of its numbers. The order and `==` are
those of the number type and need not be total. -/
class Scalar (α : Type) extends Add α, Sub α, Mul α, Div α, Neg α, LT α, LE α, BEq α where
  decideLT : DecidableLT α
  decideLE : DecidableLE α
  /-- The number nearest to a natural number. -/
  ofNat : Nat → α
  /-- The number nearest to `digits * 10 ^ exponent`, with the sign given. -/
  ofDecimal : (negative : Bool) → (digits : Nat) → (exponent : Int) → α
  abs : α → α
  /-- The nearest whole number; a half goes away from zero. -/
  round : α → α
  reading : α → Reading
  largest? : Option α

attribute [instance] Scalar.decideLT Scalar.decideLE

namespace Scalar

variable {α : Type} [Scalar α]

def zero : α := ofNat 0

/-- A number is finite when it stands for a rational number. -/
def isFinite (value : α) : Bool :=
  match reading value with
  | .finite .. => true
  | .infinite _ | .undefined => false

/-- The number that a numeral denotes, if it has one that is finite. -/
def ofNumeral? : Numeral → Option α
  | .decimal negative digits exponent =>
      let value : α := ofDecimal negative digits exponent
      if isFinite value then some value else none
  | .infinity _ | .notANumber => none

/-- The value with at most `places` decimals, halves to even, without zeros at
the end. A negative zero keeps its sign here. -/
def text (places : Nat) (value : α) : String :=
  match reading value with
  | .undefined => "NaN"
  | .infinite negative => if negative then "-inf" else "inf"
  | .finite negative magnitude =>
      String.ofList
        ((if negative then ['-'] else []) ++ Decimal.trimDecimals (Decimal.fixed places magnitude))

end Scalar

end PageSketch
