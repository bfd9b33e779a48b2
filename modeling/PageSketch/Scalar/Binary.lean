import PageSketch.Decimal.Shortest
import PageSketch.Scalar.Basic

/-! # Binary floating point numbers as coordinates

Addition, subtraction, multiplication and division round to the nearest number
with 53 significant bits, as reading a decimal does. -/

namespace PageSketch.Scalar.Binary

/-- A decimal below ten to this power is smaller than half the least positive
number, and one above it is larger than every finite number. -/
def decimalRange : Int := 400

/-- The number nearest to `digits * 10 ^ exponent`, with the sign given. Powers
far out of range are settled by counting digits, without building them. -/
def ofDecimal (negative : Bool) (digits : Nat) (exponent : Int) : Float :=
  let size : Int := (Nat.toDigits 10 digits).length + exponent
  let magnitude : Float :=
    if digits = 0 ∨ size < -decimalRange then 0
    else if decimalRange < size then 1 / 0
    else if exponent < 0 then OfScientific.ofScientific digits true exponent.natAbs
    else OfScientific.ofScientific digits false exponent.natAbs
  if negative then -magnitude else magnitude

def reading (value : Float) : Reading :=
  match value.toModel.unpack with
  | .notANumber => .undefined
  | .infinity sign => .infinite (sign == .negative)
  | .zero sign => .finite (sign == .negative) 0
  | .finite sign mantissa exponent _ => .finite (sign == .negative) (mantissa * power 2 exponent)

/-- The nearest whole number; a half goes away from zero. Numbers that are not
finite are returned as they are, and so is the sign of zero. -/
def round (value : Float) : Float :=
  match reading value with
  | .finite negative magnitude =>
      let whole := Float.ofNat (Rounding.halfUp magnitude)
      if negative then -whole else whole
  | .infinite _ | .undefined => value

def largest : Float := Float.ofBits 0x7fefffffffffffff

instance : Scalar Float where
  decideLT := inferInstance
  decideLE := inferInstance
  ofNat := Float.ofNat
  ofDecimal := ofDecimal
  abs := Float.abs
  round := round
  reading := reading
  largest? := some largest

/-! ## Text -/

/-- The least mantissa of numbers with all 53 bits. -/
def hiddenBit : Nat := Nat.pow 2 52

/-- The magnitudes that are read as `mantissa * 2 ^ exponent`: up to half the way to
the next number on either side. That is nearer below a power of two, except where
numbers have the same distance on both sides. Ties are read as the even mantissa. -/
def neighborhood (mantissa : Nat) (exponent : Int) : Decimal.Neighborhood :=
  let unit := power 2 exponent
  let below : Rat := if mantissa = hiddenBit ∧ -1074 < exponent then unit / 4 else unit / 2
  { value := mantissa * unit
    low := mantissa * unit - below
    high := mantissa * unit + unit / 2
    isClosed := mantissa % 2 = 0 }

/-- The shortest decimal that is read as the same number, with a point or a power of
ten. Numbers that are not finite have no decimal. -/
def shortest? (value : Float) : Option String :=
  match value.toModel.unpack with
  | .notANumber | .infinity _ => none
  | .zero sign => some (if sign == .negative then "-0.0" else "0.0")
  | .finite sign mantissa exponent _ =>
      (Decimal.shortest? 17 (neighborhood mantissa exponent)).map fun decimal =>
        String.ofList ((if sign == .negative then ['-'] else [])
          ++ Decimal.scientific (Decimal.dropZeros 17 decimal))

end PageSketch.Scalar.Binary
