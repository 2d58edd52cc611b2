/-!
# The shortest decimal that reads back

A binary floating-point number is the nearest one for every decimal in an interval around it. Its
text uses the fewest digits that stay inside this interval, and of those the nearest to the number.
-/

namespace Remoting.Decimal

/-- The number `digits * 10 ^ exponent`. -/
structure Scaled where
  digits : Nat
  exponent : Int
  deriving DecidableEq, Inhabited

/-- A positive fraction. -/
structure Ratio where
  num : Nat
  den : Nat

/-- Multiplies a fraction by a power of a base. -/
def Ratio.scale (r : Ratio) (base : Nat) (exponent : Int) : Ratio :=
  if 0 ≤ exponent then ⟨r.num * Nat.pow base exponent.toNat, r.den⟩
  else ⟨r.num, r.den * Nat.pow base (-exponent).toNat⟩

/-- Whether one fraction is at most another. -/
def Ratio.le (a b : Ratio) : Bool :=
  a.num * b.den ≤ b.num * a.den

/-- Whether one fraction is below another. -/
def Ratio.lt (a b : Ratio) : Bool :=
  a.num * b.den < b.num * a.den

/-- The exponent of the leading decimal digit of a positive fraction. -/
def Ratio.magnitude (r : Ratio) : Int :=
  let guess : Int := (Nat.toDigits 10 r.num).length - (Nat.toDigits 10 r.den).length
  if (Ratio.scale ⟨1, 1⟩ 10 guess).le r then guess else guess - 1

/-- A positive binary number `mantissa * 2 ^ exponent` with the interval of its neighbours. -/
structure Binary where
  mantissa : Nat
  exponent : Int
  /-- Whether the number below is only half as far away as the number above. -/
  nearBelow : Bool

namespace Binary

/-- The number itself. -/
def value (b : Binary) : Ratio :=
  Ratio.scale ⟨4 * b.mantissa, 4⟩ 2 b.exponent

/-- The lower end of the interval of decimals that read back as the number. -/
def lower (b : Binary) : Ratio :=
  Ratio.scale ⟨4 * b.mantissa - (if b.nearBelow then 1 else 2), 4⟩ 2 b.exponent

/-- The upper end of the interval of decimals that read back as the number. -/
def upper (b : Binary) : Ratio :=
  Ratio.scale ⟨4 * b.mantissa + 2, 4⟩ 2 b.exponent

/-- Whether a fraction reads back as the number; the ends do when the mantissa is even. -/
def accepts (b : Binary) (r : Ratio) : Bool :=
  if b.mantissa % 2 = 0 then b.lower.le r && r.le b.upper
  else b.lower.lt r && r.lt b.upper

/-- The fraction `digits * 10 ^ exponent`. -/
def point (digits : Nat) (exponent : Int) : Ratio :=
  Ratio.scale ⟨digits, 1⟩ 10 exponent

/-- The decimal on the grid of `10 ^ exponent` that reads back as the number and is nearest to it,
if the grid has one. -/
def onGrid? (b : Binary) (exponent : Int) : Option Scaled :=
  let scaled := b.value.scale 10 (-exponent)
  let below := scaled.num / scaled.den
  let rest := scaled.num % scaled.den
  let above := below + 1
  let hasBelow := b.accepts (point below exponent)
  let hasAbove := b.accepts (point above exponent)
  let preferBelow := 2 * rest < scaled.den || (2 * rest == scaled.den && below % 2 == 0)
  if hasBelow && (preferBelow || !hasAbove) then some ⟨below, exponent⟩
  else if hasAbove then some ⟨above, exponent⟩
  else none

/-- The nearest of the shortest decimals that read back as the number. Seventeen digits always
suffice for a double. -/
def shortest (b : Binary) : Scaled :=
  let top := b.value.magnitude
  let onGrids := (List.range 17).findSome? fun (places : Nat) => b.onGrid? (top - (places : Int))
  onGrids.getD ⟨b.mantissa, 0⟩

end Binary

/-- The positive finite number with the given bits of a double, leaving out the sign. -/
def Binary.ofBits (bits : Nat) : Binary :=
  let stored : Nat := bits / Nat.pow 2 52 % Nat.pow 2 11
  let fraction := bits % Nat.pow 2 52
  if stored = 0 then ⟨fraction, -1074, false⟩
  else ⟨Nat.pow 2 52 + fraction, Int.ofNat stored - 1075, fraction == 0 && 1 < stored⟩

/-- The layout of a real number's text: the decimal exponents written without an exponent part. -/
structure Layout where
  leastPlain : Int
  mostPlain : Int
  /-- The least number of digits of an exponent part. -/
  exponentDigits : Nat

/-- The digits without trailing zeros, and the exponent of the first digit. -/
def Scaled.leading (d : Scaled) : List Char × Int :=
  let digits := Nat.toDigits 10 d.digits
  ((digits.reverse.dropWhile (· == '0')).reverse, d.exponent + digits.length - 1)

/-- The text of a positive decimal. -/
def Scaled.render (layout : Layout) (d : Scaled) : List Char :=
  let (digits, top) := d.leading
  if layout.leastPlain ≤ top ∧ top ≤ layout.mostPlain then
    if top < 0 then
      '0' :: '.' :: List.replicate (-top - 1).toNat '0' ++ digits
    else
      let whole := digits.take (top.toNat + 1)
      let rest := digits.drop (top.toNat + 1)
      whole ++ List.replicate (top.toNat + 1 - whole.length) '0' ++ '.' ::
        (if rest.isEmpty then ['0'] else rest)
  else
    let size := Nat.toDigits 10 top.natAbs
    digits.take 1 ++ (if digits.length ≤ 1 then [] else '.' :: digits.drop 1) ++
      'e' :: (if top < 0 then '-' else '+') ::
      List.replicate (layout.exponentDigits - size.length) '0' ++ size

/-- The text of a finite double. -/
def render (layout : Layout) (value : Float) : String :=
  let bits := value.toBits.toNat
  let sign := if Nat.pow 2 63 ≤ bits then ['-'] else []
  let size := bits % Nat.pow 2 63
  String.ofList <| sign ++
    if size = 0 then ['0', '.', '0'] else (Binary.ofBits size).shortest.render layout

end Remoting.Decimal
