import BatchLaunch.Text.BinaryReal.Arithmetic

/-!
Roots, powers, exponentials, logarithms and angles. They are found as multiples of a very small
power of two, so exactly that rounding them gives the nearest number that there is.
-/
namespace BatchLaunch.Text.BinaryReal

def depth : Nat := 320

def unit : Nat := Nat.pow 2 depth

def scaledProduct (a b : Int) : Int := (a * b).tdiv (unit : Int)

def scaledQuotient (a b : Int) : Int := (a * (unit : Int)).tdiv b

/-- The whole part of the square root: each step from above gets closer, until one does not. -/
def rootFrom (n : Nat) : Nat → Nat → Nat
  | 0, guess => guess
  | fuel + 1, guess =>
      let next := (guess + n / guess) / 2
      if next < guess then rootFrom n fuel next else guess

def wholeRoot (n : Nat) : Nat :=
  if n = 0 then 0 else rootFrom n (n.log2 + 8) (Nat.pow 2 (n.log2 / 2 + 1))

def sumSeries (next : Nat → Int → Int) (value : Nat → Int → Int) : Nat → Nat → Int → Int → Int
  | 0, _, _, sum => sum
  | fuel + 1, place, term, sum =>
      if term = 0 then sum
      else sumSeries next value fuel (place + 1) (next place term) (sum + value place term)

def inverseTangent (alternates : Bool) (t : Int) : Int :=
  let square := scaledProduct t t
  sumSeries (fun _ term => let next := scaledProduct term square
      if alternates then -next else next)
    (fun place term => term.tdiv (2 * place + 1)) 2000 0 t 0

def logTwo : Int := 2 * inverseTangent false ((unit : Int) / 3)

def halfTurn : Int :=
  4 * (4 * inverseTangent true ((unit : Int) / 5) - inverseTangent true ((unit : Int) / 239))

def scaled (value : BinaryReal) : Int :=
  let (n, d) := value.fraction
  signed value.isNegative (n * unit / d)

def ofMultiple (precision : Precision) (value : Int) (exponent : Int) : BinaryReal :=
  ofScaled precision (value < 0) value.natAbs (exponent - depth)

def squareRoot (precision : Precision) : BinaryReal → BinaryReal
  | number negative significand exponent =>
      if significand = 0 then .number negative 0 0
      else if negative then undefinedResult
      else
        let shift : Int := 2 * precision.digits + (if (exponent % 2 = 0) then 0 else 1)
        let n := significand * Nat.pow 2 shift.toNat
        let root := wholeRoot n
        let twice := if root * root = n then 2 * root else 2 * root + 1
        ofScaled precision false twice ((exponent - shift) / 2 - 1)
  | infinite false => .infinite false
  | infinite true => undefinedResult
  | notNumber negative => .notNumber negative

def scaledExponential (x : Int) : Int × Int :=
  let power := x / logTwo
  let rest := x - power * logTwo
  (sumSeries (fun place term => (scaledProduct term rest).tdiv (place + 1)) (fun _ term => term)
    2000 0 unit 0, power)

def exponentialBound : Int := 20000

def exponential (precision : Precision) : BinaryReal → BinaryReal
  | infinite negative => if negative then zero else .infinite false
  | notNumber negative => .notNumber negative
  | value =>
      if exponentialBound ≤ value.truncated then .infinite false
      else if value.truncated ≤ -exponentialBound then zero
      else
        let (found, power) := scaledExponential value.scaled
        ofMultiple precision found power

def scaledLogarithm (significand : Nat) (exponent : Int) : Int :=
  let power := (significand.log2 : Int)
  let mantissa : Int := ((significand * unit / Nat.pow 2 significand.log2 : Nat) : Int)
  let one : Int := (unit : Int)
  2 * inverseTangent false (scaledQuotient (mantissa - one) (mantissa + one)) +
    (power + exponent) * logTwo

def logarithm (precision : Precision) : BinaryReal → BinaryReal
  | number negative significand exponent =>
      if significand = 0 then .infinite true
      else if negative then undefinedResult
      else ofMultiple precision (scaledLogarithm significand exponent) 0
  | infinite false => .infinite false
  | infinite true => undefinedResult
  | notNumber negative => .notNumber negative

def plainPowers : Nat := 4096

def powerOf (precision : Precision) (base : BinaryReal) (exponent : BinaryReal) : BinaryReal :=
  match base with
  | number negative significand scale =>
      let whole := exponent.truncated
      let odd := exponent.isWhole && whole % 2 ≠ 0
      if significand = 0 then
        if exponent.isNegative then .infinite (negative && odd) else .number (negative && odd) 0 0
      else if exponent.isWhole && whole.natAbs ≤ plainPowers then
        let n := Nat.pow significand whole.natAbs
        if 0 ≤ whole then ofScaled precision (negative && odd) n (scale * whole)
        else divide precision one (ofScaled precision (negative && odd) n (scale * whole.natAbs))
      else if negative && !exponent.isWhole then undefinedResult
      else
        let (n, d) := exponent.fraction
        let product := signed exponent.isNegative
          ((scaledLogarithm significand scale).natAbs * n / d)
        let product := if scaledLogarithm significand scale < 0 then -product else product
        if exponentialBound * (unit : Int) ≤ product then .infinite (negative && odd)
        else if product ≤ -exponentialBound * (unit : Int) then .number (negative && odd) 0 0
        else
          let (found, power) := scaledExponential product
          let value := ofMultiple precision found power
          if negative && odd then value.negated else value
  | infinite negative =>
      let odd := exponent.isWhole && exponent.truncated % 2 ≠ 0
      if exponent.isNegative then .number (negative && odd) 0 0 else .infinite (negative && odd)
  | notNumber negative => .notNumber negative

def power (precision : Precision) (base exponent : BinaryReal) : BinaryReal :=
  if exponent.isZero || order? base one = some .eq then one
  else
    match exponent with
    | notNumber negative => .notNumber negative
    | infinite down =>
        match order? (if base.isNegative then base.negated else base) one with
        | some .gt => if down then zero else .infinite false
        | some .lt => if down then .infinite false else zero
        | some .eq => one
        | none => base
    | _ => powerOf precision base exponent

def angleSeries (start : Nat) (first : Int) (angle : Int) : Int :=
  let square := scaledProduct angle angle
  sumSeries (fun place term =>
      -((scaledProduct term square).tdiv ((2 * place + start + 1) * (2 * place + start + 2) : Nat)))
    (fun _ term => term) 2000 0 first 0

def sineFrom (precision : Precision) (quarters : Int) (value : BinaryReal) : BinaryReal :=
  match value with
  | infinite _ => undefinedResult
  | notNumber negative => .notNumber negative
  | number _ _ _ =>
      let quarter := halfTurn / 2
      let angle := value.scaled
      let turns := (2 * angle + quarter) / (2 * quarter)
      let rest := angle - turns * quarter
      match (turns + quarters) % 4 with
      | 0 => ofMultiple precision (angleSeries 1 rest rest) 0
      | 1 => ofMultiple precision (angleSeries 0 unit rest) 0
      | 2 => ofMultiple precision (-(angleSeries 1 rest rest)) 0
      | _ => ofMultiple precision (-(angleSeries 0 unit rest)) 0

def isTiny : BinaryReal → Bool
  | number _ significand exponent => (significand.log2 : Int) + exponent < -100
  | _ => false

def sine (precision : Precision) (value : BinaryReal) : BinaryReal :=
  if value.isTiny || value.isZero then value else sineFrom precision 0 value

def cosine (precision : Precision) (value : BinaryReal) : BinaryReal := sineFrom precision 1 value

/-- The angle whose tangent is a multiple of the unit that is not negative and at most one. The
angle is halved some times before the series. -/
def angleOf : Nat → Int → Int
  | 0, t => inverseTangent true t
  | halvings + 1, t =>
      let one : Int := (unit : Int)
      let root : Int := (wholeRoot ((one * one + t * t).toNat) : Nat)
      2 * angleOf halvings (scaledQuotient t (one + root))

def angle (precision : Precision) (height width : BinaryReal) : BinaryReal :=
  if height.isUndefined then height
  else if width.isUndefined then width
  else if height.isZero then
    if width.isNegative then ofMultiple precision (signed height.isNegative halfTurn.natAbs) 0
    else height
  else
    let turn (found : Int) : BinaryReal :=
      ofMultiple precision (signed height.isNegative found.natAbs) 0
    match height, width with
    | infinite _, infinite left => turn (if left then halfTurn * 3 / 4 else halfTurn / 4)
    | infinite _, _ => turn (halfTurn / 2)
    | _, infinite left => if left then turn halfTurn else .number height.isNegative 0 0
    | _, _ =>
        let (a, b) := height.fraction
        let (c, d) := width.fraction
        let up := a * d
        let out := c * b
        let flat := up ≤ out
        let inner := angleOf 3 (if flat then ((up * unit / out : Nat) : Int)
          else ((out * unit / up : Nat) : Int))
        let first := if flat then inner else halfTurn / 2 - inner
        if width.isNegative then turn (halfTurn - first)
        else if (divide precision height width).isTiny then divide precision height width
        else turn first

end BatchLaunch.Text.BinaryReal
