/-
Decimal text of a number: the fewest digits that read back, never an exponent.

`Shortest.ofFinite m q` finds, for the positive value `m * 2 ^ q`, the shortest
decimal inside the interval of reals that round to it.  For one digit, then two,
and so on, it looks at the value's two neighbours on the grid of decimals with
that many digits: the first grid with a neighbour inside the interval wins, of two
neighbours the nearer, and of two equally near ones the upper.  All comparisons are
between whole numbers.

`Number.toText` writes the digits positionally, however large or small the number:
`4`, `-0`, `0.1`, `1000000000000000000000`, and `NaN`, `inf`, `-inf`.
-/
import ScriptHost.Number

namespace ScriptHost

/-- A decimal `digits * 10 ^ exponent`. -/
structure Decimal where
  digits : Nat
  exponent : Int
deriving DecidableEq

namespace Shortest

/-- The reals that round to one number, over a common denominator: `low`, `value` and
`high` divided by `unit`.  The ends belong to the interval iff `closed`. -/
structure Interval where
  low : Nat
  value : Nat
  high : Nat
  unit : Nat
  closed : Bool

/-- The interval around `m * 2 ^ q`.  Half a step lies on each side, but only a quarter
below the least mantissa of a binade, where the numbers underneath are closer. -/
def Interval.ofFinite (m : Nat) (q : Int) : Interval :=
  let scale := if 2 ≤ q then 1 <<< (q - 2).toNat else 1
  let unit := if 2 ≤ q then 1 else 1 <<< (2 - q).toNat
  let below := if m = Number.hiddenBit then 1 else 2
  { low := (4 * m - below) * scale
    value := 4 * m * scale
    high := (4 * m + 2) * scale
    unit := unit
    closed := m % 2 = 0 }

/-- Whether `c * 10 ^ p` lies in the interval; `up` and `down` are the factors that clear
`10 ^ p` of its sign. -/
def Interval.contains (i : Interval) (up down c : Nat) : Bool :=
  let x := c * i.unit * up
  if i.closed then i.low * down ≤ x && x ≤ i.high * down
  else i.low * down < x && x < i.high * down

/-- The nearer of the value's two neighbours on the grid of multiples of `10 ^ p`, among
those in the interval. -/
def Interval.neighbour? (i : Interval) (p : Int) : Option Nat :=
  let up := if 0 ≤ p then Nat.pow 10 p.toNat else 1
  let down := if 0 ≤ p then 1 else Nat.pow 10 (-p).toNat
  let step := i.unit * up
  let c := i.value * down / step
  let rest := i.value * down % step
  match i.contains up down c, i.contains up down (c + 1) with
  | true, true => some (if step ≤ 2 * rest then c + 1 else c)
  | true, false => some c
  | false, true => some (c + 1)
  | false, false => none

/-- How many zeros follow the point before the first digit of `n / d < 1`, at most
`fuel`. -/
def zerosAfterPoint (d : Nat) : Nat → Nat → Nat
  | 0, _ => 0
  | fuel + 1, n => if d ≤ 10 * n then 0 else zerosAfterPoint d fuel (10 * n) + 1

/-- The exponent `k` with `10 ^ (k - 1) ≤ value < 10 ^ k`. -/
def Interval.decimalPoint (i : Interval) : Int :=
  if i.unit ≤ i.value then ((Nat.toDigits 10 (i.value / i.unit)).length : Int)
  else -(zerosAfterPoint i.unit 400 i.value : Int)

/-- Tries `tries` more grids, from `10 ^ p` downward; the last one is taken as it is. -/
def Interval.search (i : Interval) : Nat → Int → Decimal
  | 0, p => ⟨(i.neighbour? p).getD 0, p⟩
  | tries + 1, p =>
    match i.neighbour? p with
    | some c => ⟨c, p⟩
    | none => i.search tries (p - 1)

/-- The shortest decimal that reads back as `m * 2 ^ q`, for positive `m`. -/
def ofFinite (m : Nat) (q : Int) : Decimal :=
  let i := Interval.ofFinite m q
  i.search 16 (i.decimalPoint - 1)

end Shortest

/-- The decimal digits of `n`, with `0` as `"0"`. -/
private def digitsOf (n : Nat) : List Char :=
  Nat.toDigits 10 n

/-- A decimal written out with a point where one is needed. -/
def Decimal.toText (d : Decimal) : String :=
  let all := digitsOf d.digits
  let kept := (all.reverse.dropWhile (· = '0')).reverse
  let exponent := d.exponent + ((all.length - kept.length : Nat) : Int)
  if kept.isEmpty then "0"
  else if 0 ≤ exponent then String.ofList (kept ++ List.replicate exponent.toNat '0')
  else
    let point := (kept.length : Int) + exponent
    if 0 < point then
      String.ofList (kept.take point.toNat ++ '.' :: kept.drop point.toNat)
    else String.ofList ('0' :: '.' :: (List.replicate (-point).toNat '0' ++ kept))

/-- The text of a number. -/
def Number.toText (x : Number) : String :=
  let sign := if x.isNegative then "-" else ""
  match x.magnitude with
  | .notANumber => "NaN"
  | .infinite => sign ++ "inf"
  | .finite m q => if m = 0 then sign ++ "0" else sign ++ (Shortest.ofFinite m q).toText

end ScriptHost
