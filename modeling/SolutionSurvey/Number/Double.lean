/-!
# Double-precision numbers

Numbers of the binary64 format as exact values: a sign, a mantissa and a power of two. Reading rounds a
decimal to the nearest such number; writing finds the fewest decimal digits that read back.

## Main definitions

* `Double` — the numbers, with infinities and a value that is no number.
* `Double.ofRatio` — the nearest number to a quotient, ties to the even mantissa.
* `Double.ofDecimal` — the nearest number to `digits · 10 ^ power`.
* `Double.shortest` — the fewest digits that read back, and of those the nearest.
* `Double.toText` — positional for exponents from `-4` to `15`, scientific otherwise.
-/

namespace SolutionSurvey

/-- A binary64 number. A finite one is `± mantissa · 2 ^ power`, with `mantissa < 2 ^ 53`. -/
inductive Double where
  | finite (negative : Bool) (mantissa : Nat) (power : Int)
  | infinite (negative : Bool)
  | nan
  deriving Repr, DecidableEq, Inhabited

namespace Double

/-- The least power of two of the format. -/
def minPower : Int := -1074

/-- The greatest power of two of a finite number. -/
def maxPower : Int := 971

/-- The quotient of two numbers rounded to the nearest whole number, ties to even. -/
def roundDiv (num den : Nat) : Nat :=
  let q := num / den
  let r := num % den
  if 2 * r < den then q else if den < 2 * r then q + 1 else if q % 2 = 0 then q else q + 1

/-- `n · 2 ^ power` for a power that may be negative, as numerator and denominator. -/
def scale (n : Nat) (power : Int) : Nat × Nat :=
  if 0 ≤ power then (n * Nat.pow 2 power.toNat, 1) else (n, Nat.pow 2 (-power).toNat)

/-- The nearest number to `num / den`, ties to the even mantissa. -/
def ofRatio (negative : Bool) (num den : Nat) : Double :=
  if num = 0 ∨ den = 0 then .finite negative 0 minPower
  else
    let guess : Int := (Nat.log2 num : Int) - (Nat.log2 den : Int) - 52
    -- the quotient lies in [2 ^ (guess + 51), 2 ^ (guess + 53))
    let fits (p : Int) : Bool :=
      let (n, d) := if 0 ≤ p then (num, den * Nat.pow 2 p.toNat) else (num * Nat.pow 2 (-p).toNat, den)
      decide (Nat.pow 2 52 * d ≤ n)
    let p := max (if fits guess then guess else guess - 1) minPower
    let (n, d) := if 0 ≤ p then (num, den * Nat.pow 2 p.toNat) else (num * Nat.pow 2 (-p).toNat, den)
    let m := roundDiv n d
    let (m, p) := if m = Nat.pow 2 53 then (Nat.pow 2 52, p + 1) else (m, p)
    if maxPower < p then .infinite negative else .finite negative m p

/-- The nearest number to `digits · 10 ^ power`. -/
def ofDecimal (negative : Bool) (digits : Nat) (power : Int) : Double :=
  if digits = 0 then .finite negative 0 minPower
  else if 310 < power then .infinite negative
  else if power < -(400 + (Nat.log2 digits : Int)) then .finite negative 0 minPower
  else if 0 ≤ power then ofRatio negative (digits * Nat.pow 10 power.toNat) 1
  else ofRatio negative digits (Nat.pow 10 (-power).toNat)

/-- The number for a whole number. -/
def ofInt (n : Int) : Double :=
  ofRatio (n < 0) n.natAbs 1

/-- The whole number that this one equals, if there is one. -/
def toInt? : Double → Option Int
  | .finite negative m p =>
    let (n, d) := scale m p
    if n % d = 0 then some (if negative then -((n / d : Nat) : Int) else ((n / d : Nat) : Int)) else none
  | _ => none

/-- Whether a number is neither an infinity nor none at all. -/
def isFinite : Double → Bool
  | .finite .. => true
  | _ => false

/-- Whether two numbers are equal as values: the zeros agree, and what is no number equals nothing. -/
def equals : Double → Double → Bool
  | .finite _ 0 _, .finite _ 0 _ => true
  | .nan, _ => false
  | _, .nan => false
  | a, b => decide (a = b)

/-- The number with the other sign. -/
def negate : Double → Double
  | .finite s m p => .finite (!s) m p
  | .infinite s => .infinite (!s)
  | .nan => .nan

/-- The sum of two numbers, rounded to the nearest. -/
def add : Double → Double → Double
  | .nan, _ => .nan
  | _, .nan => .nan
  | .infinite a, .infinite b => if a = b then .infinite a else .nan
  | .infinite a, _ => .infinite a
  | _, .infinite b => .infinite b
  | .finite s m p, .finite t n q =>
    let low := min p q
    let a : Int := (m * Nat.pow 2 (p - low).toNat : Nat) * (if s then -1 else 1)
    let b : Int := (n * Nat.pow 2 (q - low).toNat : Nat) * (if t then -1 else 1)
    let sum := a + b
    if sum = 0 then .finite (s && t) 0 minPower
    else
      let (num, den) := scale sum.natAbs low
      ofRatio (sum < 0) num den

/-- The product of two numbers, rounded to the nearest. -/
def mul : Double → Double → Double
  | .nan, _ => .nan
  | _, .nan => .nan
  | .finite s m p, .finite t n q =>
    let (num, den) := scale (m * n) (p + q)
    ofRatio (s != t) num den
  | .finite s m _, .infinite t => if m = 0 then .nan else .infinite (s != t)
  | .infinite s, .finite t n _ => if n = 0 then .nan else .infinite (s != t)
  | .infinite s, .infinite t => .infinite (s != t)

/-! ## The shortest decimal that reads back -/

/-- Compares `a · 10 ^ power` with `b · 2 ^ exponent`. -/
def compareScaled (a : Nat) (power : Int) (b : Nat) (exponent : Int) : Ordering :=
  let (an, ad) := if 0 ≤ power then (a * Nat.pow 10 power.toNat, 1) else (a, Nat.pow 10 (-power).toNat)
  let (bn, bd) := scale b exponent
  compare (an * bd) (bn * ad)

/-- The greatest `k` with `10 ^ k ≤ mantissa · 2 ^ power`, found from `guess` downward. -/
def floorLog10 (mantissa : Nat) (power : Int) : Nat → Int → Int
  | 0, guess => guess
  | fuel + 1, guess =>
    if compareScaled 1 guess mantissa power = .gt then floorLog10 mantissa power fuel (guess - 1)
    else guess

/-- The floor of `mantissa · 2 ^ exponent / 10 ^ power`. -/
def floorAt (mantissa : Nat) (exponent power : Int) : Nat :=
  let (n, d) := scale mantissa exponent
  if 0 ≤ power then n / (d * Nat.pow 10 power.toNat) else n * Nat.pow 10 (-power).toNat / d

/-- Whether `digits · 10 ^ power` lies among the reals that round to `mantissa · 2 ^ exponent`. -/
def readsBack (mantissa : Nat) (exponent : Int) (digits : Nat) (power : Int) : Bool :=
  let low := if mantissa = Nat.pow 2 52 ∧ minPower < exponent then 4 * mantissa - 1 else 4 * mantissa - 2
  let high := 4 * mantissa + 2
  let closed := mantissa % 2 = 0
  match compareScaled digits power low (exponent - 2), compareScaled digits power high (exponent - 2) with
  | .gt, .lt => true
  | .eq, _ => closed
  | _, .eq => closed
  | _, _ => false

/-- Of two neighbours `digits` and `digits + 1` on the grid `10 ^ power`, the nearer one; a tie goes to
the even one. -/
def nearer (mantissa : Nat) (exponent : Int) (digits : Nat) (power : Int) : Nat :=
  match compareScaled (2 * digits + 1) power (2 * mantissa) exponent with
  | .gt => digits
  | .lt => digits + 1
  | .eq => if digits % 2 = 0 then digits else digits + 1

/-- The first grid, from the coarsest, with a point that reads back. -/
def shortestFrom (mantissa : Nat) (exponent top : Int) : Nat → Nat → Nat × Int
  | 0, count => (floorAt mantissa exponent (top - count), top - count)
  | fuel + 1, count =>
    let power := top - count
    let below := floorAt mantissa exponent power
    match readsBack mantissa exponent below power, readsBack mantissa exponent (below + 1) power with
    | true, true => (nearer mantissa exponent below power, power)
    | true, false => (below, power)
    | false, true => (below + 1, power)
    | false, false => shortestFrom mantissa exponent top fuel (count + 1)

/-- The fewest digits that read back as `mantissa · 2 ^ exponent`, with their power of ten. -/
def shortest (mantissa : Nat) (exponent : Int) : Nat × Int :=
  let guess : Int := ((Nat.log2 mantissa : Int) + exponent) * 30103 / 100000 + 2
  let top := floorLog10 mantissa exponent 6 guess
  shortestFrom mantissa exponent top 17 0

/-- The digits without trailing zeros, and the power of ten raised to match. -/
def dropZeros : Nat → Nat → Int → Nat × Int
  | 0, digits, power => (digits, power)
  | fuel + 1, digits, power =>
    if digits % 10 = 0 ∧ digits ≠ 0 then dropZeros fuel (digits / 10) (power + 1) else (digits, power)

/-- The written form of the digits: positional for exponents from `-4` to `15`, with a decimal point in
every case, scientific otherwise with an exponent of at least two digits. -/
def layout (digits : Nat) (power : Int) : String :=
  let ds := Nat.toDigits 10 digits
  let exponent := power + ds.length - 1
  if -4 ≤ exponent ∧ exponent < 16 then
    if 0 ≤ power then String.ofList (ds ++ List.replicate power.toNat '0') ++ ".0"
    else
      let whole := (exponent + 1).toNat
      if 0 ≤ exponent then String.ofList (ds.take whole) ++ "." ++ String.ofList (ds.drop whole)
      else "0." ++ String.ofList (List.replicate (-exponent - 1).toNat '0' ++ ds)
  else
    let sign := if exponent < 0 then "-" else "+"
    let es := Nat.toDigits 10 exponent.natAbs
    let es := if es.length < 2 then '0' :: es else es
    let fraction := if ds.length = 1 then "" else "." ++ String.ofList (ds.drop 1)
    String.ofList (ds.take 1) ++ fraction ++ "e" ++ sign ++ String.ofList es

/-- The written form of a number. -/
def toText : Double → String
  | .nan => "nan"
  | .infinite false => "inf"
  | .infinite true => "-inf"
  | .finite negative m p =>
    let sign := if negative then "-" else ""
    if m = 0 then sign ++ "0.0"
    else
      let (digits, power) := shortest m p
      let (digits, power) := dropZeros 20 digits power
      sign ++ layout digits power

/-! ## Reading -/

/-- The value of a run of decimal digits. -/
def digitsValue (cs : List Char) : Nat :=
  cs.foldl (fun n c => 10 * n + (c.toNat - 48)) 0

/-- Digits in which single underscores stand between digits only, without the underscores. -/
def dropSeparators : List Char → Option (List Char)
  | [] => some []
  | '_' :: _ => none
  | c :: '_' :: d :: rest =>
    if c.isDigit then
      if d.isDigit then (dropSeparators (d :: rest)).map (c :: ·) else none
    else (dropSeparators ('_' :: d :: rest)).map (c :: ·)
  | [_, '_'] => none
  | c :: rest => (dropSeparators rest).map (c :: ·)

/-- Reads an optional exponent, which must be all that is left. -/
def readExponent? : List Char → Option Int
  | [] => some 0
  | e :: rest =>
    if e = 'e' ∨ e = 'E' then
      let (negative, ds) := match rest with
        | '-' :: ds => (true, ds)
        | '+' :: ds => (false, ds)
        | ds => (false, ds)
      if !ds.isEmpty && ds.all Char.isDigit then
        let n := min (digitsValue ds) 1000000
        some (if negative then -(n : Int) else n)
      else none
    else none

/-- Reads an unsigned decimal: digits with an optional point, at least one digit in all, and an
optional exponent. -/
def readUnsigned? (negative : Bool) (cs : List Char) : Option Double :=
  let whole := cs.takeWhile Char.isDigit
  let rest := cs.dropWhile Char.isDigit
  let (fraction, rest) := match rest with
    | '.' :: more => (more.takeWhile Char.isDigit, more.dropWhile Char.isDigit)
    | _ => ([], rest)
  if whole.isEmpty && fraction.isEmpty then none
  else
    (readExponent? rest).map fun e =>
      ofDecimal negative (digitsValue (whole ++ fraction)) (e - fraction.length)

/-- Reads a signed decimal, an infinity or a text for no number; the letters are in lower case. -/
def read? (cs : List Char) : Option Double :=
  let (negative, body) := match cs with
    | '-' :: rest => (true, rest)
    | '+' :: rest => (false, rest)
    | _ => (false, cs)
  let name := String.ofList body
  if name = "inf" ∨ name = "infinity" then some (.infinite negative)
  else if name = "nan" then some .nan
  else (dropSeparators body).bind (readUnsigned? negative)


end Double

end SolutionSurvey
