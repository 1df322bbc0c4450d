/-! # Numbers in texts

Numbers are read exactly, from decimal digits or from those of another base.
-/

namespace Graft.Text

/-! ## Counts -/

/-- The largest count that fits a machine word. -/
def wordMax : Nat := Nat.pow 2 64 - 1

/-- The most bytes that a text can have. -/
def sizeMax : Nat := Nat.pow 2 63 - 1

def digit? (c : Char) : Option Nat :=
  if '0' ≤ c ∧ c ≤ '9' then some (c.toNat - '0'.toNat) else none

/-- The value of a text that holds decimal digits only, at least one of them. -/
def digits? : List Char → Option Nat
  | [] => none
  | c :: cs => (c :: cs).foldlM (fun n d => (digit? d).map (10 * n + ·)) 0

/-- A count: digits, with an optional plus sign, that fits a machine word. -/
def count? (s : String) : Option Nat :=
  let digits := match s.toList with
    | '+' :: cs => cs
    | cs => cs
  match digits? digits with
  | some n => if n ≤ wordMax then some n else none
  | none => none

/-! ## Other bases -/

def hexValue? (c : Char) : Option Nat :=
  if '0' ≤ c ∧ c ≤ '9' then some (c.toNat - '0'.toNat)
  else if 'a' ≤ c ∧ c ≤ 'f' then some (c.toNat - 'a'.toNat + 10)
  else if 'A' ≤ c ∧ c ≤ 'F' then some (c.toNat - 'A'.toNat + 10)
  else none

def radix? (base : Nat) (digits : List Char) : Option Nat :=
  digits.foldlM
    (fun n c => (hexValue? c).bind fun d => if d < base then some (base * n + d) else none) 0

def charOf? (digits : List Char) : Option Char :=
  (radix? 16 digits).bind fun n => if n.isValidChar then some (Char.ofNat n) else none

/-! ## Decimal numbers

The only question asked of a number with a point or a power of ten is whether it is too large for a
double-precision number.
-/

/-- The number `digits * 10 ^ exponent`. -/
structure Decimal where
  digits : Nat
  exponent : Int
deriving DecidableEq, Repr

namespace Decimal

/-- The least number that rounds to infinity: halfway between the largest finite double and the
next power of two. -/
def leastInfinite : Nat := Nat.pow 2 1024 - Nat.pow 2 970

/-- Whether the nearest double is infinite. Exponents that settle the question by themselves are
not raised to. -/
def overflows (d : Decimal) : Bool :=
  match d.exponent with
  | .ofNat e =>
    d.digits != 0 && (309 ≤ e || leastInfinite ≤ d.digits * Nat.pow 10 e)
  | .negSucc e =>
    e < d.digits.log2 && leastInfinite * Nat.pow 10 (e + 1) ≤ d.digits

/-! ### Reading -/

def signed? : List Char → Option Int
  | '+' :: cs => (digits? cs).map Int.ofNat
  | '-' :: cs => (digits? cs).map fun n => -Int.ofNat n
  | cs => (digits? cs).map Int.ofNat

def isExponentMark (c : Char) : Bool :=
  c == 'e' || c == 'E'

/-- The power of ten that a number ends in, zero when it has none. -/
def exponent? : List Char → Option Int
  | [] => some 0
  | _ :: cs => signed? cs

/-- Digits with a point before, among or behind them, and an optional power of ten. -/
def read? (cs : List Char) : Option Decimal :=
  let mantissa := cs.takeWhile (!isExponentMark ·)
  let whole := mantissa.takeWhile (· != '.')
  let fraction := (mantissa.dropWhile (· != '.')).drop 1
  match digits? (whole ++ fraction), exponent? (cs.dropWhile (!isExponentMark ·)) with
  | some digits, some exponent => some ⟨digits, exponent - fraction.length⟩
  | _, _ => none

end Decimal

def unsigned : List Char → List Char
  | '+' :: cs => cs
  | '-' :: cs => cs
  | cs => cs

def isNegative (cs : List Char) : Bool :=
  cs.head? == some '-'

end Graft.Text
