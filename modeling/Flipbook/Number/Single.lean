/-!
# Single-precision numbers

Positions, sizes and shares of colour are binary numbers of 24 significant bits. A finite
magnitude is given by its rank, its place among all finite magnitudes in ascending order, so
rounding is the choice of a rank. Magnitudes are counted in units of 2⁻¹⁴⁹, the smallest
positive one, and every rank stands for a whole number of units (`units`). An operation is
carried out exactly and rounded once, to the nearest rank and to the even one of two
(`nearestRank`).
-/
namespace Flipbook

/-- The number of ranks from a power of two up to the next, 2²³. -/
def Single.binade : Nat := 0x800000

def Single.rankCount : Nat := 255 * binade

inductive Single where
  | nan
  | infinite (negative : Bool)
  | finite (negative : Bool) (rank : Fin Single.rankCount)
deriving DecidableEq, Repr

namespace Single

/-- The binary logarithm of the number of units in one. -/
def onePlace : Nat := 149

def one : Nat := 1 <<< onePlace

/-- The bits of a rank that count, without those that only place them. -/
def significand (rank : Nat) : Nat := if rank < binade then rank else binade + rank % binade

/-- The places by which the significand of a rank is shifted. In the first two binades neighbours
are one unit apart; from there on the distance doubles with every binade. -/
def exponent (rank : Nat) : Nat := rank / binade - 1

def units (rank : Nat) : Nat := significand rank <<< exponent rank

/-- The quotient rounded to the nearest whole number, and to the even one of two. -/
def roundQuotient (num den : Nat) : Nat :=
  let floor := num / den
  let rest := num % den
  if 2 * rest < den ∨ (2 * rest = den ∧ floor % 2 = 0) then floor else floor + 1

/-- The rank nearest to `num / den`, shifted by `places`, in units. A quotient below one must not be
shifted, since the place of its leading bit is not looked for. Rounding up past the last rank of
one spacing leads to the first rank of the next, so no carry has to be handled. -/
def nearestRank (num den places : Nat) : Nat :=
  if num = 0 then 0
  else
    let spacing := Nat.log2 (num / den) + places - 23
    spacing * binade +
      if places ≤ spacing then roundQuotient num (den <<< (spacing - places))
      else roundQuotient (num <<< (places - spacing)) den

/-- The number of that rank; magnitudes beyond the last rank become infinite. -/
def nearest (negative : Bool) (num den places : Nat) : Single :=
  if fits : nearestRank num den places < rankCount then
    finite negative ⟨nearestRank num den places, fits⟩
  else
    infinite negative

def zero (negative : Bool) : Single := finite negative ⟨0, by decide⟩

def ofNat (n : Nat) : Single := nearest false n 1 onePlace

instance (n : Nat) : OfNat Single n := ⟨Single.ofNat n⟩

/-! ## Bit patterns -/

/-- The value of the sign bit, the top one of 32. -/
def signBit : Nat := 0x80000000

/-- The bits below the sign are the rank, then one infinity, then the patterns that are no
number. -/
def ofBits (bits : UInt32) : Single :=
  let negative := decide (bits.toNat ≥ signBit)
  let rank := bits.toNat % signBit
  if finite? : rank < rankCount then finite negative ⟨rank, finite?⟩
  else if rank = rankCount then infinite negative
  else nan

def toBits : Single → UInt32
  | nan => 0x7fc00000
  | infinite negative => UInt32.ofNat (rankCount + if negative then signBit else 0)
  | finite negative rank => UInt32.ofNat (rank + if negative then signBit else 0)

theorem ofBits_toBits (value : Single) : ofBits value.toBits = value := by
  cases value with
  | nan => decide
  | infinite negative => cases negative <;> decide
  | finite negative rank =>
    have bound := rank.isLt
    simp only [rankCount, binade] at bound
    have bits : (toBits (finite negative rank)).toNat =
        rank.val + if negative then signBit else 0 := by
      simp only [toBits, UInt32.toNat_ofNat']
      apply Nat.mod_eq_of_lt
      unfold signBit
      split <;> omega
    cases negative with
    | false =>
      have low : rank.val % signBit = rank.val := Nat.mod_eq_of_lt (by unfold signBit; omega)
      have unsigned : ¬signBit ≤ rank.val := by unfold signBit; omega
      simp [ofBits, bits, low, unsigned]
    | true =>
      have low : (rank.val + signBit) % signBit = rank.val := by unfold signBit; omega
      simp [ofBits, bits, low]

/-! ## Arithmetic -/

def isZero : Single → Bool
  | finite _ rank => rank.val = 0
  | _ => false

def neg : Single → Single
  | nan => nan
  | infinite negative => infinite !negative
  | finite negative rank => finite (!negative) rank

/-- Magnitudes are brought to their lower exponent and added, or subtracted where the signs differ.
A difference of zero is positive. -/
def addFinite (a : Bool) (r : Nat) (b : Bool) (s : Nat) : Single :=
  let places := min (exponent r) (exponent s)
  let m := significand r <<< (exponent r - places)
  let n := significand s <<< (exponent s - places)
  if a = b then nearest a (m + n) 1 places
  else if m = n then zero false
  else if n < m then nearest a (m - n) 1 places
  else nearest b (n - m) 1 places

/-- The product of two numbers of units is counted in units of units. -/
def mulFinite (negative : Bool) (r s : Nat) : Single :=
  let places := exponent r + exponent s
  let product := significand r * significand s
  if onePlace ≤ places then nearest negative product 1 (places - onePlace)
  else nearest negative product (1 <<< (onePlace - places)) 0

/-- More places than a significand has bits, so a shifted significand is above any other. -/
def headroom : Nat := 32

/-- A quotient of numbers of units is no number of units, but of ones. -/
def divFinite (negative : Bool) (r s : Nat) : Single :=
  let dividend := significand r <<< headroom
  let places := exponent r + (onePlace - headroom)
  if exponent s ≤ places then nearest negative dividend (significand s) (places - exponent s)
  else nearest negative dividend (significand s <<< (exponent s - places)) 0

def add : Single → Single → Single
  | nan, _ | _, nan => nan
  | infinite a, infinite b => if a = b then infinite a else nan
  | infinite a, finite _ _ | finite _ _, infinite a => infinite a
  | finite a r, finite b s => addFinite a r b s

def mul : Single → Single → Single
  | nan, _ | _, nan => nan
  | infinite a, infinite b => infinite (a ^^ b)
  | infinite a, finite b r | finite b r, infinite a =>
    if r.val = 0 then nan else infinite (a ^^ b)
  | finite a r, finite b s => mulFinite (a ^^ b) r s

def div : Single → Single → Single
  | nan, _ | _, nan | infinite _, infinite _ => nan
  | infinite a, finite b _ => infinite (a ^^ b)
  | finite a _, infinite b => zero (a ^^ b)
  | finite a r, finite b s =>
    if s.val = 0 then
      if r.val = 0 then nan else infinite (a ^^ b)
    else
      divFinite (a ^^ b) r s

instance : Neg Single := ⟨neg⟩
instance : Add Single := ⟨add⟩
instance : Sub Single := ⟨fun a b => add a (neg b)⟩
instance : Mul Single := ⟨mul⟩
instance : Div Single := ⟨div⟩

/-! ## Whole numbers -/

def signed (negative : Bool) (magnitude : Nat) : Int := if negative then -magnitude else magnitude

/-- The whole number nearest to a finite magnitude, a half going away from zero. -/
def nearestWhole (rank : Nat) : Nat := (units rank + one / 2) / one

/-- The nearest 64-bit integer. What lies beyond the ends goes to the end; no number gives zero. -/
def toInt64 : Single → Int64
  | nan => 0
  | infinite negative => if negative then Int64.minValue else Int64.maxValue
  | finite negative rank => Int64.ofIntClamp (signed negative (nearestWhole rank))

/-- The nearest 32-bit word. What lies beyond the ends goes to the end; no number gives zero. -/
def toUInt32 : Single → UInt32
  | nan => 0
  | infinite negative => if negative then 0 else 0xffffffff
  | finite negative rank =>
    if negative then 0 else UInt32.ofNat (min (nearestWhole rank) (UInt32.size - 1))

/-- The whole part as a byte. What lies beyond the ends goes to the end; no number gives zero. -/
def toUInt8 : Single → UInt8
  | nan => 0
  | infinite negative => if negative then 0 else 255
  | finite negative rank => if negative then 0 else UInt8.ofNat (min (units rank / one) 255)

end Single
end Flipbook
