namespace RenderCore.Reading

def nearest (n : Nat) : Option Float :=
  if n < Nat.pow 2 53 then some n.toUInt64.toFloat
  else
    let shift := n.log2 + 1 - 53
    let top := n >>> shift
    let rest := n % Nat.pow 2 shift
    let half := Nat.pow 2 (shift - 1)
    let top := if rest > half ∨ (rest = half ∧ top % 2 = 1) then top + 1 else top
    let (top, shift) := if top = Nat.pow 2 53 then (Nat.pow 2 52, shift + 1) else (top, shift)
    if top * Nat.pow 2 shift ≥ Nat.pow 2 1024 then none
    else some (Float.scaleB top.toUInt64.toFloat shift)

def powerOfTen (i : Nat) : Option Float :=
  if i ≤ 308 then nearest (Nat.pow 10 i) else none

-- `significand * 10^exponent` computed in double arithmetic: one rounding of the significand, then
-- one multiplication or division by a power of ten. `none` when the result overflows.
def scaled (significand : Nat) (exponent : Int) : Option Float :=
  let start := (nearest significand).getD 0
  go 8 start exponent
where
  go : Nat → Float → Int → Option Float
    | 0, f, _ => some f
    | fuel + 1, f, e =>
      match powerOfTen e.natAbs with
      | some p =>
        if e ≥ 0 then
          let r := f * p
          if r.isInf then none else some r
        else some (f / p)
      | none =>
        if f == 0 then some f
        else if e ≥ 0 then none
        else go fuel (f / (powerOfTen 308).getD 1) (e + 308)

end RenderCore.Reading
