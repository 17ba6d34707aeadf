namespace RenderCore.Shortest

structure Binary where
  m : Nat
  q : Int
  narrowBelow : Bool

def Binary.ofBits (b : UInt64) : Binary :=
  let e := ((b >>> 52) &&& 0x7FF).toNat
  let f := (b &&& 0xFFFFFFFFFFFFF).toNat
  if e = 0 then ⟨f, -1074, false⟩ else ⟨Nat.pow 2 52 + f, (e : Int) - 1075, f = 0 ∧ e > 1⟩

def compareScaled (a : Nat) (i : Int) (n : Nat) (j : Int) : Ordering :=
  compare (a * Nat.pow 10 i.toNat * Nat.pow 2 (-j).toNat) (n * Nat.pow 2 j.toNat * Nat.pow 10 (-i).toNat)

def Binary.readsBack (x : Binary) (digits : Nat) (exp : Int) : Bool :=
  let lo := if x.narrowBelow then 4 * x.m - 1 else 4 * x.m - 2
  let hi := 4 * x.m + 2
  let incl := x.m % 2 == 0
  let cl := compareScaled digits exp lo (x.q - 2)
  let ch := compareScaled digits exp hi (x.q - 2)
  (cl == .gt || (incl && cl == .eq)) && (ch == .lt || (incl && ch == .eq))

def Binary.floorDiv (x : Binary) (k : Int) : Nat :=
  (x.m * Nat.pow 2 x.q.toNat * Nat.pow 10 (-k).toNat) / (Nat.pow 2 (-x.q).toNat * Nat.pow 10 k.toNat)

def Binary.scale (x : Binary) : Int :=
  let estimate : Int := ((x.m.log2 : Int) + x.q) * 30103 / 100000
  let below (k : Int) : Bool := compareScaled 1 k x.m x.q == .gt
  let up := (List.range 4).foldl (fun k _ => if below k then k else k + 1) (estimate - 1)
  (List.range 4).foldl (fun k _ => if below (k - 1) then k - 1 else k) up

def Binary.nearer (x : Binary) (lo hi : Nat) (k : Int) : Nat :=
  -- compare twice the value with the sum of the two hits
  match compareScaled (lo + hi) k (2 * x.m) x.q with
  | .gt => lo
  | .lt => hi
  | .eq => if lo % 2 = 0 then lo else hi

def Binary.hitOn (x : Binary) (k : Int) : Option Nat :=
  let lo := x.floorDiv k
  let hi := lo + 1
  match x.readsBack lo k, x.readsBack hi k with
  | true, true => some (x.nearer lo hi k)
  | true, false => some lo
  | false, true => some hi
  | false, false => none

def strip (digits : Nat) (exp : Int) : Nat × Int :=
  (List.range 20).foldl (fun (d, e) _ => if d ≠ 0 ∧ d % 10 = 0 then (d / 10, e + 1) else (d, e))
    (digits, exp)

def Binary.shortest (x : Binary) : Nat × Int :=
  let k := x.scale
  match (List.range 17).findSome? (fun n => (x.hitOn (k - (n + 1 : Nat))).map
      (fun d => (d, k - (n + 1 : Nat)))) with
  | some (d, e) => strip d e
  | none => strip (x.m * Nat.pow 5 (-x.q).toNat * Nat.pow 2 x.q.toNat) (min x.q 0)

def positional (digits : Nat) (exp : Int) : String :=
  let ds := toString digits
  let n : Int := ds.length
  let point := n + exp
  if exp ≥ 0 then ds ++ String.ofList (List.replicate exp.toNat '0')
  else if point ≤ 0 then "0." ++ String.ofList (List.replicate (-point).toNat '0') ++ ds
  else
    let cs := ds.toList
    String.ofList (cs.take point.toNat) ++ "." ++ String.ofList (cs.drop point.toNat)

structure Layout where
  positionalAbove : Int
  positionalUpTo : Int
  pointZero : Bool
  exponentPlus : Bool

def scientific (plus : Bool) (digits : Nat) (exp : Int) : String :=
  let cs := (toString digits).toList
  let power := (cs.length : Int) + exp - 1
  let mantissa := match cs with
    | [] => ""
    | [c] => String.singleton c
    | c :: rest => String.singleton c ++ "." ++ String.ofList rest
  let sign := if power < 0 then "-" else if plus then "+" else ""
  mantissa ++ "e" ++ sign ++ toString power.natAbs

def Layout.write (l : Layout) (digits : Nat) (exp : Int) : String :=
  let k := ((toString digits).length : Int) + exp
  if l.positionalAbove < k ∧ k ≤ l.positionalUpTo then
    let t := positional digits exp
    if l.pointZero ∧ !t.toList.contains '.' then t ++ ".0" else t
  else scientific l.exponentPlus digits exp

-- The shortest text of a finite double in a layout, with a leading `-` when its sign bit is set (so
-- also for negative zero). Zero is written positionally.
def text (l : Layout) (f : Float) : String :=
  let bits := f.toBits
  let sign := if bits >>> 63 = 1 then "-" else ""
  let x := Binary.ofBits bits
  if x.m = 0 then sign ++ (if l.pointZero then "0.0" else "0")
  else
    let (d, e) := x.shortest
    sign ++ l.write d e

end RenderCore.Shortest
