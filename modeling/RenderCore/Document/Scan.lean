import RenderCore.Document.Problem
import RenderCore.Number.Reading
namespace RenderCore.Document.Scan

structure Failure where
  problem : Problem
  index : Option Nat
  stop : Nat

abbrev Reader := StateT Nat (Except Failure)

inductive Number where
  | unsigned (n : Nat)
  | signed (i : Int)
  | float (f : Float)

def Number.found : Number → Found
  | .unsigned n => .unsigned n
  | .signed i => .signed i
  | .float f => .float f

def place (t : ByteArray) (i : Nat) : Nat × Nat :=
  let before := (t.extract 0 i).toList
  let lineStart := (before.length - (before.reverse.takeWhile (· ≠ 10)).length)
  let lines := (before.take lineStart).count 10
  (lines + 1, i - lineStart)

section
variable (t : ByteArray)

def peek : Reader (Option UInt8) := do return t[← get]?

def eat : Reader Unit := modify (· + 1)

def next : Reader (Option UInt8) := do
  let b ← peek t
  if b.isSome then eat
  return b

def failHere {α : Type} (p : Problem) : Reader α := do
  let i ← get
  throw ⟨p, some i, i⟩

def failNext {α : Type} (p : Problem) : Reader α := do
  let i ← get
  throw ⟨p, some (min t.size (i + 1)), i⟩

def isDigit (b : UInt8) : Bool := 48 ≤ b ∧ b ≤ 57

def digitValue (b : UInt8) : Nat := (b - 48).toNat

def skipBlank : Reader (Option UInt8) := go t.size
where
  go : Nat → Reader (Option UInt8)
    | 0 => peek t
    | fuel + 1 => do
      match ← peek t with
      | some b => if b = 32 ∨ b = 10 ∨ b = 9 ∨ b = 13 then eat; go fuel else return some b
      | none => return none

def skipDigits : Reader Unit := go t.size
where
  go : Nat → Reader Unit
    | 0 => pure ()
    | fuel + 1 => do
      match ← peek t with
      | some b => if isDigit b then eat; go fuel else pure ()
      | none => pure ()

def keyword (rest : List UInt8) : Reader Unit :=
  rest.forM fun expected => do
    match ← next t with
    | none => failHere .eofValue
    | some b => if b ≠ expected then failHere .expectedIdent

def maxWord : Nat := UInt64.size - 1
def maxExponent : Nat := Nat.pow 2 31 - 1

def clampExponent (e : Int) : Int := max (-(maxExponent : Int) - 1) (min e maxExponent)

def fromParts (positive : Bool) (significand : Nat) (exponent : Int) : Reader Float :=
  match Reading.scaled significand exponent with
  | none => failHere .numberOutOfRange
  | some f => pure (if positive then f else -f)

def exponentOverflow (positive zero positiveExp : Bool) : Reader Float := do
  if ¬zero ∧ positiveExp then failHere .numberOutOfRange
  skipDigits t
  return (if positive then 0.0 else -0.0)

def exponentPart (positive : Bool) (significand : Nat) (start : Int) : Reader Float := do
  eat
  let positiveExp ← do
    match ← peek t with
    | some 43 => eat; pure true
    | some 45 => eat; pure false
    | _ => pure true
  let first ← do
    match ← next t with
    | none => failHere .eofValue
    | some b => if isDigit b then pure (digitValue b) else failHere .invalidNumber
  let rec go : Nat → Nat → Reader (Option Nat)
    | 0, e => pure (some e)
    | fuel + 1, e => do
      match ← peek t with
      | some b =>
        if isDigit b then
          eat
          let e' := e * 10 + digitValue b
          if e' > maxExponent then pure none else go fuel e'
        else pure (some e)
      | none => pure (some e)
  match ← go t.size first with
  | none => exponentOverflow t positive (significand = 0) positiveExp
  | some e =>
    let final := clampExponent (if positiveExp then start + e else start - e)
    fromParts positive significand final

def decimalOverflow (positive : Bool) (significand : Nat) (exponent : Int) : Reader Float := do
  skipDigits t
  match ← peek t with
  | some 101 | some 69 => exponentPart t positive significand exponent
  | _ => fromParts positive significand exponent

def fractionPart (positive : Bool) (significand : Nat) (before : Int) : Reader Float := do
  eat
  let rec go : Nat → Nat → Int → Reader (Sum (Nat × Int) Float)
    | 0, s, e => pure (.inl (s, e))
    | fuel + 1, s, e => do
      match ← peek t with
      | some b =>
        if isDigit b then
          let s' := s * 10 + digitValue b
          if s' > maxWord then return .inr (← decimalOverflow t positive s (before + e))
          eat
          go fuel s' (e - 1)
        else pure (.inl (s, e))
      | none => pure (.inl (s, e))
  match ← go t.size significand 0 with
  | .inr f => pure f
  | .inl (s, after) =>
    if after = 0 then
      match ← peek t with
      | some _ => failNext t .invalidNumber
      | none => failNext t .eofValue
    let exponent := before + after
    match ← peek t with
    | some 101 | some 69 => exponentPart t positive s exponent
    | _ => fromParts positive s exponent

def numberTail (positive : Bool) (significand : Nat) : Reader Number := do
  match ← peek t with
  | some 46 => return .float (← fractionPart t positive significand 0)
  | some 101 | some 69 => return .float (← exponentPart t positive significand 0)
  | _ =>
    if positive then return .unsigned significand
    else if significand = 0 ∨ significand > Nat.pow 2 63 then
      return .float (-((Reading.nearest significand).getD 0))
    else return .signed (-(significand : Int))

def longInteger (positive : Bool) (significand : Nat) : Reader Float :=
  go t.size 0
where
  go : Nat → Int → Reader Float
    | 0, e => fromParts positive significand e
    | fuel + 1, e => do
      match ← peek t with
      | some 46 => fractionPart t positive significand e
      | some 101 | some 69 => exponentPart t positive significand e
      | some b => if isDigit b then eat; go fuel (e + 1) else fromParts positive significand e
      | none => fromParts positive significand e

def number (positive : Bool) : Reader Number := do
  match ← next t with
  | none => failHere .eofValue
  | some 48 =>
    match ← peek t with
    | some b => if isDigit b then failNext t .invalidNumber else numberTail t positive 0
    | none => numberTail t positive 0
  | some c =>
    if isDigit c then
      let rec go : Nat → Nat → Reader Number
        | 0, s => numberTail t positive s
        | fuel + 1, s => do
          match ← peek t with
          | some b =>
            if isDigit b then
              let s' := s * 10 + digitValue b
              if s' > maxWord then return .float (← longInteger t positive s)
              eat
              go fuel s'
            else numberTail t positive s
          | none => numberTail t positive s
      go t.size (digitValue c)
    else failHere .invalidNumber

def hexValue (b : UInt8) : Option Nat :=
  if 48 ≤ b ∧ b ≤ 57 then some (b - 48).toNat
  else if 97 ≤ b ∧ b ≤ 102 then some (b - 87).toNat
  else if 65 ≤ b ∧ b ≤ 70 then some (b - 55).toNat
  else none

def hexEscape : Reader Nat := do
  let i ← get
  if i + 4 > t.size then
    set t.size
    failHere .eofString
  set (i + 4)
  match (List.range 4).mapM (fun k => hexValue (t[i + k]?.getD 0)) with
  | some ds => pure (ds.foldl (fun n d => n * 16 + d) 0)
  | none => failHere .invalidEscape

def unicodeEscape : Reader Char := do
  let n ← hexEscape t
  if 0xDC00 ≤ n ∧ n ≤ 0xDFFF then failHere .loneSurrogate
  if n < 0xD800 ∨ n > 0xDBFF then return Char.ofNat n
  let expect (b : UInt8) : Reader Unit := do
    match ← peek t with
    | none => failHere .eofString
    | some c => eat; if c ≠ b then failHere .unexpectedHexEnd
  expect 92
  expect 117
  let n2 ← hexEscape t
  if n2 < 0xDC00 ∨ n2 > 0xDFFF then failHere .loneSurrogate
  return Char.ofNat ((((n - 0xD800) <<< 10) ||| (n2 - 0xDC00)) + 0x10000)

def escape : Reader (List UInt8) := do
  match ← next t with
  | none => failHere .eofString
  | some b =>
    match b with
    | 34 => pure [34] | 92 => pure [92] | 47 => pure [47]
    | 98 => pure [8] | 102 => pure [12] | 110 => pure [10] | 114 => pure [13] | 116 => pure [9]
    | 117 => return (← unicodeEscape t).toString.toUTF8.toList
    | _ => failHere .invalidEscape

def string : Reader String := do
  let rec go : Nat → List UInt8 → Reader (List UInt8)
    | 0, acc => pure acc
    | fuel + 1, acc => do
      match ← peek t with
      | none => failHere .eofString
      | some b =>
        eat
        if b = 34 then pure acc
        else if b = 92 then go fuel (acc ++ (← escape t))
        else if b < 32 then failHere .controlCharacter
        else go fuel (acc ++ [b])
  let bytes ← go t.size []
  return (String.fromUTF8? ⟨bytes.toArray⟩).getD ""

def skipString : Reader Unit := go t.size
where
  go : Nat → Reader Unit
    | 0 => pure ()
    | fuel + 1 => do
      match ← peek t with
      | none => failHere .eofString
      | some b =>
        if b = 34 then eat
        else if b = 92 then
          eat
          match ← next t with
          | none => failHere .eofString
          | some c =>
            if c = 117 then discard (hexEscape t)
            else if [34, 92, 47, 98, 102, 110, 114, 116].contains c then pure ()
            else failHere .invalidEscape
          go fuel
        else if b < 32 then failHere .controlCharacter
        else eat; go fuel

def skipNumber : Reader Unit := do
  let first := (← next t).getD 0
  if first = 48 then
    match ← peek t with
    | some b => if isDigit b then failNext t .invalidNumber
    | none => pure ()
  else if isDigit first then skipDigits t
  else failHere .invalidNumber
  let exponent : Reader Unit := do
    eat
    match ← peek t with
    | some 43 | some 45 => eat
    | _ => pure ()
    match (← next t).getD 0 with
    | b => if ¬isDigit b then failHere .invalidNumber
    skipDigits t
  match ← peek t with
  | some 46 =>
    eat
    match ← peek t with
    | some b => if ¬isDigit b then failNext t .invalidNumber
    | none => failNext t .invalidNumber
    skipDigits t
    match ← peek t with
    | some 101 | some 69 => exponent
    | _ => pure ()
  | some 101 | some 69 => exponent
  | _ => pure ()

def skipValue : Reader Unit := outer t.size none []
where
  close : Nat → UInt8 → Bool → List UInt8 → Reader (Option (UInt8 × List UInt8))
    | 0, _, _, _ => pure none
    | fuel + 1, frame, acceptComma, stack => do
      match ← skipBlank t with
      | some 44 =>
        if acceptComma then eat; return some (frame, stack)
        else return some (frame, stack)
      | some b =>
        if (b = 93 ∧ frame = 91) ∨ (b = 125 ∧ frame = 123) then
          eat
          match stack with
          | [] => return none
          | f :: rest => close fuel f true rest
        else if acceptComma then
          failNext t (if frame = 91 then .expectedListEnd else .expectedObjectEnd)
        else return some (frame, stack)
      | none => failNext t (if frame = 91 then .eofList else .eofObject)
  outer : Nat → Option UInt8 → List UInt8 → Reader Unit
    | 0, _, _ => pure ()
    | fuel + 1, enclosing, stack => do
      let b ← skipBlank t
      let opened : Option UInt8 ← do
        match b with
        | some 110 => eat; keyword t [117, 108, 108]; pure none
        | some 116 => eat; keyword t [114, 117, 101]; pure none
        | some 102 => eat; keyword t [97, 108, 115, 101]; pure none
        | some 45 => eat; skipNumber t; pure none
        | some 34 => eat; skipString t; pure none
        | some 91 => eat; pure (some 91)
        | some 123 => eat; pure (some 123)
        | some c => if isDigit c then skipNumber t; pure none else failNext t .expectedValue
        | none => failNext t .eofValue
      let stack := match opened, enclosing with
        | some _, some e => e :: stack
        | _, _ => stack
      let next? ← match opened with
        | some frame => close fuel frame false stack
        | none =>
          match enclosing with
          | some frame => close fuel frame true stack
          | none =>
            match stack with
            | [] => pure none
            | f :: rest => close fuel f true rest
      match next? with
      | none => pure ()
      | some (frame, stack) =>
        if frame = 123 then
          match ← skipBlank t with
          | some 34 => eat
          | some _ => failNext t .keyNotString
          | none => failNext t .eofObject
          skipString t
          match ← skipBlank t with
          | some 58 => eat
          | some _ => failNext t .expectedColon
          | none => failNext t .eofObject
        outer fuel (some frame) stack

end

end RenderCore.Document.Scan
