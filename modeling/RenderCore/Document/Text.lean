import RenderCore.Document.Basic
import RenderCore.Document.Scan
namespace RenderCore.Document

open Scan

def ofNumber : Number → Document
  | .unsigned n => .nat n
  | .signed i => .neg i
  | .float f => .float f

def setField (f : String × Document) : List (String × Document) → List (String × Document)
  | [] => [f]
  | g :: rest => if g.1 = f.1 then f :: rest else g :: setField f rest

section
variable (t : ByteArray)

def readItems (item : Reader Document) : Reader (List Document) := go t.size true []
where
  go : Nat → Bool → List Document → Reader (List Document)
    | 0, _, acc => pure acc.reverse
    | fuel + 1, first, acc => do
      match ← skipBlank t with
      | none => failNext t .eofList
      | some 93 => eat; pure acc.reverse
      | some b =>
        if !first then
          if b ≠ 44 then failNext t .expectedListEnd
          eat
          match ← skipBlank t with
          | none => failNext t .eofValue
          | some 93 => failNext t .trailingComma
          | some _ => pure ()
        go fuel false ((← item) :: acc)

def readMembers (item : Reader Document) : Reader (List (String × Document)) := go t.size true []
where
  go : Nat → Bool → List (String × Document) → Reader (List (String × Document))
    | 0, _, acc => pure acc
    | fuel + 1, first, acc => do
      match ← skipBlank t with
      | none => failNext t .eofObject
      | some 125 => eat; pure acc
      | some b =>
        if first then
          if b ≠ 34 then failNext t .keyNotString
        else
          if b ≠ 44 then failNext t .expectedObjectEnd
          eat
          match ← skipBlank t with
          | none => failNext t .eofValue
          | some 34 => pure ()
          | some 125 => failNext t .trailingComma
          | some _ => failNext t .keyNotString
        eat
        let name ← string t
        match ← skipBlank t with
        | some 58 => eat
        | some _ => failNext t .expectedColon
        | none => failNext t .eofObject
        go fuel false (setField (name, ← item) acc)

def readScalar : Option UInt8 → Reader Document
  | none => failNext t .eofValue
  | some 110 => do eat; keyword t [117, 108, 108]; pure .null
  | some 116 => do eat; keyword t [114, 117, 101]; pure (.bool true)
  | some 102 => do eat; keyword t [97, 108, 115, 101]; pure (.bool false)
  | some 45 => do eat; return ofNumber (← number t false)
  | some 34 => do eat; return .str (← string t)
  | some c => do if isDigit c then return ofNumber (← number t true) else failNext t .expectedValue

def readValue : Nat → Reader Document
  | 0 => do
    match ← skipBlank t with
    | some 91 | some 123 => failNext t .recursionLimit
    | b => readScalar t b
  | d + 1 => do
    match ← skipBlank t with
    | some 91 => eat; return .arr (← readItems t (readValue d))
    | some 123 => eat; return .obj (← readMembers t (readValue d))
    | b => readScalar t b

def readWhole : Reader Document := do
  let d ← readValue t 127
  if (← skipBlank t).isSome then failNext t .trailingCharacters
  return d

end

def ofText (text : String) : Except String Document :=
  let t := text.toUTF8
  match readWhole t 0 with
  | .ok (d, _) => .ok d
  | .error e =>
    let (line, column) := place t (e.index.getD 0)
    .error s!"{e.problem.message} at line {line} column {column}"

end RenderCore.Document
