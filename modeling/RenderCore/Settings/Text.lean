import RenderCore.Document.Scan
import RenderCore.Settings.Basic
namespace RenderCore.SettingsReading

open Document Document.Scan

section
variable (t : ByteArray)

def wrongType {α : Type} (expected : String) : Reader α := do
  let found : Found ← do
    match (← peek t).getD 0 with
    | 110 => eat; keyword t [117, 108, 108]; pure .null
    | 116 => eat; keyword t [114, 117, 101]; pure (.boolean true)
    | 102 => eat; keyword t [97, 108, 115, 101]; pure (.boolean false)
    | 45 => eat; pure (← number t false).found
    | 34 => eat; pure (.text (← string t))
    | 91 => pure .sequence
    | 123 => pure .map
    | c => if isDigit c then pure (← number t true).found else failNext t .expectedValue
  failHere (.invalidType found expected)

def count (expected : String) (limit : Nat) : Reader Nat := do
  let n ← match ← skipBlank t with
    | none => failNext t .eofValue
    | some 45 => eat; number t false
    | some b => if isDigit b then number t true else wrongType t expected
  match n with
  | .unsigned v => if v ≤ limit then pure v else failHere (.invalidValue (.unsigned v) expected)
  | .signed v => failHere (.invalidValue (.signed v) expected)
  | .float f => failHere (.invalidType (.float f) expected)

def boolean : Reader Bool := do
  match ← skipBlank t with
  | none => failNext t .eofValue
  | some 116 => eat; keyword t [114, 117, 101]; pure true
  | some 102 => eat; keyword t [97, 108, 115, 101]; pure false
  | some _ => wrongType t "a boolean"

end

inductive Slot where
  | framesInFlight
  | bankSize
  | relinkWorkers
  | dumpCaches
deriving DecidableEq

def Slot.name : Slot → String
  | .framesInFlight => "max_frames_in_flight"
  | .bankSize => "descriptor_pool_bank_size"
  | .relinkWorkers => "relink_workers"
  | .dumpCaches => "dump_caches_on_shutdown"

def Slot.all : List Slot := [.framesInFlight, .bankSize, .relinkWorkers, .dumpCaches]

def Slot.ofName? (s : String) : Option Slot := Slot.all.find? (·.name == s)

def readSlot (t : ByteArray) (s : Settings) : Slot → Reader Settings
  | .framesInFlight => return { s with framesInFlight := (← count t "u32" (UInt32.size - 1)).toUInt32 }
  | .bankSize => return { s with bankSize := (← count t "u32" (UInt32.size - 1)).toUInt32 }
  | .relinkWorkers => return { s with relinkWorkers := (← count t "usize" maxWord).toUInt64 }
  | .dumpCaches => return { s with dumpCaches := ← boolean t }

def members (t : ByteArray) : Reader Settings := go t.size true {} []
where
  go : Nat → Bool → Settings → List Slot → Reader Settings
    | 0, _, s, _ => pure s
    | fuel + 1, first, s, seen => do
      let b ← skipBlank t
      let start ← match b with
        | some 125 => return s
        | some 44 =>
          if first then pure (some 44) else eat; skipBlank t
        | some c => if first then pure (some c) else failNext t .expectedObjectEnd
        | none => failNext t .eofObject
      match start with
      | some 34 => eat
      | some 125 => failNext t .trailingComma
      | some _ => failNext t .keyNotString
      | none => failNext t .eofValue
      let key ← string t
      let slot := Slot.ofName? key
      if let some sl := slot then
        if seen.contains sl then throw ⟨.duplicateField sl.name, none, ← get⟩
      match ← skipBlank t with
      | some 58 => eat
      | some _ => failNext t .expectedColon
      | none => failNext t .eofObject
      match slot with
      | some sl => go fuel false (← readSlot t s sl) (sl :: seen)
      | none => skipValue t; go fuel false s seen

def items (t : ByteArray) : Reader Settings := do
  let (s, _, _) ← Slot.all.foldlM (fun (acc : Settings × Bool × Bool) sl => do
    let (s, first, done) := acc
    if done then return acc
    let b ← skipBlank t
    let start ← match b with
      | some 93 => pure none
      | some 44 =>
        if first then pure (some 44) else
          eat
          match ← skipBlank t with
          | none => failNext t .eofValue
          | b => pure b
      | some c => if first then pure (some c) else failNext t .expectedListEnd
      | none => failNext t .eofList
    match start with
    | none => return (s, false, true)
    | some 93 => failNext t .trailingComma
    | some _ => return (← readSlot t s sl, false, false)) (({} : Settings), true, false)
  return s

def closeObject (t : ByteArray) : Reader Unit := do
  match ← skipBlank t with
  | some 125 => eat
  | some 44 => failNext t .trailingComma
  | some _ => failNext t .trailingCharacters
  | none => failNext t .eofObject

def closeArray (t : ByteArray) : Reader Unit := do
  match ← skipBlank t with
  | some 93 => eat
  | some 44 =>
    eat
    match ← skipBlank t with
    | some 93 => failNext t .trailingComma
    | _ => failNext t .trailingCharacters
  | some _ => failNext t .trailingCharacters
  | none => failNext t .eofList

-- Runs `body` then `close`; the first failure wins, and a failure without a place is placed where
-- reading stands after `close` was tried.
def enclosed (body : Reader Settings) (close : Reader Unit) : Reader Settings := fun i =>
  match body i with
  | .ok (s, j) =>
    match close j with
    | .ok ((), k) => .ok (s, k)
    | .error e => .error e
  | .error e =>
    let after := match close e.stop with
      | .ok ((), k) => k
      | .error e2 => e2.stop
    .error { e with index := e.index <|> some after }

def document (t : ByteArray) : Reader Settings := do
  let s ← match ← skipBlank t with
    | none => failNext t .eofValue
    | some 91 => eat; enclosed (items t) (closeArray t)
    | some 123 => eat; enclosed (members t) (closeObject t)
    | some _ => wrongType t "struct RuntimeSettings"
  if (← skipBlank t).isSome then failNext t .trailingCharacters
  return s

end RenderCore.SettingsReading

namespace RenderCore.Settings

def ofText (text : String) : Except Error Settings :=
  let t := text.toUTF8
  match SettingsReading.document t 0 with
  | .ok (s, _) => do s.validate; pure s
  | .error e =>
    let (line, column) := Document.Scan.place t (e.index.getD 0)
    .error (.settingsParse s!"{e.problem.message} at line {line} column {column}")

end RenderCore.Settings
