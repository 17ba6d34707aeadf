import RenderCore.Settings.Text
import RenderCore.Document.Basic
namespace RenderCore.SettingsReading

open Document Document.Scan

def found : Document → Found
  | .null => .null
  | .bool b => .boolean b
  | .nat n => .unsigned n
  | .neg i => .signed i
  | .float f => .float f
  | .str s => .text s
  | .arr _ => .sequence
  | .obj _ => .map

def countOf (expected : String) (limit : Nat) : Document → Except Problem Nat
  | .nat n => if n ≤ limit then .ok n else .error (.invalidValue (.unsigned n) expected)
  | .neg i => .error (.invalidValue (.signed i) expected)
  | d => .error (.invalidType (found d) expected)

def booleanOf : Document → Except Problem Bool
  | .bool b => .ok b
  | d => .error (.invalidType (found d) "a boolean")

def slotOf (s : Settings) (d : Document) : Slot → Except Problem Settings
  | .framesInFlight => return { s with framesInFlight := (← countOf "u32" (UInt32.size - 1) d).toUInt32 }
  | .bankSize => return { s with bankSize := (← countOf "u32" (UInt32.size - 1) d).toUInt32 }
  | .relinkWorkers => return { s with relinkWorkers := (← countOf "usize" maxWord d).toUInt64 }
  | .dumpCaches => return { s with dumpCaches := ← booleanOf d }

def insertByName (f : String × Document) : List (String × Document) → List (String × Document)
  | [] => [f]
  | g :: rest =>
    if f.1 = g.1 then f :: rest
    else if f.1 < g.1 then f :: g :: rest
    else g :: insertByName f rest

def settingsOf : Document → Except Problem Settings
  | .obj fields =>
    let ordered := fields.foldl (fun acc f => insertByName f acc) []
    ordered.foldlM (fun s (name, d) =>
      match Slot.ofName? name with
      | some sl => slotOf s d sl
      | none => .ok s) {}
  | .arr items => do
    let s ← (Slot.all.zip items).foldlM (fun s (sl, d) => slotOf s d sl) {}
    if items.length > 4 then .error (.invalidLength items.length "fewer elements in array")
    else pure s
  | d => .error (.invalidType (found d) "struct RuntimeSettings")

end RenderCore.SettingsReading

namespace RenderCore.Settings

def ofDocument (d : Document) : Except Error Settings :=
  match SettingsReading.settingsOf d with
  | .ok s => do s.validate; pure s
  | .error p => .error (.settingsParse p.message)

end RenderCore.Settings
