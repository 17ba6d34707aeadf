import RenderCore.Document.Basic
import RenderCore.Error
import RenderCore.Gpu.Shader
namespace RenderCore.Script

abbrev Decode := Except String

def field (d : Document) (name : String) : Option Document :=
  d.field? name

def required (d : Document) (name : String) : Decode Document :=
  match field d name with
  | some v => .ok v
  | none => .error s!"missing field '{name}'"

def natOf (name : String) : Document → Decode Nat
  | .nat n => .ok n
  | _ => .error s!"field '{name}' must be an unsigned integer"

def word32Of (name : String) : Document → Decode UInt32
  | .nat n => if n < UInt32.size then .ok n.toUInt32 else .error (refused name)
  | _ => .error (refused name)
where
  refused (name : String) : String := s!"field '{name}' must be an unsigned 32-bit integer"

def toWord32 (n : Nat) : Decode UInt32 :=
  if n < UInt32.size then .ok n.toUInt32 else .error "u32 field must be an unsigned 32-bit integer"

def natField (d : Document) (name : String) : Decode Nat := do
  natOf name (← required d name)

def word64Field (d : Document) (name : String) : Decode UInt64 :=
  return (← natField d name).toUInt64

def word32Field (d : Document) (name : String) : Decode UInt32 := do
  word32Of name (← required d name)

def word32FieldOr (d : Document) (name : String) (default : UInt32) : Decode UInt32 :=
  match field d name with
  | none => .ok default
  | some v => word32Of name v

def stringField (d : Document) (name : String) : Decode String := do
  match ← required d name with
  | .str s => .ok s
  | _ => .error s!"field '{name}' must be a string"

def boolField (d : Document) (name : String) : Decode Bool := do
  match ← required d name with
  | .bool b => .ok b
  | _ => .error s!"field '{name}' must be a boolean"

def arrayField (d : Document) (name : String) : Decode (List Document) := do
  match ← required d name with
  | .arr items => .ok items
  | _ => .error s!"field '{name}' must be an array"

def arrayFieldOr (d : Document) (name : String) : Decode (List Document) :=
  match field d name with
  | none => .ok []
  | some _ => arrayField d name

def words32 (name : String) (items : List Document) : Decode (List UInt32) :=
  items.mapM fun v => do toWord32 (← natOf name v)

def Error.kind : Error → String
  | .misuse _ => "Programmer"
  | .invalid _ => "Validation"
  | .device .. => "Backend"
  | .settingsRange _ => "InvalidSettings"
  | .settingsParse _ => "SettingsParse"

def ok (v : Document) : Document := .obj [("ok", v)]

def failed (e : Error) : Document :=
  .obj [("error", .str (Error.kind e)), ("message", .str e.message)]

def scriptError (text : String) : Document :=
  .obj [("error", .str "DriverError"), ("message", .str text)]

def descriptorType (d : Document) : Decode DescriptorType :=
  match d with
  | .str s =>
    match DescriptorType.ofName? s with
    | some t => .ok t
    | none => .error s!"unknown descriptor type '{s}'"
  | _ => .error "descriptor type must be a string"

-- The first field that reads as a resource wins; a field of another shape is passed over, but a
-- `buffer` array too short or not of handles is refused.
def resource (d : Document) : Decode Resource :=
  match field d "buffer", field d "image", field d "sampler", field d "combined" with
  | some (.arr (.nat raw :: .nat offset :: .nat range :: _)), _, _, _ =>
    .ok (.buffer raw.toUInt64 offset.toUInt64 range.toUInt64)
  | some (.arr _), _, _, _ => .error "buffer resource needs [raw, offset, range]"
  | _, some (.nat raw), _, _ => .ok (.image raw.toUInt64)
  | _, _, some (.nat raw), _ => .ok (.sampler raw.toUInt64)
  | _, _, _, some (.arr (.nat img :: .nat smp :: _)) => .ok (.combined img.toUInt64 smp.toUInt64)
  | _, _, _, _ => .error "bad descriptor resource"

def shaderBinding (d : Document) : Decode ShaderBinding := do
  let type ← descriptorType (← required d "type")
  match field d "spec_index" with
  | some _ => return ⟨type, .specConstant (← word32Field d "spec_index")⟩
  | none => return ⟨type, .fixed (← word32Field d "count")⟩

def natPair (name : String) : Document → Decode (Nat × Nat)
  | .arr [a, b] => return (← natOf name a, ← natOf name b)
  | _ => .error s!"field '{name}' must be a pair of unsigned integers"

def shaderLayout (d : Document) : Decode ShaderLayout := do
  let push ← match field d "push" with
    | none => pure (0, 0)
    | some v => natPair "push" v
  let push : PushRange := ⟨← toWord32 push.1, ← toWord32 push.2⟩
  let sets ← (← arrayFieldOr d "sets").mapM fun
    | .arr bindings => bindings.mapM shaderBinding
    | _ => .error "field 'sets' must hold arrays"
  return { push, sets }

def stageInterface (d : Document) : Decode StageInterface := do
  let stage : Stage := ⟨← word32Field d "stage"⟩
  let layout ← shaderLayout d
  let spec ← words32 "spec" (← arrayFieldOr d "spec")
  return { layout, stage, specConstants := spec }

end RenderCore.Script
