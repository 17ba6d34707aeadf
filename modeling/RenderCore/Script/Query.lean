import RenderCore.Script.Basic
import RenderCore.Key.Basic
import RenderCore.Gpu.Shader
import RenderCore.Settings.Value
namespace RenderCore.Script

-- A key field: `{"u32": n}`, `{"hex": n}`, `{"str": s}` or `{"nested": s}`, tried in that order
-- when an object has several of these names.
def keyField (d : Document) : Decode Key.Field :=
  match field d "u32", field d "hex", field d "str", field d "nested" with
  | some (.nat n), _, _, _ =>
    if n < UInt32.size then .ok (.count n.toUInt32) else .error word32Refused
  | some _, _, _, _ => .error word32Refused
  | none, some v, _, _ => return .hex (← natOf "hex" v).toUInt64
  | none, none, some (.str s), _ => .ok (.text s)
  | none, none, some _, _ => .error "field 'str' must be a string"
  | none, none, none, some (.str s) => .ok (.nested ⟨s⟩)
  | none, none, none, some _ => .error "field 'nested' must be a string"
  | none, none, none, none => .error "bad key field"
where
  word32Refused : String := "u32 field must be an unsigned 32-bit integer"

def strings (items : List Document) : List String :=
  items.filterMap fun
    | .str s => some s
    | _ => none

def settingsDocument (s : Settings) : Document :=
  .obj [("max_frames_in_flight", .nat s.framesInFlight.toNat),
    ("descriptor_pool_bank_size", .nat s.bankSize.toNat),
    ("relink_workers", .nat s.relinkWorkers.toNat),
    ("dump_caches_on_shutdown", .bool s.dumpCaches)]

def orderingNumber : Ordering → Document
  | .lt => .neg (-1)
  | .eq => .nat 0
  | .gt => .nat 1

def query (op : String) (d : Document) : Option (Decode Document) :=
  match op with
  | "key_has_field" => some do
    let k : Key := ⟨← stringField d "text"⟩
    return ok (.obj [("result", .bool (k.hasField (← stringField d "field")))])
  | "key_build" => some do
    let fields ← (← arrayField d "fields").mapM keyField
    let k := Key.ofFields fields
    return ok (.obj [("text", .str k.text), ("len", .nat fields.length),
      ("is_empty", .bool fields.isEmpty)])
  | "key_concat" => some do
    let k := Key.concat (strings (← arrayField d "parts"))
    return ok (.obj [("text", .str k.text)])
  | "key_compare" => some do
    let a : Key := ⟨← stringField d "a"⟩
    let b : Key := ⟨← stringField d "b"⟩
    return ok (.obj [("eq", .bool (a == b)), ("cmp", orderingNumber (a.compareText b))])
  | "key_hash" => some do
    let k : Key := ⟨← stringField d "text"⟩
    return ok (.obj [("hash", .str ("0x" ++ (Hex.lowerPadded 16 k.digest.toNat).toUpper))])
  | "settings_from_json" => some do
    match Settings.ofText (← stringField d "json") with
    | .ok s => return ok (settingsDocument s)
    | .error e => return failed e
  | "stage_display" => some do
    let s : Stage := ⟨← word32Field d "bits"⟩
    return ok (.obj [("text", .str s.display)])
  | "descriptor_count_resolve" => some do
    let value ← word32Field d "value"
    let count := if ← boolField d "spec" then DescriptorCount.specConstant value
      else .fixed value
    match count.resolve (← words32 "spec_constants" (← arrayFieldOr d "spec_constants")) with
    | .ok n => return ok (.obj [("count", .nat n.toNat)])
    | .error v => return failed (.invalid v)
  | "shader_layout_validate" => some do
    match (← shaderLayout d).check with
    | .ok () => return ok .null
    | .error v => return failed (.invalid v)
  | "resource_matches" => some do
    let r ← resource (← required d "resource")
    let t ← descriptorType (← required d "type")
    return ok (.obj [("result", .bool (r.fits t))])
  | _ => none

end RenderCore.Script
