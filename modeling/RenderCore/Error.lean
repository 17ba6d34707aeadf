import RenderCore.Gpu.Flags
import RenderCore.Gpu.Descriptor
namespace RenderCore

inductive DeviceFailure where
  | outOfHostMemory
  | outOfDeviceMemory
  | deviceLost
  | unsupported (what : String)
  | other (text : String)
deriving DecidableEq, Inhabited

def DeviceFailure.message : DeviceFailure → String
  | .outOfHostMemory => "out of host memory"
  | .outOfDeviceMemory => "out of device memory"
  | .deviceLost => "device lost"
  | .unsupported what => "unsupported: " ++ what
  | .other text => text

inductive Misuse where
  | promiseReached (timeline : String) (value observed : UInt64)
  | beginWhileRecording
  | resizeWhileRecording
  | waitWhileRecording
  | cancelAfterResources (frame : String)
  | endWithoutSurfaceOrWaiter (frame : String)
  | droppedUnended (frame : String)
deriving DecidableEq, Inhabited

def Misuse.message : Misuse → String
  | .promiseReached timeline value observed =>
    s!"'{timeline}': no pending CPU signal promise for {value} (observed {observed})"
  | .beginWhileRecording => "begin_frame called while a frame is recording"
  | .resizeWhileRecording => "resizing the frame ring while a frame is recording"
  | .waitWhileRecording => "waiting the frame ring while a frame is recording"
  | .cancelAfterResources frame =>
    s!"cannot cancel {frame} after acquiring its surface or creating frame resources"
  | .endWithoutSurfaceOrWaiter frame =>
    s!"cannot end {frame} without an acquired surface and without a waiter"
  | .droppedUnended frame =>
    s!"{frame} dropped after acquiring GPU resources without being ended"

inductive Invalid where
  | specConstantMissing (index : UInt32) (given : Nat)
  | pushUnaligned (offset size : UInt32)
  | stageInvalid (index : Nat) (stage : Stage) (cause : Invalid)
  | bindingUnresolved (set binding : Nat) (cause : Invalid)
  | pushInconsistent (stages : Stage) (offset size : UInt32) (stage : Stage)
      (offset2 size2 : UInt32)
  | bindingInconsistent (set binding : Nat) (type : DescriptorType) (count : UInt32)
      (stages : Stage) (type2 : DescriptorType) (count2 : UInt32) (stage : Stage)
  | poolOverflow (count : UInt32) (type : DescriptorType) (layout : String) (bank : UInt32)
  | pushOutOfRange (offset size : UInt32) (layout : String) (rangeOffset rangeSize : UInt32)
  | bindPastEnd (first : UInt32) (stop : Nat) (layout : String) (sets : Nat)
  | bindMismatch (index : Nat) (given layout expected : String)
  | writeBindingPastEnd (binding : UInt32) (layout : String) (bindings : Nat)
  | writeBindingEmpty (binding : UInt32) (layout : String)
  | writeNothing
  | writeOverflow (written : Nat) (first binding count : UInt32)
  | writeMismatch (resource : Resource) (type : DescriptorType)
  | ringEmpty
  | scratchOverflow (written : Nat) (offset : UInt64) (buffer : String) (size : UInt64)
deriving Inhabited

def Invalid.message : Invalid → String
  | .specConstantMissing index given =>
    s!"descriptor count refers to spec constant {index} but only {given} were given"
  | .pushUnaligned offset size =>
    s!"push constant range [offset {offset}, size {size}] is not 4-byte aligned"
  | .stageInvalid index stage cause =>
    s!"shader layout [{index}] ({stage.display}) is invalid: Validation error: " ++
      cause.message
  | .bindingUnresolved set binding cause =>
    s!"set[{set}] binding[{binding}]: Validation error: " ++ cause.message
  | .pushInconsistent stages offset size stage offset2 size2 =>
    "push constants must be empty or consistent between all stages: " ++
      s!"[{stages.display}, {offset}, {size}] and [{stage.display}, {offset2}, {size2}]"
  | .bindingInconsistent set binding type count stages type2 count2 stage =>
    s!"set[{set}] binding[{binding}] has inconsistent metadata: " ++
      s!"{type.name}[{count}] in {stages.display} and {type2.name}[{count2}] in {stage.display}"
  | .poolOverflow count type layout bank =>
    s!"descriptor count {count} of {type.name} binding in layout {layout} " ++
      s!"overflows a pool bank of {bank} sets"
  | .pushOutOfRange offset size layout rangeOffset rangeSize =>
    s!"push constants [offset {offset}, size {size}] exceed layout {layout} " ++
      s!"range [offset {rangeOffset}, size {rangeSize}]"
  | .bindPastEnd first stop layout sets =>
    s!"binding sets [{first}, {stop}) but layout {layout} only has {sets} sets"
  | .bindMismatch index given layout expected =>
    s!"set {index} has layout {given} but pipeline layout {layout} expects {expected}"
  | .writeBindingPastEnd binding layout bindings =>
    s!"writing binding {binding} while layout {layout} has {bindings} bindings"
  | .writeBindingEmpty binding layout => s!"binding {binding} of layout {layout} is empty"
  | .writeNothing => "writing zero descriptors"
  | .writeOverflow written first binding count =>
    s!"writing {written} descriptors at element {first} while binding {binding} holds {count}"
  | .writeMismatch resource type =>
    resource.debugText ++ s!" cannot be written to a {type.name} binding"
  | .ringEmpty => "a frame ring needs at least one frame"
  | .scratchOverflow written offset buffer size =>
    s!"writing {written} bytes at offset {offset} overflows {buffer} ({size} bytes)"

inductive Error where
  | misuse (m : Misuse)
  | invalid (v : Invalid)
  | device (context : String) (cause : DeviceFailure)
  | settingsRange (field : String)
  | settingsParse (text : String)
deriving Inhabited

def Error.message : Error → String
  | .misuse m => "Programmer error: " ++ m.message
  | .invalid v => "Validation error: " ++ v.message
  | .device context cause => s!"Backend error while {context}: " ++ cause.message
  | .settingsRange field => s!"Invalid settings: {field} must be >= 1"
  | .settingsParse text => "Settings parse error: " ++ text

end RenderCore
