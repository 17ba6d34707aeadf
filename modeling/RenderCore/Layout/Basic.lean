import RenderCore.Gpu.Shader
import RenderCore.Key.Basic
import RenderCore.Device.Handle
namespace RenderCore

structure LayoutBinding where
  stages : Stage
  type : DescriptorType
  count : UInt32
deriving DecidableEq, Inhabited

structure PushBlock where
  stages : Stage
  offset : UInt32
  size : UInt32
deriving DecidableEq, Inhabited

def slotsKey (slots : List (Option LayoutBinding)) : Key :=
  if slots.isEmpty then ⟨"[null]"⟩
  else Key.ofFields (slots.map fun
    | none => .text "null"
    | some b => .text s!"{Hex.word b.stages.bits.toNat}:{Hex.word b.type.raw.toNat}:{b.count}")

def slotsName (slots : List (Option LayoutBinding)) : String :=
  if slots.isEmpty then "[null]"
  else (Key.ofFields (slots.map fun
    | none => .text "null"
    | some b => .text s!"{b.stages.display}:{b.type.name}:{b.count}")).text

def pushKey : Option PushBlock → String
  | some p => (Key.ofFields [.hex p.stages.bits.toUInt64, .count p.offset, .count p.size]).text
  | none => "[0x0,0,0]"

def pushName : Option PushBlock → String
  | some p => s!"[{p.stages.display},{p.offset},{p.size}]"
  | none => "[None,0,0]"

structure SetLayout where
  key : Key
  name : String
  handle : Handle
  slots : List (Option LayoutBinding)
deriving Inhabited

namespace SetLayout

def binding? (l : SetLayout) (index : Nat) : Option LayoutBinding :=
  (l.slots[index]?).join

def poolSizes (l : SetLayout) (bank : UInt32) : Except Invalid (List PoolSize) :=
  (l.slots.filterMap id).mapM fun b =>
    if b.count.toNat * bank.toNat < UInt32.size then .ok ⟨b.type, b.count * bank⟩
    else .error (.poolOverflow b.count b.type l.name bank)

end SetLayout

structure PipelineLayout where
  key : Key
  name : String
  handle : Handle
  push : Option PushBlock
  sets : List SetLayout
deriving Inhabited

namespace PipelineLayout

def validatePush (l : PipelineLayout) (offset size : UInt32) : Except Invalid Unit :=
  let (start, length) := match l.push with
    | some p => (p.offset, p.size)
    | none => (0, 0)
  if offset < start ∨ start.toNat + length.toNat < offset.toNat + size.toNat then
    .error (.pushOutOfRange offset size l.name start length)
  else .ok ()

def validateBind (l : PipelineLayout) (first : UInt32) (sets : List SetLayout) :
    Except Invalid Unit := do
  let stop := first.toNat + sets.length
  if l.sets.length < stop then throw (.bindPastEnd first stop l.name l.sets.length)
  for (s, i) in sets.zipIdx do
    let expected := l.sets[first.toNat + i]?.getD default
    if expected.key != s.key then
      throw (.bindMismatch (first.toNat + i) s.name l.name expected.name)

end PipelineLayout

end RenderCore
