import RenderCore.Error
namespace RenderCore

inductive DescriptorCount where
  | fixed (value : UInt32)
  | specConstant (index : UInt32)
deriving DecidableEq, Inhabited

def DescriptorCount.resolve (c : DescriptorCount) (specConstants : List UInt32) :
    Except Invalid UInt32 :=
  match c with
  | .fixed value => .ok value
  | .specConstant index =>
    match specConstants[index.toNat]? with
    | some value => .ok value
    | none => .error (.specConstantMissing index specConstants.length)

structure ShaderBinding where
  type : DescriptorType
  count : DescriptorCount
deriving DecidableEq, Inhabited

structure PushRange where
  offset : UInt32
  size : UInt32
deriving DecidableEq, Inhabited

def PushRange.check (r : PushRange) : Except Invalid Unit :=
  if r.size > 0 ∧ (r.offset % 4 ≠ 0 ∨ r.size % 4 ≠ 0) then .error (.pushUnaligned r.offset r.size)
  else .ok ()

structure ShaderLayout where
  push : PushRange := ⟨0, 0⟩
  sets : List (List ShaderBinding) := []
deriving Inhabited

-- A layout is well formed when its push range is: binding slots are checked only once layouts are
-- merged.
def ShaderLayout.check (l : ShaderLayout) : Except Invalid Unit :=
  l.push.check

structure StageInterface where
  layout : ShaderLayout
  stage : Stage
  specConstants : List UInt32 := []
deriving Inhabited

end RenderCore
