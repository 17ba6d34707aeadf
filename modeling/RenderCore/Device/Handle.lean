import RenderCore.Text.Hex
namespace RenderCore

inductive HandleKind where
  | setLayout
  | pipelineLayout
  | pool
  | set
  | pipeline
  | semaphore
  | frame
  | scratch
  | commandBuffer
  | surfaceImage
deriving DecidableEq, Inhabited, Repr

namespace HandleKind

def all : List HandleKind :=
  [.setLayout, .pipelineLayout, .pool, .set, .pipeline, .semaphore, .frame, .scratch,
    .commandBuffer, .surfaceImage]

def name : HandleKind → String
  | .setLayout => "DescriptorSetLayout"
  | .pipelineLayout => "PipelineLayout"
  | .pool => "DescriptorPool"
  | .set => "DescriptorSet"
  | .pipeline => "Pipeline"
  | .semaphore => "Semaphore"
  | .frame => "Frame"
  | .scratch => "ScratchBuffer"
  | .commandBuffer => "CommandBuffer"
  | .surfaceImage => "SurfaceImage"

def ofName? (s : String) : Option HandleKind :=
  all.find? (·.name == s)

end HandleKind

structure Handle where
  kind : HandleKind
  raw : UInt64
deriving DecidableEq, Inhabited

namespace Handle

def text (h : Handle) : String := Hex.word h.raw.toNat

def describe (h : Handle) : String := h.kind.name ++ "(" ++ h.text ++ ")"

end Handle

end RenderCore
