import RenderCore.Layout.Basic
namespace RenderCore

structure PipelineDesc where
  shader : String
  entry : String
  stage : Stage
  layout : PipelineLayout
  spec : List UInt32 := []
deriving Inhabited

def PipelineDesc.key (d : PipelineDesc) : Key :=
  Key.ofFields [.text d.shader, .text d.entry, .hex d.stage.bits.toUInt64,
    .nested d.layout.key, .nested (Key.ofFields (d.spec.map .count))]

structure Pipeline where
  key : Key
  handle : Handle
deriving Inhabited

def linkKey (layout : PipelineLayout) (libs : List Pipeline) : Key :=
  Key.ofFields (.nested layout.key :: libs.map (.nested ·.key))

def linkName (k : Key) : String :=
  "linked_" ++ Hex.lowerPadded 16 k.digest.toNat

structure RelinkJob where
  key : Key
  name : String
  fast : Handle
deriving Inhabited

-- The relink jobs not yet finished, in the order they were queued. While optimized links are held,
-- the first `started` jobs have begun on a worker and wait for the hold to end.
structure Relinks where
  workers : Nat
  jobs : List RelinkJob := []
  started : Nat := 0
deriving Inhabited

end RenderCore
