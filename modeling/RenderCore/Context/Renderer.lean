import RenderCore.Context.Frame
import RenderCore.Context.Pipeline
import RenderCore.Context.Pool
namespace RenderCore.Context

def resize (width height : UInt32) : Act Context Unit := do
  modify fun c => { c with extent := (width, height) }
  if width = 0 ∨ height = 0 then
    modifyRing fun r => { r with sleeping := true }
  else
    discard <| Act.orFail (← waitAll)
    modifyRing fun r => { r with sleeping := false }

def setFramesInFlight (n : UInt32) : Act Context (Except Error Unit) := do
  resizeRing (min n (← get).settings.framesInFlight).toNat

def dropRing : Act Context Unit := do
  if !(← get).ring.slots.isEmpty then discard destroyRing

-- The ordered teardown; it runs only once. When it stops at a fault, the renderer's parts are
-- dropped while unwinding, and of those only the ring's drop does anything.
def teardown : Act Context Unit := do
  if (← get).shutDown then return
  modify fun c => { c with shutDown := true }
  Act.onFault (do
    device! Device.waitIdle
    flushRelinks
    discard <| Act.orFail (← waitAll)
    discard destroyPipelines
    discard <| destroyCache .pipelineLayouts
    discard <| destroyCache .setLayouts
    discard destroyPools
    discard destroyRing) dropRing

end RenderCore.Context
