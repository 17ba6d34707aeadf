import RenderCore.Action
import RenderCore.Cache.Object
import RenderCore.Context.Basic
import RenderCore.Context.Frame
import RenderCore.Context.Layout
import RenderCore.Context.Pipeline
import RenderCore.Context.Pool
import RenderCore.Context.Renderer
import RenderCore.Context.Timeline
import RenderCore.Device.Basic
import RenderCore.Device.Event
import RenderCore.Device.Handle
import RenderCore.Document.Basic
import RenderCore.Document.Problem
import RenderCore.Document.Scan
import RenderCore.Document.Text
import RenderCore.Error
import RenderCore.Frame.Basic
import RenderCore.Gpu.Descriptor
import RenderCore.Gpu.Flags
import RenderCore.Gpu.Shader
import RenderCore.Hash.Xxh3
import RenderCore.Key.Basic
import RenderCore.Layout.Basic
import RenderCore.Layout.Merge
import RenderCore.Number.Reading
import RenderCore.Number.Shortest
import RenderCore.Pipeline.Basic
import RenderCore.Pool.Basic
import RenderCore.Script.Basic
import RenderCore.Script.Encode
import RenderCore.Script.Query
import RenderCore.Script.Run
import RenderCore.Script.Session
import RenderCore.Script.Step
import RenderCore.Script.Transcript
import RenderCore.Settings.Basic
import RenderCore.Settings.Text
import RenderCore.Settings.Value
import RenderCore.Text.GraphemeExtend
import RenderCore.Text.Hex
import RenderCore.Text.Printable
import RenderCore.Timeline.Basic
import RenderCore.Proofs.Action
import RenderCore.Proofs.Device
import RenderCore.Proofs.Pools.Banks
import RenderCore.Proofs.Pools.Actions
import RenderCore.Proofs.Pools.Invariant
import RenderCore.Proofs.Pools.Allocation
import RenderCore.Proofs.Pools.Release
import RenderCore.Proofs.Pools.Soundness
import RenderCore.Proofs.Pools.Growth
import RenderCore.Proofs.Pools.Refusal
import RenderCore.Proofs.Pipelines.Cache
import RenderCore.Proofs.Pipelines.Actions
import RenderCore.Proofs.Pipelines.Invariant
import RenderCore.Proofs.Pipelines.Batch
import RenderCore.Proofs.Pipelines.Interleaving
import RenderCore.Proofs.Pipelines.Eviction
import RenderCore.Proofs.Caches.Map
import RenderCore.Proofs.Frames.Ring
import RenderCore.Proofs.Frames.Reclaim
import RenderCore.Proofs.Frames.Cancel
import RenderCore.Proofs.Keys.Fields
import RenderCore.Proofs.Keys.Layouts
import RenderCore.Proofs.Keys.Pipelines
import RenderCore.Proofs.Keys.Scan
import RenderCore.Proofs.Timelines.Actions
import RenderCore.Proofs.Timelines.Order
import RenderCore.Proofs.Timelines.Signals
import RenderCore.Proofs.Frames.Live
import RenderCore.Proofs.Frames.Sizes
import RenderCore.Proofs.Layouts.Merging
import RenderCore.Proofs.Timelines.Holders
import RenderCore.Proofs.Frames.Holders
import RenderCore.Proofs.Frames.Parking
import RenderCore.Proofs.Timelines.Lifetime
import RenderCore.Proofs.Layouts.Checks
import RenderCore.Proofs.Pools.Checks
import RenderCore.Proofs.Keys.Nesting
import RenderCore.Proofs.Frames.Blind
import RenderCore.Proofs.Renderer.Kinds
import RenderCore.Proofs.Renderer.Session
import RenderCore.Proofs.Renderer.Teardown
