import RenderCore.Script.Basic
import RenderCore.Context.Basic
namespace RenderCore.Script

def handleDoc (h : Handle) : Document := .str h.text

def optionHandleDoc : Option Handle → Document
  | some h => handleDoc h
  | none => .null

def wordDoc (v : UInt64) : Document := .nat v.toNat

def pointDoc (p : SyncPoint) : Document :=
  .obj [("semaphore", handleDoc p.semaphore), ("value", wordDoc p.value),
    ("stage", wordDoc p.stage)]

def eventDoc : Event → Document
  | .create h => .obj [("ev", .str "create"), ("kind", .str h.kind.name), ("h", handleDoc h)]
  | .destroy h => .obj [("ev", .str "destroy"), ("kind", .str h.kind.name), ("h", handleDoc h)]
  | .link h mode => .obj [("ev", .str "link"), ("h", handleDoc h), ("mode", .str mode.name)]
  | .updateSet set binding first count =>
    .obj [("ev", .str "update_set"), ("set", handleDoc set), ("binding", .nat binding.toNat),
      ("first", .nat first.toNat), ("count", .nat count)]
  | .writeBuffer buffer offset len =>
    .obj [("ev", .str "write_buffer"), ("buffer", handleDoc buffer), ("offset", wordDoc offset),
      ("len", .nat len)]
  | .beginFrame f => .obj [("ev", .str "begin_frame"), ("frame", handleDoc f)]
  | .endFrame f => .obj [("ev", .str "end_frame"), ("frame", handleDoc f)]
  | .acquire f => .obj [("ev", .str "acquire"), ("frame", handleDoc f)]
  | .submit f commandBuffers waits signals present =>
    .obj [("ev", .str "submit"), ("frame", handleDoc f), ("command_buffers", .nat commandBuffers),
      ("waits", .arr (waits.map pointDoc)), ("signals", .arr (signals.map pointDoc)),
      ("present", .bool present)]
  | .wait (.semaphore h v) =>
    .obj [("ev", .str "wait"), ("semaphore", handleDoc h), ("value", wordDoc v)]
  | .wait (.frame f) => .obj [("ev", .str "wait"), ("frame", handleDoc f)]
  | .signal h v => .obj [("ev", .str "signal"), ("semaphore", handleDoc h), ("value", wordDoc v)]
  | .waitIdle => .obj [("ev", .str "wait_idle")]
  | .note id => .obj [("ev", .str "marker"), ("id", wordDoc id)]

def destroyRun (kind : HandleKind) : List Event → List Handle × List Event
  | .destroy h :: rest =>
    if h.kind = kind then
      let (run, tail) := destroyRun kind rest
      (h :: run, tail)
    else ([], .destroy h :: rest)
  | rest => ([], rest)

theorem destroyRun_length_le (kind : HandleKind) (es : List Event) :
    (destroyRun kind es).2.length ≤ es.length := by
  induction es with
  | nil => simp [destroyRun]
  | cons e rest ih =>
    cases e with
    | destroy h =>
      by_cases same : h.kind = kind
      · simp only [destroyRun, same, if_true]
        exact Nat.le_succ_of_le ih
      · simp [destroyRun, same]
    | _ => simp [destroyRun]

-- The log with every maximal run of destructions of one kind sorted by raw number.
def normalize : List Event → List Event
  | [] => []
  | .destroy h :: rest =>
    have := destroyRun_length_le h.kind rest
    let run := (destroyRun h.kind rest).1
    ((h :: run).mergeSort (fun a b => a.raw ≤ b.raw)).map .destroy ++
      normalize (destroyRun h.kind rest).2
  | e :: rest => e :: normalize rest
termination_by es => es.length

def eventsDoc (es : List Event) : Document :=
  .arr ((normalize es).map eventDoc)

def liveDoc (d : Device) : Document :=
  .obj [("kinds", .obj ((d.liveKinds).map fun (k, n) => (k.name, .nat n))),
    ("total", .nat d.live.length)]

def cacheDoc (o : ObjectCache) : Document :=
  .obj [("name", .str o.name),
    ("entries", .obj (o.sortedEntries.map fun (k, h) => (k.text, handleDoc h))),
    ("stats", .obj [("hits", .nat o.hits), ("misses", .nat o.misses), ("discarded", .nat o.discarded)])]

def bankDoc (b : Bank) : Document :=
  .obj [("name", .str b.name), ("pool", handleDoc b.handle), ("len", .nat b.len.toNat),
    ("cap", .nat b.cap.toNat), ("free_sets", .arr (b.free.map handleDoc))]

def snapshotDoc (c : Context) : Document :=
  .obj [("layouts", .obj [("descriptor_set_layouts", cacheDoc c.setLayouts),
      ("pipeline_layouts", cacheDoc c.pipelineLayouts)]),
    ("descriptor_sets", .obj [("pools",
      .obj (c.pools.pools.map fun (k, banks) => (k.text, .arr (banks.map bankDoc))))]),
    ("pipelines", cacheDoc c.pipelines)]

def stateDoc (c : Context) : Document :=
  .obj [("index", .nat c.ring.index), ("absolute", .nat c.ring.absolute),
    ("frames_in_flight", .nat c.ring.len), ("sleeping", .bool c.ring.sleeping),
    ("extent", .arr [.nat c.extent.1.toNat, .nat c.extent.2.toNat]),
    ("mailbox", .nat c.ring.mailbox.length), ("pipelines", .nat c.pipelines.size),
    ("pending_relinks", .nat c.relinks.jobs.length)]

def bindingDoc (index : Nat) : Option LayoutBinding → Document
  | none => .null
  | some b => .obj [("binding", .nat index), ("type", .str b.type.name),
    ("count", .nat b.count.toNat), ("stages", .nat b.stages.bits.toNat)]

def setLayoutDoc (l : SetLayout) : Document :=
  .obj [("key", .str l.key.text), ("name", .str l.name), ("handle", handleDoc l.handle),
    ("bindings", .arr (l.slots.zipIdx.map fun (b, i) => bindingDoc i b))]

def pipelineLayoutDoc (id : Nat) (l : PipelineLayout) : Document :=
  .obj [("id", .nat id), ("key", .str l.key.text), ("name", .str l.name),
    ("handle", handleDoc l.handle),
    ("push", match l.push with
      | none => .null
      | some p => .obj [("stages", .nat p.stages.bits.toNat), ("stages_name", .str p.stages.display),
          ("offset", .nat p.offset.toNat), ("size", .nat p.size.toNat)]),
    ("sets", .arr (l.sets.map setLayoutDoc))]

def frameDoc (c : Context) (f : Frame) : Document :=
  .obj [("index", .nat f.index), ("name", .str f.name), ("absolute", .nat c.ring.absolute),
    ("handle", handleDoc (c.ring.slots[f.index]?.getD default).handle),
    ("cancelable", .bool f.cancelable)]

end RenderCore.Script
