import RenderCore.Context.Basic
namespace RenderCore.Context

def modifyRelinks (f : Relinks → Relinks) : Act Context Unit :=
  modify fun c => { c with relinks := f c.relinks }

def post (d : Destroyer) : Act Context Unit :=
  modify fun c => { c with ring.mailbox := c.ring.mailbox ++ [d] }

def createPipeline (desc : PipelineDesc) : Act Context Pipeline := do
  let key := desc.key
  let handle ← cached .pipelines key s!"creating pipeline {desc.shader}:{desc.entry}"
    (device! (Device.create .pipeline))
  return { key, handle }

-- Under the cache lock: the optimized link replaces the fast link only if the entry still holds it,
-- and otherwise is destroyed.
def swapIn (job : RelinkJob) (optimized : Handle) : Act Context Unit := do
  let (swapped, o) := (← get).pipelines.replaceIf job.key job.fast optimized
  modify fun c => { c with pipelines := o }
  if swapped then post (.destroy job.fast)
  else device! (Device.destroy optimized)

def finishJob (job : RelinkJob) : Act Context Unit := do
  let (optimized, _) ← device! (Device.link .optimized)
  swapIn job optimized

def startJobs : Act Context Unit := do
  let fuel := (← get).relinks.jobs.length
  for _ in List.range fuel do
    let r := (← get).relinks
    if r.started < r.workers ∧ r.started < r.jobs.length then
      if ← device! Device.takeLinkPanic then
        modifyRelinks fun r => { r with jobs := r.jobs.eraseIdx r.started }
      else
        modifyRelinks fun r => { r with started := r.started + 1 }

def flushRelinks : Act Context Unit := do
  let r := (← get).relinks
  modifyRelinks fun r => { r with jobs := [], started := 0 }
  if (← get).device.holdOptimized then
    if r.started < r.jobs.length then
      discard <| device! Device.takeLinkPanic
  else
    for (job, i) in r.jobs.zipIdx do
      if i < r.started then finishJob job
      else unless ← device! Device.takeLinkPanic do finishJob job

def link (layout : PipelineLayout) (libs : List Pipeline) : Act Context Pipeline := do
  let key := linkKey layout libs
  let name := linkName key
  match (← get).pipelines.find? key with
  | some h =>
    modifyCache .pipelines fun o => { o with hits := o.hits + 1 }
    return { key, handle := h }
  | none =>
    modifyCache .pipelines fun o => { o with misses := o.misses + 1 }
    let (h, optimized) ← device! (Device.link .fast)
    modifyCache .pipelines (·.insert key h)
    unless optimized do
      modifyRelinks fun r => { r with jobs := r.jobs ++ [{ key, name, fast := h }] }
      if (← get).device.holdOptimized then startJobs
    return { key, handle := h }

def current (p : Pipeline) : Act Context (Option Handle) := do
  return (← get).pipelines.find? p.key

def evict (fragment : String) : Act Context Nat := do
  let (removed, o) := (← get).pipelines.removeMatching (·.hasField fragment)
  modify fun c => { c with pipelines := o }
  for (_, h) in removed do post (.destroy h)
  return removed.length

def destroyPipelines : Act Context Nat := do
  flushRelinks
  destroyCache .pipelines

end RenderCore.Context
