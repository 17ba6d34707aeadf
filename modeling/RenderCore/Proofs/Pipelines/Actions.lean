import RenderCore.Proofs.Device
import RenderCore.Proofs.Pipelines.Cache
import RenderCore.Context.Frame
import RenderCore.Context.Pipeline
namespace RenderCore.Context

variable (c : Context)

theorem run_createPipeline_hit (desc : PipelineDesc) (h : Handle) (found : c.pipelines.find? desc.key = some h) :
    (createPipeline desc).run c =
      .ok ⟨desc.key, h⟩ { c with pipelines := { c.pipelines with hits := c.pipelines.hits + 1 } } := by
  simp [createPipeline, cached, resolve, cache, found, modifyCache, setCache]

theorem run_createPipeline_made (desc : PipelineDesc) (missing : c.pipelines.find? desc.key = none)
    (unarmed : ∀ f, c.device.failNext ≠ some (.pipeline, f)) :
    (createPipeline desc).run c =
      .ok ⟨desc.key, ⟨.pipeline, c.device.next⟩⟩
        { c with
          device :=
            { c.device with
              next := c.device.next + 1
              live := c.device.live ++ [⟨.pipeline, c.device.next⟩]
              log := c.device.log.push (.create ⟨.pipeline, c.device.next⟩) }
          pipelines :=
            ({ c.pipelines with misses := c.pipelines.misses + 1 } : ObjectCache).insert desc.key
              ⟨.pipeline, c.device.next⟩ } := by
  simp [createPipeline, cached, resolve, cache, missing, modifyCache, setCache, Device.run_create_fresh _ _ unarmed]

theorem run_createPipeline_refused (desc : PipelineDesc) (missing : c.pipelines.find? desc.key = none)
    (f : DeviceFailure) (armed : c.device.failNext = some (.pipeline, f)) :
    ∃ e, (createPipeline desc).run c =
      .error e { c with
        device := { c.device with failNext := none }
        pipelines := { c.pipelines with misses := c.pipelines.misses + 1 } } := by
  simp [createPipeline, cached, resolve, cache, missing, modifyCache, setCache, Device.run_create_armed _ _ _ _ armed]

theorem run_current (p : Pipeline) : (current p).run c = .ok (c.pipelines.find? p.key) c := rfl

theorem run_swapIn_swapped (job : RelinkJob) (optimized : Handle) (found : c.pipelines.find? job.key = some job.fast) :
    (swapIn job optimized).run c =
      .ok () { c with
        pipelines := { c.pipelines with entries := ObjectCache.swapEntries c.pipelines.entries job.key optimized }
        ring := { c.ring with mailbox := c.ring.mailbox ++ [.destroy job.fast] } } := by
  simp [swapIn, ObjectCache.replaceIf_of_find? _ _ _ _ found, post]

theorem run_swapIn_dropped (job : RelinkJob) (optimized : Handle) (other : c.pipelines.find? job.key ≠ some job.fast)
    (live : optimized ∈ c.device.live) :
    (swapIn job optimized).run c =
      .ok () { c with
        device :=
          { c.device with
            live := (c.device.live.erase optimized).filter fun s => !(c.device.setsOf optimized).contains s
            poolSets := c.device.poolSets.filter (·.1 != optimized)
            log := c.device.log.push (.destroy optimized) } } := by
  simp [swapIn, ObjectCache.replaceIf_of_ne _ _ _ _ other, Device.run_destroy_live _ _ live]

theorem run_link_hit (layout : PipelineLayout) (libs : List Pipeline) (h : Handle)
    (found : c.pipelines.find? (linkKey layout libs) = some h) :
    (link layout libs).run c =
      .ok ⟨linkKey layout libs, h⟩ { c with pipelines := { c.pipelines with hits := c.pipelines.hits + 1 } } := by
  simp [link, found, modifyCache, setCache, cache]

abbrev linkedFast (k : Key) : Context :=
  { c with
    device :=
      { c.device with
        next := c.device.next + 1
        live := c.device.live ++ [⟨.pipeline, c.device.next⟩]
        log := (c.device.log.push (.create ⟨.pipeline, c.device.next⟩)).push (.link ⟨.pipeline, c.device.next⟩ .fast) }
    pipelines := ({ c.pipelines with misses := c.pipelines.misses + 1 } : ObjectCache).insert k ⟨.pipeline, c.device.next⟩ }

theorem run_link_optimized (layout : PipelineLayout) (libs : List Pipeline)
    (missing : c.pipelines.find? (linkKey layout libs) = none) (optimized : c.device.fastLinksOptimized = true) :
    (link layout libs).run c = .ok ⟨linkKey layout libs, ⟨.pipeline, c.device.next⟩⟩ (linkedFast c (linkKey layout libs)) := by
  simp [link, missing, modifyCache, setCache, cache, Device.run_link, optimized]

theorem run_link_queued (layout : PipelineLayout) (libs : List Pipeline)
    (missing : c.pipelines.find? (linkKey layout libs) = none) (unoptimized : c.device.fastLinksOptimized = false)
    (free : c.device.holdOptimized = false) :
    (link layout libs).run c =
      .ok ⟨linkKey layout libs, ⟨.pipeline, c.device.next⟩⟩
        { linkedFast c (linkKey layout libs) with
          relinks :=
            { c.relinks with
              jobs := c.relinks.jobs ++
                [{ key := linkKey layout libs, name := linkName (linkKey layout libs), fast := ⟨.pipeline, c.device.next⟩ }] } } := by
  simp [link, missing, modifyCache, setCache, cache, Device.run_link, unoptimized, modifyRelinks, free]

theorem run_link_held (layout : PipelineLayout) (libs : List Pipeline)
    (missing : c.pipelines.find? (linkKey layout libs) = none) (unoptimized : c.device.fastLinksOptimized = false)
    (held : c.device.holdOptimized = true) (c' : Context)
    (started : startJobs.run
      { linkedFast c (linkKey layout libs) with
        relinks :=
          { c.relinks with
            jobs := c.relinks.jobs ++
              [{ key := linkKey layout libs, name := linkName (linkKey layout libs), fast := ⟨.pipeline, c.device.next⟩ }] } } =
      .ok () c') :
    (link layout libs).run c = .ok ⟨linkKey layout libs, ⟨.pipeline, c.device.next⟩⟩ c' := by
  -- both sides name the device's flags by their values once simp has read them
  simp only [unoptimized, held] at started
  simp [link, missing, modifyCache, setCache, cache, Device.run_link, unoptimized, modifyRelinks, held, started]

-- What starting jobs keeps: the cached entries, the mailbox and the device's objects, with
-- jobs only dropped from the queue.
structure Kept (c c' : Context) : Prop where
  entries : c'.pipelines.entries = c.pipelines.entries
  mailbox : c'.ring.mailbox = c.ring.mailbox
  next : c'.device.next = c.device.next
  live : c'.device.live = c.device.live
  poolSets : c'.device.poolSets = c.device.poolSets
  jobs : List.Sublist c'.relinks.jobs c.relinks.jobs

def startJob : Act Context (ForInStep Unit) := do
  let r := (← get).relinks
  if r.started < r.workers ∧ r.started < r.jobs.length then
    if ← device! Device.takeLinkPanic then
      modifyRelinks fun r => { r with jobs := r.jobs.eraseIdx r.started }
      pure (.yield ())
    else
      modifyRelinks fun r => { r with started := r.started + 1 }
      pure (.yield ())
  else pure (.yield ())

theorem run_startJob (c c' : Context) (kept : Kept c c') :
    ∃ c'', startJob.run c' = .ok (.yield ()) c'' ∧ Kept c c'' := by
  by_cases free : c'.relinks.started < c'.relinks.workers ∧ c'.relinks.started < c'.relinks.jobs.length
  · cases panicked : c'.device.panicNextOptimized
    · refine ⟨_, by simp [startJob, free, modifyRelinks, Device.run_takeLinkPanic, panicked]; rfl, ?_⟩
      exact ⟨kept.entries, kept.mailbox, kept.next, kept.live, kept.poolSets, kept.jobs⟩
    · refine ⟨_, by simp [startJob, free, modifyRelinks, Device.run_takeLinkPanic, panicked]; rfl, ?_⟩
      exact ⟨kept.entries, kept.mailbox, kept.next, kept.live, kept.poolSets,
        (List.eraseIdx_sublist _ _).trans kept.jobs⟩
  · exact ⟨c', by simp [startJob, free], kept⟩

theorem run_startJobs (c : Context) : ∃ c', startJobs.run c = .ok () c' ∧ Kept c c' := by
  have start : Kept c c := ⟨rfl, rfl, rfl, rfl, rfl, List.Sublist.refl _⟩
  obtain ⟨c', loop, kept⟩ := Act.run_forIn_of_step (List.range c.relinks.jobs.length) (fun _ _ => startJob)
    (fun _ c' => Kept c c') (fun _ _ c' kept => run_startJob c c' kept) c start
  refine ⟨c', ?_, kept⟩
  simp only [startJobs, EStateM.run_bind, EStateM.run_get]
  erw [loop]
  rfl

theorem run_post_destroys (es : List (Key × Handle)) (c : Context) :
    (forIn es () fun (e : Key × Handle) _ => match e with
      | (_, h) => do post (.destroy h); pure (ForInStep.yield ())).run c =
      .ok () { c with ring := { c.ring with mailbox := c.ring.mailbox ++ es.map (.destroy ·.2) } } := by
  induction es generalizing c with
  | nil => simp
  | cons e rest ih =>
    simp only [List.forIn_cons, EStateM.run_bind, post, EStateM.run_modify, EStateM.run_pure] at ih ⊢
    rw [ih]
    simp

theorem run_evict (fragment : String) :
    (evict fragment).run c =
      .ok (c.pipelines.removeMatching (·.hasField fragment)).1.length
        { c with
          pipelines := (c.pipelines.removeMatching (·.hasField fragment)).2
          ring := { c.ring with
            mailbox := c.ring.mailbox ++ (c.pipelines.removeMatching (·.hasField fragment)).1.map (.destroy ·.2) } } := by
  simp only [evict, EStateM.run_bind, EStateM.run_get, EStateM.run_modify]
  rw [run_post_destroys]
  simp

abbrev linkedOptimized : Context :=
  { c with
    device :=
      { c.device with
        next := c.device.next + 1
        live := c.device.live ++ [⟨.pipeline, c.device.next⟩]
        log := (c.device.log.push (.create ⟨.pipeline, c.device.next⟩)).push
          (.link ⟨.pipeline, c.device.next⟩ .optimized) } }

theorem run_linkOptimized :
    (device! (Device.link .optimized)).run c = .ok (⟨.pipeline, c.device.next⟩, true) (linkedOptimized c) := by
  simp [Device.run_link]

theorem run_finishJob (job : RelinkJob) :
    (finishJob job).run c = (swapIn job ⟨.pipeline, c.device.next⟩).run (linkedOptimized c) := by
  simp only [finishJob, EStateM.run_bind, run_linkOptimized]

def flushJob (started : Nat) (x : RelinkJob × Nat) : Act Context (ForInStep Unit) :=
  if x.2 < started then do
    finishJob x.1
    pure (.yield ())
  else do
    if ← device! Device.takeLinkPanic then pure (.yield ())
    else do
      finishJob x.1
      pure (.yield ())

theorem run_flushRelinks_free (c' : Context) (free : c.device.holdOptimized = false)
    (loop : (forIn c.relinks.jobs.zipIdx () fun x _ => flushJob c.relinks.started x).run
      { c with relinks := { c.relinks with jobs := [], started := 0 } } = .ok () c') :
    flushRelinks.run c = .ok () c' := by
  simp only [flushRelinks, modifyRelinks, EStateM.run_bind, EStateM.run_get, EStateM.run_modify, free,
    Bool.false_eq_true, if_false]
  erw [loop]
  rfl

theorem run_flushRelinks_held (held : c.device.holdOptimized = true) :
    flushRelinks.run c =
      .ok () { c with
        device := if c.relinks.started < c.relinks.jobs.length then { c.device with panicNextOptimized := false }
          else c.device
        relinks := { c.relinks with jobs := [], started := 0 } } := by
  by_cases waiting : c.relinks.started < c.relinks.jobs.length <;>
    simp [flushRelinks, modifyRelinks, held, waiting, Device.run_takeLinkPanic]

def destroyEntry (e : Key × Handle) : Act Context (ForInStep Unit) := do
  device! (Device.destroy e.2)
  pure (.yield ())

theorem run_destroyCache_pipelines (c' : Context)
    (loop : (forIn c.pipelines.entries () fun e _ => destroyEntry e).run
      { c with pipelines := { c.pipelines with entries := [] } } = .ok () c') :
    (destroyCache .pipelines).run c = .ok c.pipelines.entries.length c' := by
  simp only [destroyCache, EStateM.run_bind, EStateM.run_get, EStateM.run_modify, cache, ObjectCache.drain, setCache]
  erw [loop]
  rfl

theorem run_runDestroyers (ds : List Destroyer) (c' : Context)
    (loop : (forIn ds () fun d _ => do runDestroyer d; pure (ForInStep.yield ())).run c = .ok () c') :
    (runDestroyers ds).run c = .ok ds.length c' := by
  simp only [runDestroyers, EStateM.run_bind]
  erw [loop]
  rfl

end RenderCore.Context
