import RenderCore.Proofs.Pipelines.Invariant
namespace RenderCore.RelinkRun

variable {c : Context} {linked : List (RelinkJob × Handle)}

theorem Sound.runDestroyer (d : Destroyer) (rest : List Destroyer)
    (sound : Sound ⟨{ c with ring := { c.ring with mailbox := d :: rest } }, linked⟩) :
    ∃ c', (Context.runDestroyer d).run c = .ok () c' ∧ Sound ⟨{ c' with ring := { c'.ring with mailbox := rest } }, linked⟩ ∧
      c'.pipelines = c.pipelines ∧ c'.relinks = c.relinks ∧ c'.ring = c.ring := by
  cases d with
  | release x =>
    refine ⟨{ c with pools := c.pools.release x }, rfl, ?_, rfl, rfl, rfl⟩
    exact sound.moved rfl rfl rfl sound.keys (by simp [RelinkRun.owners, Destroyer.target, List.filterMap_cons])
      (fun j member => member) (fun h holds => holds)
  | note id =>
    refine ⟨{ c with device := { c.device with log := c.device.log.push (.note id) } }, rfl, ?_, rfl, rfl, rfl⟩
    exact sound.moved rfl rfl rfl sound.keys (by simp [RelinkRun.owners, Destroyer.target, List.filterMap_cons])
      (fun j member => member) (fun h holds => holds)
  | destroy h =>
    -- the destroyer is the handle's one owner, so the handle is live
    have owner : h ∈ RelinkRun.owners ⟨{ c with ring := { c.ring with mailbox := .destroy h :: rest } }, linked⟩ := by
      simp [RelinkRun.owners, Destroyer.target]
    have live : h ∈ c.device.live := sound.live_of_owner owner
    refine ⟨{ c with
      device := { c.device with live := (c.device.live.erase h).filter (fun s => !(c.device.setsOf h).contains s),
                                poolSets := c.device.poolSets.filter (·.1 != h), log := c.device.log.push (.destroy h) } },
      by simp [Context.runDestroyer, Device.run_destroy_live _ _ live], ?_, rfl, rfl, rfl⟩
    refine sound.destroyed h owner rfl sound.keys ?_ (fun j member => member) (fun h holds => holds)
    rw [List.perm_iff_count]
    intro a
    simp only [RelinkRun.owners, List.filterMap_cons, Destroyer.target, List.count_append, List.count_cons,
      List.count_nil]
    omega

theorem Sound.drain (sound : Sound ⟨c, linked⟩) :
    ∃ c', (Context.runDestroyers c.ring.mailbox).run { c with ring := { c.ring with mailbox := [] } } =
        .ok c.ring.mailbox.length c' ∧
      Sound ⟨c', linked⟩ ∧ c'.pipelines = c.pipelines ∧ c'.relinks = c.relinks ∧ c'.ring.mailbox = [] := by
  -- the invariant: the destroyers still to run, put back in the emptied mailbox, keep `Sound`
  let inv := fun (rest : List Destroyer) (c' : Context) =>
    Sound ⟨{ c' with ring := { c'.ring with mailbox := rest } }, linked⟩ ∧ c'.pipelines = c.pipelines ∧
      c'.relinks = c.relinks ∧ c'.ring.mailbox = []
  have step : ∀ d rest c', inv (d :: rest) c' →
      ∃ c'', (do Context.runDestroyer d; pure (ForInStep.yield ()) : Act Context _).run c' = .ok (.yield ()) c'' ∧
        inv rest c'' := by
    intro d rest c' ⟨sound', pipelines, relinks, emptied⟩
    obtain ⟨c'', run, sound'', samePipelines, sameRelinks, sameRing⟩ := sound'.runDestroyer d rest
    refine ⟨c'', by simp [run], sound'', samePipelines.trans pipelines, sameRelinks.trans relinks, ?_⟩
    rw [sameRing, emptied]
  obtain ⟨c', loop, sound', pipelines, relinks, emptied⟩ :=
    Act.run_forIn_of_step c.ring.mailbox (fun d _ => do Context.runDestroyer d; pure (ForInStep.yield ())) inv step { c with ring := { c.ring with mailbox := [] } }
      ⟨by simpa using sound, rfl, rfl, rfl⟩
  refine ⟨c', Context.run_runDestroyers _ _ _ loop, ?_, pipelines, relinks, emptied⟩
  have same : { c' with ring := { c'.ring with mailbox := [] } } = c' := by rw [← emptied]
  have sound'' : Sound ⟨{ c' with ring := { c'.ring with mailbox := [] } }, linked⟩ := sound'
  rwa [same] at sound''

theorem Sound.destroyCache (sound : Sound ⟨c, linked⟩) :
    ∃ c', (Context.destroyCache .pipelines).run c = .ok c.pipelines.entries.length c' ∧ Sound ⟨c', linked⟩ ∧
      c'.pipelines.entries = [] ∧ c'.relinks = c.relinks ∧ c'.ring = c.ring := by
  -- the invariant: the entries still to destroy, put back in the emptied cache, keep `Sound`
  let inv := fun (rest : List (Key × Handle)) (c' : Context) =>
    Sound ⟨{ c' with pipelines := { c'.pipelines with entries := rest } }, linked⟩ ∧ c'.pipelines.entries = [] ∧
      c'.relinks = c.relinks ∧ c'.ring = c.ring
  have step : ∀ e rest c', inv (e :: rest) c' →
      ∃ c'', (Context.destroyEntry e).run c' = .ok (.yield ()) c'' ∧ inv rest c'' := by
    intro e rest c' ⟨sound', emptied, relinks, ring⟩
    have owner : e.2 ∈ RelinkRun.owners ⟨{ c' with pipelines := { c'.pipelines with entries := e :: rest } }, linked⟩ := by
      simp [RelinkRun.owners, ObjectCache.values]
    have live : e.2 ∈ c'.device.live := sound'.live_of_owner owner
    refine ⟨{ c' with
      device := { c'.device with live := (c'.device.live.erase e.2).filter (fun s => !(c'.device.setsOf e.2).contains s),
                                 poolSets := c'.device.poolSets.filter (·.1 != e.2),
                                 log := c'.device.log.push (.destroy e.2) } },
      by simp [Context.destroyEntry, Device.run_destroy_live _ _ live], ?_, emptied, relinks, ring⟩
    refine sound'.destroyed e.2 owner rfl ?_ ?_ (fun j member => member) (fun h holds => holds)
    · have keys := sound'.keys
      simp only [ObjectCache.keys, List.map_cons, List.nodup_cons] at keys ⊢
      exact keys.2
    · rw [List.perm_iff_count]
      intro a
      simp only [RelinkRun.owners, ObjectCache.values, List.map_cons, List.count_append, List.count_cons,
        List.count_nil]
      omega
  obtain ⟨c', loop, sound', emptied, relinks, ring⟩ :=
    Act.run_forIn_of_step c.pipelines.entries (fun e _ => Context.destroyEntry e) inv step { c with pipelines := { c.pipelines with entries := [] } }
      ⟨by simpa using sound, rfl, rfl, rfl⟩
  exact ⟨c', Context.run_destroyCache_pipelines _ _ loop, by simpa [← emptied] using sound', emptied, relinks, ring⟩

theorem Sound.finishJob (job : RelinkJob) (rest : List RelinkJob)
    (sound : Sound ⟨{ c with relinks := { c.relinks with jobs := job :: rest } }, []⟩)
    (room : c.device.next < c.device.next + 1) :
    ∃ c', (Context.finishJob job).run c = .ok () c' ∧
      Sound ⟨{ c' with relinks := { c'.relinks with jobs := rest } }, []⟩ ∧ c'.relinks = c.relinks ∧
      c'.device.next = c.device.next + 1 ∧ c'.pipelines.keys = c.pipelines.keys ∧
      ∀ k o, c.pipelines.find? k = some o → job.fast ≠ o → c'.pipelines.find? k = some o := by
  have made : Sound ⟨{ Context.linkedOptimized c with relinks := { c.relinks with jobs := rest } },
      [] ++ [(job, ⟨.pipeline, c.device.next⟩)]⟩ :=
    sound.jobLinked job room _ rfl rfl rfl (List.Perm.refl _)
  have held : [(job, (⟨.pipeline, c.device.next⟩ : Handle))].Perm ([] ++ [(job, ⟨.pipeline, c.device.next⟩)]) := by
    simp
  by_cases found : c.pipelines.find? job.key = some job.fast
  · -- the fast link is still cached: the optimized link takes its place
    refine ⟨{ Context.linkedOptimized c with
        pipelines := { c.pipelines with entries := ObjectCache.swapEntries c.pipelines.entries job.key ⟨.pipeline, c.device.next⟩ }
        ring := { c.ring with mailbox := c.ring.mailbox ++ [.destroy job.fast] } }, ?_, ?_, rfl, rfl, ?_, ?_⟩
    · rw [Context.run_finishJob, Context.run_swapIn_swapped (Context.linkedOptimized c) job _ found]
    · exact made.swapped job _ held found rfl rfl rfl rfl
    · exact ObjectCache.keys_swapEntries c.pipelines.entries job.key _
    · intro k o cached other
      exact c.pipelines.find?_swap_of_ne cached found other
  · -- the entry moved on: the optimized link is destroyed again
    have live : (⟨.pipeline, c.device.next⟩ : Handle) ∈ (Context.linkedOptimized c).device.live := by simp
    refine ⟨{ Context.linkedOptimized c with
        device := { (Context.linkedOptimized c).device with
          live := ((Context.linkedOptimized c).device.live.erase ⟨.pipeline, c.device.next⟩).filter
            (fun s => !((Context.linkedOptimized c).device.setsOf ⟨.pipeline, c.device.next⟩).contains s)
          poolSets := (Context.linkedOptimized c).device.poolSets.filter (·.1 != ⟨.pipeline, c.device.next⟩)
          log := (Context.linkedOptimized c).device.log.push (.destroy ⟨.pipeline, c.device.next⟩) } },
      ?_, ?_, rfl, rfl, rfl, fun k o cached _ => cached⟩
    · rw [Context.run_finishJob, Context.run_swapIn_dropped (Context.linkedOptimized c) job _ found live]
    · exact made.dropped job _ held rfl rfl rfl rfl

-- `Sound` with the jobs still to run put back in the queue.
structure FlushLeft (c : Context) (rest : List (RelinkJob × Nat)) (c' : Context) : Prop where
  sound : Sound ⟨{ c' with relinks := { c'.relinks with jobs := rest.map (·.1) } }, []⟩
  relinks : c'.relinks = { c.relinks with jobs := [], started := 0 }
  room : c'.device.next.toNat + rest.length < UInt64.size
  keys : c'.pipelines.keys = c.pipelines.keys
  queued : List.Sublist (rest.map (·.1)) c.relinks.jobs
  kept : ∀ k o, c.pipelines.find? k = some o → (∀ j ∈ c.relinks.jobs, j.fast ≠ o) → c'.pipelines.find? k = some o

theorem FlushLeft.finish {c' : Context} (x : RelinkJob × Nat) (rest : List (RelinkJob × Nat))
    (left : FlushLeft c (x :: rest) c') :
    ∃ c'', (Context.finishJob x.1).run c' = .ok () c'' ∧ FlushLeft c rest c'' := by
  have size : UInt64.size = 18446744073709551616 := rfl
  have room : c'.device.next < c'.device.next + 1 := by
    have room := left.room
    simp only [List.length_cons] at room
    simp only [UInt64.lt_iff_toNat_lt, UInt64.toNat_add, UInt64.toNat_one]
    omega
  obtain ⟨c'', run, sound, relinks, next, keys, kept⟩ := Sound.finishJob x.1 (rest.map (·.1)) left.sound room
  refine ⟨c'', run, ⟨sound, relinks.trans left.relinks, ?_, keys.trans left.keys, ?_, ?_⟩⟩
  · have room' := left.room
    simp only [List.length_cons] at room'
    rw [next, UInt64.toNat_add, UInt64.toNat_one]
    omega
  · exact (List.sublist_cons_self _ _).trans left.queued
  · intro k o cached apart
    have queued : x.1 ∈ c.relinks.jobs := left.queued.subset List.mem_cons_self
    exact kept k o (left.kept k o cached apart) (apart x.1 queued)

theorem FlushLeft.skip {c' : Context} (x : RelinkJob × Nat) (rest : List (RelinkJob × Nat))
    (left : FlushLeft c (x :: rest) c') (d : Device) (next : d.next = c'.device.next) (live : d.live = c'.device.live)
    (poolSets : d.poolSets = c'.device.poolSets) : FlushLeft c rest { c' with device := d } := by
  refine ⟨?_, left.relinks, ?_, left.keys, (List.sublist_cons_self _ _).trans left.queued, left.kept⟩
  · refine left.sound.moved next live poolSets left.sound.keys (by simp [RelinkRun.owners]) ?_ (fun h holds => holds)
    intro j member
    simp only [RelinkRun.unfinished, List.map_cons, List.mem_append, List.mem_cons] at member ⊢
    exact member.imp_left Or.inr
  · have room := left.room
    simp only [List.length_cons] at room
    rw [next]
    omega

theorem FlushLeft.withDevice {c' : Context} (rest : List (RelinkJob × Nat)) (left : FlushLeft c rest c') (d : Device)
    (next : d.next = c'.device.next) (live : d.live = c'.device.live) (poolSets : d.poolSets = c'.device.poolSets) :
    FlushLeft c rest { c' with device := d } :=
  ⟨left.sound.withDevice d next live poolSets, left.relinks, next ▸ left.room, left.keys, left.queued, left.kept⟩

theorem FlushLeft.step {c' : Context} (x : RelinkJob × Nat) (rest : List (RelinkJob × Nat))
    (left : FlushLeft c (x :: rest) c') :
    ∃ c'', (Context.flushJob c.relinks.started x).run c' = .ok (.yield ()) c'' ∧ FlushLeft c rest c'' := by
  by_cases begun : x.2 < c.relinks.started
  · obtain ⟨c'', run, left'⟩ := left.finish x rest
    exact ⟨c'', by simp [Context.flushJob, begun, run], left'⟩
  · cases panicked : c'.device.panicNextOptimized
    · -- no panic is armed: the job runs to its end
      have disarmed := left.withDevice (x :: rest) { c'.device with panicNextOptimized := false } rfl rfl rfl
      obtain ⟨c'', run, left'⟩ := disarmed.finish x rest
      exact ⟨c'', by simp [Context.flushJob, begun, Device.run_takeLinkPanic, panicked, run], left'⟩
    · exact ⟨_, by simp [Context.flushJob, begun, Device.run_takeLinkPanic, panicked],
        left.skip x rest { c'.device with panicNextOptimized := false } rfl rfl rfl⟩

theorem Sound.flushRelinks (sound : Sound ⟨c, []⟩) (room : c.device.next.toNat + c.relinks.jobs.length < UInt64.size) :
    ∃ c', Context.flushRelinks.run c = .ok () c' ∧ Sound ⟨c', []⟩ ∧ c'.relinks.jobs = [] ∧
      c'.pipelines.keys = c.pipelines.keys ∧
      ∀ k o, c.pipelines.find? k = some o → (∀ j ∈ c.relinks.jobs, j.fast ≠ o) → c'.pipelines.find? k = some o := by
  cases held : c.device.holdOptimized
  · have start : FlushLeft c c.relinks.jobs.zipIdx { c with relinks := { c.relinks with jobs := [], started := 0 } } := by
      refine ⟨?_, rfl, by simpa using room, rfl, by simp [List.zipIdx_map_fst], fun k o cached _ => cached⟩
      refine sound.moved rfl rfl rfl sound.keys (by simp [RelinkRun.owners]) ?_ (fun h holds => holds)
      intro j member
      simpa [RelinkRun.unfinished, List.zipIdx_map_fst] using member
    obtain ⟨c', loop, left⟩ := Act.run_forIn_of_step c.relinks.jobs.zipIdx (fun x _ => Context.flushJob c.relinks.started x)
      (FlushLeft c) (fun x rest c' left => left.step x rest) _ start
    have emptied : c'.relinks.jobs = [] := by simp [left.relinks]
    have same : { c' with relinks := { c'.relinks with jobs := [] } } = c' := by rw [← emptied]
    have sound' := left.sound
    simp only [List.map_nil, same] at sound'
    exact ⟨c', Context.run_flushRelinks_free c c' held loop, sound', emptied, left.keys,
      fun k o cached apart => left.kept k o cached apart⟩
  · -- under a hold the queue is dropped and nothing is made
    refine ⟨_, Context.run_flushRelinks_held c held, ?_, rfl, rfl, fun k o cached _ => cached⟩
    refine sound.moved (by split <;> rfl) (by split <;> rfl) (by split <;> rfl) sound.keys (by simp [RelinkRun.owners])
      ?_ (fun h holds => holds)
    intro j member
    simp [RelinkRun.unfinished] at member

theorem Sound.destroyPipelines (sound : Sound ⟨c, []⟩)
    (room : c.device.next.toNat + c.relinks.jobs.length < UInt64.size) :
    ∃ n c', Context.destroyPipelines.run c = .ok n c' ∧ Sound ⟨c', []⟩ ∧ c'.pipelines.entries = [] ∧
      c'.relinks.jobs = [] := by
  obtain ⟨c₁, flushed, sound₁, finished, -, -⟩ := sound.flushRelinks room
  obtain ⟨c₂, destroyed, sound₂, emptied, relinks, -⟩ := sound₁.destroyCache
  exact ⟨c₁.pipelines.entries.length, c₂, by simp [Context.destroyPipelines, flushed, destroyed], sound₂, emptied,
    by rw [relinks, finished]⟩

end RenderCore.RelinkRun
