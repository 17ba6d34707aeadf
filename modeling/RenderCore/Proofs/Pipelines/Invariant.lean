import RenderCore.Proofs.Pipelines.Actions
namespace RenderCore

namespace Device

def livePipelines (d : Device) : List Handle := d.live.filter (·.kind == .pipeline)

theorem livePipelines_destroy (d : Device) (filed : d.SetsFiled) (h : Handle) :
    livePipelines { d with live := (d.live.erase h).filter (fun s => !(d.setsOf h).contains s),
                           poolSets := d.poolSets.filter (·.1 != h), log := d.log.push (.destroy h) } =
      d.livePipelines.erase h := by
  -- what a pool takes down with it are sets, never pipelines
  have sets : ∀ s ∈ d.setsOf h, s.kind = .set := fun s listed => by
    obtain ⟨e, entry, inner⟩ := d.mem_setsOf h s listed
    exact filed e entry s inner
  simp only [livePipelines, List.filter_filter, List.erase_filter]
  refine List.filter_congr fun s _ => ?_
  by_cases pipe : s.kind = .pipeline
  · have kept : s ∉ d.setsOf h := fun listed => by
      rw [sets s listed] at pipe
      cases pipe
    simp [pipe, kept]
  · simp [pipe]

theorem livePipelines_add (d : Device) (next : UInt64) (log : Array Event) :
    livePipelines { d with next, live := d.live ++ [⟨.pipeline, d.next⟩], log } =
      d.livePipelines ++ [⟨.pipeline, d.next⟩] := by
  simp [livePipelines, List.filter_append]

end Device

def Destroyer.target : Destroyer → Option Handle
  | .destroy h => some h
  | _ => none

structure RelinkRun where
  context : Context
  linked : List (RelinkJob × Handle)

namespace RelinkRun

def owners (r : RelinkRun) : List Handle :=
  r.context.pipelines.values ++ r.context.ring.mailbox.filterMap Destroyer.target ++ r.linked.map (·.2)

def unfinished (r : RelinkRun) : List RelinkJob := r.context.relinks.jobs ++ r.linked.map (·.1)

theorem mem_unfinished_of {r r' : RelinkRun} (jobs : ∀ j ∈ r'.context.relinks.jobs, j ∈ r.context.relinks.jobs)
    (held : ∀ j ∈ r'.linked.map (·.1), j ∈ r.linked.map (·.1)) : ∀ j ∈ r'.unfinished, j ∈ r.unfinished := by
  intro j member
  simp only [unfinished, List.mem_append] at member ⊢
  exact member.imp (jobs j) (held j)

theorem mem_map_of_perm_cons {β : Type} {x : RelinkJob × Handle} {l' l : List (RelinkJob × Handle)}
    (f : RelinkJob × Handle → β) (held : (x :: l').Perm l) : ∀ y ∈ l'.map f, y ∈ l.map f :=
  fun _ member => (held.map f).subset (List.mem_cons_of_mem _ member)

structure Sound (r : RelinkRun) : Prop where
  numbered : r.context.device.Numbered
  filed : r.context.device.SetsFiled
  keys : r.context.pipelines.keys.Nodup
  owned : r.context.device.livePipelines.Perm r.owners
  distinct : r.owners.Nodup
  jobsNumbered : ∀ j ∈ r.unfinished, j.fast.raw < r.context.device.next
  jobsApart : ∀ j ∈ r.unfinished, j.fast ∉ r.linked.map (·.2)

theorem owned_shift {live owners : List Handle} (live' owners' removed added : List Handle) (owned : live.Perm owners)
    (distinct : (owners ++ added).Nodup) (liveMoves : (live' ++ removed).Perm (live ++ added))
    (ownersMove : (owners' ++ removed).Perm (owners ++ added)) : live'.Perm owners' ∧ owners'.Nodup := by
  have both : (live' ++ removed).Perm (owners' ++ removed) :=
    liveMoves.trans ((owned.append_right added).trans ownersMove.symm)
  exact ⟨List.perm_append_right_iff removed |>.mp both,
    (List.nodup_append.mp (ownersMove.nodup_iff.mpr distinct)).1⟩

section

variable {c : Context} {linked : List (RelinkJob × Handle)}

theorem Sound.live_of_owner (sound : Sound ⟨c, linked⟩) {h : Handle} (owner : h ∈ RelinkRun.owners ⟨c, linked⟩) :
    h ∈ c.device.live := by
  have listed : h ∈ c.device.livePipelines := sound.owned.symm.subset owner
  exact (List.mem_filter.mp listed).1

theorem Sound.numbered_of_owner (sound : Sound ⟨c, linked⟩) {h : Handle}
    (owner : h ∈ RelinkRun.owners ⟨c, linked⟩) : h.raw < c.device.next :=
  sound.numbered.live h (sound.live_of_owner owner)

theorem Sound.fresh_not_owner (sound : Sound ⟨c, linked⟩) (kind : HandleKind) :
    (⟨kind, c.device.next⟩ : Handle) ∉ RelinkRun.owners ⟨c, linked⟩ := fun owner =>
  Nat.lt_irrefl _ (UInt64.lt_iff_toNat_lt.mp (sound.numbered_of_owner owner))

theorem Sound.distinct_fresh (sound : Sound ⟨c, linked⟩) :
    (RelinkRun.owners ⟨c, linked⟩ ++ [(⟨.pipeline, c.device.next⟩ : Handle)]).Nodup := by
  refine List.nodup_append.mpr ⟨sound.distinct, by simp, ?_⟩
  intro a owner b new same
  rw [List.mem_singleton.mp new] at same
  exact sound.fresh_not_owner .pipeline (same ▸ owner)

theorem Sound.moved {c' : Context} {linked' : List (RelinkJob × Handle)} (sound : Sound ⟨c, linked⟩)
    (next : c'.device.next = c.device.next) (live : c'.device.live = c.device.live)
    (poolSets : c'.device.poolSets = c.device.poolSets) (keys : c'.pipelines.keys.Nodup)
    (ownersMove : (RelinkRun.owners ⟨c', linked'⟩).Perm (RelinkRun.owners ⟨c, linked⟩))
    (unfinished : ∀ j ∈ RelinkRun.unfinished ⟨c', linked'⟩, j ∈ RelinkRun.unfinished ⟨c, linked⟩)
    (held : ∀ h ∈ linked'.map (·.2), h ∈ linked.map (·.2)) : Sound ⟨c', linked'⟩ := by
  have pipelines : c'.device.livePipelines = c.device.livePipelines := by
    simp [Device.livePipelines, live]
  have shift := owned_shift c'.device.livePipelines (RelinkRun.owners ⟨c', linked'⟩) [] [] sound.owned
    (by simpa using sound.distinct) (by simp [pipelines]) (by simpa using ownersMove)
  refine ⟨sound.numbered.of_same next live poolSets, ?_, keys, shift.1, shift.2, ?_, ?_⟩
  · intro e member
    exact sound.filed e (poolSets ▸ member)
  · intro j member
    rw [next]
    exact sound.jobsNumbered j (unfinished j member)
  · exact fun j member holds => sound.jobsApart j (unfinished j member) (held _ holds)

theorem Sound.destroyed {c' : Context} {linked' : List (RelinkJob × Handle)} (sound : Sound ⟨c, linked⟩)
    (h : Handle) (owner : h ∈ RelinkRun.owners ⟨c, linked⟩)
    (device : c'.device =
      { c.device with live := (c.device.live.erase h).filter (fun s => !(c.device.setsOf h).contains s),
                      poolSets := c.device.poolSets.filter (·.1 != h), log := c.device.log.push (.destroy h) })
    (keys : c'.pipelines.keys.Nodup)
    (ownersMove : (RelinkRun.owners ⟨c', linked'⟩ ++ [h]).Perm (RelinkRun.owners ⟨c, linked⟩))
    (unfinished : ∀ j ∈ RelinkRun.unfinished ⟨c', linked'⟩, j ∈ RelinkRun.unfinished ⟨c, linked⟩)
    (held : ∀ h ∈ linked'.map (·.2), h ∈ linked.map (·.2)) : Sound ⟨c', linked'⟩ := by
  have listed : h ∈ c.device.livePipelines := sound.owned.symm.subset owner
  have shift := owned_shift c'.device.livePipelines (RelinkRun.owners ⟨c', linked'⟩) [h] [] sound.owned
    (by simpa using sound.distinct)
    (by
      rw [device, Device.livePipelines_destroy _ sound.filed, List.append_nil]
      exact List.perm_append_comm.trans (List.perm_cons_erase listed).symm)
    (by simpa using ownersMove)
  refine ⟨device ▸ Device.numbered_destroy c.device sound.numbered h, device ▸ Device.setsFiled_destroy c.device
    sound.filed h, keys, shift.1, shift.2, ?_, ?_⟩
  · intro j member
    rw [device]
    exact sound.jobsNumbered j (unfinished j member)
  · exact fun j member holds => sound.jobsApart j (unfinished j member) (held _ holds)

theorem Sound.withDevice (sound : Sound ⟨c, linked⟩) (d : Device) (next : d.next = c.device.next)
    (live : d.live = c.device.live) (poolSets : d.poolSets = c.device.poolSets) :
    Sound ⟨{ c with device := d }, linked⟩ :=
  sound.moved next live poolSets sound.keys (by simp [RelinkRun.owners]) (fun j member => member)
    (fun h holds => holds)

theorem Sound.recount (sound : Sound ⟨c, linked⟩) (o : ObjectCache) (entries : o.entries = c.pipelines.entries) :
    Sound ⟨{ c with pipelines := o }, linked⟩ :=
  sound.moved rfl rfl rfl (by simpa [ObjectCache.keys, entries] using sound.keys)
    (by simp [RelinkRun.owners, ObjectCache.values, entries]) (fun j member => member) (fun h holds => holds)

theorem Sound.kept {c' : Context} (sound : Sound ⟨c, linked⟩) (kept : c.Kept c') : Sound ⟨c', linked⟩ :=
  sound.moved kept.next kept.live kept.poolSets (by simpa [ObjectCache.keys, kept.entries] using sound.keys)
    (by simp [RelinkRun.owners, ObjectCache.values, kept.entries, kept.mailbox])
    (mem_unfinished_of (fun _ queued => kept.jobs.subset queued) fun _ held => held) (fun h holds => holds)

theorem Sound.dropJobs (sound : Sound ⟨c, linked⟩) (jobs : List RelinkJob) (dropped : List.Sublist jobs c.relinks.jobs) :
    Sound ⟨{ c with relinks := { c.relinks with jobs } }, linked⟩ :=
  sound.moved rfl rfl rfl sound.keys (by simp [RelinkRun.owners])
    (mem_unfinished_of (fun _ queued => dropped.subset queued) fun _ held => held) (fun h holds => holds)

theorem Sound.cacheFresh {c' : Context} (sound : Sound ⟨c, linked⟩) (k : Key) (missing : c.pipelines.find? k = none)
    (room : c.device.next < c.device.next + 1) (log : Array Event)
    (device : c'.device =
      { c.device with next := c.device.next + 1, live := c.device.live ++ [⟨.pipeline, c.device.next⟩], log })
    (entries : c'.pipelines.entries = c.pipelines.entries ++ [(k, ⟨.pipeline, c.device.next⟩)])
    (mailbox : c'.ring.mailbox = c.ring.mailbox) (queued : List RelinkJob)
    (jobs : c'.relinks.jobs = c.relinks.jobs ++ queued)
    (fast : ∀ j ∈ queued, j.fast = ⟨.pipeline, c.device.next⟩) : Sound ⟨c', linked⟩ := by
  have fresh := sound.fresh_not_owner .pipeline
  have newKey : k ∉ c.pipelines.keys := fun cached => by
    rw [← ObjectCache.find?_isSome_iff, missing] at cached
    cases cached
  have shift := owned_shift c'.device.livePipelines (RelinkRun.owners ⟨c', linked⟩) [] [⟨.pipeline, c.device.next⟩]
    sound.owned sound.distinct_fresh
    (by rw [device, Device.livePipelines_add, List.append_nil])
    (by
      rw [List.perm_iff_count]
      intro a
      simp only [RelinkRun.owners, ObjectCache.values, entries, mailbox, List.map_append, List.map_cons,
        List.map_nil, List.count_append, List.count_nil]
      omega)
  refine ⟨device ▸ Device.numbered_track c.device sound.numbered .pipeline room log, ?_, ?_, shift.1, shift.2, ?_, ?_⟩
  · intro e member
    rw [device] at member
    exact sound.filed e member
  · have keys : c'.pipelines.keys = c.pipelines.keys ++ [k] := by
      simp [ObjectCache.keys, entries]
    rw [keys]
    exact List.nodup_append.mpr ⟨sound.keys, by simp, fun a old b new same => by
      rw [List.mem_singleton.mp new] at same
      exact newKey (same ▸ old)⟩
  · intro j member
    rw [device]
    simp only [RelinkRun.unfinished, jobs, List.append_assoc, List.mem_append] at member
    rcases member with queuedBefore | queuedNow | held
    · exact Device.lt_succ_of_lt room (sound.jobsNumbered j (by simp [RelinkRun.unfinished, queuedBefore]))
    · rw [fast j queuedNow]
      exact room
    · exact Device.lt_succ_of_lt room (sound.jobsNumbered j (by simp [RelinkRun.unfinished, held]))
  · intro j member
    simp only [RelinkRun.unfinished, jobs, List.append_assoc, List.mem_append] at member
    rcases member with queuedBefore | queuedNow | held
    · exact sound.jobsApart j (by simp [RelinkRun.unfinished, queuedBefore])
    · -- a new fast link is fresh, and every handle a job holds is numbered below it
      rw [fast j queuedNow]
      exact fun holds => fresh (by simp [RelinkRun.owners, holds])
    · exact sound.jobsApart j (by simp [RelinkRun.unfinished, held])

theorem Sound.jobLinked {c' : Context} (sound : Sound ⟨c, linked⟩) (job : RelinkJob)
    (room : c.device.next < c.device.next + 1) (log : Array Event)
    (device : c'.device =
      { c.device with next := c.device.next + 1, live := c.device.live ++ [⟨.pipeline, c.device.next⟩], log })
    (entries : c'.pipelines.entries = c.pipelines.entries) (mailbox : c'.ring.mailbox = c.ring.mailbox)
    (jobs : (job :: c'.relinks.jobs).Perm c.relinks.jobs) :
    Sound ⟨c', linked ++ [(job, ⟨.pipeline, c.device.next⟩)]⟩ := by
  have owners : RelinkRun.owners ⟨c', linked ++ [(job, ⟨.pipeline, c.device.next⟩)]⟩ =
      RelinkRun.owners ⟨c, linked⟩ ++ [⟨.pipeline, c.device.next⟩] := by
    simp [RelinkRun.owners, ObjectCache.values, entries, mailbox]
  -- the jobs still unfinished are the same, the one that linked now among the held
  have unfinished : ∀ j ∈ RelinkRun.unfinished ⟨c', linked ++ [(job, ⟨.pipeline, c.device.next⟩)]⟩,
      j ∈ RelinkRun.unfinished ⟨c, linked⟩ := by
    intro j member
    simp only [RelinkRun.unfinished, List.map_append, List.map_cons, List.map_nil, List.mem_append,
      List.mem_singleton] at member
    simp only [RelinkRun.unfinished, List.mem_append]
    rcases member with queued | held | same
    · exact Or.inl (jobs.subset (List.mem_cons_of_mem job queued))
    · exact Or.inr held
    · exact Or.inl (jobs.subset (same ▸ List.mem_cons_self))
  have shift := owned_shift c'.device.livePipelines (RelinkRun.owners ⟨c', linked ++ [(job, ⟨.pipeline, c.device.next⟩)]⟩)
    [] [⟨.pipeline, c.device.next⟩] sound.owned
    sound.distinct_fresh (by rw [device, Device.livePipelines_add, List.append_nil]) (by rw [owners, List.append_nil])
  refine ⟨device ▸ Device.numbered_track c.device sound.numbered .pipeline room log, ?_, ?_, shift.1, shift.2,
    ?_, ?_⟩
  · intro e member
    rw [device] at member
    exact sound.filed e member
  · simpa [ObjectCache.keys, entries] using sound.keys
  · intro j member
    rw [device]
    exact Device.lt_succ_of_lt room (sound.jobsNumbered j (unfinished j member))
  · intro j member holds
    simp only [List.map_append, List.map_cons, List.map_nil, List.mem_append, List.mem_singleton] at holds
    rcases holds with old | new
    · exact sound.jobsApart j (unfinished j member) old
    · -- a fast link was numbered before the optimized link was made
      have below := UInt64.lt_iff_toNat_lt.mp (sound.jobsNumbered j (unfinished j member))
      rw [new] at below
      exact Nat.lt_irrefl _ below

theorem Sound.swapped {c' : Context} {linked' : List (RelinkJob × Handle)} (sound : Sound ⟨c, linked⟩)
    (job : RelinkJob) (o : Handle) (held : ((job, o) :: linked').Perm linked)
    (found : c.pipelines.find? job.key = some job.fast) (device : c'.device = c.device)
    (entries : c'.pipelines.entries = ObjectCache.swapEntries c.pipelines.entries job.key o)
    (mailbox : c'.ring.mailbox = c.ring.mailbox ++ [.destroy job.fast])
    (jobs : c'.relinks.jobs = c.relinks.jobs) : Sound ⟨c', linked'⟩ := by
  have values := ObjectCache.values_swapEntries c.pipelines.entries job.key o sound.keys (ObjectCache.mem_of_find? found)
  have holders := held.map (·.2)
  refine sound.moved (by rw [device]) (by rw [device]) (by rw [device]) ?_ ?_
    (mem_unfinished_of (fun _ queued => jobs ▸ queued) (mem_map_of_perm_cons _ held)) (mem_map_of_perm_cons _ held)
  · have keys := ObjectCache.keys_swapEntries c.pipelines.entries job.key o
    simpa [ObjectCache.keys, entries, keys] using sound.keys
  · rw [List.perm_iff_count]
    intro a
    have values := values.count_eq a
    have holders := holders.count_eq a
    simp only [RelinkRun.owners, ObjectCache.values, entries, mailbox, List.filterMap_append, List.filterMap_cons,
      List.filterMap_nil, Destroyer.target, List.map_cons, List.count_append, List.count_cons,
      List.count_nil] at values holders ⊢
    omega

theorem Sound.dropped {c' : Context} {linked' : List (RelinkJob × Handle)} (sound : Sound ⟨c, linked⟩)
    (job : RelinkJob) (o : Handle) (held : ((job, o) :: linked').Perm linked)
    (device : c'.device =
      { c.device with live := (c.device.live.erase o).filter (fun s => !(c.device.setsOf o).contains s),
                      poolSets := c.device.poolSets.filter (·.1 != o), log := c.device.log.push (.destroy o) })
    (entries : c'.pipelines.entries = c.pipelines.entries) (mailbox : c'.ring.mailbox = c.ring.mailbox)
    (jobs : c'.relinks.jobs = c.relinks.jobs) : Sound ⟨c', linked'⟩ := by
  have holders := held.map (·.2)
  have owner : o ∈ RelinkRun.owners ⟨c, linked⟩ := by
    simp only [RelinkRun.owners, List.mem_append]
    exact Or.inr (holders.subset List.mem_cons_self)
  refine sound.destroyed o owner device ?_ ?_
    (mem_unfinished_of (fun _ queued => jobs ▸ queued) (mem_map_of_perm_cons _ held)) (mem_map_of_perm_cons _ held)
  · simpa [ObjectCache.keys, entries] using sound.keys
  · rw [List.perm_iff_count]
    intro a
    have holders := holders.count_eq a
    simp only [RelinkRun.owners, ObjectCache.values, entries, mailbox, List.map_cons, List.count_append,
      List.count_cons, List.count_nil] at holders ⊢
    omega

theorem Sound.evict (sound : Sound ⟨c, linked⟩) (fragment : String) :
    Sound ⟨{ c with
      pipelines := (c.pipelines.removeMatching (·.hasField fragment)).2
      ring := { c.ring with
        mailbox := c.ring.mailbox ++ (c.pipelines.removeMatching (·.hasField fragment)).1.map (.destroy ·.2) } },
      linked⟩ := by
  have values := ObjectCache.values_removeMatching c.pipelines (·.hasField fragment)
  refine sound.moved rfl rfl rfl ?_ ?_ (fun j member => member) (fun h holds => holds)
  · rw [ObjectCache.keys_removeMatching]
    exact sound.keys.sublist List.filter_sublist
  · rw [List.perm_iff_count]
    intro a
    have values := values.count_eq a
    -- the mailbox gains exactly the removed handles
    have posted : ((c.pipelines.removeMatching (·.hasField fragment)).1.map (Destroyer.destroy ·.2)).filterMap
        Destroyer.target = (c.pipelines.removeMatching (·.hasField fragment)).1.map (·.2) := by
      simp [List.filterMap_map, Destroyer.target, Function.comp_def]
    simp only [RelinkRun.owners, List.filterMap_append, posted, List.count_append] at values ⊢
    omega

end

end RelinkRun

end RenderCore
