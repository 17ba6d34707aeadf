import Mathlib
import RenderCore.Proofs.Pipelines.Batch
namespace RenderCore.RelinkRun

open Relation

inductive JobStep : RelinkRun → RelinkRun → Prop
  | link {r : RelinkRun} (i : Nat) {job : RelinkJob} (queued : r.context.relinks.jobs[i]? = some job)
      {o : Handle} {optimized : Bool} {c' : Context}
      (run : (Context.device! (Device.link .optimized)).run
        { r.context with relinks := { r.context.relinks with jobs := r.context.relinks.jobs.eraseIdx i } } =
          .ok (o, optimized) c')
      (grows : r.context.device.next ≤ c'.device.next) :
      JobStep r ⟨c', r.linked ++ [(job, o)]⟩
  | panic {r : RelinkRun} (i : Nat) :
      JobStep r ⟨{ r.context with relinks := { r.context.relinks with jobs := r.context.relinks.jobs.eraseIdx i } },
        r.linked⟩
  | swap {r : RelinkRun} (j : Nat) {job : RelinkJob} {o : Handle} (held : r.linked[j]? = some (job, o))
      {c' : Context} (run : (Context.swapIn job o).run r.context = .ok () c') :
      JobStep r ⟨c', r.linked.eraseIdx j⟩

inductive Step : RelinkRun → RelinkRun → Prop
  | createPipeline {r : RelinkRun} (desc : PipelineDesc) {p : Pipeline} {c' : Context}
      (run : (Context.createPipeline desc).run r.context = .ok p c')
      (grows : r.context.device.next ≤ c'.device.next) : Step r ⟨c', r.linked⟩
  | createRefused {r : RelinkRun} (desc : PipelineDesc) {e : Fault} {c' : Context}
      (run : (Context.createPipeline desc).run r.context = .error e c') : Step r ⟨c', r.linked⟩
  | link {r : RelinkRun} (layout : PipelineLayout) (libs : List Pipeline) {p : Pipeline} {c' : Context}
      (run : (Context.link layout libs).run r.context = .ok p c')
      (grows : r.context.device.next ≤ c'.device.next) : Step r ⟨c', r.linked⟩
  | current {r : RelinkRun} (p : Pipeline) {found : Option Handle} {c' : Context}
      (run : (Context.current p).run r.context = .ok found c') : Step r ⟨c', r.linked⟩
  | evict {r : RelinkRun} (fragment : String) {n : Nat} {c' : Context}
      (run : (Context.evict fragment).run r.context = .ok n c') : Step r ⟨c', r.linked⟩
  | flushRelinks {r : RelinkRun} {c' : Context} (idle : r.linked = [])
      (room : r.context.device.next.toNat + r.context.relinks.jobs.length < UInt64.size)
      (run : Context.flushRelinks.run r.context = .ok () c') : Step r ⟨c', []⟩
  | destroyAll {r : RelinkRun} {n : Nat} {c' : Context} (idle : r.linked = [])
      (room : r.context.device.next.toNat + r.context.relinks.jobs.length < UInt64.size)
      (run : Context.destroyPipelines.run r.context = .ok n c') : Step r ⟨c', []⟩
  | configure {r : RelinkRun} (failNext : Option (HandleKind × DeviceFailure))
      (fastLinksOptimized panicNextOptimized holdOptimized : Bool) :
      Step r ⟨{ r.context with
        device := { r.context.device with failNext, fastLinksOptimized, panicNextOptimized, holdOptimized } },
        r.linked⟩
  | job {r r' : RelinkRun} (step : JobStep r r') : Step r r'
  | drain {r : RelinkRun} {n : Nat} {c' : Context}
      (run : (Context.runDestroyers r.context.ring.mailbox).run
        { r.context with ring := { r.context.ring with mailbox := [] } } = .ok n c') : Step r ⟨c', r.linked⟩

variable {c : Context} {linked : List (RelinkJob × Handle)}

theorem perm_cons_eraseIdx {α : Type} {l : List α} {i : Nat} {x : α} (found : l[i]? = some x) :
    (x :: l.eraseIdx i).Perm l := by
  obtain ⟨inside, rfl⟩ := List.getElem?_eq_some_iff.mp found
  exact List.getElem_cons_eraseIdx_perm inside

-- A cached handle changes only when an unfinished job had it as its fast link.
structure Tracks (r r' : RelinkRun) : Prop where
  kept : ∀ k o, r.context.pipelines.find? k = some o → (∀ j ∈ r.unfinished, j.fast ≠ o) →
    k ∈ r'.context.pipelines.keys → r'.context.pipelines.find? k = some o
  fresh : ∀ j ∈ r'.unfinished, j ∈ r.unfinished ∨ r.context.device.next ≤ j.fast.raw

theorem Tracks.same {r r' : RelinkRun} (entries : r'.context.pipelines.entries = r.context.pipelines.entries)
    (unfinished : ∀ j ∈ r'.unfinished, j ∈ r.unfinished) : Tracks r r' where
  kept k o found _ _ := by
    show r'.context.pipelines.entries.lookup k = some o
    rw [entries]
    exact found
  fresh j member := Or.inl (unfinished j member)

theorem Tracks.cacheFresh {c' : Context} (k : Key) (missing : c.pipelines.find? k = none)
    (entries : c'.pipelines.entries = c.pipelines.entries ++ [(k, ⟨.pipeline, c.device.next⟩)])
    (jobs : ∀ j ∈ c'.relinks.jobs, j ∈ c.relinks.jobs ∨ j.fast = ⟨.pipeline, c.device.next⟩) :
    Tracks ⟨c, linked⟩ ⟨c', linked⟩ where
  kept k' o found _ _ := by
    have other : k' ≠ k := by
      rintro rfl
      rw [found] at missing
      cases missing
    have inserted := ObjectCache.find?_insert c.pipelines k k' ⟨.pipeline, c.device.next⟩ missing
    rw [if_neg other] at inserted
    show c'.pipelines.entries.lookup k' = some o
    rw [entries, ← found, ← inserted]
    rfl
  fresh j member := by
    simp only [RelinkRun.unfinished, List.mem_append] at member
    rcases member with queued | held
    · rcases jobs j queued with old | new
      · exact Or.inl (by simp [RelinkRun.unfinished, old])
      · rw [new]
        exact Or.inr (UInt64.le_refl _)
    · exact Or.inl (by simp [RelinkRun.unfinished, held])

theorem Sound.createPipeline (sound : Sound ⟨c, linked⟩) (desc : PipelineDesc) {p : Pipeline} {c' : Context}
    (run : (Context.createPipeline desc).run c = .ok p c') (grows : c.device.next ≤ c'.device.next) :
    Sound ⟨c', linked⟩ ∧ Tracks ⟨c, linked⟩ ⟨c', linked⟩ := by
  cases found : c.pipelines.find? desc.key with
  | some h =>
    rw [Context.run_createPipeline_hit c desc h found, EStateM.Result.ok.injEq] at run
    obtain ⟨-, rfl⟩ := run
    exact ⟨sound.recount _ rfl, Tracks.same rfl fun j member => member⟩
  | none =>
    by_cases armed : ∃ f, c.device.failNext = some (.pipeline, f)
    · obtain ⟨f, armed⟩ := armed
      obtain ⟨e, refused⟩ := Context.run_createPipeline_refused c desc found f armed
      rw [refused] at run
      cases run
    · have unarmed : ∀ f, c.device.failNext ≠ some (.pipeline, f) := fun f same => armed ⟨f, same⟩
      rw [Context.run_createPipeline_made c desc found unarmed, EStateM.Result.ok.injEq] at run
      obtain ⟨-, rfl⟩ := run
      exact ⟨sound.cacheFresh desc.key found (Device.room_of_le_succ _ grows) _ rfl (by simp [ObjectCache.insert]) rfl []
        (by simp) (by simp), Tracks.cacheFresh desc.key found (by simp [ObjectCache.insert]) fun j => Or.inl⟩

theorem Sound.createRefused (sound : Sound ⟨c, linked⟩) (desc : PipelineDesc) {e : Fault} {c' : Context}
    (run : (Context.createPipeline desc).run c = .error e c') :
    Sound ⟨c', linked⟩ ∧ Tracks ⟨c, linked⟩ ⟨c', linked⟩ := by
  cases found : c.pipelines.find? desc.key with
  | some h =>
    rw [Context.run_createPipeline_hit c desc h found] at run
    cases run
  | none =>
    by_cases armed : ∃ f, c.device.failNext = some (.pipeline, f)
    · -- the device refuses: only its armed failure and the miss count change
      obtain ⟨f, armed⟩ := armed
      obtain ⟨e', refused⟩ := Context.run_createPipeline_refused c desc found f armed
      rw [refused, EStateM.Result.error.injEq] at run
      obtain ⟨-, rfl⟩ := run
      exact ⟨(sound.withDevice { c.device with failNext := none } rfl rfl rfl).recount
        { c.pipelines with misses := c.pipelines.misses + 1 } rfl, Tracks.same rfl fun j member => member⟩
    · have unarmed : ∀ f, c.device.failNext ≠ some (.pipeline, f) := fun f same => armed ⟨f, same⟩
      rw [Context.run_createPipeline_made c desc found unarmed] at run
      cases run

theorem Sound.link (sound : Sound ⟨c, linked⟩) (layout : PipelineLayout) (libs : List Pipeline) {p : Pipeline}
    {c' : Context} (run : (Context.link layout libs).run c = .ok p c') (grows : c.device.next ≤ c'.device.next) :
    Sound ⟨c', linked⟩ ∧ Tracks ⟨c, linked⟩ ⟨c', linked⟩ := by
  cases found : c.pipelines.find? (linkKey layout libs) with
  | some h =>
    rw [Context.run_link_hit c layout libs h found, EStateM.Result.ok.injEq] at run
    obtain ⟨-, rfl⟩ := run
    exact ⟨sound.recount _ rfl, Tracks.same rfl fun j member => member⟩
  | none =>
    -- the new job for the fast link, queued unless the device made the link optimized
    let job : RelinkJob :=
      { key := linkKey layout libs, name := linkName (linkKey layout libs), fast := ⟨.pipeline, c.device.next⟩ }
    have queued : c.device.next < c.device.next + 1 →
        Sound ⟨{ Context.linkedFast c (linkKey layout libs) with
          relinks := { c.relinks with jobs := c.relinks.jobs ++ [job] } }, linked⟩ := fun room =>
      sound.cacheFresh (linkKey layout libs) found room _ rfl (by simp [ObjectCache.insert]) rfl [job] rfl (by simp [job])
    have jobs : ∀ j ∈ c.relinks.jobs ++ [job], j ∈ c.relinks.jobs ∨ j.fast = ⟨.pipeline, c.device.next⟩ := by
      intro j member
      simp only [List.mem_append, List.mem_singleton] at member
      exact member.imp_right fun same => by rw [same]
    cases optimized : c.device.fastLinksOptimized
    · cases held : c.device.holdOptimized
      · rw [Context.run_link_queued c layout libs found optimized held, EStateM.Result.ok.injEq] at run
        obtain ⟨-, rfl⟩ := run
        exact ⟨queued (Device.room_of_le_succ _ grows),
          Tracks.cacheFresh (linkKey layout libs) found (by simp [ObjectCache.insert]) jobs⟩
      · obtain ⟨c₁, started, kept⟩ := Context.run_startJobs
          { Context.linkedFast c (linkKey layout libs) with relinks := { c.relinks with jobs := c.relinks.jobs ++ [job] } }
        rw [Context.run_link_held c layout libs found optimized held c₁ started, EStateM.Result.ok.injEq] at run
        obtain ⟨-, rfl⟩ := run
        rw [kept.next] at grows
        exact ⟨(queued (Device.room_of_le_succ _ grows)).kept kept,
          Tracks.cacheFresh (linkKey layout libs) found (by simp [kept.entries, ObjectCache.insert])
            fun j member => jobs j (kept.jobs.subset member)⟩
    · rw [Context.run_link_optimized c layout libs found optimized, EStateM.Result.ok.injEq] at run
      obtain ⟨-, rfl⟩ := run
      exact ⟨sound.cacheFresh (linkKey layout libs) found (Device.room_of_le_succ _ grows) _ rfl
        (by simp [ObjectCache.insert]) rfl [] (by simp) (by simp),
        Tracks.cacheFresh (linkKey layout libs) found (by simp [ObjectCache.insert]) fun j => Or.inl⟩

theorem Sound.jobStep {r r' : RelinkRun} (sound : Sound r) (step : JobStep r r') : Sound r' ∧ Tracks r r' := by
  cases step with
  | link i queued run grows =>
    rw [Context.run_linkOptimized, EStateM.Result.ok.injEq] at run
    obtain ⟨same, rfl⟩ := run
    cases same
    refine ⟨sound.jobLinked _ (Device.room_of_le_succ _ grows) _ rfl rfl rfl (perm_cons_eraseIdx queued),
      Tracks.same rfl ?_⟩
    -- the job moves from the queue to the jobs holding a link
    intro j member
    have perm := perm_cons_eraseIdx queued
    simp only [RelinkRun.unfinished, List.map_append, List.map_cons, List.map_nil, List.mem_append,
      List.mem_singleton] at member ⊢
    rcases member with waiting | held | same
    · exact Or.inl (perm.subset (List.mem_cons_of_mem _ waiting))
    · exact Or.inr held
    · exact Or.inl (perm.subset (same ▸ List.mem_cons_self))
  | panic i =>
    exact ⟨sound.dropJobs _ (List.eraseIdx_sublist _ _), Tracks.same rfl
      (mem_unfinished_of (fun _ waiting => (List.eraseIdx_sublist _ _).subset waiting) fun _ held => held)⟩
  | @swap n job o held c' run =>
    have perm := perm_cons_eraseIdx held
    have unfinished : ∀ j ∈ RelinkRun.unfinished ⟨r.context, r.linked.eraseIdx n⟩, j ∈ r.unfinished :=
      mem_unfinished_of (fun _ queued => queued) (mem_map_of_perm_cons _ perm)
    have running : job ∈ r.unfinished := by
      simp only [RelinkRun.unfinished, List.mem_append]
      exact Or.inr ((perm.map (·.1)).subset List.mem_cons_self)
    by_cases found : r.context.pipelines.find? job.key = some job.fast
    · rw [Context.run_swapIn_swapped _ _ _ found, EStateM.Result.ok.injEq] at run
      obtain ⟨-, rfl⟩ := run
      refine ⟨sound.swapped job o perm found rfl rfl rfl rfl, ?_, fun j member => Or.inl (unfinished j member)⟩
      -- only the job's key changes, and only because it still held the job's fast link
      intro k o' cached apart _
      exact r.context.pipelines.find?_swap_of_ne cached found (apart job running)
    · -- the job's optimized link is its own to destroy, so it is live
      have owner : o ∈ RelinkRun.owners r := by
        simp only [RelinkRun.owners, List.mem_append]
        exact Or.inr ((perm.map (·.2)).subset List.mem_cons_self)
      rw [Context.run_swapIn_dropped _ _ _ found (sound.live_of_owner owner), EStateM.Result.ok.injEq] at run
      obtain ⟨-, rfl⟩ := run
      exact ⟨sound.dropped job o perm rfl rfl rfl rfl, Tracks.same rfl unfinished⟩

theorem Sound.step {r r' : RelinkRun} (sound : Sound r) (step : Step r r') : Sound r' ∧ Tracks r r' := by
  cases step with
  | createPipeline desc run grows => exact sound.createPipeline desc run grows
  | createRefused desc run => exact sound.createRefused desc run
  | link layout libs run grows => exact sound.link layout libs run grows
  | current p run =>
    rw [Context.run_current, EStateM.Result.ok.injEq] at run
    obtain ⟨-, rfl⟩ := run
    exact ⟨sound, Tracks.same rfl fun j member => member⟩
  | evict fragment run =>
    rw [Context.run_evict, EStateM.Result.ok.injEq] at run
    obtain ⟨-, rfl⟩ := run
    refine ⟨sound.evict fragment, ?_, fun j member => Or.inl member⟩
    -- a key still cached did not match, so nothing happened to it
    intro k o found _ cached
    rw [ObjectCache.keys_removeMatching, List.mem_filter] at cached
    rw [ObjectCache.find?_removeMatching, if_neg (by simpa using cached.2)]
    exact found
  | @flushRelinks c' idle room run =>
    obtain ⟨context, linked⟩ := r
    subst idle
    obtain ⟨c'', flushed, sound', emptied, -, kept⟩ := sound.flushRelinks room
    rw [flushed, EStateM.Result.ok.injEq] at run
    obtain ⟨-, rfl⟩ := run
    refine ⟨sound', ⟨fun k o found apart _ => kept k o found fun j queued => apart j (by simp [RelinkRun.unfinished, queued]),
      ?_⟩⟩
    intro j member
    simp [RelinkRun.unfinished, emptied] at member
  | @destroyAll n c' idle room run =>
    obtain ⟨context, linked⟩ := r
    subst idle
    obtain ⟨n', c'', destroyed, sound', emptied, finished⟩ := sound.destroyPipelines room
    rw [destroyed, EStateM.Result.ok.injEq] at run
    obtain ⟨-, rfl⟩ := run
    -- nothing stays cached, and every job ran in the flush
    refine ⟨sound', ⟨fun k o _ _ cached => by simp [ObjectCache.keys, emptied] at cached, ?_⟩⟩
    intro j member
    simp [RelinkRun.unfinished, finished] at member
  | configure failNext fastLinksOptimized panicNextOptimized holdOptimized =>
    exact ⟨sound.withDevice _ rfl rfl rfl, Tracks.same rfl fun j member => member⟩
  | job step => exact sound.jobStep step
  | drain run =>
    obtain ⟨c'', drained, sound', pipelines, relinks, -⟩ := sound.drain
    rw [drained, EStateM.Result.ok.injEq] at run
    obtain ⟨-, rfl⟩ := run
    refine ⟨sound', Tracks.same (by rw [pipelines]) ?_⟩
    intro j member
    simpa [RelinkRun.unfinished, relinks] using member

theorem Sound.run {r r' : RelinkRun} (sound : Sound r) (steps : ReflTransGen Step r r') : Sound r' := by
  induction steps with
  | refl => exact sound
  | tail _ step ih => exact (ih.step step).1

def Settled (k : Key) (o : Handle) (r : RelinkRun) : Prop :=
  r.context.pipelines.find? k = some o ∧ ∀ j ∈ r.unfinished, j.fast ≠ o

def KeepsKey (k : Key) (r r' : RelinkRun) : Prop :=
  Step r r' ∧ k ∈ r'.context.pipelines.keys

variable {r r' : RelinkRun} {k : Key} {o : Handle}

theorem Sound.settles_swap (sound : Sound r) (n : Nat) (job : RelinkJob) (held : r.linked[n]? = some (job, o))
    (found : r.context.pipelines.find? job.key = some job.fast) {c' : Context}
    (run : (Context.swapIn job o).run r.context = .ok () c') : Settled job.key o ⟨c', r.linked.eraseIdx n⟩ := by
  rw [Context.run_swapIn_swapped _ _ _ found, EStateM.Result.ok.injEq] at run
  obtain ⟨-, rfl⟩ := run
  have perm := perm_cons_eraseIdx held
  have cached : job.key ∈ r.context.pipelines.entries.map (·.1) := by
    rw [← ObjectCache.keys, ← ObjectCache.find?_isSome_iff, found]
    rfl
  refine ⟨?_, fun j member same => ?_⟩
  · show (ObjectCache.swapEntries r.context.pipelines.entries job.key o).lookup job.key = some o
    rw [ObjectCache.lookup_swapEntries, if_pos rfl, if_pos cached]
  · -- every other job was unfinished before, and no job's fast link is a link a job holds
    have before : j ∈ r.unfinished := by
      apply mem_unfinished_of _ _ j member
      · exact fun _ queued => queued
      · exact mem_map_of_perm_cons _ perm
    exact sound.jobsApart j before (same ▸ (perm.map (·.2)).subset List.mem_cons_self)

theorem Sound.settled_step (sound : Sound r) (settled : Settled k o r) (step : Step r r')
    (stays : k ∈ r'.context.pipelines.keys) : Settled k o r' := by
  obtain ⟨-, tracks⟩ := sound.step step
  have owner : o ∈ r.owners := by
    simp only [RelinkRun.owners, List.mem_append]
    exact Or.inl (Or.inl (ObjectCache.value_mem_of_find? settled.1))
  have below := UInt64.lt_iff_toNat_lt.mp (sound.numbered_of_owner owner)
  refine ⟨tracks.kept k o settled.1 settled.2 stays, fun j member same => ?_⟩
  rcases tracks.fresh j member with old | new
  · exact settled.2 j old same
  · -- a fast link made in the step is numbered past every live handle
    rw [same, UInt64.le_iff_toNat_le] at new
    omega

theorem Sound.settled_run (sound : Sound r) (settled : Settled k o r) (steps : ReflTransGen (KeepsKey k) r r') :
    Sound r' ∧ Settled k o r' := by
  induction steps with
  | refl => exact ⟨sound, settled⟩
  | tail _ step ih =>
    obtain ⟨sound', settled'⟩ := ih
    exact ⟨(sound'.step step.1).1, sound'.settled_step settled' step.1 step.2⟩

structure Promises (r : RelinkRun) : Prop where
  valuesApart : r.context.pipelines.values.Nodup
  oneOwner : r.context.device.livePipelines.Perm r.owners ∧ r.owners.Nodup
  drains : ∃ c', (Context.runDestroyers r.context.ring.mailbox).run
    { r.context with ring := { r.context.ring with mailbox := [] } } = .ok r.context.ring.mailbox.length c'
  swaps : ∀ job o, (job, o) ∈ r.linked → ∃ c', (Context.swapIn job o).run r.context = .ok () c'
  flushes : r.linked = [] → r.context.device.next.toNat + r.context.relinks.jobs.length < UInt64.size →
    ∃ c', Context.flushRelinks.run r.context = .ok () c' ∧ c'.pipelines.keys = r.context.pipelines.keys
  tearsDown : r.linked = [] → r.context.device.next.toNat + r.context.relinks.jobs.length < UInt64.size →
    ∃ n c', Context.destroyPipelines.run r.context = .ok n c'
  jobsKeepKeys : ∀ r', JobStep r r' → r'.context.pipelines.keys = r.context.pipelines.keys
  swapSticks : ∀ n job o c₁, r.linked[n]? = some (job, o) → r.context.pipelines.find? job.key = some job.fast →
    (Context.swapIn job o).run r.context = .ok () c₁ →
    ∀ r₂, ReflTransGen (KeepsKey job.key) ⟨c₁, r.linked.eraseIdx n⟩ r₂ →
      (∀ p : Pipeline, p.key = job.key → (Context.current p).run r₂.context = .ok (some o) r₂.context) ∧
      ∀ layout libs, linkKey layout libs = job.key →
        ∃ c', (Context.link layout libs).run r₂.context = .ok ⟨job.key, o⟩ c'

theorem JobStep.keys (step : JobStep r r') : r'.context.pipelines.keys = r.context.pipelines.keys := by
  cases step with
  | link i queued run grows =>
    rw [Context.run_linkOptimized, EStateM.Result.ok.injEq] at run
    obtain ⟨-, rfl⟩ := run
    rfl
  | panic i => rfl
  | @swap n job o held c' run =>
    by_cases found : r.context.pipelines.find? job.key = some job.fast
    · rw [Context.run_swapIn_swapped _ _ _ found, EStateM.Result.ok.injEq] at run
      obtain ⟨-, rfl⟩ := run
      exact ObjectCache.keys_swapEntries _ _ _
    · -- no swap: only the device changes
      simp only [Context.swapIn, EStateM.run_bind, EStateM.run_get, ObjectCache.replaceIf_of_ne _ _ _ _ found,
        EStateM.run_modify, Bool.false_eq_true, if_false, Context.run_device!] at run
      split at run
      · rw [EStateM.Result.ok.injEq] at run
        obtain ⟨-, rfl⟩ := run
        rfl
      · cases run

theorem Sound.promises (sound : Sound r) : Promises r where
  valuesApart := by
    have distinct := sound.distinct
    simp only [RelinkRun.owners, List.append_assoc] at distinct
    exact (List.nodup_append.mp distinct).1
  oneOwner := ⟨sound.owned, sound.distinct⟩
  drains := by
    obtain ⟨c', run, -⟩ := sound.drain
    exact ⟨c', run⟩
  swaps job o held := by
    by_cases found : r.context.pipelines.find? job.key = some job.fast
    · exact ⟨_, Context.run_swapIn_swapped _ _ _ found⟩
    · have owner : o ∈ r.owners := by
        simp only [RelinkRun.owners, List.mem_append]
        exact Or.inr (List.mem_map_of_mem held)
      exact ⟨_, Context.run_swapIn_dropped _ _ _ found (sound.live_of_owner owner)⟩
  flushes idle room := by
    obtain ⟨context, linked⟩ := r
    subst idle
    obtain ⟨c', run, -, -, keys, -⟩ := sound.flushRelinks room
    exact ⟨c', run, keys⟩
  tearsDown idle room := by
    obtain ⟨context, linked⟩ := r
    subst idle
    obtain ⟨n, c', run, -⟩ := sound.destroyPipelines room
    exact ⟨n, c', run⟩
  jobsKeepKeys r' step := step.keys
  swapSticks n job o c₁ held found run r₂ steps := by
    have swapped := (sound.step (.job (.swap n held run))).1
    obtain ⟨-, settled, -⟩ := swapped.settled_run (sound.settles_swap n job held found run) steps
    refine ⟨fun p same => ?_, fun layout libs same => ?_⟩
    · rw [Context.run_current, same, settled]
    · have hit := Context.run_link_hit r₂.context layout libs o (same ▸ settled)
      rw [same] at hit
      exact ⟨_, hit⟩

structure Fresh (c : Context) : Prop where
  uncached : c.pipelines.entries = []
  unposted : c.ring.mailbox = []
  idle : c.relinks.jobs = []
  unlinked : c.device.livePipelines = []
  numbered : c.device.Numbered
  filed : c.device.SetsFiled

theorem Sound.start (fresh : Fresh c) : Sound ⟨c, []⟩ where
  numbered := fresh.numbered
  filed := fresh.filed
  keys := by simp [ObjectCache.keys, fresh.uncached]
  owned := by simp [RelinkRun.owners, ObjectCache.values, fresh.uncached, fresh.unposted, fresh.unlinked]
  distinct := by simp [RelinkRun.owners, ObjectCache.values, fresh.uncached, fresh.unposted]
  jobsNumbered := by simp [RelinkRun.unfinished, fresh.idle]
  jobsApart := by simp [RelinkRun.unfinished, fresh.idle]

theorem relinks_keep_promises {start : Context} (fresh : Fresh start) (reach : ReflTransGen Step ⟨start, []⟩ r) :
    Promises r :=
  ((Sound.start fresh).run reach).promises

-- On a fresh device a pipeline is made and linked; a worker makes the optimized link and swaps it
-- in: the cache keeps its promises.
theorem relinks_keep_promises_from_empty :
    let c₀ : Context := { (default : Context) with device := {} }
    ∃ r : RelinkRun, ReflTransGen Step ⟨c₀, []⟩ r ∧ r.linked = [] ∧ Promises r := by
  intro c₀
  have fresh : Fresh c₀ := ⟨rfl, rfl, rfl, rfl, ⟨by simp [c₀], by simp [c₀], by simp [c₀]⟩, by simp [c₀, Device.SetsFiled]⟩
  have ran : Act.finishes ((Context.createPipeline
      { shader := "a", entry := "main", stage := .vertex, layout := default }).run c₀) (fun p c₁ =>
    Act.finishes ((Context.link default [p]).run c₁) fun _ c₂ =>
    c₂.relinks.jobs[0]?.any fun job => Act.finishes ((Context.device! (Device.link .optimized)).run
      { c₂ with relinks := { c₂.relinks with jobs := c₂.relinks.jobs.eraseIdx 0 } }) fun made c₃ =>
    Act.finishes ((Context.swapIn job made.1).run c₃) fun _ _ =>
      decide (c₀.device.next ≤ c₁.device.next) && decide (c₁.device.next ≤ c₂.device.next) &&
        decide (c₂.device.next ≤ c₃.device.next)) = true := by
    cbv
  obtain ⟨p, c₁, created, ran⟩ := Act.finishes_eq_true.mp ran
  obtain ⟨q, c₂, linked, ran⟩ := Act.finishes_eq_true.mp ran
  obtain ⟨job, queued, ran⟩ := (Option.any_eq_true _ _).mp ran
  obtain ⟨⟨o, optimized⟩, c₃, made, ran⟩ := Act.finishes_eq_true.mp ran
  obtain ⟨⟨⟩, c₄, swapped, ran⟩ := Act.finishes_eq_true.mp ran
  simp only [Bool.and_eq_true, decide_eq_true_eq] at ran
  obtain ⟨⟨grows₁, grows₂⟩, grows₃⟩ := ran
  have run : ReflTransGen Step ⟨c₀, []⟩ ⟨c₄, []⟩ :=
    .tail (.tail (.tail (.single (.createPipeline _ created grows₁)) (.link _ _ linked grows₂))
      (.job (.link 0 queued made grows₃))) (.job (.swap 0 rfl swapped))
  exact ⟨_, run, rfl, relinks_keep_promises fresh run⟩

end RenderCore.RelinkRun
