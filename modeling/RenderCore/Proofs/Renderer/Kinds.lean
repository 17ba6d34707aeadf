import RenderCore.Proofs.Frames.Blind
import RenderCore.Proofs.Frames.Parking
import RenderCore.Proofs.Caches.Map
import RenderCore.Proofs.Pools.Actions
import RenderCore.Context.Layout
namespace RenderCore

def CacheRole.kind : CacheRole → HandleKind
  | .setLayouts => .setLayout
  | .pipelineLayouts => .pipelineLayout
  | .pipelines => .pipeline

def Destroyer.Kinded : Destroyer → Prop
  | .destroy h => h.kind = .pipeline
  | _ => True

-- A slot keeps a frame, scratch and command buffers, destroyers of pipelines, and a waiter on one of the
-- first `n` timelines.
structure Slot.Kinded (n : Nat) (s : Slot) : Prop where
  frame : s.handle.kind = .frame
  transient : ∀ h ∈ s.transient, h.kind = .scratch ∨ h.kind = .commandBuffer
  deferred : ∀ d ∈ s.deferred, d.Kinded
  waiter : ∀ w ∈ s.waiter, w.timeline < n

theorem Slot.Kinded.cleared {n : Nat} {s : Slot} (kinded : s.Kinded n) : s.cleared.Kinded n :=
  ⟨kinded.frame, fun _ none => absurd none List.not_mem_nil, fun _ none => absurd none List.not_mem_nil,
    fun _ none => absurd none (Option.not_mem_none _)⟩

theorem Slot.Kinded.mono {n m : Nat} {s : Slot} (kinded : s.Kinded n) (le : n ≤ m) : s.Kinded m :=
  ⟨kinded.frame, kinded.transient, kinded.deferred, fun w member => Nat.lt_of_lt_of_le (kinded.waiter w member) le⟩

theorem forall_mem_modify {α : Type} {P : α → Prop} {l : List α} (i : Nat) {g : α → α} (all : ∀ x ∈ l, P x)
    (keeps : ∀ x, P x → P (g x)) : ∀ x ∈ l.modify i g, P x := by
  induction l generalizing i with
  | nil => simp
  | cons a rest ih =>
    intro x member
    cases i with
    | zero =>
      rcases List.mem_cons.mp (by simpa using member) with rfl | later
      · exact keeps a (all a (List.mem_cons_self ..))
      · exact all x (List.mem_cons_of_mem _ later)
    | succ i =>
      rcases List.mem_cons.mp (by simpa using member) with rfl | later
      · exact all x (List.mem_cons_self ..)
      · exact ih i (fun y inside => all y (List.mem_cons_of_mem _ inside)) x later

theorem Pools.handle_mem_setBanks {p : Pools} {k : Key} {banks : List Bank} {h : Handle}
    (listed : h ∈ (p.setBanks k banks).allBanks.map (·.handle)) :
    h ∈ p.allBanks.map (·.handle) ∨ h ∈ banks.map (·.handle) := by
  obtain ⟨b, member, rfl⟩ := List.mem_map.mp listed
  unfold Pools.setBanks at member
  split at member
  · obtain ⟨e, entry, inside⟩ := List.mem_flatMap.mp member
    obtain ⟨e₀, old, rfl⟩ := List.mem_map.mp entry
    split at inside
    · exact .inr (List.mem_map_of_mem inside)
    · exact .inl (List.mem_map_of_mem (List.mem_flatMap.mpr ⟨e₀, old, inside⟩))
  · simp only [Pools.allBanks, List.flatMap_append, List.flatMap_cons, List.flatMap_nil, List.append_nil,
      List.mem_append] at member
    rcases member with old | new
    · exact .inl (List.mem_map_of_mem (List.mem_flatMap.mpr (List.mem_flatMap.mp old)))
    · exact .inr (List.mem_map_of_mem new)

theorem Pools.handles_set {banks : List Bank} {i : Nat} {b : Bank}
    (same : ∀ b', banks[i]? = some b' → b.handle = b'.handle) :
    (banks.set i b).map (·.handle) = banks.map (·.handle) := by
  apply List.ext_getElem?
  intro j
  rw [List.getElem?_map, List.getElem?_map, List.getElem?_set]
  split
  · next here =>
    subst here
    cases found : banks[i]? with
    | none => simp [Nat.not_lt.mpr (List.getElem?_eq_none_iff.mp found)]
    | some b' => simp [(List.getElem?_eq_some_iff.mp found).1, same b' found]
  · rfl

namespace Context

structure Stored (c : Context) : Prop where
  cached : ∀ role, ∀ e ∈ (c.cache role).entries, e.2.kind = role.kind
  banks : ∀ h ∈ c.pools.allBanks.map (·.handle), h.kind = .pool
  jobs : ∀ j ∈ c.relinks.jobs, j.fast.kind = .pipeline
  timelines : ∀ h ∈ c.timelines.toList.map (·.handle), h.kind = .semaphore

structure Kinded (c : Context) : Prop where
  stored : c.Stored
  slots : ∀ s ∈ c.ring.slots, s.Kinded c.timelines.size
  mailbox : ∀ d ∈ c.ring.mailbox, d.Kinded

variable {c c' : Context} {α : Type}

theorem Stored.congr (stored : c.Stored) (caches : ∀ role, (c'.cache role).entries = (c.cache role).entries)
    (pools : c'.pools.allBanks = c.pools.allBanks) (jobs : ∀ j ∈ c'.relinks.jobs, j ∈ c.relinks.jobs)
    (timelines : c'.timelines = c.timelines) : c'.Stored where
  cached role := caches role ▸ stored.cached role
  banks := pools ▸ stored.banks
  jobs j member := stored.jobs j (jobs j member)
  timelines := timelines ▸ stored.timelines

theorem Stored.semaphore (stored : c.Stored) {i : Nat} (present : i < c.timelines.size) :
    (c.timeline i).handle.kind = .semaphore := by
  have listed : (c.timeline i).handle ∈ c.timelines.toList.map (·.handle) := by
    simp only [timeline, Array.getElem?_eq_getElem present, Option.getD_some]
    exact List.mem_map_of_mem (Array.getElem_mem_toList present)
  exact stored.timelines _ listed

theorem banks_release (p : Pools) (s : DescriptorSet) :
    ∀ h ∈ (p.release s).allBanks.map (·.handle), h ∈ p.allBanks.map (·.handle) := by
  intro h listed
  by_cases fresh : ∃ b, (p.banks s.layout.key)[s.bank]? = some b ∧ b.id = s.bankId
  · obtain ⟨b, found, same⟩ := fresh
    rw [Pools.release_of_bank p s b found same] at listed
    rcases Pools.handle_mem_setBanks listed with kept | given
    · exact kept
    · -- the bank the set goes back to keeps its handle
      rw [Pools.handles_set fun b' found' => by rw [found] at found'; cases found'; rfl] at given
      obtain ⟨b', member, rfl⟩ := List.mem_map.mp given
      exact List.mem_map_of_mem (p.mem_allBanks _ _ member)
  · have stale : ∀ b, (p.banks s.layout.key)[s.bank]? = some b → b.id ≠ s.bankId :=
      fun b found same => fresh ⟨b, found, same⟩
    rwa [Pools.release_of_stale p s stale] at listed

def StoresKept (c c' : Context) : Prop :=
  c'.timelines.size = c.timelines.size ∧ (c.Stored → c'.Stored)

theorem storesKept_blind : FrameBlind StoresKept where
  refl _ := ⟨rfl, id⟩
  trans _ _ _ first second := ⟨second.1.trans first.1, second.2 ∘ first.2⟩
  device _ _ := ⟨rfl, fun stored => stored.congr (fun _ => rfl) rfl (fun _ => id) rfl⟩
  ring _ _ := ⟨rfl, fun stored => stored.congr (fun _ => rfl) rfl (fun _ => id) rfl⟩
  timeline c i f handle := by
    refine ⟨Array.size_modify .., fun stored => ⟨stored.cached, stored.banks, stored.jobs, ?_⟩⟩
    simpa only [Array.toList_modify, map_modify_of_eq _ _ _ _ handle] using stored.timelines
  release c s := ⟨rfl, fun stored => ⟨stored.cached, fun h listed => stored.banks h (banks_release _ _ h listed),
    stored.jobs, stored.timelines⟩⟩
  extent _ _ := ⟨rfl, fun stored => stored.congr (fun _ => rfl) rfl (fun _ => id) rfl⟩

theorem Kinded.of_blind {x : Act Context α} {a : α} (respects : Act.Respects StoresKept x) (kinded : c.Kinded)
    (run : x.run c = .ok a c') (slots : ∀ s ∈ c'.ring.slots, s.Kinded c.timelines.size)
    (mailbox : ∀ d ∈ c'.ring.mailbox, d.Kinded) : c'.Kinded := by
  obtain ⟨size, stored⟩ := respects c a c' run
  exact ⟨stored kinded.stored, size ▸ slots, mailbox⟩

theorem Kinded.of_ring {x : Act Context α} {a : α} (respects : Act.Respects StoresKept x) (kinded : c.Kinded)
    (run : x.run c = .ok a c') (slots : c'.ring.slots = c.ring.slots) (mailbox : c'.ring.mailbox = c.ring.mailbox) :
    c'.Kinded :=
  kinded.of_blind respects run (slots ▸ kinded.slots) (mailbox ▸ kinded.mailbox)

theorem Kinded.device (kinded : c.Kinded) (d : Device) : ({ c with device := d } : Context).Kinded :=
  ⟨(storesKept_blind.device c d).2 kinded.stored, kinded.slots, kinded.mailbox⟩

def KindsKept (c c' : Context) : Prop := c.Kinded → c'.Kinded

theorem kindsKept_timeline : TimelineBlind KindsKept where
  refl _ := id
  trans _ _ _ first second := second ∘ first
  device c d kinded := kinded.device d
  timeline c i f handle kinded := by
    obtain ⟨size, stored⟩ := storesKept_blind.timeline c i f handle
    exact ⟨stored kinded.stored, size ▸ kinded.slots, kinded.mailbox⟩

section Frames

variable {f : Frame}

theorem Kinded.beginFrame (kinded : c.Kinded) (run : beginFrame.run c = .ok f c') : c'.Kinded := by
  obtain ⟨-, -, ring⟩ := ring_beginFrame run
  refine kinded.of_blind storesKept_blind.respects_beginFrame run ?_ (by rw [ring]; exact kinded.mailbox)
  rw [ring]
  exact forall_mem_modify _ kinded.slots fun _ kept => kept.cleared

theorem Kinded.surface {o : Option Handle} (kinded : c.Kinded) (run : (surface f).run c = .ok o c') : c'.Kinded := by
  obtain ⟨slots, mailbox, -⟩ := ring_surface run
  exact kinded.of_ring (storesKept_blind.respects_surface f) run slots mailbox

theorem Kinded.scratch {name : String} {size : UInt64} {usage : BufferUsage} {b : Scratch} (kinded : c.Kinded)
    (run : (scratch f name size usage).run c = .ok b c') : c'.Kinded := by
  have ring := ring_scratch run
  have made := scratch_kind run
  refine kinded.of_blind (storesKept_blind.respects_scratch f name size usage) run ?_ (by rw [ring]; exact kinded.mailbox)
  rw [ring]
  refine forall_mem_modify _ kinded.slots fun s kept => ⟨kept.frame, fun h member => ?_, kept.deferred, kept.waiter⟩
  rcases List.mem_append.mp member with old | new
  · exact kept.transient h old
  · exact .inl (List.mem_singleton.mp new ▸ made)

theorem Kinded.commandBuffer {name : String} {h : Handle} (kinded : c.Kinded)
    (run : (commandBuffer f name).run c = .ok h c') : c'.Kinded := by
  have ring := ring_commandBuffer run
  have made := commandBuffer_kind run
  refine kinded.of_blind (storesKept_blind.respects_commandBuffer f name) run ?_ (by rw [ring]; exact kinded.mailbox)
  rw [ring]
  refine forall_mem_modify _ kinded.slots fun s kept => ⟨kept.frame, fun h' member => ?_, kept.deferred, kept.waiter⟩
  rcases List.mem_append.mp member with old | new
  · exact kept.transient h' old
  · exact .inr (List.mem_singleton.mp new ▸ made)

theorem Kinded.waitPoint {p : SyncPoint} (kinded : c.Kinded) (run : (waitPoint p).run c = .ok () c') : c'.Kinded := by
  simp only [Context.waitPoint, modifyFrame, modifyRing, EStateM.run_modify, EStateM.Result.ok.injEq] at run
  obtain ⟨-, rfl⟩ := run
  exact ⟨(storesKept_blind.ring c _).2 kinded.stored, kinded.slots, kinded.mailbox⟩

theorem Kinded.signalTicket {t : Ticket} (kinded : c.Kinded) (run : (signalTicket t).run c = .ok () c') :
    c'.Kinded := by
  simp only [Context.signalTicket, modifyFrame, modifyRing, EStateM.run_modify, EStateM.Result.ok.injEq] at run
  obtain ⟨-, rfl⟩ := run
  exact ⟨(storesKept_blind.ring c _).2 kinded.stored, kinded.slots, kinded.mailbox⟩

theorem Kinded.deferDestroy {d : Destroyer} (kinded : c.Kinded) (destroys : d.Kinded)
    (run : (deferDestroy f d).run c = .ok () c') : c'.Kinded := by
  rw [run_deferDestroy, EStateM.Result.ok.injEq] at run
  obtain ⟨-, rfl⟩ := run
  refine ⟨(storesKept_blind.ring c _).2 kinded.stored, ?_, kinded.mailbox⟩
  refine forall_mem_modify _ kinded.slots fun s kept => ⟨kept.frame, kept.transient, fun d' member => ?_, kept.waiter⟩
  rcases List.mem_append.mp member with old | new
  · exact kept.deferred d' old
  · exact List.mem_singleton.mp new ▸ destroys

theorem Kinded.queueDestroy {d : Destroyer} (kinded : c.Kinded) (destroys : d.Kinded)
    (run : (queueDestroy d).run c = .ok () c') : c'.Kinded := by
  rw [run_queueDestroy, EStateM.Result.ok.injEq] at run
  obtain ⟨-, rfl⟩ := run
  refine ⟨(storesKept_blind.ring c _).2 kinded.stored, kinded.slots, fun d' member => ?_⟩
  rcases List.mem_append.mp member with old | new
  · exact kinded.mailbox d' old
  · exact List.mem_singleton.mp new ▸ destroys

theorem Kinded.cancel (kinded : c.Kinded) (run : (cancel f).run c = .ok () c') : c'.Kinded := by
  obtain ⟨-, ring⟩ := ring_cancel run
  refine kinded.of_blind (storesKept_blind.respects_cancel f) run ?_ (by rw [ring]; exact kinded.mailbox)
  rw [ring]
  exact forall_mem_modify _ kinded.slots fun s kept =>
    ⟨kept.frame, kept.transient, kept.deferred, fun _ none => absurd none (Option.not_mem_none _)⟩

theorem Kinded.dropFrame (kinded : c.Kinded) (run : (dropFrame f).run c = .ok () c') : c'.Kinded := by
  unfold Context.dropFrame at run
  split at run
  · obtain ⟨_, c₁, closed, dropped⟩ := Act.run_bind_ok run
    have ring : c'.ring = { c.ring with
        slots := c.ring.slots.modify f.index (fun s => { s with waiter := none }), recording := none } := by
      rw [ring_dropTickets dropped, ring_closeUnsubmitted closed]
    refine kinded.of_blind (storesKept_blind.respects_dropFrame f) (by unfold Context.dropFrame; rwa [if_pos ‹_›])
      ?_ (by rw [ring]; exact kinded.mailbox)
    rw [ring]
    exact forall_mem_modify _ kinded.slots fun s kept =>
      ⟨kept.frame, kept.transient, kept.deferred, fun _ none => absurd none (Option.not_mem_none _)⟩
  · simp only [Act.run_onFault, Act.run_fail] at run
    split at run <;> cases run

theorem Kinded.endFrame {w : Option Waiter} {ds : List Destroyer} (kinded : c.Kinded)
    (waiter : ∀ x ∈ w, x.timeline < c.timelines.size) (destroys : ∀ d ∈ ds, d.Kinded)
    (run : (endFrame f w ds).run c = .ok () c') : c'.Kinded := by
  obtain ⟨slots, mailbox, -⟩ := ring_endFrame run
  refine kinded.of_blind (storesKept_blind.respects_endFrame f w ds) run ?_ (by rw [mailbox]; simp)
  rw [slots]
  refine forall_mem_modify _ kinded.slots fun s kept => ⟨kept.frame, kept.transient, fun d member => ?_, waiter⟩
  rcases List.mem_append.mp member with parked | given
  · rcases List.mem_append.mp parked with old | posted
    · exact kept.deferred d old
    · exact kinded.mailbox d posted
  · exact destroys d given

theorem Kinded.waitAll {res : Except Error Nat} (kinded : c.Kinded) (run : waitAll.run c = .ok res c') : c'.Kinded := by
  cases busy : c.ring.recording with
  | some f' =>
    simp only [Context.waitAll, EStateM.run_bind, EStateM.run_get, busy, Option.isSome_some, if_true,
      EStateM.run_pure, EStateM.Result.ok.injEq] at run
    obtain ⟨-, rfl⟩ := run
    exact kinded
  | none =>
    have ring := ring_waitAll busy run
    refine kinded.of_blind storesKept_blind.respects_waitAll run ?_ (by rw [ring]; simp)
    rw [ring]
    intro s member
    obtain ⟨s₀, old, rfl⟩ := List.mem_map.mp member
    exact (kinded.slots s₀ old).cleared

theorem Kinded.of_slots (kinded : c.Kinded) {r : Ring} (slots : r.slots = c.ring.slots)
    (mailbox : r.mailbox = c.ring.mailbox) : ({ c with ring := r } : Context).Kinded :=
  ⟨(storesKept_blind.ring c r).2 kinded.stored, slots ▸ kinded.slots, mailbox ▸ kinded.mailbox⟩

theorem Kinded.resize {width height : UInt32} (kinded : c.Kinded) (run : (resize width height).run c = .ok () c') :
    c'.Kinded := by
  obtain ⟨_, c₁, extent, run⟩ := Act.run_bind_ok run
  rw [EStateM.run_modify, EStateM.Result.ok.injEq] at extent
  obtain ⟨-, rfl⟩ := extent
  have sized : ({ c with extent := (width, height) } : Context).Kinded :=
    ⟨(storesKept_blind.extent c _).2 kinded.stored, kinded.slots, kinded.mailbox⟩
  split at run
  · rw [modifyRing, EStateM.run_modify, EStateM.Result.ok.injEq] at run
    obtain ⟨-, rfl⟩ := run
    exact sized.of_slots rfl rfl
  · obtain ⟨res, c₂, waited, run⟩ := Act.run_bind_ok run
    obtain ⟨_, c₃, checked, woken⟩ := Act.run_bind_ok run
    -- a refused wait fails the resize; a finished one is where the ring wakes
    obtain rfl : c₃ = c₂ := by
      cases res with
      | error e => simp [Act.orFail] at checked
      | ok m =>
        simp only [Act.orFail, Act.run_discard, EStateM.run_pure, EStateM.Result.ok.injEq] at checked
        exact checked.2.symm
    rw [modifyRing, EStateM.run_modify, EStateM.Result.ok.injEq] at woken
    obtain ⟨-, rfl⟩ := woken
    exact (sized.waitAll waited).of_slots rfl rfl

theorem Kinded.resizeRing {n : Nat} {res : Except Error Unit} (kinded : c.Kinded)
    (run : (resizeRing n).run c = .ok res c') : c'.Kinded := by
  by_cases zero : n = 0
  · simp only [Context.resizeRing, zero, if_true, EStateM.run_pure, EStateM.Result.ok.injEq] at run
    obtain ⟨-, rfl⟩ := run
    exact kinded
  cases busy : c.ring.recording with
  | some f =>
    simp only [Context.resizeRing, zero, if_false, EStateM.run_bind, EStateM.run_get, busy, Option.isSome_some,
      if_true, EStateM.run_pure, EStateM.Result.ok.injEq] at run
    obtain ⟨-, rfl⟩ := run
    exact kinded
  | none =>
    obtain ⟨mailbox, -, -, fresh, empty, slots, -⟩ := ring_resizeRing (Nat.pos_of_ne_zero zero) busy run
    refine kinded.of_blind (storesKept_blind.respects_resizeRing n) run ?_ (mailbox ▸ kinded.mailbox)
    rw [slots]
    intro s member
    rcases List.mem_append.mp member with kept | made
    · obtain ⟨s₀, old, rfl⟩ := List.mem_map.mp (List.mem_of_mem_take kept)
      exact (kinded.slots s₀ old).cleared
    · obtain ⟨deferred, transient, waiter, frame⟩ := empty s made
      refine ⟨frame, fun h none => ?_, fun d none => ?_, fun w none => ?_⟩
      · exact absurd (transient ▸ none) List.not_mem_nil
      · exact absurd (deferred ▸ none) List.not_mem_nil
      · exact absurd (waiter ▸ none) (Option.not_mem_none _)

theorem Kinded.setFramesInFlight {n : UInt32} {res : Except Error Unit} (kinded : c.Kinded)
    (run : (setFramesInFlight n).run c = .ok res c') : c'.Kinded := by
  simp only [Context.setFramesInFlight, EStateM.run_bind, EStateM.run_get] at run
  exact kinded.resizeRing run

end Frames

theorem Kinded.newTimeline {name : String} {r : Except Error Nat} (kinded : c.Kinded)
    (run : (newTimeline name).run c = .ok r c') : c'.Kinded := by
  obtain ⟨created, c₁, device, run⟩ := Act.run_bind_ok run
  obtain ⟨d, made, rfl⟩ := run_device_ok device
  have kinded₁ := kinded.device d
  cases created with
  | error f =>
    simp only [EStateM.run_pure, EStateM.Result.ok.injEq] at run
    obtain ⟨-, rfl⟩ := run
    exact kinded₁
  | ok h =>
    simp only [EStateM.run_bind, EStateM.run_get, EStateM.run_set, EStateM.run_pure, EStateM.Result.ok.injEq] at run
    obtain ⟨-, rfl⟩ := run
    have semaphore := Device.create_kind made
    refine ⟨⟨kinded₁.stored.cached, kinded₁.stored.banks, kinded₁.stored.jobs, fun h' listed => ?_⟩,
      fun s member => (kinded₁.slots s member).mono (by simp), kinded₁.mailbox⟩
    simp only [Array.toList_push, List.map_append, List.mem_append, List.mem_singleton, List.map_cons,
      List.map_nil] at listed
    rcases listed with old | rfl
    · exact kinded₁.stored.timelines h' old
    · exact semaphore

section Caches

theorem Kinded.setCache (kinded : c.Kinded) (role : CacheRole) {o : ObjectCache}
    (entries : ∀ e ∈ o.entries, e.2.kind = role.kind) : (c.setCache role o).Kinded := by
  have cached : ∀ role', ∀ e ∈ ((c.setCache role o).cache role').entries, e.2.kind = role'.kind := by
    intro role'
    by_cases same : role' = role
    · subst same
      rw [cache_setCache]
      exact entries
    · have other : (c.setCache role o).cache role' = c.cache role' := by
        cases role <;> cases role' <;> first | rfl | exact absurd rfl same
      rw [other]
      exact kinded.stored.cached role'
  cases role <;>
    exact ⟨⟨cached, kinded.stored.banks, kinded.stored.jobs, kinded.stored.timelines⟩, kinded.slots, kinded.mailbox⟩

theorem Kinded.resolve {role : CacheRole} {k : Key} {context : String} {m : Act Device (Except DeviceFailure Handle)}
    {h : Handle} {outcome : Outcome} (kinded : c.Kinded) (makes : ∀ d h d', m.run d = .ok (.ok h) d' → h.kind = role.kind)
    (run : (resolve role k context (device! m)).run c = .ok (h, outcome) c') : c'.Kinded := by
  rcases resolve_ok_cases c role k context run with ⟨-, -, rfl⟩ | ⟨-, -, d, made, rfl⟩
  · exact kinded.setCache role (kinded.stored.cached role)
  · refine (kinded.device d).setCache role fun e member => ?_
    rcases List.mem_append.mp member with old | new
    · exact kinded.stored.cached role e old
    · rw [List.mem_singleton.mp new]
      exact makes _ _ _ made

theorem respects_cached (role : CacheRole) (k : Key) (context : String) :
    Act.Respects KindsKept (cached role k context (device! (Device.create role.kind))) := by
  intro c h c' run kinded
  rw [Context.cached, Act.run_map] at run
  split at run
  · next resolved =>
    cases run
    exact kinded.resolve (fun _ _ _ made => Device.create_kind made) resolved
  · cases run

theorem respects_setLayout (slots : List (Option LayoutBinding)) : Act.Respects KindsKept (setLayout slots) := by
  unfold setLayout
  exact kindsKept_timeline.bind (respects_cached .setLayouts _ _) fun _ => kindsKept_timeline.pure _

theorem respects_pipelineLayout (stages : List StageInterface) :
    Act.Respects KindsKept (pipelineLayout stages) := by
  unfold pipelineLayout
  split
  · exact kindsKept_timeline.pure _
  · refine kindsKept_timeline.bind (Act.Respects.mapM kindsKept_timeline.refl kindsKept_timeline.trans _
      respects_setLayout) fun _ => ?_
    exact kindsKept_timeline.bind (respects_cached .pipelineLayouts _ _) fun _ => kindsKept_timeline.pure _

theorem respects_createPipeline (desc : PipelineDesc) : Act.Respects KindsKept (createPipeline desc) := by
  unfold createPipeline
  exact kindsKept_timeline.bind (respects_cached .pipelines _ _) fun _ => kindsKept_timeline.pure _

theorem respects_modifyRelinks {f : Relinks → Relinks} (sub : ∀ r, List.Sublist (f r).jobs r.jobs) :
    Act.Respects KindsKept (modifyRelinks f) := by
  exact Act.Respects.of_modify fun c kinded => ⟨kinded.stored.congr (fun _ => rfl) rfl
    (fun j member => (sub _).subset member) rfl, kinded.slots, kinded.mailbox⟩

theorem respects_startJob : Act.Respects KindsKept startJob := by
  unfold startJob
  refine kindsKept_timeline.get_bind fun _ => Act.Respects.ite ?_ (kindsKept_timeline.pure _)
  refine kindsKept_timeline.bind (kindsKept_timeline.respects_device _) fun _ => Act.Respects.ite ?_ ?_
  · exact kindsKept_timeline.bind (respects_modifyRelinks fun _ => List.eraseIdx_sublist _ _) fun _ =>
      kindsKept_timeline.pure _
  · exact kindsKept_timeline.bind (respects_modifyRelinks fun _ => List.Sublist.refl _) fun _ =>
      kindsKept_timeline.pure _

theorem respects_startJobs : Act.Respects KindsKept startJobs := by
  unfold startJobs
  refine kindsKept_timeline.get_bind fun _ => kindsKept_timeline.bind ?_ fun _ => kindsKept_timeline.pure _
  exact kindsKept_timeline.respects_forIn _ _ fun _ _ => respects_startJob

theorem Kinded.link {layout : PipelineLayout} {libs : List Pipeline} {p : Pipeline} (kinded : c.Kinded)
    (run : (link layout libs).run c = .ok p c') : c'.Kinded := by
  cases found : c.pipelines.find? (linkKey layout libs) with
  | some h =>
    rw [run_link_hit c layout libs h found, EStateM.Result.ok.injEq] at run
    obtain ⟨-, rfl⟩ := run
    exact kinded.setCache .pipelines (kinded.stored.cached .pipelines)
  | none =>
    -- the fast link is a new pipeline, cached under the key
    have fast : (linkedFast c (linkKey layout libs)).Kinded := by
      refine (kinded.device _).setCache .pipelines fun e member => ?_
      rcases List.mem_append.mp member with old | new
      · exact kinded.stored.cached .pipelines e old
      · rw [List.mem_singleton.mp new]
        rfl
    have queued : ({ linkedFast c (linkKey layout libs) with relinks := { c.relinks with jobs := c.relinks.jobs ++
        [{ key := linkKey layout libs, name := linkName (linkKey layout libs), fast := ⟨.pipeline, c.device.next⟩ }] } } :
        Context).Kinded := by
      refine ⟨⟨fast.stored.cached, fast.stored.banks, fun j member => ?_, fast.stored.timelines⟩, fast.slots, fast.mailbox⟩
      rcases List.mem_append.mp member with old | new
      · exact kinded.stored.jobs j old
      · rw [List.mem_singleton.mp new]
    cases optimized : c.device.fastLinksOptimized with
    | true =>
      rw [run_link_optimized c layout libs found optimized, EStateM.Result.ok.injEq] at run
      obtain ⟨-, rfl⟩ := run
      exact fast
    | false =>
      cases held : c.device.holdOptimized with
      | false =>
        rw [run_link_queued c layout libs found optimized held, EStateM.Result.ok.injEq] at run
        obtain ⟨-, rfl⟩ := run
        exact queued
      | true =>
        obtain ⟨c₁, started, -⟩ := run_startJobs { linkedFast c (linkKey layout libs) with relinks := { c.relinks with
          jobs := c.relinks.jobs ++
            [{ key := linkKey layout libs, name := linkName (linkKey layout libs), fast := ⟨.pipeline, c.device.next⟩ }] } }
        rw [run_link_held c layout libs found optimized held c₁ started, EStateM.Result.ok.injEq] at run
        obtain ⟨-, rfl⟩ := run
        exact respects_startJobs _ _ _ started queued

theorem Kinded.evict {fragment : String} {n : Nat} (kinded : c.Kinded) (run : (evict fragment).run c = .ok n c') :
    c'.Kinded := by
  rw [run_evict, EStateM.Result.ok.injEq] at run
  obtain ⟨-, rfl⟩ := run
  have kept := kinded.setCache .pipelines (o := (c.pipelines.removeMatching (·.hasField fragment)).2)
    fun e member => kinded.stored.cached .pipelines e (List.mem_of_mem_filter member)
  refine ⟨kept.stored.congr (fun _ => rfl) rfl (fun _ => id) rfl, kept.slots, fun d member => ?_⟩
  rcases List.mem_append.mp member with old | posted
  · exact kinded.mailbox d old
  · obtain ⟨e, taken, rfl⟩ := List.mem_map.mp posted
    exact kinded.stored.cached .pipelines e (List.mem_of_mem_filter taken)

theorem respects_swapIn {job : RelinkJob} {optimized : Handle} (fast : job.fast.kind = .pipeline)
    (pipeline : optimized.kind = .pipeline) : Act.Respects KindsKept (swapIn job optimized) := by
  intro c u c' run kinded
  by_cases found : c.pipelines.find? job.key = some job.fast
  · rw [run_swapIn_swapped c job optimized found, EStateM.Result.ok.injEq] at run
    obtain ⟨-, rfl⟩ := run
    have swapped := kinded.setCache .pipelines
      (o := { c.pipelines with entries := ObjectCache.swapEntries c.pipelines.entries job.key optimized })
      fun e member => by
        obtain ⟨e₀, old, rfl⟩ := List.mem_map.mp member
        split
        · exact pipeline
        · exact kinded.stored.cached .pipelines e₀ old
    refine ⟨swapped.stored.congr (fun _ => rfl) rfl (fun _ => id) rfl, swapped.slots,
      fun d member => ?_⟩
    rcases List.mem_append.mp member with old | posted
    · exact kinded.mailbox d old
    · rw [List.mem_singleton.mp posted]
      exact fast
  · simp only [swapIn, EStateM.run_bind, EStateM.run_get, ObjectCache.replaceIf_of_ne _ _ _ _ found,
      EStateM.run_modify, Bool.false_eq_true, if_false] at run
    obtain ⟨d, -, rfl⟩ := run_device_ok run
    exact kinded.device d

theorem respects_finishJob {job : RelinkJob} (fast : job.fast.kind = .pipeline) :
    Act.Respects KindsKept (finishJob job) := by
  intro c u c' run kinded
  rw [run_finishJob] at run
  exact respects_swapIn fast rfl _ _ _ run (kinded.device _)

theorem respects_flushRelinks : Act.Respects KindsKept flushRelinks := by
  intro c u c' run kinded
  have fast := kinded.stored.jobs
  rw [Context.flushRelinks, EStateM.run_bind, EStateM.run_get] at run
  dsimp only at run
  refine (?_ : Act.Respects KindsKept _) c u c' run kinded
  refine kindsKept_timeline.bind (respects_modifyRelinks fun _ => List.nil_sublist _) fun _ =>
    kindsKept_timeline.get_bind fun _ => Act.Respects.ite ?_ ?_
  · exact Act.Respects.ite (Act.Respects.discard (kindsKept_timeline.respects_device _)) (kindsKept_timeline.pure _)
  · refine kindsKept_timeline.bind ?_ fun _ => kindsKept_timeline.pure _
    refine Act.Respects.forIn_mem kindsKept_timeline.refl kindsKept_timeline.trans _ _ fun x member _ => ?_
    obtain ⟨job, i⟩ := x
    have pipeline := fast job (List.fst_mem_of_mem_zipIdx member)
    dsimp only
    have finished := kindsKept_timeline.bind (respects_finishJob pipeline) fun _ => kindsKept_timeline.pure (ForInStep.yield ())
    exact Act.Respects.ite finished (kindsKept_timeline.bind (kindsKept_timeline.respects_device _) fun _ =>
      Act.Respects.ite (kindsKept_timeline.pure _) finished)

end Caches

section Pools

theorem Kinded.setBanks (kinded : c.Kinded) (k : Key) {banks : List Bank}
    (given : ∀ h ∈ banks.map (·.handle), h.kind = .pool) :
    ({ c with pools := c.pools.setBanks k banks } : Context).Kinded := by
  refine ⟨⟨kinded.stored.cached, fun h listed => ?_, kinded.stored.jobs, kinded.stored.timelines⟩, kinded.slots,
    kinded.mailbox⟩
  rcases Pools.handle_mem_setBanks listed with old | new
  · exact kinded.stored.banks h old
  · exact given h new

theorem Kinded.bank_kind (kinded : c.Kinded) {k : Key} {h : Handle} (listed : h ∈ (c.pools.banks k).map (·.handle)) :
    h.kind = .pool := by
  obtain ⟨b, member, rfl⟩ := List.mem_map.mp listed
  exact kinded.stored.banks _ (List.mem_map_of_mem (c.pools.mem_allBanks k b member))

theorem Kinded.newBank {layout : SetLayout} {index : Nat} {r : Except Error Bank} (kinded : c.Kinded)
    (run : (newBank layout index).run c = .ok r c') : c'.Kinded ∧ ∀ b, r = .ok b → b.handle.kind = .pool := by
  unfold Context.newBank at run
  simp only [EStateM.run_bind, EStateM.run_get] at run
  split at run
  · simp only [EStateM.run_pure, EStateM.Result.ok.injEq] at run
    obtain ⟨rfl, rfl⟩ := run
    exact ⟨kinded, fun _ none => by cases none⟩
  · obtain ⟨made, c₁, device, run⟩ := Act.run_bind_ok run
    obtain ⟨d, created, rfl⟩ := run_device_ok device
    cases made with
    | error f =>
      simp only [EStateM.run_pure, EStateM.Result.ok.injEq] at run
      obtain ⟨rfl, rfl⟩ := run
      exact ⟨kinded.device d, fun _ none => by cases none⟩
    | ok h =>
      simp only [modifyPools, EStateM.run_bind, EStateM.run_get, EStateM.run_modify, EStateM.run_pure,
        EStateM.Result.ok.injEq] at run
      obtain ⟨rfl, rfl⟩ := run
      refine ⟨⟨⟨kinded.stored.cached, kinded.stored.banks, kinded.stored.jobs, kinded.stored.timelines⟩, kinded.slots,
        kinded.mailbox⟩, fun b made => ?_⟩
      cases made
      exact Device.create_kind created

theorem Kinded.bankFor {layout : SetLayout} {r : Except Error Nat} (kinded : c.Kinded)
    (run : (bankFor layout).run c = .ok r c') : c'.Kinded := by
  unfold Context.bankFor at run
  obtain ⟨_, c₁, widened, run⟩ := Act.run_bind_ok run
  simp only [modifyPools, EStateM.run_modify, EStateM.Result.ok.injEq] at widened
  obtain ⟨-, rfl⟩ := widened
  have kinded₁ : ({ c with pools := c.pools.setBanks layout.key (c.pools.banks layout.key) } : Context).Kinded :=
    kinded.setBanks layout.key fun _ listed => kinded.bank_kind listed
  simp only [EStateM.run_bind, EStateM.run_get] at run
  split at run
  · simp only [EStateM.run_pure, EStateM.Result.ok.injEq] at run
    obtain ⟨-, rfl⟩ := run
    exact kinded₁
  · obtain ⟨made, c₂, grown, run⟩ := Act.run_bind_ok run
    obtain ⟨kinded₂, pool⟩ := kinded₁.newBank grown
    cases made with
    | error e =>
      simp only [EStateM.run_pure, EStateM.Result.ok.injEq] at run
      obtain ⟨-, rfl⟩ := run
      exact kinded₂
    | ok b =>
      simp only [modifyPools, EStateM.run_bind, EStateM.run_modify, EStateM.run_pure, EStateM.Result.ok.injEq] at run
      obtain ⟨-, rfl⟩ := run
      refine kinded₂.setBanks layout.key fun h listed => ?_
      rw [List.map_append, List.mem_append] at listed
      rcases listed with old | new
      · exact kinded₁.bank_kind old
      · rw [List.map_singleton, List.mem_singleton] at new
        exact new ▸ pool b rfl

theorem Kinded.allocate {layout : SetLayout} {r : Except Error DescriptorSet} (kinded : c.Kinded)
    (run : (allocate layout).run c = .ok r c') : c'.Kinded := by
  unfold Context.allocate at run
  obtain ⟨index, c₁, placed, run⟩ := Act.run_bind_ok run
  have kinded₁ := kinded.bankFor placed
  cases index with
  | error e =>
    simp only [EStateM.run_pure, EStateM.Result.ok.injEq] at run
    obtain ⟨-, rfl⟩ := run
    exact kinded₁
  | ok i =>
    simp only [EStateM.run_bind, EStateM.run_get] at run
    have kept : ∀ f : Bank → Bank, (∀ b, (f b).handle = b.handle) →
        ∀ h ∈ ((c₁.pools.banks layout.key).set i (f ((c₁.pools.banks layout.key)[i]?.getD default))).map (·.handle),
          h.kind = .pool := by
      intro f same h listed
      rw [Pools.handles_set fun b' found => by rw [found, Option.getD_some, same]] at listed
      exact kinded₁.bank_kind listed
    split at run
    · simp only [modifyPools, EStateM.run_bind, EStateM.run_modify, EStateM.run_pure, EStateM.Result.ok.injEq] at run
      obtain ⟨-, rfl⟩ := run
      exact kinded₁.setBanks _ (kept (fun b => { b with free := b.free.dropLast }) fun _ => rfl)
    · obtain ⟨made, c₂, device, run⟩ := Act.run_bind_ok run
      obtain ⟨d, -, rfl⟩ := run_device_ok device
      cases made with
      | error f =>
        simp only [EStateM.run_pure, EStateM.Result.ok.injEq] at run
        obtain ⟨-, rfl⟩ := run
        exact kinded₁.device d
      | ok h =>
        simp only [modifyPools, EStateM.run_bind, EStateM.run_modify, EStateM.run_pure, EStateM.Result.ok.injEq] at run
        obtain ⟨-, rfl⟩ := run
        exact (kinded₁.device d).setBanks _ (kept (fun b => { b with len := b.len + 1 }) fun _ => rfl)

theorem respects_write (s : DescriptorSet) (binding first : UInt32) (resources : List Resource) :
    Act.Respects KindsKept (write s binding first resources) := by
  unfold write
  split
  · exact kindsKept_timeline.pure _
  · exact kindsKept_timeline.bind (kindsKept_timeline.respects_device _) fun _ => kindsKept_timeline.pure _

theorem respects_destroyPools : Act.Respects KindsKept destroyPools := by
  unfold Context.destroyPools modifyPools
  refine kindsKept_timeline.get_bind fun _ => kindsKept_timeline.bind (Act.Respects.of_modify fun c kinded =>
    ⟨⟨kinded.stored.cached, fun _ none => by simp [Pools.allBanks] at none, kinded.stored.jobs,
      kinded.stored.timelines⟩, kinded.slots, kinded.mailbox⟩) fun _ => ?_
  refine kindsKept_timeline.bind (kindsKept_timeline.respects_forIn _ _ fun _ _ => ?_) fun _ => kindsKept_timeline.pure _
  exact kindsKept_timeline.bind (kindsKept_timeline.respects_device _) fun _ => kindsKept_timeline.pure _

end Pools

section Lifecycle

theorem respects_of_ring {x : Act Context α} (stores : Act.Respects StoresKept x) (ring : Keeps (·.ring) x) :
    Act.Respects KindsKept x := fun c _ c' run kinded =>
  kinded.of_ring stores run (congrArg Ring.slots (ring c _ c' run)) (congrArg Ring.mailbox (ring c _ c' run))

theorem Kinded.waitSlot {i n : Nat} (kinded : c.Kinded) (run : (waitSlot i).run c = .ok n c') : c'.Kinded := by
  have ring := ring_waitSlot run
  refine kinded.of_blind (storesKept_blind.respects_waitSlot i) run ?_ (by rw [ring]; exact kinded.mailbox)
  rw [ring]
  exact forall_mem_modify _ kinded.slots fun _ kept => kept.cleared

theorem Kinded.destroyRing {n : Nat} (kinded : c.Kinded) (run : destroyRing.run c = .ok n c') : c'.Kinded := by
  have ring := ring_destroyRing run
  exact kinded.of_blind storesKept_blind.respects_destroyRing run (by rw [ring]; simp) (by rw [ring]; simp)

theorem respects_destroyCache (role : CacheRole) : Act.Respects KindsKept (destroyCache role) := by
  unfold destroyCache
  refine kindsKept_timeline.get_bind fun c => ?_
  dsimp only [ObjectCache.drain]
  refine kindsKept_timeline.bind (Act.Respects.of_modify fun c' kinded =>
    kinded.setCache role fun _ none => absurd none List.not_mem_nil) fun _ => ?_
  exact kindsKept_timeline.bind (kindsKept_timeline.respects_forIn _ _ fun _ _ =>
    kindsKept_timeline.bind (kindsKept_timeline.respects_device _) fun _ => kindsKept_timeline.pure _) fun _ =>
      kindsKept_timeline.pure _

theorem respects_destroyPipelines : Act.Respects KindsKept destroyPipelines :=
  kindsKept_timeline.bind respects_flushRelinks fun _ => respects_destroyCache .pipelines

theorem respects_teardown : Act.Respects KindsKept teardown := by
  unfold teardown
  refine kindsKept_timeline.get_bind fun _ => Act.Respects.ite (kindsKept_timeline.pure _) ?_
  refine kindsKept_timeline.bind (Act.Respects.of_modify fun c kinded => ⟨⟨kinded.stored.cached, kinded.stored.banks,
    kinded.stored.jobs, kinded.stored.timelines⟩, kinded.slots, kinded.mailbox⟩) fun _ => Act.Respects.onFault ?_ _
  refine kindsKept_timeline.bind (kindsKept_timeline.respects_device _) fun _ =>
    kindsKept_timeline.bind respects_flushRelinks fun _ => ?_
  refine kindsKept_timeline.bind (fun _ _ _ run kinded => kinded.waitAll run) fun r =>
    kindsKept_timeline.bind (Act.Respects.discard (Act.Respects.orFail kindsKept_timeline.refl r)) fun _ => ?_
  refine kindsKept_timeline.bind (Act.Respects.discard respects_destroyPipelines) fun _ =>
    kindsKept_timeline.bind (Act.Respects.discard (respects_destroyCache _)) fun _ =>
      kindsKept_timeline.bind (Act.Respects.discard (respects_destroyCache _)) fun _ =>
        kindsKept_timeline.bind (Act.Respects.discard respects_destroyPools) fun _ => ?_
  exact Act.Respects.discard fun _ _ _ run kinded => kinded.destroyRing run

theorem emptySlot_turn {i : Nat} {β : Type} {k : Except Error Slot → Act Context (ForInStep (Option β × Unit))}
    {s : ForInStep (Option β × Unit)} (run : (newSlot i >>= k).run c = .ok s c')
    (appends : ∀ slot c, (k (.ok slot)).run c =
      .ok (.yield (none, ())) { c with ring := { c.ring with slots := c.ring.slots ++ [slot] } })
    (stops : ∀ e c, ∃ b, (k (.error e)).run c = .ok (.done (some b, ())) c) :
    (∃ fresh : Slot, (fresh.deferred = [] ∧ fresh.transient = [] ∧ fresh.waiter = none ∧ fresh.handle.kind = .frame) ∧
        c'.ring = { c.ring with slots := c.ring.slots ++ [fresh] } ∧ s = .yield (none, ())) ∨
      (c'.ring = c.ring ∧ ∃ e, s = .done (some e, ())) := by
  obtain ⟨made, c₁, madeRun, run⟩ := Act.run_bind_ok run
  obtain ⟨same, empty⟩ := newSlot_empty madeRun
  cases made with
  | ok slot =>
    rw [appends, EStateM.Result.ok.injEq] at run
    obtain ⟨rfl, rfl⟩ := run
    exact .inl ⟨slot, empty slot rfl, by simp [same], rfl⟩
  | error e =>
    obtain ⟨b, stopped⟩ := stops e c₁
    rw [stopped, EStateM.Result.ok.injEq] at run
    obtain ⟨rfl, rfl⟩ := run
    exact .inr ⟨same, _, rfl⟩

theorem kinded_start {d : Device} {settings : Settings} {r : Except Error Unit}
    (run : (start d settings).run c = .ok r c') : c'.Kinded := by
  simp only [start, EStateM.run_bind, EStateM.run_set] at run
  split at run
  · rename_i st c₁ created
    obtain ⟨fresh, empty, ring₁, -, -⟩ := ring_forIn_appends
      (fun s => s.deferred = [] ∧ s.transient = [] ∧ s.waiter = none ∧ s.handle.kind = .frame)
      (fun i b c s c' run => emptySlot_turn run (fun _ _ => rfl) fun e _ => ⟨.error e, rfl⟩) _ _ _ _ _ created
    -- besides the ring the loop only changes the device
    have stores := storesKept_blind.respects_forIn _ _ (fun i _ => by
      refine storesKept_blind.bind (storesKept_blind.respects_newSlot i) fun made => ?_
      cases made with
      | ok s => exact storesKept_blind.bind (Act.Respects.of_modify fun c => storesKept_blind.ring c _) fun _ =>
          storesKept_blind.pure _
      | error e => exact storesKept_blind.pure _) _ _ _ created
    have kinded₁ : c₁.Kinded := by
      refine ⟨stores.2 ⟨fun role => by cases role <;> exact fun _ none => absurd none List.not_mem_nil,
        fun _ none => absurd none List.not_mem_nil, fun _ none => absurd none List.not_mem_nil,
        fun _ none => absurd none List.not_mem_nil⟩, fun s member => ?_,
        by rw [ring₁]; exact fun _ none => absurd none List.not_mem_nil⟩
      rw [ring₁, List.nil_append] at member
      obtain ⟨deferred, transient, waiter, frame⟩ := empty s member
      refine ⟨frame, fun h none => ?_, fun d none => ?_, fun w none => ?_⟩
      · exact absurd (transient ▸ none) List.not_mem_nil
      · exact absurd (deferred ▸ none) List.not_mem_nil
      · exact absurd (waiter ▸ none) (Option.not_mem_none _)
    split at run <;> (rw [EStateM.run_pure, EStateM.Result.ok.injEq] at run; obtain ⟨-, rfl⟩ := run; exact kinded₁)
  · cases run

end Lifecycle

end Context

end RenderCore
