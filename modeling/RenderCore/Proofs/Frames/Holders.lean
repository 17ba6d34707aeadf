import RenderCore.Proofs.Timelines.Holders
import RenderCore.Proofs.Frames.Reclaim
import RenderCore.Proofs.Frames.Blind
namespace RenderCore

def Slot.parks (j : Nat) (s : Slot) : Bool :=
  s.waiter.any (·.timeline == j)

def Ticket.valuesOn (j : Nat) (ts : List Ticket) : List UInt64 :=
  (ts.filter (·.timeline == j)).map (·.point.value)

@[simp] theorem Ticket.valuesOn_nil (j : Nat) : Ticket.valuesOn j [] = [] := rfl

structure Slot.Clean (n : Nat) (s : Slot) : Prop where
  waiter : ∀ w ∈ s.waiter, w.timeline < n
  transient : ∀ x ∈ s.transient, x.kind ≠ .semaphore
  deferred : ∀ d ∈ s.deferred, ∀ x, d ≠ .destroy x
  handle : s.handle.kind ≠ .semaphore

theorem Slot.clean_of_empty {n : Nat} {s : Slot} (waiter : s.waiter = none) (transient : s.transient = [])
    (deferred : s.deferred = []) (handle : s.handle.kind ≠ .semaphore) : s.Clean n where
  waiter w member := absurd (waiter ▸ member) (Option.not_mem_none w)
  transient _ member := absurd (transient ▸ member) List.not_mem_nil
  deferred _ member := absurd (deferred ▸ member) List.not_mem_nil
  handle := handle

namespace Context

def parked (c : Context) (j : Nat) : Nat :=
  c.ring.slots.countP (Slot.parks j)

def framed (c : Context) (j : Nat) : Nat :=
  (c.ring.recording.map fun f => f.tickets.countP (·.timeline == j)).getD 0

structure Tracked (i : Nat) (h : Handle) (c : Context) : Prop where
  present : i < c.timelines.size
  handle : (c.timeline i).handle = h
  semaphore : h.kind = .semaphore
  apart : ∀ j < c.timelines.size, j ≠ i → (c.timeline j).handle ≠ h

structure Alive (c : Context) : Prop where
  tracked : ∀ j < c.timelines.size, Tracked j (c.timeline j).handle c
  live : ∀ j < c.timelines.size, 0 < (c.timeline j).holders → (c.timeline j).handle ∈ c.device.live
  filed : ∀ j < c.timelines.size, ∀ e ∈ c.device.poolSets, (c.timeline j).handle ∉ e.2

variable {i : Nat} {h : Handle} {c c' : Context}

theorem Tracked.of_handles (tracked : Tracked i h c) (size : c'.timelines.size = c.timelines.size)
    (handles : ∀ j, (c'.timeline j).handle = (c.timeline j).handle) : Tracked i h c' where
  present := size ▸ tracked.present
  handle := (handles i).trans tracked.handle
  semaphore := tracked.semaphore
  apart j present other := by
    rw [handles]
    exact tracked.apart j (size ▸ present) other

theorem Tracked.moves {i' k : Nat} {h' : Handle} {vs : List UInt64} (tracked : Tracked i h c)
    (moves : Moves i' h' k vs c c') : Tracked i h c' :=
  tracked.of_handles moves.size moves.handles

theorem Alive.moves (alive : Alive c)
    (moves : ∀ j < c.timelines.size, ∃ k vs, Moves j (c.timeline j).handle k vs c c') (size : c'.timelines.size = c.timelines.size) :
    Alive c' := by
  refine ⟨fun j present => ?_, fun j present held => ?_, fun j present => ?_⟩ <;>
    obtain ⟨k, vs, moved⟩ := moves j (size ▸ present) <;> rw [moved.handles]
  · exact (alive.tracked j (size ▸ present)).moves moved
  · have counted := moved.holders
    exact moved.live (alive.filed j (size ▸ present)) held (alive.live j (size ▸ present) (by omega))
  · exact moved.filed (alive.filed j (size ▸ present))

namespace Moves

theorem still_trans {k : Nat} {vs : List UInt64} {c₁ c₂ c₃ : Context} (first : Moves i h 0 [] c₁ c₂)
    (second : Moves i h k vs c₂ c₃) : Moves i h k vs c₁ c₃ := by
  simpa using first.trans second

theorem of_ring (r : Ring) : Moves i h 0 [] c { c with ring := r } :=
  of_same rfl rfl

end Moves

namespace MovesBy

variable {k k' : Nat} {vs vs' : List UInt64} {α : Type}

theorem congr {x : Act Context α} (same : k = k') (same' : vs = vs') (moves : MovesBy i h k vs x c) :
    MovesBy i h k' vs' x c :=
  same ▸ same' ▸ moves

theorem modifyRing (f : Ring → Ring) : MovesBy i h 0 [] (Context.modifyRing f) c :=
  modify (Moves.of_ring _)

theorem discard {x : Act Context α} (moves : MovesBy i h k vs x c) : MovesBy i h k vs (Functor.discard x) c := by
  intro u c' run
  rw [Act.run_discard] at run
  split at run
  · cases run
    exact moves _ _ ‹_›
  · cases run

theorem forIn_still {δ γ : Type} {f : δ → γ → Act Context (ForInStep γ)} (xs : List δ)
    (body : ∀ x ∈ xs, ∀ b c, MovesBy i h 0 [] (f x b) c) : ∀ b c, MovesBy i h 0 [] (forIn xs b f) c := by
  induction xs with
  | nil =>
    intro b c
    exact pure b
  | cons x rest ih =>
    intro b c
    rw [List.forIn_cons]
    refine bind_still (body x List.mem_cons_self b c) fun step c₁ _ _ => ?_
    cases step with
    | done b' => exact pure b'
    | yield b' => exact ih (fun y member => body y (List.mem_cons_of_mem x member)) b' c₁

end MovesBy

theorem movesBy_runDestroyer (d : Destroyer) (kept : ∀ x, d ≠ .destroy x) : MovesBy i h 0 [] (runDestroyer d) c := by
  cases d with
  | release s => exact MovesBy.modify (Moves.of_same rfl rfl)
  | destroy x => exact absurd rfl (kept x)
  | note id => exact MovesBy.device (Device.spares_record _ (by simp))

theorem movesBy_runDestroyers (ds : List Destroyer) (kept : ∀ d ∈ ds, ∀ x, d ≠ .destroy x) :
    MovesBy i h 0 [] (runDestroyers ds) c := by
  unfold runDestroyers
  refine MovesBy.bind_still (MovesBy.forIn_still ds (fun d member _ c => ?_) _ c) fun _ _ _ _ => MovesBy.pure _
  exact MovesBy.bind_still (movesBy_runDestroyer d (kept d member)) fun _ _ _ _ => MovesBy.pure _

theorem Slot.clean_default (n : Nat) : (default : Slot).Clean n :=
  Slot.clean_of_empty rfl rfl rfl (by decide)

section Reclaim

variable {n : Nat} (s : Slot)

theorem movesBy_destroyTransient (semaphore : h.kind = .semaphore) (hs : List Handle)
    (clean : ∀ x ∈ hs, x.kind ≠ .semaphore) : MovesBy i h 0 [] (destroyTransient hs) c := by
  unfold destroyTransient
  refine MovesBy.bind_still (MovesBy.forIn_still _ (fun x made _ c => ?_) _ c) fun _ _ _ _ => MovesBy.pure _
  refine MovesBy.bind_still (MovesBy.device (Device.spares_destroy fun same => ?_)) fun _ _ _ _ => MovesBy.pure _
  exact clean x made (same ▸ semaphore)

theorem movesBy_awaitSlot_idle (idle : s.waiter = none) : MovesBy i h 0 [] (awaitSlot s) c := by
  unfold awaitSlot
  rw [idle]
  exact MovesBy.device (Device.spares_wait _)

theorem movesBy_awaitSlot (tracked : Tracked i h c) (clean : s.Clean c.timelines.size)
    (held : s.parks i → 0 < (c.timeline i).holders) :
    MovesBy i h (if s.parks i then 1 else 0) [] (awaitSlot s) c := by
  cases waiting : s.waiter with
  | none =>
    have idle : s.parks i = false := by simp [Slot.parks, waiting]
    rw [idle]
    exact movesBy_awaitSlot_idle s waiting
  | some w =>
    unfold awaitSlot
    rw [waiting]
    dsimp only
    have present := clean.waiter w (by simp [waiting])
    by_cases mine : w.timeline = i
    · subst mine
      have parks : s.parks w.timeline = true := by simp [Slot.parks, waiting]
      rw [if_pos parks]
      refine MovesBy.bind_still ((movesBy_waitFor _ _).onFault _) fun _ c₁ _ waited => ?_
      have counted := waited.holders
      exact movesBy_letGo_self (waited.size ▸ tracked.present) ((waited.handles _).trans tracked.handle)
        (by have := held parks; omega)
    · have parks : s.parks i = false := by simp [Slot.parks, waiting, mine]
      rw [parks]
      refine MovesBy.bind_still ((movesBy_waitFor _ _).onFault _) fun _ c₁ _ waited => ?_
      refine movesBy_letGo_other mine ?_
      rw [waited.handles]
      exact tracked.apart _ present mine

theorem movesBy_destroySlot (semaphore : h.kind = .semaphore) (clean : s.Clean n) (idle : s.waiter = none) :
    MovesBy i h 0 [] (destroySlot s) c := by
  unfold destroySlot reclaim
  refine MovesBy.bind_still (MovesBy.bind_still (movesBy_awaitSlot_idle s idle) fun _ _ _ _ =>
    MovesBy.bind_still (movesBy_destroyTransient semaphore _ clean.transient) fun _ _ _ _ =>
      movesBy_runDestroyers _ clean.deferred) fun _ _ _ _ =>
    MovesBy.bind_still (MovesBy.device (Device.spares_destroy fun same => ?_)) fun _ _ _ _ => MovesBy.pure _
  exact clean.handle (same ▸ semaphore)

end Reclaim

theorem slot_mem_or_default (c : Context) (idx : Nat) : slot c idx ∈ c.ring.slots ∨ slot c idx = default := by
  unfold slot
  cases found : c.ring.slots[idx]? with
  | some s => exact .inl (List.mem_of_getElem? found)
  | none => exact .inr rfl

theorem movesBy_waitSlot (idx : Nat) (tracked : Tracked i h c) (clean : (slot c idx).Clean c.timelines.size)
    (held : (slot c idx).parks i → 0 < (c.timeline i).holders) :
    MovesBy i h (if (slot c idx).parks i then 1 else 0) [] (waitSlot idx) c := by
  unfold waitSlot
  refine MovesBy.get_bind (MovesBy.bind_still (MovesBy.modifyRing _) fun _ c₁ cleared _ => ?_)
  rw [modifySlot, modifyRing, EStateM.run_modify, EStateM.Result.ok.injEq] at cleared
  obtain ⟨-, rfl⟩ := cleared
  refine MovesBy.bind_then_still (movesBy_awaitSlot _ (tracked.moves (Moves.of_ring (i := i) (h := h) _)) clean held)
    fun _ _ _ _ => MovesBy.bind_still (MovesBy.modifyRing _) fun _ _ _ _ =>
      MovesBy.bind_still (movesBy_destroyTransient tracked.semaphore _ clean.transient) fun _ _ _ _ =>
        MovesBy.bind_still (MovesBy.modifyRing _) fun _ _ _ _ => movesBy_runDestroyers _ clean.deferred

theorem movesBy_beginFrame (tracked : Tracked i h c) (clean : (slot c c.ring.index).Clean c.timelines.size)
    (held : (slot c c.ring.index).parks i → 0 < (c.timeline i).holders) :
    MovesBy i h (if (slot c c.ring.index).parks i then 1 else 0) [] beginFrame c := by
  unfold beginFrame
  refine MovesBy.get_bind (MovesBy.ite (fun _ => MovesBy.bind_still (MovesBy.fail _) fun _ _ run _ => by cases run)
    fun _ => MovesBy.get_bind ?_)
  refine MovesBy.bind_then_still (MovesBy.bind_then_still (movesBy_waitSlot _ tracked clean held)
    fun _ _ _ _ => MovesBy.pure ()) fun _ c₁ _ _ => MovesBy.get_bind ?_
  exact MovesBy.bind_still (MovesBy.device (Device.spares_record _ (by simp))) fun _ _ _ _ =>
    MovesBy.bind_still (MovesBy.modifyRing _) fun _ _ _ _ => MovesBy.pure _

theorem MovesBy.forIn_tickets (body : Ticket → Act Context Unit) (value : Ticket → List UInt64)
    (self : ∀ t c, t.timeline = i → Tracked i h c → 0 < (c.timeline i).holders → MovesBy i h 1 (value t) (body t) c)
    (other : ∀ t c, t.timeline ≠ i → t.timeline < c.timelines.size → Tracked i h c → MovesBy i h 0 [] (body t) c) :
    ∀ (ts : List Ticket) c, Tracked i h c → (∀ t ∈ ts, t.timeline < c.timelines.size) →
      ts.countP (·.timeline == i) ≤ (c.timeline i).holders →
      MovesBy i h (ts.countP (·.timeline == i)) ((ts.filter (·.timeline == i)).flatMap value)
        (forIn ts PUnit.unit fun t _ => do body t; Pure.pure (ForInStep.yield PUnit.unit)) c := by
  intro ts
  induction ts with
  | nil =>
    intro c _ _ _
    exact MovesBy.pure _
  | cons t rest ih =>
    intro c tracked inRange held
    rw [List.forIn_cons]
    have counts : (t :: rest).countP (·.timeline == i) = (if t.timeline = i then 1 else 0) + rest.countP (·.timeline == i) := by
      by_cases mine : t.timeline = i
      · simp [mine]
        omega
      · simp [mine]
    have first : MovesBy i h (if t.timeline = i then 1 else 0) (if t.timeline = i then value t else [])
        (body t >>= fun _ => Pure.pure (ForInStep.yield PUnit.unit)) c := by
      refine MovesBy.bind_then_still ?_ fun _ _ _ _ => MovesBy.pure _
      by_cases mine : t.timeline = i
      · rw [if_pos mine, if_pos mine]
        exact self t c mine tracked (by rw [if_pos mine] at counts; omega)
      · rw [if_neg mine, if_neg mine]
        exact other t c mine (inRange t List.mem_cons_self) tracked
    have values : (if t.timeline = i then value t else []) ++ (rest.filter (·.timeline == i)).flatMap value =
        ((t :: rest).filter (·.timeline == i)).flatMap value := by
      by_cases mine : t.timeline = i <;> simp [mine]
    refine MovesBy.congr counts.symm values (MovesBy.bind first fun step c₁ ran moved => ?_)
    obtain ⟨_, _, _, back⟩ := Act.run_bind_ok ran
    cases back
    have counted := moved.holders
    exact ih c₁ (tracked.moves moved) (fun t' member => moved.size ▸ inRange t' (List.mem_cons_of_mem t member))
      (by omega)

theorem movesBy_letGoTickets (ts : List Ticket) (tracked : Tracked i h c)
    (inRange : ∀ t ∈ ts, t.timeline < c.timelines.size) (held : ts.countP (·.timeline == i) ≤ (c.timeline i).holders) :
    MovesBy i h (ts.countP (·.timeline == i)) []
      (forIn ts PUnit.unit fun t _ => do letGo t.timeline; pure (ForInStep.yield PUnit.unit)) c := by
  refine MovesBy.congr rfl (by simp) (MovesBy.forIn_tickets (fun t => letGo t.timeline) (fun _ => []) ?_ ?_ ts c
    tracked inRange held)
  · intro t c mine tracked held
    rw [mine]
    exact movesBy_letGo_self tracked.present tracked.handle held
  · intro t c other present tracked
    exact movesBy_letGo_other other (tracked.apart _ present other)

theorem movesBy_submitTickets (ts : List Ticket) (tracked : Tracked i h c)
    (inRange : ∀ t ∈ ts, t.timeline < c.timelines.size) (held : ts.countP (·.timeline == i) ≤ (c.timeline i).holders) :
    MovesBy i h (ts.countP (·.timeline == i)) (Ticket.valuesOn i ts)
      (forIn ts PUnit.unit fun t _ => do submitted t; pure (ForInStep.yield PUnit.unit)) c := by
  refine MovesBy.congr rfl List.map_eq_flatMap.symm (MovesBy.forIn_tickets submitted (fun t => [t.point.value])
    ?_ ?_ ts c tracked inRange held)
  · intro t c mine tracked held
    exact movesBy_submitted_self t mine tracked.present tracked.handle held
  · intro t c other present tracked
    exact movesBy_submitted_other t other (tracked.apart _ present other)

section Going

variable {f : Frame}

theorem movesBy_dropTickets (tracked : Tracked i h c) (inRange : ∀ t ∈ f.tickets, t.timeline < c.timelines.size)
    (held : f.tickets.countP (·.timeline == i) ≤ (c.timeline i).holders) :
    MovesBy i h (f.tickets.countP (·.timeline == i)) [] (dropTickets f) c := by
  unfold dropTickets
  refine MovesBy.bind_still (MovesBy.modifyRing _) fun _ c₁ _ moved => ?_
  have counted := moved.holders
  have held₁ : f.tickets.countP (·.timeline == i) ≤ (c₁.timeline i).holders := by omega
  exact MovesBy.bind_then_still (movesBy_letGoTickets _ (tracked.moves moved)
    (fun t member => moved.size ▸ inRange t member) held₁) fun _ _ _ _ => MovesBy.pure _

theorem movesBy_closeUnsubmitted (unparked : (slot c f.index).waiter = none) :
    MovesBy i h 0 [] (closeUnsubmitted f) c := by
  unfold closeUnsubmitted
  refine MovesBy.get_bind (MovesBy.bind_still (MovesBy.device (Device.spares_record _ (by simp)))
    fun _ c₁ logged _ => MovesBy.get_bind ?_)
  have same : c₁.ring = c.ring := (keepsRing_device _).ring logged
  have none : (slot c₁ f.index).waiter = none := by
    unfold slot
    rw [same]
    exact unparked
  refine MovesBy.bind_still (MovesBy.modifyRing _) fun _ _ _ _ => ?_
  rw [none]
  exact MovesBy.pure _

structure Droppable (i : Nat) (h : Handle) (f : Frame) (c : Context) : Prop where
  tracked : Tracked i h c
  unparked : (slot c f.index).waiter = none
  inRange : ∀ t ∈ f.tickets, t.timeline < c.timelines.size
  held : f.tickets.countP (·.timeline == i) ≤ (c.timeline i).holders

theorem Droppable.still (ready : Droppable i h f c) (moved : Moves i h 0 [] c c') (slots : c'.ring.slots = c.ring.slots) :
    Droppable i h f c' := by
  have counted := moved.holders
  have held := ready.held
  refine ⟨ready.tracked.moves moved, ?_, fun t member => moved.size ▸ ready.inRange t member, by omega⟩
  unfold slot
  rw [slots]
  exact ready.unparked

theorem movesBy_abandon (ready : Droppable i h f c) :
    MovesBy i h (f.tickets.countP (·.timeline == i)) [] (abandon f) c := by
  unfold abandon
  refine MovesBy.ite (fun _ => MovesBy.bind_still (movesBy_closeUnsubmitted ready.unparked) fun _ c₁ _ moved => ?_)
    fun _ => MovesBy.get_bind (MovesBy.bind_still (MovesBy.device (Device.spares_record _ (by simp)))
      fun _ c₁ _ moved => ?_)
  all_goals
    have counted := moved.holders
    have held := ready.held
    exact movesBy_dropTickets (ready.tracked.moves moved) (fun t member => moved.size ▸ ready.inRange t member)
      (by omega)

theorem movesBy_cancel (ready : Droppable i h f c) :
    MovesBy i h (f.tickets.countP (·.timeline == i)) [] (cancel f) c := by
  unfold cancel
  refine MovesBy.ite (fun _ => ?_) fun _ => MovesBy.bind_still (movesBy_closeUnsubmitted ready.unparked)
    fun _ c₁ _ moved => ?_
  · -- a frame that made objects is not cancelled: the misuse never finishes
    intro u c' run
    obtain ⟨u₁, c₁, checked, -⟩ := Act.run_bind_ok run
    simp only [Act.run_onFault, Act.run_fail] at checked
    split at checked <;> cases checked
  · have counted := moved.holders
    have held := ready.held
    exact movesBy_dropTickets (ready.tracked.moves moved) (fun t member => moved.size ▸ ready.inRange t member)
      (by omega)

theorem movesBy_dropFrame (ready : Droppable i h f c) :
    MovesBy i h (f.tickets.countP (·.timeline == i)) [] (dropFrame f) c := by
  unfold dropFrame
  refine MovesBy.ite (fun _ => MovesBy.bind_still (movesBy_closeUnsubmitted ready.unparked) fun _ c₁ _ moved => ?_)
    fun _ => MovesBy.onFault (MovesBy.fail _) _
  have counted := moved.holders
  have held := ready.held
  exact movesBy_dropTickets (ready.tracked.moves moved) (fun t member => moved.size ▸ ready.inRange t member)
    (by omega)

theorem movesBy_endFrame (w : Option Waiter) (ds : List Destroyer) (tracked : Tracked i h c)
    (inRange : ∀ t ∈ f.tickets, t.timeline < c.timelines.size)
    (held : f.tickets.countP (·.timeline == i) ≤ (c.timeline i).holders) (signalled : f.tickets ≠ [] → f.signals ≠ []) :
    MovesBy i h (f.tickets.countP (·.timeline == i)) (Ticket.valuesOn i f.tickets) (endFrame f w ds) c := by
  unfold endFrame
  refine MovesBy.bind_then_still (MovesBy.onFault ?_ _) fun _ c₁ _ _ => ?_
  · refine MovesBy.ite (fun _ => MovesBy.bind_still (MovesBy.fail _) fun _ _ run _ => by cases run) fun _ => ?_
    refine MovesBy.get_bind (MovesBy.ite (fun _ => ?_) fun quiet => ?_)
    · refine MovesBy.bind_still (MovesBy.device (Device.spares_submit _ _ _ _ _)) fun result c₂ _ moved₂ => ?_
      cases result with
      | error e => exact MovesBy.fail _
      | ok status =>
        refine MovesBy.bind_still (MovesBy.modifyRing _) fun _ c₃ _ moved₃ => ?_
        have counted₂ := moved₂.holders
        have counted₃ := moved₃.holders
        refine MovesBy.bind_then_still (movesBy_submitTickets f.tickets ((tracked.moves moved₂).moves moved₃)
          (fun t member => moved₃.size ▸ moved₂.size ▸ inRange t member) (by omega)) fun _ _ _ _ => ?_
        exact MovesBy.ite (fun _ => MovesBy.modifyRing _) fun _ => MovesBy.pure _
    · have none : f.tickets = [] := by
        by_cases empty : f.tickets = []
        · exact empty
        · exact absurd (.inr (.inr (by simpa using signalled empty))) quiet
      rw [none, List.countP_nil, Ticket.valuesOn_nil]
      exact MovesBy.pure _
  · refine MovesBy.get_bind (MovesBy.bind_still (MovesBy.device (Device.spares_record _ (by simp)))
      fun _ _ _ _ => MovesBy.get_bind ?_)
    exact MovesBy.bind_still (MovesBy.modifyRing _) fun _ _ _ _ =>
      MovesBy.bind_still (MovesBy.modifyRing _) fun _ _ _ _ => MovesBy.modifyRing _

end Going

section Work

variable {f : Frame}

theorem movesBy_surface (f : Frame) : MovesBy i h 0 [] (surface f) c := by
  unfold surface
  refine MovesBy.get_bind (MovesBy.ite (fun _ => MovesBy.pure _) fun _ =>
    MovesBy.ite (fun _ => MovesBy.pure _) fun _ => MovesBy.get_bind ?_)
  refine MovesBy.bind_still (MovesBy.device (Device.spares_wait _)) fun _ _ _ _ =>
    MovesBy.bind_still (MovesBy.device (Device.spares_acquire _)) fun result _ _ _ => ?_
  cases result with
  | error e => exact MovesBy.fail _
  | ok image =>
    cases image with
    | none => exact MovesBy.bind_still (MovesBy.modifyRing _) fun _ _ _ _ => MovesBy.pure _
    | some image => exact MovesBy.bind_still (MovesBy.modifyRing _) fun _ _ _ _ => MovesBy.pure _

theorem movesBy_scratch (name : String) (size : UInt64) (usage : BufferUsage) :
    MovesBy i h 0 [] (scratch f name size usage) c := by
  unfold scratch
  refine MovesBy.bind_still (MovesBy.device (Device.spares_create _))
    fun result _ _ _ => ?_
  cases result with
  | error e => exact MovesBy.fail _
  | ok made =>
    exact MovesBy.bind_still (MovesBy.modifyRing _) fun _ _ _ _ =>
      MovesBy.bind_still (MovesBy.modifyRing _) fun _ _ _ _ => MovesBy.pure _

theorem movesBy_writeScratch (b : Scratch) (offset : UInt64) (len : Nat) :
    MovesBy i h 0 [] (writeScratch b offset len) c := by
  unfold writeScratch
  exact MovesBy.ite (fun _ => MovesBy.pure _) fun _ =>
    MovesBy.bind_still (MovesBy.device (Device.spares_record _ (by simp))) fun _ _ _ _ => MovesBy.pure _

theorem movesBy_commandBuffer (name : String) : MovesBy i h 0 [] (commandBuffer f name) c := by
  unfold commandBuffer
  refine MovesBy.bind_still (MovesBy.device (Device.spares_create _))
    fun result _ _ _ => ?_
  cases result with
  | error e => exact MovesBy.fail _
  | ok made =>
    exact MovesBy.bind_still (MovesBy.modifyRing _) fun _ _ _ _ =>
      MovesBy.bind_still (MovesBy.modifyRing _) fun _ _ _ _ => MovesBy.pure _

theorem movesBy_waitPoint (p : SyncPoint) : MovesBy i h 0 [] (waitPoint p) c := by
  unfold waitPoint modifyFrame
  exact MovesBy.modifyRing _

theorem movesBy_signalTicket (t : Ticket) : MovesBy i h 0 [] (signalTicket t) c := by
  unfold signalTicket modifyFrame
  exact MovesBy.modifyRing _

theorem movesBy_deferDestroy (d : Destroyer) : MovesBy i h 0 [] (deferDestroy f d) c := by
  unfold deferDestroy modifySlot
  exact MovesBy.modifyRing _

theorem movesBy_queueDestroy (d : Destroyer) : MovesBy i h 0 [] (queueDestroy d) c :=
  MovesBy.modifyRing _

end Work

theorem slot_modify_other {c₁ : Context} {x idx : Nat} {g : Slot → Slot} (slots : c₁.ring.slots = c.ring.slots.modify x g)
    (other : idx ≠ x) : slot c₁ idx = slot c idx := by
  unfold slot
  rw [slots, List.getElem?_modify_ne _ _ (Ne.symm other)]

theorem movesBy_waitSlots {γ : Type} {g : Nat → γ → Act Context (ForInStep γ)} (turns : WaitTurns g) :
    ∀ (xs : List Nat) (b : γ) (c : Context), xs.Nodup → Tracked i h c →
      (∀ idx ∈ xs, (slot c idx).Clean c.timelines.size) →
      xs.countP (fun idx => (slot c idx).parks i) ≤ (c.timeline i).holders →
      MovesBy i h (xs.countP fun idx => (slot c idx).parks i) [] (forIn xs b g) c := by
  intro xs
  induction xs with
  | nil =>
    intro b c _ _ _ _
    exact MovesBy.pure _
  | cons x rest ih =>
    intro b c distinct tracked clean held
    obtain ⟨fresh, distinct⟩ := List.nodup_cons.mp distinct
    rw [List.forIn_cons]
    have counts : (x :: rest).countP (fun idx => (slot c idx).parks i) =
        (if (slot c x).parks i then 1 else 0) + rest.countP (fun idx => (slot c idx).parks i) := by
      rw [List.countP_cons]
      omega
    -- a turn moves what its wait moves
    have turn : MovesBy i h (if (slot c x).parks i then 1 else 0) [] (g x b) c := fun step c₁ ran =>
      let ⟨⟨m, waited⟩, _⟩ := turns x b c step c₁ ran
      movesBy_waitSlot x tracked (clean x List.mem_cons_self) (fun parks => by rw [if_pos parks] at counts; omega)
        m c₁ waited
    refine MovesBy.congr counts.symm rfl (MovesBy.bind turn fun step c₁ ran moved => ?_)
    obtain ⟨⟨m, waited⟩, b', rfl⟩ := turns x b c step c₁ ran
    -- the slots still to come are those of `c`
    have same : ∀ idx ∈ rest, slot c₁ idx = slot c idx := fun idx member =>
      slot_modify_other (congrArg Ring.slots (ring_waitSlot waited)) fun equal => fresh (equal ▸ member)
    have kept : rest.countP (fun idx => (slot c₁ idx).parks i) = rest.countP (fun idx => (slot c idx).parks i) :=
      List.countP_congr fun idx member => by rw [same idx member]
    have counted := moved.holders
    rw [← kept]
    exact ih b' c₁ distinct (tracked.moves moved)
      (fun idx member => by rw [same idx member, moved.size]; exact clean idx (List.mem_cons_of_mem x member))
      (by omega)

theorem countP_slots (c : Context) (j : Nat) :
    (List.range c.ring.slots.length).countP (fun idx => (slot c idx).parks j) = c.parked j := by
  have read : (List.range c.ring.slots.length).map (slot c) = c.ring.slots := by
    apply List.ext_getElem
    · simp
    · intro idx inside within
      simp [slot, List.getElem?_eq_getElem within]
  unfold parked
  conv_rhs => rw [← read]
  rw [List.countP_map]
  rfl

theorem movesBy_waitEvery {γ : Type} {g : Nat → γ → Act Context (ForInStep γ)} (turns : WaitTurns g) {b : γ}
    (tracked : Tracked i h c) (clean : ∀ s ∈ c.ring.slots, s.Clean c.timelines.size)
    (held : c.parked i ≤ (c.timeline i).holders) :
    MovesBy i h (c.parked i) [] (forIn (List.range c.ring.slots.length) b g) c := by
  refine MovesBy.congr (countP_slots c i) rfl (movesBy_waitSlots turns _ b c List.nodup_range tracked
    (fun idx _ => ?_) (by rw [countP_slots]; exact held))
  rcases slot_mem_or_default c idx with member | empty
  · exact clean _ member
  · exact empty ▸ Slot.clean_default _

theorem movesBy_waitAll (tracked : Tracked i h c) (idle : c.ring.recording = none)
    (clean : ∀ s ∈ c.ring.slots, s.Clean c.timelines.size) (mailbox : ∀ d ∈ c.ring.mailbox, ∀ x, d ≠ .destroy x)
    (held : c.parked i ≤ (c.timeline i).holders) : MovesBy i h (c.parked i) [] waitAll c := by
  unfold waitAll
  refine MovesBy.get_bind (MovesBy.ite (fun busy => by simp [idle] at busy) fun _ => MovesBy.get_bind ?_)
  refine MovesBy.bind_then_still (movesBy_waitEvery waitTurns_sum tracked clean held) fun n c₁ waited _ =>
    MovesBy.get_bind ?_
  -- the loop changed only the slots: the mailbox is the one of `c`
  have same : c₁.ring.mailbox = c.ring.mailbox := by rw [ring_forIn_waits waitTurns_sum waited]
  exact MovesBy.bind_still (MovesBy.modifyRing _) fun _ _ _ _ =>
    MovesBy.bind_then_still (movesBy_runDestroyers _ (same ▸ mailbox)) fun _ _ _ _ => MovesBy.pure _

theorem movesBy_newSlot (idx : Nat) : MovesBy i h 0 [] (newSlot idx) c := by
  unfold newSlot
  refine MovesBy.bind_still (MovesBy.device Device.spares_createFrame) fun result _ _ _ => ?_
  cases result with
  | ok made => exact MovesBy.pure _
  | error e => exact MovesBy.pure _

theorem movesBy_resizeRing {n : Nat} (grows : 0 < n) (tracked : Tracked i h c) (idle : c.ring.recording = none)
    (clean : ∀ s ∈ c.ring.slots, s.Clean c.timelines.size) (held : c.parked i ≤ (c.timeline i).holders) :
    MovesBy i h (c.parked i) [] (resizeRing n) c := by
  unfold resizeRing
  refine MovesBy.ite (fun zero => absurd zero (Nat.pos_iff_ne_zero.mp grows)) fun _ => MovesBy.get_bind ?_
  refine MovesBy.ite (fun busy => by simp [idle] at busy) fun _ => MovesBy.get_bind ?_
  refine MovesBy.bind_then_still (movesBy_waitEvery waitTurns_discard tracked clean held) fun _ c₁ waited _ =>
    MovesBy.get_bind ?_
  -- the slots left over were waited for: each is a cleared slot of `c`
  have cleared : ∀ s ∈ (c₁.ring.slots.drop n).reverse, s.waiter = none ∧ s.Clean 0 := by
    intro s member
    rw [ring_forIn_waits waitTurns_discard waited, List.mem_reverse] at member
    obtain ⟨s₀, old, rfl⟩ := List.mem_map.mp (List.mem_of_mem_drop member)
    exact ⟨rfl, Slot.clean_of_empty rfl rfl rfl (clean s₀ old).handle⟩
  refine MovesBy.bind_still (MovesBy.forIn_still _ (fun s member _ c => ?_) _ c₁) fun _ c₃ _ _ => ?_
  · refine MovesBy.bind_still (MovesBy.modifyRing _) fun _ _ _ _ => ?_
    exact MovesBy.bind_still (movesBy_destroySlot s tracked.semaphore (cleared s member).2 (cleared s member).1).discard
      fun _ _ _ _ => MovesBy.pure _
  refine MovesBy.bind_still (MovesBy.forIn_still _ (fun idx _ b c => ?_) _ c₃) fun r c₄ _ _ => ?_
  · refine MovesBy.bind_still (movesBy_newSlot idx) fun made _ _ _ => ?_
    cases made with
    | ok s => exact MovesBy.bind_still (MovesBy.modifyRing _) fun _ _ _ _ => MovesBy.pure _
    | error e => exact MovesBy.pure _
  obtain ⟨stopped, u⟩ := r
  cases stopped with
  | none => exact MovesBy.bind_still (MovesBy.modifyRing _) fun _ _ _ _ => MovesBy.pure _
  | some e => exact MovesBy.pure _

section Count

variable {α : Type}

theorem countKept_blind : FrameBlind fun c c' : Context => c'.timelines.size = c.timelines.size where
  refl _ := rfl
  trans _ _ _ first second := second.trans first
  device _ _ := rfl
  timeline _ _ _ _ := Array.size_modify ..
  ring _ _ := rfl
  release _ _ := rfl
  extent _ _ := rfl

theorem size_of_still {x : Act Context α} {a : α} (still : ∀ i h, MovesBy i h 0 [] x c) (run : x.run c = .ok a c') :
    c'.timelines.size = c.timelines.size :=
  (still 0 ⟨.semaphore, 0⟩ a c' run).size

end Count

section Faults

variable {e : Fault}

theorem moves_letGo (alive : Alive c) {m : Nat} (present : m < c.timelines.size) (held : 0 < (c.timeline m).holders)
    (run : (letGo m).run c = .ok () c') :
    ∀ j < c.timelines.size, Moves j (c.timeline j).handle (if j = m then 1 else 0) [] c c' := by
  intro j inside
  by_cases same : j = m
  · subst same
    rw [if_pos rfl]
    exact movesBy_letGo_self inside rfl held () c' run
  · rw [if_neg same]
    exact movesBy_letGo_other (Ne.symm same) ((alive.tracked j inside).apart m present (Ne.symm same)) () c' run

theorem Alive.of_record (alive : Alive c) (ev : Event) (other : ∀ x, ev ≠ .destroy x) :
    Alive { c with device := { c.device with log := c.device.log.push ev } } :=
  alive.moves (fun _ _ => ⟨0, [], Moves.of_device (Device.Spared.of_push ev (other _) rfl rfl rfl)⟩) rfl

theorem Alive.of_ring (alive : Alive c) (r : Ring) : Alive { c with ring := r } :=
  alive.moves (fun _ _ => ⟨0, [], Moves.of_ring r⟩) rfl

theorem letGoTickets_blocked (ts : List Ticket) : ∀ c, Alive c → (∀ t ∈ ts, t.timeline < c.timelines.size) →
    (∀ j < c.timelines.size, ts.countP (·.timeline == j) ≤ (c.timeline j).holders) →
    (forIn ts PUnit.unit fun (t : Ticket) _ => do letGo t.timeline; Pure.pure (ForInStep.yield PUnit.unit)).run c =
      .error e c' → Blocked c c' := by
  induction ts with
  | nil =>
    intro c _ _ _ run
    cases run
  | cons t rest ih =>
    intro c alive inRange held run
    rw [List.forIn_cons] at run
    have present := inRange t List.mem_cons_self
    have one : 0 < (c.timeline t.timeline).holders := by
      have counted := held t.timeline present
      simp at counted
      omega
    rcases Act.run_bind_error run with first | ⟨step, c₁, first, later⟩
    · rcases Act.run_bind_error first with dropped | ⟨_, _, _, back⟩
      · exact letGo_blocked (alive.live _ present one) dropped
      · cases back
    · obtain ⟨_, c₂, dropped, back⟩ := Act.run_bind_ok first
      cases back
      have moved := moves_letGo alive present one dropped
      have size := (moved _ present).size
      obtain ⟨extra, grown, -, -⟩ := (moved _ present).log
      refine (ih _ (alive.moves (fun j inside => ⟨_, _, moved j inside⟩) size)
        (fun t' member => size ▸ inRange t' (List.mem_cons_of_mem t member)) (fun j inside => ?_) later).after
        ⟨extra, grown⟩
      have counted := (moved j (size ▸ inside)).holders
      have before := held j (size ▸ inside)
      rw [List.countP_cons] at before
      by_cases same : j = t.timeline
      · subst same
        simp at counted before
        omega
      · simp [same, Ne.symm same] at counted before
        omega

variable {f : Frame}

theorem dropTickets_blocked (alive : Alive c) (inRange : ∀ t ∈ f.tickets, t.timeline < c.timelines.size)
    (held : ∀ j < c.timelines.size, f.tickets.countP (·.timeline == j) ≤ (c.timeline j).holders)
    (run : (dropTickets f).run c = .error e c') : Blocked c c' := by
  unfold dropTickets at run
  rcases Act.run_bind_error run with cleared | ⟨_, c₁, cleared, looped⟩
  · cases cleared
  rw [modifyRing, EStateM.run_modify, EStateM.Result.ok.injEq] at cleared
  obtain ⟨-, rfl⟩ := cleared
  rcases Act.run_bind_error looped with looped | ⟨_, _, _, back⟩
  · exact (letGoTickets_blocked _ _ (alive.of_ring { c.ring with recording := none }) inRange held looped).after
      ⟨[], by simp⟩
  · cases back

theorem run_closeUnsubmitted (unparked : (slot c f.index).waiter = none) :
    (closeUnsubmitted f).run c = .ok () { c with
      device := { c.device with log := c.device.log.push (.endFrame (frameHandle c f)) }
      ring := { c.ring with slots := c.ring.slots.modify f.index fun s => { s with waiter := none } } } := by
  have none : (slot { c with device := { c.device with log := c.device.log.push (.endFrame (frameHandle c f)) } }
      f.index).waiter = none := unparked
  simp only [closeUnsubmitted, EStateM.run_bind, EStateM.run_get, run_device!, Device.record, EStateM.run_modify,
    modifySlot, modifyRing, none]
  rfl

theorem abandon_blocked (alive : Alive c) (unparked : (slot c f.index).waiter = none)
    (inRange : ∀ t ∈ f.tickets, t.timeline < c.timelines.size)
    (held : ∀ j < c.timelines.size, f.tickets.countP (·.timeline == j) ≤ (c.timeline j).holders)
    (run : (abandon f).run c = .error e c') : Blocked c c' := by
  have logged := alive.of_record (.endFrame (frameHandle c f)) (by simp)
  unfold abandon at run
  split at run
  · rw [EStateM.run_bind, run_closeUnsubmitted unparked] at run
    exact (dropTickets_blocked (logged.of_ring _) inRange held run).after ⟨_, Array.toList_push ..⟩
  · simp only [EStateM.run_bind, EStateM.run_get, run_device!, Device.record, EStateM.run_modify] at run
    exact (dropTickets_blocked logged inRange held run).after ⟨_, Array.toList_push ..⟩

theorem Unblocked.settles {c₀ c₁ : Context} {x : Act Context Unit} (unblocked : Unblocked c₀ c')
    (earlier : ∃ extra, c₁.device.log.toList = c₀.device.log.toList ++ extra)
    (blocked : ∀ e, x.run c₁ = .error e c' → Blocked c₁ c') (ran : Act.Ran x c₁ c') : x.run c₁ = .ok () c' := by
  rcases ran with ⟨u, finished⟩ | ⟨e, faulted⟩
  · exact finished
  · exact absurd ((blocked e faulted).after earlier) unblocked.not_blocked

theorem ran_onFault_fatal {α : Type} {x : Act Context α} {cleanup : Act Context Unit} {err : Error}
    (run : (Act.onFault x cleanup).run c = .error (.fatal err) c') :
    ∃ c₁, x.run c = .error (.fatal err) c₁ ∧ Act.Ran cleanup c₁ c' := by
  simp only [Act.run_onFault] at run
  split at run
  · cases run
  · rename_i e₁ c₁ faulted
    split at run
    · cases run
      exact ⟨c₁, faulted, .inl ⟨_, ‹_›⟩⟩
    · cases run
      exact ⟨c₁, faulted, .inr ⟨_, ‹_›⟩⟩

structure Releasable (f : Frame) (c : Context) : Prop where
  unparked : (slot c f.index).waiter = none
  inRange : ∀ t ∈ f.tickets, t.timeline < c.timelines.size
  held : ∀ j < c.timelines.size, f.tickets.countP (·.timeline == j) ≤ (c.timeline j).holders

theorem cancel_fatal {err : Error} (alive : Alive c) (ready : Releasable f c) (unblocked : Unblocked c c')
    (run : (cancel f).run c = .error (.fatal err) c') : f.cancelable = false ∧ (abandon f).run c = .ok () c' := by
  unfold cancel at run
  split at run
  · rename_i committed
    refine ⟨by simpa using committed, ?_⟩
    rcases Act.run_bind_error run with faulted | ⟨_, _, finished, _⟩
    · obtain ⟨c₁, failed, cleaned⟩ := ran_onFault_fatal faulted
      cases failed
      exact unblocked.settles ⟨[], by simp⟩
        (fun _ faulted => abandon_blocked alive ready.unparked ready.inRange ready.held faulted) cleaned
    · simp only [Act.run_onFault, Act.run_fail] at finished
      split at finished <;> cases finished
  · -- a cancelable frame is closed and its tickets go; that fails only on a blocked wait
    rw [EStateM.run_bind, run_closeUnsubmitted ready.unparked] at run
    have blocked := dropTickets_blocked ((alive.of_record _ (by simp)).of_ring _) ready.inRange ready.held run
    exact absurd (blocked.after ⟨_, Array.toList_push ..⟩) unblocked.not_blocked

theorem dropFrame_fatal {err : Error} (alive : Alive c) (ready : Releasable f c) (unblocked : Unblocked c c')
    (run : (dropFrame f).run c = .error (.fatal err) c') : f.cancelable = false ∧ (dropTickets f).run c = .ok () c' := by
  unfold dropFrame at run
  split at run
  · rw [EStateM.run_bind, run_closeUnsubmitted ready.unparked] at run
    have blocked := dropTickets_blocked ((alive.of_record _ (by simp)).of_ring _) ready.inRange ready.held run
    exact absurd (blocked.after ⟨_, Array.toList_push ..⟩) unblocked.not_blocked
  · rename_i committed
    refine ⟨by simpa using committed, ?_⟩
    obtain ⟨c₁, failed, cleaned⟩ := ran_onFault_fatal run
    cases failed
    exact unblocked.settles ⟨[], by simp⟩
      (fun _ faulted => dropTickets_blocked alive ready.inRange ready.held faulted) cleaned

theorem Slot.unparked_eq (s : Slot) (unparked : s.waiter = none) : { s with waiter := none } = s := by
  cases s
  simp only at unparked
  rw [unparked]

theorem modify_unparked {idx : Nat} (unparked : (slot c idx).waiter = none) :
    c.ring.slots.modify idx (fun s => { s with waiter := none }) = c.ring.slots := by
  apply List.ext_getElem
  · simp
  · intro k inside _
    rw [List.getElem_modify]
    split
    · rename_i same
      subst same
      have read : slot c idx = c.ring.slots[idx] := by
        simp [slot, List.getElem?_eq_getElem ‹idx < c.ring.slots.length›]
      rw [read] at unparked
      exact Slot.unparked_eq _ unparked
    · rfl

theorem ring_abandon {u : Unit} (unparked : (slot c f.index).waiter = none) (run : (abandon f).run c = .ok u c') :
    c'.ring = { c.ring with recording := none } := by
  unfold abandon at run
  split at run
  · obtain ⟨_, c₁, closed, run⟩ := Act.run_bind_ok run
    rw [ring_dropTickets run, ring_closeUnsubmitted closed, modify_unparked unparked]
  · obtain ⟨_, _, read, run⟩ := Act.run_bind_ok run
    cases read
    obtain ⟨_, c₁, logged, run⟩ := Act.run_bind_ok run
    rw [ring_dropTickets run, (keepsRing_device _).ring logged]

def submitAccepted (c : Context) (f : Frame) (w : Option Waiter) : Bool :=
  (f.surface.isSome || w.isSome) && (f.surface.isSome || !f.commandBuffers.isEmpty || !f.signals.isEmpty) &&
    (c.device.submitScript.headD (.ok .ok)).toBool

def unwindEnd (f : Frame) (w : Option Waiter) : Act Context Unit := do
  if let some w := w then letGo w.timeline
  abandon f

theorem Device.submit_status {frame : Handle} {n : Nat} {waits signals : List SyncPoint} {present : Bool}
    {d d' : Device} {status : Except DeviceFailure SubmitStatus}
    (run : (Device.submit frame n waits signals present).run d = .ok status d') :
    status = d.submitScript.headD (.ok .ok) := by
  simp only [Device.submit, Device.record, EStateM.run_bind, EStateM.run_modify, EStateM.run_get,
    EStateM.run_set] at run
  split at run
  · obtain ⟨u, d₁, _, run⟩ := Act.run_bind_ok run
    cases run
    rfl
  · cases run
    rfl

theorem Device.forIn_advance_ok (signals : List SyncPoint) : ∀ d : Device, ∃ d',
    (forIn signals PUnit.unit fun (s : SyncPoint) _ => do
      Device.advance s.semaphore s.value
      pure (ForInStep.yield PUnit.unit)).run d = .ok PUnit.unit d' := by
  induction signals with
  | nil =>
    intro d
    exact ⟨d, rfl⟩
  | cons s rest ih =>
    intro d
    have turn : (do Device.advance s.semaphore s.value; pure (ForInStep.yield PUnit.unit) : Act Device _).run d =
        .ok (.yield PUnit.unit)
          { d with gauges := (s.semaphore, (d.gauge s.semaphore).advance s.value) ::
            d.gauges.filter (·.1 != s.semaphore) } := rfl
    rw [List.forIn_cons, EStateM.run_bind, turn]
    exact ih _

theorem Device.submit_ok (frame : Handle) (n : Nat) (waits signals : List SyncPoint) (present : Bool) (d : Device) :
    ∃ status d', (Device.submit frame n waits signals present).run d = .ok status d' := by
  simp only [Device.submit, Device.record, EStateM.run_bind, EStateM.run_modify, EStateM.run_get, EStateM.run_set]
  split
  · obtain ⟨d', advanced⟩ := Device.forIn_advance_ok signals
      { d with log := d.log.push (.submit frame n waits signals present), submitScript := d.submitScript.tail }
    exact ⟨_, d', by rw [EStateM.run_bind, advanced]; rfl⟩
  · exact ⟨_, _, rfl⟩

theorem forIn_not_fatal {δ : Type} (xs : List δ) (body : δ → Act Context Unit)
    (never : ∀ x c c' err, (body x).run c ≠ .error (.fatal err) c') :
    ∀ c c' err, (forIn xs PUnit.unit fun x _ => do body x; Pure.pure (ForInStep.yield PUnit.unit)).run c ≠
      .error (.fatal err) c' := by
  induction xs with
  | nil =>
    intro c c' err run
    cases run
  | cons x rest ih =>
    intro c c' err run
    rw [List.forIn_cons] at run
    rcases Act.run_bind_error run with first | ⟨_, c₁, first, later⟩
    · rcases Act.run_bind_error first with turned | ⟨_, _, _, back⟩
      · exact never x c c' err turned
      · cases back
    · obtain ⟨_, _, _, back⟩ := Act.run_bind_ok first
      cases back
      exact ih _ c' err later

theorem submitted_not_fatal (t : Ticket) {err : Error} : (submitted t).run c ≠ .error (.fatal err) c' := by
  intro run
  rcases Act.run_bind_error run with raised | ⟨_, c₁, _, dropped⟩
  · rw [run_modifyTimeline] at raised
    cases raised
  · exact letGo_not_fatal dropped

theorem endFrame_fatal_body {w : Option Waiter} {ds : List Destroyer} {err : Error}
    (run : (endFrame f w ds).run c = .error (.fatal err) c') :
    submitAccepted c f w = false ∧
      ∃ d', (∀ h, Device.Spared h c.device d') ∧ Act.Ran (unwindEnd f w) { c with device := d' } c' := by
  unfold endFrame at run
  rcases Act.run_bind_error run with faulted | ⟨_, c₂, _, later⟩
  · obtain ⟨c₁, failed, cleaned⟩ := ran_onFault_fatal faulted
    dsimp only at failed
    split at failed
    · rename_i bare
      rcases Act.run_bind_error failed with missing | ⟨_, _, never, _⟩
      · cases missing
        exact ⟨by simp_all [submitAccepted], c.device, fun h => Device.Spared.refl _, cleaned⟩
      · cases never
    · simp only [EStateM.run_bind, EStateM.run_get] at failed
      split at failed
      · rcases Act.run_bind_error failed with refused | ⟨result, c₃, handed, later⟩
        · rw [run_device!] at refused
          obtain ⟨status, d', handed⟩ := Device.submit_ok (frameHandle c f) f.commandBuffers.length f.waits f.signals
            f.surface.isSome c.device
          rw [handed] at refused
          cases refused
        · obtain ⟨d', ran, rfl⟩ := run_device_ok handed
          have status := Device.submit_status ran
          cases result with
          | error failure =>
            cases later
            refine ⟨?_, d', fun h => Device.spares_submit _ _ _ _ _ _ _ _ ran, cleaned⟩
            rw [submitAccepted, ← status]
            simp [Except.toBool]
          | ok accepted =>
            exfalso
            rcases Act.run_bind_error later with cleared | ⟨_, c₄, _, later⟩
            · cases cleared
            rcases Act.run_bind_error later with looped | ⟨_, c₅, _, later⟩
            · exact forIn_not_fatal _ submitted (fun t _ _ _ => submitted_not_fatal t) _ _ _ looped
            · split at later <;> cases later
      · cases failed
  · simp only [EStateM.run_bind, EStateM.run_get, run_device!, Device.record, EStateM.run_modify, modifyRing,
      modifySlot] at later
    cases later

def Spares (f : Frame) (w : Option Waiter) (c : Context) : Prop :=
  ∀ x ∈ w, x.timeline < c.timelines.size ∧ f.tickets.countP (·.timeline == x.timeline) < (c.timeline x.timeline).holders

theorem unwindEnd_settles {w : Option Waiter} {c₀ : Context} (alive : Alive c) (ready : Releasable f c)
    (waiting : Spares f w c) (unblocked : Unblocked c₀ c')
    (earlier : ∃ extra, c.device.log.toList = c₀.device.log.toList ++ extra) (ran : Act.Ran (unwindEnd f w) c c') :
    c'.timelines.size = c.timelines.size ∧ c'.ring = { c.ring with recording := none } ∧
      ∀ j < c.timelines.size, Moves j (c.timeline j).handle
      (f.tickets.countP (·.timeline == j) + if w.any (·.timeline == j) then 1 else 0) [] c c' := by
  cases w with
  | none =>
    have finished := unblocked.settles earlier
      (fun _ faulted => abandon_blocked alive ready.unparked ready.inRange ready.held faulted) ran
    refine ⟨countKept_blind.respects_abandon f _ _ _ finished, ring_abandon ready.unparked finished, fun j inside => ?_⟩
    simpa using movesBy_abandon ⟨alive.tracked j inside, ready.unparked, ready.inRange, ready.held j inside⟩ () c'
      finished
  | some x =>
    obtain ⟨present, more⟩ := waiting x rfl
    have ran : Act.Ran (letGo x.timeline >>= fun _ => abandon f) c c' := ran
    rcases Act.ran_bind ran with ⟨e, faulted⟩ | ⟨_, c₁, dropped, cleaned⟩
    · exact absurd ((letGo_blocked (alive.live _ present (by omega)) faulted).after earlier) unblocked.not_blocked
    -- the waiter went; the frame is abandoned from there
    have moved := moves_letGo alive present (by omega) dropped
    have size := (moved _ present).size
    have same : c₁.ring = c.ring := (keepsRing_letGo _).ring dropped
    obtain ⟨extra, grown, -, -⟩ := (moved _ present).log
    have ready₁ : Releasable f c₁ := by
      refine ⟨by unfold slot; rw [same]; exact ready.unparked, fun t member => size ▸ ready.inRange t member,
        fun j inside => ?_⟩
      have counted := (moved j (size ▸ inside)).holders
      have before := ready.held j (size ▸ inside)
      by_cases mine : j = x.timeline
      · subst mine
        simp at counted
        omega
      · simp [mine] at counted
        omega
    have finished := unblocked.settles (by obtain ⟨before, log⟩ := earlier; exact ⟨before ++ extra, by simp [grown, log]⟩)
      (fun _ faulted => abandon_blocked (alive.moves (fun j inside => ⟨_, _, moved j inside⟩) size) ready₁.unparked
        ready₁.inRange ready₁.held faulted) cleaned
    refine ⟨(countKept_blind.respects_abandon f _ _ _ finished).trans size, by rw [ring_abandon ready₁.unparked finished, same],
      fun j inside => ?_⟩
    have tracked := (alive.tracked j inside).moves (moved j inside)
    have moves := (moved j inside).trans (movesBy_abandon
      ⟨tracked, ready₁.unparked, ready₁.inRange, ready₁.held j (size ▸ inside)⟩ () c' finished)
    have count : (if j = x.timeline then 1 else 0) + f.tickets.countP (·.timeline == j) =
        f.tickets.countP (·.timeline == j) + if (some x).any (·.timeline == j) then 1 else 0 := by
      by_cases mine : j = x.timeline
      · simp [mine]
        omega
      · simp [mine, Ne.symm mine]
    rw [count, List.append_nil] at moves
    exact moves

theorem endFrame_fatal {w : Option Waiter} {ds : List Destroyer} {err : Error} (alive : Alive c)
    (ready : Releasable f c) (waiting : Spares f w c) (unblocked : Unblocked c c')
    (run : (endFrame f w ds).run c = .error (.fatal err) c') :
    submitAccepted c f w = false ∧ c'.timelines.size = c.timelines.size ∧ c'.ring = { c.ring with recording := none } ∧
      ∀ j < c.timelines.size, Moves j (c.timeline j).handle
        (f.tickets.countP (·.timeline == j) + if w.any (·.timeline == j) then 1 else 0) [] c c' := by
  obtain ⟨refused, d', spared, ran⟩ := endFrame_fatal_body run
  have alive₁ : Alive { c with device := d' } := alive.moves (fun _ _ => ⟨0, [], Moves.of_device (spared _)⟩) rfl
  obtain ⟨extra, grown, -⟩ := (spared default).log
  obtain ⟨size, ring, moves⟩ := unwindEnd_settles alive₁ ⟨ready.unparked, ready.inRange, ready.held⟩ waiting
    unblocked ⟨extra, grown⟩ ran
  exact ⟨refused, size, ring, fun j inside => (Moves.of_device (spared _)).still_trans (moves j inside)⟩

end Faults

end Context

end RenderCore
