import RenderCore.Context.Renderer
import RenderCore.Proofs.Frames.Ring
namespace RenderCore.Act.Respects

theorem discard {σ α : Type} {R : σ → σ → Prop} {x : Act σ α} (respects : Respects R x) :
    Respects R (discard x) := by
  intro s u s' run
  rw [run_discard] at run
  split at run
  · cases run
    exact respects _ _ _ ‹_›
  · cases run

theorem orFail {σ α : Type} {R : σ → σ → Prop} (refl : ∀ s, R s s) (r : Except Error α) :
    Respects R (Act.orFail r : Act σ α) := by
  cases r with
  | ok a => exact of_pure refl a
  | error e => exact of_fail e

theorem forIn_mem {σ β δ : Type} {R : σ → σ → Prop} (refl : ∀ s, R s s)
    (trans : ∀ s₁ s₂ s₃, R s₁ s₂ → R s₂ s₃ → R s₁ s₃) (xs : List δ) (b : β)
    {f : δ → β → Act σ (ForInStep β)} (body : ∀ x ∈ xs, ∀ b, Respects R (f x b)) :
    Respects R (ForIn.forIn xs b f) := by
  induction xs generalizing b with
  | nil => exact of_pure refl b
  | cons x rest ih =>
    rw [List.forIn_cons]
    refine bind trans (body x (List.mem_cons_self ..) b) fun step => ?_
    cases step with
    | done b' => exact of_pure refl b'
    | yield b' => exact ih b' fun y member => body y (List.mem_cons_of_mem _ member)

theorem mapM {σ δ γ : Type} {R : σ → σ → Prop} (refl : ∀ s, R s s)
    (trans : ∀ s₁ s₂ s₃, R s₁ s₂ → R s₂ s₃ → R s₁ s₃) (xs : List δ) {f : δ → Act σ γ}
    (body : ∀ x, Respects R (f x)) : Respects R (xs.mapM f) := by
  induction xs with
  | nil => exact of_pure refl _
  | cons x rest ih =>
    rw [List.mapM_cons]
    exact bind trans (body x) fun _ => bind trans ih fun _ => of_pure refl _

end RenderCore.Act.Respects

namespace RenderCore.Context

-- A preorder on contexts blind to the device and to a timeline's state other than its semaphore.
structure TimelineBlind (R : Context → Context → Prop) : Prop where
  refl : ∀ c, R c c
  trans : ∀ c₁ c₂ c₃, R c₁ c₂ → R c₂ c₃ → R c₁ c₃
  device : ∀ c d, R c { c with device := d }
  timeline : ∀ c i (f : Timeline → Timeline), (∀ t, (f t).handle = t.handle) →
    R c { c with timelines := c.timelines.modify i f }

namespace TimelineBlind

variable {R : Context → Context → Prop} (blind : TimelineBlind R) {α β : Type}
include blind

theorem pure (a : α) : Act.Respects R (Pure.pure a : Act Context α) :=
  Act.Respects.of_pure blind.refl a

theorem bind {x : Act Context α} {f : α → Act Context β} (first : Act.Respects R x)
    (rest : ∀ a, Act.Respects R (f a)) : Act.Respects R (x >>= f) :=
  Act.Respects.bind blind.trans first rest

theorem get_bind {f : Context → Act Context β} (rest : ∀ c, Act.Respects R (f c)) :
    Act.Respects R (get >>= f) :=
  blind.bind (Act.Respects.of_get blind.refl) rest

theorem respects_forIn {δ : Type} (xs : List δ) (b : β) {f : δ → β → Act Context (ForInStep β)}
    (body : ∀ x b, Act.Respects R (f x b)) : Act.Respects R (ForIn.forIn xs b f) :=
  Act.Respects.forIn blind.refl blind.trans xs b body

theorem respects_device (x : Act Device α) : Act.Respects R (device! x) :=
  Act.Respects.of_device fun c _ d _ => blind.device c d

theorem respects_modifyTimeline (i : Nat) {f : Timeline → Timeline} (handle : ∀ t, (f t).handle = t.handle) :
    Act.Respects R (modifyTimeline i f) :=
  Act.Respects.of_modify fun c => blind.timeline c i f handle

theorem respects_waitFor (i : Nat) (v : UInt64) : Act.Respects R (waitFor i v) := by
  unfold waitFor
  exact blind.get_bind fun _ => Act.Respects.ite (blind.pure _)
    (blind.bind (blind.respects_device _) fun _ => blind.respects_modifyTimeline _ fun _ => rfl)

theorem respects_letGo (i : Nat) : Act.Respects R (letGo i) := by
  unfold letGo
  refine blind.bind (blind.respects_modifyTimeline _ fun _ => rfl) fun _ => blind.get_bind fun _ => ?_
  exact Act.Respects.ite (blind.bind (blind.respects_waitFor _ _) fun _ => blind.respects_device _) (blind.pure _)

theorem respects_hold (i : Nat) : Act.Respects R (hold i) :=
  blind.respects_modifyTimeline _ fun _ => rfl

theorem respects_submitted (t : Ticket) : Act.Respects R (submitted t) :=
  blind.bind (blind.respects_modifyTimeline _ fun _ => rfl) fun _ => blind.respects_letGo _

theorem respects_query (i : Nat) : Act.Respects R (query i) :=
  blind.get_bind fun _ => blind.bind (blind.respects_modifyTimeline _ fun _ => rfl) fun _ => blind.get_bind fun _ => blind.pure _

theorem respects_issue (i : Nat) : Act.Respects R (issue i) := by
  intro c v c' run
  simp only [issue, EStateM.run_bind, EStateM.run_get, Context.modifyTimeline, EStateM.run_modify,
    EStateM.run_pure, EStateM.Result.ok.injEq] at run
  obtain ⟨-, rfl⟩ := run
  have same : c.timelines.modify i (fun _ => (c.timeline i).issue.2) =
      c.timelines.modify i fun t => { t with pending := (c.timeline i).pending + 1 } := by
    apply Array.ext_getElem?
    intro j
    simp only [Array.getElem?_modify]
    by_cases at_i : i = j
    · subst at_i
      cases found : c.timelines[i]? with
      | none => rfl
      | some t =>
        have read : c.timeline i = t := by simp [Context.timeline, found]
        simp [read, Timeline.issue]
    · simp [at_i]
  rw [same]
  exact blind.timeline c i _ fun _ => rfl

theorem respects_promise (i : Nat) : Act.Respects R (promise i) :=
  blind.bind (blind.respects_issue _) fun _ => blind.bind (blind.respects_modifyTimeline _ fun _ => rfl) fun _ =>
    blind.bind (blind.respects_hold _) fun _ => blind.pure _

theorem respects_signal (p : Promise) : Act.Respects R (signal p) := by
  unfold signal
  refine blind.bind (Act.Respects.onFault ?_ _) fun _ => blind.respects_letGo _
  refine blind.bind (blind.respects_waitFor _ _) fun _ => blind.get_bind fun _ => ?_
  dsimp only
  refine Act.Respects.ite (blind.bind (Act.Respects.of_fail _) fun _ => ?_) ?_
  all_goals exact blind.bind (blind.respects_device _) fun _ => blind.respects_modifyTimeline _ fun _ => rfl

theorem respects_signalInfo (i : Nat) (stage : UInt64) : Act.Respects R (signalInfo i stage) :=
  blind.bind (blind.respects_issue _) fun _ => blind.bind (blind.respects_hold _) fun _ =>
    blind.get_bind fun _ => blind.pure _

theorem respects_waitInfo (i : Nat) (stage : UInt64) : Act.Respects R (waitInfo i stage) :=
  blind.get_bind fun _ => blind.pure _

theorem respects_waiterPending (i : Nat) : Act.Respects R (waiterPending i) :=
  blind.get_bind fun _ => blind.bind (blind.respects_hold _) fun _ => blind.pure _

theorem respects_waiterCurrent (i : Nat) : Act.Respects R (waiterCurrent i) :=
  blind.bind (blind.respects_query _) fun _ => blind.bind (blind.respects_hold _) fun _ => blind.pure _

theorem respects_poll (w : Waiter) : Act.Respects R (poll w) := by
  unfold poll
  refine blind.get_bind fun _ => ?_
  exact Act.Respects.ite (blind.pure _) (blind.bind (blind.respects_query _) fun _ => blind.pure _)

theorem respects_waiterInfo (w : Waiter) (stage : UInt64) : Act.Respects R (waiterInfo w stage) :=
  blind.get_bind fun _ => blind.pure _

theorem respects_writeScratch (b : Scratch) (offset : UInt64) (len : Nat) :
    Act.Respects R (writeScratch b offset len) := by
  unfold writeScratch
  exact Act.Respects.ite (blind.pure _) (blind.bind (blind.respects_device _) fun _ => blind.pure _)

theorem respects_awaitSlot (s : Slot) : Act.Respects R (awaitSlot s) := by
  unfold awaitSlot
  cases s.waiter with
  | some w => exact blind.bind (Act.Respects.onFault (blind.respects_waitFor _ _) _) fun _ => blind.respects_letGo _
  | none => exact blind.respects_device _

theorem respects_destroyTransient (hs : List Handle) : Act.Respects R (destroyTransient hs) :=
  blind.bind (blind.respects_forIn _ _ fun _ _ => blind.bind (blind.respects_device _) fun _ => blind.pure _)
    fun _ => blind.pure _

end TimelineBlind

-- A preorder that is moreover blind to the ring, a bank's free list and the window's extent.
structure FrameBlind (R : Context → Context → Prop) : Prop extends TimelineBlind R where
  ring : ∀ c r, R c { c with ring := r }
  release : ∀ c s, R c { c with pools := c.pools.release s }
  extent : ∀ c e, R c { c with extent := e }

namespace FrameBlind

variable {R : Context → Context → Prop} (blind : FrameBlind R) {α β : Type}
include blind

theorem respects_modifyRing (f : Ring → Ring) : Act.Respects R (modifyRing f) :=
  Act.Respects.of_modify fun c => blind.ring c _

theorem respects_runDestroyer (d : Destroyer) : Act.Respects R (runDestroyer d) := by
  cases d with
  | release s => exact Act.Respects.of_modify fun c => blind.release c s
  | destroy h => exact blind.respects_device _
  | note id => exact blind.respects_device _

theorem respects_runDestroyers (ds : List Destroyer) : Act.Respects R (runDestroyers ds) :=
  blind.bind (blind.respects_forIn ds _ fun d _ => blind.bind (blind.respects_runDestroyer d) fun _ => blind.pure _)
    fun _ => blind.pure _

theorem respects_reclaim (s : Slot) : Act.Respects R (reclaim s) :=
  blind.bind (blind.respects_awaitSlot s) fun _ => blind.bind (blind.respects_destroyTransient _) fun _ =>
    blind.respects_runDestroyers _

theorem respects_waitSlot (idx : Nat) : Act.Respects R (waitSlot idx) :=
  blind.get_bind fun _ => blind.bind (blind.respects_modifyRing _) fun _ => blind.bind (blind.respects_awaitSlot _) fun _ =>
    blind.bind (blind.respects_modifyRing _) fun _ => blind.bind (blind.respects_destroyTransient _) fun _ =>
      blind.bind (blind.respects_modifyRing _) fun _ => blind.respects_runDestroyers _

theorem respects_beginFrame : Act.Respects R beginFrame := by
  unfold beginFrame
  refine blind.get_bind fun _ => Act.Respects.ite (blind.bind (Act.Respects.of_fail _) fun _ => ?_) ?_
  all_goals
    refine blind.get_bind fun _ => blind.bind (blind.bind (blind.respects_waitSlot _) fun _ => blind.pure _)
      fun _ => blind.get_bind fun _ => ?_
    exact blind.bind (blind.respects_device _) fun _ => blind.bind (blind.respects_modifyRing _) fun _ => blind.pure _

theorem respects_surface (f : Frame) : Act.Respects R (surface f) := by
  unfold surface
  refine blind.get_bind fun _ => Act.Respects.ite (blind.pure _) (blind.get_bind fun _ => ?_)
  refine Act.Respects.ite (blind.pure _) (blind.get_bind fun _ => ?_)
  refine blind.bind (blind.respects_device _) fun _ => blind.bind (blind.respects_device _) fun acquired => ?_
  split
  · exact Act.Respects.of_fail _
  · exact blind.bind (blind.respects_modifyRing _) fun _ => blind.pure _
  · exact blind.bind (blind.respects_modifyRing _) fun _ => blind.pure _

theorem respects_scratch (f : Frame) (name : String) (size : UInt64) (usage : BufferUsage) :
    Act.Respects R (scratch f name size usage) := by
  refine blind.bind (blind.respects_device _) fun made => ?_
  split
  · exact Act.Respects.of_fail _
  · exact blind.bind (blind.respects_modifyRing _) fun _ => blind.bind (blind.respects_modifyRing _) fun _ => blind.pure _

theorem respects_commandBuffer (f : Frame) (name : String) : Act.Respects R (commandBuffer f name) := by
  refine blind.bind (blind.respects_device _) fun made => ?_
  split
  · exact Act.Respects.of_fail _
  · exact blind.bind (blind.respects_modifyRing _) fun _ => blind.bind (blind.respects_modifyRing _) fun _ => blind.pure _

theorem respects_closeUnsubmitted (f : Frame) : Act.Respects R (closeUnsubmitted f) := by
  unfold closeUnsubmitted
  refine blind.get_bind fun _ => blind.bind (blind.respects_device _) fun _ => blind.get_bind fun c => ?_
  refine blind.bind (blind.respects_modifyRing _) fun _ => ?_
  cases (slot c f.index).waiter with
  | none => exact blind.pure _
  | some w => exact blind.respects_letGo _

theorem respects_dropTickets (f : Frame) : Act.Respects R (dropTickets f) :=
  blind.bind (blind.respects_modifyRing _) fun _ => blind.bind
    (blind.respects_forIn _ _ fun _ _ => blind.bind (blind.respects_letGo _) fun _ => blind.pure _) fun _ => blind.pure _

theorem respects_abandon (f : Frame) : Act.Respects R (abandon f) :=
  Act.Respects.ite (blind.bind (blind.respects_closeUnsubmitted f) fun _ => blind.respects_dropTickets f)
    (blind.get_bind fun _ => blind.bind (blind.respects_device _) fun _ => blind.respects_dropTickets f)

theorem respects_cancel (f : Frame) : Act.Respects R (cancel f) := by
  unfold cancel
  refine Act.Respects.ite (blind.bind (Act.Respects.onFault (Act.Respects.of_fail _) _) fun _ => ?_) ?_
  all_goals exact blind.bind (blind.respects_closeUnsubmitted f) fun _ => blind.respects_dropTickets f

theorem respects_dropFrame (f : Frame) : Act.Respects R (dropFrame f) :=
  Act.Respects.ite (blind.bind (blind.respects_closeUnsubmitted f) fun _ => blind.respects_dropTickets f)
    (Act.Respects.onFault (Act.Respects.of_fail _) _)

theorem respects_endFrame (f : Frame) (w : Option Waiter) (ds : List Destroyer) :
    Act.Respects R (endFrame f w ds) := by
  unfold endFrame
  refine blind.bind (Act.Respects.onFault ?_ _) fun _ => ?_
  · refine Act.Respects.ite (blind.bind (Act.Respects.of_fail _) fun _ => ?_) ?_
    all_goals
      refine blind.get_bind fun _ => Act.Respects.ite ?_ (blind.pure _)
      refine blind.bind (blind.respects_device _) fun result => ?_
      split
      · exact Act.Respects.of_fail _
      · refine blind.bind (blind.respects_modifyRing _) fun _ => blind.bind ?_ fun _ =>
          Act.Respects.ite (blind.respects_modifyRing _) (blind.pure _)
        exact blind.respects_forIn _ _ fun t _ => blind.bind (blind.respects_submitted t) fun _ => blind.pure _
  · refine blind.get_bind fun _ => blind.bind (blind.respects_device _) fun _ => ?_
    exact blind.get_bind fun _ => blind.bind (blind.respects_modifyRing _) fun _ =>
      blind.bind (blind.respects_modifyRing _) fun _ => blind.respects_modifyRing _

theorem respects_waitAll : Act.Respects R waitAll := by
  unfold waitAll
  refine blind.get_bind fun _ => Act.Respects.ite (blind.pure _) (blind.get_bind fun _ => ?_)
  refine blind.bind (blind.respects_forIn _ _ fun _ _ => blind.bind (blind.respects_waitSlot _) fun _ => blind.pure _)
    fun _ => ?_
  exact blind.get_bind fun _ => blind.bind (blind.respects_modifyRing _) fun _ =>
    blind.bind (blind.respects_runDestroyers _) fun _ => blind.pure _

theorem respects_destroySlot (s : Slot) : Act.Respects R (destroySlot s) :=
  blind.bind (blind.respects_reclaim s) fun _ => blind.bind (blind.respects_device _) fun _ => blind.pure _

theorem respects_destroySlots : ∀ slots : List Slot, Act.Respects R (destroySlots slots)
  | [] => blind.pure _
  | s :: rest => blind.bind (Act.Respects.onFault (blind.respects_destroySlot s) _) fun _ =>
      blind.bind (respects_destroySlots rest) fun _ => blind.pure _

theorem respects_destroyRing : Act.Respects R destroyRing := by
  unfold destroyRing
  refine blind.get_bind fun _ => blind.bind (blind.respects_modifyRing _) fun _ => ?_
  refine blind.bind (blind.respects_destroySlots _) fun _ => ?_
  exact blind.bind (blind.respects_modifyRing _) fun _ => blind.get_bind fun _ =>
    blind.bind (blind.respects_modifyRing _) fun _ => blind.bind (blind.respects_runDestroyers _) fun _ => blind.pure _

theorem respects_newSlot (idx : Nat) : Act.Respects R (newSlot idx) := by
  unfold newSlot
  refine blind.bind (blind.respects_device _) fun made => ?_
  cases made with
  | ok s => exact blind.pure _
  | error e => exact blind.pure _

theorem respects_resizeRing (n : Nat) : Act.Respects R (resizeRing n) := by
  unfold resizeRing
  refine Act.Respects.ite (blind.pure _) (blind.get_bind fun _ => Act.Respects.ite (blind.pure _) (blind.get_bind fun _ => ?_))
  refine blind.bind (blind.respects_forIn _ _ fun _ _ => blind.bind (blind.bind (blind.respects_waitSlot _) fun _ => blind.pure _)
    fun _ => blind.pure _) fun _ => blind.get_bind fun _ => ?_
  refine blind.bind (blind.respects_forIn _ _ fun s _ => blind.bind (blind.respects_modifyRing _) fun _ =>
    blind.bind (blind.bind (blind.respects_destroySlot s) fun _ => blind.pure _) fun _ => blind.pure _)
    fun _ => blind.bind (blind.respects_forIn _ _ fun idx _ => ?_) fun r => ?_
  · refine blind.bind (blind.respects_newSlot idx) fun made => ?_
    cases made with
    | ok s => exact blind.bind (blind.respects_modifyRing _) fun _ => blind.pure _
    | error e => exact blind.pure _
  obtain ⟨stopped, u⟩ := r
  cases stopped with
  | none => exact blind.bind (blind.respects_modifyRing _) fun _ => blind.pure _
  | some e => exact blind.pure _

end FrameBlind

end RenderCore.Context
