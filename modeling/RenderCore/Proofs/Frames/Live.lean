import RenderCore.Proofs.Frames.Ring
namespace RenderCore

namespace Device

def FramesShed (d d' : Device) : Prop :=
  ∀ h : Handle, h.kind = .frame → d'.live.count h ≤ d.live.count h

theorem FramesShed.refl (d : Device) : d.FramesShed d := fun _ _ => Nat.le_refl _

theorem FramesShed.trans {d₁ d₂ d₃ : Device} (first : d₁.FramesShed d₂) (second : d₂.FramesShed d₃) :
    d₁.FramesShed d₃ :=
  fun h frame => Nat.le_trans (second h frame) (first h frame)

theorem framesShed_of_live {d d' : Device} (same : d'.live = d.live) : d.FramesShed d' := by
  intro h _
  rw [same]

def Sheds {α : Type} (x : Act Device α) : Prop :=
  ∀ d a d', x.run d = .ok a d' → d.FramesShed d'

theorem sheds_record (e : Event) : Sheds (record e) := by
  intro d a d' run
  cases run
  exact framesShed_of_live rfl

theorem sheds_wait (target : WaitTarget) : Sheds (wait target) := by
  intro d a d' run
  simp only [wait, record, EStateM.run_bind, EStateM.run_modify, EStateM.run_get] at run
  cases target <;> dsimp only at run <;> split at run <;> cases run <;> exact framesShed_of_live rfl

theorem sheds_acquire (frame : Handle) : Sheds (acquire frame) := by
  intro d a d' run
  simp only [acquire, record, fresh, EStateM.run_bind, EStateM.run_modify, EStateM.run_get, EStateM.run_set] at run
  split at run <;> cases run <;> exact framesShed_of_live rfl

theorem live_forIn_advance (signals : List SyncPoint) {d d' : Device} {u : PUnit}
    (run : (forIn signals PUnit.unit fun (s : SyncPoint) _ => do
      advance s.semaphore s.value
      pure (ForInStep.yield PUnit.unit)).run d = .ok u d') : d'.live = d.live := by
  induction signals generalizing d with
  | nil =>
    cases run
    rfl
  | cons s rest ih =>
    -- one turn moves a counter, and the rest of the loop runs from there
    have turn : (do advance s.semaphore s.value; pure (ForInStep.yield PUnit.unit) : Act Device _).run d =
        .ok (.yield PUnit.unit)
          { d with gauges := (s.semaphore, (d.gauge s.semaphore).advance s.value) ::
            d.gauges.filter (·.1 != s.semaphore) } := rfl
    rw [List.forIn_cons, EStateM.run_bind, turn] at run
    dsimp only at run
    have rest := ih run
    exact rest

theorem sheds_submit (frame : Handle) (commandBuffers : Nat) (waits signals : List SyncPoint) (present : Bool) :
    Sheds (submit frame commandBuffers waits signals present) := by
  intro d a d' run
  simp only [submit, record, EStateM.run_bind, EStateM.run_modify, EStateM.run_get, EStateM.run_set] at run
  split at run
  · -- signals reach their semaphores at once
    obtain ⟨u, d₁, advanced, run⟩ := Act.run_bind_ok run
    cases run
    have same := live_forIn_advance signals advanced
    exact framesShed_of_live same
  · cases run
    exact framesShed_of_live rfl

theorem sheds_destroy (h : Handle) : Sheds (destroy h) := by
  intro d a d' run
  simp only [destroy, record, EStateM.run_bind, EStateM.run_get] at run
  split at run
  · cases run
    intro k _
    exact (List.filter_sublist.trans List.erase_sublist).count_le _
  · cases run

theorem sheds_create {kind : HandleKind} (other : kind ≠ .frame) (pool : Option Handle) :
    Sheds (create kind pool) := by
  have made : Sheds (create.made kind pool) := by
    intro d a d' run h frame
    have apart : h ≠ ⟨kind, d.next⟩ := by
      rintro rfl
      exact other frame
    simp only [create.made, track, fresh, record, EStateM.run_bind, EStateM.run_modifyGet,
      EStateM.run_modify, EStateM.run_pure] at run
    -- the new object is live once more, and a set is also filed under its pool
    cases pool <;> simp only [EStateM.run_bind, EStateM.run_modify, EStateM.run_pure,
      EStateM.Result.ok.injEq] at run <;> obtain ⟨-, rfl⟩ := run <;>
      simp [List.count_append, List.count_eq_zero_of_not_mem, apart]
  intro d a d' run
  simp only [create, EStateM.run_bind, EStateM.run_get] at run
  split at run
  · split at run
    · simp only [EStateM.run_bind, EStateM.run_set, EStateM.run_pure, EStateM.Result.ok.injEq] at run
      obtain ⟨-, rfl⟩ := run
      exact framesShed_of_live rfl
    · exact made _ _ _ run
  · exact made _ _ _ run

end Device

namespace Context

def Sheds {α : Type} (x : Act Context α) : Prop :=
  ∀ c a c', x.run c = .ok a c' → c.device.FramesShed c'.device

namespace Sheds

variable {α γ : Type}

theorem shed_trans (c₁ c₂ c₃ : Context) (first : c₁.device.FramesShed c₂.device)
    (second : c₂.device.FramesShed c₃.device) : c₁.device.FramesShed c₃.device :=
  first.trans second

theorem of_pure (a : α) : Sheds (pure a : Act Context α) :=
  Act.Respects.of_pure (R := fun (c c' : Context) => c.device.FramesShed c'.device)
    (fun c => Device.FramesShed.refl c.device) a

theorem bind {x : Act Context α} {f : α → Act Context γ} (first : Sheds x) (rest : ∀ a, Sheds (f a)) :
    Sheds (x >>= f) :=
  Act.Respects.bind shed_trans first rest

theorem of_get : Sheds (get : Act Context Context) :=
  Act.Respects.of_get fun c => Device.FramesShed.refl c.device

theorem of_modify {f : Context → Context} (keeps : ∀ c, (f c).device = c.device) : Sheds (modify f) :=
  Act.Respects.of_modify fun c => Device.framesShed_of_live (by rw [keeps])

theorem of_fail (e : Error) : Sheds (Act.fail e : Act Context α) :=
  Act.Respects.of_fail e

theorem of_device {x : Act Device α} (sheds : Device.Sheds x) : Sheds (device! x) :=
  Act.Respects.of_device fun c a d' ran => sheds c.device a d' ran

theorem ite {p : Prop} [Decidable p] {x y : Act Context α} (yes : Sheds x) (no : Sheds y) :
    Sheds (if p then x else y) :=
  Act.Respects.ite yes no

theorem forIn {δ : Type} (xs : List δ) (b : γ) {f : δ → γ → Act Context (ForInStep γ)}
    (body : ∀ x b, Sheds (f x b)) : Sheds (ForIn.forIn xs b f) :=
  Act.Respects.forIn (R := fun (c c' : Context) => c.device.FramesShed c'.device)
    (fun c => Device.FramesShed.refl c.device) shed_trans xs b body

theorem onFault {x : Act Context α} (sheds : Sheds x) (cleanup : Act Context Unit) :
    Sheds (Act.onFault x cleanup) :=
  Act.Respects.onFault sheds cleanup

end Sheds

section Actions

theorem sheds_modifyTimeline (i : Nat) (f : Timeline → Timeline) : Sheds (modifyTimeline i f) :=
  Sheds.of_modify fun _ => rfl

theorem sheds_modifyRing (f : Ring → Ring) : Sheds (modifyRing f) :=
  Sheds.of_modify fun _ => rfl

theorem sheds_waitFor (i : Nat) (value : UInt64) : Sheds (waitFor i value) := by
  unfold waitFor
  refine Sheds.bind Sheds.of_get fun c => Sheds.ite (Sheds.of_pure _) ?_
  exact Sheds.bind (Sheds.of_device (Device.sheds_wait _)) fun _ => sheds_modifyTimeline _ _

theorem sheds_letGo (i : Nat) : Sheds (letGo i) := by
  unfold letGo
  refine Sheds.bind (sheds_modifyTimeline _ _) fun _ => Sheds.bind Sheds.of_get fun c => ?_
  refine Sheds.ite ?_ (Sheds.of_pure _)
  exact Sheds.bind (sheds_waitFor _ _) fun _ => Sheds.of_device (Device.sheds_destroy _)

theorem sheds_submitted (t : Ticket) : Sheds (submitted t) :=
  Sheds.bind (sheds_modifyTimeline _ _) fun _ => sheds_letGo _

theorem sheds_runDestroyer (d : Destroyer) : Sheds (runDestroyer d) := by
  cases d with
  | release s => exact Sheds.of_modify fun _ => rfl
  | destroy h => exact Sheds.of_device (Device.sheds_destroy _)
  | note id => exact Sheds.of_device (Device.sheds_record _)

theorem sheds_runDestroyers (ds : List Destroyer) : Sheds (runDestroyers ds) := by
  unfold runDestroyers
  refine Sheds.bind (Sheds.forIn ds _ fun d _ => ?_) fun _ => Sheds.of_pure _
  exact Sheds.bind (sheds_runDestroyer d) fun _ => Sheds.of_pure _

theorem sheds_awaitSlot (s : Slot) : Sheds (awaitSlot s) := by
  unfold awaitSlot
  cases s.waiter with
  | some w => exact Sheds.bind (Sheds.onFault (sheds_waitFor _ _) _) fun _ => sheds_letGo _
  | none => exact Sheds.of_device (Device.sheds_wait _)

theorem sheds_destroyTransient (hs : List Handle) : Sheds (destroyTransient hs) :=
  Sheds.bind (Sheds.forIn _ _ fun _ _ => Sheds.bind (Sheds.of_device (Device.sheds_destroy _)) fun _ =>
    Sheds.of_pure _) fun _ => Sheds.of_pure _

theorem sheds_reclaim (s : Slot) : Sheds (reclaim s) :=
  Sheds.bind (sheds_awaitSlot s) fun _ => Sheds.bind (sheds_destroyTransient _) fun _ => sheds_runDestroyers _

theorem sheds_waitSlot (i : Nat) : Sheds (waitSlot i) :=
  Sheds.bind Sheds.of_get fun _ => Sheds.bind (sheds_modifyRing _) fun _ => Sheds.bind (sheds_awaitSlot _) fun _ =>
    Sheds.bind (sheds_modifyRing _) fun _ => Sheds.bind (sheds_destroyTransient _) fun _ =>
      Sheds.bind (sheds_modifyRing _) fun _ => sheds_runDestroyers _

theorem sheds_beginFrame : Sheds beginFrame := by
  unfold beginFrame
  -- beginning while a frame records is a misuse; otherwise the slot is waited for and the frame logged
  refine Sheds.bind Sheds.of_get fun c => Sheds.ite (Sheds.bind (Sheds.of_fail _) fun _ => ?_) ?_
  all_goals
    refine Sheds.bind Sheds.of_get fun c => Sheds.bind ?_ fun _ => Sheds.bind Sheds.of_get fun c => ?_
    · intro c₀ u c₁ run
      rw [Act.run_discard] at run
      split at run
      · cases run
        exact sheds_waitSlot _ _ _ _ ‹_›
      · cases run
    · exact Sheds.bind (Sheds.of_device (Device.sheds_record _)) fun _ =>
        Sheds.bind (sheds_modifyRing _) fun _ => Sheds.of_pure _

theorem sheds_surface (f : Frame) : Sheds (surface f) := by
  unfold surface
  refine Sheds.bind Sheds.of_get fun c => Sheds.ite (Sheds.of_pure _) ?_
  refine Sheds.ite (Sheds.of_pure _) (Sheds.bind Sheds.of_get fun c => ?_)
  refine Sheds.bind (Sheds.of_device (Device.sheds_wait _)) fun _ =>
    Sheds.bind (Sheds.of_device (Device.sheds_acquire _)) fun acquired => ?_
  split
  · exact Sheds.of_fail _
  · exact Sheds.bind (sheds_modifyRing _) fun _ => Sheds.of_pure _
  · exact Sheds.bind (sheds_modifyRing _) fun _ => Sheds.of_pure _

theorem sheds_scratch (f : Frame) (name : String) (size : UInt64) (usage : BufferUsage) :
    Sheds (scratch f name size usage) := by
  unfold scratch
  refine Sheds.bind (Sheds.of_device (Device.sheds_create (by decide) _)) fun made => ?_
  split
  · exact Sheds.of_fail _
  · exact Sheds.bind (sheds_modifyRing _) fun _ => Sheds.bind (sheds_modifyRing _) fun _ => Sheds.of_pure _

theorem sheds_commandBuffer (f : Frame) (name : String) : Sheds (commandBuffer f name) := by
  unfold commandBuffer
  refine Sheds.bind (Sheds.of_device (Device.sheds_create (by decide) _)) fun made => ?_
  split
  · exact Sheds.of_fail _
  · exact Sheds.bind (sheds_modifyRing _) fun _ => Sheds.bind (sheds_modifyRing _) fun _ => Sheds.of_pure _

theorem sheds_closeUnsubmitted (f : Frame) : Sheds (closeUnsubmitted f) := by
  unfold closeUnsubmitted
  refine Sheds.bind Sheds.of_get fun c => Sheds.bind (Sheds.of_device (Device.sheds_record _)) fun _ => ?_
  refine Sheds.bind Sheds.of_get fun c => Sheds.bind (sheds_modifyRing _) fun _ => ?_
  split
  · exact sheds_letGo _
  · exact Sheds.of_pure _

theorem sheds_dropTickets (f : Frame) : Sheds (dropTickets f) :=
  Sheds.bind (sheds_modifyRing _) fun _ => Sheds.bind
    (Sheds.forIn _ _ fun _ _ => Sheds.bind (sheds_letGo _) fun _ => Sheds.of_pure _) fun _ => Sheds.of_pure _

theorem sheds_cancel (f : Frame) : Sheds (cancel f) := by
  unfold cancel
  -- cancelling a frame that made objects is a misuse, which never finishes
  refine Sheds.ite (Sheds.bind (Sheds.onFault (Sheds.of_fail _) _) fun _ => ?_) ?_
  all_goals exact Sheds.bind (sheds_closeUnsubmitted f) fun _ => sheds_dropTickets f

theorem sheds_endFrame (f : Frame) (w : Option Waiter) (ds : List Destroyer) : Sheds (endFrame f w ds) := by
  unfold endFrame
  refine Sheds.bind (Sheds.onFault ?_ _) fun _ => ?_
  · refine Sheds.ite (Sheds.bind (Sheds.of_fail _) fun _ => ?_) ?_
    all_goals
      refine Sheds.bind Sheds.of_get fun c₀ => Sheds.ite ?_ (Sheds.of_pure _)
      refine Sheds.bind (Sheds.of_device (Device.sheds_submit _ _ _ _ _)) fun result => ?_
      split
      · exact Sheds.of_fail _
      · refine Sheds.bind (sheds_modifyRing _) fun _ => Sheds.bind ?_ fun _ =>
          Sheds.ite (sheds_modifyRing _) (Sheds.of_pure _)
        exact Sheds.forIn _ _ fun t _ => Sheds.bind (sheds_submitted t) fun _ => Sheds.of_pure _
  · refine Sheds.bind Sheds.of_get fun c => Sheds.bind (Sheds.of_device (Device.sheds_record _)) fun _ => ?_
    exact Sheds.bind Sheds.of_get fun c => Sheds.bind (sheds_modifyRing _) fun _ =>
      Sheds.bind (sheds_modifyRing _) fun _ => sheds_modifyRing _

theorem sheds_deferDestroy (f : Frame) (d : Destroyer) : Sheds (deferDestroy f d) :=
  Sheds.of_modify fun _ => rfl

theorem sheds_queueDestroy (d : Destroyer) : Sheds (queueDestroy d) :=
  sheds_modifyRing _

theorem sheds_waitAll : Sheds waitAll := by
  unfold waitAll
  refine Sheds.bind Sheds.of_get fun c => Sheds.ite (Sheds.of_pure _) ?_
  refine Sheds.bind Sheds.of_get fun c => Sheds.bind (Sheds.forIn _ _ fun i n => ?_) fun n => ?_
  · exact Sheds.bind (sheds_waitSlot i) fun _ => Sheds.of_pure _
  · exact Sheds.bind Sheds.of_get fun c => Sheds.bind (sheds_modifyRing _) fun _ =>
      Sheds.bind (sheds_runDestroyers _) fun _ => Sheds.of_pure _

end Actions

end Context

end RenderCore
