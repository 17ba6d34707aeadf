import RenderCore.Proofs.Frames.Reclaim
namespace RenderCore

theorem List.modify_of_fixed {α : Type} (l : List α) (i : Nat) (g : α → α) (fixed : ∀ a, l[i]? = some a → g a = a) :
    l.modify i g = l := by
  apply List.ext_getElem?
  intro j
  rw [List.getElem?_modify]
  by_cases same : i = j
  · subst same
    cases found : l[i]? with
    | none => rfl
    | some a => simp [fixed a found]
  · cases l[j]? <;> simp [same]

-- What an operation of the frame being recorded did, as far as cancelling goes.
inductive FrameOp where
  | surface (image : Option Handle)
  | scratch
  | commandBuffer
  | wait
  | signal
  | defer
deriving DecidableEq

def FrameOp.keepsCancelable : FrameOp → Bool
  | .surface image => image.isNone
  | .scratch | .commandBuffer | .signal => false
  | .wait | .defer => true

namespace Context

variable {c c' : Context} {f : Frame}

theorem waiter_slot (c : Context) (i : Nat) : (c.slot i).waiter = ((c.ring.slots.map (·.waiter))[i]?).getD none := by
  simp only [slot, List.getElem?_map]
  cases c.ring.slots[i]? <;> rfl

@[simp] theorem slot_device (c : Context) (d : Device) (i : Nat) : ({ c with device := d } : Context).slot i = c.slot i :=
  rfl

theorem waiter_slot_of_waiters (same : c'.ring.slots.map (·.waiter) = c.ring.slots.map (·.waiter)) (i : Nat) :
    (c'.slot i).waiter = (c.slot i).waiter := by
  rw [waiter_slot, waiter_slot, same]

theorem frame_beginFrame (run : beginFrame.run c = .ok f c') :
    f = { index := c.ring.index, name := s!"frame_{c.ring.index}" } := by
  simp only [beginFrame, EStateM.run_bind, EStateM.run_get] at run
  split at run
  · simp at run
  · simp only [EStateM.run_bind, EStateM.run_get, Act.run_discard] at run
    cases wait : (waitSlot c.ring.index).run c with
    | error e c₁ => simp [wait] at run
    | ok n c₁ =>
      simp only [wait, run_device!, Device.record, EStateM.run_modify, modifyRing, EStateM.run_pure,
        EStateM.Result.ok.injEq] at run
      exact run.1.symm

theorem run_waitPoint (p : SyncPoint) (c : Context) :
    (waitPoint p).run c =
      .ok () { c with ring := { c.ring with recording := c.ring.recording.map fun f => { f with waits := f.waits ++ [p] } } } :=
  rfl

theorem run_signalTicket (t : Ticket) (c : Context) :
    (signalTicket t).run c =
      .ok () { c with ring := { c.ring with recording := c.ring.recording.map fun f =>
        { f with signals := f.signals ++ [t.point], tickets := f.tickets ++ [t], cancelable := false } } } :=
  rfl

theorem surface_frame {o : Option Handle} (recording : c.ring.recording = some f) (run : (surface f).run c = .ok o c') :
    c'.ring.slots = c.ring.slots ∧
      (c'.ring.recording = some f ∧ (o.isSome → f.surface = o) ∨
        ∃ image, o = some image ∧ c'.ring.recording = some { f with surface := some image, cancelable := false }) := by
  simp only [surface, EStateM.run_bind, EStateM.run_get] at run
  split at run
  · -- the ring sleeps
    rw [EStateM.run_pure, EStateM.Result.ok.injEq] at run
    obtain ⟨rfl, rfl⟩ := run
    exact ⟨rfl, .inl ⟨recording, by simp⟩⟩
  split at run
  · -- the frame holds its image already
    rw [EStateM.run_pure, EStateM.Result.ok.injEq] at run
    obtain ⟨rfl, rfl⟩ := run
    exact ⟨rfl, .inl ⟨recording, fun _ => rfl⟩⟩
  simp only [EStateM.run_bind, EStateM.run_get] at run
  cases waited : (device! (Device.wait (.frame (c.frameHandle f)))).run c with
  | error e c₁ => simp [waited] at run
  | ok u c₁ =>
    have same₁ := (keepsRing_device _).ring waited
    simp only [waited] at run
    cases acquired : (device! (Device.acquire (c.frameHandle f))).run c₁ with
    | error e c₂ => simp [acquired] at run
    | ok a c₂ =>
      have same₂ := (keepsRing_device _).ring acquired
      simp only [acquired] at run
      split at run
      · simp at run
      · -- the surface is out of date: the ring goes to sleep
        simp only [modifyRing, EStateM.run_bind, EStateM.run_modify, EStateM.run_pure, EStateM.Result.ok.injEq] at run
        obtain ⟨rfl, rfl⟩ := run
        exact ⟨by simp [same₂, same₁], .inl ⟨by simp [same₂, same₁, recording], by simp⟩⟩
      · rename_i _ image
        simp only [modifyFrame, modifyRing, EStateM.run_bind, EStateM.run_modify, EStateM.run_pure,
          EStateM.Result.ok.injEq] at run
        obtain ⟨rfl, rfl⟩ := run
        exact ⟨by simp [same₂, same₁], .inr ⟨image, rfl, by simp [same₂, same₁, recording]⟩⟩

end Context

structure Recording (c : Context) (f : Frame) : Prop where
  current : c.ring.recording = some f
  waiterless : (c.slot f.index).waiter = none
  ticketless : f.cancelable = true → f.tickets = []
  committed : f.surface.isSome → f.cancelable = false

inductive FrameWork : Context → FrameOp → Context → Prop
  | surface {c c' : Context} {f : Frame} {o : Option Handle} (recording : c.ring.recording = some f)
      (run : (Context.surface f).run c = .ok o c') : FrameWork c (.surface o) c'
  | scratch {c c' : Context} {f : Frame} (recording : c.ring.recording = some f) (name : String) (size : UInt64)
      (usage : BufferUsage) {b : Scratch} (run : (Context.scratch f name size usage).run c = .ok b c') :
      FrameWork c .scratch c'
  | commandBuffer {c c' : Context} {f : Frame} (recording : c.ring.recording = some f) (name : String) {h : Handle}
      (run : (Context.commandBuffer f name).run c = .ok h c') : FrameWork c .commandBuffer c'
  | wait {c c' : Context} {f : Frame} (recording : c.ring.recording = some f) (p : SyncPoint)
      (run : (Context.waitPoint p).run c = .ok () c') : FrameWork c .wait c'
  | signal {c c' : Context} {f : Frame} (recording : c.ring.recording = some f) (t : Ticket)
      (run : (Context.signalTicket t).run c = .ok () c') : FrameWork c .signal c'
  | defer {c c' : Context} {f : Frame} (recording : c.ring.recording = some f) (d : Destroyer)
      (run : (Context.deferDestroy f d).run c = .ok () c') : FrameWork c .defer c'

inductive FrameHistory : Context → List FrameOp → Context → Prop
  | begun {c : Context} : FrameHistory c [] c
  | step {c c₁ c' : Context} {ops : List FrameOp} {op : FrameOp} (history : FrameHistory c ops c₁)
      (work : FrameWork c₁ op c') : FrameHistory c (ops ++ [op]) c'

namespace Recording

variable {c c' : Context} {f : Frame}

theorem update (recording : Recording c f) (f' : Frame) (index : f'.index = f.index)
    (current : c'.ring.recording = some f')
    (waiters : c'.ring.slots.map (·.waiter) = c.ring.slots.map (·.waiter))
    (ticketless : f'.cancelable = true → f'.tickets = []) (committed : f'.surface.isSome → f'.cancelable = false) :
    Recording c' f' :=
  ⟨current, by rw [index, Context.waiter_slot_of_waiters waiters, recording.waiterless], ticketless, committed⟩

theorem commit (recording : Recording c f) (f' : Frame) (index : f'.index = f.index)
    (current : c'.ring.recording = some f')
    (waiters : c'.ring.slots.map (·.waiter) = c.ring.slots.map (·.waiter)) (committed : f'.cancelable = false) :
    Recording c' f' :=
  recording.update f' index current waiters (by simp [committed]) fun _ => committed

theorem step {op : FrameOp} (recording : Recording c f) (work : FrameWork c op c') :
    ∃ f', Recording c' f' ∧ f'.cancelable = (f.cancelable && op.keepsCancelable) := by
  cases work with
  | surface current run =>
    cases recording.current.symm.trans current
    obtain ⟨slots, kept | ⟨image, rfl, moved⟩⟩ := Context.surface_frame current run
    · obtain ⟨now, held⟩ := kept
      refine ⟨f, recording.update f rfl now (by rw [slots]) recording.ticketless recording.committed, ?_⟩
      -- an image returned without acquiring one is the one the frame already holds
      cases o : ‹Option Handle› with
      | none => simp [FrameOp.keepsCancelable]
      | some image => simp [FrameOp.keepsCancelable, recording.committed (by simp [held (by simp [o]), o])]
    · exact ⟨_, recording.commit { f with surface := some image, cancelable := false } rfl moved (by rw [slots]) rfl,
        by simp [FrameOp.keepsCancelable]⟩
  | scratch current name size usage run =>
    cases recording.current.symm.trans current
    have moved := Context.ring_scratch run
    refine ⟨_, recording.commit { f with cancelable := false } rfl (by simp [moved, current]) ?_ rfl,
      by simp [FrameOp.keepsCancelable]⟩
    rw [moved]
    exact map_modify_of_eq _ _ _ _ fun _ => rfl
  | commandBuffer current name run =>
    cases recording.current.symm.trans current
    rename_i h
    have moved := Context.ring_commandBuffer run
    refine ⟨_, recording.commit { f with cancelable := false, commandBuffers := f.commandBuffers ++ [h] } rfl
      (by simp [moved, current]) ?_ rfl, by simp [FrameOp.keepsCancelable]⟩
    rw [moved]
    exact map_modify_of_eq _ _ _ _ fun _ => rfl
  | wait current p run =>
    cases recording.current.symm.trans current
    rw [Context.run_waitPoint, EStateM.Result.ok.injEq] at run
    obtain ⟨-, rfl⟩ := run
    exact ⟨_, recording.update { f with waits := f.waits ++ [p] } rfl (by simp [current]) rfl recording.ticketless
      recording.committed, by simp [FrameOp.keepsCancelable]⟩
  | signal current t run =>
    cases recording.current.symm.trans current
    rw [Context.run_signalTicket, EStateM.Result.ok.injEq] at run
    obtain ⟨-, rfl⟩ := run
    exact ⟨_, recording.commit { f with signals := f.signals ++ [t.point], tickets := f.tickets ++ [t], cancelable := false }
      rfl (by simp [current]) rfl rfl, by simp [FrameOp.keepsCancelable]⟩
  | defer current d run =>
    cases recording.current.symm.trans current
    rw [Context.run_deferDestroy, EStateM.Result.ok.injEq] at run
    obtain ⟨-, rfl⟩ := run
    refine ⟨f, recording.update f rfl current ?_ recording.ticketless recording.committed,
      by simp [FrameOp.keepsCancelable]⟩
    exact map_modify_of_eq _ _ _ _ fun _ => rfl

theorem history {ops : List FrameOp} (recording : Recording c f) (history : FrameHistory c ops c') :
    ∃ f', Recording c' f' ∧ f'.cancelable = (f.cancelable && ops.all FrameOp.keepsCancelable) := by
  induction history with
  | begun => exact ⟨f, recording, by simp⟩
  | step _ work ih =>
    obtain ⟨f₁, recording₁, cancelable₁⟩ := ih
    obtain ⟨f', recording', cancelable'⟩ := recording₁.step work
    exact ⟨f', recording', by simp [cancelable', cancelable₁, Bool.and_assoc]⟩

end Recording

namespace Context

variable {c c' : Context} {f : Frame}

theorem recording_beginFrame (run : beginFrame.run c = .ok f c') : Recording c' f ∧ f.cancelable = true := by
  obtain ⟨-, index, moved⟩ := ring_beginFrame run
  have fresh := frame_beginFrame run
  refine ⟨⟨by rw [moved], ?_, by simp [fresh], by simp [fresh]⟩, by simp [fresh]⟩
  -- the frame's slot was just waited for, which let its waiter go
  simp only [slot, moved, index, List.getElem?_modify_eq]
  cases c.ring.slots[c.ring.index]? <;> rfl

abbrev cancelled (c : Context) (f : Frame) : Context :=
  { c with device := { c.device with log := c.device.log.push (.endFrame (c.slot f.index).handle) }
           ring := { c.ring with recording := none } }

theorem run_close (recording : Recording c f) (ticketless : f.tickets = []) :
    (do closeUnsubmitted f; dropTickets f : Act Context Unit).run c = .ok () (c.cancelled f) := by
  have kept : c.ring.slots.modify f.index (fun s => { s with waiter := none }) = c.ring.slots :=
    List.modify_of_fixed _ _ _ fun s found => by
      have none : s.waiter = none := by simpa [slot, found] using recording.waiterless
      simp [← none]
  simp [closeUnsubmitted, dropTickets, frameHandle, modifySlot, modifyRing, recording.waiterless, ticketless, kept,
    Device.record]

theorem run_cancel_cancelable (recording : Recording c f) (cancelable : f.cancelable = true) :
    (cancel f).run c = .ok () (c.cancelled f) := by
  have closed := run_close recording (recording.ticketless cancelable)
  simp only [cancel, cancelable, Bool.not_true, Bool.false_eq_true, if_false] at closed ⊢
  simpa using closed

theorem run_cancel_committed (committed : f.cancelable = false) :
    ∃ c', (cancel f).run c = .error (.fatal (.misuse (.cancelAfterResources f.name))) c' := by
  simp only [cancel, committed, Bool.not_false, if_true, EStateM.run_bind, Act.run_onFault, Act.run_fail]
  -- unwinding abandons the frame, and the misuse stands whatever that does
  cases (abandon f).run c <;> exact ⟨_, rfl⟩

theorem run_dropFrame_cancelable (recording : Recording c f) (cancelable : f.cancelable = true) :
    (dropFrame f).run c = .ok () (c.cancelled f) := by
  simpa [dropFrame, cancelable] using run_close recording (recording.ticketless cancelable)

theorem run_dropFrame_committed (committed : f.cancelable = false) :
    ∃ c', (dropFrame f).run c = .error (.fatal (.misuse (.droppedUnended f.name))) c' := by
  simp only [dropFrame, committed, Bool.false_eq_true, if_false, Act.run_onFault, Act.run_fail]
  cases (dropTickets f).run c <;> exact ⟨_, rfl⟩

end Context

theorem frames_cancel_until_committed {c₀ c₁ c : Context} {f₀ : Frame} {ops : List FrameOp}
    (begun : Context.beginFrame.run c₀ = .ok f₀ c₁) (history : FrameHistory c₁ ops c) :
    ∃ f, c.ring.recording = some f ∧ (f.cancelable = true ↔ ∀ op ∈ ops, op.keepsCancelable = true) ∧
      (f.cancelable = true →
        (Context.cancel f).run c = .ok () (c.cancelled f) ∧ (Context.dropFrame f).run c = .ok () (c.cancelled f)) ∧
      (f.cancelable = false →
        (∃ c', (Context.cancel f).run c = .error (.fatal (.misuse (.cancelAfterResources f.name))) c') ∧
        ∃ c', (Context.dropFrame f).run c = .error (.fatal (.misuse (.droppedUnended f.name))) c') := by
  obtain ⟨start, fresh⟩ := Context.recording_beginFrame begun
  obtain ⟨f, recording, cancelable⟩ := start.history history
  refine ⟨f, recording.current, by simp [cancelable, fresh], fun yes => ?_, fun no => ?_⟩
  · exact ⟨Context.run_cancel_cancelable recording yes, Context.run_dropFrame_cancelable recording yes⟩
  · exact ⟨Context.run_cancel_committed no, Context.run_dropFrame_committed no⟩

-- A frame on a ring of one slot whose surface is out of date: it stays cancelable, and cancelling it
-- logs its end.
theorem out_of_date_frame_cancels :
    ∃ f₀ c₁ c, Context.beginFrame.run { (default : Context) with
        ring := { slots := [{ handle := ⟨.frame, 0x1000⟩ }], len := 1 }, device := { acquireScript := [.outOfDate] } } =
        .ok f₀ c₁ ∧ FrameHistory c₁ [.surface none] c ∧
      ∃ f, c.ring.recording = some f ∧ f.cancelable = true ∧ (Context.cancel f).run c = .ok () (c.cancelled f) := by
  refine ⟨_, _, _, rfl, .step .begun (.surface rfl rfl), ?_⟩
  obtain ⟨f, current, cancelable, cancels, -⟩ := @frames_cancel_until_committed { (default : Context) with
    ring := { slots := [{ handle := ⟨.frame, 0x1000⟩ }], len := 1 }, device := { acquireScript := [.outOfDate] } }
    _ _ _ _ rfl (.step .begun (.surface rfl rfl))
  have yes : f.cancelable = true := cancelable.mpr (by simp [FrameOp.keepsCancelable])
  exact ⟨f, current, yes, (cancels yes).1⟩

end RenderCore
