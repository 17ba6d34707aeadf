import RenderCore.Proofs.Timelines.Signals
namespace RenderCore

def lastWait (h : Handle) (observed gpuPending : UInt64) : List Event :=
  if gpuPending ≤ observed then [] else [.wait (.semaphore h gpuPending)]

@[simp] theorem count_destroy_lastWait (h h' : Handle) (observed gpuPending : UInt64) :
    (lastWait h observed gpuPending).count (.destroy h') = 0 := by
  unfold lastWait
  split <;> simp

namespace Act

theorem run_bind_error {σ α β : Type} {x : Act σ α} {f : α → Act σ β} {s s' : σ} {e : Fault}
    (run : (x >>= f).run s = .error e s') :
    x.run s = .error e s' ∨ ∃ a s₁, x.run s = .ok a s₁ ∧ (f a).run s₁ = .error e s' := by
  rw [EStateM.run_bind] at run
  split at run
  · exact .inr ⟨_, _, ‹_›, run⟩
  · cases run
    exact .inl ‹_›

end Act

namespace Device

structure Spared (h : Handle) (d d' : Device) : Prop where
  log : ∃ extra, d'.log.toList = d.log.toList ++ extra ∧ extra.count (.destroy h) = 0
  live : (∀ e ∈ d.poolSets, h ∉ e.2) → h ∈ d.live → h ∈ d'.live
  filed : (∀ e ∈ d.poolSets, h ∉ e.2) → ∀ e ∈ d'.poolSets, h ∉ e.2

namespace Spared

variable {h : Handle}

theorem refl (d : Device) : Spared h d d :=
  ⟨⟨[], by simp, rfl⟩, fun _ live => live, fun filed => filed⟩

theorem trans {d₁ d₂ d₃ : Device} (first : Spared h d₁ d₂) (second : Spared h d₂ d₃) : Spared h d₁ d₃ := by
  obtain ⟨extra₁, log₁, none₁⟩ := first.log
  obtain ⟨extra₂, log₂, none₂⟩ := second.log
  refine ⟨⟨extra₁ ++ extra₂, by rw [log₂, log₁, List.append_assoc], by simp [none₁, none₂]⟩,
    fun filed live => second.live (first.filed filed) (first.live filed live),
    fun filed => second.filed (first.filed filed)⟩

theorem of_push {d d' : Device} (e : Event) (other : e ≠ .destroy h) (log : d'.log = d.log.push e)
    (live : d'.live = d.live) (poolSets : d'.poolSets = d.poolSets) : Spared h d d' :=
  ⟨⟨[e], by rw [log, Array.toList_push], by simp [other]⟩, fun _ member => live ▸ member,
    fun filed => poolSets ▸ filed⟩

end Spared

def Spares (h : Handle) {α : Type} (x : Act Device α) : Prop :=
  ∀ d a d', x.run d = .ok a d' → Spared h d d'

variable {h : Handle}

theorem spares_record (e : Event) (other : e ≠ .destroy h) : Spares h (record e) := by
  intro d a d' run
  cases run
  exact Spared.of_push e other rfl rfl rfl

theorem spares_wait (target : WaitTarget) : Spares h (wait target) := by
  intro d a d' run
  obtain rfl := ran_wait (.inl ⟨a, run⟩)
  exact Spared.of_push _ (by simp) rfl rfl rfl

theorem spares_signal (sem : Handle) (v : UInt64) : Spares h (signal sem v) := by
  intro d a d' run
  rw [run_signal] at run
  cases run
  exact Spared.of_push _ (by simp) rfl rfl rfl

theorem spares_destroy {h' : Handle} (other : h' ≠ h) : Spares h (destroy h') := by
  intro d a d' run
  have live : h' ∈ d.live := by
    by_cases dead : h' ∈ d.live
    · exact dead
    · simp [destroy, dead] at run
  rw [run_destroy_live h' d live] at run
  cases run
  refine ⟨⟨[.destroy h'], by rw [Array.toList_push], by simp [other]⟩, fun filed member => ?_, fun filed e kept => ?_⟩
  · refine List.mem_filter.mpr ⟨(List.mem_erase_of_ne (Ne.symm other)).mpr member, ?_⟩
    -- `h` is in no pool's sets, so not in those of `h'`
    have unlisted : h ∉ d.setsOf h' := fun listed => by
      obtain ⟨e, entry, inside⟩ := mem_setsOf d h' h listed
      exact filed e entry inside
    simpa using unlisted
  · exact filed e (List.mem_filter.mp kept).1

theorem spares_acquire (frame : Handle) : Spares h (acquire frame) := by
  intro d a d' run
  simp only [acquire, record, fresh, EStateM.run_bind, EStateM.run_modify, EStateM.run_get, EStateM.run_set] at run
  split at run <;> cases run <;> exact Spared.of_push _ (by simp) rfl rfl rfl

theorem run_destroy_ok {h : Handle} {d d' : Device} {u : Unit} (run : (destroy h).run d = .ok u d') :
    d' = { d with live := (d.live.erase h).filter (fun s => !(d.setsOf h).contains s),
                  poolSets := d.poolSets.filter (·.1 != h), log := d.log.push (.destroy h) } := by
  have live : h ∈ d.live := by
    by_cases dead : h ∈ d.live
    · exact dead
    · simp [destroy, dead] at run
  rw [run_destroy_live h d live] at run
  cases run
  rfl

theorem wait_fault {sem : Handle} {v : UInt64} {d d' : Device} {e : Fault} (run : (wait (.semaphore sem v)).run d = .error e d') :
    d' = { d with log := d.log.push (.wait (.semaphore sem v)) } ∧ d.value sem < v := by
  refine ⟨ran_wait (.inr ⟨e, run⟩), ?_⟩
  simp only [wait, record, EStateM.run_bind, EStateM.run_modify, EStateM.run_get] at run
  split at run
  · cases run
  · rename_i unreached
    exact UInt64.not_le.mp unreached

theorem destroy_fault {h : Handle} {d d' : Device} {e : Fault} (run : (destroy h).run d = .error e d') : h ∉ d.live := by
  intro live
  rw [run_destroy_live h d live] at run
  cases run

theorem forIn_advance_gauges (signals : List SyncPoint) {d d' : Device} {u : PUnit}
    (run : (forIn signals PUnit.unit fun (s : SyncPoint) _ => do
      advance s.semaphore s.value
      pure (ForInStep.yield PUnit.unit)).run d = .ok u d') : d' = { d with gauges := d'.gauges } := by
  induction signals generalizing d with
  | nil =>
    cases run
    rfl
  | cons s rest ih =>
    have turn : (do advance s.semaphore s.value; pure (ForInStep.yield PUnit.unit) : Act Device _).run d =
        .ok (.yield PUnit.unit)
          { d with gauges := (s.semaphore, (d.gauge s.semaphore).advance s.value) ::
            d.gauges.filter (·.1 != s.semaphore) } := rfl
    rw [List.forIn_cons, EStateM.run_bind, turn] at run
    dsimp only at run
    have rest := ih run
    exact rest

theorem spares_submit (frame : Handle) (commandBuffers : Nat) (waits signals : List SyncPoint) (present : Bool) :
    Spares h (submit frame commandBuffers waits signals present) := by
  intro d a d' run
  simp only [submit, record, EStateM.run_bind, EStateM.run_modify, EStateM.run_get, EStateM.run_set] at run
  split at run
  · -- the signals reach their semaphores at once
    obtain ⟨u, d₁, advanced, run⟩ := Act.run_bind_ok run
    cases run
    rw [forIn_advance_gauges signals advanced]
    exact Spared.of_push _ (by simp) rfl rfl rfl
  · cases run
    exact Spared.of_push _ (by simp) rfl rfl rfl

theorem spares_create (kind : HandleKind) : Spares h (create kind) := by
  intro d a d' run
  simp only [create, create.made, track, fresh, record, EStateM.run_bind, EStateM.run_get] at run
  split at run
  · split at run
    · -- an armed failure is used up, and nothing is made
      cases run
      exact ⟨⟨[], by simp, rfl⟩, fun _ member => member, fun filed => filed⟩
    · cases run
      exact ⟨⟨[.create ⟨kind, d.next⟩], by rw [Array.toList_push], by simp⟩,
        fun _ member => List.mem_append_left _ member, fun filed => filed⟩
  · cases run
    exact ⟨⟨[.create ⟨kind, d.next⟩], by rw [Array.toList_push], by simp⟩,
      fun _ member => List.mem_append_left _ member, fun filed => filed⟩

theorem spares_createFrame : Spares h createFrame := by
  intro d a d' run
  simp only [createFrame, EStateM.run_bind, EStateM.run_get] at run
  split at run
  · exact spares_create .frame d a d' run
  · rename_i next rest scripted
    simp only [EStateM.run_bind, EStateM.run_set] at run
    have skipped : Spared h d { d with frameScript := rest } :=
      ⟨⟨[], by simp, rfl⟩, fun _ live => live, fun filed => filed⟩
    cases next with
    | some f =>
      rw [EStateM.run_pure, EStateM.Result.ok.injEq] at run
      obtain ⟨-, rfl⟩ := run
      exact skipped
    | none => exact skipped.trans (spares_create .frame _ a d' run)

end Device

namespace Context

@[simp] theorem timeline_device (c : Context) (d : Device) (j : Nat) :
    ({ c with device := d } : Context).timeline j = c.timeline j :=
  rfl

structure Moves (i : Nat) (h : Handle) (k : Nat) (vs : List UInt64) (c c' : Context) : Prop where
  size : c'.timelines.size = c.timelines.size
  handles : ∀ j, (c'.timeline j).handle = (c.timeline j).handle
  holders : (c'.timeline i).holders + k = (c.timeline i).holders
  raised : vs.length ≤ k
  gpuPending : (c'.timeline i).gpuPending = vs.foldl max (c.timeline i).gpuPending
  live : (∀ e ∈ c.device.poolSets, h ∉ e.2) → 0 < (c'.timeline i).holders → h ∈ c.device.live → h ∈ c'.device.live
  filed : (∀ e ∈ c.device.poolSets, h ∉ e.2) → ∀ e ∈ c'.device.poolSets, h ∉ e.2
  log : ∃ extra, c'.device.log.toList = c.device.log.toList ++ extra ∧
    extra.count (.destroy h) = (if (c'.timeline i).holders = 0 ∧ 0 < (c.timeline i).holders then 1 else 0) ∧
    ((c'.timeline i).holders = 0 → 0 < (c.timeline i).holders →
      ∃ a b o, extra = a ++ lastWait h o (c'.timeline i).gpuPending ++ .destroy h :: b)

namespace Moves

variable {i : Nat} {h : Handle}

theorem refl (c : Context) : Moves i h 0 [] c c where
  size := rfl
  handles _ := rfl
  holders := rfl
  raised := Nat.le_refl _
  gpuPending := rfl
  live _ _ member := member
  filed filed := filed
  log := ⟨[], by simp, by simp only [List.count_nil]; split <;> omega, fun gone held => by omega⟩

theorem trans {k₁ k₂ : Nat} {vs₁ vs₂ : List UInt64} {c₁ c₂ c₃ : Context} (first : Moves i h k₁ vs₁ c₁ c₂)
    (second : Moves i h k₂ vs₂ c₂ c₃) : Moves i h (k₁ + k₂) (vs₁ ++ vs₂) c₁ c₃ := by
  obtain ⟨extra₁, log₁, count₁, last₁⟩ := first.log
  obtain ⟨extra₂, log₂, count₂, last₂⟩ := second.log
  have held₁ := first.holders
  have held₂ := second.holders
  have raised₁ := first.raised
  have raised₂ := second.raised
  refine ⟨second.size.trans first.size, fun j => (second.handles j).trans (first.handles j), by omega,
    by simp only [List.length_append]; omega, by rw [second.gpuPending, first.gpuPending, List.foldl_append],
    fun filed held live => second.live (first.filed filed) held (first.live filed (by omega) live),
    fun filed => second.filed (first.filed filed), extra₁ ++ extra₂, by rw [log₂, log₁, List.append_assoc], ?_, ?_⟩
  · rw [List.count_append, count₁, count₂]
    split <;> split <;> split <;> omega
  · intro gone held
    by_cases middle : (c₂.timeline i).holders = 0
    · -- the last holder went in the first move: the second lets go of nothing and raises nothing
      obtain ⟨a, b, o, split₁⟩ := last₁ middle held
      have none : vs₂ = [] := List.eq_nil_of_length_eq_zero (by omega)
      have same : (c₃.timeline i).gpuPending = (c₂.timeline i).gpuPending := by
        rw [second.gpuPending, none]
        rfl
      exact ⟨a, b ++ extra₂, o, by rw [split₁, same]; simp⟩
    · obtain ⟨a, b, o, split₂⟩ := last₂ gone (Nat.pos_of_ne_zero middle)
      exact ⟨extra₁ ++ a, b, o, by rw [split₂]; simp⟩

theorem of_device {c : Context} {d' : Device} (spared : Device.Spared h c.device d') :
    Moves i h 0 [] c { c with device := d' } := by
  obtain ⟨extra, log, none⟩ := spared.log
  refine ⟨rfl, fun _ => rfl, rfl, Nat.le_refl _, rfl, fun filed _ => spared.live filed, spared.filed,
    extra, log, ?_, fun gone held => absurd gone (Nat.pos_iff_ne_zero.mp held)⟩
  change extra.count (.destroy h) = if (c.timeline i).holders = 0 ∧ 0 < (c.timeline i).holders then 1 else 0
  rw [none]
  split <;> omega

theorem of_same {c c' : Context} (timelines : c'.timelines = c.timelines) (device : c'.device = c.device) :
    Moves i h 0 [] c c' := by
  have same : ∀ j, c'.timeline j = c.timeline j := fun j => by simp only [timeline, timelines]
  refine ⟨by rw [timelines], fun j => by rw [same], by rw [same]; rfl, Nat.le_refl _, by rw [same]; rfl,
    fun _ _ member => device ▸ member, fun filed => device ▸ filed, [], by rw [device]; simp, ?_, ?_⟩
  · simp only [List.count_nil, same]
    split <;> omega
  · intro gone held
    rw [same] at gone
    omega

theorem of_modify {c : Context} (j : Nat) (f : Timeline → Timeline)
    (handle : (f (c.timeline j)).handle = (c.timeline j).handle)
    (holders : j = i → (f (c.timeline j)).holders = (c.timeline j).holders)
    (gpuPending : j = i → (f (c.timeline j)).gpuPending = (c.timeline j).gpuPending) :
    Moves i h 0 [] c { c with timelines := c.timelines.modify j f } := by
  have changed := fun m => timeline_modify c j m f
  have kept : ((({ c with timelines := c.timelines.modify j f } : Context).timeline i).holders =
      (c.timeline i).holders) ∧ ((({ c with timelines := c.timelines.modify j f } : Context).timeline i).gpuPending =
      (c.timeline i).gpuPending) := by
    rw [changed]
    split
    · rename_i same
      obtain ⟨rfl, -⟩ := same
      exact ⟨holders rfl, gpuPending rfl⟩
    · exact ⟨rfl, rfl⟩
  refine ⟨Array.size_modify, fun m => ?_, by rw [kept.1]; rfl, Nat.le_refl _, kept.2, fun _ _ member => member,
    fun filed => filed, [], by simp, by simp only [List.count_nil, kept.1]; split <;> omega,
    fun gone held => by rw [kept.1] at gone; omega⟩
  rw [changed]
  split
  · rename_i same
    obtain ⟨rfl, -⟩ := same
    exact handle
  · rfl

end Moves

def MovesBy (i : Nat) (h : Handle) (k : Nat) (vs : List UInt64) {α : Type} (x : Act Context α) (c : Context) :
    Prop :=
  ∀ a c', x.run c = .ok a c' → Moves i h k vs c c'

namespace MovesBy

variable {i : Nat} {h : Handle} {k k₁ k₂ : Nat} {vs vs₁ vs₂ : List UInt64} {α β : Type} {c : Context}

theorem pure (a : α) : MovesBy i h 0 [] (Pure.pure a : Act Context α) c := by
  intro b c' run
  cases run
  exact Moves.refl c

theorem bind {x : Act Context α} {f : α → Act Context β} (first : MovesBy i h k₁ vs₁ x c)
    (rest : ∀ a c₁, x.run c = .ok a c₁ → Moves i h k₁ vs₁ c c₁ → MovesBy i h k₂ vs₂ (f a) c₁) :
    MovesBy i h (k₁ + k₂) (vs₁ ++ vs₂) (x >>= f) c := by
  intro b c' run
  obtain ⟨a, c₁, finished, later⟩ := Act.run_bind_ok run
  exact (first a c₁ finished).trans (rest a c₁ finished (first a c₁ finished) b c' later)

theorem bind_still {x : Act Context α} {f : α → Act Context β} (first : MovesBy i h 0 [] x c)
    (rest : ∀ a c₁, x.run c = .ok a c₁ → Moves i h 0 [] c c₁ → MovesBy i h k vs (f a) c₁) :
    MovesBy i h k vs (x >>= f) c := by
  simpa using bind first rest

theorem bind_then_still {x : Act Context α} {f : α → Act Context β} (first : MovesBy i h k vs x c)
    (rest : ∀ a c₁, x.run c = .ok a c₁ → Moves i h k vs c c₁ → MovesBy i h 0 [] (f a) c₁) :
    MovesBy i h k vs (x >>= f) c := by
  simpa using bind first rest

theorem get_bind {f : Context → Act Context β} (rest : MovesBy i h k vs (f c) c) : MovesBy i h k vs (get >>= f) c :=
  rest

theorem ite {p : Prop} [Decidable p] {x y : Act Context α} (yes : p → MovesBy i h k vs x c)
    (no : ¬p → MovesBy i h k vs y c) : MovesBy i h k vs (if p then x else y) c := by
  by_cases holds : p
  · simpa only [if_pos holds] using yes holds
  · simpa only [if_neg holds] using no holds

theorem modify {f : Context → Context} (moves : Moves i h 0 [] c (f c)) : MovesBy i h 0 [] (modify f) c := by
  intro a c' run
  cases run
  exact moves

theorem device {x : Act Device α} (spares : Device.Spares h x) : MovesBy i h 0 [] (device! x) c := by
  intro a c' run
  obtain ⟨d', ran, rfl⟩ := run_device_ok run
  exact Moves.of_device (spares _ _ _ ran)

theorem fail (e : Error) : MovesBy i h k vs (Act.fail e : Act Context α) c := by
  intro a c' run
  cases run

theorem modifyTimeline (j : Nat) (f : Timeline → Timeline)
    (handle : (f (c.timeline j)).handle = (c.timeline j).handle)
    (holders : j = i → (f (c.timeline j)).holders = (c.timeline j).holders)
    (gpuPending : j = i → (f (c.timeline j)).gpuPending = (c.timeline j).gpuPending) :
    MovesBy i h 0 [] (Context.modifyTimeline j f) c :=
  modify (Moves.of_modify j f handle holders gpuPending)

end MovesBy

variable {i : Nat} {h : Handle} {c : Context}

theorem run_waitFor_ok {j : Nat} {v : UInt64} {c' : Context} (run : (waitFor j v).run c = .ok () c') :
    c' = if v ≤ (c.timeline j).observed then c else
      { c with device := { c.device with log := c.device.log.push (.wait (.semaphore (c.timeline j).handle v)) }
               timelines := c.timelines.modify j (·.observe v) } := by
  by_cases seen : v ≤ (c.timeline j).observed
  · rw [run_waitFor_seen seen] at run
    cases run
    rw [if_pos seen]
  · simp only [waitFor, EStateM.run_bind, EStateM.run_get, if_neg seen, run_device!] at run
    cases waited : (Device.wait (.semaphore (c.timeline j).handle v)).run c.device with
    | ok u d' =>
      obtain rfl := Device.ran_wait (.inl ⟨u, waited⟩)
      simp only [waited, run_modifyTimeline] at run
      cases run
      rw [if_neg seen]
    | error e d' =>
      simp only [waited] at run
      cases run

theorem log_waitFor {j : Nat} {v : UInt64} {c' : Context} (run : (waitFor j v).run c = .ok () c') :
    c'.device.log.toList = c.device.log.toList ++ lastWait (c.timeline j).handle (c.timeline j).observed v := by
  rw [run_waitFor_ok run, lastWait]
  split
  · simp
  · simp

theorem movesBy_waitFor (j : Nat) (v : UInt64) : MovesBy i h 0 [] (waitFor j v) c := by
  intro u c' run
  rw [run_waitFor_ok run]
  split
  · exact Moves.refl c
  · -- the device logs the wait, then the timeline observes the value
    have logged : Moves i h 0 [] c
        { c with device := { c.device with log := c.device.log.push (.wait (.semaphore (c.timeline j).handle v)) } } :=
      Moves.of_device (Device.Spared.of_push _ (by simp) rfl rfl rfl)
    exact logged.trans (Moves.of_modify (c := { c with device := _ }) j _ rfl (fun _ => rfl) fun _ => rfl)

theorem movesBy_letGo_other {j : Nat} (other : j ≠ i) (apart : (c.timeline j).handle ≠ h) :
    MovesBy i h 0 [] (letGo j) c := by
  unfold letGo
  refine MovesBy.bind_still (MovesBy.modifyTimeline j _ rfl (fun same => absurd same other) fun _ => rfl)
    fun _ c₁ counted _ => ?_
  have kept : (c₁.timeline j).handle = (c.timeline j).handle := by
    rw [run_modifyTimeline] at counted
    cases counted
    rw [timeline_modify]
    split <;> rfl
  refine MovesBy.get_bind (MovesBy.ite (fun _ => ?_) fun _ => MovesBy.pure ())
  exact MovesBy.bind_still (movesBy_waitFor j _) fun _ _ _ _ =>
    MovesBy.device (Device.spares_destroy (by rw [kept]; exact apart))

theorem Moves.last {c c' : Context} {o : UInt64} (size : c'.timelines.size = c.timelines.size)
    (handles : ∀ j, (c'.timeline j).handle = (c.timeline j).handle) (one : (c.timeline i).holders = 1)
    (none : (c'.timeline i).holders = 0) (gpuPending : (c'.timeline i).gpuPending = (c.timeline i).gpuPending)
    (filed : (∀ e ∈ c.device.poolSets, h ∉ e.2) → ∀ e ∈ c'.device.poolSets, h ∉ e.2)
    (log : c'.device.log.toList = c.device.log.toList ++ (lastWait h o (c.timeline i).gpuPending ++ [.destroy h])) :
    Moves i h 1 [] c c' := by
  refine ⟨size, handles, by omega, by simp, gpuPending, fun _ held => absurd none (by omega), filed,
    _, log, by simp [none, one], fun _ _ => ⟨[], [], o, by rw [gpuPending]; simp⟩⟩

theorem Moves.of_raised {k : Nat} {vs : List UInt64} {c c₁ c' : Context} {v : UInt64}
    (size : c₁.timelines.size = c.timelines.size) (handles : ∀ j, (c₁.timeline j).handle = (c.timeline j).handle)
    (holders : (c₁.timeline i).holders = (c.timeline i).holders)
    (gpuPending : (c₁.timeline i).gpuPending = max (c.timeline i).gpuPending v) (device : c₁.device = c.device)
    (moves : Moves i h k vs c₁ c') (room : vs.length < k) : Moves i h k (v :: vs) c c' := by
  obtain ⟨extra, log, count, last⟩ := moves.log
  rw [device] at log
  rw [holders] at count last
  refine ⟨moves.size.trans size, fun j => (moves.handles j).trans (handles j), by rw [← holders]; exact moves.holders,
    by simp only [List.length_cons]; omega, by rw [moves.gpuPending, gpuPending]; rfl, fun filed => ?_,
    fun filed => ?_, extra, log, count, last⟩
  · rw [← device] at filed ⊢
    exact moves.live filed
  · rw [← device] at filed
    exact moves.filed filed

theorem run_letGo_last {j : Nat} {c' : Context} (present : j < c.timelines.size) (one : (c.timeline j).holders = 1)
    (run : (letGo j).run c = .ok () c') :
    ∃ c₂ d', (waitFor j (c.timeline j).gpuPending).run
        { c with timelines := c.timelines.modify j fun t => { t with holders := t.holders - 1 } } = .ok () c₂ ∧
      (Device.destroy (c.timeline j).handle).run c₂.device = .ok () d' ∧ c' = { c₂ with device := d' } := by
  have changed := timeline_modify c j j fun t => { t with holders := t.holders - 1 }
  rw [if_pos ⟨rfl, present⟩] at changed
  obtain ⟨_, c₁, counted, rest⟩ := Act.run_bind_ok run
  rw [run_modifyTimeline, EStateM.Result.ok.injEq] at counted
  obtain ⟨-, rfl⟩ := counted
  simp only [EStateM.run_bind, EStateM.run_get, changed, one, Nat.sub_self, if_true] at rest
  obtain ⟨_, c₂, waited, destroyed⟩ := Act.run_bind_ok rest
  obtain ⟨d', gone, rfl⟩ := run_device_ok destroyed
  exact ⟨c₂, d', waited, gone, rfl⟩

theorem log_letGo_last {j : Nat} {c' : Context} (present : j < c.timelines.size) (one : (c.timeline j).holders = 1)
    (run : (letGo j).run c = .ok () c') :
    c'.device.log.toList = c.device.log.toList ++ lastWait (c.timeline j).handle (c.timeline j).observed
      (c.timeline j).gpuPending ++ [.destroy (c.timeline j).handle] := by
  have changed := timeline_modify c j j fun t => { t with holders := t.holders - 1 }
  rw [if_pos ⟨rfl, present⟩] at changed
  obtain ⟨c₂, d', waited, gone, rfl⟩ := run_letGo_last present one run
  rw [Device.run_destroy_ok gone]
  have logged := log_waitFor waited
  rw [changed] at logged
  simp only [Array.toList_push, logged]

theorem movesBy_letGo_self (present : i < c.timelines.size) (handle : (c.timeline i).handle = h)
    (held : 0 < (c.timeline i).holders) : MovesBy i h 1 [] (letGo i) c := by
  intro u c' run
  have changed := timeline_modify c i i fun t => { t with holders := t.holders - 1 }
  rw [if_pos ⟨rfl, present⟩] at changed
  by_cases more : 1 < (c.timeline i).holders
  · -- another holder remains: only the count moves
    rw [run_letGo_held present more] at run
    cases run
    refine ⟨Array.size_modify, fun m => ?_, by rw [changed]; dsimp only; omega, by simp, by rw [changed]; rfl,
      fun _ _ member => member, fun filed => filed, [], by simp, ?_, fun gone => ?_⟩
    · rw [timeline_modify]
      split <;> rfl
    · rw [changed]
      dsimp only
      simp only [List.count_nil]
      split <;> omega
    · rw [changed] at gone
      dsimp only at gone
      omega
  · have one : (c.timeline i).holders = 1 := by omega
    have logged := log_letGo_last present one run
    -- the count reaches zero: the wait for the last accepted ticket, then the destruction
    obtain ⟨c₂, d', waited, gone, rfl⟩ := run_letGo_last present one run
    have moved := movesBy_waitFor (i := i) (h := h) i _ _ _ waited
    have counted := moved.holders
    rw [changed] at counted
    refine Moves.last (o := (c.timeline i).observed) (moved.size.trans Array.size_modify) (fun m => ?_) one
      (by simpa [one] using counted) (by rw [timeline_device, moved.gpuPending, changed]; rfl)
      (fun filed e kept => ?_) (by rw [logged, handle, List.append_assoc])
    · rw [timeline_device, moved.handles, timeline_modify]
      split <;> rfl
    · rw [Device.run_destroy_ok gone] at kept
      exact moved.filed filed e (List.mem_filter.mp kept).1

theorem movesBy_submitted_other (t : Ticket) (other : t.timeline ≠ i) (apart : (c.timeline t.timeline).handle ≠ h) :
    MovesBy i h 0 [] (submitted t) c := by
  unfold submitted
  refine MovesBy.bind_still (MovesBy.modifyTimeline _ _ rfl (fun same => absurd same other)
    fun same => absurd same other) fun _ c₁ raised _ => movesBy_letGo_other other ?_
  rw [run_modifyTimeline, EStateM.Result.ok.injEq] at raised
  obtain ⟨-, rfl⟩ := raised
  rw [timeline_modify]
  split
  · exact apart
  · exact apart

theorem movesBy_submitted_self (t : Ticket) (mine : t.timeline = i) (present : i < c.timelines.size)
    (handle : (c.timeline i).handle = h) (held : 0 < (c.timeline i).holders) :
    MovesBy i h 1 [t.point.value] (submitted t) c := by
  intro u c' run
  obtain ⟨_, c₁, raised, dropped⟩ := Act.run_bind_ok run
  rw [run_modifyTimeline, EStateM.Result.ok.injEq] at raised
  obtain ⟨-, rfl⟩ := raised
  subst mine
  have changed := timeline_modify c t.timeline t.timeline fun s => { s with gpuPending := max s.gpuPending t.point.value }
  rw [if_pos ⟨rfl, present⟩] at changed
  have handles : ∀ j, (({ c with timelines := (c.timelines.modify t.timeline
      fun s => { s with gpuPending := max s.gpuPending t.point.value }) } : Context).timeline j).handle =
      (c.timeline j).handle := fun j => by
    rw [timeline_modify]
    split <;> rfl
  have moved := movesBy_letGo_self (h := h) (by rwa [Array.size_modify]) (by rw [handles]; exact handle)
    (by rw [changed]; exact held) () c' dropped
  exact Moves.of_raised Array.size_modify handles (by rw [changed]) (by rw [changed]) rfl moved (by simp)

theorem movesBy_query (j : Nat) : MovesBy i h 0 [] (query j) c := by
  unfold query
  exact MovesBy.get_bind (MovesBy.bind_still (MovesBy.modifyTimeline j _ rfl (fun _ => rfl) fun _ => rfl)
    fun _ c₁ _ _ => MovesBy.get_bind (MovesBy.pure _))

theorem movesBy_poll (w : Waiter) : MovesBy i h 0 [] (poll w) c := by
  unfold poll
  exact MovesBy.get_bind (MovesBy.ite (fun _ => MovesBy.pure _) fun _ =>
    MovesBy.bind_still (movesBy_query _) fun _ _ _ _ => MovesBy.pure _)

theorem MovesBy.onFault {k : Nat} {vs : List UInt64} {α : Type} {x : Act Context α} (first : MovesBy i h k vs x c)
    (cleanup : Act Context Unit) : MovesBy i h k vs (Act.onFault x cleanup) c :=
  fun _ _ run => first _ _ (Act.run_onFault_ok run)

theorem movesBy_signal_self (p : Promise) (mine : p.timeline = i) (present : i < c.timelines.size)
    (handle : (c.timeline i).handle = h) (held : 0 < (c.timeline i).holders) : MovesBy i h 1 [] (signal p) c := by
  unfold signal
  refine MovesBy.bind_still (MovesBy.onFault ?_ _) fun _ c₁ _ moved => ?_
  · refine MovesBy.bind_still (movesBy_waitFor _ _) fun _ c₂ _ _ => MovesBy.get_bind ?_
    refine MovesBy.ite (fun _ => MovesBy.bind_still (MovesBy.fail _) fun _ _ run _ => by cases run) fun _ => ?_
    exact MovesBy.bind_still (MovesBy.device (Device.spares_signal _ _)) fun _ _ _ _ =>
      MovesBy.modifyTimeline _ _ rfl (fun _ => rfl) fun _ => rfl
  · rw [mine]
    exact movesBy_letGo_self (by rwa [moved.size]) (by rw [moved.handles]; exact handle)
      (by have := moved.holders; omega)

theorem movesBy_signal_other (p : Promise) (other : p.timeline ≠ i) (apart : (c.timeline p.timeline).handle ≠ h) :
    MovesBy i h 0 [] (signal p) c := by
  unfold signal
  refine MovesBy.bind_still (MovesBy.onFault ?_ _) fun _ c₁ _ moved => ?_
  · refine MovesBy.bind_still (movesBy_waitFor _ _) fun _ c₂ _ _ => MovesBy.get_bind ?_
    refine MovesBy.ite (fun _ => MovesBy.bind_still (MovesBy.fail _) fun _ _ run _ => by cases run) fun _ => ?_
    exact MovesBy.bind_still (MovesBy.device (Device.spares_signal _ _)) fun _ _ _ _ =>
      MovesBy.modifyTimeline _ _ rfl (fun _ => rfl) fun _ => rfl
  · exact movesBy_letGo_other other (by rw [moved.handles]; exact apart)

variable {j : Nat} {c' : Context}

def Blocked (c c' : Context) : Prop :=
  ∃ extra sem v, c'.device.log.toList = c.device.log.toList ++ extra ∧ .wait (.semaphore sem v) ∈ extra ∧
    c'.device.value sem < v

def Unblocked (c c' : Context) : Prop :=
  ∀ extra, c'.device.log.toList = c.device.log.toList ++ extra →
    ∀ sem v, .wait (.semaphore sem v) ∈ extra → v ≤ c'.device.value sem

theorem Blocked.after {c₀ c₁ : Context} (blocked : Blocked c₁ c') (earlier : ∃ extra, c₁.device.log.toList =
    c₀.device.log.toList ++ extra) : Blocked c₀ c' := by
  obtain ⟨extra, sem, v, log, waited, below⟩ := blocked
  obtain ⟨before, grown⟩ := earlier
  exact ⟨before ++ extra, sem, v, by rw [log, grown, List.append_assoc], List.mem_append_right _ waited, below⟩

theorem Unblocked.not_blocked (unblocked : Unblocked c c') (blocked : Blocked c c') : False := by
  obtain ⟨extra, sem, v, log, waited, below⟩ := blocked
  exact UInt64.lt_irrefl _ (UInt64.lt_of_lt_of_le below (unblocked extra log sem v waited))

theorem waitFor_blocked {v : UInt64} {e : Fault} (run : (waitFor j v).run c = .error e c') : Blocked c c' := by
  simp only [waitFor, EStateM.run_bind, EStateM.run_get] at run
  split at run
  · cases run
  · rcases Act.run_bind_error run with waited | ⟨_, c₁, -, observed⟩
    · rw [run_device!] at waited
      split at waited
      · cases waited
      · rename_i d' faulted
        cases waited
        obtain ⟨rfl, below⟩ := Device.wait_fault faulted
        exact ⟨[_], _, _, Array.toList_push .., List.mem_singleton_self _, below⟩
    · rw [run_modifyTimeline] at observed
      cases observed

theorem letGo_blocked {e : Fault} (live : (c.timeline j).handle ∈ c.device.live) (run : (letGo j).run c = .error e c') :
    Blocked c c' := by
  have kept : (({ c with timelines := c.timelines.modify j fun t => { t with holders := t.holders - 1 } } :
      Context).timeline j).handle = (c.timeline j).handle := by
    rw [timeline_modify]
    split <;> rfl
  rcases Act.run_bind_error run with counted | ⟨_, c₁, counted, run⟩
  · rw [run_modifyTimeline] at counted
    cases counted
  rw [run_modifyTimeline, EStateM.Result.ok.injEq] at counted
  obtain ⟨-, rfl⟩ := counted
  rcases Act.run_bind_error run with read | ⟨_, _, read, run⟩
  · cases read
  cases read
  dsimp only at run
  split at run
  · rcases Act.run_bind_error (x := waitFor j _) (f := fun _ => device! (Device.destroy _)) run with
      waited | ⟨_, c₂, waited, gone⟩
    · exact (waitFor_blocked waited).after ⟨[], by simp⟩
    · -- the wait came back: the destruction finds the semaphore live
      rw [run_device!] at gone
      split at gone
      · cases gone
      · rename_i d' faulted
        rw [kept] at faulted
        have same : c₂.device.live = c.device.live := by
          rw [run_waitFor_ok waited]
          split <;> rfl
        exact absurd (same ▸ live) (Device.destroy_fault faulted)
  · cases run

theorem waitFor_not_fatal {v : UInt64} {e : Error} : (waitFor j v).run c ≠ .error (.fatal e) c' := by
  intro run
  simp only [waitFor, EStateM.run_bind, EStateM.run_get] at run
  split at run
  · cases run
  · rcases Act.run_bind_error run with waited | ⟨_, c₁, -, observed⟩
    · rw [run_device!] at waited
      split at waited
      · cases waited
      · rename_i d' faulted
        cases waited
        simp only [Device.wait, Device.record, EStateM.run_bind, EStateM.run_modify, EStateM.run_get] at faulted
        split at faulted <;> cases faulted
    · rw [run_modifyTimeline] at observed
      cases observed

theorem letGo_not_fatal {e : Error} : (letGo j).run c ≠ .error (.fatal e) c' := by
  intro run
  rcases Act.run_bind_error run with counted | ⟨_, c₁, counted, run⟩
  · rw [run_modifyTimeline] at counted
    cases counted
  rcases Act.run_bind_error run with read | ⟨_, _, read, run⟩
  · cases read
  cases read
  dsimp only at run
  split at run
  · rcases Act.run_bind_error (x := waitFor j _) (f := fun _ => device! (Device.destroy _)) run with
      waited | ⟨_, c₂, -, gone⟩
    · exact waitFor_not_fatal waited
    · rw [run_device!] at gone
      split at gone
      · cases gone
      · rename_i d' faulted
        cases gone
        simp only [Device.destroy, Device.record, EStateM.run_bind, EStateM.run_get] at faulted
        split at faulted <;> cases faulted
  · cases run

theorem run_signal_fatal {p : Promise} {e : Error} (run : (signal p).run c = .error (.fatal e) c') :
    ∃ c₁, (waitFor p.timeline (p.value - 1)).run c = .ok () c₁ ∧ Act.Ran (letGo p.timeline) c₁ c' := by
  unfold signal at run
  rcases Act.run_bind_error run with unwound | ⟨_, c₁, -, dropped⟩
  · simp only [Act.run_onFault] at unwound
    split at unwound
    · cases unwound
    · rename_i e₀ c₀ faulted
      -- the body stopped on the misuse, right after its wait
      have cleanup : Act.Ran (letGo p.timeline) c₀ c' := by
        split at unwound
        · cases unwound
          exact .inl ⟨_, ‹_›⟩
        · cases unwound
          exact .inr ⟨_, ‹_›⟩
      have same : e₀ = .fatal e := by
        split at unwound <;> cases unwound <;> rfl
      subst same
      rcases Act.run_bind_error faulted with waited | ⟨_, c₂, waited, checked⟩
      · exact absurd waited waitFor_not_fatal
      · refine ⟨c₂, waited, ?_⟩
        simp only [EStateM.run_bind, EStateM.run_get] at checked
        split at checked
        · simp only [EStateM.run_bind, Act.run_fail] at checked
          cases checked
          exact cleanup
        · simp only [EStateM.run_bind, run_device!, Device.run_signal, run_modifyTimeline] at checked
          cases checked
  · exact absurd dropped letGo_not_fatal

structure Gains (j n : Nat) (c c' : Context) : Prop where
  size : c'.timelines.size = c.timelines.size
  handles : ∀ m, (c'.timeline m).handle = (c.timeline m).handle
  holders : ∀ m, (c'.timeline m).holders = (c.timeline m).holders + if m = j then n else 0
  gpuPending : ∀ m, (c'.timeline m).gpuPending = (c.timeline m).gpuPending
  device : c'.device = c.device
  ring : c'.ring = c.ring

namespace Gains

variable {j : Nat}

theorem trans {n₁ n₂ : Nat} {c₁ c₂ c₃ : Context} (first : Gains j n₁ c₁ c₂) (second : Gains j n₂ c₂ c₃) :
    Gains j (n₁ + n₂) c₁ c₃ := by
  refine ⟨second.size.trans first.size, fun m => (second.handles m).trans (first.handles m), fun m => ?_,
    fun m => (second.gpuPending m).trans (first.gpuPending m), second.device.trans first.device,
    second.ring.trans first.ring⟩
  rw [second.holders, first.holders]
  split <;> omega

theorem of_modify {n : Nat} (f : Timeline → Timeline) (present : j < c.timelines.size)
    (handle : (f (c.timeline j)).handle = (c.timeline j).handle)
    (holders : (f (c.timeline j)).holders = (c.timeline j).holders + n)
    (gpuPending : (f (c.timeline j)).gpuPending = (c.timeline j).gpuPending) :
    Gains j n c { c with timelines := c.timelines.modify j f } := by
  refine ⟨Array.size_modify, fun m => ?_, fun m => ?_, fun m => ?_, rfl, rfl⟩ <;> rw [timeline_modify] <;> split
  · rename_i same
    obtain ⟨rfl, -⟩ := same
    exact handle
  · rfl
  · rename_i same
    obtain ⟨rfl, -⟩ := same
    rw [holders, if_pos rfl]
  · rename_i apart
    rw [if_neg fun (same : m = j) => apart ⟨same.symm, by rw [same]; exact present⟩]
    rfl
  · rename_i same
    obtain ⟨rfl, -⟩ := same
    exact gpuPending
  · rfl

end Gains

theorem gains_hold (present : j < c.timelines.size) (run : (hold j).run c = .ok () c') : Gains j 1 c c' := by
  rw [hold, run_modifyTimeline, EStateM.Result.ok.injEq] at run
  obtain ⟨-, rfl⟩ := run
  exact Gains.of_modify _ present rfl rfl rfl

theorem gains_issue {v : UInt64} (present : j < c.timelines.size) (run : (issue j).run c = .ok v c') : Gains j 0 c c' := by
  rw [run_issue, EStateM.Result.ok.injEq] at run
  obtain ⟨-, rfl⟩ := run
  exact Gains.of_modify _ present rfl rfl rfl

theorem gains_query {v : UInt64} (present : j < c.timelines.size) (run : (query j).run c = .ok v c') : Gains j 0 c c' := by
  simp only [query, EStateM.run_bind, EStateM.run_get, run_modifyTimeline, EStateM.run_pure,
    EStateM.Result.ok.injEq] at run
  obtain ⟨-, rfl⟩ := run
  exact Gains.of_modify _ present rfl rfl rfl

theorem gains_promise {p : Promise} (present : j < c.timelines.size) (run : (promise j).run c = .ok p c') :
    Gains j 1 c c' := by
  obtain ⟨v, c₁, issued, run⟩ := Act.run_bind_ok run
  have first := gains_issue present issued
  obtain ⟨_, c₂, marked, run⟩ := Act.run_bind_ok run
  rw [run_modifyTimeline, EStateM.Result.ok.injEq] at marked
  obtain ⟨-, rfl⟩ := marked
  have second : Gains j 0 c₁ _ := Gains.of_modify (fun t => { t with cpuPending := max t.cpuPending v })
    (by rw [first.size]; exact present) rfl rfl rfl
  obtain ⟨_, c₃, held, run⟩ := Act.run_bind_ok run
  cases run
  simpa using (first.trans second).trans (gains_hold (by rw [second.size, first.size]; exact present) held)

theorem gains_signalInfo {stage : UInt64} {t : Ticket} (present : j < c.timelines.size)
    (run : (signalInfo j stage).run c = .ok t c') : Gains j 1 c c' := by
  obtain ⟨v, c₁, issued, run⟩ := Act.run_bind_ok run
  have first := gains_issue present issued
  obtain ⟨_, c₂, held, run⟩ := Act.run_bind_ok run
  cases run
  simpa using first.trans (gains_hold (by rw [first.size]; exact present) held)

theorem gains_waiterPending {w : Waiter} (present : j < c.timelines.size) (run : (waiterPending j).run c = .ok w c') :
    Gains j 1 c c' := by
  obtain ⟨_, c₀, read, run⟩ := Act.run_bind_ok run
  cases read
  obtain ⟨_, c₁, held, run⟩ := Act.run_bind_ok run
  cases run
  exact gains_hold present held

theorem gains_waiterCurrent {w : Waiter} (present : j < c.timelines.size) (run : (waiterCurrent j).run c = .ok w c') :
    Gains j 1 c c' := by
  obtain ⟨v, c₁, read, run⟩ := Act.run_bind_ok run
  have first := gains_query present read
  obtain ⟨_, c₂, held, run⟩ := Act.run_bind_ok run
  cases run
  simpa using first.trans (gains_hold (by rw [first.size]; exact present) held)

end Context

end RenderCore
