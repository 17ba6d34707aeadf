import RenderCore.Context.Timeline
import RenderCore.Proofs.Device
namespace RenderCore

namespace Timeline

@[simp] theorem handle_observe (t : Timeline) (v : UInt64) : (t.observe v).handle = t.handle := rfl

@[simp] theorem pending_observe (t : Timeline) (v : UInt64) : (t.observe v).pending = t.pending := rfl

theorem observed_le_observe (t : Timeline) (v : UInt64) : t.observed ≤ (t.observe v).observed := by
  simp only [observe, max]
  split
  · assumption
  · exact UInt64.le_refl _

theorem observe_le {t : Timeline} {v bound : UInt64} (seen : t.observed ≤ bound) (reached : v ≤ bound) :
    (t.observe v).observed ≤ bound := by
  simp only [observe, max]
  split <;> assumption

theorem observed_observe_of_le {t : Timeline} {v : UInt64} (above : t.observed ≤ v) :
    (t.observe v).observed = v := by
  simp only [observe, max, if_pos above]

end Timeline

namespace Gauge

theorem value_le_advance (g : Gauge) (v : UInt64) : g.value ≤ (g.advance v).value := by
  unfold advance
  split
  · exact UInt64.le_of_lt ‹_›
  · exact UInt64.le_refl _

theorem le_advance (g : Gauge) (v : UInt64) : v ≤ (g.advance v).value := by
  unfold advance
  split
  · exact UInt64.le_refl _
  · exact UInt64.not_lt.mp ‹_›

end Gauge

namespace Device

def Grows (d d' : Device) : Prop :=
  ∀ h, d.value h ≤ d'.value h

theorem Grows.refl (d : Device) : d.Grows d := fun _ => UInt64.le_refl _

theorem Grows.trans {d₁ d₂ d₃ : Device} (first : d₁.Grows d₂) (second : d₂.Grows d₃) : d₁.Grows d₃ :=
  fun h => UInt64.le_trans (first h) (second h)

theorem value_of_gauges {d d' : Device} (same : d'.gauges = d.gauges) (h : Handle) : d'.value h = d.value h := by
  simp only [value, gauge, same]

theorem grows_of_gauges {d d' : Device} (same : d'.gauges = d.gauges) : d.Grows d' := by
  intro h
  rw [value_of_gauges same]
  exact UInt64.le_refl _

theorem value_advance (d : Device) (sem h : Handle) (v : UInt64) :
    value { d with gauges := (sem, (d.gauge sem).advance v) :: d.gauges.filter (·.1 != sem) } h =
      if h = sem then ((d.gauge sem).advance v).value else d.value h := by
  by_cases same : h = sem
  · subst same
    simp [value, gauge]
  · have skipped : (h == sem) = false := beq_eq_false_iff_ne.mpr same
    simp only [value, gauge, List.lookup_cons, skipped, lookup_filter_other _ sem h same, if_neg same]

theorem run_advance (sem : Handle) (v : UInt64) (d : Device) :
    (advance sem v).run d =
      .ok () { d with gauges := (sem, (d.gauge sem).advance v) :: d.gauges.filter (·.1 != sem) } := rfl

theorem advance_grows (sem : Handle) (v : UInt64) (d : Device) :
    d.Grows { d with gauges := (sem, (d.gauge sem).advance v) :: d.gauges.filter (·.1 != sem) } ∧
      v ≤ value { d with gauges := (sem, (d.gauge sem).advance v) :: d.gauges.filter (·.1 != sem) } sem := by
  refine ⟨fun h => ?_, ?_⟩
  · rw [value_advance]
    split
    · subst h
      exact Gauge.value_le_advance _ _
    · exact UInt64.le_refl _
  · rw [value_advance, if_pos rfl]
    exact Gauge.le_advance _ _

end Device

namespace Act

variable {σ α β : Type}

def Ran (x : Act σ α) (s s' : σ) : Prop :=
  (∃ a, x.run s = .ok a s') ∨ (∃ e, x.run s = .error e s')

theorem Ran.of_ok {x : Act σ α} {s s' : σ} {a : α} (run : x.run s = .ok a s') : Ran x s s' := .inl ⟨a, run⟩

theorem ran_bind {x : Act σ α} {f : α → Act σ β} {s s' : σ} (ran : Ran (x >>= f) s s') :
    (∃ e, x.run s = .error e s') ∨ ∃ a s₁, x.run s = .ok a s₁ ∧ Ran (f a) s₁ s' := by
  unfold Ran at ran
  rw [EStateM.run_bind] at ran
  split at ran
  · exact .inr ⟨_, _, ‹_›, ran⟩
  · rcases ran with ⟨a, run⟩ | ⟨e, run⟩
    · cases run
    · cases run
      exact .inl ⟨_, ‹_›⟩

end Act

namespace Device

theorem ran_wait_gauges {target : WaitTarget} {d d' : Device} (ran : Act.Ran (wait target) d d') :
    d'.gauges = d.gauges := by
  rcases ran with ⟨a, run⟩ | ⟨e, run⟩ <;>
  · cases target <;> simp only [wait, record, EStateM.run_bind, EStateM.run_modify, EStateM.run_get] at run
      <;> split at run <;> cases run <;> rfl

theorem wait_reached {sem : Handle} {v : UInt64} {d d' : Device} (run : (wait (.semaphore sem v)).run d = .ok () d') :
    v ≤ d.value sem := by
  simp only [wait, record, EStateM.run_bind, EStateM.run_modify, EStateM.run_get] at run
  split at run
  · rename_i reached
    exact reached
  · cases run

theorem run_wait_reached {sem : Handle} {v : UInt64} {d : Device} (reached : v ≤ d.value sem) :
    (wait (.semaphore sem v)).run d = .ok () { d with log := d.log.push (.wait (.semaphore sem v)) } := by
  simp only [wait, record, EStateM.run_bind, EStateM.run_modify, EStateM.run_get]
  -- recording the wait leaves the counter where it is
  split
  · rfl
  · rename_i unreached
    exact absurd reached unreached

theorem ran_destroy_gauges {h : Handle} {d d' : Device} (ran : Act.Ran (destroy h) d d') : d'.gauges = d.gauges := by
  rcases ran with ⟨a, run⟩ | ⟨e, run⟩ <;> simp only [destroy, record, EStateM.run_bind, EStateM.run_get] at run
  · -- a destruction that finishes changes the live objects and the log only
    split at run
    · cases run
      rfl
    · cases run
  · -- one that faults changes nothing
    split at run
    · cases run
    · cases run
      rfl

theorem run_signal (sem : Handle) (v : UInt64) (d : Device) :
    (signal sem v).run d =
      .ok () { d with
        log := d.log.push (.signal sem v)
        gauges := (sem, (d.gauge sem).advance v) :: d.gauges.filter (·.1 != sem) } := rfl

theorem ran_signal {sem : Handle} {v : UInt64} {d d' : Device} (ran : Act.Ran (signal sem v) d d') :
    d.Grows d' ∧ v ≤ d'.value sem := by
  rcases ran with ⟨a, run⟩ | ⟨e, run⟩ <;> rw [run_signal] at run <;> cases run
  exact advance_grows sem v d

end Device

namespace Context

theorem timeline_modify (c : Context) (j i : Nat) (f : Timeline → Timeline) :
    { c with timelines := c.timelines.modify j f }.timeline i =
      if j = i ∧ i < c.timelines.size then f (c.timeline i) else c.timeline i := by
  simp only [timeline, Array.getElem?_modify]
  by_cases inside : i < c.timelines.size
  · rw [Array.getElem?_eq_getElem inside]
    by_cases same : j = i <;> simp [same, inside]
  · rw [Array.getElem?_eq_none (Nat.le_of_not_lt inside)]
    simp [inside]

theorem run_modifyTimeline (j : Nat) (f : Timeline → Timeline) (c : Context) :
    (modifyTimeline j f).run c = .ok () { c with timelines := c.timelines.modify j f } := rfl

theorem ran_device {α : Type} {x : Act Device α} {c c' : Context} (ran : Act.Ran (device! x) c c') :
    ∃ d', Act.Ran x c.device d' ∧ c' = { c with device := d' } := by
  rcases ran with ⟨a, run⟩ | ⟨e, run⟩ <;> rw [run_device!] at run <;> split at run <;> cases run
  · exact ⟨_, .inl ⟨_, ‹_›⟩, rfl⟩
  · exact ⟨_, .inr ⟨_, ‹_›⟩, rfl⟩

def counter (i : Nat) (c : Context) : UInt64 :=
  c.device.value (c.timeline i).handle

def Bounded (i : Nat) (c : Context) : Prop :=
  (c.timeline i).observed ≤ c.counter i

-- From `c` to `c'`, timeline `i` kept its place and its semaphore, and its observed value and every
-- counter of the device moved only forward.
structure Forward (i : Nat) (c c' : Context) : Prop where
  size : c'.timelines.size = c.timelines.size
  handle : (c'.timeline i).handle = (c.timeline i).handle
  observed : (c.timeline i).observed ≤ (c'.timeline i).observed
  counters : c.device.Grows c'.device

theorem Forward.refl (i : Nat) (c : Context) : Forward i c c :=
  ⟨rfl, rfl, UInt64.le_refl _, Device.Grows.refl _⟩

theorem Forward.trans {i : Nat} {c₁ c₂ c₃ : Context} (first : Forward i c₁ c₂) (second : Forward i c₂ c₃) :
    Forward i c₁ c₃ :=
  ⟨second.size.trans first.size, second.handle.trans first.handle,
    UInt64.le_trans first.observed second.observed, first.counters.trans second.counters⟩

theorem Forward.counter_le {i : Nat} {c c' : Context} (forward : Forward i c c') : c.counter i ≤ c'.counter i := by
  unfold Context.counter
  rw [forward.handle]
  exact forward.counters _

structure Tamed (i : Nat) (c c' : Context) : Prop where
  forward : Forward i c c'
  pending : (c'.timeline i).pending = (c.timeline i).pending
  bounded : Bounded i c'

theorem Tamed.refl {i : Nat} {c : Context} (bounded : Bounded i c) : Tamed i c c :=
  ⟨Forward.refl i c, rfl, bounded⟩

theorem Tamed.trans {i : Nat} {c₁ c₂ c₃ : Context} (first : Tamed i c₁ c₂) (second : Tamed i c₂ c₃) :
    Tamed i c₁ c₃ :=
  ⟨first.forward.trans second.forward, second.pending.trans first.pending, second.bounded⟩

-- Every run of `x` from `c`, finished or faulted, is a tame move of timeline `i`, as long as the
-- timeline starts within its counter.
def TameAt (i : Nat) {α : Type} (x : Act Context α) (c : Context) : Prop :=
  Bounded i c → ∀ c', Act.Ran x c c' → Tamed i c c'

namespace TameAt

variable {i : Nat} {α β : Type} {c : Context}

theorem pure (a : α) : TameAt i (Pure.pure a : Act Context α) c := by
  intro bounded c' ran
  rcases ran with ⟨b, run⟩ | ⟨e, run⟩ <;> cases run
  exact Tamed.refl bounded

theorem fail (e : Error) : TameAt i (Act.fail e : Act Context α) c := by
  intro bounded c' ran
  rcases ran with ⟨b, run⟩ | ⟨e, run⟩ <;> cases run
  exact Tamed.refl bounded

theorem bind {x : Act Context α} {f : α → Act Context β} (first : TameAt i x c)
    (rest : ∀ a c₁, x.run c = .ok a c₁ → TameAt i (f a) c₁) : TameAt i (x >>= f) c := by
  intro bounded c' ran
  rcases Act.ran_bind ran with ⟨e, faulted⟩ | ⟨a, c₁, finished, later⟩
  · exact first bounded c' (.inr ⟨e, faulted⟩)
  · have moved := first bounded c₁ (Act.Ran.of_ok finished)
    exact moved.trans (rest a c₁ finished moved.bounded c' later)

theorem get_bind {f : Context → Act Context β} (rest : TameAt i (f c) c) : TameAt i (get >>= f) c :=
  rest

theorem ite {p : Prop} [Decidable p] {x y : Act Context α} (yes : p → TameAt i x c) (no : ¬p → TameAt i y c) :
    TameAt i (if p then x else y) c := by
  by_cases holds : p
  · simpa only [if_pos holds] using yes holds
  · simpa only [if_neg holds] using no holds

theorem onFault {x : Act Context α} {cleanup : Act Context Unit} (first : TameAt i x c)
    (after : ∀ e c₁, x.run c = .error e c₁ → TameAt i cleanup c₁) : TameAt i (Act.onFault x cleanup) c := by
  intro bounded c' ran
  unfold Act.Ran at ran
  simp only [Act.run_onFault] at ran
  cases finished : x.run c with
  | ok a c₁ =>
    simp only [finished] at ran
    rcases ran with ⟨b, run⟩ | ⟨e, run⟩ <;> cases run
    exact first bounded c' (Act.Ran.of_ok finished)
  | error e c₁ =>
    -- the cleanup runs after the fault, whatever its own outcome
    have moved := first bounded c₁ (.inr ⟨e, finished⟩)
    simp only [finished] at ran
    have cleaned : Act.Ran cleanup c₁ c' := by
      cases cleaning : cleanup.run c₁ with
      | ok u c₂ =>
        simp only [cleaning] at ran
        rcases ran with ⟨b, run⟩ | ⟨e', run⟩ <;> cases run
        exact Act.Ran.of_ok cleaning
      | error e' c₂ =>
        simp only [cleaning] at ran
        rcases ran with ⟨b, run⟩ | ⟨e'', run⟩ <;> cases run
        exact .inr ⟨e', cleaning⟩
    exact moved.trans (after e c₁ finished moved.bounded c' cleaned)

theorem device {x : Act Device α} (grows : ∀ d', Act.Ran x c.device d' → c.device.Grows d') :
    TameAt i (device! x) c := by
  intro bounded c' ran
  obtain ⟨d', ran', rfl⟩ := ran_device ran
  have counters := grows d' ran'
  exact ⟨⟨rfl, rfl, UInt64.le_refl _, counters⟩, rfl, UInt64.le_trans bounded (counters _)⟩

theorem modifyTimeline {j : Nat} {f : Timeline → Timeline} (handle : ∀ t, (f t).handle = t.handle)
    (pending : ∀ t, (f t).pending = t.pending) (observed : ∀ t, (f t).observed = t.observed) :
    TameAt i (Context.modifyTimeline j f) c := by
  intro bounded c' ran
  rcases ran with ⟨a, run⟩ | ⟨e, run⟩ <;> cases run
  have kept : ({ c with timelines := c.timelines.modify j f }.timeline i).handle = (c.timeline i).handle ∧
      ({ c with timelines := c.timelines.modify j f }.timeline i).pending = (c.timeline i).pending ∧
      ({ c with timelines := c.timelines.modify j f }.timeline i).observed = (c.timeline i).observed := by
    rw [timeline_modify]
    split
    · exact ⟨handle _, pending _, observed _⟩
    · exact ⟨rfl, rfl, rfl⟩
  obtain ⟨handles, pendings, observeds⟩ := kept
  refine ⟨⟨Array.size_modify, handles, ?_, Device.Grows.refl _⟩, pendings, ?_⟩
  · rw [observeds]
    exact UInt64.le_refl _
  · unfold Bounded counter
    rw [handles, observeds]
    exact bounded

theorem observe {v : UInt64} (reached : v ≤ c.counter i) :
    TameAt i (Context.modifyTimeline i (·.observe v)) c := by
  intro bounded c' ran
  rcases ran with ⟨a, run⟩ | ⟨e, run⟩ <;> cases run
  have changed := timeline_modify c i i (·.observe v)
  by_cases inside : i < c.timelines.size
  · rw [if_pos ⟨rfl, inside⟩] at changed
    refine ⟨⟨Array.size_modify, by rw [changed]; rfl, ?_, Device.Grows.refl _⟩, by rw [changed]; rfl, ?_⟩
    · rw [changed]
      exact Timeline.observed_le_observe _ _
    · unfold Bounded counter
      rw [changed, Timeline.handle_observe]
      exact Timeline.observe_le bounded reached
  · rw [if_neg fun both => inside both.2] at changed
    refine ⟨⟨Array.size_modify, by rw [changed], ?_, Device.Grows.refl _⟩, by rw [changed], ?_⟩
    · rw [changed]
      exact UInt64.le_refl _
    · unfold Bounded counter
      rw [changed]
      exact bounded

end TameAt

section Actions

variable {i : Nat}

theorem tameAt_hold (j : Nat) (c : Context) : TameAt i (hold j) c :=
  TameAt.modifyTimeline (fun _ => rfl) (fun _ => rfl) (fun _ => rfl)

theorem tameAt_waitFor (v : UInt64) (c : Context) : TameAt i (waitFor i v) c := by
  unfold waitFor
  refine TameAt.get_bind (TameAt.ite (fun _ => TameAt.pure ()) fun _ => ?_)
  refine TameAt.bind (TameAt.device fun d' ran => Device.grows_of_gauges (Device.ran_wait_gauges ran)) ?_
  intro u c₁ run
  obtain ⟨d', waited, rfl⟩ := run_device_ok run
  -- the wait came back, so the counter had reached the value, and waiting moves no counter
  refine TameAt.observe ?_
  rw [counter, Device.value_of_gauges (Device.ran_wait_gauges (Act.Ran.of_ok waited))]
  exact Device.wait_reached waited

theorem tameAt_query (c : Context) : TameAt i (query i) c := by
  unfold query
  exact TameAt.get_bind (TameAt.bind (TameAt.observe (UInt64.le_refl _)) fun _ c₁ _ =>
    TameAt.get_bind (TameAt.pure _))

theorem tameAt_letGo (c : Context) : TameAt i (letGo i) c := by
  unfold letGo
  refine TameAt.bind (TameAt.modifyTimeline (fun _ => rfl) (fun _ => rfl) (fun _ => rfl)) fun _ c₁ _ => ?_
  refine TameAt.get_bind (TameAt.ite (fun _ => ?_) fun _ => TameAt.pure ())
  exact TameAt.bind (tameAt_waitFor _ _) fun _ c₂ _ =>
    TameAt.device fun d' ran => Device.grows_of_gauges (Device.ran_destroy_gauges ran)

theorem tameAt_signal (p : Promise) (mine : p.timeline = i) (c : Context) : TameAt i (signal p) c := by
  subst mine
  unfold signal
  refine TameAt.bind (TameAt.onFault ?_ fun _ c₁ _ => tameAt_letGo c₁) fun _ c₁ _ => tameAt_letGo c₁
  refine TameAt.bind (tameAt_waitFor _ c) fun _ c₁ _ => TameAt.get_bind ?_
  -- a promise whose value is already observed is a misuse, and nothing is signalled
  refine TameAt.ite (fun _ => TameAt.bind (TameAt.fail _) fun _ _ failed => by cases failed) fun _ => ?_
  refine TameAt.bind (TameAt.device fun d' ran => (Device.ran_signal ran).1) fun _ c₂ signaled => ?_
  -- the host signalled the value itself, so the counter has reached it
  obtain ⟨d', run, rfl⟩ := run_device_ok signaled
  exact TameAt.observe (Device.ran_signal (Act.Ran.of_ok run)).2

theorem tameAt_submitted (t : Ticket) (mine : t.timeline = i) (c : Context) : TameAt i (submitted t) c := by
  subst mine
  exact TameAt.bind (TameAt.modifyTimeline (fun _ => rfl) (fun _ => rfl) (fun _ => rfl)) fun _ c₁ _ =>
    tameAt_letGo c₁

theorem tameAt_waiterPending (c : Context) : TameAt i (waiterPending i) c :=
  TameAt.get_bind (TameAt.bind (tameAt_hold i c) fun _ _ _ => TameAt.pure _)

theorem tameAt_waiterCurrent (c : Context) : TameAt i (waiterCurrent i) c :=
  TameAt.bind (tameAt_query c) fun _ c₁ _ => TameAt.bind (tameAt_hold i c₁) fun _ _ _ => TameAt.pure _

theorem tameAt_poll (w : Waiter) (mine : w.timeline = i) (c : Context) : TameAt i (poll w) c := by
  subst mine
  unfold poll
  exact TameAt.get_bind (TameAt.ite (fun _ => TameAt.pure _) fun _ =>
    TameAt.bind (tameAt_query c) fun _ _ _ => TameAt.pure _)

theorem tameAt_advance (h : Handle) (v : UInt64) (c : Context) : TameAt i (device! (Device.advance h v)) c :=
  TameAt.device fun d' ran => by
    rcases ran with ⟨a, run⟩ | ⟨e, run⟩ <;> rw [Device.run_advance] at run <;> cases run
    exact (Device.advance_grows h v c.device).1

structure Issued (i : Nat) (c c' : Context) : Prop where
  forward : Forward i c c'
  pending : (c'.timeline i).pending = (c.timeline i).pending + 1
  bounded : Bounded i c'

theorem Issued.tamed {c c₁ c₂ : Context} (first : Issued i c c₁) (second : Tamed i c₁ c₂) : Issued i c c₂ :=
  ⟨first.forward.trans second.forward, second.pending.trans first.pending, second.bounded⟩

theorem run_issue (c : Context) :
    (issue i).run c = .ok ((c.timeline i).pending + 1)
      { c with timelines := c.timelines.modify i fun _ => { c.timeline i with pending := (c.timeline i).pending + 1 } } :=
  rfl

theorem issued_issue {c : Context} (present : i < c.timelines.size) (bounded : Bounded i c) :
    Issued i c { c with timelines := c.timelines.modify i fun _ => { c.timeline i with pending := (c.timeline i).pending + 1 } } := by
  have changed := timeline_modify c i i fun _ => { c.timeline i with pending := (c.timeline i).pending + 1 }
  rw [if_pos ⟨rfl, present⟩] at changed
  refine ⟨⟨Array.size_modify, by rw [changed], ?_, Device.Grows.refl _⟩, by rw [changed], ?_⟩
  · rw [changed]
    exact UInt64.le_refl _
  · unfold Bounded counter
    rw [changed]
    exact bounded

theorem issue_then {α : Type} {f : UInt64 → Act Context α} {c c' : Context} {a : α}
    (run : (issue i >>= f).run c = .ok a c') (present : i < c.timelines.size) (bounded : Bounded i c)
    (rest : ∀ v c, TameAt i (f v) c) :
    ∃ c₁, (f ((c.timeline i).pending + 1)).run c₁ = .ok a c' ∧ Issued i c c' := by
  rw [EStateM.run_bind, run_issue] at run
  have first := issued_issue present bounded
  exact ⟨_, run, first.tamed (rest _ _ first.bounded c' (Act.Ran.of_ok run))⟩

theorem promise_issues {c c' : Context} {p : Promise} (run : (promise i).run c = .ok p c')
    (present : i < c.timelines.size) (bounded : Bounded i c) :
    p.value = (c.timeline i).pending + 1 ∧ Issued i c c' := by
  obtain ⟨c₁, rest, issued⟩ := issue_then run present bounded fun v c =>
    TameAt.bind (TameAt.modifyTimeline (fun _ => rfl) (fun _ => rfl) (fun _ => rfl)) fun _ c₁ _ =>
      TameAt.bind (tameAt_hold i c₁) fun _ _ _ => TameAt.pure _
  simp only [EStateM.run_bind, run_modifyTimeline, hold, EStateM.run_pure, EStateM.Result.ok.injEq] at rest
  exact ⟨by rw [← rest.1], issued⟩

theorem signalInfo_issues {c c' : Context} {stage : UInt64} {t : Ticket} (run : (signalInfo i stage).run c = .ok t c')
    (present : i < c.timelines.size) (bounded : Bounded i c) :
    t.point.value = (c.timeline i).pending + 1 ∧ Issued i c c' := by
  obtain ⟨c₁, rest, issued⟩ := issue_then run present bounded fun v c =>
    TameAt.bind (tameAt_hold i c) fun _ c₁ _ => TameAt.get_bind (TameAt.pure _)
  simp only [EStateM.run_bind, run_modifyTimeline, hold, EStateM.run_get, EStateM.run_pure,
    EStateM.Result.ok.injEq] at rest
  exact ⟨by rw [← rest.1], issued⟩

theorem query_reads {c : Context} (present : i < c.timelines.size) (bounded : Bounded i c) :
    ∃ c', (query i).run c = .ok (c.counter i) c' := by
  refine ⟨{ c with timelines := c.timelines.modify i (·.observe (c.device.value (c.timeline i).handle)) }, ?_⟩
  simp only [query, EStateM.run_bind, EStateM.run_get, run_modifyTimeline, EStateM.run_pure]
  rw [timeline_modify, if_pos ⟨rfl, present⟩,
    Timeline.observed_observe_of_le (v := c.device.value (c.timeline i).handle) bounded]
  rfl

theorem poll_answers (w : Waiter) (mine : w.timeline = i) {c : Context} (present : i < c.timelines.size)
    (bounded : Bounded i c) :
    ∃ c', (poll w).run c = .ok (decide (w.value ≤ c.counter i)) c' := by
  subst mine
  by_cases seen : w.value ≤ (c.timeline w.timeline).observed
  · refine ⟨c, ?_⟩
    simp only [poll, EStateM.run_bind, EStateM.run_get, if_pos seen, EStateM.run_pure]
    rw [decide_eq_true (UInt64.le_trans seen bounded)]
  · obtain ⟨c', read⟩ := query_reads present bounded
    refine ⟨c', ?_⟩
    simp only [poll, EStateM.run_bind, EStateM.run_get, if_neg seen, read, EStateM.run_pure]

theorem waitFor_finishes_iff (v : UInt64) {c : Context} (bounded : Bounded i c) :
    (∃ c', (waitFor i v).run c = .ok () c') ↔ v ≤ c.counter i := by
  by_cases seen : v ≤ (c.timeline i).observed
  · have finished : (waitFor i v).run c = .ok () c := by
      simp only [waitFor, EStateM.run_bind, EStateM.run_get, if_pos seen]
      rfl
    exact ⟨fun _ => UInt64.le_trans seen bounded, fun _ => ⟨c, finished⟩⟩
  · have asked : (waitFor i v).run c =
        (device! (Device.wait (.semaphore (c.timeline i).handle v)) >>= fun _ =>
          modifyTimeline i (·.observe v)).run c := by
      simp only [waitFor, EStateM.run_bind, EStateM.run_get, if_neg seen]
    rw [asked]
    constructor
    · rintro ⟨c', run⟩
      obtain ⟨u, c₁, waited, -⟩ := Act.run_bind_ok run
      obtain ⟨d', waited, -⟩ := run_device_ok waited
      exact Device.wait_reached waited
    · intro reached
      apply Exists.intro
      rw [EStateM.run_bind, run_device!, Device.run_wait_reached reached]
      rfl

end Actions

end Context

end RenderCore
