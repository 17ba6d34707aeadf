import Mathlib.Logic.Relation
import RenderCore.Proofs.Timelines.Order
namespace RenderCore

def Event.signalOn (h : Handle) : Event → Option UInt64
  | .signal s v => if s = h then some v else none
  | _ => none

def signalsOn (h : Handle) (events : List Event) : List UInt64 :=
  events.filterMap (Event.signalOn h)

@[simp] theorem signalsOn_nil (h : Handle) : signalsOn h [] = [] := rfl

@[simp] theorem signalsOn_append (h : Handle) (a b : List Event) :
    signalsOn h (a ++ b) = signalsOn h a ++ signalsOn h b :=
  List.filterMap_append

@[simp] theorem signalsOn_wait (h : Handle) (target : WaitTarget) : signalsOn h [.wait target] = [] := rfl

@[simp] theorem signalsOn_destroy (h h' : Handle) : signalsOn h [.destroy h'] = [] := rfl

@[simp] theorem signalsOn_signal (h : Handle) (v : UInt64) : signalsOn h [.signal h v] = [v] := by
  simp [signalsOn, Event.signalOn]

namespace Act

variable {σ α β : Type} {R : σ → σ → Prop} {s : σ}

-- Every run of `x` from `s`, finished or faulted, ends in a state that `R` relates to `s`.
def EndsAt (R : σ → σ → Prop) (x : Act σ α) (s : σ) : Prop :=
  ∀ s', Ran x s s' → R s s'

namespace EndsAt

theorem pure (refl : ∀ s, R s s) (a : α) : EndsAt R (Pure.pure a : Act σ α) s := by
  intro s' ran
  rcases ran with ⟨b, run⟩ | ⟨e, run⟩ <;> cases run
  exact refl s

theorem fail (refl : ∀ s, R s s) (e : Error) : EndsAt R (Act.fail e : Act σ α) s := by
  intro s' ran
  rcases ran with ⟨b, run⟩ | ⟨e, run⟩ <;> cases run
  exact refl s

theorem bind (trans : ∀ s₁ s₂ s₃, R s₁ s₂ → R s₂ s₃ → R s₁ s₃) {x : Act σ α} {f : α → Act σ β}
    (first : EndsAt R x s) (rest : ∀ a s₁, x.run s = .ok a s₁ → EndsAt R (f a) s₁) : EndsAt R (x >>= f) s := by
  intro s' ran
  rcases ran_bind ran with ⟨e, faulted⟩ | ⟨a, s₁, finished, later⟩
  · exact first s' (.inr ⟨e, faulted⟩)
  · exact trans _ _ _ (first s₁ (Ran.of_ok finished)) (rest a s₁ finished s' later)

theorem get_bind {f : σ → Act σ β} (rest : EndsAt R (f s) s) : EndsAt R (get >>= f) s :=
  rest

theorem ite {p : Prop} [Decidable p] {x y : Act σ α} (yes : p → EndsAt R x s) (no : ¬p → EndsAt R y s) :
    EndsAt R (if p then x else y) s := by
  by_cases holds : p
  · simpa only [if_pos holds] using yes holds
  · simpa only [if_neg holds] using no holds

theorem modify {f : σ → σ} (step : R s (f s)) : EndsAt R (modify f : Act σ Unit) s := by
  intro s' ran
  rcases ran with ⟨a, run⟩ | ⟨e, run⟩ <;> cases run
  exact step

theorem onFault (trans : ∀ s₁ s₂ s₃, R s₁ s₂ → R s₂ s₃ → R s₁ s₃) {x : Act σ α} {cleanup : Act σ Unit}
    (first : EndsAt R x s) (after : ∀ e s₁, x.run s = .error e s₁ → EndsAt R cleanup s₁) :
    EndsAt R (Act.onFault x cleanup) s := by
  intro s' ran
  unfold Ran at ran
  simp only [run_onFault] at ran
  cases finished : x.run s with
  | ok a s₁ =>
    simp only [finished] at ran
    rcases ran with ⟨b, run⟩ | ⟨e, run⟩ <;> cases run
    exact first s' (Ran.of_ok finished)
  | error e s₁ =>
    simp only [finished] at ran
    have cleaned : Ran cleanup s₁ s' := by
      cases cleaning : cleanup.run s₁ with
      | ok u s₂ =>
        simp only [cleaning] at ran
        rcases ran with ⟨b, run⟩ | ⟨e', run⟩ <;> cases run
        exact Ran.of_ok cleaning
      | error e' s₂ =>
        simp only [cleaning] at ran
        rcases ran with ⟨b, run⟩ | ⟨e'', run⟩ <;> cases run
        exact .inr ⟨e', cleaning⟩
    exact trans _ _ _ (first s₁ (.inr ⟨e, finished⟩)) (after e s₁ finished s' cleaned)

end EndsAt

theorem ran_some (x : Act σ α) (s : σ) : ∃ s', Ran x s s' := by
  cases run : x.run s with
  | ok a s' => exact ⟨s', .inl ⟨a, run⟩⟩
  | error e s' => exact ⟨s', .inr ⟨e, run⟩⟩

theorem Ran.eq_of_ok {x : Act σ α} {s s₁ s' : σ} {a : α} (run : x.run s = .ok a s₁) (ran : Ran x s s') : s' = s₁ := by
  rcases ran with ⟨b, run'⟩ | ⟨e, run'⟩ <;> rw [run] at run' <;> cases run'
  rfl

end Act

namespace Device

theorem ran_wait {target : WaitTarget} {d d' : Device} (ran : Act.Ran (wait target) d d') :
    d' = { d with log := d.log.push (.wait target) } := by
  rcases ran with ⟨a, run⟩ | ⟨e, run⟩ <;>
  · cases target <;> simp only [wait, record, EStateM.run_bind, EStateM.run_modify, EStateM.run_get] at run
      <;> split at run <;> cases run <;> rfl

theorem ran_destroy_log {h : Handle} {d d' : Device} (ran : Act.Ran (destroy h) d d') :
    d'.log = d.log ∨ d'.log = d.log.push (.destroy h) := by
  rcases ran with ⟨a, run⟩ | ⟨e, run⟩ <;> simp only [destroy, record, EStateM.run_bind, EStateM.run_get] at run
  · split at run
    · cases run
      exact .inr rfl
    · cases run
  · split at run
    · cases run
    · cases run
      exact .inl rfl

end Device

namespace Context

structure Advances (i : Nat) (c c' : Context) : Prop where
  size : c'.timelines.size = c.timelines.size
  handle : (c'.timeline i).handle = (c.timeline i).handle
  observed : (c.timeline i).observed ≤ (c'.timeline i).observed
  logged : ∃ extra, c'.device.log.toList = c.device.log.toList ++ extra ∧
    (signalsOn (c.timeline i).handle extra).Pairwise (· < ·) ∧
    ∀ v ∈ signalsOn (c.timeline i).handle extra, (c.timeline i).observed < v ∧ v ≤ (c'.timeline i).observed

namespace Advances

variable {i : Nat}

theorem refl (c : Context) : Advances i c c :=
  ⟨rfl, rfl, UInt64.le_refl _, [], by simp, by simp, by simp⟩

theorem trans {c₁ c₂ c₃ : Context} (first : Advances i c₁ c₂) (second : Advances i c₂ c₃) : Advances i c₁ c₃ := by
  obtain ⟨extra₁, log₁, rising₁, within₁⟩ := first.logged
  obtain ⟨extra₂, log₂, rising₂, within₂⟩ := second.logged
  rw [first.handle] at rising₂ within₂
  refine ⟨second.size.trans first.size, second.handle.trans first.handle,
    UInt64.le_trans first.observed second.observed, extra₁ ++ extra₂, by rw [log₂, log₁, List.append_assoc], ?_, ?_⟩
  · rw [signalsOn_append, List.pairwise_append]
    refine ⟨rising₁, rising₂, fun a earlier b later => ?_⟩
    exact UInt64.lt_of_le_of_lt (within₁ a earlier).2 (within₂ b later).1
  · intro v member
    rw [signalsOn_append, List.mem_append] at member
    rcases member with earlier | later
    · exact ⟨(within₁ v earlier).1, UInt64.le_trans (within₁ v earlier).2 second.observed⟩
    · exact ⟨UInt64.lt_of_le_of_lt first.observed (within₂ v later).1, (within₂ v later).2⟩

theorem of_device {c : Context} {d' : Device} (extra : List Event) (log : d'.log.toList = c.device.log.toList ++ extra)
    (quiet : signalsOn (c.timeline i).handle extra = []) : Advances i c { c with device := d' } :=
  ⟨rfl, rfl, UInt64.le_refl _, extra, log, by rw [quiet]; exact .nil, by simp [quiet]⟩

theorem of_modify {c : Context} (j : Nat) (f : Timeline → Timeline) (handle : (f (c.timeline j)).handle = (c.timeline j).handle)
    (observed : (c.timeline j).observed ≤ (f (c.timeline j)).observed) :
    Advances i c { c with timelines := c.timelines.modify j f } := by
  have changed := timeline_modify c j i f
  refine ⟨Array.size_modify, ?_, ?_, [], by simp, by simp, by simp⟩
  · rw [changed]
    split
    · rename_i same
      rw [← same.1]
      exact handle
    · rfl
  · rw [changed]
    split
    · rename_i same
      rw [← same.1]
      exact observed
    · exact UInt64.le_refl _

variable {α : Type} {c : Context}

theorem ends_pure (a : α) : Act.EndsAt (Advances i) (Pure.pure a : Act Context α) c :=
  Act.EndsAt.pure refl a

theorem ends_fail (e : Error) : Act.EndsAt (Advances i) (Act.fail e : Act Context α) c :=
  Act.EndsAt.fail refl e

theorem ends_bind {β : Type} {x : Act Context α} {f : α → Act Context β} (first : Act.EndsAt (Advances i) x c)
    (rest : ∀ a c₁, x.run c = .ok a c₁ → Act.EndsAt (Advances i) (f a) c₁) : Act.EndsAt (Advances i) (x >>= f) c :=
  Act.EndsAt.bind (fun _ _ _ first second => first.trans second) first rest

theorem ends_onFault {x : Act Context α} {cleanup : Act Context Unit} (first : Act.EndsAt (Advances i) x c)
    (after : ∀ e c₁, x.run c = .error e c₁ → Act.EndsAt (Advances i) cleanup c₁) :
    Act.EndsAt (Advances i) (Act.onFault x cleanup) c :=
  Act.EndsAt.onFault (fun _ _ _ first second => first.trans second) first after

theorem ends_modifyTimeline (j : Nat) (f : Timeline → Timeline)
    (handle : (f (c.timeline j)).handle = (c.timeline j).handle)
    (observed : (c.timeline j).observed ≤ (f (c.timeline j)).observed) :
    Act.EndsAt (Advances i) (modifyTimeline j f) c :=
  Act.EndsAt.modify (of_modify j f handle observed)

theorem ends_device {x : Act Device α}
    (quiet : ∀ d', Act.Ran x c.device d' →
      ∃ extra, d'.log.toList = c.device.log.toList ++ extra ∧ signalsOn (c.timeline i).handle extra = []) :
    Act.EndsAt (Advances i) (device! x) c := by
  intro c' ran
  obtain ⟨d', ran', rfl⟩ := ran_device ran
  obtain ⟨extra, log, silent⟩ := quiet d' ran'
  exact of_device extra log silent

end Advances

section Actions

variable {i : Nat}

open Advances

theorem ends_waitFor (j : Nat) (v : UInt64) (c : Context) : Act.EndsAt (Advances i) (waitFor j v) c := by
  unfold waitFor
  refine Act.EndsAt.get_bind (Act.EndsAt.ite (fun _ => ends_pure ()) fun _ => ?_)
  refine ends_bind (ends_device fun d' ran => ?_) fun _ c₁ _ => ends_modifyTimeline j _ rfl (Timeline.observed_le_observe _ _)
  obtain rfl := Device.ran_wait ran
  exact ⟨_, Array.toList_push .., rfl⟩

theorem ends_query (j : Nat) (c : Context) : Act.EndsAt (Advances i) (query j) c := by
  unfold query
  exact Act.EndsAt.get_bind (ends_bind (ends_modifyTimeline j _ rfl (Timeline.observed_le_observe _ _))
    fun _ c₁ _ => Act.EndsAt.get_bind (ends_pure _))

theorem ends_hold (j : Nat) (c : Context) : Act.EndsAt (Advances i) (hold j) c :=
  ends_modifyTimeline j _ rfl (UInt64.le_refl _)

theorem ends_letGo (j : Nat) (c : Context) : Act.EndsAt (Advances i) (letGo j) c := by
  unfold letGo
  refine ends_bind (ends_modifyTimeline j _ rfl (UInt64.le_refl _)) fun _ c₁ _ => ?_
  refine Act.EndsAt.get_bind (Act.EndsAt.ite (fun _ => ?_) fun _ => ends_pure ())
  refine ends_bind (ends_waitFor j _ c₁) fun _ c₂ _ => ends_device fun d' ran => ?_
  -- the semaphore's destruction is logged, or nothing when it faults
  rcases Device.ran_destroy_log ran with same | destroyed
  · exact ⟨[], by rw [same, List.append_nil], rfl⟩
  · exact ⟨[.destroy _], by rw [destroyed, Array.toList_push], rfl⟩

theorem ends_issue (j : Nat) (c : Context) : Act.EndsAt (Advances i) (issue j) c := by
  intro c' ran
  rcases ran with ⟨v, run⟩ | ⟨e, run⟩ <;> rw [run_issue] at run <;> cases run
  exact of_modify j _ rfl (UInt64.le_refl _)

theorem ends_promise (j : Nat) (c : Context) : Act.EndsAt (Advances i) (promise j) c := by
  unfold promise
  refine ends_bind (ends_issue j c) fun _ c₁ _ => ?_
  refine ends_bind (ends_modifyTimeline j _ rfl (UInt64.le_refl _)) fun _ c₂ _ => ?_
  exact ends_bind (ends_hold j c₂) fun _ _ _ => ends_pure _

theorem ends_signalInfo (j : Nat) (stage : UInt64) (c : Context) : Act.EndsAt (Advances i) (signalInfo j stage) c := by
  unfold signalInfo
  refine ends_bind (ends_issue j c) fun _ c₁ _ => ?_
  exact ends_bind (ends_hold j c₁) fun _ c₂ _ => Act.EndsAt.get_bind (ends_pure _)

theorem ends_submitted (t : Ticket) (c : Context) : Act.EndsAt (Advances i) (submitted t) c := by
  unfold submitted
  exact ends_bind (ends_modifyTimeline t.timeline _ rfl (UInt64.le_refl _)) fun _ c₁ _ => ends_letGo _ c₁

theorem ends_waiterPending (j : Nat) (c : Context) : Act.EndsAt (Advances i) (waiterPending j) c := by
  unfold waiterPending
  exact Act.EndsAt.get_bind (ends_bind (ends_hold j c) fun _ _ _ => ends_pure _)

theorem ends_waiterCurrent (j : Nat) (c : Context) : Act.EndsAt (Advances i) (waiterCurrent j) c := by
  unfold waiterCurrent
  exact ends_bind (ends_query j c) fun _ c₁ _ => ends_bind (ends_hold j c₁) fun _ _ _ => ends_pure _

theorem ends_poll (w : Waiter) (c : Context) : Act.EndsAt (Advances i) (poll w) c := by
  unfold poll
  exact Act.EndsAt.get_bind (Act.EndsAt.ite (fun _ => ends_pure _) fun _ =>
    ends_bind (ends_query _ c) fun _ _ _ => ends_pure _)

theorem ends_advance (h : Handle) (v : UInt64) (c : Context) :
    Act.EndsAt (Advances i) (device! (Device.advance h v)) c :=
  ends_device fun d' ran => by
    rcases ran with ⟨a, run⟩ | ⟨e, run⟩ <;> rw [Device.run_advance] at run <;> cases run
    exact ⟨[], by rw [List.append_nil], rfl⟩

theorem timeline_with (c : Context) (d : Device) (timelines : Array Timeline) (j : Nat) :
    ({ c with device := d, timelines } : Context).timeline j = ({ c with timelines } : Context).timeline j :=
  rfl

theorem advances_signalled {c : Context} {d' : Device} (v : UInt64) (present : i < c.timelines.size)
    (fresh : ¬v ≤ (c.timeline i).observed) (log : d'.log = c.device.log.push (.signal (c.timeline i).handle v)) :
    Advances i c { c with device := d', timelines := c.timelines.modify i (·.observe v) } := by
  have changed : ({ c with device := d', timelines := c.timelines.modify i (·.observe v) } : Context).timeline i =
      (c.timeline i).observe v := by
    rw [timeline_with, timeline_modify, if_pos ⟨rfl, present⟩]
  have reached : ((c.timeline i).observe v).observed = v :=
    Timeline.observed_observe_of_le (UInt64.le_of_lt (UInt64.not_le.mp fresh))
  refine ⟨Array.size_modify, by rw [changed]; rfl, by rw [changed]; exact Timeline.observed_le_observe _ _,
    [.signal (c.timeline i).handle v], by rw [log, Array.toList_push], by simp, ?_⟩
  intro w member
  rw [signalsOn_signal, List.mem_singleton] at member
  subst member
  rw [changed, reached]
  exact ⟨UInt64.not_le.mp fresh, UInt64.le_refl _⟩

theorem ends_signal (p : Promise) (mine : p.timeline = i) (c : Context) (present : i < c.timelines.size) :
    Act.EndsAt (Advances i) (signal p) c := by
  subst mine
  unfold signal
  refine ends_bind (ends_onFault ?_ fun _ c₁ _ => ends_letGo _ c₁) fun _ c₁ _ => ends_letGo _ c₁
  refine ends_bind (ends_waitFor _ _ c) fun _ c₁ waited => Act.EndsAt.get_bind ?_
  refine Act.EndsAt.ite (fun _ => ends_bind (ends_fail _) fun _ _ failed => by cases failed) fun fresh => ?_
  have present₁ : p.timeline < c₁.timelines.size := by
    rw [(ends_waitFor (i := p.timeline) _ _ c c₁ (Act.Ran.of_ok waited)).size]
    exact present
  intro c' ran
  rcases ran with ⟨a, run⟩ | ⟨e, run⟩ <;>
    simp only [EStateM.run_bind, run_device!, Device.run_signal, run_modifyTimeline] at run <;> cases run
  exact advances_signalled p.value present₁ fresh rfl

end Actions

def Quiet (h : Handle) (c c' : Context) : Prop :=
  ∃ extra, c'.device.log.toList = c.device.log.toList ++ extra ∧ signalsOn h extra = []

namespace Quiet

variable {h : Handle}

theorem refl (c : Context) : Quiet h c c :=
  ⟨[], by simp, rfl⟩

theorem trans {c₁ c₂ c₃ : Context} (first : Quiet h c₁ c₂) (second : Quiet h c₂ c₃) : Quiet h c₁ c₃ := by
  obtain ⟨extra₁, log₁, silent₁⟩ := first
  obtain ⟨extra₂, log₂, silent₂⟩ := second
  exact ⟨extra₁ ++ extra₂, by rw [log₂, log₁, List.append_assoc], by simp [silent₁, silent₂]⟩

theorem of_timelines {c : Context} (timelines : Array Timeline) : Quiet h c { c with timelines } :=
  ⟨[], by simp, rfl⟩

end Quiet

theorem quiet_waitFor (h : Handle) (j : Nat) (v : UInt64) (c : Context) : Act.EndsAt (Quiet h) (waitFor j v) c := by
  unfold waitFor
  refine Act.EndsAt.get_bind (Act.EndsAt.ite (fun _ => Act.EndsAt.pure Quiet.refl ()) fun _ => ?_)
  refine Act.EndsAt.bind (fun _ _ _ first second => first.trans second) ?_
    fun _ c₁ _ => Act.EndsAt.modify (Quiet.of_timelines _)
  intro c' ran
  obtain ⟨d', ran', rfl⟩ := ran_device ran
  obtain rfl := Device.ran_wait ran'
  exact ⟨_, Array.toList_push .., rfl⟩

theorem quiet_letGo (h : Handle) (j : Nat) (c : Context) : Act.EndsAt (Quiet h) (letGo j) c := by
  unfold letGo
  refine Act.EndsAt.bind (fun _ _ _ first second => first.trans second) (Act.EndsAt.modify (Quiet.of_timelines _))
    fun _ c₁ _ => ?_
  refine Act.EndsAt.get_bind (Act.EndsAt.ite (fun _ => ?_) fun _ => Act.EndsAt.pure Quiet.refl ())
  refine Act.EndsAt.bind (fun _ _ _ first second => first.trans second) (quiet_waitFor h j _ c₁) fun _ c₂ _ => ?_
  intro c' ran
  obtain ⟨d', ran', rfl⟩ := ran_device ran
  rcases Device.ran_destroy_log ran' with same | destroyed
  · exact ⟨[], by rw [same, List.append_nil], rfl⟩
  · exact ⟨[.destroy _], by rw [destroyed, Array.toList_push], rfl⟩

theorem run_waitFor_seen {j : Nat} {v : UInt64} {c : Context} (seen : v ≤ (c.timeline j).observed) :
    (waitFor j v).run c = .ok () c := by
  simp only [waitFor, EStateM.run_bind, EStateM.run_get, if_pos seen]
  rfl

theorem run_waitFor_reached {j : Nat} {v : UInt64} {c : Context} (unseen : ¬v ≤ (c.timeline j).observed)
    (reached : v ≤ c.counter j) :
    (waitFor j v).run c =
      .ok () { c with
        device := { c.device with log := c.device.log.push (.wait (.semaphore (c.timeline j).handle v)) }
        timelines := c.timelines.modify j (·.observe v) } := by
  simp only [waitFor, EStateM.run_bind, EStateM.run_get, if_neg unseen]
  rw [run_device!, Device.run_wait_reached reached]
  rfl

theorem run_letGo_held {j : Nat} {c : Context} (present : j < c.timelines.size) (held : 1 < (c.timeline j).holders) :
    (letGo j).run c =
      .ok () { c with timelines := c.timelines.modify j fun t => { t with holders := t.holders - 1 } } := by
  have changed := timeline_modify c j j fun t => { t with holders := t.holders - 1 }
  rw [if_pos ⟨rfl, present⟩] at changed
  have remains : ¬(({ c with timelines := c.timelines.modify j fun t => { t with holders := t.holders - 1 } } :
      Context).timeline j).holders = 0 := by
    rw [changed]
    dsimp only
    omega
  simp only [letGo, EStateM.run_bind, run_modifyTimeline, EStateM.run_get, if_neg remains]
  rfl

theorem letGo_last_destroys {j : Nat} {c : Context} (present : j < c.timelines.size)
    (one : (c.timeline j).holders = 1) (reached : (c.timeline j).gpuPending ≤ c.counter j)
    (live : (c.timeline j).handle ∈ c.device.live) :
    ∃ c', (letGo j).run c = .ok () c' ∧ c'.device.log.toList.getLast? = some (.destroy (c.timeline j).handle) := by
  have changed := timeline_modify c j j fun t => { t with holders := t.holders - 1 }
  rw [if_pos ⟨rfl, present⟩] at changed
  -- the wait for the last ticket comes back and changes only the log and the observed value
  obtain ⟨c₂, waited, same⟩ : ∃ c₂ : Context, (waitFor j (c.timeline j).gpuPending).run
      { c with timelines := c.timelines.modify j fun t => { t with holders := t.holders - 1 } } = .ok () c₂ ∧
      c₂.device.live = c.device.live ∧ c₂.device.poolSets = c.device.poolSets := by
    by_cases seen : (c.timeline j).gpuPending ≤
        (({ c with timelines := c.timelines.modify j fun t => { t with holders := t.holders - 1 } } :
          Context).timeline j).observed
    · exact ⟨_, run_waitFor_seen seen, rfl, rfl⟩
    · refine ⟨_, run_waitFor_reached seen ?_, rfl, rfl⟩
      simpa only [counter, changed] using reached
  obtain ⟨d', gone, logged⟩ : ∃ d', (Device.destroy (c.timeline j).handle).run c₂.device = .ok () d' ∧
      d'.log = c₂.device.log.push (.destroy (c.timeline j).handle) :=
    ⟨_, Device.run_destroy_live _ _ (same.1 ▸ live), rfl⟩
  refine ⟨{ c₂ with device := d' }, ?_, by simp [logged]⟩
  simp only [letGo, EStateM.run_bind, run_modifyTimeline, EStateM.run_get, changed, one, Nat.sub_self, if_true]
  rw [waited]
  simp only [run_device!, gone]

theorem one_le_of_pos {v : UInt64} (positive : 0 < v) : 1 ≤ v :=
  UInt64.le_iff_toNat_le.mpr (Nat.succ_le_of_lt (by simpa using UInt64.lt_iff_toNat_lt.mp positive))

theorem le_sub_one_of_lt {o v : UInt64} (below : o < v) : o ≤ v - 1 := by
  have positive : 0 < v := UInt64.lt_of_le_of_lt (UInt64.le_iff_toNat_le.mpr (Nat.zero_le _)) below
  rw [UInt64.le_iff_toNat_le, UInt64.toNat_sub_of_le _ _ (one_le_of_pos positive)]
  have := UInt64.lt_iff_toNat_lt.mp below
  simp only [UInt64.toNat_one]
  omega

theorem run_waitFor_up {j : Nat} {v : UInt64} {c : Context} (present : j < c.timelines.size)
    (above : (c.timeline j).observed ≤ v) (reached : v ≤ c.counter j) :
    ∃ c₁, (waitFor j v).run c = .ok () c₁ ∧ c₁.timelines.size = c.timelines.size ∧
      c₁.timeline j = { c.timeline j with observed := v } ∧ ∀ h, Quiet h c c₁ := by
  by_cases seen : v ≤ (c.timeline j).observed
  · -- the value is the observed one already
    have same : (c.timeline j).observed = v := UInt64.le_antisymm above seen
    exact ⟨c, run_waitFor_seen seen, rfl, by rw [← same], fun h => Quiet.refl c⟩
  · refine ⟨_, run_waitFor_reached seen reached, Array.size_modify, ?_, fun h => ⟨_, Array.toList_push .., rfl⟩⟩
    rw [timeline_with, timeline_modify, if_pos ⟨rfl, present⟩]
    simp only [Timeline.observe, max, if_pos above]

theorem run_signal_fresh {c : Context} (p : Promise) (present : p.timeline < c.timelines.size)
    (fresh : (c.timeline p.timeline).observed < p.value) (reachable : p.value - 1 ≤ c.counter p.timeline) :
    ∃ c₂, (signal p).run c = (letGo p.timeline).run c₂ ∧ c₂.timelines.size = c.timelines.size ∧
      c₂.timeline p.timeline = { c.timeline p.timeline with observed := p.value } ∧
      ∃ extra, c₂.device.log.toList = c.device.log.toList ++ extra ∧
        signalsOn (c.timeline p.timeline).handle extra = [p.value] := by
  have positive : 0 < p.value := UInt64.lt_of_le_of_lt (UInt64.le_iff_toNat_le.mpr (Nat.zero_le _)) fresh
  obtain ⟨c₁, waited, size, observed, quiet⟩ := run_waitFor_up present (le_sub_one_of_lt fresh) reachable
  have below : p.value - 1 < p.value := UInt64.sub_lt (by decide) (one_le_of_pos positive)
  have unsignalled : ¬p.value ≤ (c₁.timeline p.timeline).observed := by
    rw [observed]
    exact UInt64.not_le.mpr below
  obtain ⟨extra, log, silent⟩ := quiet (c.timeline p.timeline).handle
  have handle : (c₁.timeline p.timeline).handle = (c.timeline p.timeline).handle := by rw [observed]
  refine ⟨{ c₁ with
      device := { c₁.device with
        log := c₁.device.log.push (.signal (c₁.timeline p.timeline).handle p.value)
        gauges := ((c₁.timeline p.timeline).handle, (c₁.device.gauge (c₁.timeline p.timeline).handle).advance p.value) ::
          c₁.device.gauges.filter (·.1 != (c₁.timeline p.timeline).handle) }
      timelines := c₁.timelines.modify p.timeline (·.observe p.value) }, ?_, ?_, ?_, ?_⟩
  · simp only [signal, EStateM.run_bind, Act.run_onFault, waited, EStateM.run_get, if_neg unsignalled, run_device!,
      Device.run_signal, run_modifyTimeline]
  · rw [Array.size_modify, size]
  · rw [timeline_with, timeline_modify, if_pos ⟨rfl, size ▸ present⟩, observed]
    simp only [Timeline.observe, max, if_pos (UInt64.le_of_lt below)]
  · refine ⟨extra ++ [.signal (c.timeline p.timeline).handle p.value], ?_, by simp [silent]⟩
    simp only [Array.toList_push, log, handle, List.append_assoc]

theorem run_signal_reached {c : Context} (p : Promise) (positive : 0 < p.value)
    (reached : p.value ≤ (c.timeline p.timeline).observed) :
    ∃ c', (signal p).run c = .error (.fatal (.misuse (.promiseReached (c.timeline p.timeline).name p.value
        (c.timeline p.timeline).observed))) c' ∧ Act.Ran (letGo p.timeline) c c' := by
  have seen : p.value - 1 ≤ (c.timeline p.timeline).observed :=
    UInt64.le_trans (UInt64.le_of_lt (UInt64.sub_lt (by decide) (one_le_of_pos positive))) reached
  cases cleanup : (letGo p.timeline).run c with
  | ok u c' =>
    refine ⟨c', ?_, .inl ⟨u, cleanup⟩⟩
    simp only [signal, EStateM.run_bind, Act.run_onFault, run_waitFor_seen seen, EStateM.run_get, if_pos reached,
      Act.run_fail, cleanup]
  | error e c' =>
    refine ⟨c', ?_, .inr ⟨e, cleanup⟩⟩
    simp only [signal, EStateM.run_bind, Act.run_onFault, run_waitFor_seen seen, EStateM.run_get, if_pos reached,
      Act.run_fail, cleanup]

theorem observe_pred_eq_iff (t : Timeline) {v : UInt64} (positive : 0 < v) :
    (t.observe (v - 1)).observed = v - 1 ↔ t.observed < v := by
  have below : v - 1 < v := UInt64.sub_lt (by decide) (one_le_of_pos positive)
  simp only [Timeline.observe, max]
  constructor
  · intro waited
    split at waited
    · exact UInt64.lt_of_le_of_lt ‹_› below
    · rw [waited]
      exact below
  · intro fresh
    rw [if_pos (le_sub_one_of_lt fresh)]

structure Fulfils (i : Nat) (c : Context) (p : Promise) : Prop where
  fresh : ((c.timeline i).observe (p.value - 1)).observed = p.value - 1 →
    ∃ c', Act.Ran (signal p) c c' ∧
      (∃ extra, c'.device.log.toList = c.device.log.toList ++ extra ∧
        signalsOn (c.timeline i).handle extra = [p.value]) ∧
      (1 < (c.timeline i).holders → (signal p).run c = .ok () c' ∧ (c'.timeline i).observed = p.value)
  reached : ((c.timeline i).observe (p.value - 1)).observed ≠ p.value - 1 →
    p.value ≤ (c.timeline i).observed ∧
    ∃ c', (signal p).run c =
        .error (.fatal (.misuse (.promiseReached (c.timeline i).name p.value (c.timeline i).observed))) c' ∧
      (∃ extra, c'.device.log.toList = c.device.log.toList ++ extra ∧ signalsOn (c.timeline i).handle extra = []) ∧
      (1 < (c.timeline i).holders → c'.device.log = c.device.log ∧ (c'.timeline i).observed = (c.timeline i).observed) ∧
      ((c.timeline i).holders = 1 → (c.timeline i).gpuPending ≤ c.counter i → (c.timeline i).handle ∈ c.device.live →
        c'.device.log.toList.getLast? = some (.destroy (c.timeline i).handle))

theorem signal_fulfils {i : Nat} {c : Context} (p : Promise) (mine : p.timeline = i) (present : i < c.timelines.size)
    (positive : 0 < p.value) (reachable : p.value - 1 ≤ c.counter i) : Fulfils i c p := by
  subst mine
  constructor
  · intro waited
    have fresh := (observe_pred_eq_iff _ positive).mp waited
    obtain ⟨c₂, signalled, size, observed, extra, log, once⟩ := run_signal_fresh p present fresh reachable
    obtain ⟨c', released⟩ := Act.ran_some (letGo p.timeline) c₂
    have ran : Act.Ran (signal p) c c' := by
      unfold Act.Ran
      rw [signalled]
      exact released
    obtain ⟨extra', log', silent⟩ := quiet_letGo (c.timeline p.timeline).handle p.timeline c₂ c' released
    refine ⟨c', ran, ⟨extra ++ extra', by rw [log', log, List.append_assoc], by simp [once, silent]⟩, fun held => ?_⟩
    -- another holder remains, so letting go only counts the promise out
    have held₂ : 1 < (c₂.timeline p.timeline).holders := by rw [observed]; exact held
    have counted := run_letGo_held (size ▸ present) held₂
    obtain rfl := Act.Ran.eq_of_ok counted released
    refine ⟨by rw [signalled, counted], ?_⟩
    rw [timeline_modify, if_pos ⟨rfl, size ▸ present⟩, observed]
  · intro unwaited
    have reached := UInt64.not_lt.mp fun fresh => unwaited ((observe_pred_eq_iff _ positive).mpr fresh)
    obtain ⟨c', failed, released⟩ := run_signal_reached p positive reached
    refine ⟨reached, c', failed, quiet_letGo (c.timeline p.timeline).handle p.timeline c c' released, fun held => ?_,
      fun one accepted live => ?_⟩
    · have counted := run_letGo_held present held
      obtain rfl := Act.Ran.eq_of_ok counted released
      refine ⟨rfl, ?_⟩
      rw [timeline_modify, if_pos ⟨rfl, present⟩]
    · -- the promise was the last holder: letting it go waits for the accepted tickets and destroys
      obtain ⟨c'', finished, destroyed⟩ := letGo_last_destroys present one accepted live
      obtain rfl := Act.Ran.eq_of_ok finished released
      exact destroyed

end Context

namespace TimelineRun

open Relation Context

variable {i : Nat} {r r' : TimelineRun}

theorem advances_step (present : i < r.context.timelines.size) (step : Step i r r') :
    Advances i r.context r'.context := by
  cases step with
  | promise run => exact ends_promise i _ _ (Act.Ran.of_ok run)
  | signalInfo stage run => exact ends_signalInfo i stage _ _ (Act.Ran.of_ok run)
  | signal p mine ran => exact ends_signal p mine _ present _ ran
  | submitted t mine ran => exact ends_submitted t _ _ ran
  | waiterPending ran => exact ends_waiterPending i _ _ ran
  | waiterCurrent ran => exact ends_waiterCurrent i _ _ ran
  | waitFor v ran => exact ends_waitFor i v _ _ ran
  | poll w mine ran => exact ends_poll w _ _ ran
  | query ran => exact ends_query i _ _ ran
  | letGo ran => exact ends_letGo i _ _ ran
  | advance h v ran => exact ends_advance h v _ _ ran

theorem advances_run (present : i < r.context.timelines.size) (run : ReflTransGen (Step i) r r') :
    Advances i r.context r'.context := by
  induction run with
  | refl => exact Advances.refl _
  | tail _ step ih => exact ih.trans (advances_step (ih.size ▸ present) step)

theorem promises_signal_in_order {name : String} {c c₀ : Context} {r : TimelineRun}
    (made : (newTimeline name).run c = .ok (.ok i) c₀) (run : ReflTransGen (Step i) ⟨c₀, []⟩ r) :
    (∃ extra, r.context.device.log.toList = c₀.device.log.toList ++ extra ∧
      (signalsOn (c₀.timeline i).handle extra).Pairwise (· < ·)) ∧
    ∀ p : Promise, p.timeline = i → 0 < p.value → p.value - 1 ≤ r.context.counter i → Fulfils i r.context p := by
  have present := (newTimeline_fresh made).present
  have advanced := advances_run present run
  obtain ⟨extra, log, rising, -⟩ := advanced.logged
  exact ⟨⟨extra, log, rising⟩, fun p mine positive reachable =>
    signal_fulfils p mine (advanced.size ▸ present) positive reachable⟩

-- A timeline made on a fresh device hands out a promise, then a ticket for a submission: the promise,
-- of value 1, signals its value.
theorem first_promise_signals :
    ∃ c₀ r p, (newTimeline "s").run { (default : Context) with device := {} } = .ok (.ok 0) c₀ ∧
      ReflTransGen (Step 0) ⟨c₀, []⟩ r ∧ p.value = 1 ∧ ∃ c', Act.Ran (signal p) r.context c' ∧
        ∃ extra, c'.device.log.toList = r.context.device.log.toList ++ extra ∧
          signalsOn (r.context.timeline 0).handle extra = [1] := by
  have ran : Act.answers ((newTimeline "s").run { (default : Context) with device := {} }) (fun i c₀ =>
      i == 0 && Act.finishes ((promise 0).run c₀) fun p c₁ =>
        Act.finishes ((signalInfo 0 0).run c₁) fun _ c₂ =>
          p.timeline == 0 && p.value == 1 && decide (((c₂.timeline 0).observe 0).observed = 0)) = true := by
    cbv
  obtain ⟨i, c₀, made, ran⟩ := Act.answers_eq_true.mp ran
  rw [Bool.and_eq_true, beq_iff_eq] at ran
  obtain ⟨rfl, ran⟩ := ran
  obtain ⟨p, c₁, promised, ran⟩ := Act.finishes_eq_true.mp ran
  obtain ⟨t, c₂, ticketed, ran⟩ := Act.finishes_eq_true.mp ran
  simp only [Bool.and_eq_true, beq_iff_eq, decide_eq_true_eq] at ran
  obtain ⟨⟨mine, value⟩, waited⟩ := ran
  have run : ReflTransGen (Step 0) ⟨c₀, []⟩ ⟨c₂, [p.value, t.point.value]⟩ :=
    .tail (.single (.promise promised)) (.signalInfo 0 ticketed)
  have fulfils := (promises_signal_in_order made run).2 p mine (by rw [value]; decide)
    (by rw [value]; exact UInt64.le_iff_toNat_le.mpr (by simp))
  obtain ⟨c', signalled, ⟨extra, log, once⟩, -⟩ := fulfils.fresh (by rw [value]; exact waited)
  exact ⟨c₀, _, p, made, run, value, c', signalled, extra, log, value ▸ once⟩

-- The promise is the timeline's last holder, so its misuse still lets the timeline go.
theorem reached_last_promise_destroys_semaphore :
    ∃ c', (signal ⟨0, 1⟩).run
        { (default : Context) with
          device := { next := 0x1003, live := [⟨.semaphore, 0x1002⟩], gauges := [(⟨.semaphore, 0x1002⟩, ⟨1, [1]⟩)] }
          timelines := #[{ handle := ⟨.semaphore, 0x1002⟩, name := "s", pending := 1, cpuPending := 1, observed := 1 }] } =
        .error (.fatal (.misuse (.promiseReached "s" 1 1))) c' ∧
      c'.device.log = #[.destroy ⟨.semaphore, 0x1002⟩] :=
  ⟨_, rfl, rfl⟩

end TimelineRun

end RenderCore
