import RenderCore.Proofs.Renderer.Session
import RenderCore.Proofs.Timelines.Signals
namespace RenderCore

-- The place of each kind of object in teardown's order.
def HandleKind.teardownRank : HandleKind → Nat
  | .pipelineLayout => 1
  | .setLayout => 2
  | .pool => 3
  | .frame => 4
  | _ => 0

def Event.destroyRank : Event → Option Nat
  | .destroy h => some h.kind.teardownRank
  | _ => none

def destroyRanks (events : List Event) : List Nat :=
  events.filterMap Event.destroyRank

@[simp] theorem destroyRanks_nil : destroyRanks [] = [] := rfl

@[simp] theorem destroyRanks_append (a b : List Event) :
    destroyRanks (a ++ b) = destroyRanks a ++ destroyRanks b :=
  List.filterMap_append

@[simp] theorem destroyRanks_cons (e : Event) (rest : List Event) :
    destroyRanks (e :: rest) = e.destroyRank.toList ++ destroyRanks rest := by
  cases ranked : e.destroyRank <;> simp [destroyRanks, ranked]

namespace Act

end Act

namespace Act.EndsAt

variable {σ α β δ : Type} {R : σ → σ → Prop}

theorem discard {x : Act σ α} {s : σ} (ends : EndsAt R x s) : EndsAt R (Functor.discard x) s := by
  intro s' ran
  rcases ran with ⟨u, run⟩ | ⟨e, run⟩ <;> rw [run_discard] at run <;> split at run <;> cases run
  · exact ends s' (.inl ⟨_, ‹_›⟩)
  · exact ends s' (.inr ⟨_, ‹_›⟩)

theorem orFail (refl : ∀ s, R s s) (r : Except Error α) (s : σ) : EndsAt R (Act.orFail r : Act σ α) s := by
  cases r with
  | ok a => exact pure refl a
  | error e => exact fail refl e

theorem forIn (refl : ∀ s, R s s) (trans : ∀ s₁ s₂ s₃, R s₁ s₂ → R s₂ s₃ → R s₁ s₃) (inv : σ → Prop)
    (xs : List δ) (b : β) {f : δ → β → Act σ (ForInStep β)}
    (body : ∀ x ∈ xs, ∀ b s, inv s → EndsAt R (f x b) s)
    (keeps : ∀ x ∈ xs, ∀ b, Respects (fun s s' => inv s → inv s') (f x b)) :
    ∀ s, inv s → EndsAt R (ForIn.forIn xs b f) s := by
  induction xs generalizing b with
  | nil => exact fun _ _ => pure refl b
  | cons x rest ih =>
    intro s holds
    rw [List.forIn_cons]
    refine bind trans (body x (List.mem_cons_self ..) b s holds) fun step s₁ turn => ?_
    cases step with
    | done b' => exact pure refl b'
    | yield b' =>
      exact ih b' (fun y member => body y (List.mem_cons_of_mem _ member))
        (fun y member => keeps y (List.mem_cons_of_mem _ member)) s₁
        (keeps x (List.mem_cons_self ..) b s _ s₁ turn holds)

end Act.EndsAt

namespace Device

end Device

namespace Context

variable {c c' : Context} {α β : Type} {k : Nat}

def DestroysAt (k : Nat) (c c' : Context) : Prop :=
  ∃ extra, c'.device.log.toList = c.device.log.toList ++ extra ∧ ∀ r ∈ destroyRanks extra, r = k

def DestroysFrom (k : Nat) (c c' : Context) : Prop :=
  ∃ extra, c'.device.log.toList = c.device.log.toList ++ extra ∧
    (destroyRanks extra).Pairwise (· ≤ ·) ∧ ∀ r ∈ destroyRanks extra, k ≤ r

namespace DestroysAt

theorem refl (c : Context) : DestroysAt k c c :=
  ⟨[], by rw [List.append_nil], fun _ none => absurd none List.not_mem_nil⟩

theorem trans {c₁ c₂ c₃ : Context} (first : DestroysAt k c₁ c₂) (second : DestroysAt k c₂ c₃) :
    DestroysAt k c₁ c₃ := by
  obtain ⟨extra₁, log₁, ranked₁⟩ := first
  obtain ⟨extra₂, log₂, ranked₂⟩ := second
  refine ⟨extra₁ ++ extra₂, by rw [log₂, log₁, List.append_assoc], fun r member => ?_⟩
  rw [destroyRanks_append, List.mem_append] at member
  exact member.elim (ranked₁ r) (ranked₂ r)

theorem of_push (e : Event) (log : c'.device.log = c.device.log.push e) (ranked : ∀ r ∈ e.destroyRank, r = k) :
    DestroysAt k c c' :=
  ⟨[e], by rw [log, Array.toList_push], by simpa using ranked⟩

end DestroysAt

theorem DestroysFrom.mono {k' : Nat} (le : k' ≤ k) (later : DestroysFrom k c c') : DestroysFrom k' c c' := by
  obtain ⟨extra, log, ordered, ranked⟩ := later
  exact ⟨extra, log, ordered, fun r member => le.trans (ranked r member)⟩

section Phases

end Phases

section Drain

def destroyAll : Act Context Unit := do
  discard destroyPipelines
  discard <| destroyCache .pipelineLayouts
  discard <| destroyCache .setLayouts
  discard destroyPools
  discard destroyRing

end Drain

end Context

end RenderCore
