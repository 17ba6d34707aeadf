import RenderCore.Context.Basic
namespace RenderCore.Act

variable {σ τ α β : Type}

@[simp] theorem run_map (f : α → β) (x : Act σ α) (s : σ) :
    (f <$> x).run s = match x.run s with
      | .ok a s' => .ok (f a) s'
      | .error e s' => .error e s' := by
  simp only [EStateM.run, Functor.map, EStateM.map]
  cases x s <;> rfl

@[simp] theorem run_discard (x : Act σ α) (s : σ) :
    (discard x).run s = match x.run s with
      | .ok _ s' => .ok () s'
      | .error e s' => .error e s' := by
  simp only [EStateM.run, discard, Functor.mapConst, Function.comp_apply, EStateM.map]
  cases x s <;> rfl

@[simp] theorem run_seqRight (x : Act σ α) (y : Act σ β) (s : σ) :
    (x *> y).run s = match x.run s with
      | .ok _ s' => y.run s'
      | .error e s' => .error e s' := by
  simp only [EStateM.run, SeqRight.seqRight, EStateM.seqRight]
  cases x s <;> rfl

@[simp] theorem run_throw (e : Fault) (s : σ) : (throw e : Act σ α).run s = .error e s := rfl

@[simp] theorem run_fail (e : Error) (s : σ) : (fail e : Act σ α).run s = .error (.fatal e) s :=
  rfl

@[simp] theorem run_orFail_ok (a : α) (s : σ) : (orFail (.ok a) : Act σ α).run s = .ok a s := rfl

@[simp] theorem run_focus (get : σ → τ) (set : σ → τ → σ) (x : Act τ α) (s : σ) :
    (focus get set x).run s = match x.run (get s) with
      | .ok a t => .ok a (set s t)
      | .error e t => .error e (set s t) := rfl

@[simp] theorem run_onFault (x : Act σ α) (cleanup : Act σ Unit) (s : σ) :
    (onFault x cleanup).run s = match x.run s with
      | .ok a s' => .ok a s'
      | .error e s' => match cleanup.run s' with
        | .ok _ s'' => .error e s''
        | .error _ s'' => .error e s'' := rfl

theorem run_onFault_ok {x : Act σ α} {cleanup : Act σ Unit} {s s' : σ} {a : α}
    (run : (onFault x cleanup).run s = .ok a s') : x.run s = .ok a s' := by
  rw [run_onFault] at run
  split at run
  · cases run
    exact ‹_›
  · split at run <;> cases run

theorem run_bind_ok {x : Act σ α} {f : α → Act σ β} {s s' : σ} {b : β} (run : (x >>= f).run s = .ok b s') :
    ∃ a s₁, x.run s = .ok a s₁ ∧ (f a).run s₁ = .ok b s' := by
  rw [EStateM.run_bind] at run
  split at run
  · exact ⟨_, _, ‹_›, run⟩
  · cases run

-- Tests of a run that finished, which `cbv` decides on fixed inputs: `k` reads what the run
-- returned and the state it left.
def finishes (r : EStateM.Result Fault σ α) (k : α → σ → Bool) : Bool :=
  match r with
  | .ok a s => k a s
  | .error _ _ => false

def answers {ε : Type} (r : EStateM.Result Fault σ (Except ε α)) (k : α → σ → Bool) : Bool :=
  finishes r fun v s => match v with
    | .ok a => k a s
    | .error _ => false

theorem finishes_eq_true {r : EStateM.Result Fault σ α} {k : α → σ → Bool} :
    finishes r k = true ↔ ∃ a s, r = .ok a s ∧ k a s = true := by
  cases r with
  | ok a s =>
    constructor
    · exact fun holds => ⟨a, s, rfl, holds⟩
    · rintro ⟨_, _, ⟨⟩, holds⟩
      exact holds
  | error => simp [finishes]

theorem answers_eq_true {ε : Type} {r : EStateM.Result Fault σ (Except ε α)} {k : α → σ → Bool} :
    answers r k = true ↔ ∃ a s, r = .ok (.ok a) s ∧ k a s = true := by
  rw [answers, finishes_eq_true]
  constructor
  · rintro ⟨v, s, rfl, holds⟩
    cases v with
    | ok a => exact ⟨a, s, rfl, holds⟩
    | error => cases holds
  · rintro ⟨a, s, rfl, holds⟩
    exact ⟨.ok a, s, rfl, holds⟩

theorem run_forIn_of_step (xs : List α) (f : α → Unit → Act σ (ForInStep Unit)) (inv : List α → σ → Prop)
    (step : ∀ x rest s, inv (x :: rest) s → ∃ s', (f x ()).run s = .ok (.yield ()) s' ∧ inv rest s') (s : σ)
    (start : inv xs s) : ∃ s', (forIn xs () f).run s = .ok () s' ∧ inv [] s' := by
  induction xs generalizing s with
  | nil => exact ⟨s, rfl, start⟩
  | cons x rest ih =>
    obtain ⟨s₁, first, kept⟩ := step x rest s start
    obtain ⟨s₂, later, final⟩ := ih s₁ kept
    refine ⟨s₂, ?_, final⟩
    simp only [List.forIn_cons, EStateM.run_bind, first]
    exact later

-- For a preorder `R`, actions built from ones that respect it respect it too, so each action's
-- lemma follows the way the action is built.
def Respects (R : σ → σ → Prop) (x : Act σ α) : Prop :=
  ∀ s a s', x.run s = .ok a s' → R s s'

namespace Respects

variable {R : σ → σ → Prop}

theorem of_pure (refl : ∀ s, R s s) (a : α) : Respects R (pure a : Act σ α) := by
  intro s b s' run
  cases run
  exact refl s

theorem bind (trans : ∀ s₁ s₂ s₃, R s₁ s₂ → R s₂ s₃ → R s₁ s₃) {x : Act σ α} {f : α → Act σ β}
    (first : Respects R x) (rest : ∀ a, Respects R (f a)) : Respects R (x >>= f) := by
  intro s b s' run
  obtain ⟨a, s₁, ran, run⟩ := run_bind_ok run
  exact trans _ _ _ (first s a s₁ ran) (rest a s₁ b s' run)

theorem of_get (refl : ∀ s, R s s) : Respects R (get : Act σ σ) := by
  intro s b s' run
  cases run
  exact refl s

theorem of_modify {f : σ → σ} (step : ∀ s, R s (f s)) : Respects R (modify f : Act σ Unit) := by
  intro s b s' run
  cases run
  exact step s

theorem of_fail (e : Error) : Respects R (fail e : Act σ α) := by
  intro s b s' run
  cases run

theorem ite {p : Prop} [Decidable p] {x y : Act σ α} (yes : Respects R x) (no : Respects R y) :
    Respects R (if p then x else y) := by
  by_cases holds : p
  · simpa only [if_pos holds] using yes
  · simpa only [if_neg holds] using no

theorem forIn {δ : Type} (refl : ∀ s, R s s) (trans : ∀ s₁ s₂ s₃, R s₁ s₂ → R s₂ s₃ → R s₁ s₃)
    (xs : List δ) (b : β) {f : δ → β → Act σ (ForInStep β)} (body : ∀ x b, Respects R (f x b)) :
    Respects R (ForIn.forIn xs b f) := by
  induction xs generalizing b with
  | nil => exact of_pure refl b
  | cons x rest ih =>
    rw [List.forIn_cons]
    refine bind trans (body x b) fun step => ?_
    cases step with
    | done b' => exact of_pure refl b'
    | yield b' => exact ih b'

theorem onFault {x : Act σ α} (respects : Respects R x) (cleanup : Act σ Unit) :
    Respects R (onFault x cleanup) :=
  fun s _ _ run => respects s _ _ (run_onFault_ok run)

end Respects

end RenderCore.Act

namespace RenderCore.Context

@[simp] theorem run_device! {α : Type} (x : Act Device α) (c : Context) :
    (device! x).run c = match x.run c.device with
      | .ok a d => .ok a { c with device := d }
      | .error e d => .error e { c with device := d } := by
  cases h : x.run c.device <;> simp [device!, h]

theorem run_device_ok {α : Type} {x : Act Device α} {c c' : Context} {a : α} (run : (device! x).run c = .ok a c') :
    ∃ d', x.run c.device = .ok a d' ∧ c' = { c with device := d' } := by
  rw [run_device!] at run
  split at run
  · cases run
    exact ⟨_, ‹_›, rfl⟩
  · cases run

end RenderCore.Context

namespace RenderCore.Act.Respects

theorem of_device {α : Type} {R : Context → Context → Prop} {x : Act Device α}
    (step : ∀ c a d', x.run c.device = .ok a d' → R c { c with device := d' }) :
    Respects R (Context.device! x) := by
  intro c a c' run
  obtain ⟨d', ran, rfl⟩ := Context.run_device_ok run
  exact step c a d' ran

end RenderCore.Act.Respects
