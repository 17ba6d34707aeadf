import RenderCore.Layout.Basic
namespace RenderCore

namespace Except

variable {α β ε : Type}

@[simp] theorem throw_eq_error (e : ε) : (throw e : Except ε α) = .error e := rfl

@[simp] theorem pure_eq_ok (a : α) : (pure a : Except ε α) = .ok a := rfl

@[simp] theorem error_bind (e : ε) (f : α → Except ε β) : (Except.error e >>= f) = .error e := rfl

@[simp] theorem ok_bind (a : α) (f : α → Except ε β) : (Except.ok a >>= f) = f a := rfl

end Except

section Loops

variable {α β ε : Type}

theorem forIn_except_ok (xs : List α) (f : α → PUnit → Except ε (ForInStep PUnit)) (passes : α → Prop)
    (step : ∀ x, (passes x → f x () = .ok (.yield ())) ∧ (¬ passes x → ∃ e, f x () = .error e)) :
    forIn xs () f = .ok () ↔ ∀ x ∈ xs, passes x := by
  induction xs with
  | nil => exact iff_of_true rfl fun _ absent => absurd absent List.not_mem_nil
  | cons x rest ih =>
    rw [List.forIn_cons, List.forall_mem_cons]
    by_cases passed : passes x
    · rw [(step x).1 passed]
      exact ih.trans (and_iff_right passed).symm
    · obtain ⟨e, failed⟩ := (step x).2 passed
      rw [failed]
      exact iff_of_false (fun stopped => by cases stopped) fun both => passed both.1

theorem mapM_checked_ok (passes : α → Prop) [DecidablePred passes] (entry : α → β) (refusal : α → ε)
    (xs : List α) (ys : List β) :
    xs.mapM (fun x => if passes x then Except.ok (entry x) else Except.error (refusal x)) = .ok ys ↔
      (∀ x ∈ xs, passes x) ∧ ys = xs.map entry := by
  induction xs generalizing ys with
  | nil => cases ys <;> simp
  | cons x rest ih =>
    rw [List.mapM_cons, List.forall_mem_cons, List.map_cons]
    by_cases passed : passes x
    · cases later : rest.mapM (fun x => if passes x then Except.ok (entry x) else Except.error (refusal x)) with
      | error e =>
        have failing : ¬ ∀ y ∈ rest, passes y := fun all => by simpa [later] using (ih _).mpr ⟨all, rfl⟩
        simp [passed, failing]
      | ok ys' =>
        obtain ⟨all, rfl⟩ := (ih ys').mp later
        simp only [passed, if_true, Except.ok_bind, Except.pure_eq_ok, Except.ok.injEq, true_and]
        exact ⟨fun same => ⟨all, same.symm⟩, fun both => both.2.symm⟩
    · simp [passed]

end Loops

namespace PipelineLayout

def pushRange (l : PipelineLayout) : UInt32 × UInt32 :=
  match l.push with
  | some p => (p.offset, p.size)
  | none => (0, 0)

variable (l : PipelineLayout)

theorem validatePush_ok_iff (offset size : UInt32) :
    l.validatePush offset size = .ok () ↔
      l.pushRange.1.toNat ≤ offset.toNat ∧ offset.toNat + size.toNat ≤ l.pushRange.1.toNat + l.pushRange.2.toNat := by
  unfold validatePush pushRange
  cases l.push with
  | none => simp [UInt32.lt_iff_toNat_lt]
  | some p => simp [UInt32.lt_iff_toNat_lt]

theorem validateBind_ok_iff (first : UInt32) (sets : List SetLayout) :
    l.validateBind first sets = .ok () ↔
      first.toNat + sets.length ≤ l.sets.length ∧
        ∀ i (h : i < sets.length), (l.sets[first.toNat + i]?).map (·.key) = some sets[i].key := by
  unfold validateBind
  by_cases short : l.sets.length < first.toNat + sets.length
  · simp only [short, if_true]
    exact iff_of_false (fun stopped => by cases stopped) fun ⟨fits, _⟩ => absurd fits (Nat.not_le.mpr short)
  · simp only [short, if_false, bind_pure_unit]
    refine (forIn_except_ok _ _ (fun x => (l.sets[first.toNat + x.2]?.getD default).key = x.1.key) fun x => ?_).trans ?_
    · exact ⟨fun same => by simp [same], fun differs => ⟨_, by simp [differs]; rfl⟩⟩
    · have fits : first.toNat + sets.length ≤ l.sets.length := Nat.not_lt.mp short
      rw [and_iff_right fits]
      -- inside the layout the loop's default set layout is never used
      have keyAt : ∀ i < sets.length, ∀ s : SetLayout,
          (l.sets[first.toNat + i]?.getD default).key = s.key ↔ (l.sets[first.toNat + i]?).map (·.key) = some s.key := by
        intro i inside s
        rw [List.getElem?_eq_getElem (by omega)]
        simp
      constructor
      · intro all i inside
        exact (keyAt i inside _).mp (all (sets[i], i) (List.mem_zipIdx_iff_getElem?.mpr (by simp)))
      · rintro all ⟨s, i⟩ member
        obtain ⟨inside, listed⟩ := List.getElem?_eq_some_iff.mp (List.mem_zipIdx_iff_getElem?.mp member)
        simp only at inside listed
        subst listed
        exact (keyAt i inside _).mpr (all i inside)

-- A write that ends past the last 32-bit offset is refused, where a 32-bit sum would wrap to 1.
example : (({ key := ⟨"[0x1,0,16]"⟩, name := "", handle := default, push := some ⟨.vertex, 0, 16⟩, sets := [] } :
    PipelineLayout).validatePush 0xFFFFFFFF 2).isOk = false := by decide

-- A push-constant write is accepted exactly when it lies inside the merged range, and a bind exactly
-- when its sets lie inside the layout and each uses the set layout the pipeline layout has there.
theorem push_and_bind_checks_are_exact :
    (∀ offset size : UInt32, l.validatePush offset size = .ok () ↔
      l.pushRange.1.toNat ≤ offset.toNat ∧ offset.toNat + size.toNat ≤ l.pushRange.1.toNat + l.pushRange.2.toNat) ∧
    (∀ (first : UInt32) (sets : List SetLayout), l.validateBind first sets = .ok () ↔
      first.toNat + sets.length ≤ l.sets.length ∧
        ∀ i (h : i < sets.length), (l.sets[first.toNat + i]?).map (·.key) = some sets[i].key) :=
  ⟨l.validatePush_ok_iff, l.validateBind_ok_iff⟩

end PipelineLayout

namespace SetLayout

def BankFits (l : SetLayout) (bank : UInt32) : Prop :=
  ∀ b ∈ l.slots.filterMap id, b.count.toNat * bank.toNat < UInt32.size

instance (l : SetLayout) (bank : UInt32) : Decidable (l.BankFits bank) :=
  inferInstanceAs (Decidable (∀ b ∈ l.slots.filterMap id, b.count.toNat * bank.toNat < UInt32.size))

variable (l : SetLayout) (bank : UInt32)

theorem poolSizes_sized_iff : (∃ sizes, l.poolSizes bank = .ok sizes) ↔ l.BankFits bank := by
  unfold poolSizes
  simp only [mapM_checked_ok]
  exact ⟨fun ⟨_, fit, _⟩ => fit, fun fit => ⟨_, fit, rfl⟩⟩

theorem poolSizes_eq_ok_iff (sizes : List PoolSize) :
    l.poolSizes bank = .ok sizes ↔
      l.BankFits bank ∧
        sizes.map (fun p => (p.type, p.count.toNat)) =
          (l.slots.filterMap id).map fun b => (b.type, b.count.toNat * bank.toNat) := by
  unfold poolSizes
  refine (mapM_checked_ok _ _ _ _ _).trans (and_congr_right fun fit => ?_)
  -- below the bound the 32-bit product is the exact one
  have exact : (l.slots.filterMap id).map (fun b => (b.type, b.count.toNat * bank.toNat)) =
      ((l.slots.filterMap id).map fun b => (⟨b.type, b.count * bank⟩ : PoolSize)).map
        fun p => (p.type, p.count.toNat) := by
    rw [List.map_map]
    refine List.map_congr_left fun b member => ?_
    simp [UInt32.toNat_mul, Nat.mod_eq_of_lt (fit b member)]
  have told : ∀ p q : PoolSize, (p.type, p.count.toNat) = (q.type, q.count.toNat) → p = q := by
    intro ⟨t, n⟩ ⟨t', n'⟩ same
    simp only [Prod.mk.injEq, UInt32.toNat_inj] at same
    rw [same.1, same.2]
  rw [exact, List.map_inj_right told]

-- A bank of 64 sets cannot hold a binding of 2^26 descriptors, whose product is exactly 2^32.
example : (({ key := ⟨""⟩, name := "", handle := default, slots := [some ⟨.vertex, .storageBuffer, 0x4000000⟩] } :
    SetLayout).poolSizes 64).isOk = false := by decide

end SetLayout

end RenderCore
