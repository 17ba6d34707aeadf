import RenderCore.Layout.Merge
namespace RenderCore

section Pointwise

variable {α : Type} (d : α)

def joinEach : List (α → Option α) → List α → Option (List α)
  | [], xs => some xs
  | u :: us, xs => (u (xs.headD d)).bind fun y => (joinEach us xs.tail).map (y :: ·)

theorem joinEach_cons_bind (u v : α → Option α) (us vs : List (α → Option α)) (xs : List α) :
    (joinEach d (u :: us) xs).bind (joinEach d (v :: vs)) =
      ((u (xs.headD d)).bind v).bind fun y => ((joinEach d us xs.tail).bind (joinEach d vs)).map (y :: ·) := by
  simp only [joinEach, Option.bind_assoc, Option.bind_map, Function.comp_def, List.headD_cons, List.tail_cons,
    Option.map_bind]
  exact congrArg _ (funext fun y => Option.bind_comm _ _)

theorem joinEach_comm : ∀ (us vs : List (α → Option α)) (xs : List α),
    (∀ p ∈ us.zip vs, ∀ a, (p.1 a).bind p.2 = (p.2 a).bind p.1) →
      (joinEach d us xs).bind (joinEach d vs) = (joinEach d vs xs).bind (joinEach d us)
  | [], vs, xs, _ => by simp [joinEach]
  | _ :: _, [], xs, _ => by simp [joinEach]
  | u :: us, v :: vs, xs, commute => by
    have heads := commute (u, v) (by simp)
    have tails := joinEach_comm us vs xs.tail fun p member => commute p (by simp [member])
    rw [joinEach_cons_bind, joinEach_cons_bind, heads, tails]

theorem joinEach_idem : ∀ (us : List (α → Option α)) (xs : List α),
    (∀ u ∈ us, ∀ a, (u a).bind u = u a) → (joinEach d us xs).bind (joinEach d us) = joinEach d us xs
  | [], xs, _ => by simp [joinEach]
  | u :: us, xs, again => by
    have tails := joinEach_idem us xs.tail fun u' member => again u' (List.mem_cons_of_mem _ member)
    rw [joinEach_cons_bind, again u List.mem_cons_self, tails]
    rfl

theorem joinEach_map_comm {β β' : Type} (op : β → α → Option α) (op' : β' → α → Option α)
    (commute : ∀ b b' a, (op b a).bind (op' b') = (op' b' a).bind (op b)) (bs : List β) (bs' : List β') (xs : List α) :
    (joinEach d (bs.map op) xs).bind (joinEach d (bs'.map op')) =
      (joinEach d (bs'.map op') xs).bind (joinEach d (bs.map op)) := by
  refine joinEach_comm d _ _ xs fun p member a => ?_
  obtain ⟨first, second⟩ := List.of_mem_zip member
  obtain ⟨b, -, left⟩ := List.mem_map.mp first
  obtain ⟨b', -, right⟩ := List.mem_map.mp second
  rw [← left, ← right]
  exact commute b b' a

theorem joinEach_map_idem {β : Type} (op : β → α → Option α) (again : ∀ b a, (op b a).bind (op b) = op b a)
    (bs : List β) (xs : List α) : (joinEach d (bs.map op) xs).bind (joinEach d (bs.map op)) = joinEach d (bs.map op) xs := by
  refine joinEach_idem d _ xs fun u member a => ?_
  obtain ⟨b, -, rfl⟩ := List.mem_map.mp member
  exact again b a

theorem headD_padTo (n : Nat) (xs : List α) : (padTo n d xs).headD d = xs.headD d := by
  cases xs with
  | nil => cases n <;> simp [padTo, List.replicate_succ]
  | cons x xs => rfl

theorem tail_padTo (n : Nat) (xs : List α) : (padTo n d xs).tail = padTo (n - 1) d xs.tail := by
  cases xs with
  | nil => cases n <;> simp [padTo, List.replicate_succ]
  | cons x xs =>
    simp only [padTo, List.cons_append, List.tail_cons, List.length_cons]
    congr 2
    omega

theorem le_length_padTo (n : Nat) (xs : List α) : n ≤ (padTo n d xs).length := by
  simp only [padTo, List.length_append, List.length_replicate]
  omega

theorem joinEach_padTo : ∀ (us : List (α → Option α)) (n : Nat) (xs : List α), n ≤ us.length →
    joinEach d us (padTo n d xs) = joinEach d us xs
  | [], n, xs, short => by
    obtain rfl : n = 0 := Nat.le_zero.mp short
    simp [joinEach, padTo]
  | u :: us, n, xs, short => by
    simp only [joinEach, headD_padTo, tail_padTo]
    rw [joinEach_padTo us (n - 1) xs.tail (by simp at short; omega)]

theorem toOption_walk {β ε : Type} (op : β → α → Option α) (walk : Nat → List β → List α → Except ε (List α))
    (done : ∀ j ys, walk j [] ys = .ok ys)
    (step : ∀ j b bs ys, (walk j (b :: bs) ys).toOption =
      (op b (ys[j]?.getD d)).bind fun y => (walk (j + 1) bs (ys.set j y)).toOption) :
    ∀ (bs : List β) (j : Nat) (ys : List α), j + bs.length ≤ ys.length →
      (walk j bs ys).toOption = (joinEach d (bs.map op) (ys.drop j)).map (ys.take j ++ ·)
  | [], j, ys, _ => by simp [done, joinEach, Except.toOption]
  | b :: bs, j, ys, fits => by
    have inside : j < ys.length := by simp at fits; omega
    have dropped (y : α) : (ys.set j y).drop (j + 1) = ys.drop (j + 1) := by simp [List.drop_set]
    have taken (y : α) : (ys.set j y).take (j + 1) = ys.take j ++ [y] := by
      rw [List.take_add_one, List.take_set, List.set_eq_of_length_le (List.length_take_le _ _),
        List.getElem?_set_self inside]
      rfl
    rw [step, List.map_cons, List.drop_eq_getElem_cons inside, joinEach, List.getElem?_eq_getElem inside]
    simp only [Option.getD_some, List.headD_cons, List.tail_cons, Option.map_bind, Function.comp_def]
    congr 1
    funext y
    rw [toOption_walk op walk done step bs (j + 1) (ys.set j y) (by simp at fits ⊢; omega), dropped, taken, Option.map_map]
    simp [Function.comp_def]

theorem toOption_walk_zero {β ε : Type} (op : β → α → Option α) (walk : Nat → List β → List α → Except ε (List α))
    (done : ∀ j ys, walk j [] ys = .ok ys)
    (step : ∀ j b bs ys, (walk j (b :: bs) ys).toOption =
      (op b (ys[j]?.getD d)).bind fun y => (walk (j + 1) bs (ys.set j y)).toOption)
    (bs : List β) (ys : List α) (fits : bs.length ≤ ys.length) :
    (walk 0 bs ys).toOption = joinEach d (bs.map op) ys := by
  simpa using toOption_walk d op walk done step bs 0 ys (by simpa using fits)

end Pointwise

section Folds

variable {α β : Type} (f : β → α → β)

theorem foldl_eq_of_same_members (swap : ∀ b x y, f (f b x) y = f (f b y) x) (again : ∀ b x, f (f b x) x = f b x)
    {l l' : List α} (same : ∀ x, x ∈ l ↔ x ∈ l') (b : β) : l.foldl f b = l'.foldl f b := by
  have reorder {l₁ l₂ : List α} (perm : l₁.Perm l₂) (b : β) : l₁.foldl f b = l₂.foldl f b :=
    perm.foldl_eq' (fun x _ y _ z => swap z x y) b
  -- an element already in the list adds nothing when folded in again
  have absorb (l : List α) (x : α) (member : x ∈ l) (b : β) : (l ++ [x]).foldl f b = l.foldl f b := by
    obtain ⟨s, t, rfl⟩ := List.append_of_mem member
    have front : (s ++ x :: t).Perm (x :: (s ++ t)) := List.perm_middle
    calc ((s ++ x :: t) ++ [x]).foldl f b = ((x :: (s ++ t)) ++ [x]).foldl f b := reorder (front.append_right [x]) b
      _ = ((s ++ t) ++ [x]).foldl f (f b x) := rfl
      _ = (x :: (s ++ t)).foldl f (f b x) := reorder (List.perm_append_singleton x (s ++ t)) _
      _ = (s ++ t).foldl f (f b x) := by rw [List.foldl_cons, again]
      _ = (s ++ x :: t).foldl f b := (reorder front b).symm
  have extend (l extra : List α) (inside : ∀ x ∈ extra, x ∈ l) (b : β) : (l ++ extra).foldl f b = l.foldl f b := by
    induction extra generalizing b with
    | nil => simp
    | cons x rest ih =>
      rw [← List.singleton_append, ← List.append_assoc, List.foldl_append, absorb l x (inside x List.mem_cons_self),
        ← List.foldl_append, ih (fun y member => inside y (List.mem_cons_of_mem _ member))]
  calc l.foldl f b = (l ++ l').foldl f b := (extend l l' (fun x member => (same x).mpr member) b).symm
    _ = (l' ++ l).foldl f b := reorder List.perm_append_comm b
    _ = l'.foldl f b := extend l' l (fun x member => (same x).mp member) b

theorem toOption_bind {ε γ : Type} (e : Except ε β) (k : β → Except ε γ) :
    (e >>= k).toOption = e.toOption.bind fun b => (k b).toOption := by
  cases e <;> rfl

theorem foldl_bind_none (join : β → α → Option β) (l : List α) :
    l.foldl (fun o x => o.bind (join · x)) none = none := by
  induction l with
  | nil => rfl
  | cons x l ih => exact ih

theorem toOption_foldlM_zipIdx {ε : Type} (step : β → α × Nat → Except ε β) (join : β → α → Option β)
    (agree : ∀ b x i, (step b (x, i)).toOption = join b x) :
    ∀ (l : List α) (n : Nat) (b : β),
      ((l.zipIdx n).foldlM step b).toOption = l.foldl (fun o x => o.bind (join · x)) (some b)
  | [], _, _ => rfl
  | x :: l, n, b => by
    rw [List.zipIdx_cons, List.foldlM_cons, toOption_bind, agree, List.foldl_cons, Option.bind_some]
    cases join b x with
    | none => exact (foldl_bind_none join l).symm
    | some b' => exact toOption_foldlM_zipIdx step join agree l (n + 1) b'

end Folds

end RenderCore
