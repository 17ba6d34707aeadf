import RenderCore.Pool.Basic
namespace RenderCore.Pools

def allBanks (p : Pools) : List Bank :=
  p.pools.flatMap (·.2)

theorem lookup_map_replace (entries : List (Key × List Bank)) (k k' : Key) (banks : List Bank) :
    (entries.map fun e => if e.1 = k then (k, banks) else e).lookup k' =
      if k' = k then (if (entries.lookup k).isSome then some banks else none) else entries.lookup k' := by
  induction entries with
  | nil => by_cases same : k' = k <;> simp [same]
  | cons e rest ih =>
    obtain ⟨k₀, v⟩ := e
    by_cases replaced : k₀ = k
    · subst replaced
      by_cases same : k' = k₀
      · subst same
        simp
      · have skipped : (k' == k₀) = false := beq_eq_false_iff_ne.mpr same
        simpa [List.lookup_cons, skipped, same] using ih
    · have kept : (if k₀ = k then (k, banks) else (k₀, v)) = (k₀, v) := if_neg replaced
      by_cases same : k' = k₀
      · subst same
        simp [replaced]
      · have skipped : (k' == k₀) = false := beq_eq_false_iff_ne.mpr same
        have other : (k == k₀) = false := beq_eq_false_iff_ne.mpr fun same => replaced same.symm
        simp only [List.map_cons, kept, List.lookup_cons, skipped, other]
        exact ih

@[simp] theorem banks_setBanks (p : Pools) (k k' : Key) (banks : List Bank) :
    (p.setBanks k banks).banks k' = if k' = k then banks else p.banks k' := by
  unfold setBanks Pools.banks
  split
  · rename_i present
    simp only [lookup_map_replace, present, if_true]
    by_cases same : k' = k <;> simp [same]
  · rename_i absent
    have missing : p.pools.lookup k = none := Option.not_isSome_iff_eq_none.mp absent
    by_cases same : k' = k
    · subst same
      simp [List.lookup_append, missing]
    · have single : [(k, banks)].lookup k' = none := by simp [same]
      simp [List.lookup_append, same, single]

@[simp] theorem bankSize_setBanks (p : Pools) (k : Key) (banks : List Bank) :
    (p.setBanks k banks).bankSize = p.bankSize := by
  unfold setBanks
  split <;> rfl

@[simp] theorem nextBankId_setBanks (p : Pools) (k : Key) (banks : List Bank) :
    (p.setBanks k banks).nextBankId = p.nextBankId := by
  unfold setBanks
  split <;> rfl

theorem mem_allBanks (p : Pools) (k : Key) (b : Bank) (member : b ∈ p.banks k) : b ∈ p.allBanks := by
  unfold Pools.banks at member
  cases found : p.pools.lookup k with
  | none => simp [found] at member
  | some banks =>
    obtain ⟨before, after, split, -⟩ := List.lookup_eq_some_iff.mp found
    simp only [found, Option.getD_some] at member
    simp [allBanks, split, member]

theorem keys_setBanks (p : Pools) (k : Key) (banks : List Bank) (keys : (p.pools.map (·.1)).Nodup) :
    ((p.setBanks k banks).pools.map (·.1)).Nodup := by
  unfold setBanks
  split
  · have sameKeys : (p.pools.map fun e => if e.1 = k then (k, banks) else e).map (·.1) = p.pools.map (·.1) := by
      simp only [List.map_map]
      congr 1
      funext e
      by_cases same : e.1 = k <;> simp [same]
    simpa [sameKeys] using keys
  · rename_i absent
    have missing : p.pools.lookup k = none := Option.not_isSome_iff_eq_none.mp absent
    have fresh : ∀ e ∈ p.pools, e.1 ≠ k := fun e member same => by
      simpa [same] using List.lookup_eq_none_iff.mp missing e member
    rw [List.map_append, List.nodup_append]
    refine ⟨keys, by simp, ?_⟩
    intro a listed b single
    obtain ⟨e, member, rfl⟩ := List.mem_map.mp listed
    simp only [List.map_cons, List.map_nil, List.mem_singleton] at single
    exact single ▸ fresh e member

theorem allBanks_setBanks (p : Pools) (k : Key) (banks : List Bank) (keys : (p.pools.map (·.1)).Nodup) :
    ((p.setBanks k banks).allBanks ++ p.banks k).Perm (p.allBanks ++ banks) := by
  unfold setBanks
  split
  · rename_i present
    obtain ⟨old, found⟩ := Option.isSome_iff_exists.mp present
    obtain ⟨before, after, split, earlier⟩ := List.lookup_eq_some_iff.mp found
    have fromBefore : ∀ e ∈ before, e.1 ≠ k := fun e member same => by
      simpa [same] using earlier e member
    have fromAfter : ∀ e ∈ after, e.1 ≠ k := fun e member same => by
      rw [split] at keys
      simp only [List.map_append, List.map_cons, List.nodup_append, List.nodup_cons] at keys
      exact keys.2.1.1 (List.mem_map.mpr ⟨e, member, same⟩)
    have keepBefore : (before.map fun e => if e.1 = k then (k, banks) else e) = before := by
      rw [List.map_congr_left (fun e member => if_neg (fromBefore e member))]
      exact List.map_id' before
    have keepAfter : (after.map fun e => if e.1 = k then (k, banks) else e) = after := by
      rw [List.map_congr_left (fun e member => if_neg (fromAfter e member))]
      exact List.map_id' after
    have oldBanks : p.banks k = old := by simp [Pools.banks, found]
    simp only [allBanks, oldBanks, split, List.map_append, List.map_cons, keepBefore, keepAfter,
      if_true, List.flatMap_append, List.flatMap_cons, List.append_assoc]
    refine List.Perm.append_left _ ?_
    calc (banks ++ (after.flatMap (·.2) ++ old)).Perm ((after.flatMap (·.2) ++ old) ++ banks) :=
          List.perm_append_comm
      List.Perm _ ((old ++ after.flatMap (·.2)) ++ banks) := List.perm_append_comm.append_right banks
      _ = old ++ (after.flatMap (·.2) ++ banks) := List.append_assoc _ _ _
  · rename_i absent
    have noBanks : p.banks k = [] := by simp [Pools.banks, Option.not_isSome_iff_eq_none.mp absent]
    simp [allBanks, noBanks]

theorem flatMap_allBanks_setBanks {β : Type} (f : Bank → List β) (p : Pools) (k : Key) (banks : List Bank)
    (keys : (p.pools.map (·.1)).Nodup) :
    ((p.setBanks k banks).allBanks.flatMap f ++ (p.banks k).flatMap f).Perm
      (p.allBanks.flatMap f ++ banks.flatMap f) := by
  simpa only [List.flatMap_append] using (allBanks_setBanks p k banks keys).flatMap_right f

theorem mem_allBanks_setBanks (p : Pools) (k : Key) (banks : List Bank) (keys : (p.pools.map (·.1)).Nodup)
    (b : Bank) (member : b ∈ (p.setBanks k banks).allBanks) : b ∈ p.allBanks ∨ b ∈ banks := by
  have moved := (allBanks_setBanks p k banks keys).mem_iff.mp (List.mem_append_left _ member)
  simpa using moved

theorem exists_of_mem_allBanks (p : Pools) (keys : (p.pools.map (·.1)).Nodup) (b : Bank)
    (member : b ∈ p.allBanks) : ∃ (k : Key) (i : Nat), (p.banks k)[i]? = some b := by
  obtain ⟨e, entry, inside⟩ := List.mem_flatMap.mp member
  obtain ⟨before, after, split⟩ := List.append_of_mem entry
  have first : ∀ e' ∈ before, (e.1 != e'.1) = true := fun e' member' => by
    rw [split, List.map_append, List.map_cons, List.nodup_append] at keys
    exact bne_iff_ne.mpr fun same => keys.2.2 _ (List.mem_map.mpr ⟨e', member', rfl⟩) _ (by simp) same.symm
  have found : p.pools.lookup e.1 = some e.2 :=
    List.lookup_eq_some_iff.mpr ⟨before, after, split, first⟩
  obtain ⟨i, position⟩ := List.mem_iff_getElem?.mp inside
  exact ⟨e.1, i, by simp [Pools.banks, found, position]⟩

theorem perm_map_allBanks_setBanks {β : Type} (f : Bank → β) (p : Pools) (k : Key) (banks : List Bank)
    (keys : (p.pools.map (·.1)).Nodup) (agree : banks.map f = (p.banks k).map f) :
    ((p.setBanks k banks).allBanks.map f).Perm (p.allBanks.map f) := by
  have exchanged := flatMap_allBanks_setBanks (fun b => [f b]) p k banks keys
  simp only [← List.map_eq_flatMap, agree] at exchanged
  exact (List.perm_append_right_iff _).mp exchanged

theorem flatMap_allBanks_setBanks_append {β : Type} (f : Bank → List β) (p : Pools) (k : Key) (extra : List Bank)
    (keys : (p.pools.map (·.1)).Nodup) :
    ((p.setBanks k (p.banks k ++ extra)).allBanks.flatMap f).Perm (p.allBanks.flatMap f ++ extra.flatMap f) := by
  have exchanged := flatMap_allBanks_setBanks f p k (p.banks k ++ extra) keys
  rw [List.flatMap_append] at exchanged
  have moved : (p.allBanks.flatMap f ++ ((p.banks k).flatMap f ++ extra.flatMap f)).Perm
      ((p.allBanks.flatMap f ++ extra.flatMap f) ++ (p.banks k).flatMap f) := by
    rw [List.append_assoc]
    exact List.perm_append_comm.append_left _
  exact (List.perm_append_right_iff _).mp (exchanged.trans moved)

theorem flatMap_set {β : Type} (f : Bank → List β) (banks : List Bank) (i : Nat) (old new : Bank)
    (found : banks[i]? = some old) :
    ((banks.set i new).flatMap f ++ f old).Perm (banks.flatMap f ++ f new) := by
  induction banks generalizing i with
  | nil => simp at found
  | cons first rest ih =>
    cases i with
    | zero =>
      simp only [List.getElem?_cons_zero, Option.some.injEq] at found
      subst found
      simp only [List.set_cons_zero, List.flatMap_cons, List.append_assoc]
      calc (f new ++ (rest.flatMap f ++ f first)).Perm ((rest.flatMap f ++ f first) ++ f new) :=
            List.perm_append_comm
        List.Perm _ ((f first ++ rest.flatMap f) ++ f new) := List.perm_append_comm.append_right _
        _ = f first ++ (rest.flatMap f ++ f new) := List.append_assoc _ _ _
    | succ i =>
      simp only [List.getElem?_cons_succ] at found
      simp only [List.set_cons_succ, List.flatMap_cons, List.append_assoc]
      exact (ih i found).append_left (f first)

theorem position_setBanks_append (p : Pools) (k : Key) (b : Bank) (k' : Key) (j : Nat) (b' : Bank)
    (found : ((p.setBanks k (p.banks k ++ [b])).banks k')[j]? = some b') :
    (p.banks k')[j]? = some b' ∨ (k' = k ∧ j = (p.banks k).length ∧ b' = b) := by
  simp only [banks_setBanks] at found
  by_cases key : k' = k
  · subst key
    simp only [if_true] at found
    by_cases old : j < (p.banks k').length
    · exact .inl (by rwa [List.getElem?_append_left old] at found)
    · have bound := (List.getElem?_eq_some_iff.mp found).1
      simp only [List.length_append, List.length_singleton] at bound
      have last : j = (p.banks k').length := by omega
      subst last
      rw [List.getElem?_concat_length, Option.some.injEq] at found
      exact .inr ⟨rfl, rfl, found.symm⟩
  · simp only [key, if_false] at found
    exact .inl found

theorem position_setBanks_set (p : Pools) (k : Key) (i : Nat) (b : Bank) (k' : Key) (j : Nat) (b' : Bank)
    (found : ((p.setBanks k ((p.banks k).set i b)).banks k')[j]? = some b') :
    (¬(k' = k ∧ j = i) ∧ (p.banks k')[j]? = some b') ∨ (k' = k ∧ j = i ∧ b' = b) := by
  simp only [banks_setBanks] at found
  by_cases key : k' = k
  · subst key
    simp only [if_true, List.getElem?_set] at found
    by_cases same : i = j
    · subst same
      by_cases inside : i < (p.banks k').length
      · simp only [if_true, inside, Option.some.injEq] at found
        exact .inr ⟨rfl, rfl, found.symm⟩
      · simp [inside] at found
    · simp only [same, if_false] at found
      exact .inl ⟨fun both => same both.2.symm, found⟩
  · simp only [key, if_false] at found
    exact .inl ⟨fun both => key both.1, found⟩

theorem length_setBanks_set (p : Pools) (k : Key) (i : Nat) (b : Bank) (k' : Key) :
    ((p.setBanks k ((p.banks k).set i b)).banks k').length = (p.banks k').length := by
  by_cases key : k' = k <;> simp [key]

theorem release_of_bank (p : Pools) (s : DescriptorSet) (b : Bank)
    (found : (p.banks s.layout.key)[s.bank]? = some b) (same : b.id = s.bankId) :
    p.release s = p.setBanks s.layout.key
      ((p.banks s.layout.key).set s.bank { b with free := b.free ++ [s.handle] }) := by
  unfold release
  unfold Pools.banks at found ⊢
  cases listed : p.pools.lookup s.layout.key with
  | none => simp [listed] at found
  | some banks =>
    simp only [listed, Option.getD_some] at found ⊢
    simp [found, same]

theorem release_of_stale (p : Pools) (s : DescriptorSet)
    (stale : ∀ b, (p.banks s.layout.key)[s.bank]? = some b → b.id ≠ s.bankId) : p.release s = p := by
  unfold release
  unfold Pools.banks at stale
  cases listed : p.pools.lookup s.layout.key with
  | none => rfl
  | some banks =>
    simp only [listed, Option.getD_some] at stale ⊢
    cases found : banks[s.bank]? with
    | none => rfl
    | some b => simp [stale b found]

end RenderCore.Pools
