import RenderCore.Cache.Object
namespace RenderCore.ObjectCache

def keys (c : ObjectCache) : List Key := c.entries.map (·.1)

def values (c : ObjectCache) : List Handle := c.entries.map (·.2)

section Entries

variable (entries : List (Key × Handle)) (k k' : Key) (new : Handle)

theorem lookup_of_mem {h : Handle} (keys : (entries.map (·.1)).Nodup) (member : (k, h) ∈ entries) :
    entries.lookup k = some h := by
  induction entries with
  | nil => cases member
  | cons e rest ih =>
    obtain ⟨k'', h''⟩ := e
    simp only [List.map_cons, List.nodup_cons, List.mem_map] at keys
    rcases List.mem_cons.mp member with same | later
    · cases same
      simp
    · have other : (k == k'') = false := beq_eq_false_iff_ne.mpr fun same => keys.1 ⟨(k, h), later, same⟩
      simp [List.lookup_cons, other, ih keys.2 later]

abbrev swapEntries : List (Key × Handle) := entries.map fun e => if e.1 = k then (k, new) else e

theorem keys_swapEntries : (swapEntries entries k new).map (·.1) = entries.map (·.1) := by
  simp only [List.map_map]
  refine List.map_congr_left fun e _ => ?_
  by_cases same : e.1 = k <;> simp [same]

theorem values_swapEntries {expected : Handle} (keys : (entries.map (·.1)).Nodup) (member : (k, expected) ∈ entries) :
    ((swapEntries entries k new).map (·.2) ++ [expected]).Perm (entries.map (·.2) ++ [new]) := by
  induction entries with
  | nil => cases member
  | cons e rest ih =>
    obtain ⟨k'', h''⟩ := e
    simp only [List.map_cons, List.nodup_cons, List.mem_map] at keys
    rcases List.mem_cons.mp member with same | later
    · cases same
      -- the first entry is the swapped one; no later entry has its key
      have untouched : (swapEntries rest k new).map (·.2) = rest.map (·.2) := by
        simp only [List.map_map]
        refine List.map_congr_left fun e inside => ?_
        have other : e.1 ≠ k := fun same => keys.1 ⟨e, inside, same⟩
        simp [other]
      simp only [swapEntries, List.map_cons, List.cons_append] at untouched ⊢
      rw [untouched, List.perm_iff_count]
      intro a
      simp only [if_true, List.count_cons, List.count_append]
      omega
    · have other : k'' ≠ k := fun same => keys.1 ⟨(k, expected), later, same.symm⟩
      have rest' := ih keys.2 later
      simp only [swapEntries, List.map_cons, if_neg other, List.cons_append] at rest' ⊢
      exact List.Perm.cons _ rest'

theorem lookup_swapEntries :
    (swapEntries entries k new).lookup k' =
      if k' = k then (if k ∈ entries.map (·.1) then some new else none) else entries.lookup k' := by
  induction entries with
  | nil => simp
  | cons e rest ih =>
    obtain ⟨k'', h''⟩ := e
    by_cases hit : k'' = k
    · subst hit
      by_cases same : k' = k''
      · subst same
        simp
      · have other : (k' == k'') = false := beq_eq_false_iff_ne.mpr same
        simp [List.lookup_cons, same, other, ih]
    · by_cases same : k' = k''
      · subst same
        simp [hit]
      · have other : (k' == k'') = false := beq_eq_false_iff_ne.mpr same
        have member : k ∈ k'' :: rest.map (·.1) ↔ k ∈ rest.map (·.1) := by
          simp [Ne.symm hit]
        simp only [swapEntries] at ih
        simp only [swapEntries, List.map_cons, if_neg hit, List.lookup_cons, other, ih, member]

end Entries

@[simp] theorem find?_counted (c : ObjectCache) (hits misses discarded : Nat) (k : Key) :
    ({ name := c.name, entries := c.entries, hits, misses, discarded } : ObjectCache).find? k = c.find? k :=
  rfl

theorem mem_of_find? {c : ObjectCache} {k : Key} {h : Handle} (found : c.find? k = some h) : (k, h) ∈ c.entries := by
  obtain ⟨before, after, split, -⟩ := List.lookup_eq_some_iff.mp found
  simp [split]

theorem find?_of_mem {c : ObjectCache} {k : Key} {h : Handle} (keys : c.keys.Nodup) (member : (k, h) ∈ c.entries) :
    c.find? k = some h :=
  lookup_of_mem c.entries k keys member

theorem value_mem_of_find? {c : ObjectCache} {k : Key} {h : Handle} (found : c.find? k = some h) : h ∈ c.values :=
  List.mem_map_of_mem (f := (·.2)) (mem_of_find? found)

theorem find?_isSome_iff {c : ObjectCache} {k : Key} : (c.find? k).isSome ↔ k ∈ c.keys := by
  simp [find?, keys, List.lookup_isSome_iff]

@[simp] theorem keys_insert (c : ObjectCache) (k : Key) (h : Handle) : (c.insert k h).keys = c.keys ++ [k] := by
  simp [insert, keys]

@[simp] theorem values_insert (c : ObjectCache) (k : Key) (h : Handle) : (c.insert k h).values = c.values ++ [h] := by
  simp [insert, values]

theorem find?_insert (c : ObjectCache) (k k' : Key) (h : Handle) (missing : c.find? k = none) :
    (c.insert k h).find? k' = if k' = k then some h else c.find? k' := by
  have missing' : c.entries.lookup k = none := missing
  by_cases same : k' = k
  · subst same
    simp [insert, find?, List.lookup_append, missing']
  · have other : (k' == k) = false := beq_eq_false_iff_ne.mpr same
    simp only [insert, find?, List.lookup_append, same, if_false]
    cases c.entries.lookup k' <;> simp [List.lookup_cons, other]

theorem replaceIf_of_find? (c : ObjectCache) (k : Key) (expected new : Handle) (found : c.find? k = some expected) :
    c.replaceIf k expected new = (true, { c with entries := swapEntries c.entries k new }) := by
  simp [replaceIf, found]

theorem find?_swap_of_ne (c : ObjectCache) {k k' : Key} {h expected new : Handle} (found : c.find? k = some h)
    (expectedFound : c.find? k' = some expected) (other : expected ≠ h) :
    ({ c with entries := swapEntries c.entries k' new } : ObjectCache).find? k = some h := by
  have apart : k ≠ k' := by
    rintro rfl
    rw [found, Option.some.injEq] at expectedFound
    exact other expectedFound.symm
  show (swapEntries c.entries k' new).lookup k = some h
  rw [lookup_swapEntries, if_neg apart]
  exact found

theorem replaceIf_of_ne (c : ObjectCache) (k : Key) (expected new : Handle) (other : c.find? k ≠ some expected) :
    c.replaceIf k expected new = (false, c) := by
  simp [replaceIf, other]

theorem keys_removeMatching (c : ObjectCache) (p : Key → Bool) :
    (c.removeMatching p).2.keys = c.keys.filter (!p ·) := by
  simp [removeMatching, keys, List.filter_map, Function.comp_def]

theorem values_removeMatching (c : ObjectCache) (p : Key → Bool) :
    ((c.removeMatching p).2.values ++ (c.removeMatching p).1.map (·.2)).Perm c.values := by
  show ((c.entries.filter (!p ·.1)).map (·.2) ++ (c.entries.filter (p ·.1)).map (·.2)).Perm (c.entries.map (·.2))
  rw [← List.map_append]
  exact (List.perm_append_comm.trans (List.filter_append_perm (p ·.1) c.entries)).map _

theorem find?_removeMatching (c : ObjectCache) (p : Key → Bool) (k : Key) :
    (c.removeMatching p).2.find? k = if p k then none else c.find? k := by
  simp only [removeMatching, find?]
  induction c.entries with
  | nil => simp
  | cons e rest ih =>
    obtain ⟨k', h'⟩ := e
    by_cases same : k = k'
    · subst same
      by_cases hit : p k <;> simp [hit, ih]
    · have other : (k == k') = false := beq_eq_false_iff_ne.mpr same
      by_cases hit : p k' <;> simp [hit, List.lookup_cons, other, ih]

end RenderCore.ObjectCache
