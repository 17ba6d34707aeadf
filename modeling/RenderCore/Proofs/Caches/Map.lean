import Mathlib
import RenderCore.Proofs.Device
import RenderCore.Proofs.Pipelines.Actions
namespace RenderCore

structure CacheMap where
  lookup : Key → Option Handle
  hits : Nat
  misses : Nat
  discarded : Nat

inductive MapCall where
  | lookup (k : Key) (h : Handle)
  | replaceIf (k : Key) (expected new : Handle)
  | remove (k : Key)
  | removeMatching (p : Key → Bool)
  | clear

namespace CacheMap

def empty : CacheMap := ⟨fun _ => none, 0, 0, 0⟩

def set (m : CacheMap) (k : Key) (v : Option Handle) : CacheMap :=
  { m with lookup := fun k' => if k' = k then v else m.lookup k' }

def apply (m : CacheMap) : MapCall → CacheMap
  | .lookup k h =>
    if (m.lookup k).isSome then { m with hits := m.hits + 1 }
    else ({ m with misses := m.misses + 1 } : CacheMap).set k (some h)
  | .replaceIf k expected new => if m.lookup k = some expected then m.set k (some new) else m
  | .remove k => m.set k none
  | .removeMatching p => { m with lookup := fun k => if p k then none else m.lookup k }
  | .clear => { m with lookup := fun _ => none }

@[simp] theorem discarded_apply (m : CacheMap) (call : MapCall) : (m.apply call).discarded = m.discarded := by
  cases call <;> simp only [apply, set] <;> split <;> rfl

theorem discarded_foldl_apply (calls : List MapCall) (m : CacheMap) :
    (calls.foldl apply m).discarded = m.discarded := by
  induction calls generalizing m with
  | nil => rfl
  | cons call rest ih => rw [List.foldl_cons, ih, discarded_apply]

end CacheMap

namespace ObjectCache

def view (o : ObjectCache) : CacheMap := ⟨o.find?, o.hits, o.misses, o.discarded⟩

variable (o : ObjectCache)

@[simp] theorem view_lookup : o.view.lookup = o.find? := rfl
@[simp] theorem view_hits : o.view.hits = o.hits := rfl
@[simp] theorem view_misses : o.view.misses = o.misses := rfl
@[simp] theorem view_discarded : o.view.discarded = o.discarded := rfl

@[simp] theorem view_counted (hits misses discarded : Nat) :
    ({ name := o.name, entries := o.entries, hits, misses, discarded } : ObjectCache).view =
      { o.view with hits, misses, discarded } :=
  rfl

theorem find?_remove (k k' : Key) : (o.remove k).2.find? k' = if k' = k then none else o.find? k' := by
  simp only [remove, find?]
  induction o.entries with
  | nil => simp
  | cons e rest ih =>
    obtain ⟨k'', h''⟩ := e
    by_cases hit : k' = k''
    · subst hit
      by_cases same : k' = k
      · subst same
        rw [if_pos rfl] at ih ⊢
        simpa only [List.filter_cons, bne_self_eq_false, Bool.false_eq_true, if_false] using ih
      · simp [same]
    · have other : (k' == k'') = false := beq_eq_false_iff_ne.mpr hit
      by_cases same : k'' = k
      · subst same
        simp [hit, ih, List.lookup_cons, other]
      · have kept : (k'' != k) = true := bne_iff_ne.mpr same
        simp [kept, List.lookup_cons, other, ih]

theorem view_insert {k : Key} (h : Handle) (missing : o.find? k = none) :
    (o.insert k h).view = o.view.set k (some h) := by
  simp only [view, CacheMap.set, CacheMap.mk.injEq]
  exact ⟨funext fun k' => o.find?_insert k k' h missing, rfl, rfl, rfl⟩

theorem view_replaceIf (k : Key) (expected new : Handle) :
    (o.replaceIf k expected new).2.view = o.view.apply (.replaceIf k expected new) := by
  by_cases found : o.find? k = some expected
  · have cached : k ∈ o.keys := find?_isSome_iff.mp (by simp [found])
    simp only [replaceIf_of_find? o k expected new found, CacheMap.apply, view, found, if_true, CacheMap.set]
    congr 1
    funext k'
    rw [keys] at cached
    simp [find?, lookup_swapEntries, cached]
  · simp [replaceIf_of_ne o k expected new found, CacheMap.apply, view, found]

theorem view_remove (k : Key) : (o.remove k).2.view = o.view.apply (.remove k) := by
  simp only [view, CacheMap.apply, CacheMap.set, CacheMap.mk.injEq]
  exact ⟨funext (o.find?_remove k), rfl, rfl, rfl⟩

theorem view_removeMatching (p : Key → Bool) :
    (o.removeMatching p).2.view = o.view.apply (.removeMatching p) := by
  simp only [view, CacheMap.apply, CacheMap.mk.injEq]
  exact ⟨funext (o.find?_removeMatching p), rfl, rfl, rfl⟩

theorem view_drain : o.drain.2.view = o.view.apply .clear := rfl

section Members

variable {o} (keys : o.keys.Nodup)
include keys

theorem nodup_entries : o.entries.Nodup :=
  List.Pairwise.of_map (·.1) (fun _ _ apart same => apart (congrArg (·.1) same)) keys

theorem mem_entries_iff {k : Key} {h : Handle} : (k, h) ∈ o.entries ↔ o.find? k = some h :=
  ⟨find?_of_mem keys, mem_of_find?⟩

theorem mem_values_iff {h : Handle} : h ∈ o.values ↔ ∃ k, o.find? k = some h := by
  simp only [values, List.mem_map]
  constructor
  · rintro ⟨⟨k, h'⟩, member, rfl⟩
    exact ⟨k, find?_of_mem keys member⟩
  · rintro ⟨k, found⟩
    exact ⟨(k, h), mem_of_find? found, rfl⟩

theorem mem_removeMatching_iff (p : Key → Bool) {k : Key} {h : Handle} :
    (k, h) ∈ (o.removeMatching p).1 ↔ p k ∧ o.find? k = some h := by
  simp only [removeMatching, List.mem_filter, mem_entries_iff keys]
  exact and_comm

end Members

end ObjectCache

namespace Context

variable (c : Context) (role : CacheRole)

@[simp] theorem cache_setCache (o : ObjectCache) : (c.setCache role o).cache role = o := by
  cases role <;> rfl

@[simp] theorem device_setCache (o : ObjectCache) : (c.setCache role o).device = c.device := by
  cases role <;> rfl

@[simp] theorem cache_withDevice (d : Device) : ({ c with device := d } : Context).cache role = c.cache role := by
  cases role <;> rfl

@[simp] theorem setCache_setCache (o o' : ObjectCache) : (c.setCache role o).setCache role o' = c.setCache role o' := by
  cases role <;> rfl

@[simp] theorem setCache_cache : c.setCache role (c.cache role) = c := by
  cases role <;> rfl

theorem withDevice_setCache (o : ObjectCache) (d : Device) :
    ({ c.setCache role o with device := d } : Context) = ({ c with device := d } : Context).setCache role o := by
  cases role <;> rfl

variable (k : Key) (context : String)

theorem run_resolve_hit (make : Act Context (Except DeviceFailure Handle)) {h : Handle}
    (found : (c.cache role).find? k = some h) :
    (resolve role k context make).run c =
      .ok (h, .hit) (c.setCache role { c.cache role with hits := (c.cache role).hits + 1 }) := by
  simp [resolve, found, modifyCache]

theorem run_resolve_made (m : Act Device (Except DeviceFailure Handle)) {h : Handle} {d : Device}
    (missing : (c.cache role).find? k = none) (made : m.run c.device = .ok (.ok h) d) :
    (resolve role k context (device! m)).run c =
      .ok (h, .created) (({ c with device := d } : Context).setCache role
        (({ c.cache role with misses := (c.cache role).misses + 1 } : ObjectCache).insert k h)) := by
  simp [resolve, missing, modifyCache, made, withDevice_setCache]

theorem run_resolve_refused (m : Act Device (Except DeviceFailure Handle)) {f : DeviceFailure} {d : Device}
    (missing : (c.cache role).find? k = none) (refused : m.run c.device = .ok (.error f) d) :
    (resolve role k context (device! m)).run c =
      .error (.fatal (.device s!"{context} [{role.name} {k.text}]" f))
        (({ c with device := d } : Context).setCache role { c.cache role with misses := (c.cache role).misses + 1 }) := by
  simp [resolve, missing, modifyCache, refused, withDevice_setCache]

theorem resolve_ok_cases {m : Act Device (Except DeviceFailure Handle)} {h : Handle} {outcome : Outcome}
    {c' : Context} (run : (resolve role k context (device! m)).run c = .ok (h, outcome) c') :
    ((c.cache role).find? k = some h ∧ outcome = .hit ∧
        c' = c.setCache role { c.cache role with hits := (c.cache role).hits + 1 }) ∨
      ((c.cache role).find? k = none ∧ outcome = .created ∧ ∃ d, m.run c.device = .ok (.ok h) d ∧
        c' = ({ c with device := d } : Context).setCache role
          (({ c.cache role with misses := (c.cache role).misses + 1 } : ObjectCache).insert k h)) := by
  cases found : (c.cache role).find? k with
  | some h' =>
    rw [run_resolve_hit c role k context _ found, EStateM.Result.ok.injEq, Prod.mk.injEq] at run
    obtain ⟨⟨rfl, rfl⟩, rfl⟩ := run
    exact .inl ⟨rfl, rfl, rfl⟩
  | none =>
    cases made : m.run c.device with
    | ok r d =>
      cases r with
      | ok h' =>
        rw [run_resolve_made c role k context m found made, EStateM.Result.ok.injEq, Prod.mk.injEq] at run
        obtain ⟨⟨rfl, rfl⟩, rfl⟩ := run
        exact .inr ⟨rfl, rfl, d, rfl, rfl⟩
      | error f =>
        rw [run_resolve_refused c role k context m found made] at run
        cases run
    | error e d =>
      -- the device action stopped with a fault, and so did the resolution
      simp [resolve, found, modifyCache, made] at run

end Context

namespace Device

structure Makes (m : Act Device (Except DeviceFailure Handle)) (d : Device) : Prop where
  keeps : ∀ r d', m.run d = .ok r d' → ∀ h ∈ d.live, (∀ e ∈ d.poolSets, h ∉ e.2) →
    h ∈ d'.live ∧ ∀ e ∈ d'.poolSets, h ∉ e.2
  fresh : ∀ h d', m.run d = .ok (.ok h) d' → h ∉ d.live ∧ h ∈ d'.live ∧ ∀ e ∈ d'.poolSets, h ∉ e.2

theorem makes_create (kind : HandleKind) (d : Device) (numbered : d.Numbered) : Makes (create kind) d where
  keeps r d' run h live unfiled := by
    by_cases armed : ∃ f, d.failNext = some (kind, f)
    · obtain ⟨f, armed⟩ := armed
      rw [run_create_armed kind f none d armed, EStateM.Result.ok.injEq] at run
      obtain ⟨-, rfl⟩ := run
      exact ⟨live, unfiled⟩
    · rw [run_create_fresh kind d fun f same => armed ⟨f, same⟩, EStateM.Result.ok.injEq] at run
      obtain ⟨-, rfl⟩ := run
      exact ⟨List.mem_append_left _ live, unfiled⟩
  fresh h d' run := by
    by_cases armed : ∃ f, d.failNext = some (kind, f)
    · obtain ⟨f, armed⟩ := armed
      rw [run_create_armed kind f none d armed] at run
      cases run
    · rw [run_create_fresh kind d fun f same => armed ⟨f, same⟩, EStateM.Result.ok.injEq, Except.ok.injEq] at run
      obtain ⟨rfl, rfl⟩ := run
      -- the new object takes the counter's number, which nothing the device knows has
      refine ⟨fun live => UInt64.lt_irrefl _ (numbered.live _ live), by simp, fun e entry listed => ?_⟩
      exact UInt64.lt_irrefl _ (numbered.sets e entry _ listed)

end Device

namespace Context

structure Owned (role : CacheRole) (c : Context) : Prop where
  keys : (c.cache role).keys.Nodup
  values : (c.cache role).values.Nodup
  live : ∀ h ∈ (c.cache role).values, h ∈ c.device.live
  unfiled : ∀ h ∈ (c.cache role).values, ∀ e ∈ c.device.poolSets, h ∉ e.2

structure Takeable (role : CacheRole) (c : Context) (h : Handle) : Prop where
  live : h ∈ c.device.live
  unfiled : ∀ e ∈ c.device.poolSets, h ∉ e.2
  uncached : h ∉ (c.cache role).values

variable {role : CacheRole} {c : Context}

theorem nodup_append_fresh {α : Type} {l : List α} {a : α} (distinct : l.Nodup) (fresh : a ∉ l) :
    (l ++ [a]).Nodup :=
  List.nodup_append.mpr ⟨distinct, List.pairwise_singleton _ a, fun _ listed _ single same =>
    fresh (List.mem_singleton.mp single ▸ same ▸ listed)⟩

theorem owned_of_entries_nil (empty : (c.cache role).entries = []) : Owned role c where
  keys := by simp [ObjectCache.keys, empty]
  values := by simp [ObjectCache.values, empty]
  live h member := by simp [ObjectCache.values, empty] at member
  unfiled h member := by simp [ObjectCache.values, empty] at member

theorem Owned.of_same (owned : Owned role c) {c' : Context} (entries : (c'.cache role).entries = (c.cache role).entries)
    (device : c'.device = c.device) : Owned role c' where
  keys := by simpa [ObjectCache.keys, entries] using owned.keys
  values := by simpa [ObjectCache.values, entries] using owned.values
  live h member := device ▸ owned.live h (by simpa [ObjectCache.values, entries] using member)
  unfiled h member := device ▸ owned.unfiled h (by simpa [ObjectCache.values, entries] using member)

theorem Owned.sublist (owned : Owned role c) (o : ObjectCache) (sub : List.Sublist o.entries (c.cache role).entries) :
    Owned role (c.setCache role o) := by
  have values : List.Sublist o.values (c.cache role).values := sub.map _
  refine ⟨?_, ?_, fun h member => ?_, fun h member => ?_⟩
  · rw [cache_setCache]
    exact (sub.map _).nodup owned.keys
  · rw [cache_setCache]
    exact values.nodup owned.values
  · rw [cache_setCache] at member
    rw [device_setCache]
    exact owned.live h (values.subset member)
  · rw [cache_setCache] at member
    rw [device_setCache]
    exact owned.unfiled h (values.subset member)

theorem Owned.made (owned : Owned role c) {m : Act Device (Except DeviceFailure Handle)} {k : Key} {h : Handle}
    {d : Device} (makes : Device.Makes m c.device) (missing : (c.cache role).find? k = none)
    (made : m.run c.device = .ok (.ok h) d) (o : ObjectCache) (entries : o.entries = (c.cache role).entries) :
    Owned role (({ c with device := d } : Context).setCache role (o.insert k h)) := by
  obtain ⟨unborn, born, bornUnfiled⟩ := makes.fresh h d made
  have newKey : k ∉ (c.cache role).keys := fun listed => by
    simpa [missing] using (ObjectCache.find?_isSome_iff (c := c.cache role)).mpr listed
  have newObject : h ∉ (c.cache role).values := fun listed => unborn (owned.live h listed)
  have kept := fun v listed => makes.keeps _ d made v (owned.live v listed) (owned.unfiled v listed)
  have keys : o.keys = (c.cache role).keys := by simp [ObjectCache.keys, entries]
  have values : o.values = (c.cache role).values := by simp [ObjectCache.values, entries]
  refine ⟨?_, ?_, fun v listed => ?_, fun v listed => ?_⟩
  · simpa [keys] using nodup_append_fresh owned.keys newKey
  · simpa [values] using nodup_append_fresh owned.values newObject
  · simp only [cache_setCache, ObjectCache.values_insert, values, List.mem_append, List.mem_singleton] at listed
    rcases listed with old | rfl
    · simpa using (kept v old).1
    · simpa using born
  · simp only [cache_setCache, ObjectCache.values_insert, values, List.mem_append, List.mem_singleton] at listed
    rcases listed with old | rfl
    · simpa using (kept v old).2
    · simpa using bornUnfiled

theorem Owned.replaceIf (owned : Owned role c) (k : Key) (expected new : Handle) (takeable : Takeable role c new) :
    Owned role (c.setCache role ((c.cache role).replaceIf k expected new).2) := by
  by_cases found : (c.cache role).find? k = some expected
  · rw [ObjectCache.replaceIf_of_find? _ k expected new found]
    have member := ObjectCache.mem_of_find? found
    -- the swapped values and the expected object are the old values and the new object
    have swapped := ObjectCache.values_swapEntries (c.cache role).entries k new owned.keys member
    have moved : ∀ v, v ∈ ((ObjectCache.swapEntries (c.cache role).entries k new).map (·.2)) →
        v ∈ (c.cache role).values ∨ v = new := fun v listed => by
      simpa [ObjectCache.values] using swapped.subset (List.mem_append_left _ listed)
    have distinct := nodup_append_fresh owned.values takeable.uncached
    refine ⟨?_, ?_, fun v listed => ?_, fun v listed => ?_⟩
    · rw [cache_setCache]
      show ((ObjectCache.swapEntries (c.cache role).entries k new).map (·.1)).Nodup
      rw [ObjectCache.keys_swapEntries]
      exact owned.keys
    · rw [cache_setCache]
      exact (List.nodup_append.mp (swapped.nodup_iff.mpr distinct)).1
    · rcases moved v (by simpa [ObjectCache.values] using listed) with old | rfl
      · simpa using owned.live v old
      · simpa using takeable.live
    · rcases moved v (by simpa [ObjectCache.values] using listed) with old | rfl
      · simpa using owned.unfiled v old
      · simpa using takeable.unfiled
  · rw [ObjectCache.replaceIf_of_ne _ k expected new found, setCache_cache]
    exact owned

theorem run_destroyEntries (es : List (Key × Handle)) (c : Context) (distinct : (es.map (·.2)).Nodup)
    (live : ∀ h ∈ es.map (·.2), h ∈ c.device.live)
    (unfiled : ∀ h ∈ es.map (·.2), ∀ e ∈ c.device.poolSets, h ∉ e.2) :
    ∃ d, (forIn es () fun e _ => destroyEntry e).run c = .ok () { c with device := d } ∧
      d.log = c.device.log ++ (es.map fun e => Event.destroy e.2).toArray := by
  induction es generalizing c with
  | nil => exact ⟨c.device, rfl, by simp⟩
  | cons e rest ih =>
    simp only [List.map_cons, List.nodup_cons, List.mem_cons, forall_eq_or_imp] at distinct live unfiled
    -- the first destroy takes the object and the sets of its pool, and no object still to go is one
    let d₁ : Device := { c.device with
      live := (c.device.live.erase e.2).filter fun s => !(c.device.setsOf e.2).contains s
      poolSets := c.device.poolSets.filter (·.1 != e.2)
      log := c.device.log.push (.destroy e.2) }
    have stays : ∀ h ∈ rest.map (·.2), h ∈ d₁.live := fun h listed => by
      have other : h ≠ e.2 := fun same => distinct.1 (same ▸ listed)
      have unpooled : h ∉ c.device.setsOf e.2 := fun pooled => by
        obtain ⟨p, entry, held⟩ := c.device.mem_setsOf e.2 h pooled
        exact unfiled.2 h listed p entry held
      simp [d₁, (List.mem_erase_of_ne other).mpr (live.2 h listed), unpooled]
    have stillUnfiled : ∀ h ∈ rest.map (·.2), ∀ p ∈ d₁.poolSets, h ∉ p.2 := fun h listed p entry =>
      unfiled.2 h listed p (List.mem_filter.mp entry).1
    obtain ⟨d, loop, log⟩ := ih { c with device := d₁ } distinct.2 stays stillUnfiled
    refine ⟨d, ?_, ?_⟩
    · simp only [List.forIn_cons, EStateM.run_bind, destroyEntry, run_device!,
        Device.run_destroy_live _ _ live.1]
      exact loop
    · rw [log]
      simp [d₁]

theorem run_destroyCache {c' : Context}
    (loop : (forIn (c.cache role).entries () fun e _ => destroyEntry e).run (c.setCache role (c.cache role).drain.2) =
      .ok () c') :
    (destroyCache role).run c = .ok (c.cache role).entries.length c' := by
  simp only [destroyCache, EStateM.run_bind, EStateM.run_get, EStateM.run_modify]
  erw [loop]
  rfl

theorem Owned.destroyAll (owned : Owned role c) :
    ∃ c', (destroyCache role).run c = .ok (c.cache role).values.length c' ∧
      c'.device.log = c.device.log ++ ((c.cache role).values.map Event.destroy).toArray ∧
      c'.cache role = (c.cache role).drain.2 := by
  obtain ⟨d, loop, log⟩ := run_destroyEntries (c.cache role).entries (c.setCache role (c.cache role).drain.2)
    owned.values (fun h listed => by rw [device_setCache]; exact owned.live h listed)
    (fun h listed => by rw [device_setCache]; exact owned.unfiled h listed)
  refine ⟨{ c.setCache role (c.cache role).drain.2 with device := d }, ?_, ?_, by simp⟩
  · rw [run_destroyCache loop, ObjectCache.values, List.length_map]
  · simpa [ObjectCache.values, List.map_map, Function.comp_def] using log

structure ActsAsMap (role : CacheRole) (c : Context) : Prop where
  hit : ∀ k h context (make : Act Context (Except DeviceFailure Handle)), (c.cache role).find? k = some h →
    ∃ o, (resolve role k context make).run c = .ok (h, .hit) (c.setCache role o) ∧
      o.view = (c.cache role).view.apply (.lookup k h)
  created : ∀ k h context (m : Act Device (Except DeviceFailure Handle)) d, (c.cache role).find? k = none →
    m.run c.device = .ok (.ok h) d →
    ∃ o, (resolve role k context (device! m)).run c = .ok (h, .created) (({ c with device := d } : Context).setCache role o) ∧
      o.view = (c.cache role).view.apply (.lookup k h)
  refused : ∀ k f context (m : Act Device (Except DeviceFailure Handle)) d, (c.cache role).find? k = none →
    m.run c.device = .ok (.error f) d →
    ∃ o, (resolve role k context (device! m)).run c =
        .error (.fatal (.device s!"{context} [{role.name} {k.text}]" f)) (({ c with device := d } : Context).setCache role o) ∧
      o.view = { (c.cache role).view with misses := (c.cache role).misses + 1 }
  replaceIf : ∀ k expected new,
    ((c.cache role).replaceIf k expected new).1 = decide ((c.cache role).find? k = some expected) ∧
      ((c.cache role).replaceIf k expected new).2.view = (c.cache role).view.apply (.replaceIf k expected new)
  remove : ∀ k, ((c.cache role).remove k).1 = (c.cache role).find? k ∧
    ((c.cache role).remove k).2.view = (c.cache role).view.apply (.remove k)
  removeMatching : ∀ p, ((c.cache role).removeMatching p).1.Nodup ∧
    (∀ k h, (k, h) ∈ ((c.cache role).removeMatching p).1 ↔ p k ∧ (c.cache role).find? k = some h) ∧
    ((c.cache role).removeMatching p).2.view = (c.cache role).view.apply (.removeMatching p)
  drain : (c.cache role).drain.1.Nodup ∧ (∀ k h, (k, h) ∈ (c.cache role).drain.1 ↔ (c.cache role).find? k = some h) ∧
    (c.cache role).drain.2.view = (c.cache role).view.apply .clear
  destroyAll : ∃ (hs : List Handle) (c' : Context), hs.Nodup ∧ (∀ h, h ∈ hs ↔ ∃ k, (c.cache role).find? k = some h) ∧
    (destroyCache role).run c = .ok hs.length c' ∧ c'.device.log = c.device.log ++ (hs.map Event.destroy).toArray ∧
    (c'.cache role).view = (c.cache role).view.apply .clear

theorem replaceIf_answer (o : ObjectCache) (k : Key) (expected new : Handle) :
    (o.replaceIf k expected new).1 = decide (o.find? k = some expected) := by
  by_cases found : o.find? k = some expected
  · simp [ObjectCache.replaceIf_of_find? o k expected new found, found]
  · simp [ObjectCache.replaceIf_of_ne o k expected new found, found]

theorem Owned.actsAsMap (owned : Owned role c) : ActsAsMap role c where
  hit k h context make found :=
    ⟨_, run_resolve_hit c role k context make found, by simp [CacheMap.apply, found]⟩
  created k h context m d missing made := by
    refine ⟨_, run_resolve_made c role k context m missing made, ?_⟩
    rw [ObjectCache.view_insert _ h (by simpa using missing)]
    simp [CacheMap.apply, missing]
  refused k f context m d missing refused := ⟨_, run_resolve_refused c role k context m missing refused, rfl⟩
  replaceIf k expected new := ⟨replaceIf_answer _ k expected new, ObjectCache.view_replaceIf _ k expected new⟩
  remove k := ⟨rfl, ObjectCache.view_remove _ k⟩
  removeMatching p :=
    ⟨List.filter_sublist.nodup (ObjectCache.nodup_entries owned.keys),
      fun _ _ => ObjectCache.mem_removeMatching_iff owned.keys p, ObjectCache.view_removeMatching _ p⟩
  drain := ⟨ObjectCache.nodup_entries owned.keys, fun _ _ => ObjectCache.mem_entries_iff owned.keys, rfl⟩
  destroyAll := by
    obtain ⟨c', run, log, drained⟩ := owned.destroyAll
    exact ⟨_, c', owned.values, fun _ => ObjectCache.mem_values_iff owned.keys, run, log, by rw [drained]; rfl⟩

theorem Owned.resolve (owned : Owned role c) {k : Key} {context : String} {m : Act Device (Except DeviceFailure Handle)}
    {h : Handle} {outcome : Outcome} {c' : Context} (makes : Device.Makes m c.device)
    (call : (Context.resolve role k context (device! m)).run c = .ok (h, outcome) c') :
    Owned role c' ∧ (c'.cache role).view = (c.cache role).view.apply (.lookup k h) := by
  rcases resolve_ok_cases c role k context call with ⟨found, -, rfl⟩ | ⟨missing, -, d, made, rfl⟩
  · exact ⟨owned.of_same (by simp) (by simp), by simp [CacheMap.apply, found]⟩
  · refine ⟨owned.made makes missing made _ rfl, ?_⟩
    rw [cache_setCache, ObjectCache.view_insert _ h (by simpa using missing)]
    simp [CacheMap.apply, missing]

end Context

inductive CacheRun (role : CacheRole) : Context → List MapCall → Context → Prop
  | done {c : Context} : CacheRun role c [] c
  | resolve {c c₁ c' : Context} {calls : List MapCall} {k : Key} {context : String}
      {m : Act Device (Except DeviceFailure Handle)} {h : Handle} {outcome : Outcome}
      (before : CacheRun role c calls c₁) (makes : Device.Makes m c₁.device)
      (call : (Context.resolve role k context (Context.device! m)).run c₁ = .ok (h, outcome) c') :
      CacheRun role c (calls ++ [.lookup k h]) c'
  | replaceIf {c c₁ : Context} {calls : List MapCall} (before : CacheRun role c calls c₁) (k : Key)
      (expected new : Handle) (takeable : c₁.Takeable role new) :
      CacheRun role c (calls ++ [.replaceIf k expected new])
        (c₁.setCache role ((c₁.cache role).replaceIf k expected new).2)
  | remove {c c₁ : Context} {calls : List MapCall} (before : CacheRun role c calls c₁) (k : Key) :
      CacheRun role c (calls ++ [.remove k]) (c₁.setCache role ((c₁.cache role).remove k).2)
  | removeMatching {c c₁ : Context} {calls : List MapCall} (before : CacheRun role c calls c₁) (p : Key → Bool) :
      CacheRun role c (calls ++ [.removeMatching p]) (c₁.setCache role ((c₁.cache role).removeMatching p).2)
  | drain {c c₁ : Context} {calls : List MapCall} (before : CacheRun role c calls c₁) :
      CacheRun role c (calls ++ [.clear]) (c₁.setCache role (c₁.cache role).drain.2)
  | destroyAll {c c₁ c' : Context} {calls : List MapCall} {n : Nat} (before : CacheRun role c calls c₁)
      (call : (Context.destroyCache role).run c₁ = .ok n c') :
      CacheRun role c (calls ++ [.clear]) c'

namespace CacheRun

variable {role : CacheRole} {c₀ c : Context} {calls : List MapCall}

theorem owned_view (run : CacheRun role c₀ calls c) (owned : c₀.Owned role) :
    c.Owned role ∧ (c.cache role).view = calls.foldl CacheMap.apply (c₀.cache role).view := by
  induction run with
  | done => exact ⟨owned, rfl⟩
  | resolve before makes call ih =>
    obtain ⟨owned₁, view₁⟩ := ih
    obtain ⟨owned', view'⟩ := owned₁.resolve makes call
    exact ⟨owned', by rw [view', view₁, List.foldl_append, List.foldl_cons, List.foldl_nil]⟩
  | replaceIf before k expected new takeable ih =>
    obtain ⟨owned₁, view₁⟩ := ih
    refine ⟨owned₁.replaceIf k expected new takeable, ?_⟩
    rw [Context.cache_setCache, ObjectCache.view_replaceIf, view₁, List.foldl_append, List.foldl_cons, List.foldl_nil]
  | remove before k ih =>
    obtain ⟨owned₁, view₁⟩ := ih
    refine ⟨owned₁.sublist _ List.filter_sublist, ?_⟩
    rw [Context.cache_setCache, ObjectCache.view_remove, view₁, List.foldl_append, List.foldl_cons, List.foldl_nil]
  | removeMatching before p ih =>
    obtain ⟨owned₁, view₁⟩ := ih
    refine ⟨owned₁.sublist _ List.filter_sublist, ?_⟩
    rw [Context.cache_setCache, ObjectCache.view_removeMatching, view₁, List.foldl_append, List.foldl_cons,
      List.foldl_nil]
  | drain before ih =>
    obtain ⟨owned₁, view₁⟩ := ih
    refine ⟨owned₁.sublist _ (List.nil_sublist _), ?_⟩
    rw [Context.cache_setCache, ObjectCache.view_drain, view₁, List.foldl_append, List.foldl_cons, List.foldl_nil]
  | destroyAll before call ih =>
    obtain ⟨owned₁, view₁⟩ := ih
    -- destroying everything in an owned cache has one end, and it leaves the cache drained
    obtain ⟨c', run, -, drained⟩ := owned₁.destroyAll
    rw [run, EStateM.Result.ok.injEq] at call
    obtain ⟨-, rfl⟩ := call
    refine ⟨Context.owned_of_entries_nil (by rw [drained]; rfl), ?_⟩
    rw [drained, ObjectCache.view_drain, view₁, List.foldl_append, List.foldl_cons, List.foldl_nil]

end CacheRun

theorem ObjectCache.entries_eq_nil_of_view (o : ObjectCache) (empty : o.view = .empty) : o.entries = [] := by
  cases entries : o.entries with
  | nil => rfl
  | cons e rest =>
    obtain ⟨k, h⟩ := e
    have found : o.find? k = some h := by simp [ObjectCache.find?, entries]
    have none : o.view.lookup k = none := by rw [empty]; rfl
    rw [ObjectCache.view_lookup, found] at none
    cases none

theorem caches_refine_finite_maps {role : CacheRole} {c₀ c : Context} {calls : List MapCall}
    (empty : (c₀.cache role).view = .empty) (run : CacheRun role c₀ calls c) :
    (c.cache role).view = calls.foldl CacheMap.apply .empty ∧ (c.cache role).discarded = 0 ∧
      c.ActsAsMap role := by
  obtain ⟨owned, view⟩ := run.owned_view (Context.owned_of_entries_nil ((c₀.cache role).entries_eq_nil_of_view empty))
  rw [empty] at view
  have discarded := CacheMap.discarded_foldl_apply calls .empty
  rw [← view, ObjectCache.view_discarded] at discarded
  exact ⟨view, discarded, owned.actsAsMap⟩

-- On a new context a pipeline key is looked up twice and another once, the first key is removed and
-- the cache destroyed: one hit, two misses, nothing discarded.
theorem first_pipeline_lookup_creates :
    ∃ c calls, ((default : Context).cache .pipelines).view = .empty ∧ CacheRun .pipelines default calls c ∧
      (c.cache .pipelines).view = calls.foldl CacheMap.apply .empty ∧ (c.cache .pipelines).discarded = 0 ∧
      c.ActsAsMap .pipelines ∧ (c.cache .pipelines).hits = 1 ∧ (c.cache .pipelines).misses = 2 := by
  have ran : Act.finishes ((Context.resolve .pipelines ⟨"a"⟩ "creating pipeline"
      (Context.device! (Device.create .pipeline))).run default) (fun _ c₁ =>
    Act.finishes ((Context.resolve .pipelines ⟨"a"⟩ "creating pipeline"
      (Context.device! (Device.create .pipeline))).run c₁) fun _ c₂ =>
    Act.finishes ((Context.resolve .pipelines ⟨"b"⟩ "creating pipeline"
      (Context.device! (Device.create .pipeline))).run c₂) fun _ c₃ =>
    Act.finishes ((Context.destroyCache .pipelines).run
      (c₃.setCache .pipelines ((c₃.cache .pipelines).remove ⟨"a"⟩).2)) fun _ _ =>
    decide c₁.device.Numbered && decide c₂.device.Numbered) = true := by
    cbv
  obtain ⟨r₁, c₁, first, ran⟩ := Act.finishes_eq_true.mp ran
  obtain ⟨r₂, c₂, second, ran⟩ := Act.finishes_eq_true.mp ran
  obtain ⟨r₃, c₃, third, ran⟩ := Act.finishes_eq_true.mp ran
  obtain ⟨n, c, destroyed, ran⟩ := Act.finishes_eq_true.mp ran
  simp only [Bool.and_eq_true, decide_eq_true_eq] at ran
  obtain ⟨numbered₁, numbered₂⟩ := ran
  have numbered : (default : Context).device.Numbered := by decide
  have run := CacheRun.destroyAll (CacheRun.remove (CacheRun.resolve (CacheRun.resolve (CacheRun.resolve .done
    (Device.makes_create .pipeline _ numbered) first) (Device.makes_create .pipeline _ numbered₁) second)
    (Device.makes_create .pipeline _ numbered₂) third) ⟨"a"⟩) destroyed
  obtain ⟨view, discarded, acts⟩ := caches_refine_finite_maps rfl run
  refine ⟨c, _, rfl, run, view, discarded, acts, ?_, ?_⟩
  · rw [← ObjectCache.view_hits, view]
    simp [CacheMap.apply, CacheMap.set, CacheMap.empty]
  · rw [← ObjectCache.view_misses, view]
    simp [CacheMap.apply, CacheMap.set, CacheMap.empty]

end RenderCore
