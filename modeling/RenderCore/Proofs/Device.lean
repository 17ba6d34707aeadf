import RenderCore.Proofs.Action
namespace RenderCore.Device

def setsOf (d : Device) (p : Handle) : List Handle :=
  (d.poolSets.lookup p).getD []

-- Every handle the device knows, live or filed under a pool, was numbered before the
-- counter's present value.
structure Numbered (d : Device) : Prop where
  live : ∀ h ∈ d.live, h.raw < d.next
  pools : ∀ e ∈ d.poolSets, e.1.raw < d.next
  sets : ∀ e ∈ d.poolSets, ∀ h ∈ e.2, h.raw < d.next

instance (d : Device) : Decidable d.Numbered :=
  decidable_of_iff ((∀ h ∈ d.live, h.raw < d.next) ∧ (∀ e ∈ d.poolSets, e.1.raw < d.next) ∧
      ∀ e ∈ d.poolSets, ∀ h ∈ e.2, h.raw < d.next)
    ⟨fun ⟨live, pools, sets⟩ => ⟨live, pools, sets⟩, fun ⟨live, pools, sets⟩ => ⟨live, pools, sets⟩⟩

def SetsFiled (d : Device) : Prop :=
  ∀ e ∈ d.poolSets, ∀ h ∈ e.2, h.kind = .set

theorem lookup_filter_other {β : Type} (entries : List (Handle × β)) (p q : Handle) (other : q ≠ p) :
    (entries.filter (·.1 != p)).lookup q = entries.lookup q := by
  induction entries with
  | nil => rfl
  | cons e rest ih =>
    obtain ⟨k, sets⟩ := e
    by_cases kept : k = p
    · subst kept
      have skipped : (q == k) = false := beq_eq_false_iff_ne.mpr other
      simp only [List.filter_cons, bne_self_eq_false, Bool.false_eq_true, if_false, ih,
        List.lookup_cons, skipped]
    · have stays : (k != p) = true := bne_iff_ne.mpr kept
      simp only [List.filter_cons, stays, if_true, List.lookup_cons, ih]

@[simp] theorem setsOf_file (d : Device) (p q : Handle) (sets : List Handle) :
    setsOf { d with poolSets := (p, sets) :: d.poolSets.filter (·.1 != p) } q =
      if q = p then sets else d.setsOf q := by
  by_cases same : q = p
  · subst same
    simp [setsOf]
  · have skipped : (q == p) = false := by simpa using same
    simp [setsOf, List.lookup_cons, skipped, same, lookup_filter_other _ p q same]

@[simp] theorem setsOf_unfile (d : Device) (p q : Handle) :
    setsOf { d with poolSets := d.poolSets.filter (·.1 != p) } q = if q = p then [] else d.setsOf q := by
  by_cases same : q = p
  · subst same
    have missing : (d.poolSets.filter (·.1 != q)).lookup q = none := by
      simp only [List.lookup_eq_none_iff, List.mem_filter]
      intro e member
      have kept := member.2
      simp only [bne_iff_ne, ne_eq] at kept ⊢
      exact fun same => kept same.symm
    simp [setsOf, missing]
  · simp [setsOf, same, lookup_filter_other _ p q same]

theorem mem_setsOf (d : Device) (p h : Handle) (listed : h ∈ d.setsOf p) : ∃ e ∈ d.poolSets, h ∈ e.2 := by
  cases found : d.poolSets.lookup p with
  | none => simp [setsOf, found] at listed
  | some sets =>
    obtain ⟨before, after, split, -⟩ := List.lookup_eq_some_iff.mp found
    exact ⟨(p, sets), by simp [split], by simpa [setsOf, found] using listed⟩

theorem setsOf_eq_nil_of_fresh (d : Device) (numbered : d.Numbered) (h : Handle) (fresh : d.next ≤ h.raw) :
    d.setsOf h = [] := by
  have missing : d.poolSets.lookup h = none := by
    simp only [List.lookup_eq_none_iff, bne_iff_ne, ne_eq]
    intro e member same
    have below := numbered.pools e member
    rw [← same] at below
    exact absurd fresh (UInt64.not_le.mpr below)
  simp [setsOf, missing]

theorem room_of_le_succ (n : UInt64) (grows : n ≤ n + 1) : n < n + 1 := by
  have bound := n.toNat_lt
  simp only [UInt64.le_iff_toNat_le, UInt64.lt_iff_toNat_lt, UInt64.toNat_add, UInt64.toNat_one] at grows ⊢
  omega

theorem room_of_le_succ_succ (n : UInt64) (grows : n ≤ n + 1 + 1) : n < n + 1 ∧ n + 1 < n + 1 + 1 := by
  have bound := n.toNat_lt
  simp only [UInt64.le_iff_toNat_le, UInt64.lt_iff_toNat_lt, UInt64.toNat_add, UInt64.toNat_one] at grows ⊢
  omega

theorem lt_succ_of_lt {a n : UInt64} (room : n < n + 1) (lt : a < n) : a < n + 1 := by
  simp only [UInt64.lt_iff_toNat_lt] at room lt ⊢
  omega

theorem run_create_armed (kind : HandleKind) (f : DeviceFailure) (pool : Option Handle) (d : Device)
    (armed : d.failNext = some (kind, f)) :
    (create kind pool).run d = .ok (.error f) { d with failNext := none } := by
  simp [create, armed]

theorem run_create_fresh (kind : HandleKind) (d : Device) (unarmed : ∀ f, d.failNext ≠ some (kind, f)) :
    (create kind).run d = .ok (.ok ⟨kind, d.next⟩)
      { d with next := d.next + 1, live := d.live ++ [⟨kind, d.next⟩],
               log := d.log.push (.create ⟨kind, d.next⟩) } := by
  cases armed : d.failNext with
  | none => simp [create, create.made, track, fresh, record, armed]
  | some entry =>
    obtain ⟨k, f⟩ := entry
    have other : k ≠ kind := fun same => unarmed f (by rw [armed, same])
    simp [create, create.made, track, fresh, record, armed, other]

theorem run_create_from (kind : HandleKind) (p : Handle) (d : Device)
    (unarmed : ∀ f, d.failNext ≠ some (kind, f)) :
    (create kind (some p)).run d = .ok (.ok ⟨kind, d.next⟩)
      { d with next := d.next + 1, live := d.live ++ [⟨kind, d.next⟩],
               log := d.log.push (.create ⟨kind, d.next⟩),
               poolSets := (p, d.setsOf p ++ [⟨kind, d.next⟩]) :: d.poolSets.filter (·.1 != p) } := by
  cases armed : d.failNext with
  | none => simp [create, create.made, track, fresh, record, armed, setsOf]
  | some entry =>
    obtain ⟨k, f⟩ := entry
    have other : k ≠ kind := fun same => unarmed f (by rw [armed, same])
    simp [create, create.made, track, fresh, record, armed, other, setsOf]

theorem run_link (mode : LinkMode) (d : Device) :
    (link mode).run d = .ok (⟨.pipeline, d.next⟩, mode == .optimized || d.fastLinksOptimized)
      { d with next := d.next + 1, live := d.live ++ [⟨.pipeline, d.next⟩],
               log := (d.log.push (.create ⟨.pipeline, d.next⟩)).push (.link ⟨.pipeline, d.next⟩ mode) } := by
  simp [link, track, fresh, record]

theorem run_takeLinkPanic (d : Device) :
    takeLinkPanic.run d = .ok d.panicNextOptimized { d with panicNextOptimized := false } := rfl

theorem run_destroy_live (h : Handle) (d : Device) (live : h ∈ d.live) :
    (destroy h).run d = .ok ()
      { d with live := (d.live.erase h).filter (fun s => !(d.setsOf h).contains s),
               poolSets := d.poolSets.filter (·.1 != h), log := d.log.push (.destroy h) } := by
  simp [destroy, record, live, setsOf]

theorem Numbered.of_same {d d' : Device} (numbered : d.Numbered) (next : d'.next = d.next)
    (live : d'.live = d.live) (poolSets : d'.poolSets = d.poolSets) : d'.Numbered where
  live h member := next ▸ numbered.live h (live ▸ member)
  pools e member := next ▸ numbered.pools e (poolSets ▸ member)
  sets e member := next ▸ numbered.sets e (poolSets ▸ member)

theorem numbered_track (d : Device) (numbered : d.Numbered) (kind : HandleKind) (room : d.next < d.next + 1)
    (log : Array Event) : Numbered { d with next := d.next + 1, live := d.live ++ [⟨kind, d.next⟩], log } where
  live h member := by
    rcases List.mem_append.mp member with old | new
    · exact UInt64.lt_trans (numbered.live h old) room
    · simp only [List.mem_singleton] at new
      subst new
      exact room
  pools e member := UInt64.lt_trans (numbered.pools e member) room
  sets e member h inner := UInt64.lt_trans (numbered.sets e member h inner) room

theorem numbered_create_fresh (d : Device) (numbered : d.Numbered) (kind : HandleKind)
    (room : d.next < d.next + 1) :
    Numbered { d with next := d.next + 1, live := d.live ++ [⟨kind, d.next⟩],
                      log := d.log.push (.create ⟨kind, d.next⟩) } :=
  numbered_track d numbered kind room _

theorem numbered_create_from (d : Device) (numbered : d.Numbered) (kind : HandleKind) (p : Handle)
    (known : p.raw < d.next) (room : d.next < d.next + 1) :
    Numbered { d with next := d.next + 1, live := d.live ++ [⟨kind, d.next⟩],
                      log := d.log.push (.create ⟨kind, d.next⟩),
                      poolSets := (p, d.setsOf p ++ [⟨kind, d.next⟩]) :: d.poolSets.filter (·.1 != p) } where
  live h member := (numbered_create_fresh d numbered kind room).live h member
  pools e member := by
    rcases List.mem_cons.mp member with first | rest
    · subst first
      exact UInt64.lt_trans known room
    · exact UInt64.lt_trans (numbered.pools e (List.mem_filter.mp rest).1) room
  sets e member h inner := by
    rcases List.mem_cons.mp member with first | rest
    · subst first
      rcases List.mem_append.mp inner with old | new
      · obtain ⟨e, entry, listed⟩ := d.mem_setsOf p h old
        exact UInt64.lt_trans (numbered.sets e entry h listed) room
      · simp only [List.mem_singleton] at new
        subst new
        exact room
    · exact UInt64.lt_trans (numbered.sets e (List.mem_filter.mp rest).1 h inner) room

theorem numbered_destroy (d : Device) (numbered : d.Numbered) (h : Handle) :
    Numbered { d with live := (d.live.erase h).filter (fun s => !(d.setsOf h).contains s),
                      poolSets := d.poolSets.filter (·.1 != h), log := d.log.push (.destroy h) } where
  live s member := numbered.live s ((List.erase_subset) (List.mem_filter.mp member).1)
  pools e member := numbered.pools e (List.mem_filter.mp member).1
  sets e member := numbered.sets e (List.mem_filter.mp member).1

theorem setsFiled_create_from (d : Device) (filed : d.SetsFiled) (p : Handle) :
    SetsFiled { d with next := d.next + 1, live := d.live ++ [⟨.set, d.next⟩],
                       log := d.log.push (.create ⟨.set, d.next⟩),
                       poolSets := (p, d.setsOf p ++ [⟨.set, d.next⟩]) :: d.poolSets.filter (·.1 != p) } := by
  intro e member h inner
  rcases List.mem_cons.mp member with first | rest
  · subst first
    rcases List.mem_append.mp inner with old | new
    · obtain ⟨e, entry, listed⟩ := d.mem_setsOf p h old
      exact filed e entry h listed
    · rw [List.mem_singleton.mp new]
  · exact filed e (List.mem_filter.mp rest).1 h inner

theorem setsFiled_destroy (d : Device) (filed : d.SetsFiled) (h : Handle) :
    SetsFiled { d with live := (d.live.erase h).filter (fun s => !(d.setsOf h).contains s),
                       poolSets := d.poolSets.filter (·.1 != h), log := d.log.push (.destroy h) } :=
  fun e member => filed e (List.mem_filter.mp member).1

theorem not_mem_setsOf (d : Device) (filed : d.SetsFiled) (p q : Handle) (pool : q.kind = .pool) :
    q ∉ d.setsOf p := fun listed => by
  obtain ⟨e, entry, inner⟩ := d.mem_setsOf p q listed
  rw [filed e entry q inner] at pool
  cases pool

end RenderCore.Device
