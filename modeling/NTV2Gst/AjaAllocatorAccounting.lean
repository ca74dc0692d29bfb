import NTV2Gst.BlockPool
import NTV2Gst.AjaAllocator

/-!
# Where every block of the allocator is

The allocator refines the pool of blocks of `BlockPool`, of which it keeps at least
`num_prealloc` and up to eight idle. What the pool promises holds of the free list, the
live root memories and the calls to the device.
-/
namespace AjaAllocatorAccounting

open TransitionRuns BlockPool AjaAllocator

/-! ## The allocator refines a pool of blocks -/

def deviceCalls (allocSize : UInt64) : Change ℕ → List DeviceCall
  | .acquired b => lockBlock allocSize b
  | .returned b => unlockBlock allocSize b

/-- `p` is the pool that the allocator manages. -/
structure Invariant (allocSize : UInt64) (numPrealloc : ℕ) (s : State) (p : Pool ℕ) : Prop where
  counted : Counted s.memories
  fresh : ∀ m ∈ s.memories, m.address < s.nextAddress
  maxsize : ∀ m ∈ s.memories, m.parent = none → m.maxsize = allocSize
  not_null : 0 ∉ p.owned
  alloc_size : s.alloc.allocSize = allocSize
  num_prealloc : s.alloc.numPrealloc = numPrealloc
  idle : p.idle = s.alloc.freeList
  used : p.used = rootData s.memories
  num_allocated : p.count = s.alloc.numAllocated
  calls : s.calls = p.changes.flatMap (deviceCalls allocSize)
  balanced : Balanced 8 numPrealloc p

def Alive (s : State) : Prop := ∀ m ∈ s.memories, 0 < m.refcount

section Steps

variable {allocSize : UInt64} {numPrealloc : ℕ} {s : State} {p : Pool ℕ} {m : GstAjaMemory}
  {rest : List GstAjaMemory}

theorem root_data_cons (m : GstAjaMemory) (l : List GstAjaMemory) :
    rootData (m :: l) = if m.parent = none then m.data :: rootData l else rootData l := by
  unfold rootData
  by_cases h : m.parent = none <;> simp [h]

theorem root_data_perm {l l' : List GstAjaMemory} (h : l.Perm l') :
    (rootData l).Perm (rootData l') := (h.filter _).map _

theorem Invariant.owned (h : Invariant allocSize numPrealloc s p) : p.owned = s.blocks := by
  rw [Pool.owned, h.idle, h.used, State.blocks, Multiset.coe_add]

theorem Invariant.with_memories (h : Invariant allocSize numPrealloc s p)
    {l : List GstAjaMemory} {next : ℕ} (hc : Counted l)
    (hr : (rootData l).Perm (rootData s.memories)) (hf : ∀ m ∈ l, m.address < next)
    (hm : ∀ m ∈ l, m.parent = none → m.maxsize = allocSize) :
    Invariant allocSize numPrealloc { s with memories := l, nextAddress := next } p :=
  { h with
    counted := hc
    fresh := hf
    maxsize := hm
    used := by
      rw [h.used]
      exact (Multiset.coe_eq_coe.mpr hr).symm }

theorem Invariant.memory_new (h : Invariant allocSize numPrealloc s p) {flags b : ℕ}
    {t : State} {q : Pool ℕ} {offset size : UInt64}
    (hs : BlockPool.Step 8 numPrealloc p q) (hi : q.idle = t.alloc.freeList)
    (hu : q.used = b ::ₘ p.used) (hn : q.count = t.alloc.numAllocated)
    (hc : t.calls = q.changes.flatMap (deviceCalls allocSize)) (hb : 0 ∉ q.owned)
    (hm : t.memories = s.memories) (ha : t.nextAddress = s.nextAddress)
    (hz : t.alloc.allocSize = allocSize) (hp : t.alloc.numPrealloc = numPrealloc) :
    Invariant allocSize numPrealloc (t.memoryNew flags none b allocSize offset size) q where
  counted := by
    simp only [State.memoryNew, hm, ha]
    exact h.counted.add_root h.fresh rfl rfl
  fresh := by
    simp only [State.memoryNew, hm, ha, List.mem_cons, forall_eq_or_imp]
    exact ⟨Nat.lt_succ_self _, fun x hx => (h.fresh x hx).trans (Nat.lt_succ_self _)⟩
  maxsize := by
    intro x hx hp
    rw [State.memoryNew, hm] at hx
    rcases List.mem_cons.mp hx with rfl | hx
    · rfl
    · exact h.maxsize x hx hp
  not_null := hb
  alloc_size := hz
  num_prealloc := hp
  idle := hi
  used := by
    rw [hu, h.used]
    simp [State.memoryNew, hm, root_data_cons]
  num_allocated := hn
  calls := hc
  balanced := hs.balanced h.balanced

theorem Invariant.allocator_alloc (h : Invariant allocSize numPrealloc s p) {size : UInt64}
    {params : GstAllocationParams} {block : ℕ} {t : State} (hb : block ≠ 0)
    (hf : block ∉ s.blocks) (ht : s.allocatorAlloc size params block = some t) :
    ∃ q, Invariant allocSize numPrealloc t q := by
  unfold State.allocatorAlloc State.memoryNewBlock at ht
  by_cases hparams : params.prefixSize = 0 ∧ params.padding = 0
  swap
  · simp [hparams] at ht
  by_cases hsize : size = s.alloc.allocSize
  swap
  · simp [hparams, hsize] at ht
  rw [if_pos hparams, if_pos hsize] at ht
  obtain ⟨idle, used, n, c⟩ := p
  have hidle : idle = s.alloc.freeList := h.idle
  have hn : n = s.alloc.numAllocated := h.num_allocated
  have hc : s.calls = c.flatMap (deviceCalls allocSize) := h.calls
  have hfree : block ∉ Pool.owned ⟨idle, used, n, c⟩ := by
    rw [h.owned]
    exact hf
  rw [hsize, h.alloc_size] at ht
  cases hl : s.alloc.freeList with
  | nil =>
    rw [hl] at hidle
    subst hidle
    have hfree : block ∉ used := by simpa [Pool.owned] using hfree
    have hnull : 0 ∉ used := by simpa [Pool.owned] using h.not_null
    simp only [hl, popHead, if_true, Option.some.injEq] at ht
    subst ht
    refine ⟨_, h.memory_new (.extend hfree) rfl rfl (congrArg (· + 1) hn) ?_ ?_ rfl rfl
      h.alloc_size h.num_prealloc⟩
    · simp [hc, deviceCalls]
    · simpa [Pool.owned, hb.symm] using hnull
  | cons b q =>
    rw [hl] at hidle
    subst hidle
    have hnull : 0 ≠ b ∧ 0 ∉ q ∧ 0 ∉ used := by
      simpa [Pool.owned, not_or, and_assoc] using h.not_null
    simp only [hl, popHead, hnull.1.symm, if_false, Option.some.injEq] at ht
    subst ht
    refine ⟨_, h.memory_new .recycle rfl rfl hn hc ?_ rfl rfl h.alloc_size h.num_prealloc⟩
    simpa [Pool.owned] using ⟨hnull.1, hnull.2.1, hnull.2.2⟩

theorem Invariant.free_root (h : Invariant allocSize numPrealloc s p)
    (hm : s.memories = m :: rest) (hp : m.parent = none) (hr : m.refcount = 0) :
    ∃ q, Invariant allocSize numPrealloc (s.allocatorFree m) q := by
  have hc := h.counted
  have hf := h.fresh
  have hx := h.maxsize
  rw [hm] at hc hf hx
  have hshares : sharesOf rest m.address = 0 := by
    have := hc.refcount m List.mem_cons_self
    rw [shares_of_cons] at this
    omega
  have table := hc.remove hshares hp
  obtain ⟨idle, used, n, c⟩ := p
  have hidle : idle = s.alloc.freeList := h.idle
  have hused : used = m.data ::ₘ (rootData rest : Multiset ℕ) := by
    have := h.used
    rw [hm, root_data_cons, if_pos hp] at this
    exact this
  have hn : n = s.alloc.numAllocated := h.num_allocated
  have hcalls : s.calls = c.flatMap (deviceCalls allocSize) := h.calls
  subst hidle hused hn
  have hnull : 0 ∉ s.alloc.freeList ∧ 0 ≠ m.data ∧ 0 ∉ rootData rest := by
    simpa [Pool.owned, not_or] using h.not_null
  have hsize := hx m List.mem_cons_self hp
  by_cases hkeep : 8 ≤ s.alloc.freeList.length ∧ s.alloc.numPrealloc < s.alloc.numAllocated
  · have hstate : s.allocatorFree m =
        { s with
          memories := rest
          alloc := { s.alloc with numAllocated := s.alloc.numAllocated - 1 }
          calls := s.calls ++ unlockBlock allocSize m.data } := by
      simp [State.allocatorFree, hp, hkeep, hm, hsize]
    rw [hstate]
    have hlimit := h.num_prealloc ▸ hkeep.2
    refine ⟨_, table, fun x hxr => hf x (by simp [hxr]), fun x hxr => hx x (by simp [hxr]), ?_,
      h.alloc_size, h.num_prealloc, rfl, rfl, rfl, ?_,
      (Step.release hkeep.1 hlimit).balanced h.balanced⟩
    · simpa [Pool.owned] using ⟨hnull.1, hnull.2.2⟩
    · simp [hcalls, deviceCalls]
  · have hstate : s.allocatorFree m =
        { s with
          memories := rest
          alloc := { s.alloc with freeList := s.alloc.freeList ++ [m.data] } } := by
      simp [State.allocatorFree, hp, hkeep, hm]
    rw [hstate]
    have hlimit := h.num_prealloc ▸ hkeep
    refine ⟨_, table, fun x hxr => hf x (by simp [hxr]), fun x hxr => hx x (by simp [hxr]), ?_,
      h.alloc_size, h.num_prealloc, rfl, rfl, rfl, hcalls,
      (Step.keep hlimit).balanced h.balanced⟩
    simpa [Pool.owned, not_or, and_assoc] using hnull

theorem lookup_of_mem (hc : Counted s.memories) (hm : m ∈ s.memories) :
    s.lookup m.address = some m := by
  unfold State.lookup
  rw [List.find?_eq_some_iff_append]
  obtain ⟨l, l', hl⟩ := List.append_of_mem hm
  refine ⟨by simp, l, l', hl, ?_⟩
  intro x hx
  have hn := hc.addresses
  rw [hl, List.map_append, List.map_cons, List.nodup_append] at hn
  have := hn.2.2 x.address (List.mem_map_of_mem hx) m.address (by simp)
  simpa using this

structure SameBlock (m m' : GstAjaMemory) : Prop where
  address : m'.address = m.address
  parent : m'.parent = m.parent
  data : m'.data = m.data
  maxsize : m'.maxsize = m.maxsize

theorem Invariant.replace (h : Invariant allocSize numPrealloc s p) {m' : GstAjaMemory}
    (hm : s.memories.Perm (m :: rest)) (he : s.memories.erase m = rest) (hs : SameBlock m m')
    (hr : m'.refcount + m.held = m.refcount + m'.held) :
    Invariant allocSize numPrealloc (s.replace m m') p := by
  obtain ⟨ha, hp, hd, hx⟩ := hs
  have hin : m ∈ s.memories := hm.mem_iff.mpr List.mem_cons_self
  have hsub : ∀ x ∈ rest, x ∈ s.memories := fun x hx =>
    hm.mem_iff.mpr (List.mem_cons_of_mem _ hx)
  unfold State.replace
  rw [he]
  apply h.with_memories
  · exact (h.counted.perm hm).change_refs ha hp hd hr
  · refine List.Perm.trans ?_ (root_data_perm hm).symm
    rw [root_data_cons, root_data_cons, hp, hd]
  · intro x hxl
    rcases List.mem_cons.mp hxl with rfl | hxl
    · rw [ha]
      exact h.fresh m hin
    · exact h.fresh x (hsub x hxl)
  · intro x hxl hxp
    rcases List.mem_cons.mp hxl with rfl | hxl
    · rw [hx]
      exact h.maxsize m hin (hp ▸ hxp)
    · exact h.maxsize x (hsub x hxl) hxp

@[simp] theorem allocator_free_memories (s : State) (m : GstAjaMemory) :
    (s.allocatorFree m).memories = s.memories.erase m := by
  unfold State.allocatorFree
  split
  · split <;> rfl
  · rfl

/-- The share is gone before it matters whether its root is freed too. -/
theorem root_unref_free_share {r : GstAjaMemory} (hm : s.memories = m :: rest)
    (hp : m.parent ≠ none) (hr : r.parent = none) :
    (s.rootUnref r).allocatorFree m =
      { s with memories := r :: rest.erase r }.rootUnref r := by
  have hne : m ≠ r := by
    rintro rfl
    exact hp hr
  have hne' : ({ r with refcount := r.refcount - 1 } : GstAjaMemory) ≠ m := by
    rintro rfl
    exact hp hr
  by_cases h0 : r.refcount - 1 = 0
  · simp only [State.rootUnref, h0, if_true, State.replace, hm, List.erase_cons_head,
      List.erase_cons_tail (beq_false_of_ne hne ▸ Bool.false_ne_true)]
    by_cases hk : 8 ≤ s.alloc.freeList.length ∧ s.alloc.numPrealloc < s.alloc.numAllocated
    · simp [State.allocatorFree, hr, hp, hk]
    · simp [State.allocatorFree, hr, hp, hk]
  · simp [State.rootUnref, h0, State.replace, hm, State.allocatorFree, hp, hne, hne']

theorem Invariant.root_unref (h : Invariant allocSize numPrealloc s p) {r : GstAjaMemory}
    (hm : s.memories = { r with refcount := r.refcount - 1 } :: rest) (hr : r.parent = none)
    (alive : ∀ x ∈ rest, 0 < x.refcount) :
    (∃ q, Invariant allocSize numPrealloc ({ s with memories := r :: rest }.rootUnref r) q) ∧
      Alive ({ s with memories := r :: rest }.rootUnref r) := by
  have hs : ({ s with memories := r :: rest } : State).replace r
      { r with refcount := r.refcount - 1 } = s := by
    cases s
    simp [State.replace, ← hm]
  simp only [State.rootUnref, hs]
  by_cases h0 : r.refcount - 1 = 0
  · rw [if_pos h0]
    refine ⟨h.free_root hm hr h0, ?_⟩
    intro x hx
    rw [allocator_free_memories, hm, List.erase_cons_head] at hx
    exact alive x hx
  · rw [if_neg h0]
    refine ⟨⟨p, h⟩, ?_⟩
    intro x hx
    rw [hm] at hx
    rcases List.mem_cons.mp hx with rfl | hx
    · exact Nat.pos_of_ne_zero h0
    · exact alive x hx

theorem Invariant.drop_share (h : Invariant allocSize numPrealloc s p) {a : ℕ}
    (hm : s.memories = m :: rest) (hp : m.parent = some a) (h0 : m.refcount = 0)
    (alive : ∀ x ∈ rest, 0 < x.refcount) :
    ∃ r, s.lookup a = some r ∧
      (∃ q, Invariant allocSize numPrealloc ((s.rootUnref r).allocatorFree m) q) ∧
      Alive ((s.rootUnref r).allocatorFree m) := by
  have hc := h.counted
  have hin : m ∈ s.memories := by simp [hm]
  obtain ⟨r, hr, hra, hrp, hrd⟩ := hc.parent m hin a hp
  have hrm : r ≠ m := by
    rintro rfl
    simp [hrp] at hp
  have hrr : r ∈ rest := by
    rw [hm] at hr
    exact (List.mem_cons.mp hr).resolve_left hrm
  refine ⟨r, hra ▸ lookup_of_mem hc hr, ?_⟩
  have hperm : s.memories.Perm (m :: r :: rest.erase r) := by
    rw [hm]
    exact (List.perm_cons_erase hrr).cons m
  have hcp := hc.perm hperm
  have hcount := hcp.refcount m List.mem_cons_self
  have hcountr := hcp.refcount r (by simp)
  rw [shares_of_cons, if_pos (hra ▸ hp)] at hcountr
  have shared : SharedBy m { r with refcount := r.refcount - 1 } r :=
    ⟨hra ▸ hp, hrp, hrd.symm, by omega, by simp only; omega, rfl, rfl, rfl, rfl⟩
  have table := hcp.remove_share shared
  rw [root_unref_free_share hm (by simp [hp]) hrp]
  have hsub : ∀ x ∈ rest.erase r, x ∈ s.memories := by
    intro x hx
    rw [hm]
    exact List.mem_cons_of_mem _ (List.mem_of_mem_erase hx)
  have before : Invariant allocSize numPrealloc
      { s with memories := { r with refcount := r.refcount - 1 } :: rest.erase r } p := by
    apply h.with_memories table
    · refine List.Perm.trans ?_ (root_data_perm hperm).symm
      rw [root_data_cons m, if_neg (by simp [hp]), root_data_cons, root_data_cons]
    · intro x hx
      rcases List.mem_cons.mp hx with rfl | hx
      · exact h.fresh r hr
      · exact h.fresh x (hsub x hx)
    · intro x hx hxp
      rcases List.mem_cons.mp hx with rfl | hx
      · exact h.maxsize r hr hrp
      · exact h.maxsize x (hsub x hx) hxp
  exact before.root_unref rfl hrp fun x hx => alive x (List.mem_of_mem_erase hx)

theorem Invariant.memory_free (h : Invariant allocSize numPrealloc s p)
    (hm : s.memories = m :: rest) (h0 : m.refcount = 0) (alive : ∀ x ∈ rest, 0 < x.refcount) :
    (∃ q, Invariant allocSize numPrealloc (s.memoryFree m) q) ∧ Alive (s.memoryFree m) := by
  unfold State.memoryFree
  cases hp : m.parent with
  | none =>
    refine ⟨h.free_root hm hp h0, ?_⟩
    intro x hx
    rw [Option.bind_none, allocator_free_memories, hm, List.erase_cons_head] at hx
    exact alive x hx
  | some a =>
    obtain ⟨r, hr, hq⟩ := h.drop_share hm hp h0 alive
    rw [Option.bind_some, hr]
    exact hq

theorem Invariant.unref (h : Invariant allocSize numPrealloc s p) (alive : Alive s)
    (hm : m ∈ s.memories) (hh : 0 < m.held) :
    (∃ q, Invariant allocSize numPrealloc ((s.replace m { m with held := m.held - 1 }).memoryUnref
      { m with held := m.held - 1 }) q) ∧
    Alive ((s.replace m { m with held := m.held - 1 }).memoryUnref
      { m with held := m.held - 1 }) := by
  have hpos := alive m hm
  have alive_rest : ∀ x ∈ s.memories.erase m, 0 < x.refcount := fun x hx =>
    alive x (List.mem_of_mem_erase hx)
  generalize hm' : ({ m with refcount := m.refcount - 1, held := m.held - 1 } :
    GstAjaMemory) = m'
  have after : Invariant allocSize numPrealloc (s.replace m m') p := by
    apply h.replace (List.perm_cons_erase hm) rfl (by rw [← hm']; exact ⟨rfl, rfl, rfl, rfl⟩)
    rw [← hm']
    simp only
    omega
  have hunref : (s.replace m { m with held := m.held - 1 }).memoryUnref
      { m with held := m.held - 1 } =
      if m'.refcount = 0 then (s.replace m m').memoryFree m' else s.replace m m' := by
    simp [State.memoryUnref, State.replace, ← hm']
  rw [hunref]
  by_cases h0 : m'.refcount = 0
  · rw [if_pos h0]
    exact after.memory_free rfl h0 alive_rest
  · rw [if_neg h0]
    refine ⟨⟨p, after⟩, ?_⟩
    intro x hx
    rcases List.mem_cons.mp hx with rfl | hx
    · exact Nat.pos_of_ne_zero h0
    · exact alive_rest x hx

theorem Invariant.ref (h : Invariant allocSize numPrealloc s p) (alive : Alive s)
    (hm : m ∈ s.memories) :
    Invariant allocSize numPrealloc
      (s.replace m { m with refcount := m.refcount + 1, held := m.held + 1 }) p ∧
    Alive (s.replace m { m with refcount := m.refcount + 1, held := m.held + 1 }) := by
  constructor
  · refine h.replace (List.perm_cons_erase hm) rfl ⟨rfl, rfl, rfl, rfl⟩ ?_
    simp only
    omega
  · intro x hx
    rcases List.mem_cons.mp hx with rfl | hx
    · exact Nat.succ_pos _
    · exact alive x (List.mem_of_mem_erase hx)

theorem Invariant.share_root (h : Invariant allocSize numPrealloc s p) (hm : m ∈ s.memories) :
    (m.parent.bind s.lookup).getD m ∈ s.memories ∧
      ((m.parent.bind s.lookup).getD m).parent = none := by
  cases hp : m.parent with
  | none => exact ⟨hm, hp⟩
  | some a =>
    obtain ⟨r, hr, hra, hrp, -⟩ := h.counted.parent m hm a hp
    rw [Option.bind_some, ← hra, lookup_of_mem h.counted hr]
    exact ⟨hr, hrp⟩

theorem Invariant.share (h : Invariant allocSize numPrealloc s p) (alive : Alive s)
    (hm : m ∈ s.memories) (offset size : UInt64) :
    Invariant allocSize numPrealloc (s.memoryShare m offset size) p ∧
      Alive (s.memoryShare m offset size) := by
  obtain ⟨hr, hrp⟩ := h.share_root hm
  unfold State.memoryShare
  generalize (m.parent.bind s.lookup).getD m = r at hr hrp
  have hperm := List.perm_cons_erase hr
  have hsub : ∀ x ∈ s.memories.erase r, x ∈ s.memories := fun x hx => List.mem_of_mem_erase hx
  constructor
  · apply h.with_memories
    · apply (h.counted.perm hperm).add_share (r := r)
      · exact ⟨rfl, hrp, rfl, rfl, rfl, rfl, rfl, rfl, rfl⟩
      · intro x hx
        exact h.fresh x (hperm.mem_iff.mpr hx)
    · refine List.Perm.trans ?_ (root_data_perm hperm).symm
      rw [root_data_cons, if_neg (by simp), State.replace, root_data_cons, root_data_cons]
    · intro x hx
      rcases List.mem_cons.mp hx with rfl | hx
      · exact Nat.lt_succ_self _
      rcases List.mem_cons.mp hx with rfl | hx
      · exact (h.fresh r hr).trans (Nat.lt_succ_self _)
      · exact (h.fresh x (hsub x hx)).trans (Nat.lt_succ_self _)
    · intro x hx hxp
      rcases List.mem_cons.mp hx with rfl | hx
      · cases hxp
      rcases List.mem_cons.mp hx with rfl | hx
      · exact h.maxsize r hr hrp
      · exact h.maxsize x (hsub x hx) hxp
  · intro x hx
    rcases List.mem_cons.mp hx with rfl | hx
    · exact Nat.one_pos
    rcases List.mem_cons.mp hx with rfl | hx
    · exact Nat.succ_pos _
    · exact alive x (hsub x hx)

theorem allocator_alloc_memories {size : UInt64} {params : GstAllocationParams} {block : ℕ}
    {t : State} (ht : s.allocatorAlloc size params block = some t) :
    ∃ m, t.memories = m :: s.memories ∧ m.refcount = 1 := by
  unfold State.allocatorAlloc State.memoryNewBlock at ht
  split at ht
  swap
  · cases ht
  split at ht
  swap
  · cases ht
  dsimp only at ht
  split at ht <;> cases ht <;> exact ⟨_, rfl, rfl⟩

/-! ## Runs -/

theorem with_held_cases {a : ℕ} {f : GstAjaMemory → State} {t : State}
    (ht : s.withHeld a f = some t) : ∃ m ∈ s.memories, 0 < m.held ∧ t = f m := by
  obtain ⟨m, hm, ht⟩ := Option.bind_eq_some_iff.mp ht
  split at ht
  · exact ⟨m, List.mem_of_find?_eq_some hm, ‹_›, (Option.some.inj ht).symm⟩
  · cases ht

/-! ### Where the memories after a call come from -/

structure SameRange (m m' : GstAjaMemory) : Prop extends SameBlock m m' where
  offset : m'.offset = m.offset
  size : m'.size = m.size

theorem SameRange.refl (m : GstAjaMemory) : SameRange m m := ⟨⟨rfl, rfl, rfl, rfl⟩, rfl, rfl⟩

theorem SameRange.trans {a b c : GstAjaMemory} (h : SameRange a b) (k : SameRange b c) :
    SameRange a c :=
  ⟨⟨k.address.trans h.address, k.parent.trans h.parent, k.data.trans h.data,
    k.maxsize.trans h.maxsize⟩, k.offset.trans h.offset, k.size.trans h.size⟩

inductive Origin (s : State) : Event → GstAjaMemory → Prop where
  | kept {e m n} : m ∈ s.memories → SameRange m n → Origin s e n
  | allocated {size params block n} : n.address = s.nextAddress → n.parent = none →
      n.maxsize = s.alloc.allocSize → n.offset = 0 → n.size = n.maxsize →
      Origin s (.alloc size params block) n
  | shared {a offset size m n} : s.lookup a = some m →
      (s.memoryShare m offset size).memories.head? = some n → Origin s (.share a offset size) n

def KeepsRanges (s t : State) : Prop := ∀ n ∈ t.memories, ∃ m ∈ s.memories, SameRange m n

variable {t u : State} {n : GstAjaMemory}

theorem KeepsRanges.trans (h : KeepsRanges s t) (k : KeepsRanges t u) : KeepsRanges s u := by
  intro n hn
  obtain ⟨m, hm, hmn⟩ := k n hn
  obtain ⟨l, hl, hlm⟩ := h m hm
  exact ⟨l, hl, hlm.trans hmn⟩

theorem keeps_ranges_replace (hm : m ∈ s.memories) (hn : SameRange m n) :
    KeepsRanges s (s.replace m n) := by
  intro x hx
  rcases List.mem_cons.mp hx with rfl | hx
  · exact ⟨m, hm, hn⟩
  · exact ⟨x, List.mem_of_mem_erase hx, .refl x⟩

theorem keeps_ranges_free (s : State) (m : GstAjaMemory) :
    KeepsRanges s (s.allocatorFree m) := by
  intro x hx
  rw [allocator_free_memories] at hx
  exact ⟨x, List.mem_of_mem_erase hx, .refl x⟩

theorem keeps_ranges_root_unref (hm : m ∈ s.memories) : KeepsRanges s (s.rootUnref m) := by
  have hr : KeepsRanges s (s.replace m { m with refcount := m.refcount - 1 }) :=
    keeps_ranges_replace hm ⟨⟨rfl, rfl, rfl, rfl⟩, rfl, rfl⟩
  unfold State.rootUnref
  dsimp only
  split
  · exact hr.trans (keeps_ranges_free _ _)
  · exact hr

theorem keeps_ranges_unref (hm : m ∈ s.memories) : KeepsRanges s (s.memoryUnref m) := by
  have hr : KeepsRanges s (s.replace m { m with refcount := m.refcount - 1 }) :=
    keeps_ranges_replace hm ⟨⟨rfl, rfl, rfl, rfl⟩, rfl, rfl⟩
  unfold State.memoryUnref
  dsimp only
  split
  · refine hr.trans ?_
    unfold State.memoryFree
    split
    case h_1 r hlookup =>
      obtain ⟨a, -, ha⟩ := Option.bind_eq_some_iff.mp hlookup
      exact (keeps_ranges_root_unref (List.mem_of_find?_eq_some ha)).trans
        (keeps_ranges_free _ _)
    case h_2 => exact keeps_ranges_free _ _
  · exact hr

theorem alloc_origin {size : UInt64} {params : GstAllocationParams} {block : ℕ}
    (hs : s.next (.alloc size params block) = some t) (hn : n ∈ t.memories) :
    Origin s (.alloc size params block) n := by
  obtain ⟨-, ht⟩ := Option.ite_none_right_eq_some.mp hs
  obtain ⟨-, ht⟩ := Option.ite_none_right_eq_some.mp ht
  obtain ⟨hsize, ht⟩ := Option.ite_none_right_eq_some.mp ht
  dsimp only at ht
  split at ht <;> cases ht <;> rcases List.mem_cons.mp hn with rfl | hn
  · exact .allocated rfl rfl hsize rfl rfl
  · exact .kept hn (.refl n)
  · exact .allocated rfl rfl hsize rfl rfl
  · exact .kept hn (.refl n)

theorem share_origin {a : ℕ} {offset size : UInt64}
    (hs : s.next (.share a offset size) = some t) (hn : n ∈ t.memories) :
    Origin s (.share a offset size) n := by
  obtain ⟨m, hm, ht⟩ := Option.bind_eq_some_iff.mp hs
  obtain ⟨-, ht⟩ := Option.ite_none_right_eq_some.mp ht
  cases ht
  have hparent : (m.parent.bind s.lookup).getD m ∈ s.memories := by
    cases hp : m.parent.bind s.lookup with
    | none => exact List.mem_of_find?_eq_some hm
    | some r =>
      obtain ⟨b, -, hb⟩ := Option.bind_eq_some_iff.mp hp
      exact List.mem_of_find?_eq_some hb
  rcases List.mem_cons.mp hn with rfl | hn
  · exact .shared hm rfl
  rcases List.mem_cons.mp hn with rfl | hn
  · exact .kept hparent ⟨⟨rfl, rfl, rfl, rfl⟩, rfl, rfl⟩
  · exact .kept (List.mem_of_mem_erase hn) (.refl n)

theorem next_origin {e : Event} (hs : s.next e = some t) (hn : n ∈ t.memories) :
    Origin s e n := by
  have kept : KeepsRanges s t → Origin s e n := by
    intro h
    obtain ⟨m, hm, hmn⟩ := h n hn
    exact .kept hm hmn
  cases e with
  | alloc size params block => exact alloc_origin hs hn
  | ref a =>
    obtain ⟨m, hm, -, rfl⟩ := with_held_cases hs
    exact kept (keeps_ranges_replace hm ⟨⟨rfl, rfl, rfl, rfl⟩, rfl, rfl⟩)
  | unref a =>
    obtain ⟨m, hm, -, rfl⟩ := with_held_cases hs
    have hr : KeepsRanges s (s.replace m { m with held := m.held - 1 }) :=
      keeps_ranges_replace hm ⟨⟨rfl, rfl, rfl, rfl⟩, rfl, rfl⟩
    exact kept (hr.trans (keeps_ranges_unref List.mem_cons_self))
  | share a offset size => exact share_origin hs hn
  | copy a offset size =>
    obtain ⟨m, -, -, rfl⟩ := with_held_cases hs
    exact kept fun x hx => ⟨x, hx, .refl x⟩

/-! ### The invariant -/

theorem Invariant.next (h : Invariant allocSize numPrealloc s p) (alive : Alive s) {e : Event}
    (ht : s.next e = some t) : (∃ q, Invariant allocSize numPrealloc t q) ∧ Alive t := by
  cases e with
  | alloc size params block =>
    simp only [State.next] at ht
    split at ht
    · rename_i hb
      refine ⟨h.allocator_alloc hb.1 hb.2 ht, ?_⟩
      obtain ⟨m, hm, hr⟩ := allocator_alloc_memories ht
      intro x hx
      rw [hm] at hx
      rcases List.mem_cons.mp hx with rfl | hx
      · omega
      · exact alive x hx
    · cases ht
  | ref a =>
    obtain ⟨m, hm, -, rfl⟩ := with_held_cases ht
    have := h.ref alive hm
    exact ⟨⟨p, this.1⟩, this.2⟩
  | unref a =>
    obtain ⟨m, hm, hh, rfl⟩ := with_held_cases ht
    exact h.unref alive hm hh
  | share a offset size =>
    obtain ⟨m, hm, -, rfl⟩ := with_held_cases ht
    have := h.share alive hm offset size
    exact ⟨⟨p, this.1⟩, this.2⟩
  | copy a offset size =>
    obtain ⟨m, -, -, rfl⟩ := with_held_cases ht
    exact ⟨⟨p, h⟩, alive⟩

theorem preallocate_eq (s : State) (blocks : List ℕ) :
    s.preallocate blocks = { s with
      calls := s.calls ++ blocks.flatMap (lockBlock s.alloc.allocSize)
      alloc := { s.alloc with freeList := s.alloc.freeList ++ blocks } } := by
  induction blocks generalizing s with
  | nil => simp [State.preallocate]
  | cons b bs ih =>
    rw [State.preallocate, ih]
    simp

theorem invariant_new {blocks : List ℕ} (hd : blocks.Nodup) (h0 : 0 ∉ blocks) :
    Invariant allocSize blocks.length (gstAjaAllocatorNew allocSize blocks.length blocks)
      (preallocated blocks) := by
  unfold gstAjaAllocatorNew
  rw [preallocate_eq]
  constructor
  case counted => exact ⟨List.nodup_nil, by simp, by simp⟩
  case balanced => exact preallocated_balanced hd
  case not_null => simpa [preallocated, Pool.owned] using h0
  case calls => simp [preallocated, deviceCalls, List.flatMap_map]
  all_goals simp [preallocated, rootData]

theorem reachable_invariant (h : Reachable (allocator allocSize numPrealloc) s) :
    (∃ p, Invariant allocSize numPrealloc s p) ∧ Alive s := by
  refine h.invariant (I := fun s => (∃ p, Invariant allocSize numPrealloc s p) ∧ Alive s) ?_ ?_
  · rintro i ⟨blocks, rfl, hd, h0, rfl⟩
    refine ⟨⟨_, invariant_new hd h0⟩, ?_⟩
    intro x hx
    simp [gstAjaAllocatorNew, preallocate_eq] at hx
  · rintro a e b ⟨⟨p, hp⟩, ha⟩ - hn
    exact hp.next ha hn

end Steps

/-! ## The account of every block -/

def callsOn (calls : List DeviceCall) (b : ℕ) : List DeviceCall :=
  calls.filter fun c => c.block = b

def roundTrips (allocSize : UInt64) (b n : ℕ) : List DeviceCall :=
  (List.replicate n (lockBlock allocSize b ++ unlockBlock allocSize b)).flatten

structure Accounting (allocSize : UInt64) (numPrealloc : ℕ) (s : State) : Prop where
  num_allocated : s.alloc.numAllocated =
    s.alloc.freeList.length + (s.memories.filter fun m => m.parent = none).length
  distinct : s.blocks.Nodup
  shares_live : ∀ m ∈ s.memories, ∀ a, m.parent = some a →
    ∃ r ∈ s.memories, r.address = a ∧ r.parent = none ∧ r.data = m.data
  at_least : numPrealloc ≤ s.alloc.numAllocated
  free_list : s.alloc.freeList.length ≤ max 8 numPrealloc
  locked : ∀ b, ∃ n, callsOn s.calls b =
    roundTrips allocSize b n ++ if b ∈ s.blocks then lockBlock allocSize b else []
  share_freed : ∀ m, m.parent ≠ none →
    (s.allocatorFree m).calls = s.calls ∧ (s.allocatorFree m).alloc = s.alloc
  finalized : s.memories = [] → s.finalize.alloc.freeList = [] ∧
    ∀ b, ∃ n, callsOn s.finalize.calls b = roundTrips allocSize b n

theorem calls_on_flat_map (allocSize : UInt64) (c : List (Change ℕ)) (b : ℕ) :
    callsOn (c.flatMap (deviceCalls allocSize)) b =
      (changesOf c b).flatMap (deviceCalls allocSize) := by
  induction c with
  | nil => rfl
  | cons x c ih =>
    have hx : ∀ y ∈ deviceCalls allocSize x, y.block = x.block := by
      cases x <;> simp [deviceCalls, lockBlock, unlockBlock, DeviceCall.block]
    have hf : (deviceCalls allocSize x).filter (fun y => y.block = b) =
        if x.block = b then deviceCalls allocSize x else [] := by
      by_cases hb : x.block = b
      · rw [if_pos hb, List.filter_eq_self]
        intro y hy
        simp [hx y hy, hb]
      · rw [if_neg hb, List.filter_eq_nil_iff]
        intro y hy
        simp [hx y hy, hb]
    unfold callsOn changesOf at *
    rw [List.flatMap_cons, List.filter_append, ih, hf, List.filter_cons]
    by_cases hb : x.block = b <;> simp [hb]

theorem rounds_flat_map (allocSize : UInt64) (b n : ℕ) :
    (rounds b n).flatMap (deviceCalls allocSize) = roundTrips allocSize b n := by
  induction n with
  | zero => rfl
  | succ n ih =>
    rw [rounds_succ, List.flatMap_append, ih, roundTrips, roundTrips, List.replicate_succ',
      List.flatten_append]
    simp [deviceCalls]

theorem finalize_loop_eq (s : State) {q : List ℕ} (hq : s.alloc.freeList = q) (h0 : 0 ∉ q) :
    s.finalizeLoop q = { s with
      alloc := { s.alloc with freeList := [] }
      calls := s.calls ++ q.flatMap (unlockBlock s.alloc.allocSize) } := by
  induction q generalizing s with
  | nil =>
    obtain ⟨⟨_, _, _, _⟩, _, _, _⟩ := s
    cases hq
    simp [State.finalizeLoop]
  | cons b q ih =>
    have hb : b ≠ 0 := by
      rintro rfl
      simp at h0
    rw [State.finalizeLoop, if_neg hb, ih _ rfl (fun h => h0 (List.mem_cons_of_mem _ h))]
    simp

theorem Invariant.finalized {allocSize : UInt64} {numPrealloc : ℕ} {s : State} {p : Pool ℕ}
    (h : Invariant allocSize numPrealloc s p) (hm : s.memories = []) :
    s.finalize.alloc.freeList = [] ∧
      ∀ b, ∃ n, callsOn s.finalize.calls b = roundTrips allocSize b n := by
  have hnull : 0 ∉ s.alloc.freeList := by
    have := h.not_null
    rw [Pool.owned, h.idle, h.used] at this
    simp only [Multiset.coe_add, Multiset.mem_coe, List.mem_append, not_or] at this
    exact this.1
  have hu : p.used = 0 := by
    rw [h.used, hm]
    rfl
  rw [State.finalize, finalize_loop_eq s rfl hnull]
  refine ⟨rfl, fun b => ?_⟩
  obtain ⟨n, hn⟩ := drained_rounds h.balanced hu b
  refine ⟨n, ?_⟩
  rw [← rounds_flat_map, ← hn, ← calls_on_flat_map, Pool.drained, h.calls, h.alloc_size, h.idle,
    List.flatMap_append, List.flatMap_map]
  rfl

/-- The allocator loses no block, hands none out twice and keeps no more than it should. -/
theorem allocator_accounting (allocSize : UInt64) (numPrealloc : ℕ) {s : State}
    (h : Reachable (allocator allocSize numPrealloc) s) : Accounting allocSize numPrealloc s := by
  obtain ⟨⟨p, hp⟩, -⟩ := reachable_invariant h
  have hb := hp.balanced
  constructor
  · rw [← hp.num_allocated, hb.count, hp.owned, Multiset.coe_card, State.blocks,
      List.length_append, rootData, List.length_map]
  · rw [← Multiset.coe_nodup, ← hp.owned]
    exact hb.distinct
  · exact hp.counted.parent
  · rw [← hp.num_allocated]
    exact hb.floor_le
  · rw [← hp.idle]
    exact hb.idle_le
  · intro b
    obtain ⟨n, hn⟩ := hb.changes b
    refine ⟨n, ?_⟩
    rw [hp.calls, calls_on_flat_map, hn, List.flatMap_append, rounds_flat_map, hp.owned]
    by_cases hb : b ∈ s.blocks <;> simp [hb, deviceCalls]
  · intro m hm
    simp [State.allocatorFree, hm]
  · exact hp.finalized

def traceParams : GstAllocationParams := ⟨0, 0, 0⟩

theorem created_one : Created 64 1 (gstAjaAllocatorNew 64 1 [4096]) :=
  ⟨[4096], rfl, by decide, by decide, rfl⟩

/-- A share outlives the reference to its root, and both root memories are freed. -/
theorem accounting_after_share :
    ∃ s, Accounting 64 1 s ∧ s.alloc.freeList = [4096, 8192] ∧ s.memories = [] := by
  obtain ⟨s, hs, hp⟩ := reachable_of_trace (m := allocator 64 1)
    (l := [.alloc 64 traceParams 16384, .alloc 64 traceParams 8192, .share 0 8 (-1), .unref 0,
      .copy 2 0 (-1), .unref 2, .unref 1])
    (p := fun s => decide (s.alloc.freeList = [4096, 8192] ∧ s.memories = [])) created_one
    (by decide +kernel)
  exact ⟨s, allocator_accounting 64 1 hs, of_decide_eq_true hp⟩

end AjaAllocatorAccounting
