import NTV2Gst.AjaAllocatorAccounting

/-!
# Buffers on their way back to the pool

The worker crops the buffers it fills. A released buffer is reset to its full size, and the
tag that its memory was touched is taken off, before the parent class decides whether it goes
back into the pool. Whether the parent's own reset gives an untagged buffer its full size
back depends on the library and is a parameter, and so is whether the memories are held by
nobody else, which the parent's release asks for.
-/
namespace AjaBufferPool

open AjaAllocator AjaAllocatorAccounting TransitionRuns

/-- `gst_memory_resize`; the offset is added in 64 bits. -/
def resizeMemory (m : GstAjaMemory) (offset size : UInt64) : GstAjaMemory :=
  { m with offset := m.offset + offset, size := size }

/-- `qdata` tells whether the capture record is still attached. -/
structure GstBuffer where
  memories : List GstAjaMemory
  tagMemory : Bool
  qdata : Bool
  deriving DecidableEq, Repr

structure Sizes where
  size : UInt64
  offset : UInt64
  maxsize : UInt64
  deriving DecidableEq, Repr

/-- The space before and behind the data of several memories counts as room too. -/
def addSizes (r : Sizes × UInt64) (m : GstAjaMemory) : Sizes × UInt64 :=
  if m.size = 0 then (r.1, r.2 + m.maxsize)
  else
    ({ r.1 with
      size := r.1.size + m.size
      offset := if r.1.size = 0 then r.2 + m.offset else r.1.offset },
      m.maxsize - (m.offset + m.size))

def getSizes : List GstAjaMemory → Sizes
  | [m] => ⟨m.size, m.offset, m.maxsize⟩
  | memories =>
    let r := memories.foldl addSizes (⟨0, 0, 0⟩, 0)
    { r.1 with maxsize := r.1.offset + r.1.size + r.2 }

/-- A memory before the offset is emptied and keeps its own; the last one takes all of the size
that is left. -/
def resizeMemories : List GstAjaMemory → UInt64 → UInt64 → List GstAjaMemory
  | [], _, _ => []
  | [m], offset, size => [resizeMemory m offset size]
  | m :: memories, offset, size =>
    if m.size.toInt64 ≤ offset.toInt64 then
      resizeMemory m 0 0 :: resizeMemories memories (offset - m.size) size
    else
      let left := min (m.size - offset) size
      resizeMemory m offset left :: resizeMemories memories 0 (size - left)

def GstBuffer.resize (b : GstBuffer) (offset size : UInt64) : GstBuffer :=
  { b with memories := resizeMemories b.memories offset size }

structure GstAjaBufferPool where
  isVideo : Bool
  size : UInt32
  deriving DecidableEq, Repr

def GstAjaBufferPool.fullSize (pool : GstAjaBufferPool) : UInt64 := pool.size.toUInt64

/-! ## Reset and release -/

/-- What `reset_buffer` of the pool does before it calls the parent's. -/
def GstAjaBufferPool.restore (pool : GstAjaBufferPool) (b : GstBuffer) : GstBuffer :=
  let sizes := getSizes b.memories
  let r :=
    if sizes.size ≠ pool.fullSize ∧ pool.fullSize < sizes.maxsize then
      (b.resize (-sizes.offset) pool.fullSize, pool.fullSize)
    else (b, sizes.size)
  if r.2 = pool.fullSize ∧ r.1.memories.length = 1 then { r.1 with tagMemory := false } else r.1

/-- The parent's reset keeps the tag of all flags. -/
def GstAjaBufferPool.parentReset (pool : GstAjaBufferPool) (restores : Bool) (b : GstBuffer) :
    GstBuffer :=
  if restores && !b.tagMemory then b.resize (-(getSizes b.memories).offset) pool.fullSize else b

def GstAjaBufferPool.resetBuffer (pool : GstAjaBufferPool) (restores : Bool) (b : GstBuffer) :
    GstBuffer :=
  pool.parentReset restores (pool.restore b)

/-- `release_buffer` tags a buffer that has lost its record; the parent's puts a buffer back
if it is untagged, has the size of the pool and all its memory is writable, and frees any
other. -/
def GstAjaBufferPool.releaseBuffer (pool : GstAjaBufferPool) (writable : Bool) (b : GstBuffer) :
    Option GstBuffer :=
  let b := { b with tagMemory := b.tagMemory || !b.qdata }
  if b.tagMemory = false ∧ (getSizes b.memories).size = pool.fullSize ∧ writable = true then
    some b
  else none

structure FullSize (pool : GstAjaBufferPool) (b : GstBuffer) : Prop where
  offset : (getSizes b.memories).offset = 0
  size : (getSizes b.memories).size = pool.fullSize
  untagged : b.tagMemory = false

/-- A returned buffer is whole again, and back in the pool if it has kept its record and its
memory is nobody else's. -/
structure Regains (pool : GstAjaBufferPool) (restores : Bool) (b : GstBuffer) : Prop where
  full_size : FullSize pool (pool.resetBuffer restores b)
  put_back : b.qdata = true →
    pool.releaseBuffer true (pool.resetBuffer restores b) = some (pool.resetBuffer restores b)

def cropped (m : GstAjaMemory) (offset size : UInt64) : GstAjaMemory :=
  { m with offset := offset, size := size }

/-! ## The memories of the allocator -/

/-- Every memory of the allocator, shares included, has room for one block. -/
structure OneSize (allocSize : UInt64) (s : State) : Prop where
  alloc_size : s.alloc.allocSize = allocSize
  maxsize : ∀ m ∈ s.memories, m.maxsize = allocSize

section Allocator

variable {allocSize : UInt64} {numPrealloc : ℕ} {s : State}

theorem one_size_of_reachable (h : Reachable (allocator allocSize numPrealloc) s) :
    OneSize allocSize s := by
  have hboth : ((∃ p, Invariant allocSize numPrealloc s p) ∧ Alive s) ∧ OneSize allocSize s := by
    refine h.invariant (I := fun s =>
      ((∃ p, Invariant allocSize numPrealloc s p) ∧ Alive s) ∧ OneSize allocSize s) ?_ ?_
    · intro i hi
      refine ⟨reachable_invariant ⟨i, hi, .refl i⟩, ?_⟩
      obtain ⟨blocks, -, -, -, rfl⟩ := hi
      rw [gstAjaAllocatorNew, preallocate_eq]
      exact ⟨rfl, by simp⟩
    · rintro s e t ⟨⟨⟨p, hp⟩, ha⟩, ho⟩ - hn
      obtain ⟨⟨q, hq⟩, hb⟩ := hp.next ha hn
      refine ⟨⟨⟨q, hq⟩, hb⟩, hq.alloc_size, ?_⟩
      intro n hmem
      cases next_origin hn hmem with
      | kept hm hmn => exact hmn.maxsize.trans (ho.maxsize _ hm)
      | allocated _ _ hmax => exact hmax.trans hp.alloc_size
      | shared hm hhead =>
        have hmax := ho.maxsize _ (List.mem_of_find?_eq_some hm)
        obtain rfl := Option.some.inj hhead
        exact hmax
  exact hboth.2

end Allocator

/-! ## The reset of one memory -/

section Reset

variable (pool : GstAjaBufferPool) {m : GstAjaMemory}

theorem restore_of_le (hm : m.maxsize ≤ pool.fullSize) (tag qdata : Bool) :
    pool.restore ⟨[m], tag, qdata⟩ =
      ⟨[m], tag && decide (m.size ≠ pool.fullSize), qdata⟩ := by
  have hlt : ¬ pool.fullSize < m.maxsize := UInt64.not_lt.mpr hm
  by_cases hsize : m.size = pool.fullSize
  · simp [GstAjaBufferPool.restore, getSizes, hsize]
  · simp [GstAjaBufferPool.restore, getSizes, hsize, hlt]

theorem restore_of_lt (hm : pool.fullSize < m.maxsize) (tag qdata : Bool) :
    (pool.restore ⟨[m], tag, qdata⟩).tagMemory = false := by
  by_cases hsize : m.size = pool.fullSize
  · simp [GstAjaBufferPool.restore, getSizes, hsize]
  · simp [GstAjaBufferPool.restore, getSizes, hsize, hm, GstBuffer.resize, resizeMemories]

theorem parent_reset_tag (restores : Bool) (b : GstBuffer) :
    (pool.parentReset restores b).tagMemory = b.tagMemory := by
  unfold GstAjaBufferPool.parentReset
  split <;> rfl

theorem parent_reset_qdata (restores : Bool) (b : GstBuffer) :
    (pool.parentReset restores b).qdata = b.qdata := by
  unfold GstAjaBufferPool.parentReset
  split <;> rfl

theorem release_full {b : GstBuffer} (hf : FullSize pool b) (hq : b.qdata = true) :
    pool.releaseBuffer true b = some b := by
  obtain ⟨memories, tag, qdata⟩ := b
  obtain ⟨-, hsize, rfl⟩ := hf
  cases hq
  simp [GstAjaBufferPool.releaseBuffer, hsize]

theorem parent_reset_restores (m : GstAjaMemory) (qdata : Bool) :
    FullSize pool (pool.parentReset true ⟨[m], false, qdata⟩) where
  offset := UInt64.add_right_neg m.offset
  size := rfl
  untagged := parent_reset_tag ..

theorem parent_reset_keeps {restores : Bool} {b : GstBuffer}
    (h : restores = false ∨ b.tagMemory = true) : pool.parentReset restores b = b := by
  unfold GstAjaBufferPool.parentReset
  rcases h with h | h <;> simp [h]

theorem full_size_iff (hm : m.maxsize = pool.fullSize)
    (hfit : m.size = pool.fullSize → m.offset = 0) (restores tag qdata : Bool) :
    FullSize pool (pool.resetBuffer restores ⟨[m], tag, qdata⟩) ↔
      m.size = pool.fullSize ∨ (tag = false ∧ restores = true) := by
  rw [GstAjaBufferPool.resetBuffer, restore_of_le pool (UInt64.le_of_eq hm)]
  constructor
  · intro h
    by_contra hc
    obtain ⟨hsize, hp⟩ := not_or.mp hc
    have htag : (tag && decide (m.size ≠ pool.fullSize)) = tag := by simp [hsize]
    rw [htag, parent_reset_keeps] at h
    · exact hsize h.size
    · cases tag <;> cases restores <;> simp_all
  · rintro (hsize | ⟨rfl, rfl⟩)
    · have htag : (tag && decide (m.size ≠ pool.fullSize)) = false := by simp [hsize]
      rw [htag]
      cases restores
      · rw [parent_reset_keeps pool (Or.inl rfl)]
        exact ⟨hfit hsize, hsize, rfl⟩
      · exact parent_reset_restores pool m qdata
    · exact parent_reset_restores pool m qdata

end Reset

/-- A cropped buffer regains its full size only if the parent's reset gives it back, which it
does to untagged buffers. A smaller memory put in the place of the old one stays tagged
unless it has more room than the pool's buffers. -/
theorem regains_full_size_iff (pool : GstAjaBufferPool) (restores : Bool) (numPrealloc : ℕ)
    {s : State} (hs : Reachable (allocator pool.fullSize numPrealloc) s) {m : GstAjaMemory}
    (hm : m ∈ s.memories) (offset size : UInt64)
    (hfit : offset.toNat + size.toNat ≤ pool.fullSize.toNat) (tag qdata : Bool) :
    (Regains pool restores ⟨[cropped m offset size], tag, qdata⟩ ↔
      size = pool.fullSize ∨ (tag = false ∧ restores = true)) ∧
    ∀ other : GstAjaMemory, other.size < pool.fullSize →
      ((pool.resetBuffer restores ⟨[other], true, qdata⟩).tagMemory = true ↔
        other.maxsize ≤ pool.fullSize) := by
  have hmax : (cropped m offset size).maxsize = pool.fullSize :=
    (one_size_of_reachable hs).maxsize m hm
  have hzero : (cropped m offset size).size = pool.fullSize →
      (cropped m offset size).offset = 0 := by
    intro hsize
    have hnat : size.toNat = pool.fullSize.toNat := congrArg UInt64.toNat hsize
    apply UInt64.toNat.inj
    rw [UInt64.toNat_zero]
    change offset.toNat = 0
    omega
  constructor
  · constructor
    · intro h
      exact (full_size_iff pool hmax hzero restores tag qdata).mp h.full_size
    · intro h
      have hf := (full_size_iff pool hmax hzero restores tag qdata).mpr h
      refine ⟨hf, fun hq => release_full pool hf ?_⟩
      rw [GstAjaBufferPool.resetBuffer, parent_reset_qdata,
        restore_of_le pool (UInt64.le_of_eq hmax)]
      exact hq
  · intro other hother
    rw [GstAjaBufferPool.resetBuffer, parent_reset_tag]
    constructor
    · intro htag
      by_contra hle
      rw [restore_of_lt pool (UInt64.not_le.mp hle)] at htag
      cases htag
    · intro hle
      rw [restore_of_le pool hle]
      simp [UInt64.ne_of_lt hother]

theorem one_memory_reachable :
    ∃ s, Reachable (allocator 64 1) s ∧ ∃ m : GstAjaMemory, m ∈ s.memories := by
  obtain ⟨s, hs, hp⟩ := reachable_of_trace (m := allocator 64 1)
    (l := [.alloc 64 traceParams 16384]) (p := fun s => !s.memories.isEmpty) created_one
    (by decide +kernel)
  refine ⟨s, hs, List.exists_mem_of_ne_nil _ ?_⟩
  intro hnil
  simp [hnil] at hp

theorem untagged_regains : ∃ m, Regains ⟨true, 64⟩ true ⟨[cropped m 16 32], false, true⟩ := by
  obtain ⟨s, hs, m, hm⟩ := one_memory_reachable
  exact ⟨m, (regains_full_size_iff ⟨true, 64⟩ true 1 hs hm 16 32 (by decide) false true).1.mpr
    (Or.inr ⟨rfl, rfl⟩)⟩

/-- A tagged buffer with its own memory stays cropped and tagged in any case. -/
theorem tagged_stays_cropped : ¬ ∀ pool restores numPrealloc s m (offset size : UInt64) tag qdata,
    Reachable (allocator (GstAjaBufferPool.fullSize pool) numPrealloc) s → m ∈ s.memories →
    offset.toNat + size.toNat ≤ pool.fullSize.toNat →
    Regains pool restores ⟨[cropped m offset size], tag, qdata⟩ := by
  intro h
  obtain ⟨s, hs, m, hm⟩ := one_memory_reachable
  have hr := h ⟨true, 64⟩ true 1 s m 16 32 true true hs hm (by decide)
  have hmax : (cropped m 16 32).maxsize = 64 := (one_size_of_reachable hs).maxsize m hm
  have hcond := (full_size_iff ⟨true, 64⟩ hmax (fun h => absurd h (by decide : (32 : UInt64) ≠ 64))
    true true true).mp hr.full_size
  rcases hcond with hsize | ⟨htag, -⟩
  · exact absurd hsize (by decide : (32 : UInt64) ≠ 64)
  · cases htag

end AjaBufferPool
