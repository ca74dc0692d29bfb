import Mathlib.Data.List.Nodup
import Mathlib.Algebra.Order.Group.Nat
import NTV2Gst.TransitionRuns

/-!
# The allocator for DMA-locked memory

`GstAjaAllocator` recycles the blocks of freed root memories and hands blocks back to the
system only when enough of them lie idle. Memories are counted by GStreamer: a share
holds a reference to its root. Blocks are addresses, `0` is NULL; `num_allocated` counts
blocks that exist at the same time and is a natural number here.
-/
namespace AjaAllocator

open TransitionRuns

/-- Calls that the allocator makes to the system and to the device. A failed lock is only
logged, so its result is left out. -/
inductive DeviceCall where
  | allocateAligned (size : UInt64) (block : ℕ)
  | dmaBufferLock (block : ℕ) (size : UInt64)
  | dmaBufferUnlock (block : ℕ) (size : UInt64)
  | freeAligned (block : ℕ)
  deriving DecidableEq, Repr

def DeviceCall.block : DeviceCall → ℕ
  | .allocateAligned _ b => b
  | .dmaBufferLock b _ => b
  | .dmaBufferUnlock b _ => b
  | .freeAligned b => b

def lockBlock (size : UInt64) (b : ℕ) : List DeviceCall :=
  [.allocateAligned size b, .dmaBufferLock b size]

def unlockBlock (size : UInt64) (b : ℕ) : List DeviceCall :=
  [.dmaBufferUnlock b size, .freeAligned b]

structure GstAjaAllocator where
  allocSize : UInt64
  numPrealloc : ℕ
  numAllocated : ℕ
  freeList : List ℕ
  deriving DecidableEq, Repr

/-- `held` is the part of the reference count that is not owned by a share. -/
structure GstAjaMemory where
  address : ℕ
  refcount : ℕ
  held : ℕ
  flags : ℕ
  parent : Option ℕ
  maxsize : UInt64
  offset : UInt64
  size : UInt64
  data : ℕ
  deriving DecidableEq, Repr

structure GstAllocationParams where
  flags : ℕ
  prefixSize : UInt64
  padding : UInt64
  deriving DecidableEq, Repr

structure State where
  alloc : GstAjaAllocator
  memories : List GstAjaMemory
  nextAddress : ℕ
  calls : List DeviceCall
  deriving DecidableEq, Repr

/-! ## Creation and allocation -/

def popHead : List ℕ → ℕ × List ℕ
  | [] => (0, [])
  | b :: q => (b, q)

/-- The loop of `gst_aja_allocator_new`, for the blocks that `AllocateAligned` returns. -/
def State.preallocate (s : State) : List ℕ → State
  | [] => s
  | b :: bs =>
    { s with
      calls := s.calls ++ lockBlock s.alloc.allocSize b
      alloc := { s.alloc with freeList := s.alloc.freeList ++ [b] } }.preallocate bs

def gstAjaAllocatorNew (allocSize : UInt64) (numPrealloc : ℕ) (blocks : List ℕ) : State :=
  let s := State.preallocate ⟨⟨allocSize, numPrealloc, 0, []⟩, [], 0, []⟩ blocks
  { s with alloc := { s.alloc with numAllocated := s.alloc.numPrealloc } }

def State.memoryNew (s : State) (flags : ℕ) (parent : Option ℕ) (data : ℕ)
    (maxsize offset size : UInt64) : State :=
  { s with
    memories := ⟨s.nextAddress, 1, 1, flags, parent, maxsize, offset, size, data⟩ :: s.memories
    nextAddress := s.nextAddress + 1 }

/-- `block` is what `AllocateAligned` returns if it is called. -/
def State.memoryNewBlock (s : State) (flags : ℕ) (maxsize offset size : UInt64) (block : ℕ) :
    Option State :=
  if maxsize = s.alloc.allocSize then
    let (data, q) := popHead s.alloc.freeList
    if data = 0 then
      some ({ s with
        alloc := { s.alloc with freeList := q, numAllocated := s.alloc.numAllocated + 1 }
        calls := s.calls ++ lockBlock s.alloc.allocSize block }.memoryNew
          flags none block maxsize offset size)
    else
      some ({ s with alloc := { s.alloc with freeList := q } }.memoryNew
        flags none data maxsize offset size)
  else none

def State.allocatorAlloc (s : State) (size : UInt64) (params : GstAllocationParams) (block : ℕ) :
    Option State :=
  if params.prefixSize = 0 ∧ params.padding = 0 then
    s.memoryNewBlock params.flags size 0 size block
  else none

/-! ## Freeing, sharing and copying -/

def State.replace (s : State) (m m' : GstAjaMemory) : State :=
  { s with memories := m' :: s.memories.erase m }

def State.allocatorFree (s : State) (m : GstAjaMemory) : State :=
  let s' := { s with memories := s.memories.erase m }
  if m.parent = none then
    if 8 ≤ s.alloc.freeList.length ∧ s.alloc.numPrealloc < s.alloc.numAllocated then
      { s' with
        alloc := { s.alloc with numAllocated := s.alloc.numAllocated - 1 }
        calls := s.calls ++ unlockBlock m.maxsize m.data }
    else { s' with alloc := { s.alloc with freeList := s.alloc.freeList ++ [m.data] } }
  else s'

def State.finalizeLoop (s : State) : List ℕ → State
  | [] => s
  | b :: q =>
    if b = 0 then { s with alloc := { s.alloc with freeList := q } }
    else { s with
      alloc := { s.alloc with freeList := q }
      calls := s.calls ++ unlockBlock s.alloc.allocSize b }.finalizeLoop q

def State.finalize (s : State) : State := s.finalizeLoop s.alloc.freeList

def State.lookup (s : State) (a : ℕ) : Option GstAjaMemory :=
  s.memories.find? fun m => m.address = a

def State.rootUnref (s : State) (m : GstAjaMemory) : State :=
  let m' := { m with refcount := m.refcount - 1 }
  if m'.refcount = 0 then (s.replace m m').allocatorFree m' else s.replace m m'

/-- `_gst_memory_free`: a share gives up its parent first, which is never itself a share. -/
def State.memoryFree (s : State) (m : GstAjaMemory) : State :=
  match m.parent.bind s.lookup with
  | some parent => (s.rootUnref parent).allocatorFree m
  | none => s.allocatorFree m

def State.memoryUnref (s : State) (m : GstAjaMemory) : State :=
  let m' := { m with refcount := m.refcount - 1 }
  if m'.refcount = 0 then (s.replace m m').memoryFree m' else s.replace m m'

def lockReadonly : ℕ := 2

/-- A size of -1 stands for the rest of the memory. The new memory takes a reference to
the root. -/
def State.memoryShare (s : State) (m : GstAjaMemory) (offset size : UInt64) : State :=
  let parent := (m.parent.bind s.lookup).getD m
  let size := if size = -1 then m.size - offset else size
  (s.replace parent { parent with refcount := parent.refcount + 1 }).memoryNew
    (parent.flags ||| lockReadonly) (some parent.address) parent.data m.maxsize
    (m.offset + offset) size

/-- A copy lives in system memory; its size is returned. -/
def State.memoryCopy (s : State) (m : GstAjaMemory) (offset size : UInt64) : State × UInt64 :=
  (s, if size = -1 then if offset < m.size then m.size - offset else 0 else size)

/-! ## The machine -/

inductive Event where
  | alloc (size : UInt64) (params : GstAllocationParams) (block : ℕ)
  | ref (a : ℕ)
  | unref (a : ℕ)
  | share (a : ℕ) (offset size : UInt64)
  | copy (a : ℕ) (offset size : UInt64)
  deriving DecidableEq, Repr

def rootData (l : List GstAjaMemory) : List ℕ :=
  (l.filter fun m => m.parent = none).map (·.data)

def State.blocks (s : State) : List ℕ := s.alloc.freeList ++ rootData s.memories

def State.withHeld (s : State) (a : ℕ) (f : GstAjaMemory → State) : Option State :=
  (s.lookup a).bind fun m => if 0 < m.held then some (f m) else none

/-- `AllocateAligned` returns a fresh block. A failed assertion ends the process. -/
def State.next (s : State) : Event → Option State
  | .alloc size params block =>
    if block ≠ 0 ∧ block ∉ s.blocks then s.allocatorAlloc size params block else none
  | .ref a => s.withHeld a fun m =>
      s.replace m { m with refcount := m.refcount + 1, held := m.held + 1 }
  | .unref a => s.withHeld a fun m =>
      let m' := { m with held := m.held - 1 }
      (s.replace m m').memoryUnref m'
  | .share a offset size => s.withHeld a fun m => s.memoryShare m offset size
  | .copy a offset size => s.withHeld a fun m => (s.memoryCopy m offset size).1

structure Created (allocSize : UInt64) (numPrealloc : ℕ) (s : State) : Prop where
  new : ∃ blocks : List ℕ, blocks.length = numPrealloc ∧ blocks.Nodup ∧ 0 ∉ blocks ∧
    s = gstAjaAllocatorNew allocSize numPrealloc blocks

def allocator (allocSize : UInt64) (numPrealloc : ℕ) : Machine State Event where
  initial := Created allocSize numPrealloc
  next := State.next

/-! ## Reference counts -/

def sharesOf (l : List GstAjaMemory) (a : ℕ) : ℕ := l.countP fun m => m.parent = some a

/-- Every reference is held by the application or by a share, and every share has the block
of a live root. -/
structure Counted (l : List GstAjaMemory) : Prop where
  addresses : (l.map (·.address)).Nodup
  refcount : ∀ m ∈ l, m.refcount = m.held + sharesOf l m.address
  parent : ∀ m ∈ l, ∀ a, m.parent = some a →
    ∃ r ∈ l, r.address = a ∧ r.parent = none ∧ r.data = m.data

section Table

variable {l rest : List GstAjaMemory} {m m' r r' : GstAjaMemory}

theorem shares_of_perm (h : l.Perm rest) (a : ℕ) : sharesOf l a = sharesOf rest a :=
  h.countP_eq _

theorem shares_of_cons (m : GstAjaMemory) (l : List GstAjaMemory) (a : ℕ) :
    sharesOf (m :: l) a = sharesOf l a + if m.parent = some a then 1 else 0 := by
  simp [sharesOf, List.countP_cons]

theorem Counted.perm (h : Counted l) (hp : l.Perm rest) : Counted rest where
  addresses := (hp.map _).nodup_iff.mp h.addresses
  refcount := by
    intro m hm
    rw [← shares_of_perm hp]
    exact h.refcount m (hp.mem_iff.mpr hm)
  parent := by
    intro m hm a ha
    obtain ⟨r, hr, h'⟩ := h.parent m (hp.mem_iff.mpr hm) a ha
    exact ⟨r, hp.mem_iff.mp hr, h'⟩

theorem shares_of_eq_zero (h : ∀ x ∈ l, x.parent ≠ some m.address) : sharesOf l m.address = 0 := by
  rw [sharesOf, List.countP_eq_zero]
  intro x hx
  simpa using h x hx

theorem no_share_of_zero (h : sharesOf l m.address = 0) : ∀ x ∈ l, x.parent ≠ some m.address := by
  intro x hx
  simpa using List.countP_eq_zero.mp h x hx

theorem Counted.address_ne (h : Counted (m :: rest)) : ∀ x ∈ rest, x.address ≠ m.address := by
  intro x hx he
  exact (List.nodup_cons.mp h.addresses).1 (List.mem_map.mpr ⟨x, hx, he⟩)

theorem Counted.change_refs (h : Counted (m :: rest)) (ha : m'.address = m.address)
    (hp : m'.parent = m.parent) (hd : m'.data = m.data)
    (hr : m'.refcount + m.held = m.refcount + m'.held) : Counted (m' :: rest) where
  addresses := by
    simpa only [List.map_cons, ha] using h.addresses
  refcount := by
    have hs : ∀ a, sharesOf (m' :: rest) a = sharesOf (m :: rest) a := by
      intro a
      rw [shares_of_cons, shares_of_cons, hp]
    intro x hx
    rw [hs]
    rcases List.mem_cons.mp hx with rfl | hx
    · have := h.refcount m List.mem_cons_self
      rw [ha]
      omega
    · exact h.refcount x (List.mem_cons_of_mem _ hx)
  parent := by
    have main : ∀ x ∈ m :: rest, ∀ a, x.parent = some a →
        ∃ r ∈ m' :: rest, r.address = a ∧ r.parent = none ∧ r.data = x.data := by
      intro x hx a hxa
      obtain ⟨r, hr, h1, h2, h3⟩ := h.parent x hx a hxa
      rcases List.mem_cons.mp hr with rfl | hr
      · exact ⟨m', List.mem_cons_self, ha.trans h1, hp.trans h2, hd.trans h3⟩
      · exact ⟨r, List.mem_cons_of_mem _ hr, h1, h2, h3⟩
    intro x hx a hxa
    rcases List.mem_cons.mp hx with rfl | hx
    · obtain ⟨r, hr, h1, h2, h3⟩ := main m List.mem_cons_self a (hp ▸ hxa)
      exact ⟨r, hr, h1, h2, h3.trans hd.symm⟩
    · exact main x (List.mem_cons_of_mem _ hx) a hxa

theorem Counted.add_root (h : Counted l) (hf : ∀ x ∈ l, x.address < m.address)
    (hp : m.parent = none) (hr : m.refcount = m.held) : Counted (m :: l) := by
  have hs : ∀ a, sharesOf (m :: l) a = sharesOf l a := by
    intro a
    simp [shares_of_cons, hp]
  constructor
  · rw [List.map_cons, List.nodup_cons]
    refine ⟨fun hm => ?_, h.addresses⟩
    obtain ⟨x, hx, he⟩ := List.mem_map.mp hm
    exact (hf x hx).ne he
  · intro x hx
    rw [hs]
    rcases List.mem_cons.mp hx with rfl | hx
    · rw [shares_of_eq_zero, hr]
      · rfl
      · intro y hy hya
        obtain ⟨r, hrl, he, -⟩ := h.parent y hy _ hya
        exact (hf r hrl).ne he
    · exact h.refcount x hx
  · intro x hx a ha
    rcases List.mem_cons.mp hx with rfl | hx
    · simp [hp] at ha
    · obtain ⟨r, hrl, h'⟩ := h.parent x hx a ha
      exact ⟨r, List.mem_cons_of_mem _ hrl, h'⟩

theorem Counted.remove (h : Counted (m :: rest)) (hs : sharesOf rest m.address = 0)
    (hp : m.parent = none) : Counted rest where
  addresses := (List.nodup_cons.mp h.addresses).2
  refcount := by
    intro x hx
    rw [h.refcount x (List.mem_cons_of_mem _ hx), shares_of_cons, hp]
    simp
  parent := by
    intro x hx a ha
    obtain ⟨r, hr, h1, h'⟩ := h.parent x (List.mem_cons_of_mem _ hx) a ha
    rcases List.mem_cons.mp hr with rfl | hr
    · exact absurd (h1 ▸ ha) (no_share_of_zero hs x hx)
    · exact ⟨r, hr, h1, h'⟩

structure SharedBy (m r r' : GstAjaMemory) : Prop where
  parent : m.parent = some r.address
  root : r.parent = none
  data : m.data = r.data
  held : m.refcount = m.held
  counted : r'.refcount = r.refcount + 1
  same_address : r'.address = r.address
  same_parent : r'.parent = r.parent
  same_data : r'.data = r.data
  same_held : r'.held = r.held

theorem SharedBy.shares_of (hs : SharedBy m r r') (rest : List GstAjaMemory) (a : ℕ) :
    sharesOf (m :: r' :: rest) a = sharesOf (r :: rest) a + if r.address = a then 1 else 0 := by
  simp [shares_of_cons, hs.parent, hs.root, hs.same_parent]

theorem Counted.add_share (h : Counted (r :: rest)) (hs : SharedBy m r r')
    (hf : ∀ x ∈ r :: rest, x.address < m.address) : Counted (m :: r' :: rest) := by
  have hrm := hf r List.mem_cons_self
  have roots : ∀ x ∈ r :: rest, ∀ a, x.parent = some a →
      ∃ y ∈ m :: r' :: rest, y.address = a ∧ y.parent = none ∧ y.data = x.data := by
    intro x hx a ha
    obtain ⟨y, hy, h1, h2, h3⟩ := h.parent x hx a ha
    rcases List.mem_cons.mp hy with rfl | hy
    · exact ⟨r', by simp, hs.same_address.trans h1, hs.same_parent.trans h2,
        hs.same_data.trans h3⟩
    · exact ⟨y, by simp [hy], h1, h2, h3⟩
  constructor
  · have hn := h.addresses
    rw [List.map_cons] at hn
    rw [List.map_cons, List.map_cons, hs.same_address, List.nodup_cons]
    refine ⟨fun hm => ?_, hn⟩
    obtain ⟨x, hx, he⟩ := List.mem_map.mp (by simpa using hm :
      m.address ∈ (r :: rest).map (·.address))
    exact (hf x hx).ne he
  · intro x hx
    rw [hs.shares_of]
    rcases List.mem_cons.mp hx with rfl | hx
    · rw [shares_of_eq_zero, if_neg hrm.ne, hs.held]
      · rfl
      · intro y hy hya
        obtain ⟨z, hz, he, -⟩ := h.parent y hy _ hya
        exact (hf z hz).ne he
    · rcases List.mem_cons.mp hx with rfl | hx
      · rw [hs.same_address, if_pos rfl, hs.counted, hs.same_held,
          h.refcount r List.mem_cons_self]
        omega
      · rw [if_neg (h.address_ne x hx).symm, h.refcount x (List.mem_cons_of_mem _ hx)]
        omega
  · intro x hx a ha
    rcases List.mem_cons.mp hx with rfl | hx
    · refine ⟨r', by simp, ?_, hs.same_parent.trans hs.root, hs.same_data.trans hs.data.symm⟩
      rw [hs.same_address]
      exact Option.some.inj (hs.parent.symm.trans ha)
    · rcases List.mem_cons.mp hx with rfl | hx
      · rw [hs.same_parent, hs.root] at ha
        cases ha
      · exact roots x (List.mem_cons_of_mem _ hx) a ha

theorem Counted.no_share_of_share (h : Counted l) (hm : m ∈ l) {b : ℕ}
    (hp : m.parent = some b) : ∀ x ∈ l, x.parent ≠ some m.address := by
  intro x hx ha
  obtain ⟨y, hy, he, hn, -⟩ := h.parent x hx _ ha
  have hym : y = m := List.inj_on_of_nodup_map h.addresses hy hm he
  rw [hym, hp] at hn
  cases hn

theorem Counted.remove_share (h : Counted (m :: r' :: rest)) (hs : SharedBy m r r') :
    Counted (r :: rest) := by
  have hn := List.nodup_cons.mp h.addresses
  have noShare := h.no_share_of_share List.mem_cons_self hs.parent
  have roots : ∀ x ∈ r' :: rest, ∀ a, x.parent = some a →
      ∃ y ∈ r :: rest, y.address = a ∧ y.parent = none ∧ y.data = x.data := by
    intro x hx a ha
    obtain ⟨y, hy, h1, h2, h3⟩ := h.parent x (List.mem_cons_of_mem _ hx) a ha
    rcases List.mem_cons.mp hy with rfl | hy
    · exact absurd (h1 ▸ ha) (noShare x (List.mem_cons_of_mem _ hx))
    rcases List.mem_cons.mp hy with rfl | hy
    · exact ⟨r, by simp, hs.same_address.symm.trans h1, hs.root, hs.same_data.symm.trans h3⟩
    · exact ⟨y, by simp [hy], h1, h2, h3⟩
  constructor
  · have := hn.2
    rwa [List.map_cons, hs.same_address] at this
  · intro x hx
    rcases List.mem_cons.mp hx with rfl | hx
    · have := h.refcount r' (by simp)
      rw [hs.shares_of, hs.same_address, if_pos rfl, hs.counted, hs.same_held] at this
      omega
    · have := h.refcount x (by simp [hx])
      have hne : r.address ≠ x.address := by
        rw [← hs.same_address]
        intro he
        have := (List.nodup_cons.mp (List.map_cons ▸ hn.2)).1
        exact this (List.mem_map.mpr ⟨x, hx, he.symm⟩)
      rw [hs.shares_of, if_neg hne] at this
      exact this
  · intro x hx a ha
    rcases List.mem_cons.mp hx with rfl | hx
    · rw [hs.root] at ha
      cases ha
    · exact roots x (List.mem_cons_of_mem _ hx) a ha

end Table

end AjaAllocator
