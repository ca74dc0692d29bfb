import NTV2Gst.SliceViews
import NTV2Gst.AjaBufferPool

/-!
# What shares and copies contain

Memories are allocated, referenced, shared, resized and given up in any order. A share
made in any number of steps is a view of the block of its root: it shows what the shared
memories showed, cut once for every step. A copy contains what mapping and cutting shows.
-/
namespace AjaMemorySlices

open TransitionRuns SliceViews BlockPool AjaAllocator AjaAllocatorAccounting AjaBufferPool

/-! ## Mapping and copying -/

def memoryMap (m : GstAjaMemory) : ℕ := m.data

/-- The bytes that `gst_memory_map` gives access to: the offset is added to the pointer that
`_aja_memory_map` returns. `bytes` are the contents of a block. -/
def mapped (bytes : ℕ → List UInt8) (m : GstAjaMemory) : Option (List UInt8) :=
  readAt (bytes (memoryMap m)) m.offset.toNat m.size.toNat

def memoryCopyBytes (bytes : ℕ → List UInt8) (m : GstAjaMemory) (offset size : UInt64) :
    Option (List UInt8) :=
  let size := if size = -1 then if offset < m.size then m.size - offset else 0 else size
  readAt (bytes m.data) (m.offset + offset).toNat size.toNat

/-- The arguments of a share or a copy; a size of -1 stands for the rest. -/
def cutOf (offset size : UInt64) : Cut :=
  ⟨offset.toNat, if size = -1 then none else some size.toNat⟩

/-! ## Calls -/

inductive Call where
  | allocator (e : Event)
  | resize (a : ℕ) (offset size : UInt64)
  deriving DecidableEq, Repr

def Inside (m : GstAjaMemory) : Prop := m.offset.toNat + m.size.toNat ≤ m.maxsize.toNat

instance (m : GstAjaMemory) : Decidable (Inside m) := inferInstanceAs (Decidable (_ ≤ _))

/-- `gst_memory_resize` does nothing when the new range is not inside the block. -/
def resize (s : State) (a : ℕ) (offset size : UInt64) : Option State :=
  s.withHeld a fun m =>
    if Inside (resizeMemory m offset size) then s.replace m (resizeMemory m offset size) else s

def memories (allocSize : UInt64) (numPrealloc : ℕ) : Machine State Call where
  initial := Created allocSize numPrealloc
  next s
    | .allocator e => s.next e
    | .resize a offset size => resize s a offset size

/-- In `s` the memory at the address comes from `root` by shares with these arguments, each
inside of what was shared. Anything may happen in between that leaves the memory alive and
does not resize it. -/
inductive SharedFrom (allocSize : UInt64) (numPrealloc : ℕ) (root : GstAjaMemory) :
    State → ℕ → List Cut → Prop where
  | root {s} : Reachable (memories allocSize numPrealloc) s → root ∈ s.memories →
      root.parent = none → SharedFrom allocSize numPrealloc root s root.address []
  | share {s t a m cs offset size} : SharedFrom allocSize numPrealloc root s a cs →
      s.lookup a = some m → (cutOf offset size).Within m.size.toNat →
      (memories allocSize numPrealloc).next s (.allocator (.share a offset size)) = some t →
      SharedFrom allocSize numPrealloc root t s.nextAddress (cs ++ [cutOf offset size])
  | other {s t a cs e} : SharedFrom allocSize numPrealloc root s a cs →
      (memories allocSize numPrealloc).next s e = some t → (t.lookup a).isSome →
      (∀ offset size, e ≠ .resize a offset size) →
      SharedFrom allocSize numPrealloc root t a cs

structure Denotes (bytes : ℕ → List UInt8) (root : GstAjaMemory) (s : State) (m : GstAjaMemory)
    (cs : List Cut) : Prop where
  mapped_slices : mapped bytes m =
    some (cutAll cs (slice root.offset.toNat root.size.toNat (bytes root.data)))
  inside_root : m.data = root.data ∧ m.offset.toNat + m.size.toNat ≤ root.maxsize.toNat
  parent : cs ≠ [] → m.parent = some root.address ∧
    ∃ r, s.lookup root.address = some r ∧ r.parent = none ∧ r.data = root.data
  copied : ∀ offset size, (cutOf offset size).Within m.size.toNat →
    memoryCopyBytes bytes m offset size = (mapped bytes m).map (cutOf offset size).apply

/-! ## The memories of a run -/

section Runs

variable {allocSize : UInt64} {numPrealloc : ℕ} {s t : State} {m n root : GstAjaMemory}
  {p : Pool ℕ}

structure Sound (allocSize : UInt64) (numPrealloc : ℕ) (s : State) : Prop where
  invariant : ∃ p, Invariant allocSize numPrealloc s p
  alive : Alive s
  roots : ∀ m ∈ s.memories, m.parent = none → Inside m

theorem Sound.lookup (h : Sound allocSize numPrealloc s) (hm : m ∈ s.memories) :
    s.lookup m.address = some m := by
  obtain ⟨p, hp⟩ := h.invariant
  exact lookup_of_mem hp.counted hm

theorem lookup_address {a : ℕ} (h : s.lookup a = some m) : m ∈ s.memories ∧ m.address = a :=
  ⟨List.mem_of_find?_eq_some h, by simpa using List.find?_some h⟩

theorem sound_next (h : Sound allocSize numPrealloc s) {e : Event} (hs : s.next e = some t) :
    Sound allocSize numPrealloc t := by
  obtain ⟨p, hp⟩ := h.invariant
  obtain ⟨hq, ha⟩ := hp.next h.alive hs
  refine ⟨hq, ha, ?_⟩
  intro n hn hnp
  cases next_origin hs hn with
  | kept hm hmn =>
    have hin := h.roots _ hm (hmn.parent ▸ hnp)
    unfold Inside at hin ⊢
    rw [hmn.offset, hmn.size, hmn.maxsize]
    exact hin
  | allocated _ _ _ hoffset hsize =>
    unfold Inside
    rw [hoffset, hsize]
    simp
  | shared _ hhead =>
    obtain rfl := Option.some.inj hhead
    cases hnp

theorem sound_resize (h : Sound allocSize numPrealloc s) {a : ℕ} {offset size : UInt64}
    (hs : resize s a offset size = some t) : Sound allocSize numPrealloc t := by
  obtain ⟨p, hp⟩ := h.invariant
  obtain ⟨m, hm, -, rfl⟩ := with_held_cases hs
  split
  case isFalse => exact h
  case isTrue hin =>
    refine ⟨⟨p, hp.replace (List.perm_cons_erase hm) rfl ⟨rfl, rfl, rfl, rfl⟩ rfl⟩, ?_, ?_⟩
    · intro x hx
      rcases List.mem_cons.mp hx with rfl | hx
      · exact h.alive m hm
      · exact h.alive x (List.mem_of_mem_erase hx)
    · intro x hx hxp
      rcases List.mem_cons.mp hx with rfl | hx
      · exact hin
      · exact h.roots x (List.mem_of_mem_erase hx) hxp

theorem sound_step (h : Sound allocSize numPrealloc s) {e : Call}
    (hs : (memories allocSize numPrealloc).next s e = some t) : Sound allocSize numPrealloc t := by
  cases e with
  | allocator e => exact sound_next h hs
  | resize a offset size => exact sound_resize h hs

theorem sound_reachable (h : Reachable (memories allocSize numPrealloc) s) :
    Sound allocSize numPrealloc s := by
  refine h.invariant ?_ fun a e b ha _ hn => sound_step ha hn
  intro i hi
  obtain ⟨hp, ha⟩ := reachable_invariant ⟨i, hi, .refl i⟩
  refine ⟨hp, ha, ?_⟩
  obtain ⟨blocks, -, -, -, rfl⟩ := hi
  rw [gstAjaAllocatorNew, preallocate_eq]
  simp

theorem SharedFrom.sound {a : ℕ} {cs : List Cut}
    (h : SharedFrom allocSize numPrealloc root s a cs) : Sound allocSize numPrealloc s := by
  induction h with
  | root hr _ _ => exact sound_reachable hr
  | share _ _ _ hn ih => exact sound_step ih hn
  | other _ hn _ _ ih => exact sound_step ih hn

theorem range_kept (h : Sound allocSize numPrealloc s) {e : Call} {a : ℕ}
    (hs : (memories allocSize numPrealloc).next s e = some t)
    (he : ∀ offset size, e ≠ .resize a offset size) (hm : s.lookup a = some m)
    (hn : t.lookup a = some n) : SameRange m n := by
  obtain ⟨p, hp⟩ := h.invariant
  obtain ⟨hms, rfl⟩ := lookup_address hm
  obtain ⟨hnt, hna⟩ := lookup_address hn
  have same {l : GstAjaMemory} (hl : l ∈ s.memories) (ha : l.address = m.address) : l = m := by
    have hlookup := h.lookup hl
    rw [ha, hm] at hlookup
    exact (Option.some.inj hlookup).symm
  have old := hp.fresh m hms
  cases e with
  | allocator e =>
    cases next_origin hs hnt with
    | kept hl hln =>
      obtain rfl := same hl (hln.address.symm.trans hna)
      exact hln
    | allocated ha =>
      rw [ha] at hna
      omega
    | shared _ hhead =>
      obtain rfl := Option.some.inj hhead
      have ha : s.nextAddress = m.address := hna
      omega
  | resize b offset size =>
    obtain ⟨l, hl, ht⟩ := Option.bind_eq_some_iff.mp hs
    obtain ⟨-, ht⟩ := Option.ite_none_right_eq_some.mp ht
    obtain ⟨hls, rfl⟩ := lookup_address hl
    cases ht
    dsimp only at hnt
    split at hnt
    case isFalse => exact same hnt hna ▸ .refl m
    case isTrue =>
      rcases List.mem_cons.mp hnt with rfl | hnt
      · exact absurd (congrArg (Call.resize · offset size) hna) (he offset size)
      · exact same (List.mem_of_mem_erase hnt) hna ▸ .refl m

/-! ## Shares are views -/

def view (m : GstAjaMemory) (h : Inside m) : View m.maxsize.toNat where
  offset := m.offset.toNat
  size := m.size.toNat
  inside := h

structure SharesMemory (m n : GstAjaMemory) (offset size : UInt64) : Prop where
  parent : n.parent = some (m.parent.getD m.address)
  data : n.data = m.data
  maxsize : n.maxsize = m.maxsize
  start : n.offset = m.offset + offset
  length : n.size = if size = -1 then m.size - offset else size

theorem share_record (h : Sound allocSize numPrealloc s) {a : ℕ} (hm : s.lookup a = some m)
    {offset size : UInt64} (hs : s.next (.share a offset size) = some t) :
    ∃ n, t.lookup s.nextAddress = some n ∧ SharesMemory m n offset size := by
  obtain ⟨l, hl, ht⟩ := Option.bind_eq_some_iff.mp hs
  obtain ⟨-, ht⟩ := Option.ite_none_right_eq_some.mp ht
  obtain rfl : l = m := Option.some.inj (hl.symm.trans hm)
  cases ht
  obtain ⟨hms, -⟩ := lookup_address hm
  obtain ⟨p, hp⟩ := h.invariant
  have root : ∃ r, (l.parent.bind s.lookup).getD l = r ∧ r.address = l.parent.getD l.address ∧
      r.data = l.data := by
    cases hparent : l.parent with
    | none => exact ⟨l, rfl, rfl, rfl⟩
    | some b =>
      obtain ⟨r, hr, hra, -, hrd⟩ := hp.counted.parent l hms b hparent
      refine ⟨r, ?_, hra, hrd⟩
      rw [Option.bind_some, ← hra, h.lookup hr]
      rfl
  obtain ⟨r, hr, hra, hrd⟩ := root
  refine ⟨_, List.find?_cons_of_pos (by simp [State.replace]), ?_⟩
  rw [hr]
  exact ⟨congrArg some hra, hrd, rfl, rfl, rfl⟩

theorem within_bounds {offset size : UInt64} {m : GstAjaMemory}
    (hc : (cutOf offset size).Within m.size.toNat) : offset.toNat ≤ m.size.toNat :=
  (Nat.le_add_right _ _).trans hc

theorem cut_size {offset size : UInt64} {m : GstAjaMemory}
    (hc : (cutOf offset size).Within m.size.toNat) :
    (if size = -1 then m.size - offset else size).toNat =
      (cutOf offset size).length m.size.toNat := by
  have hle := within_bounds hc
  unfold cutOf Cut.length
  split
  · exact UInt64.toNat_sub_of_le _ _ hle
  · rfl

theorem SharesMemory.view_cut {offset size : UInt64} (hs : SharesMemory m n offset size)
    (hm : Inside m) (hc : (cutOf offset size).Within m.size.toNat) :
    n.offset.toNat = ((view m hm).cut (cutOf offset size) hc).offset ∧
      n.size.toNat = ((view m hm).cut (cutOf offset size) hc).size := by
  have hle := within_bounds hc
  have hin : m.offset.toNat + m.size.toNat ≤ m.maxsize.toNat := hm
  have hmax := m.maxsize.toNat_lt
  constructor
  · rw [hs.start, UInt64.toNat_add, Nat.mod_eq_of_lt (by omega)]
    rfl
  · rw [hs.length, cut_size hc]
    rfl

structure FromRoot (root m : GstAjaMemory) (cs : List Cut) : Prop where
  data : m.data = root.data
  maxsize : m.maxsize = root.maxsize
  inside : Inside m
  parent : m.parent = if cs = [] then none else some root.address
  seen : ∀ block : List UInt8, block.length = root.maxsize.toNat →
    slice m.offset.toNat m.size.toNat block =
      cutAll cs (slice root.offset.toNat root.size.toNat block)

theorem FromRoot.of_range {cs : List Cut} (h : FromRoot root m cs) (hr : SameRange m n) :
    FromRoot root n cs where
  data := hr.data.trans h.data
  maxsize := hr.maxsize.trans h.maxsize
  inside := by
    have hin := h.inside
    unfold Inside at hin ⊢
    rw [hr.offset, hr.size, hr.maxsize]
    exact hin
  parent := hr.parent.trans h.parent
  seen block hb := by
    rw [hr.offset, hr.size]
    exact h.seen block hb

theorem FromRoot.start (hp : root.parent = none) (hin : Inside root) : FromRoot root root [] :=
  ⟨rfl, rfl, hin, hp, fun _ _ => rfl⟩

theorem FromRoot.share {cs : List Cut} (h : FromRoot root m cs)
    (hm : cs = [] → m.address = root.address) {offset size : UInt64}
    (hc : (cutOf offset size).Within m.size.toNat) (hs : SharesMemory m n offset size) :
    FromRoot root n (cs ++ [cutOf offset size]) := by
  obtain ⟨hoffset, hsize⟩ := hs.view_cut h.inside hc
  refine ⟨hs.data.trans h.data, hs.maxsize.trans h.maxsize, ?_, ?_, ?_⟩
  · unfold Inside
    rw [hoffset, hsize, hs.maxsize]
    exact ((view m h.inside).cut (cutOf offset size) hc).inside
  · rw [hs.parent, if_neg (by simp), h.parent]
    by_cases hcs : cs = []
    · simp [hcs, hm hcs]
    · simp [hcs]
  · intro block hb
    calc slice n.offset.toNat n.size.toNat block
        = ((view m h.inside).cut (cutOf offset size) hc).seen block := by rw [hoffset, hsize]; rfl
      _ = (cutOf offset size).apply ((view m h.inside).seen block) :=
        (view m h.inside).seen_cut hc (by rw [hb, h.maxsize])
      _ = (cutOf offset size).apply (cutAll cs (slice root.offset.toNat root.size.toNat block)) :=
        congrArg _ (h.seen block hb)
      _ = cutAll (cs ++ [cutOf offset size]) (slice root.offset.toNat root.size.toNat block) :=
        (cut_all_concat _ _ _).symm

theorem SharedFrom.from_root {a : ℕ} {cs : List Cut}
    (h : SharedFrom allocSize numPrealloc root s a cs) :
    ∃ m, s.lookup a = some m ∧ FromRoot root m cs ∧ (cs = [] → m.address = root.address) := by
  induction h with
  | root hr hmem hp =>
    have hs := sound_reachable hr
    exact ⟨root, hs.lookup hmem, .start hp (hs.roots root hmem hp), fun _ => rfl⟩
  | share hchain hm hc hn ih =>
    obtain ⟨l, hl, hview, hroot⟩ := ih
    obtain rfl := Option.some.inj (hl.symm.trans hm)
    obtain ⟨n, hlookup, hshare⟩ := share_record hchain.sound hm hn
    exact ⟨n, hlookup, hview.share hroot hc hshare, by simp⟩
  | other hchain hn halive he ih =>
    obtain ⟨l, hl, hview, hroot⟩ := ih
    obtain ⟨n, hlookup⟩ := Option.isSome_iff_exists.mp halive
    have hrange := range_kept hchain.sound hn he hl hlookup
    exact ⟨n, hlookup, hview.of_range hrange, fun hcs => hrange.address.trans (hroot hcs)⟩

end Runs

/-! ## Mapping and copying shares -/

section Contents

variable {bytes : ℕ → List UInt8} {m root : GstAjaMemory}

theorem mapped_inside (h : Inside m) (hb : (bytes m.data).length = m.maxsize.toNat) :
    mapped bytes m = some (slice m.offset.toNat m.size.toNat (bytes m.data)) :=
  (view m h).read_seen hb

theorem copy_bytes_cut (h : Inside m) (hb : (bytes m.data).length = m.maxsize.toNat)
    {offset size : UInt64} (hc : (cutOf offset size).Within m.size.toNat) :
    memoryCopyBytes bytes m offset size = (mapped bytes m).map (cutOf offset size).apply := by
  have hle := within_bounds hc
  have hin : m.offset.toNat + m.size.toNat ≤ m.maxsize.toNat := h
  have hmax := m.maxsize.toNat_lt
  have hoffset : (m.offset + offset).toNat = m.offset.toNat + offset.toNat := by
    rw [UInt64.toNat_add, Nat.mod_eq_of_lt (by omega)]
  have hsize : (if size = -1 then if offset < m.size then m.size - offset else 0
      else size) = if size = -1 then m.size - offset else size := by
    split
    · split
      · rfl
      case isFalse hlt =>
        have heq : m.size = offset := UInt64.le_antisymm (UInt64.not_lt.mp hlt) hle
        rw [heq, UInt64.sub_self]
    · rfl
  rw [mapped_inside h hb, Option.map_some]
  unfold memoryCopyBytes
  dsimp only
  rw [hsize, hoffset, cut_size hc]
  calc readAt (bytes m.data) (m.offset.toNat + offset.toNat)
        ((cutOf offset size).length m.size.toNat)
      = some (((view m h).cut (cutOf offset size) hc).seen (bytes m.data)) :=
        ((view m h).cut (cutOf offset size) hc).read_seen hb
    _ = some ((cutOf offset size).apply ((view m h).seen (bytes m.data))) :=
        congrArg some ((view m h).seen_cut hc hb)

theorem copy_bytes_length (s : State) {offset size : UInt64} {copy : List UInt8}
    (h : memoryCopyBytes bytes m offset size = some copy) :
    copy.length = (s.memoryCopy m offset size).2.toNat :=
  read_at_length h

end Contents

/-- Whatever else the application does in between, a memory shared in any number of steps
shows the part of the root's bytes that the steps cut out one after the other; it lies inside
the block, its parent is the root, and copies of it agree with mapping it. -/
theorem shares_denote_slices {allocSize : UInt64} {numPrealloc : ℕ} {s : State}
    {root : GstAjaMemory} {a : ℕ} {cs : List Cut}
    (h : SharedFrom allocSize numPrealloc root s a cs) (bytes : ℕ → List UInt8)
    (hbytes : (bytes root.data).length = root.maxsize.toNat) :
    ∃ m, s.lookup a = some m ∧ Denotes bytes root s m cs := by
  obtain ⟨m, hm, hview, -⟩ := h.from_root
  have hb : (bytes m.data).length = m.maxsize.toNat := by rw [hview.data, hview.maxsize, hbytes]
  refine ⟨m, hm, ⟨?_, ⟨hview.data, hview.maxsize ▸ hview.inside⟩, ?_, ?_⟩⟩
  · rw [mapped_inside hview.inside hb, hview.data, hview.seen _ hbytes]
  · intro hcs
    have hparent : m.parent = some root.address := by rw [hview.parent, if_neg hcs]
    obtain ⟨p, hp⟩ := h.sound.invariant
    obtain ⟨r, hr, hra, hrp, hrd⟩ := hp.counted.parent m (lookup_address hm).1 _ hparent
    exact ⟨hparent, r, hra ▸ h.sound.lookup hr, hrp, hrd.trans hview.data⟩
  · intro offset size hc
    exact copy_bytes_cut hview.inside hb hc

def called (s : State) (e : Call) : State := ((memories 64 1).next s e).getD s

def croppedRoot : GstAjaMemory := ⟨0, 1, 1, 0, none, 64, 8, 48, 4096⟩

def afterCrop : State :=
  called (called (gstAjaAllocatorNew 64 1 [4096]) (.allocator (.alloc 64 traceParams 8192)))
    (.resize 0 8 48)

def sharedOnce : State := called afterCrop (.allocator (.share 0 4 (-1)))

def sharedTwice : State := called sharedOnce (.allocator (.share 1 4 16))

theorem shares_denote_two : ∃ m, sharedTwice.lookup sharedOnce.nextAddress = some m ∧
    Denotes (fun _ => (List.range 64).map UInt8.ofNat) croppedRoot sharedTwice m
      [cutOf 4 (-1), cutOf 4 16] := by
  obtain ⟨s, hs, hp⟩ := reachable_of_trace (m := memories 64 1)
    (l := [.allocator (.alloc 64 traceParams 8192), .resize 0 8 48])
    (p := fun s => decide (s = afterCrop)) created_one (by decide +kernel)
  obtain rfl := of_decide_eq_true hp
  have start : SharedFrom 64 1 croppedRoot afterCrop 0 [] :=
    .root hs (by decide +kernel) rfl
  have once : SharedFrom 64 1 croppedRoot sharedOnce afterCrop.nextAddress [cutOf 4 (-1)] :=
    start.share (show afterCrop.lookup 0 = some croppedRoot by decide +kernel)
      (by decide +kernel) (by decide +kernel)
  have hlookup : sharedOnce.lookup afterCrop.nextAddress =
      some ⟨1, 1, 1, 2, some 0, 64, 12, 44, 4096⟩ := by decide +kernel
  exact shares_denote_slices
    (once.share (t := sharedTwice) hlookup (by decide +kernel) (by decide +kernel)) _
    (by decide +kernel)

end AjaMemorySlices
