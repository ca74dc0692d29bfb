import NTV2Gst.AjaBufferPool

/-!
# Buffers going round

The worker takes a buffer and its capture record out of the pool, and the buffer comes back
when its last reference is gone, whatever was done to it in between. An acquisition takes the
oldest buffer that is back, or allocates one and attaches a record to it. The parent class
allocates a buffer with one memory of the size of the pool. By the time a buffer comes back
nobody else holds a memory of it.
-/
namespace AjaPoolCycle

open TransitionRuns AjaAllocator AjaBufferPool

/-- The part of `AjaVideoBuff` and `AjaAudioBuff` that `alloc_buffer` fills in. -/
structure CaptureRecord where
  isVideo : Bool
  buffer : ℕ
  deriving DecidableEq, Repr

structure PoolBuffer where
  id : ℕ
  memories : List GstAjaMemory
  tagMemory : Bool
  record : Option CaptureRecord
  deriving DecidableEq, Repr

def PoolBuffer.toBuffer (b : PoolBuffer) : GstBuffer := ⟨b.memories, b.tagMemory, b.record.isSome⟩

section Pool

variable (pool : GstAjaBufferPool) (restores : Bool)

def allocBuffer (id : ℕ) (m : GstAjaMemory) : PoolBuffer :=
  ⟨id, [m], false, some ⟨pool.isVideo, id⟩⟩

/-- A buffer without references is reset and, unless it is freed, back in the pool. -/
def putBack (b : PoolBuffer) : Option PoolBuffer :=
  (pool.releaseBuffer true (pool.resetBuffer restores b.toBuffer)).map fun r =>
    { b with memories := r.memories, tagMemory := r.tagMemory }

def Fresh (m : GstAjaMemory) : Prop := m.size = pool.fullSize ∧ m.offset = 0

instance (m : GstAjaMemory) : Decidable (Fresh pool m) := inferInstanceAs (Decidable (_ ∧ _))

/-- `out` are the buffers with references; `peak` is the most there have been. -/
structure PoolState where
  queue : List PoolBuffer
  out : List PoolBuffer
  nextId : ℕ
  peak : ℕ
  deriving DecidableEq, Repr

/-- Between acquisition and release a buffer is resized, gets other memories or loses its
record, in any order; whether the library tags a resized buffer is left open. -/
inductive Event where
  | acquire (m : GstAjaMemory)
  | resize (id : ℕ) (offset size : UInt64) (tag : Bool)
  | replaceMemories (id : ℕ) (memories : List GstAjaMemory)
  | loseRecord (id : ℕ)
  | release (id : ℕ)
  deriving DecidableEq, Repr

def PoolState.change (s : PoolState) (id : ℕ) (f : PoolBuffer → PoolBuffer) : PoolState :=
  { s with out := s.out.map fun b => if b.id = id then f b else b }

def resized (offset size : UInt64) (tag : Bool) (b : PoolBuffer) : PoolBuffer :=
  { b with memories := resizeMemories b.memories offset size, tagMemory := b.tagMemory || tag }

def replaced (memories : List GstAjaMemory) (b : PoolBuffer) : PoolBuffer :=
  { b with memories := memories, tagMemory := true }

def bare (b : PoolBuffer) : PoolBuffer := { b with record := none }

def PoolState.next (s : PoolState) : Event → Option PoolState
  | .acquire m =>
    match s.queue with
    | b :: q => some { s with
        queue := q
        out := b :: s.out
        peak := max s.peak (s.out.length + 1) }
    | [] =>
      if Fresh pool m then some { s with
        out := allocBuffer pool s.nextId m :: s.out
        nextId := s.nextId + 1
        peak := max s.peak (s.out.length + 1) }
      else none
  | .resize id offset size tag => some (s.change id (resized offset size tag))
  | .replaceMemories id memories => some (s.change id (replaced memories))
  | .loseRecord id => some (s.change id bare)
  | .release id => (s.out.find? (·.id == id)).map fun b => { s with
      queue := s.queue ++ (putBack pool restores b).toList
      out := s.out.filter (·.id != id) }

def PoolState.start (memories : List GstAjaMemory) : PoolState where
  queue := memories.zipIdx.map fun p => allocBuffer pool p.2 p.1
  out := []
  nextId := memories.length
  peak := 0

def bufferPool (numBuffers : ℕ) : Machine PoolState Event where
  initial s := ∃ memories : List GstAjaMemory, memories.length = numBuffers ∧
    (∀ m ∈ memories, Fresh pool m) ∧ s = .start pool memories
  next := PoolState.next pool restores

end Pool

/-! ## What comes back -/

structure Whole (pool : GstAjaBufferPool) (b : PoolBuffer) : Prop where
  size : (getSizes b.memories).size = pool.fullSize
  untagged : b.tagMemory = false
  record : b.record = some ⟨pool.isVideo, b.id⟩

section Back

variable {pool : GstAjaBufferPool} {restores : Bool} {b c : PoolBuffer}

theorem alloc_whole {m : GstAjaMemory} (hm : Fresh pool m) (id : ℕ) :
    Whole pool (allocBuffer pool id m) := ⟨hm.1, rfl, rfl⟩

theorem put_back_id (h : putBack pool restores b = some c) :
    c.id = b.id ∧ c.record = b.record := by
  obtain ⟨r, -, rfl⟩ := Option.map_eq_some_iff.mp h
  exact ⟨rfl, rfl⟩

theorem restore_qdata (b : GstBuffer) : (pool.restore b).qdata = b.qdata := by
  unfold GstAjaBufferPool.restore
  dsimp only
  split <;> split <;> rfl

theorem put_back_whole (h : putBack pool restores b = some c)
    (hr : b.record = none ∨ b.record = some ⟨pool.isVideo, b.id⟩) : Whole pool c := by
  obtain ⟨r, hrel, rfl⟩ := Option.map_eq_some_iff.mp h
  obtain ⟨⟨htag, hsize, -⟩, hr'⟩ := Option.ite_none_right_eq_some.mp hrel
  obtain rfl := Option.some.inj hr'
  have hq : b.record.isSome = true := by
    have hq := (Bool.or_eq_false_iff.mp htag).2
    rw [Bool.not_eq_false', GstAjaBufferPool.resetBuffer, parent_reset_qdata,
      restore_qdata] at hq
    exact hq
  refine ⟨hsize, htag, hr.resolve_left fun hn => ?_⟩
  rw [hn] at hq
  cases hq

theorem release_is_some (b : GstBuffer) : (pool.releaseBuffer true b).isSome ↔
    b.qdata = true ∧ b.tagMemory = false ∧ (getSizes b.memories).size = pool.fullSize := by
  unfold GstAjaBufferPool.releaseBuffer
  cases b.qdata <;> cases b.tagMemory <;> simp

theorem parent_reset_fits (m : GstAjaMemory) (tag qdata : Bool) :
    ((pool.parentReset restores ⟨[m], tag, qdata⟩).tagMemory = false ∧
      (getSizes (pool.parentReset restores ⟨[m], tag, qdata⟩).memories).size = pool.fullSize) ↔
    tag = false ∧ (m.size = pool.fullSize ∨ restores = true) := by
  by_cases h : restores = true ∧ tag = false
  · obtain ⟨rfl, rfl⟩ := h
    have hf := parent_reset_restores pool m qdata
    simp [hf.untagged, hf.size]
  · rw [parent_reset_keeps]
    · cases tag <;> simp_all [getSizes]
    · cases restores <;> simp_all

theorem put_back_iff {m : GstAjaMemory} (hm : b.memories = [m]) :
    (putBack pool restores b).isSome ↔ b.record.isSome ∧
      (m.size = pool.fullSize ∨ pool.fullSize < m.maxsize ∨
        (b.tagMemory = false ∧ restores = true)) := by
  have hq : (pool.resetBuffer restores b.toBuffer).qdata = b.record.isSome := by
    rw [GstAjaBufferPool.resetBuffer, parent_reset_qdata, restore_qdata]
    rfl
  rw [putBack, Option.isSome_map, release_is_some, hq]
  refine and_congr_right fun _ => ?_
  rw [PoolBuffer.toBuffer, hm, GstAjaBufferPool.resetBuffer]
  by_cases hle : m.maxsize ≤ pool.fullSize
  · rw [restore_of_le pool hle, parent_reset_fits]
    have hlt : ¬ pool.fullSize < m.maxsize := UInt64.not_lt.mpr hle
    by_cases hs : m.size = pool.fullSize <;> cases b.tagMemory <;> simp [hs, hlt]
  · have hlt : pool.fullSize < m.maxsize := UInt64.not_le.mp hle
    by_cases hs : m.size = pool.fullSize
    · have hrestore : pool.restore ⟨[m], b.tagMemory, b.record.isSome⟩ =
          ⟨[m], false, b.record.isSome⟩ := by simp [GstAjaBufferPool.restore, getSizes, hs]
      rw [hrestore, parent_reset_fits]
      simp [hs]
    · have hrestore : pool.restore ⟨[m], b.tagMemory, b.record.isSome⟩ =
          ⟨[resizeMemory m (-m.offset) pool.fullSize], false, b.record.isSome⟩ := by
        simp [GstAjaBufferPool.restore, getSizes, hs, hlt, GstBuffer.resize, resizeMemories]
      rw [hrestore, parent_reset_fits]
      simp [hlt, resizeMemory]

end Back

/-! ## Runs -/

def PoolState.names (s : PoolState) : List ℕ := s.queue.map (·.id) ++ s.out.map (·.id)

structure Cycling (pool : GstAjaBufferPool) (numBuffers : ℕ) (s : PoolState) : Prop where
  whole : ∀ b ∈ s.queue, Whole pool b
  own : ∀ b ∈ s.out, b.record = none ∨ b.record = some ⟨pool.isVideo, b.id⟩
  names_nodup : s.names.Nodup
  names_lt : ∀ id ∈ s.names, id < s.nextId
  bounded : s.queue.length + s.out.length ≤ max numBuffers s.peak

section Runs

variable {pool : GstAjaBufferPool} {restores : Bool} {numBuffers : ℕ} {s t : PoolState}

theorem start_names (memories : List GstAjaMemory) :
    (PoolState.start pool memories).names = List.range memories.length := by
  have hids : (memories.zipIdx.map fun p => allocBuffer pool p.2 p.1).map PoolBuffer.id =
      memories.zipIdx.map Prod.snd := by
    rw [List.map_map]
    rfl
  rw [PoolState.names, PoolState.start, hids, List.zipIdx_map_snd, List.range_eq_range']
  exact List.append_nil _

theorem Cycling.start {memories : List GstAjaMemory} (hlen : memories.length = numBuffers)
    (hfresh : ∀ m ∈ memories, Fresh pool m) : Cycling pool numBuffers (.start pool memories) := by
  constructor
  · intro b hb
    obtain ⟨p, hp, rfl⟩ := List.mem_map.mp hb
    exact alloc_whole (hfresh p.1 (List.fst_mem_of_mem_zipIdx hp)) p.2
  · intro b hb
    cases hb
  · rw [start_names]
    exact List.nodup_range
  · rw [start_names]
    exact fun id hid => List.mem_range.mp hid
  · simp [PoolState.start, hlen]

theorem change_names (s : PoolState) (id : ℕ) {f : PoolBuffer → PoolBuffer}
    (hf : ∀ b, (f b).id = b.id) : (s.change id f).names = s.names := by
  rw [PoolState.names, PoolState.names, PoolState.change, List.map_map]
  congr 1
  refine List.map_congr_left fun b _ => ?_
  simp only [Function.comp_apply]
  split
  · exact hf b
  · rfl

theorem Cycling.change (h : Cycling pool numBuffers s) (id : ℕ) {f : PoolBuffer → PoolBuffer}
    (hf : ∀ b, (f b).id = b.id) (hr : ∀ b, (f b).record = none ∨ (f b).record = b.record) :
    Cycling pool numBuffers (s.change id f) := by
  constructor
  · exact h.whole
  · intro c hc
    obtain ⟨b, hb, rfl⟩ := List.mem_map.mp hc
    have hown := h.own b hb
    split
    · rw [hf]
      rcases hr b with hnone | hsame
      · exact Or.inl hnone
      · rwa [hsame]
    · exact hown
  · rw [change_names s id hf]
    exact h.names_nodup
  · rw [change_names s id hf]
    exact h.names_lt
  · simpa [PoolState.change] using h.bounded

theorem Cycling.acquire (h : Cycling pool numBuffers s) {m : GstAjaMemory}
    (ht : s.next pool restores (.acquire m) = some t) :
    Cycling pool numBuffers t ∧
      ∃ b, t.out = b :: s.out ∧ Whole pool b ∧ b.id ∉ s.out.map (·.id) := by
  obtain ⟨hwhole, hown, hnodup, hlt, hbound⟩ := h
  cases hq : s.queue with
  | cons b q =>
    simp only [PoolState.next, hq, Option.some.injEq] at ht
    subst ht
    unfold PoolState.names at hnodup hlt
    rw [hq, List.map_cons, List.cons_append] at hnodup hlt
    obtain ⟨hnot, hrest⟩ := List.nodup_cons.mp hnodup
    have hb : Whole pool b := hwhole b (hq ▸ List.mem_cons_self)
    have hperm : (q.map (·.id) ++ b.id :: s.out.map (·.id)).Perm
        (b.id :: (q.map (·.id) ++ s.out.map (·.id))) := List.perm_middle
    refine ⟨⟨fun c hc => hwhole c (hq ▸ List.mem_cons_of_mem _ hc), ?_, ?_, ?_, ?_⟩,
      b, rfl, hb, fun hid => hnot (List.mem_append_right _ hid)⟩
    · intro c hc
      rcases List.mem_cons.mp hc with rfl | hc
      · exact Or.inr hb.record
      · exact hown c hc
    · exact hperm.nodup_iff.mpr hnodup
    · exact fun id hid => hlt id (hperm.mem_iff.mp hid)
    · rw [hq] at hbound
      simp only [List.length_cons] at *
      omega
  | nil =>
    simp only [PoolState.next, hq] at ht
    obtain ⟨hm, ht⟩ := Option.ite_none_right_eq_some.mp ht
    obtain rfl := Option.some.inj ht
    have hb := alloc_whole hm s.nextId
    unfold PoolState.names at hnodup hlt
    rw [hq, List.map_nil, List.nil_append] at hnodup hlt
    have hnew : s.nextId ∉ s.out.map (·.id) := fun hid => Nat.lt_irrefl _ (hlt _ hid)
    refine ⟨⟨by simp, ?_, ?_, ?_, ?_⟩, _, rfl, hb, hnew⟩
    · intro c hc
      rcases List.mem_cons.mp hc with rfl | hc
      · exact Or.inr hb.record
      · exact hown c hc
    · exact List.nodup_cons.mpr ⟨hnew, hnodup⟩
    · intro id hid
      rcases List.mem_cons.mp hid with rfl | hid
      · exact Nat.lt_succ_self _
      · exact Nat.lt_succ_of_lt (hlt id hid)
    · simp only [hq, List.length_cons, List.length_nil] at *
      omega

theorem Cycling.release (h : Cycling pool numBuffers s) {id : ℕ}
    (ht : s.next pool restores (.release id) = some t) : Cycling pool numBuffers t := by
  obtain ⟨b, hb, rfl⟩ := Option.map_eq_some_iff.mp ht
  have hbid : b.id = id := by simpa using List.find?_some hb
  have hbout := List.mem_of_find?_eq_some hb
  have hback : ∀ c ∈ (putBack pool restores b).toList, Whole pool c ∧ c.id = id := by
    intro c hc
    have hc := Option.mem_toList.mp hc
    exact ⟨put_back_whole hc (h.own b hbout), (put_back_id hc).1.trans hbid⟩
  have hidout : id ∈ s.out.map (·.id) := hbid ▸ List.mem_map_of_mem hbout
  obtain ⟨hqueue, hout, hapart⟩ := List.nodup_append.mp h.names_nodup
  have hsub : ((s.out.filter (·.id != id)).map (·.id)).Sublist (s.out.map (·.id)) :=
    List.filter_sublist.map _
  have hgone : id ∉ (s.out.filter (·.id != id)).map (·.id) := by
    simp [List.mem_map, List.mem_filter]
  have hone : ((putBack pool restores b).toList.map (·.id)).Nodup := by
    cases putBack pool restores b <;> simp
  have hid : ∀ k ∈ (putBack pool restores b).toList.map (·.id), k = id := by
    intro k hk
    obtain ⟨c, hc, rfl⟩ := List.mem_map.mp hk
    exact (hback c hc).2
  have hlen : (s.out.filter (·.id != id)).length < s.out.length :=
    List.length_filter_lt_length_iff_exists.mpr ⟨b, hbout, by simp [hbid]⟩
  have hle : (putBack pool restores b).toList.length ≤ 1 := by
    cases putBack pool restores b <;> simp
  constructor
  · intro c hc
    rcases List.mem_append.mp hc with hc | hc
    · exact h.whole c hc
    · exact (hback c hc).1
  · exact fun c hc => h.own c (List.mem_of_mem_filter hc)
  · rw [PoolState.names, List.map_append, List.append_assoc]
    refine List.nodup_append.mpr ⟨hqueue, List.nodup_append.mpr ⟨hone, hout.sublist hsub, ?_⟩, ?_⟩
    · intro k hk j hj hkj
      rw [← hkj, hid k hk] at hj
      exact hgone hj
    · intro k hk j hj
      rcases List.mem_append.mp hj with hj | hj
      · rw [hid j hj]
        exact hapart k hk id hidout
      · exact hapart k hk j (hsub.subset hj)
  · intro k hk
    rw [PoolState.names, List.map_append, List.append_assoc] at hk
    apply h.names_lt
    rcases List.mem_append.mp hk with hk | hk
    · exact List.mem_append_left _ hk
    rcases List.mem_append.mp hk with hk | hk
    · exact List.mem_append_right _ (hid k hk ▸ hidout)
    · exact List.mem_append_right _ (hsub.subset hk)
  · refine Nat.le_trans ?_ h.bounded
    simp only [List.length_append]
    omega

theorem Cycling.next (h : Cycling pool numBuffers s) {e : Event}
    (ht : s.next pool restores e = some t) : Cycling pool numBuffers t := by
  cases e with
  | acquire m => exact (h.acquire ht).1
  | release id => exact h.release ht
  | resize id offset size tag =>
    obtain rfl := Option.some.inj ht
    exact h.change id (fun _ => rfl) fun _ => Or.inr rfl
  | replaceMemories id memories =>
    obtain rfl := Option.some.inj ht
    exact h.change id (fun _ => rfl) fun _ => Or.inr rfl
  | loseRecord id =>
    obtain rfl := Option.some.inj ht
    exact h.change id (fun _ => rfl) fun _ => Or.inl rfl

theorem Cycling.find (h : Cycling pool numBuffers s) {b : PoolBuffer} (hb : b ∈ s.out) :
    s.out.find? (·.id == b.id) = some b := by
  have hnodup : (s.out.map (·.id)).Nodup := (List.nodup_append.mp h.names_nodup).2.1
  cases hf : s.out.find? (·.id == b.id) with
  | none =>
    have := List.find?_eq_none.mp hf b hb
    simp at this
  | some c =>
    have hc : c.id = b.id := by simpa using List.find?_some hf
    rw [List.inj_on_of_nodup_map hnodup (List.mem_of_find?_eq_some hf) hb hc]

end Runs

/-- Whatever is done to buffers while they are out, the pool hands out whole buffers with a
record of their own, none of them twice, and it never owns more than were out at once or it
started with. A buffer with one memory comes back if and only if it has kept its record, and
has its full size or can be given it. -/
theorem pool_hands_out_whole (pool : GstAjaBufferPool) (restores : Bool) (numBuffers : ℕ)
    (s : PoolState) (h : Reachable (bufferPool pool restores numBuffers) s) :
    (∀ m t, (bufferPool pool restores numBuffers).next s (.acquire m) = some t →
      ∃ b, t.out = b :: s.out ∧ Whole pool b ∧ b.id ∉ s.out.map (·.id)) ∧
    s.queue.length + s.out.length ≤ max numBuffers s.peak ∧
    ∀ b ∈ s.out, ∀ m t, b.memories = [m] →
      (bufferPool pool restores numBuffers).next s (.release b.id) = some t →
      (t.queue.length = s.queue.length + 1 ↔ b.record.isSome ∧
        (m.size = pool.fullSize ∨ pool.fullSize < m.maxsize ∨
          (b.tagMemory = false ∧ restores = true))) := by
  have cycling : Cycling pool numBuffers s := by
    apply h.invariant
    · rintro i ⟨memories, hlen, hfresh, rfl⟩
      exact .start hlen hfresh
    · exact fun a e b ha _ hn => ha.next hn
  refine ⟨fun m t ht => ?_, cycling.bounded, fun b hb m t hm ht => ?_⟩
  · have ht : s.next pool restores (.acquire m) = some t := ht
    exact (cycling.acquire ht).2
  rw [← put_back_iff hm]
  obtain ⟨c, hc, rfl⟩ := Option.map_eq_some_iff.mp ht
  rw [cycling.find hb] at hc
  obtain rfl := Option.some.inj hc
  cases putBack pool restores b <;> simp

def freshMemory : GstAjaMemory := ⟨0, 1, 0, 0, none, 64, 0, 64, 0⟩

def croppedOut : PoolState :=
  ⟨[], [⟨0, [cropped freshMemory 16 32], false, some ⟨true, 0⟩⟩], 1, 1⟩

theorem pool_hands_out_whole_cropped :
    ((bufferPool ⟨true, 64⟩ true 1).next croppedOut (.release 0)).any
      (fun t => t.queue.length == 1) = true := by
  obtain ⟨s, hs, hp⟩ := reachable_of_trace (m := bufferPool ⟨true, 64⟩ true 1)
    (l := [.acquire freshMemory, .resize 0 16 32 false]) (p := fun s => decide (s = croppedOut))
    ⟨[freshMemory], rfl, by decide, rfl⟩ (by decide +kernel)
  obtain rfl := of_decide_eq_true hp
  refine (Option.any_eq_true _ _).mpr ⟨_, rfl, beq_iff_eq.mpr ?_⟩
  exact ((pool_hands_out_whole ⟨true, 64⟩ true 1 croppedOut hs).2.2 _ (List.mem_singleton_self _) _
    _ rfl rfl).mpr ⟨rfl, Or.inr (Or.inr ⟨rfl, rfl⟩)⟩

end AjaPoolCycle
