import NTV2Gst.AjaCard

/-!
# The registers of the inputs that are set up

Inputs on different channels write to registers of their own, up to three exceptions: a quad
input writes to four channels, passing an input through writes to a channel and a connector
further up, and `Quit` goes by what the last `Init` made of the engine.
-/
namespace AjaRegisterIsolation

open TransitionRuns GstAjaModes AjaVideoSetup AjaRouting AjaFrameCrop KeyedInserts SharedEntries
  AjaCard

/-! ## Two inputs -/

section Disturbs

variable (device : DeviceFacts)

/-- A channel of the first plays out what comes in on the second. -/
def TakenBy (r t : Tenant) : Prop :=
  ∃ n ∈ span r.setup.av, n ∈ t.displayed device ∨ n ∈ t.turned device

/-- A channel in common with two formats, or one that the other one is passed through to. -/
def Disturbs (r t : Tenant) : Prop :=
  (r.setup.mPixelFormat ≠ t.setup.mPixelFormat ∧
    ∃ n ∈ span r.setup.av, n ∈ span t.setup.av) ∨
  TakenBy device r t ∨ TakenBy device t r

instance (r t : Tenant) : Decidable (TakenBy device r t) :=
  inferInstanceAs (Decidable (∃ n ∈ span r.setup.av, _))

instance (r t : Tenant) : Decidable (Disturbs device r t) :=
  inferInstanceAs (Decidable ((_ ∧ ∃ n ∈ span r.setup.av, _) ∨ _ ∨ _))

variable {device} {r t : Tenant}

theorem passes_through_of_turned {n : ℕ} (h : n ∈ t.turned device) :
    device.hasBiDirectionalSDI = true := by
  unfold Tenant.turned Tenant.passesThrough at h
  split at h
  · rename_i hp
    exact (Bool.and_eq_true_iff.mp hp).2
  · cases h

theorem mem_writes {e : Write} : e ∈ t.writes device ↔
    (∃ n ∈ span t.setup.av, e = (.mode n, .mode .capture)) ∨
    (∃ n ∈ span t.setup.av, e = (.frameBufferFormat n, .format t.setup.mPixelFormat)) ∨
    (∃ n ∈ span t.setup.av, e = (.channelEnabled n, .flag true)) ∨
    (device.hasBiDirectionalSDI = true ∧
      ∃ n ∈ span t.setup.av, e = (.sdiTransmitEnable n, .flag false)) ∨
    (∃ n ∈ t.displayed device, e = (.mode n, .mode .display)) ∨
    ∃ n ∈ t.turned device, e = (.sdiTransmitEnable n, .flag true) := by
  unfold Tenant.writes
  by_cases hb : device.hasBiDirectionalSDI = true <;>
    simp [hb, eq_comm]

theorem agree_of_not_disturbs (h : ¬ Disturbs device r t) :
    Agree (r.writes device) (t.writes device) := by
  unfold Disturbs TakenBy at h
  push Not at h
  obtain ⟨hformat, hr, ht⟩ := h
  intro e he f hf hk
  rw [mem_writes] at he hf
  rcases he with ⟨n, hn, rfl⟩ | ⟨n, hn, rfl⟩ | ⟨n, hn, rfl⟩ | ⟨-, n, hn, rfl⟩ | ⟨n, hn, rfl⟩ |
      ⟨n, hn, rfl⟩ <;>
    rcases hf with ⟨m, hm, rfl⟩ | ⟨m, hm, rfl⟩ | ⟨m, hm, rfl⟩ | ⟨-, m, hm, rfl⟩ |
      ⟨m, hm, rfl⟩ | ⟨m, hm, rfl⟩ <;>
    simp only [Register.mode.injEq, Register.frameBufferFormat.injEq,
      Register.sdiTransmitEnable.injEq, reduceCtorEq] at hk <;> try rfl
  all_goals subst hk
  · exact absurd hm (hr n hn).1
  · simp only [Value.format.injEq]
    by_contra hne
    exact hformat hne n hn hm
  · exact absurd hm (hr n hn).2
  · exact absurd hn (ht n hm).1
  · exact absurd hn (ht n hm).2

theorem not_disturbs_of_agree (h : Agree (r.writes device) (t.writes device)) :
    ¬ Disturbs device r t := by
  have taken : ∀ r t : Tenant, Agree (r.writes device) (t.writes device) →
      ¬ TakenBy device r t := by
    rintro r t h ⟨n, hn, hd | hd⟩
    · have hv := h (.mode n, .mode .capture) (mem_writes.mpr (by simp [hn]))
        (.mode n, .mode .display) (mem_writes.mpr (by simp [hd])) rfl
      cases hv
    · have hb := passes_through_of_turned hd
      have hv := h (.sdiTransmitEnable n, .flag false) (mem_writes.mpr (by simp [hn, hb]))
        (.sdiTransmitEnable n, .flag true) (mem_writes.mpr (by simp [hd])) rfl
      cases hv
  rintro (⟨hne, n, hn, hm⟩ | hd | hd)
  · have hv := h (.frameBufferFormat n, .format r.setup.mPixelFormat)
      (mem_writes.mpr (by simp [hn])) (.frameBufferFormat n, .format t.setup.mPixelFormat)
      (mem_writes.mpr (by simp [hm])) rfl
    exact hne (Value.format.inj hv)
  · exact taken r t h hd
  · exact taken t r h.symm hd

theorem agree_writes_iff :
    Agree (r.writes device) (t.writes device) ↔ ¬ Disturbs device r t :=
  ⟨not_disturbs_of_agree, agree_of_not_disturbs⟩

theorem quit_functional (av : NTV2GstAV) : Functional (quitWrites av) := by
  intro e he f hf _
  obtain ⟨n, -, rfl⟩ := List.mem_map.mp he
  obtain ⟨m, -, rfl⟩ := List.mem_map.mp hf
  rfl

theorem agree_quit_iff {av : NTV2GstAV} :
    Agree (r.writes device) (quitWrites av) ↔ ∀ n ∈ span r.setup.av, n ∉ span av := by
  constructor
  · intro h n hn hav
    have hv := h (.mode n, .mode .capture) (mem_writes.mpr (by simp [hn]))
      (.mode n, .mode .display) (List.mem_map.mpr ⟨n, hav, rfl⟩) rfl
    cases hv
  · intro h e he f hf hk
    obtain ⟨m, hm, rfl⟩ := List.mem_map.mp hf
    rcases mem_writes.mp he with ⟨n, hn, rfl⟩ | ⟨n, -, rfl⟩ | ⟨n, -, rfl⟩ | ⟨-, n, -, rfl⟩ |
        ⟨n, -, rfl⟩ | ⟨n, -, rfl⟩ <;>
      simp only [Register.mode.injEq, reduceCtorEq] at hk
    · subst hk
      exact absurd hm (h n hn)
    · rfl

end Disturbs

/-! ## Runs -/

section Runs

variable (sdk : Sdk) (nvmmEnabled replace : Bool) (device : DeviceFacts)

def RegistersHeld (s : Card) : Prop := Held s.setUp (Tenant.writes device) s.registers

/-- An input is only set up when it and the inputs next to it do not disturb each other, and
only torn down when it has no channel in common with another one. -/
def LeavesAlone (s : Card) : Event → Prop
  | .init c args sdiFormat bitDepth captureTall hdmiColorRGB =>
    ∀ setup ∈ initCapture sdk nvmmEnabled (s.av c) args sdiFormat bitDepth captureTall,
      ¬ Disturbs device ⟨setup, hdmiColorRGB⟩ ⟨setup, hdmiColorRGB⟩ ∧
        ∀ b, b ≠ c → ∀ r ∈ s.setUp b, ¬ Disturbs device r ⟨setup, hdmiColorRGB⟩
  | .run _ => True
  | .quit c => ∀ b, b ≠ c → ∀ r ∈ s.setUp b, ∀ n ∈ span r.setup.av, n ∉ span (s.av c)

instance (s : Card) (e : Event) : Decidable (LeavesAlone sdk nvmmEnabled device s e) := by
  unfold LeavesAlone
  split <;> infer_instance

variable {sdk nvmmEnabled replace device} {s t : Card} {e : Event}

theorem held_next_iff (h : RegistersHeld device s)
    (ht : s.next sdk nvmmEnabled replace device e = some t) :
    RegistersHeld device t ↔ LeavesAlone sdk nvmmEnabled device s e := by
  cases e with
  | init c args sdiFormat bitDepth captureTall hdmiColorRGB =>
    obtain ⟨hi, rfl⟩ | ⟨setup, hi, rfl⟩ := init_cases ht
    · constructor
      · intro _ setup hs
        rw [hi] at hs
        cases hs
      · exact fun _ => h
    · simp only [LeavesAlone, hi, Option.mem_some_iff, forall_eq', ← agree_writes_iff]
      exact held_insert_iff h
  | run c =>
    obtain rfl := Option.some.inj ht
    exact ⟨fun _ => trivial, fun _ => h⟩
  | quit c =>
    obtain rfl := Option.some.inj ht
    unfold RegistersHeld LeavesAlone
    rw [held_leave_iff h (quit_functional _)]
    simp only [agree_quit_iff]

end Runs

/-- Inputs keep their registers in every run in which each `Init` and `Quit` leaves the others
alone, and the first that does not breaks one of them. -/
theorem registers_held_iff (sdk : Sdk) (nvmmEnabled replace : Bool) (device : DeviceFacts) :
    (∀ s, ReachableWhile (card sdk nvmmEnabled replace device)
      (LeavesAlone sdk nvmmEnabled device) s → RegistersHeld device s) ∧
    ∀ s e t, ReachableWhile (card sdk nvmmEnabled replace device)
        (LeavesAlone sdk nvmmEnabled device) s →
      (card sdk nvmmEnabled replace device).next s e = some t →
      (RegistersHeld device t ↔ LeavesAlone sdk nvmmEnabled device s e) := by
  have main : ∀ s, ReachableWhile (card sdk nvmmEnabled replace device)
      (LeavesAlone sdk nvmmEnabled device) s → RegistersHeld device s := by
    intro s hs
    apply hs.invariant
    · intro i hi
      unfold RegistersHeld
      rw [hi.setUp]
      exact held_none
    · intro a e b h ha hn
      exact (held_next_iff h hn).mpr ha
  exact ⟨main, fun s e t hs ht => held_next_iff (main s hs) ht⟩

/-! ## Two inputs and a pass-through -/

def idleCard : Card := ⟨engine, fun _ => none, fun _ => none, fun _ => none⟩

theorem idle_card : Idle idleCard := ⟨fun _ => rfl, rfl⟩

def startHd (c : NTV2Channel) (passthrough : Bool) : List Event :=
  [.init c ⟨.format1080p_2500, .sdi1, false, false, .singleLink, passthrough, false⟩ .unknown 10
    false false, .run c]

theorem registers_held_next_to_passthrough :
    ∃ s, (s.setUp 0).isSome ∧ (s.setUp 1).isSome ∧
      RegistersHeld ⟨false, true, 8⟩ s := by
  obtain ⟨s, hs, hp⟩ := reachable_while_of_trace
    (m := card commonSdk false true ⟨false, true, 8⟩)
    (a := LeavesAlone commonSdk false ⟨false, true, 8⟩)
    (l := startHd 0 true ++ startHd 1 false ++ startHd 5 false ++ [.quit 5])
    (p := fun s => decide ((s.setUp 0).isSome ∧ (s.setUp 1).isSome)) idle_card
    (by decide +kernel)
  obtain ⟨h0, h1⟩ := of_decide_eq_true hp
  exact ⟨s, h0, h1, (registers_held_iff commonSdk false true ⟨false, true, 8⟩).1 s hs⟩

end AjaRegisterIsolation
