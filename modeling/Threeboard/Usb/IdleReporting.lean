import Threeboard.Usb.Frames
import Threeboard.Usb.Invariants

namespace Threeboard.Usb

open Actions Actions.Action Mcu UsbControllerImpl

def HidState.Counting (hid : HidState) : Prop :=
  hid.idleConfig = 0 ∨ hid.idleCount < hid.idleConfig

-- A report is sent in the frame that completes the count, in no other one and in none after it.
structure Frame.Exact (frame : Frame) : Prop where
  counting : frame.hidState.Counting
  configured : frame.eligible = true → frame.hidState.configuration ≠ 0
  since : frame.hidState.idleConfig ≠ 0 → frame.since ≤ frame.hidState.idleConfig.toNat
  sent : frame.sent =
    if frame.eligible = true ∧ frame.hidState.idleConfig ≠ 0 ∧
        frame.since = frame.hidState.idleConfig.toNat then
      keyboardReport frame.hidState
    else []

structure Counted (u : Device Watched) : Prop where
  count : u.hidState.idleConfig ≠ 0 → u.hidState.idleCount < u.hidState.idleConfig ∧
    u.hardware.since = u.hidState.idleCount.toNat
  frames : ∀ frame ∈ u.hardware.frames, frame.Exact

theorem Counted.counting {u : Device Watched} (h : Counted u) : u.hidState.Counting := by
  by_cases hidle : u.hidState.idleConfig = 0
  · exact .inl hidle
  · exact .inr (h.count hidle).1

theorem counted_initial (script : Script) : Counted (.initial ⟨script, 0, []⟩) where
  count _ := by
    have hstart : (0 : UInt8) < 125 := by decide
    exact ⟨hstart, rfl⟩
  frames := by simp [Device.initial]

section General

variable (descriptorList : List DescriptorContainer) (polls : ℕ) {u : Device Watched}

theorem toNat_succ_of_lt {a b : UInt8} (h : a < b) : (a + 1).toNat = a.toNat + 1 := by
  have hlt : a.toNat < b.toNat := h
  have hbound := b.toNat_lt
  rw [UInt8.toNat_add]
  have hone : (1 : UInt8).toNat = 1 := rfl
  omega

theorem counted_of_settled {script : Script} {hid : HidState} {since : ℕ}
    {bytes : List (UInt8 × UInt8)} (h : Counted u)
    (ht : Settled (u.counting script) ((Watched.controller descriptorList
      polls).handleGeneralInterrupt (u.counting script)).2 hid since bytes)
    (hcount : hid.idleConfig ≠ 0 → hid.idleCount < hid.idleConfig ∧ since = hid.idleCount.toNat)
    (hframe : Frame.Exact ⟨eligible script u.hidState, u.hidState,
      (u.counting script).hardware.since, bytes⟩) :
    Counted (observeGeneral descriptorList polls script u) where
  count := by
    rw [← ht.hidState, ← ht.since] at hcount
    exact hcount
  frames frame hmem := by
    rw [observeGeneral, Device.onWatched, ht.frames] at hmem
    rcases List.mem_append.mp hmem with hold | hnew
    · exact h.frames frame hold
    · have hsent : (u.counting script).hardware.script.sent = script.sent := rfl
      rw [List.mem_singleton, ht.sent, hsent, List.drop_left] at hnew
      exact hnew ▸ hframe

theorem configured_of_eligible {script : Script} {hid : HidState} (h : eligible script hid = true) :
    hid.configuration ≠ 0 := by
  rw [eligible, decide_eq_true_iff] at h
  exact h.2.2.1

theorem counted_general_idle (script : Script) (h : Counted u) (hidle : u.hidState.idleConfig = 0) :
    Counted (observeGeneral descriptorList polls script u) := by
  have hnone : ¬ (eligible script u.hidState = true ∧ u.hidState.idleConfig ≠ 0) := by simp [hidle]
  refine counted_of_settled descriptorList polls h (general_uncounted _ _ hnone) ?_ ?_
  · exact fun hne => absurd hidle hne
  · exact ⟨.inl hidle, configured_of_eligible, fun hne => absurd hidle hne, by simp [hidle]⟩

theorem counted_general_ineligible (script : Script) (h : Counted u)
    (hidle : u.hidState.idleConfig ≠ 0) (helig : ¬ eligible script u.hidState = true) :
    Counted (observeGeneral descriptorList polls script u) := by
  obtain ⟨hlt, hsince⟩ := h.count hidle
  have hlt' : u.hidState.idleCount.toNat < u.hidState.idleConfig.toNat := hlt
  have hnow : (u.counting script).hardware.since = u.hidState.idleCount.toNat :=
    (if_neg helig).trans hsince
  have hnone : ¬ (eligible script u.hidState = true ∧ u.hidState.idleConfig ≠ 0) := by simp [helig]
  have hle : (u.counting script).hardware.since ≤ u.hidState.idleConfig.toNat := by omega
  refine counted_of_settled descriptorList polls h (general_uncounted _ _ hnone) ?_ ?_
  · exact fun _ => ⟨hlt, hnow⟩
  · exact ⟨.inr hlt, configured_of_eligible, fun _ => hle, by simp [helig]⟩

theorem counted_general_eligible (script : Script) (h : Counted u)
    (hidle : u.hidState.idleConfig ≠ 0) (helig : eligible script u.hidState = true) :
    Counted (observeGeneral descriptorList polls script u) := by
  obtain ⟨hlt, hsince⟩ := h.count hidle
  have hlt' : u.hidState.idleCount.toNat < u.hidState.idleConfig.toNat := hlt
  have hnow : (u.counting script).hardware.since = u.hidState.idleCount.toNat + 1 :=
    (if_pos helig).trans (congrArg (· + 1) hsince)
  have hsucc := toNat_succ_of_lt hlt
  have hle : (u.counting script).hardware.since ≤ u.hidState.idleConfig.toNat := by omega
  by_cases hdue : u.hidState.idleCount + 1 = u.hidState.idleConfig
  · have hpos : 0 < u.hidState.idleConfig := by
      have hpos' : 0 < u.hidState.idleConfig.toNat := by omega
      exact hpos'
    have hfull : u.hidState.idleConfig.toNat = u.hidState.idleCount.toNat + 1 := hdue ▸ hsucc
    refine counted_of_settled descriptorList polls h (general_reports _ _ helig hidle hdue) ?_ ?_
    · exact fun _ => ⟨hpos, rfl⟩
    · exact ⟨.inr hlt, configured_of_eligible, fun _ => hle,
        (if_pos ⟨helig, hidle, hnow.trans hfull.symm⟩).symm⟩
  · have hearly : u.hidState.idleCount.toNat + 1 ≠ u.hidState.idleConfig.toNat := by
      rw [← hsucc]
      exact fun heq => hdue (UInt8.toNat_inj.mp heq)
    have hnext : u.hidState.idleCount + 1 < u.hidState.idleConfig := by
      have hnext' : (u.hidState.idleCount + 1).toNat < u.hidState.idleConfig.toNat := by omega
      exact hnext'
    refine counted_of_settled descriptorList polls h (general_counts _ _ helig hidle hdue) ?_ ?_
    · exact fun _ => ⟨hnext, hnow.trans hsucc.symm⟩
    · refine ⟨.inr hlt, configured_of_eligible, fun _ => hle, (if_neg ?_).symm⟩
      rintro ⟨-, -, heq⟩
      exact hearly (hnow.symm.trans heq)

theorem counted_general (script : Script) (h : Counted u) :
    Counted (observeGeneral descriptorList polls script u) := by
  by_cases hidle : u.hidState.idleConfig = 0
  · exact counted_general_idle descriptorList polls script h hidle
  · by_cases helig : eligible script u.hidState = true
    · exact counted_general_eligible descriptorList polls script h hidle helig
    · exact counted_general_ineligible descriptorList polls script h hidle helig

end General

theorem pos_of_ne_zero {b : UInt8} (h : b ≠ 0) : 0 < b := by
  have hne : b.toNat ≠ 0 := fun hzero => h (UInt8.toNat_inj.mp hzero)
  have hpos : 0 < b.toNat := by omega
  exact hpos

def askedSince (before : List Event) (u : Device Watched) : Bool :=
  (u.events.drop before.length).any Event.isSetIdle

structure Handling (before : List Event) (u : Device Watched) : Prop where
  length : before.length ≤ u.events.length
  reset : askedSince before u = true → u.hidState.idleCount = 0
  count : u.hidState.idleConfig ≠ 0 → u.hidState.idleCount < u.hidState.idleConfig ∧
    (askedSince before u = false → u.hardware.since = u.hidState.idleCount.toNat)
  frames : ∀ frame ∈ u.hardware.frames, frame.Exact

section Endpoint

variable (descriptorList : List DescriptorContainer) (polls : ℕ)

theorem Handling.record {before : List Event} {u : Device Watched} (h : Handling before u)
    {event : Event} (he : event.isSetIdle = false) :
    Handling before { u with events := u.events ++ [event] } := by
  have hasked : askedSince before { u with events := u.events ++ [event] } = askedSince before u := by
    simp [askedSince, List.drop_append_of_le_length h.length, he]
  refine ⟨?_, ?_, ?_, h.frames⟩
  · simpa using Nat.le_succ_of_le h.length
  · rw [hasked]
    exact h.reset
  · rw [hasked]
    exact h.count

theorem handling_setIdle {before : List Event} (packet : SetupPacket) :
    Keeps (Handling before) ((Watched.controller descriptorList polls).call .setIdle packet) := by
  intro u h
  have hevents : ((Watched.controller descriptorList polls).call .setIdle packet u).2.events =
      u.events ++ [.handled .setIdle packet] := rfl
  have hasked : askedSince before
      ((Watched.controller descriptorList polls).call .setIdle packet u).2 = true := by
    simp [askedSince, hevents, List.drop_append_of_le_length h.length, Event.isSetIdle]
  refine ⟨?_, fun _ => rfl, fun hne => ⟨pos_of_ne_zero hne, ?_⟩, h.frames⟩
  · exact Nat.le_trans h.length (by simp [hevents])
  · rw [hasked]
    exact fun hno => Bool.noConfusion hno

theorem stable_handling (before : List Event) :
    Stable (Watched.controller descriptorList polls) (Handling before) where
  get _ _ h := ⟨h.length, h.reset, h.count, h.frames⟩
  set r value hends u h := by
    have hsince : (u.onWatched (Watched.writing r value)).hardware.since = u.hardware.since :=
      if_neg hends
    refine ⟨h.length, h.reset, ?_, h.frames⟩
    rw [watched_set, hsince]
    exact h.count
  record event he u h := by
    refine h.record ?_
    cases event with
    | handled handler packet =>
      cases handler with
      | setIdle => exact absurd rfl (he packet)
      | _ => rfl
    | _ => rfl
  configure _ _ h := ⟨h.length, h.reset, h.count, h.frames⟩
  setProtocol _ _ h := ⟨h.length, h.reset, h.count, h.frames⟩
  setIdle := handling_setIdle descriptorList polls

theorem counted_endpoint {u : Device Watched} (script : Script) (h : Counted u) :
    Counted (observeEndpoint descriptorList polls script u) := by
  have hstart : Handling u.events (u.facing script) := by
    have hnone : askedSince u.events (u.facing script) = false := by
      simp [askedSince, Device.facing, Device.onWatched]
    refine ⟨Nat.le_refl _, ?_, ?_, h.frames⟩
    · rw [hnone]
      exact fun hno => Bool.noConfusion hno
    · exact fun hne => ⟨(h.count hne).1, fun _ => (h.count hne).2⟩
  have hend := (stable_handling descriptorList polls u.events).handleEndpointInterrupt _ hstart
  refine ⟨fun hne => ⟨(hend.count hne).1, ?_⟩, hend.frames⟩
  cases hasked : askedSince u.events
      ((Watched.controller descriptorList polls).handleEndpointInterrupt (u.facing script)).2 with
  | true => exact (if_pos hasked).trans (congrArg UInt8.toNat (hend.reset hasked).symm)
  | false =>
    have hnot : ¬ askedSince u.events ((Watched.controller descriptorList
        polls).handleEndpointInterrupt (u.facing script)).2 = true := by simp [hasked]
    exact (if_neg hnot).trans ((hend.count hne).2 hasked)

theorem counted_observe {u : Device Watched} (h : Counted u) (i : Interrupt Script) :
    Counted (observe descriptorList polls u i) := by
  cases i with
  | general script => exact counted_general descriptorList polls script h
  | endpoint script => exact counted_endpoint descriptorList polls script h

end Endpoint

section Keypress

variable (descriptorList : List DescriptorContainer) (polls : ℕ)

theorem steady_counted : Steady (Watched.controller descriptorList polls) Counted where
  get _ _ h := ⟨h.count, h.frames⟩
  set r value hends u h := by
    have hsince : (u.onWatched (Watched.writing r value)).hardware.since = u.hardware.since :=
      if_neg hends
    refine ⟨?_, h.frames⟩
    rw [watched_set, hsince]
    exact h.count

theorem keeps_handled (during : Script → List (Interrupt Script)) :
    Keeps Counted (handled descriptorList polls during) := by
  have hrun (interrupts : List (Interrupt Script)) :
      ∀ u, Counted u → Counted (interrupts.foldl (observe descriptorList polls) u) := by
    induction interrupts with
    | nil => exact fun _ h => h
    | cons i rest ih => exact fun u h => ih _ (counted_observe descriptorList polls h i)
  exact fun u h => hrun _ u h

theorem keeps_report : Keeps Counted (Watched.controller descriptorList polls).sendHidState := by
  intro u h
  rw [watched_sendHidState]
  simp only [Device.onWatched, Device.facing, Watched.writing]
  exact ⟨fun hne => ⟨pos_of_ne_zero hne, by simp⟩, h.frames⟩

theorem counted_perform {u : Device Watched} (h : Counted u) (activity : Activity) :
    Counted (perform descriptorList polls u activity) := by
  cases activity with
  | interrupt i => exact counted_observe descriptorList polls h i
  | keypress script key mod during =>
    have hhold (key mod : UInt8) : Keeps Counted (updateHid (hold key mod)) :=
      fun _ h => ⟨h.count, h.frames⟩
    have hstart : Counted (u.facing script) := ⟨h.count, h.frames⟩
    exact (steady_counted descriptorList polls).sendKeypress
      (keeps_handled descriptorList polls during) (keeps_report descriptorList polls) hhold key mod
      _ hstart

theorem counted_run {u : Device Watched} (h : Counted u) (activities : List Activity) :
    Counted (activities.foldl (perform descriptorList polls) u) := by
  induction activities generalizing u with
  | nil => exact h
  | cons activity rest ih => exact ih (counted_perform descriptorList polls h activity)

end Keypress

theorem idle_reporting_never_skips (descriptorList : List DescriptorContainer) (polls : ℕ)
    (script : Script) (activities : List Activity) :
    let u := activities.foldl (perform descriptorList polls) (.initial ⟨script, 0, []⟩)
    u.hidState.Counting ∧ ∀ frame ∈ u.hardware.frames, frame.Exact := by
  have hrun := counted_run descriptorList polls (counted_initial script) activities
  exact ⟨hrun.counting, hrun.frames⟩

end Threeboard.Usb
