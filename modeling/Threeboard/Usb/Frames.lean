import Threeboard.Usb.Watching

namespace Threeboard.Usb

open Actions Actions.Action Mcu UsbControllerImpl

structure Calm (u v : Device Watched) : Prop where
  hidState : v.hidState = u.hidState
  since : v.hardware.since = u.hardware.since
  frames : v.hardware.frames = u.hardware.frames
  answers : v.hardware.script.answers = u.hardware.script.answers
  udmfn : v.hardware.script.reads .UDMFN = u.hardware.script.reads .UDMFN
  ueintx : v.hardware.script.reads .UEINTX = u.hardware.script.reads .UEINTX
  sent : v.hardware.script.sent = u.hardware.script.sent

namespace Calm

variable {u v : Device Watched}

theorem refl (u : Device Watched) : Calm u u := ⟨rfl, rfl, rfl, rfl, rfl, rfl, rfl⟩

theorem reading (h : Calm u v) {r : Register} (hudmfn : r ≠ .UDMFN) (hueintx : r ≠ .UEINTX) :
    Calm u (v.onWatched (Watched.reading r)) where
  hidState := h.hidState
  since := h.since
  frames := h.frames
  answers := h.answers
  udmfn := by simpa [Device.onWatched, Watched.reading, Function.update_of_ne hudmfn.symm] using h.udmfn
  ueintx := by
    simpa [Device.onWatched, Watched.reading, Function.update_of_ne hueintx.symm] using h.ueintx
  sent := by simpa [Device.onWatched, Watched.reading] using h.sent

theorem writing (h : Calm u v) {r : Register} (hueintx : r ≠ .UEINTX) (huedatx : r ≠ .UEDATX)
    (value : UInt8) : Calm u (v.onWatched (Watched.writing r value)) where
  hidState := h.hidState
  since := by simpa [Device.onWatched, Watched.writing, hueintx] using h.since
  frames := h.frames
  answers := h.answers
  udmfn := h.udmfn
  ueintx := h.ueintx
  sent := by simpa [Device.onWatched, Watched.writing, huedatx] using h.sent

end Calm

section General

variable {descriptorList : List DescriptorContainer} {polls : ℕ}

theorem watched_get (r : Register) (u : Device Watched) :
    (Watched.controller descriptorList polls).get r u =
      (some (u.hardware.read r), u.onWatched (Watched.reading r)) := rfl

theorem watched_set (r : Register) (value : UInt8) (u : Device Watched) :
    (Watched.controller descriptorList polls).set r value u =
      (some (), u.onWatched (Watched.writing r value)) := rfl

variable (descriptorList polls) in
theorem configureEndpoint0_calm {u v : Device Watched} (h : Calm u v) : ∃ w, Calm u w ∧
    (Watched.controller descriptorList polls).configureEndpoint0 v = (some (), w) := by
  have hrecorded : Calm u { v with events := v.events ++ [.reset] } := ⟨h.hidState, h.since,
    h.frames, h.answers, h.udmfn, h.ueintx, h.sent⟩
  refine ⟨_, ?_, rfl⟩
  exact ((((hrecorded.writing (by decide) (by decide) _).writing (by decide) (by decide) _).writing
    (by decide) (by decide) _).writing (by decide) (by decide) _).writing (by decide) (by decide) _

variable (descriptorList polls) in
theorem handleGeneralInterrupt_run (u : Device Watched) : ∃ v, Calm u v ∧
    ((Watched.controller descriptorList polls).handleGeneralInterrupt u).2 =
      if u.hardware.read .UDINT &&& bit SOFI ≠ 0 then
        ((Watched.controller descriptorList polls).countFrame v).2
      else v := by
  have hcalm : Calm u ((u.onWatched (Watched.reading .UDINT)).onWatched (Watched.writing .UDINT 0)) :=
    ((Calm.refl u).reading (by decide) (by decide)).writing (by decide) (by decide) 0
  have hframe (v : Device Watched) (deviceInterrupt : UInt8) :
      ((if deviceInterrupt &&& bit SOFI ≠ 0 then
          (Watched.controller descriptorList polls).countFrame else pure ()) v).2 =
        if deviceInterrupt &&& bit SOFI ≠ 0 then
          ((Watched.controller descriptorList polls).countFrame v).2 else v := by
    split <;> rfl
  rw [handleGeneralInterrupt, bind_of_some (watched_get .UDINT u), bind_of_some (watched_set _ _ _)]
  by_cases hreset : u.hardware.read .UDINT &&& bit EORSTI = 0
  · rw [if_neg (not_not.mpr hreset)]
    exact ⟨_, hcalm, hframe _ _⟩
  · obtain ⟨w, hw, hrun⟩ := configureEndpoint0_calm descriptorList polls hcalm
    rw [if_pos hreset]
    refine ⟨w, hw, ?_⟩
    rw [bind_of_some hrun]
    exact hframe w _

structure Settled (u t : Device Watched) (hid : HidState) (since : ℕ)
    (bytes : List (UInt8 × UInt8)) : Prop where
  hidState : t.hidState = hid
  since : t.hardware.since = since
  frames : t.hardware.frames = u.hardware.frames
  sent : t.hardware.script.sent = u.hardware.script.sent ++ bytes

theorem Calm.settled {u v t : Device Watched} {hid : HidState} {since : ℕ}
    {bytes : List (UInt8 × UInt8)} (h : Calm u v) (ht : Settled v t hid since bytes) :
    Settled u t hid since bytes where
  hidState := ht.hidState
  since := ht.since
  frames := ht.frames.trans h.frames
  sent := h.sent ▸ ht.sent

theorem watched_fill (bytes : List UInt8) (u : Device Watched) :
    (Watched.controller descriptorList polls).fill bytes u =
      (some (), u.facing (u.hardware.script.filled bytes)) := by
  induction bytes generalizing u with
  | nil => rfl
  | cons byte rest ih =>
    have hfirst : u.onWatched (Watched.writing .UEDATX byte) =
        u.facing (u.hardware.script.writing .UEDATX byte) := by
      simp [Device.onWatched, Device.facing, Watched.writing]
    rw [fill, List.forM_cons, bind_of_some (watched_set .UEDATX byte u), hfirst]
    exact ih _

def keyboardReport (hid : HidState) : List (UInt8 × UInt8) := hid.report.map (kKeyboardEndpoint, ·)

theorem watched_sendHidState (u : Device Watched) :
    (Watched.controller descriptorList polls).sendHidState u =
      (some (), (Device.facing (u.hardware.script.filled u.hidState.report)
        { u with hidState := { u.hidState with idleCount := 0 } }).onWatched
          (Watched.writing .UEINTX doneFlags)) := by
  rw [sendHidState, updateHid, modify_bind, gets_bind, bind_of_some (watched_fill _ _)]
  exact watched_set _ _ _

theorem sendHidState_settled {u : Device Watched} (h : u.hardware.script.uenum = kKeyboardEndpoint) :
    Settled u ((Watched.controller descriptorList polls).sendHidState u).2
      { u.hidState with idleCount := 0 } 0 (keyboardReport u.hidState) := by
  rw [watched_sendHidState]
  refine ⟨?_, ?_, ?_, ?_⟩
  · simp only [Device.onWatched, Device.facing]
  · simp [Device.onWatched, Watched.writing]
  · simp only [Device.onWatched, Device.facing, Watched.writing]
  · simp [Device.onWatched, Device.facing, Watched.writing, Script.filled_sent, h, keyboardReport]

def Device.looking (u : Device Watched) : Device Watched :=
  (u.onWatched (Watched.writing .UENUM kKeyboardEndpoint)).onWatched (Watched.reading .UEINTX)

theorem Settled.of_looking {u t : Device Watched} {hid hid' : HidState} {since : ℕ}
    {bytes : List (UInt8 × UInt8)}
    (h : Settled { u.looking with hidState := hid' } t hid since bytes) :
    Settled u t hid since bytes where
  hidState := h.hidState
  since := h.since
  frames := h.frames
  sent := by simpa [Device.looking, Device.onWatched, Watched.writing, Watched.reading] using h.sent

theorem reportWhenIdle_run (u : Device Watched) :
    (Watched.controller descriptorList polls).reportWhenIdle u =
      if u.hardware.read .UEINTX &&& bit RWAL = 0 then (some (), u.looking)
      else
        let hid := { u.hidState with idleCount := u.hidState.idleCount + 1 }
        if hid.idleCount = hid.idleConfig then
          (Watched.controller descriptorList polls).sendHidState { u.looking with hidState := hid }
        else (some (), { u.looking with hidState := hid }) := by
  rw [reportWhenIdle, bind_of_some (watched_set _ _ _), bind_of_some (watched_get _ _)]
  have hread : (u.onWatched (Watched.writing .UENUM kKeyboardEndpoint)).hardware.read .UEINTX =
      u.hardware.read .UEINTX := rfl
  rw [hread]
  by_cases hw : u.hardware.read .UEINTX &&& bit RWAL = 0
  · rw [if_pos hw, if_neg (not_not.mpr hw)]
    rfl
  · rw [if_neg hw, if_pos hw, updateHid, modify_bind, gets_bind]
    split
    · rename_i hdue
      exact (if_pos hdue).symm
    · rename_i hdue
      exact (if_neg hdue).symm

theorem Settled.refl (u : Device Watched) : Settled u u u.hidState u.hardware.since [] :=
  ⟨rfl, rfl, rfl, (List.append_nil _).symm⟩

section Frames

variable (descriptorList polls) (u : Device Watched)

theorem reportWhenIdle_blocked (hw : u.hardware.read .UEINTX &&& bit RWAL = 0) :
    Settled u ((Watched.controller descriptorList polls).reportWhenIdle u).2 u.hidState
      u.hardware.since [] := by
  rw [reportWhenIdle_run, if_pos hw]
  have hsame : Settled { u.looking with hidState := u.hidState } u.looking u.hidState
      u.hardware.since [] := .refl u.looking
  exact hsame.of_looking

theorem reportWhenIdle_counts (hw : u.hardware.read .UEINTX &&& bit RWAL ≠ 0)
    (hdue : u.hidState.idleCount + 1 ≠ u.hidState.idleConfig) :
    Settled u ((Watched.controller descriptorList polls).reportWhenIdle u).2
      { u.hidState with idleCount := u.hidState.idleCount + 1 } u.hardware.since [] := by
  rw [reportWhenIdle_run, if_neg hw]
  simp only [if_neg hdue]
  exact .of_looking (.refl _)

theorem reportWhenIdle_reports (hw : u.hardware.read .UEINTX &&& bit RWAL ≠ 0)
    (hdue : u.hidState.idleCount + 1 = u.hidState.idleConfig) :
    Settled u ((Watched.controller descriptorList polls).reportWhenIdle u).2
      { u.hidState with idleCount := 0 } 0 (keyboardReport u.hidState) := by
  rw [reportWhenIdle_run, if_neg hw]
  simp only [if_pos hdue]
  exact .of_looking (sendHidState_settled rfl)

theorem countFrame_run : (Watched.controller descriptorList polls).countFrame u =
    if u.hardware.read .UDMFN &&& bit FNCERR = 0 ∧ u.hidState.configuration ≠ 0 ∧
        u.hidState.idleConfig ≠ 0 then
      (Watched.controller descriptorList polls).reportWhenIdle (u.onWatched (Watched.reading .UDMFN))
    else (some (), u.onWatched (Watched.reading .UDMFN)) := by
  rw [countFrame, bind_of_some (watched_get _ _), gets_bind]
  split
  · rename_i hseen
    exact (if_pos hseen).symm
  · rename_i hseen
    exact (if_neg hseen).symm

end Frames

theorem Settled.of_reading {u t : Device Watched} {hid : HidState} {since : ℕ}
    {bytes : List (UInt8 × UInt8)} (h : Settled (u.onWatched (Watched.reading .UDMFN)) t hid since bytes) :
    Settled u t hid since bytes where
  hidState := h.hidState
  since := h.since
  frames := h.frames
  sent := by simpa [Device.onWatched, Watched.reading] using h.sent

theorem Calm.read_udmfn {u v : Device Watched} (h : Calm u v) :
    v.hardware.read .UDMFN = u.hardware.read .UDMFN := by
  have hread : ∀ w : Device Watched, w.hardware.read .UDMFN =
      w.hardware.script.answers .UDMFN (w.hardware.script.reads .UDMFN) := fun _ => rfl
  rw [hread, hread, h.answers, h.udmfn]

theorem Calm.read_ueintx {u v : Device Watched} (h : Calm u v) :
    (v.onWatched (Watched.reading .UDMFN)).hardware.read .UEINTX = u.hardware.read .UEINTX := by
  have hread : ∀ w : Device Watched, w.hardware.read .UEINTX =
      w.hardware.script.answers .UEINTX (w.hardware.script.reads .UEINTX) := fun _ => rfl
  rw [hread, hread, ← h.answers, ← h.ueintx]
  simp [Device.onWatched, Watched.reading]

theorem eligible_iff {u : Device Watched} : eligible u.hardware.script u.hidState = true ↔
    u.hardware.read .UDINT &&& bit SOFI ≠ 0 ∧ u.hardware.read .UDMFN &&& bit FNCERR = 0 ∧
      u.hidState.configuration ≠ 0 ∧ u.hardware.read .UEINTX &&& bit RWAL ≠ 0 := by
  rw [eligible, decide_eq_true_iff]
  rfl

section Interrupts

variable (descriptorList polls) {u : Device Watched}

theorem general_uncounted
    (h : ¬ (eligible u.hardware.script u.hidState = true ∧ u.hidState.idleConfig ≠ 0)) :
    Settled u ((Watched.controller descriptorList polls).handleGeneralInterrupt u).2 u.hidState
      u.hardware.since [] := by
  obtain ⟨v, hcalm, hrun⟩ := handleGeneralInterrupt_run descriptorList polls u
  rw [hrun]
  refine hcalm.settled ?_
  rw [← hcalm.hidState, ← hcalm.since]
  split
  · rename_i hsof
    rw [countFrame_run]
    split
    · rename_i hseen
      obtain ⟨herr, hconf, hidle⟩ := hseen
      refine (reportWhenIdle_blocked descriptorList polls _ ?_).of_reading
      rw [hcalm.read_ueintx]
      by_contra hw
      rw [hcalm.read_udmfn] at herr
      rw [hcalm.hidState] at hconf hidle
      exact h ⟨eligible_iff.mpr ⟨hsof, herr, hconf, hw⟩, hidle⟩
    · exact (Settled.refl (v.onWatched (Watched.reading .UDMFN))).of_reading
  · exact .refl v

theorem general_counted (h : eligible u.hardware.script u.hidState = true)
    (hidle : u.hidState.idleConfig ≠ 0) : ∃ v, Calm u v ∧
      (v.onWatched (Watched.reading .UDMFN)).hardware.read .UEINTX &&& bit RWAL ≠ 0 ∧
      ((Watched.controller descriptorList polls).handleGeneralInterrupt u).2 =
        ((Watched.controller descriptorList polls).reportWhenIdle
          (v.onWatched (Watched.reading .UDMFN))).2 := by
  obtain ⟨hsof, herr, hconf, hw⟩ := eligible_iff.mp h
  obtain ⟨v, hcalm, hrun⟩ := handleGeneralInterrupt_run descriptorList polls u
  refine ⟨v, hcalm, hcalm.read_ueintx ▸ hw, ?_⟩
  rw [hrun, if_pos hsof, countFrame_run, hcalm.read_udmfn, hcalm.hidState,
    if_pos ⟨herr, hconf, hidle⟩]

theorem general_counts (h : eligible u.hardware.script u.hidState = true)
    (hidle : u.hidState.idleConfig ≠ 0) (hdue : u.hidState.idleCount + 1 ≠ u.hidState.idleConfig) :
    Settled u ((Watched.controller descriptorList polls).handleGeneralInterrupt u).2
      { u.hidState with idleCount := u.hidState.idleCount + 1 } u.hardware.since [] := by
  obtain ⟨v, hcalm, hw, hrun⟩ := general_counted descriptorList polls h hidle
  rw [hrun]
  rw [← hcalm.hidState] at hdue ⊢
  rw [← hcalm.since]
  exact hcalm.settled (reportWhenIdle_counts descriptorList polls _ hw hdue).of_reading

theorem general_reports (h : eligible u.hardware.script u.hidState = true)
    (hidle : u.hidState.idleConfig ≠ 0) (hdue : u.hidState.idleCount + 1 = u.hidState.idleConfig) :
    Settled u ((Watched.controller descriptorList polls).handleGeneralInterrupt u).2
      { u.hidState with idleCount := 0 } 0 (keyboardReport u.hidState) := by
  obtain ⟨v, hcalm, hw, hrun⟩ := general_counted descriptorList polls h hidle
  rw [hrun]
  rw [← hcalm.hidState] at hdue ⊢
  exact hcalm.settled (reportWhenIdle_reports descriptorList polls _ hw hdue).of_reading

end Interrupts

end General

end Threeboard.Usb
