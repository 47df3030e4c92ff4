import Threeboard.Usb.Sending
import Threeboard.Usb.Invariants

namespace Threeboard.Usb

open Actions Actions.Action Mcu UsbControllerImpl

def HidState.SameKeys (hid hid' : HidState) : Prop :=
  hid'.modifierKeys = hid.modifierKeys ∧ hid'.keyboardKeys = hid.keyboardKeys

structure HidState.Released (before hid : HidState) : Prop where
  modifierKeys : hid.modifierKeys = 0
  key : hid.keyboardKeys 0 = 0
  others : ∀ i, i ≠ 0 → hid.keyboardKeys i = before.keyboardKeys i

theorem HidState.SameKeys.released_iff {before hid hid' : HidState} (h : hid.SameKeys hid') :
    before.Released hid' ↔ before.Released hid := by
  constructor
  · rintro ⟨hm, hk, ho⟩
    exact ⟨h.1 ▸ hm, h.2 ▸ hk, h.2 ▸ ho⟩
  · rintro ⟨hm, hk, ho⟩
    exact ⟨h.1.trans hm, by rw [h.2, hk], by rw [h.2]; exact ho⟩

namespace UsbControllerImpl

variable {σ : Type} (c : UsbControllerImpl σ) (hid : HidState)

def keysHeld (u : Device σ) : Prop := hid.SameKeys u.hidState

theorem keeps_updateHid {f : HidState → HidState} (h : ∀ hid : HidState, hid.SameKeys (f hid)) :
    Keeps (keysHeld (σ := σ) hid) (updateHid f) :=
  fun u hu => ⟨(h u.hidState).1.trans hu.1, (h u.hidState).2.trans hu.2⟩

theorem keeps_set (r : Register) (value : UInt8) : Keeps (keysHeld hid) (c.set r value) :=
  fun _ hu => hu

theorem stable_keysHeld : Stable c (keysHeld hid) where
  get _ _ hu := hu
  set r value _ := c.keeps_set hid r value
  record _ _ _ hu := hu
  configure _ := keeps_updateHid hid fun _ => ⟨rfl, rfl⟩
  setProtocol _ := keeps_updateHid hid fun _ => ⟨rfl, rfl⟩
  setIdle _ _ hu := hu

theorem keeps_sendHidState : Keeps (keysHeld hid) c.sendHidState := by
  refine .bind (keeps_updateHid hid fun _ => ⟨rfl, rfl⟩) fun _ => (Keeps.gets _).bind fun _ => ?_
  exact ((c.stable_keysHeld hid).fill _).bind fun _ => c.keeps_set hid _ _

theorem keeps_countFrame : Keeps (keysHeld hid) c.countFrame := by
  have hstable := c.stable_keysHeld hid
  refine (hstable.get _).bind fun _ => (Keeps.gets _).bind fun _ => .ite ?_ (.pure ())
  refine (c.keeps_set hid _ _).bind fun _ => (hstable.get _).bind fun _ => .ite ?_ (.pure ())
  refine .bind (keeps_updateHid hid fun _ => ⟨rfl, rfl⟩) fun _ => (Keeps.gets _).bind fun _ => ?_
  exact .ite (c.keeps_sendHidState hid) (.pure ())

theorem keeps_handleGeneralInterrupt : Keeps (keysHeld hid) c.handleGeneralInterrupt := by
  have hstable := c.stable_keysHeld hid
  have hframe (deviceInterrupt : UInt8) : Keeps (keysHeld hid)
      (if deviceInterrupt &&& bit SOFI ≠ 0 then c.countFrame else pure ()) :=
    .ite (c.keeps_countFrame hid) (.pure ())
  refine (hstable.get _).bind fun _ => (c.keeps_set hid _ _).bind fun _ => ?_
  exact .ite (hstable.configureEndpoint0.bind fun _ => hframe _) (hframe _)

theorem interrupt_sameKeys (u : Device σ) (i : Interrupt σ) :
    u.hidState.SameKeys (c.interrupt u i).hidState := by
  cases i with
  | general hardware => exact c.keeps_handleGeneralInterrupt u.hidState _ ⟨rfl, rfl⟩
  | endpoint hardware => exact (c.stable_keysHeld u.hidState).handleEndpointInterrupt _ ⟨rfl, rfl⟩

theorem interrupts_sameKeys (u : Device σ) (later : List (Interrupt σ)) :
    u.hidState.SameKeys (later.foldl c.interrupt u).hidState := by
  induction later generalizing u with
  | nil => exact ⟨rfl, rfl⟩
  | cons i rest ih =>
    have hfirst := c.interrupt_sameKeys u i
    have hrest := ih (c.interrupt u i)
    exact ⟨hrest.1.trans hfirst.1, hrest.2.trans hfirst.2⟩

end UsbControllerImpl

def Device.held (key mod : UInt8) (u : Device Script) : Device Script :=
  { u with hidState := hold key mod u.hidState }

section Releasing

variable (descriptorList : List DescriptorContainer) (polls : ℕ) (key mod : UInt8)

-- Once the call has returned, no report that the host gets shows the key, whatever comes after it.
def NoStuckKeys (u : Device Script) : Prop :=
  ∀ b t, (Script.controller descriptorList polls).sendKeypress Script.meanwhile key mod u =
    (some b, t) → ∀ later : List (Interrupt Script), u.hidState.Released
      (later.foldl (Script.controller descriptorList polls).interrupt t).hidState

theorem sendState_sameKeys (u : Device Script) : u.hidState.SameKeys
    ((Script.controller descriptorList polls).sendState Script.meanwhile u).2.hidState := by
  let c := Script.controller descriptorList polls
  have hmeanwhile : Keeps (keysHeld u.hidState) Script.meanwhile := fun v hv =>
    ⟨(Interference.modifierKeys _ _).trans hv.1, (Interference.keyboardKeys _ _).trans hv.2⟩
  exact (c.stable_keysHeld u.hidState).sendState hmeanwhile (c.keeps_sendHidState _) u ⟨rfl, rfl⟩

variable {descriptorList polls key mod} {u : Device Script}

theorem sendKeypress_of_sent {t : Device Script}
    (h : (Script.controller descriptorList polls).sendState Script.meanwhile (u.held key mod) =
      (some true, t)) :
    (Script.controller descriptorList polls).sendKeypress Script.meanwhile key mod u =
      (Script.controller descriptorList polls).sendState Script.meanwhile (t.held 0 0) := by
  rw [sendKeypress, updateHid, modify_bind]
  exact bind_of_some h _

theorem sendKeypress_of_refused {t : Device Script}
    (h : (Script.controller descriptorList polls).sendState Script.meanwhile (u.held key mod) =
      (some false, t)) :
    (Script.controller descriptorList polls).sendKeypress Script.meanwhile key mod u =
      (some false, t) := by
  rw [sendKeypress, updateHid, modify_bind]
  exact bind_of_some h _

theorem sendKeypress_of_unfinished {t : Device Script}
    (h : (Script.controller descriptorList polls).sendState Script.meanwhile (u.held key mod) =
      (none, t)) :
    (Script.controller descriptorList polls).sendKeypress Script.meanwhile key mod u =
      (none, t) := by
  rw [sendKeypress, updateHid, modify_bind]
  exact bind_of_none h _

theorem released_of_held {before hid hid' : HidState}
    (ho : ∀ i, i ≠ 0 → hid.keyboardKeys i = before.keyboardKeys i)
    (h : (hold 0 0 hid).SameKeys hid') : before.Released hid' := by
  refine h.released_iff.mpr ⟨rfl, by simp [hold], fun i hi => ?_⟩
  simpa [hold, hi] using ho i hi

theorem noStuckKeys_of_released
    (h : ∀ b t, (Script.controller descriptorList polls).sendKeypress Script.meanwhile key mod u =
      (some b, t) → u.hidState.Released t.hidState) : NoStuckKeys descriptorList polls key mod u :=
  fun b t hrun later =>
    ((Script.controller descriptorList polls).interrupts_sameKeys t later).released_iff.mpr (h b t hrun)

end Releasing

theorem no_stuck_keys_iff (descriptorList : List DescriptorContainer) (polls : ℕ)
    (key mod : UInt8) (u : Device Script) :
    NoStuckKeys descriptorList polls key mod u ↔
      ((∃ n < polls, (u.held key mod).Refused n) → key = 0 ∧ mod = 0) := by
  let c := Script.controller descriptorList polls
  constructor
  · rintro hreleased ⟨n, hn, hrefused⟩
    obtain ⟨t, -, hrun⟩ := sendState_refused descriptorList hrefused hn
    have hsame := sendState_sameKeys descriptorList polls (u.held key mod)
    rw [hrun] at hsame
    have hkeys := hsame.released_iff.mp (hreleased _ _ (sendKeypress_of_refused hrun) [])
    exact ⟨by simpa [Device.held, hold] using hkeys.key, hkeys.modifierKeys⟩
  · intro hcond
    refine noStuckKeys_of_released fun b t hrun => ?_
    have hfirst := sendState_sameKeys descriptorList polls (u.held key mod)
    rcases hsend : c.sendState Script.meanwhile (u.held key mod) with ⟨_ | _ | _, v⟩
    · rw [sendKeypress_of_unfinished hsend] at hrun
      simp at hrun
    · obtain ⟨rfl, rfl⟩ := hcond (refused_of_unsent hsend)
      rw [sendKeypress_of_refused hsend] at hrun
      rw [hsend] at hfirst
      cases hrun
      exact released_of_held (fun i _ => rfl) hfirst
    · rw [sendKeypress_of_sent hsend] at hrun
      have hsecond := sendState_sameKeys descriptorList polls (v.held 0 0)
      rw [hrun] at hsecond
      rw [hsend] at hfirst
      refine released_of_held (fun i hi => ?_) hsecond
      have hkeys : v.hidState.keyboardKeys = (hold key mod u.hidState).keyboardKeys := hfirst.2
      simp [hkeys, hold, hi]

def unconfigured : Device Script where
  hidState := {}
  hardware := { answers := fun _ _ => 0, sreg := bit SREG_I }
  events := []

theorem unconfigured_refused (key mod : UInt8) : (unconfigured.held key mod).Refused 0 where
  goes := by simp
  blocked := by simp [Script.writable, Device.started, Device.onScript, Device.held, unconfigured,
    Script.disabled]
  ends h := Bool.noConfusion h

theorem key_stuck_when_unconfigured : ∃ t,
    (Script.controller [] 1).sendKeypress Script.meanwhile 0x04 0x02 unconfigured = (some false, t) ∧
      t.hidState.report = [0x02, 0, 0x04, 0, 0, 0, 0, 0] ∧
      ¬ NoStuckKeys [] 1 0x04 0x02 unconfigured := by
  obtain ⟨t, hquits, hrun⟩ := sendState_refused [] (unconfigured_refused 0x04 0x02) Nat.one_pos
  have hreport : t.hidState.report = [0x02, 0, 0x04, 0, 0, 0, 0, 0] := by
    rw [hquits.hidState]
    decide
  refine ⟨t, sendKeypress_of_refused hrun, hreport, fun hreleased => ?_⟩
  have hkey : t.hidState.modifierKeys = 0 :=
    (hreleased _ _ (sendKeypress_of_refused hrun) []).modifierKeys
  rw [HidState.report, hkey] at hreport
  simp at hreport

end Threeboard.Usb
