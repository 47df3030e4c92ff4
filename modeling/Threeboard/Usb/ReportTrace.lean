import Threeboard.Usb.Releasing
import Threeboard.Usb.Atomicity

namespace Threeboard.Usb

open Actions Actions.Action Mcu UsbControllerImpl

def pressReport (key mod : UInt8) : List UInt8 := [mod, 0, key, 0, 0, 0, 0, 0]
def releaseReport : List UInt8 := [0, 0, 0, 0, 0, 0, 0, 0]

def Reports (bytes : List UInt8) (traffic : List Access) : Prop :=
  ∃ ueintx, ueintx &&& bit RWAL ≠ 0 ∧ traffic = transmission ueintx bytes

section Quiet

variable {descriptorList : List DescriptorContainer} {polls : ℕ} {u t : Device Script}

theorem hidAt_of_quiet {s : Script} (h : s.changes = fun _ => .none) (hid : HidState) (n : ℕ) :
    s.hidAt hid n = hid := by
  induction n with
  | zero => rfl
  | succ n ih =>
    rw [Script.hidAt, ih, h]
    rfl

theorem sent_of_quiet
    (h : (Script.controller descriptorList polls).sendState Script.meanwhile u = (some true, t))
    (hquiet : u.hardware.changes = fun _ => .none) :
    ∃ traffic, Reports u.hidState.report traffic ∧
      t.hardware.traffic = u.hardware.traffic ++ traffic ∧ t.hardware.sreg = u.hardware.sreg ∧
      t.hardware.changes = u.hardware.changes ∧ t.hidState = { u.hidState with idleCount := 0 } := by
  obtain ⟨n, hn, hready⟩ := ready_of_sent h
  obtain ⟨v, hsent, hrun⟩ := sendState_ready descriptorList hready hn
  obtain rfl : v = t := congrArg Prod.snd (hrun.symm.trans h)
  have hstate := hidAt_of_quiet hquiet u.hidState (n + 1)
  have hwritable := (u.writable_started n).symm.trans hready.writable
  refine ⟨_, ⟨_, of_decide_eq_true hwritable, rfl⟩, ?_, hsent.sreg, hsent.changes, ?_⟩
  · rw [hsent.traffic, hstate]
  · rw [hsent.hidState, hstate]

theorem unsent_trace
    (h : (Script.controller descriptorList polls).sendState Script.meanwhile u = (some false, t)) :
    t.hardware.traffic = u.hardware.traffic ∧ t.hardware.sreg = u.hardware.sreg := by
  obtain ⟨n, hn, hrefused⟩ := refused_of_unsent h
  obtain ⟨v, hquits, hrun⟩ := sendState_refused descriptorList hrefused hn
  obtain rfl : v = t := congrArg Prod.snd (hrun.symm.trans h)
  exact ⟨hquits.traffic.trans u.started_traffic, hquits.sreg⟩

end Quiet

theorem report_hold {hid : HidState} (h : ∀ i, i ≠ 0 → hid.keyboardKeys i = 0) (key mod : UInt8) :
    (hold key mod hid).report = pressReport key mod := by
  simp [HidState.report, hold, pressReport, List.ofFn_succ, h]

structure Traced (key mod : UInt8) (sent : Bool) (u t : Device Script) : Prop where
  sreg : t.hardware.sreg = u.hardware.sreg
  reports : ∃ reports, t.hardware.traffic = u.hardware.traffic ++ reports.flatten ∧
    (sent = true → List.Forall₂ Reports [pressReport key mod, releaseReport] reports) ∧
    (sent = false → reports = [] ∨ List.Forall₂ Reports [pressReport key mod] reports)

theorem sendKeypress_traced {descriptorList : List DescriptorContainer} {polls : ℕ}
    {key mod : UInt8} {u : Device Script} (hquiet : u.hardware.changes = fun _ => .none)
    (hkeys : ∀ i, i ≠ 0 → u.hidState.keyboardKeys i = 0) {sent : Bool} {t : Device Script}
    (h : (Script.controller descriptorList polls).sendKeypress Script.meanwhile key mod u =
      (some sent, t)) : Traced key mod sent u t := by
  let c := Script.controller descriptorList polls
  rcases hpress : c.sendState Script.meanwhile (u.held key mod) with ⟨_ | _ | _, v⟩
  · rw [sendKeypress_of_unfinished hpress] at h
    simp at h
  · rw [sendKeypress_of_refused hpress] at h
    cases h
    obtain ⟨htraffic, hsreg⟩ := unsent_trace hpress
    exact ⟨hsreg, [], htraffic.trans (List.append_nil _).symm, by simp, by simp⟩
  · rw [sendKeypress_of_sent hpress] at h
    obtain ⟨press, hp, htraffic, hsreg, hchanges, hstate⟩ := sent_of_quiet hpress hquiet
    have hpressed : (u.held key mod).hidState.report = pressReport key mod := report_hold hkeys key mod
    have hothers : ∀ i, i ≠ 0 → v.hidState.keyboardKeys i = 0 := by
      intro i hi
      rw [hstate]
      simpa [Device.held, hold, hi] using hkeys i hi
    have hreleased : (v.held 0 0).hidState.report = releaseReport := report_hold hothers 0 0
    cases sent with
    | false =>
      obtain ⟨hnone, hsreg'⟩ := unsent_trace h
      refine ⟨hsreg'.trans hsreg, [press], ?_, by simp, fun _ => .inr ?_⟩
      · rw [List.flatten_singleton]
        exact hnone.trans htraffic
      · exact .cons (hpressed ▸ hp) .nil
    | true =>
      obtain ⟨release, hr, htraffic', hsreg', -⟩ := sent_of_quiet h (hchanges.trans hquiet)
      refine ⟨hsreg'.trans hsreg, [press, release], ?_, fun _ => ?_, by simp⟩
      · rw [List.flatten_cons, List.flatten_singleton, ← List.append_assoc]
        exact htraffic'.trans (congrArg (· ++ release) htraffic)
      · exact .cons (hpressed ▸ hp) (.cons (hreleased ▸ hr) .nil)

theorem sendKeypress_traced_when_receptive :
    ∃ t, (Script.controller [] 1).sendKeypress Script.meanwhile 0x04 0x02 (receptive (bit SREG_I)) =
      (some true, t) ∧ Traced 0x04 0x02 true (receptive (bit SREG_I)) t := by
  have hopen : ((receptive (bit SREG_I)).held 0x04 0x02).Ready 0 := ready_of_open rfl
  obtain ⟨v, hsent, hpress⟩ := sendState_ready [] hopen Nat.one_pos
  have hreopen : (v.held 0 0).Ready 0 := ready_of_open hsent.answers
  obtain ⟨t, -, hrelease⟩ := sendState_ready [] hreopen Nat.one_pos
  have hrun := (sendKeypress_of_sent hpress).trans hrelease
  exact ⟨t, hrun, sendKeypress_traced rfl (fun _ _ => rfl) hrun⟩

end Threeboard.Usb
