import Threeboard.Usb.Rounds
import Threeboard.Library.Polling
import Threeboard.Library.Bytes

namespace Threeboard.Usb

open Actions Actions.Action Mcu UsbControllerImpl

structure Script.Ready (s : Script) (hid : HidState) (initialFrameNum : UInt8) (round : ℕ) :
    Prop where
  goes : ∀ k < round, s.Goes hid initialFrameNum k
  writable : s.writable round = true

structure Script.Refused (s : Script) (hid : HidState) (initialFrameNum : UInt8) (round : ℕ) :
    Prop where
  goes : ∀ k < round, s.Goes hid initialFrameNum k
  blocked : s.writable round = false
  ends : s.configured hid round = true → s.late initialFrameNum round = true

theorem Script.rounds_cases (s : Script) (hid : HidState) (initialFrameNum : UInt8) (polls : ℕ) :
    (∃ n < polls, s.Ready hid initialFrameNum n) ∨
      (∃ n < polls, s.Refused hid initialFrameNum n) ∨
        ∀ n < polls, s.Goes hid initialFrameNum n := by
  induction polls with
  | zero => exact .inr (.inr (by simp))
  | succ polls ih =>
    rcases ih with ⟨n, hn, h⟩ | ⟨n, hn, h⟩ | hall
    · exact .inl ⟨n, by omega, h⟩
    · exact .inr (.inl ⟨n, by omega, h⟩)
    · cases hw : s.writable polls with
      | true => exact .inl ⟨polls, by omega, hall, hw⟩
      | false =>
        by_cases hends : s.configured hid polls = true → s.late initialFrameNum polls = true
        · exact .inr (.inl ⟨polls, by omega, hall, hw, hends⟩)
        · rw [Classical.not_imp, Bool.not_eq_true] at hends
          refine .inr (.inr fun n hn => ?_)
          rcases Nat.lt_succ_iff_lt_or_eq.mp hn with hlt | rfl
          · exact hall n hlt
          · exact ⟨hw, hends.1, hends.2⟩

namespace Script

def filled (bytes : List UInt8) (s : Script) : Script :=
  bytes.foldl (fun s byte => s.writing .UEDATX byte) s

def transmitted (bytes : List UInt8) (s : Script) : Script := (s.filled bytes).writing .UEINTX doneFlags

def writes (interrupts : Bool) (endpoint : UInt8) (bytes : List UInt8) : List Access :=
  bytes.map (⟨true, .UEDATX, ·, interrupts, endpoint⟩) ++
    [⟨true, .UEINTX, doneFlags, interrupts, endpoint⟩]

variable (bytes : List UInt8) (s : Script)

theorem filled_kept : (s.filled bytes).answers = s.answers ∧ (s.filled bytes).changes = s.changes ∧
    (s.filled bytes).sreg = s.sreg ∧ (s.filled bytes).uenum = s.uenum ∧
    (s.filled bytes).reads = s.reads ∧ (s.filled bytes).rounds = s.rounds := by
  induction bytes generalizing s with
  | nil => simp [filled]
  | cons byte rest ih => simpa [filled] using ih (s.writing .UEDATX byte)

theorem filled_traffic : (s.filled bytes).traffic =
    s.traffic ++ bytes.map (⟨true, .UEDATX, ·, s.interrupts, s.uenum⟩) := by
  induction bytes generalizing s with
  | nil => simp [filled]
  | cons byte rest ih =>
    have htail := ih (s.writing .UEDATX byte)
    simp only [filled, interrupts, List.foldl_cons, writing_traffic, writing_sreg, writing_uenum,
      reduceCtorEq, if_false] at htail ⊢
    rw [htail]
    simp [access, interrupts, Access.isTraffic]

theorem transmitted_traffic :
    (s.transmitted bytes).traffic = s.traffic ++ writes s.interrupts s.uenum bytes := by
  obtain ⟨-, -, hsreg, huenum, -⟩ := filled_kept bytes s
  simp [transmitted, filled_traffic, access, interrupts, hsreg, huenum, Access.isTraffic, writes]

end Script

section Sending

variable {descriptorList : List DescriptorContainer} {polls : ℕ}

theorem fill_run (bytes : List UInt8) (u : Device Script) :
    (Script.controller descriptorList polls).fill bytes u =
      (some (), u.onScript (Script.filled bytes)) := by
  induction bytes generalizing u with
  | nil => rfl
  | cons byte rest ih =>
    rw [fill, List.forM_cons, bind_of_some (set_run .UEDATX byte u)]
    exact ih _

def Device.reported (u : Device Script) : Device Script := { u with
  hidState := { u.hidState with idleCount := 0 }
  hardware := u.hardware.transmitted u.hidState.report }

theorem reported_answers (v : Device Script) :
    v.reported.hardware.answers = v.hardware.answers :=
  (Script.filled_kept v.hidState.report v.hardware).1

theorem reported_changes (v : Device Script) :
    v.reported.hardware.changes = v.hardware.changes :=
  (Script.filled_kept v.hidState.report v.hardware).2.1

theorem sendHidState_run (u : Device Script) :
    (Script.controller descriptorList polls).sendHidState u = (some (), u.reported) := by
  rw [sendHidState, updateHid, modify_bind, gets_bind, bind_of_some (fill_run _ _)]
  rfl

def Device.started (u : Device Script) : Device Script :=
  u.onScript fun s => (s.reading .SREG).disabled.reading .UDFNUML

def Device.frame (u : Device Script) (n : ℕ) : UInt8 :=
  u.hardware.answers .UDFNUML (u.hardware.reads .UDFNUML + n)

theorem sendState_run (u : Device Script) :
    (Script.controller descriptorList polls).sendState Script.meanwhile u =
      (Action.loop ((Script.controller descriptorList polls).pollEndpoint Script.meanwhile
        (u.frame 0)) polls u.hardware.sreg >>=
          (Script.controller descriptorList polls).finishSending) u.started := rfl

variable {initialFrameNum intrState : UInt8} {u : Device Script} {n : ℕ}

theorem rounds_go (h : ∀ k < n, u.hardware.Goes u.hidState initialFrameNum k) :
    ∀ k < n, (Script.controller descriptorList polls).pollEndpoint Script.meanwhile
      initialFrameNum intrState (Device.rounds intrState k u) =
        (some (.inl intrState), Device.rounds intrState (k + 1) u) := by
  intro k hk
  have hshift := shifted_rounds intrState fun j hj => h j (Nat.lt_trans hj hk)
  rw [round_goes intrState (hshift.goes (h k hk))]
  exact congrArg (Prod.mk _) (Function.iterate_succ_apply' _ _ _).symm

variable (descriptorList polls intrState) in
theorem loop_ready (h : u.hardware.Ready u.hidState initialFrameNum n) {rounds : ℕ}
    (hn : n < rounds) :
    Action.loop ((Script.controller descriptorList polls).pollEndpoint Script.meanwhile
      initialFrameNum) rounds intrState u =
        (some (some intrState), (Device.rounds intrState n u).opened) := by
  have hw := ((shifted_rounds intrState h.goes).writable 0).trans h.writable
  have hdone := round_ready descriptorList polls initialFrameNum intrState hw
  exact loop_ends (b := fun _ => intrState) (s := fun k => Device.rounds intrState k u)
    (rounds_go h.goes) hdone hn

variable (descriptorList polls intrState) in
theorem loop_goes {rounds : ℕ} (h : ∀ k < rounds, u.hardware.Goes u.hidState initialFrameNum k) :
    Action.loop ((Script.controller descriptorList polls).pollEndpoint Script.meanwhile
      initialFrameNum) rounds intrState u = (none, Device.rounds intrState rounds u) :=
  loop_unfinished (b := fun _ => intrState) (s := fun k => Device.rounds intrState k u)
    (rounds_go h)

structure Quits (intrState : UInt8) (n : ℕ) (u t : Device Script) : Prop where
  hidState : t.hidState = u.hardware.hidAt u.hidState (n + 1)
  sreg : t.hardware.sreg = intrState
  traffic : t.hardware.traffic = u.hardware.traffic
  ueintx : t.hardware.reads .UEINTX = u.hardware.reads .UEINTX + n + 1
  udfnuml : u.hardware.configured u.hidState n = true →
    t.hardware.reads .UDFNUML = u.hardware.reads .UDFNUML + n + 1

theorem Shifted.quits {t v : Device Script} (h : Shifted n u t) (hq : Quits intrState 0 t v) :
    Quits intrState n u v where
  hidState := hq.hidState.trans (h.hidAt 1)
  sreg := hq.sreg
  traffic := hq.traffic.trans h.traffic
  ueintx := by rw [hq.ueintx, h.ueintx]
  udfnuml hc := by rw [hq.udfnuml ((h.configured 0).trans hc), h.udfnuml]

variable (descriptorList polls intrState) in
theorem quits_of_round (h : u.hardware.Refused u.hidState initialFrameNum 0) :
    ∃ t, Quits intrState 0 u t ∧
      (Script.controller descriptorList polls).pollEndpoint Script.meanwhile initialFrameNum
        intrState u = (some (.inr none), t) := by
  have hclear : u.hardware.answers .UEINTX (u.hardware.reads .UEINTX) &&& bit RWAL = 0 := by
    simpa [Script.writable] using h.blocked
  cases hc : u.hardware.configured u.hidState 0 with
  | false =>
    refine ⟨_, ⟨rfl, ?_, ?_, ?_, by simp [hc]⟩, round_unconfigured _ _ h.blocked hc⟩ <;>
      simp [Device.refused, Script.refused, Script.opened, Script.enabled, Script.access,
        Access.isTraffic, hclear]
  | true =>
    refine ⟨_, ⟨rfl, ?_, ?_, ?_, fun _ => ?_⟩, round_late _ h.blocked hc (h.ends hc)⟩ <;>
      simp [Device.onScript, Device.refused, Script.refused, Script.opened, Script.enabled,
        Script.access, Access.isTraffic, hclear]

variable (descriptorList polls intrState) in
theorem loop_refused (h : u.hardware.Refused u.hidState initialFrameNum n) {rounds : ℕ}
    (hn : n < rounds) :
    ∃ t, Quits intrState n u t ∧
      Action.loop ((Script.controller descriptorList polls).pollEndpoint Script.meanwhile
        initialFrameNum) rounds intrState u = (some none, t) := by
  have hshift := shifted_rounds intrState h.goes
  have hlast : (Device.rounds intrState n u).hardware.Refused (Device.rounds intrState n u).hidState
      initialFrameNum 0 :=
    ⟨by simp, (hshift.writable 0).trans h.blocked,
      fun hc => (hshift.late _ 0).trans (h.ends ((hshift.configured 0).symm.trans hc))⟩
  obtain ⟨t, ht, hdone⟩ := quits_of_round descriptorList polls intrState hlast
  exact ⟨t, hshift.quits ht, loop_ends (b := fun _ => intrState)
    (s := fun k => Device.rounds intrState k u) (rounds_go h.goes) hdone hn⟩

theorem hidAt_started (u : Device Script) (n : ℕ) :
    u.started.hardware.hidAt u.started.hidState n = u.hardware.hidAt u.hidState n := by
  induction n with
  | zero => rfl
  | succ n ih =>
    rw [Script.hidAt, ih]
    rfl

theorem Device.started_traffic (u : Device Script) :
    u.started.hardware.traffic = u.hardware.traffic := by
  simp [Device.started, Device.onScript, Script.disabled, Script.access, Access.isTraffic]

theorem Device.started_ueintx (u : Device Script) :
    u.started.hardware.reads .UEINTX = u.hardware.reads .UEINTX := by
  simp [Device.started, Device.onScript, Script.disabled]

theorem Device.started_udfnuml (u : Device Script) :
    u.started.hardware.reads .UDFNUML = u.hardware.reads .UDFNUML + 1 := by
  simp [Device.started, Device.onScript, Script.disabled]

theorem Device.writable_started (u : Device Script) (n : ℕ) :
    u.started.hardware.writable n = u.hardware.writable n := by
  rw [Script.writable, started_ueintx]
  rfl

theorem Device.configured_started (u : Device Script) (n : ℕ) :
    u.started.hardware.configured u.started.hidState n = u.hardware.configured u.hidState n := by
  rw [Script.configured, hidAt_started]
  rfl

def Device.Ready (u : Device Script) (n : ℕ) : Prop :=
  u.started.hardware.Ready u.hidState (u.frame 0) n

def Device.Refused (u : Device Script) (n : ℕ) : Prop :=
  u.started.hardware.Refused u.hidState (u.frame 0) n

def Device.Goes (u : Device Script) (n : ℕ) : Prop :=
  u.started.hardware.Goes u.hidState (u.frame 0) n

def transmission (ueintx : UInt8) (bytes : List UInt8) : List Access :=
  ⟨false, .UEINTX, ueintx, true, kKeyboardEndpoint⟩ :: Script.writes true kKeyboardEndpoint bytes

structure Sent (n : ℕ) (u t : Device Script) : Prop where
  hidState : t.hidState = { u.hardware.hidAt u.hidState (n + 1) with idleCount := 0 }
  answers : t.hardware.answers = u.hardware.answers
  changes : t.hardware.changes = u.hardware.changes
  sreg : t.hardware.sreg = u.hardware.sreg
  traffic : t.hardware.traffic = u.hardware.traffic ++
    transmission (u.hardware.answers .UEINTX (u.hardware.reads .UEINTX + n))
      (u.hardware.hidAt u.hidState (n + 1)).report

theorem opened_interrupts (s : Script) : s.opened.interrupts = true := by
  have hflag : ∀ b : UInt8, (b ||| bit SREG_I) &&& bit SREG_I ≠ 0 :=
    Bytes.forall_byte (by decide +kernel)
  simpa [Script.interrupts, Script.opened, Script.enabled] using hflag s.sreg

theorem opened_uenum (s : Script) : s.opened.uenum = kKeyboardEndpoint := by
  simp [Script.opened, Script.enabled]

theorem opened_traffic {s : Script} (h : s.writable 0 = true) :
    s.opened.traffic = s.traffic ++
      [⟨false, .UEINTX, s.answers .UEINTX (s.reads .UEINTX), true, kKeyboardEndpoint⟩] := by
  have hset : s.answers .UEINTX (s.reads .UEINTX) &&& bit RWAL ≠ 0 := by
    simpa [Script.writable] using h
  let before := ((s.writing .UENUM kKeyboardEndpoint).enabled).interfered
  have hbefore : before.traffic = s.traffic := by
    simp [before, Script.enabled, Script.access, Access.isTraffic]
  have hread : before.access false .UEINTX (before.read .UEINTX) =
      ⟨false, .UEINTX, s.answers .UEINTX (s.reads .UEINTX), true, kKeyboardEndpoint⟩ := by
    have hflag : before.interrupts = true := opened_interrupts s
    have huenum : before.uenum = kKeyboardEndpoint := opened_uenum s
    rw [Script.access, hflag, huenum]
    rfl
  have hopened : s.opened = before.reading .UEINTX := rfl
  rw [hopened, Script.reading_traffic, hbefore, hread]
  simp [Access.isTraffic, hset]

theorem reported_traffic {v : Device Script} (h : v.hardware.writable 0 = true) :
    v.opened.reported.hardware.traffic = v.hardware.traffic ++
      transmission (v.hardware.answers .UEINTX (v.hardware.reads .UEINTX))
        (v.hardware.hidAt v.hidState 1).report := by
  have htraffic := Script.transmitted_traffic v.opened.hidState.report v.hardware.opened
  rw [opened_interrupts, opened_uenum, opened_traffic h, List.append_assoc] at htraffic
  exact htraffic

variable (descriptorList) in
theorem sendState_ready (h : u.Ready n) (hn : n < polls) :
    ∃ t, Sent n u t ∧
      (Script.controller descriptorList polls).sendState Script.meanwhile u = (some true, t) := by
  have hrun := loop_ready descriptorList polls u.hardware.sreg h hn
  have hshift := shifted_rounds u.hardware.sreg h.goes
  let v := Device.rounds u.hardware.sreg n u.started
  refine ⟨v.opened.reported.onScript (Script.writing .SREG u.hardware.sreg), ⟨?_, ?_, ?_, rfl, ?_⟩, ?_⟩
  · have hstate := hshift.hidAt 1
    rw [hidAt_started] at hstate
    exact congrArg (fun hid => { hid with idleCount := 0 }) hstate
  · exact (reported_answers v.opened).trans hshift.answers
  · exact (reported_changes v.opened).trans hshift.changes
  · have hw := (hshift.writable 0).trans h.writable
    have htraffic := reported_traffic hw
    rw [hshift.answers, hshift.ueintx, hshift.hidAt, hidAt_started, hshift.traffic, Device.started_traffic,
      Device.started_ueintx] at htraffic
    have hrestore : (v.opened.reported.onScript (Script.writing .SREG u.hardware.sreg)).hardware.traffic
        = v.opened.reported.hardware.traffic := by
      simp [Device.onScript, Access.isTraffic, Script.access]
    exact hrestore.trans htraffic
  · rw [sendState_run, bind_of_some hrun, finishSending, bind_of_some (sendHidState_run _)]
    rfl

variable (descriptorList) in
theorem sendState_refused (h : u.Refused n) (hn : n < polls) :
    ∃ t, Quits u.hardware.sreg n u.started t ∧
      (Script.controller descriptorList polls).sendState Script.meanwhile u = (some false, t) := by
  obtain ⟨t, ht, hrun⟩ := loop_refused descriptorList polls u.hardware.sreg h hn
  refine ⟨t, ht, ?_⟩
  rw [sendState_run, bind_of_some hrun]
  rfl

variable (descriptorList) in
theorem sendState_goes (h : ∀ k < polls, u.Goes k) :
    ∃ t, t.hardware.traffic = u.hardware.traffic ∧
      (Script.controller descriptorList polls).sendState Script.meanwhile u = (none, t) := by
  have hrun := loop_goes descriptorList polls u.hardware.sreg h
  have htraffic := (shifted_rounds u.hardware.sreg h).traffic
  exact ⟨_, htraffic.trans u.started_traffic, by rw [sendState_run, bind_of_none hrun]⟩

variable (u polls) in
theorem Device.sendState_cases : (∃ n < polls, u.Ready n) ∨ (∃ n < polls, u.Refused n) ∨
    ∀ k < polls, u.Goes k :=
  u.started.hardware.rounds_cases u.hidState (u.frame 0) polls

theorem ready_of_sent {t : Device Script}
    (h : (Script.controller descriptorList polls).sendState Script.meanwhile u = (some true, t)) :
    ∃ n < polls, u.Ready n := by
  rcases u.sendState_cases polls with hready | ⟨n, hn, hrefused⟩ | hgoes
  · exact hready
  · obtain ⟨v, -, hrun⟩ := sendState_refused descriptorList hrefused hn
    simp [hrun] at h
  · obtain ⟨v, -, hrun⟩ := sendState_goes descriptorList hgoes
    simp [hrun] at h

theorem refused_of_unsent {t : Device Script}
    (h : (Script.controller descriptorList polls).sendState Script.meanwhile u = (some false, t)) :
    ∃ n < polls, u.Refused n := by
  rcases u.sendState_cases polls with ⟨n, hn, hready⟩ | hrefused | hgoes
  · obtain ⟨v, -, hrun⟩ := sendState_ready descriptorList hready hn
    simp [hrun] at h
  · exact hrefused
  · obtain ⟨v, -, hrun⟩ := sendState_goes descriptorList hgoes
    simp [hrun] at h

end Sending

end Threeboard.Usb
