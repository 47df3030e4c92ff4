import Threeboard.Usb.Script
import Mathlib.Logic.Function.Iterate

namespace Threeboard.Usb

open Actions Actions.Action Mcu UsbControllerImpl

namespace Script

def controller (descriptorList : List DescriptorContainer) (polls : ℕ) :
    UsbControllerImpl Script := ⟨native, descriptorList, polls⟩

def enabled (s : Script) : Script :=
  (s.reading .SREG).writing .SREG (s.sreg ||| bit SREG_I)

def disabled (s : Script) : Script :=
  (s.reading .SREG).writing .SREG (s.sreg &&& ~~~bit SREG_I)

def opened (s : Script) : Script :=
  ((s.writing .UENUM kKeyboardEndpoint).enabled.interfered).reading .UEINTX

def refused (intrState : UInt8) (s : Script) : Script := s.opened.writing .SREG intrState

def around (intrState : UInt8) (s : Script) : Script :=
  (((s.refused intrState).reading .UDFNUML).reading .SREG).disabled

def writable (s : Script) (round : ℕ) : Bool :=
  s.answers .UEINTX (s.reads .UEINTX + round) &&& bit RWAL ≠ 0

def hidAt (s : Script) (hid : HidState) : ℕ → HidState
  | 0 => hid
  | round + 1 => (s.changes (s.rounds + round)).apply (s.hidAt hid round)

def configured (s : Script) (hid : HidState) (round : ℕ) : Bool :=
  (s.hidAt hid (round + 1)).configuration ≠ 0

def late (s : Script) (initialFrameNum : UInt8) (round : ℕ) : Bool :=
  timedOut (s.answers .UDFNUML (s.reads .UDFNUML + round)) initialFrameNum

end Script

structure Script.Goes (s : Script) (hid : HidState) (initialFrameNum : UInt8) (round : ℕ) : Prop where
  writable : s.writable round = false
  configured : s.configured hid round = true
  late : s.late initialFrameNum round = false

def Device.onScript (f : Script → Script) (u : Device Script) : Device Script :=
  { u with hardware := f u.hardware }

def Device.opened (u : Device Script) : Device Script := { u with
  hidState := u.hardware.hidAt u.hidState 1
  hardware := u.hardware.opened }

def Device.refused (intrState : UInt8) (u : Device Script) : Device Script := { u with
  hidState := u.hardware.hidAt u.hidState 1
  hardware := u.hardware.refused intrState }

def Device.around (intrState : UInt8) (u : Device Script) : Device Script := { u with
  hidState := u.hardware.hidAt u.hidState 1
  hardware := u.hardware.around intrState }

structure Shifted (m : ℕ) (u t : Device Script) : Prop where
  answers : t.hardware.answers = u.hardware.answers
  changes : t.hardware.changes = u.hardware.changes
  ueintx : t.hardware.reads .UEINTX = u.hardware.reads .UEINTX + m
  udfnuml : t.hardware.reads .UDFNUML = u.hardware.reads .UDFNUML + m
  rounds : t.hardware.rounds = u.hardware.rounds + m
  hidState : t.hidState = u.hardware.hidAt u.hidState m
  traffic : t.hardware.traffic = u.hardware.traffic

theorem Shifted.refl (u : Device Script) : Shifted 0 u u := ⟨rfl, rfl, rfl, rfl, rfl, rfl, rfl⟩

section Shifting

variable {u t v : Device Script} {m : ℕ} (h : Shifted m u t)

include h

theorem Shifted.hidAt (n : ℕ) :
    t.hardware.hidAt t.hidState n = u.hardware.hidAt u.hidState (m + n) := by
  induction n with
  | zero => exact h.hidState
  | succ n ih =>
    rw [Script.hidAt, ih, h.changes, h.rounds, Nat.add_assoc]
    rfl

theorem Shifted.trans {n : ℕ} (hv : Shifted n t v) : Shifted (m + n) u v where
  answers := hv.answers.trans h.answers
  changes := hv.changes.trans h.changes
  ueintx := by rw [hv.ueintx, h.ueintx, Nat.add_assoc]
  udfnuml := by rw [hv.udfnuml, h.udfnuml, Nat.add_assoc]
  rounds := by rw [hv.rounds, h.rounds, Nat.add_assoc]
  hidState := hv.hidState.trans (h.hidAt n)
  traffic := hv.traffic.trans h.traffic

theorem Shifted.writable (n : ℕ) : t.hardware.writable n = u.hardware.writable (m + n) := by
  simp only [Script.writable, h.answers, h.ueintx, Nat.add_assoc]

theorem Shifted.configured (n : ℕ) :
    t.hardware.configured t.hidState n = u.hardware.configured u.hidState (m + n) := by
  simp only [Script.configured, h.hidAt, Nat.add_assoc]

theorem Shifted.late (initialFrameNum : UInt8) (n : ℕ) :
    t.hardware.late initialFrameNum n = u.hardware.late initialFrameNum (m + n) := by
  simp only [Script.late, h.answers, h.udfnuml, Nat.add_assoc]

theorem Shifted.goes {initialFrameNum : UInt8} {n : ℕ}
    (hg : u.hardware.Goes u.hidState initialFrameNum (m + n)) :
    t.hardware.Goes t.hidState initialFrameNum n :=
  ⟨h.writable n ▸ hg.writable, h.configured n ▸ hg.configured, h.late _ n ▸ hg.late⟩

end Shifting

theorem shifted_around {u : Device Script} (h : u.hardware.writable 0 = false)
    (intrState : UInt8) : Shifted 1 u (u.around intrState) := by
  have hclear : u.hardware.answers .UEINTX (u.hardware.reads .UEINTX) &&& bit RWAL = 0 := by
    simpa [Script.writable] using h
  refine ⟨?_, ?_, ?_, ?_, ?_, ?_, ?_⟩ <;>
    simp [Device.around, Script.around, Script.refused, Script.opened, Script.enabled,
      Script.disabled, Script.access, Access.isTraffic, hclear]

section Round

variable {descriptorList : List DescriptorContainer} {polls : ℕ}

theorem get_run (r : Register) (u : Device Script) :
    (Script.controller descriptorList polls).get r u =
      (some (u.hardware.read r), u.onScript (Script.reading r)) := rfl

theorem set_run (r : Register) (value : UInt8) (u : Device Script) :
    (Script.controller descriptorList polls).set r value u =
      (some (), u.onScript (Script.writing r value)) := rfl

theorem checkFrames_run (initialFrameNum intrState : UInt8) (u : Device Script) :
    (Script.controller descriptorList polls).checkFrames initialFrameNum intrState u =
      let v := u.onScript (Script.writing .SREG intrState)
      if u.hidState.configuration = 0 then (some (.inr none), v)
      else if timedOut (u.hardware.read .UDFNUML) initialFrameNum then
        (some (.inr none), v.onScript (Script.reading .UDFNUML))
      else (some (.inl intrState), (v.onScript (Script.reading .UDFNUML)).onScript
        fun s => (s.reading .SREG).disabled) := by
  rw [checkFrames, bind_of_some (set_run .SREG intrState u), gets_bind]
  by_cases hc : u.hidState.configuration = 0
  · have hhid : (u.onScript (Script.writing .SREG intrState)).hidState.configuration = 0 := hc
    rw [if_pos hc, if_pos hhid]
    rfl
  · have hhid : (u.onScript (Script.writing .SREG intrState)).hidState.configuration ≠ 0 := hc
    rw [if_neg hc, if_neg hhid, bind_of_some (get_run .UDFNUML _)]
    have hread : (u.onScript (Script.writing .SREG intrState)).hardware.read .UDFNUML =
        u.hardware.read .UDFNUML := rfl
    rw [hread]
    by_cases ht : timedOut (u.hardware.read .UDFNUML) initialFrameNum
    · rw [if_pos ht, if_pos ht]
      rfl
    · rw [if_neg ht, if_neg ht]
      rfl

theorem pollEndpoint_run (initialFrameNum intrState : UInt8) (u : Device Script) :
    (Script.controller descriptorList polls).pollEndpoint Script.meanwhile initialFrameNum
      intrState u =
    if u.hardware.writable 0 then (some (.inr (some intrState)), u.opened)
    else (Script.controller descriptorList polls).checkFrames initialFrameNum intrState u.opened := by
  have hlook : (Script.controller descriptorList polls).pollEndpoint Script.meanwhile
      initialFrameNum intrState u =
    (if u.hardware.answers .UEINTX (u.hardware.reads .UEINTX) &&& bit RWAL ≠ 0 then
      pure (.inr (some intrState))
    else (Script.controller descriptorList polls).checkFrames initialFrameNum intrState)
      u.opened := rfl
  rw [hlook, Script.writable, Nat.add_zero]
  by_cases hw : u.hardware.answers .UEINTX (u.hardware.reads .UEINTX) &&& bit RWAL = 0 <;> simp [hw]

theorem round_goes {initialFrameNum : UInt8} (intrState : UInt8) {u : Device Script}
    (h : u.hardware.Goes u.hidState initialFrameNum 0) :
    (Script.controller descriptorList polls).pollEndpoint Script.meanwhile initialFrameNum
      intrState u = (some (.inl intrState), u.around intrState) := by
  have hconf : u.opened.hidState.configuration ≠ 0 := of_decide_eq_true h.configured
  have hread : u.opened.hardware.read .UDFNUML =
      u.hardware.answers .UDFNUML (u.hardware.reads .UDFNUML) := rfl
  have hlate : ¬ timedOut (u.opened.hardware.read .UDFNUML) initialFrameNum := by
    simpa [Script.late, hread] using h.late
  rw [pollEndpoint_run, h.writable, if_neg Bool.false_ne_true, checkFrames_run]
  simp only [if_neg hconf, if_neg hlate]
  rfl

variable (intrState : UInt8)

def Device.rounds (m : ℕ) (u : Device Script) : Device Script := (Device.around intrState)^[m] u

theorem shifted_rounds {initialFrameNum : UInt8} {u : Device Script} {m : ℕ}
    (h : ∀ k < m, u.hardware.Goes u.hidState initialFrameNum k) :
    Shifted m u (Device.rounds intrState m u) := by
  induction m with
  | zero => exact .refl u
  | succ m ih =>
    have hm := ih fun k hk => h k (by omega)
    have hw := (hm.writable 0).trans (h m (by omega)).writable
    rw [Device.rounds, Function.iterate_succ_apply']
    exact hm.trans (shifted_around hw intrState)

variable (descriptorList polls) in
theorem round_ready (initialFrameNum intrState : UInt8) {u : Device Script}
    (h : u.hardware.writable 0 = true) :
    (Script.controller descriptorList polls).pollEndpoint Script.meanwhile initialFrameNum
      intrState u = (some (.inr (some intrState)), u.opened) := by
  rw [pollEndpoint_run, if_pos h]

theorem round_unconfigured (initialFrameNum intrState : UInt8) {u : Device Script}
    (hw : u.hardware.writable 0 = false) (hc : u.hardware.configured u.hidState 0 = false) :
    (Script.controller descriptorList polls).pollEndpoint Script.meanwhile initialFrameNum
      intrState u = (some (.inr none), u.refused intrState) := by
  have hconf : u.opened.hidState.configuration = 0 := of_not_not (of_decide_eq_false hc)
  rw [pollEndpoint_run, hw, if_neg Bool.false_ne_true, checkFrames_run]
  simp only [if_pos hconf]
  rfl

theorem round_late {initialFrameNum : UInt8} (intrState : UInt8) {u : Device Script}
    (hw : u.hardware.writable 0 = false) (hc : u.hardware.configured u.hidState 0 = true)
    (hl : u.hardware.late initialFrameNum 0 = true) :
    (Script.controller descriptorList polls).pollEndpoint Script.meanwhile initialFrameNum
      intrState u = (some (.inr none), (u.refused intrState).onScript (Script.reading .UDFNUML)) := by
  have hconf : u.opened.hidState.configuration ≠ 0 := of_decide_eq_true hc
  have hlate : timedOut (u.opened.hardware.read .UDFNUML) initialFrameNum := hl
  rw [pollEndpoint_run, hw, if_neg Bool.false_ne_true, checkFrames_run]
  simp only [if_neg hconf, if_pos hlate]
  rfl

end Round

end Threeboard.Usb
