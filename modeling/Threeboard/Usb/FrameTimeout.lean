import Threeboard.Usb.Sending
import Mathlib.Order.Bounds.Defs
import Mathlib.Tactic.Linarith

namespace Threeboard.Usb

open Actions Actions.Action Mcu UsbControllerImpl

namespace Device

def elapsed (u : Device Script) : ℕ → ℕ
  | 0 => 0
  | n + 1 => if u.frame (n + 1) = u.frame n then u.elapsed n else u.elapsed n + 1

structure Unanswered (u : Device Script) : Prop where
  blocked : ∀ n, u.hardware.writable n = false
  configured : ∀ n, u.hardware.configured u.hidState n = true
  frames : ∀ n, u.frame (n + 1) = u.frame n ∨ u.frame (n + 1) = u.frame n + 1

variable {u : Device Script}

theorem elapsed_succ_le (u : Device Script) (n : ℕ) : u.elapsed (n + 1) ≤ u.elapsed n + 1 := by
  rw [elapsed]
  split <;> omega

theorem frame_eq (h : u.Unanswered) (n : ℕ) :
    (u.frame n).toNat = ((u.frame 0).toNat + u.elapsed n) % 256 := by
  induction n with
  | zero => exact (Nat.mod_eq_of_lt (u.frame 0).toNat_lt).symm
  | succ n ih =>
    rw [elapsed]
    split
    · rename_i hsame
      rw [hsame, ih]
    · rename_i hmoved
      rw [(h.frames n).resolve_left hmoved, UInt8.toNat_add, ih]
      have hone : (1 : UInt8).toNat = 1 := rfl
      omega

theorem timedOut_frame_iff (u : Device Script) (n : ℕ) :
    timedOut (u.frame n) (u.frame 0) = true ↔ (u.frame 0).toNat + 50 ≤ (u.frame n).toNat := by
  have hlimit : kFrameTimeout.toNat = 50 := rfl
  rw [timedOut, hlimit, decide_eq_true_iff]
  omega

theorem late_started (u : Device Script) (n : ℕ) :
    u.started.hardware.late (u.frame 0) n = timedOut (u.frame (n + 1)) (u.frame 0) := by
  rw [Script.late, started_udfnuml, Nat.add_assoc, Nat.add_comm 1]
  rfl

theorem goes_of_unanswered (h : u.Unanswered) {n : ℕ}
    (hframe : (u.frame (n + 1)).toNat < (u.frame 0).toNat + 50) : u.Goes n where
  writable := (u.writable_started n).trans (h.blocked n)
  configured := (u.configured_started n).trans (h.configured n)
  late := by
    rw [late_started, ← Bool.not_eq_true, timedOut_frame_iff]
    omega

theorem goes_forever (h : u.Unanswered) (hstart : 205 < u.frame 0) (n : ℕ) : u.Goes n := by
  have hbound := (u.frame (n + 1)).toNat_lt
  have hlow : 205 < (u.frame 0).toNat := hstart
  exact goes_of_unanswered h (by omega)

variable {n : ℕ} (hn : IsLeast {n | 50 ≤ u.elapsed n} n)

include hn

theorem elapsed_lt {k : ℕ} (hk : k < n) : u.elapsed k < 50 := by
  by_contra hlate
  have hle := hn.2 (Nat.not_lt.mp hlate)
  omega

theorem goes_before (h : u.Unanswered) (hstart : u.frame 0 ≤ 205) {m : ℕ} (hm : m + 1 < n) :
    u.Goes m := by
  have hearly := elapsed_lt hn hm
  have hlow : (u.frame 0).toNat ≤ 205 := hstart
  have hframe := frame_eq h (m + 1)
  exact goes_of_unanswered h (by omega)

theorem refused_at (h : u.Unanswered) (hstart : u.frame 0 ≤ 205) : ∃ m, n = m + 1 ∧ u.Refused m := by
  have hreached : 50 ≤ u.elapsed n := hn.1
  obtain ⟨m, rfl⟩ : ∃ m, n = m + 1 := by
    cases n with
    | zero => simp [elapsed] at hreached
    | succ m => exact ⟨m, rfl⟩
  refine ⟨m, rfl, fun k hk => goes_before hn h hstart (by omega),
    (u.writable_started m).trans (h.blocked m), fun _ => ?_⟩
  have hearly := elapsed_lt hn m.lt_succ_self
  have hlow : (u.frame 0).toNat ≤ 205 := hstart
  have hframe := frame_eq h (m + 1)
  have hstep := u.elapsed_succ_le m
  rw [late_started, timedOut_frame_iff]
  omega

end Device

variable (descriptorList : List DescriptorContainer)

def GivesUpAt (u : Device Script) (n : ℕ) : Prop :=
  ∀ polls ≥ n, ∃ t,
    (Script.controller descriptorList polls).sendState Script.meanwhile u = (some false, t) ∧
      t.hardware.reads .UDFNUML = u.hardware.reads .UDFNUML + n + 1 ∧
      t.hardware.reads .UEINTX = u.hardware.reads .UEINTX + n

theorem gives_up_after_fifty_frames_iff {u : Device Script} (h : u.Unanswered) {n : ℕ}
    (hn : IsLeast {n | 50 ≤ u.elapsed n} n) :
    GivesUpAt descriptorList u n ↔ u.frame 0 ≤ 205 := by
  constructor
  · intro hends
    by_contra hstart
    have hgoes := Device.goes_forever h (UInt8.not_le.mp hstart)
    obtain ⟨t, -, hrun⟩ := sendState_goes descriptorList fun k (_ : k < n) => hgoes k
    obtain ⟨t', hrun', -⟩ := hends n (Nat.le_refl n)
    simp [hrun] at hrun'
  · intro hstart polls hpolls
    obtain ⟨m, rfl, hrefused⟩ := Device.refused_at hn h hstart
    obtain ⟨t, hq, hrun⟩ := sendState_refused descriptorList hrefused
      (Nat.lt_of_succ_le hpolls)
    have hconf := (u.configured_started m).trans (h.configured m)
    refine ⟨t, hrun, ?_, ?_⟩
    · rw [hq.udfnuml hconf, Device.started_udfnuml]
      omega
    · rw [hq.ueintx, Device.started_ueintx]
      rfl

def ticking (initialFrameNum : UInt8) : Device Script where
  hidState := { configuration := kConfigurationValue }
  hardware := {
    answers := fun r n => if r = .UDFNUML then initialFrameNum + UInt8.ofNat n else 0
    sreg := bit SREG_I }
  events := []

theorem ticking_configuration (initialFrameNum : UInt8) (n : ℕ) :
    ((ticking initialFrameNum).hardware.hidAt (ticking initialFrameNum).hidState n).configuration =
      kConfigurationValue := by
  induction n with
  | zero => rfl
  | succ n ih => exact ih

theorem ticking_frame (initialFrameNum : UInt8) (n : ℕ) :
    (ticking initialFrameNum).frame n = initialFrameNum + UInt8.ofNat n := by
  simp [Device.frame, ticking]

theorem ticking_unanswered (initialFrameNum : UInt8) : (ticking initialFrameNum).Unanswered where
  blocked n := by simp [Script.writable, ticking]
  configured n := by
    rw [Script.configured, ticking_configuration]
    decide
  frames n := by
    right
    simp [ticking_frame, UInt8.add_assoc]

theorem ticking_elapsed (initialFrameNum : UInt8) (n : ℕ) :
    (ticking initialFrameNum).elapsed n = n := by
  induction n with
  | zero => rfl
  | succ n ih =>
    rw [Device.elapsed, ih, if_neg]
    simp [ticking_frame]

theorem ticking_first (initialFrameNum : UInt8) :
    IsLeast {n | 50 ≤ (ticking initialFrameNum).elapsed n} 50 := by
  simp only [ticking_elapsed]
  exact ⟨Nat.le_refl 50, fun _ h => h⟩

theorem gives_up_from_frame_zero : GivesUpAt [] (ticking 0) 50 :=
  (gives_up_after_fifty_frames_iff [] (ticking_unanswered 0) (ticking_first 0)).mpr
    (by rw [ticking_frame]; decide)

theorem polls_forever_from_frame_206 :
    (ticking 206).Unanswered ∧ IsLeast {n | 50 ≤ (ticking 206).elapsed n} 50 ∧
      ¬ GivesUpAt [] (ticking 206) 50 ∧
      ∀ polls, ((Script.controller [] polls).sendState Script.meanwhile (ticking 206)).1 = none := by
  have hstart : 205 < (ticking 206).frame 0 := by
    rw [ticking_frame]
    decide
  have hnone (polls : ℕ) : ∃ t, t.hardware.traffic = (ticking 206).hardware.traffic ∧
      (Script.controller [] polls).sendState Script.meanwhile (ticking 206) = (none, t) :=
    sendState_goes [] fun k _ => Device.goes_forever (ticking_unanswered 206) hstart k
  refine ⟨ticking_unanswered 206, ticking_first 206, fun hends => ?_, fun polls => ?_⟩
  · obtain ⟨t, hrun, -⟩ := hends 50 (Nat.le_refl 50)
    obtain ⟨t', -, hrun'⟩ := hnone 50
    simp [hrun] at hrun'
  · obtain ⟨t, -, hrun⟩ := hnone polls
    rw [hrun]

end Threeboard.Usb
