import Threeboard.Usb.Sending

namespace Threeboard.Usb

open Actions Actions.Action Mcu UsbControllerImpl

section Traffic

variable (descriptorList : List DescriptorContainer) (polls : ℕ)

def sentTraffic (u : Device Script) : List Access :=
  ((Script.controller descriptorList polls).sendState Script.meanwhile
    u).2.hardware.traffic.drop u.hardware.traffic.length

def Undisturbed (u : Device Script) : Prop :=
  ∀ a ∈ sentTraffic descriptorList polls u, a.interrupts = false

variable {descriptorList polls} {u : Device Script}

theorem sentTraffic_ready {n : ℕ} (h : u.Ready n) (hn : n < polls) :
    sentTraffic descriptorList polls u =
      transmission (u.hardware.answers .UEINTX (u.hardware.reads .UEINTX + n))
        (u.hardware.hidAt u.hidState (n + 1)).report := by
  obtain ⟨t, ht, hrun⟩ := sendState_ready descriptorList h hn
  rw [sentTraffic, hrun, ht.traffic, List.drop_left]

theorem sentTraffic_refused {n : ℕ} (h : u.Refused n) (hn : n < polls) :
    sentTraffic descriptorList polls u = [] := by
  obtain ⟨t, ht, hrun⟩ := sendState_refused descriptorList h hn
  rw [sentTraffic, hrun, ht.traffic, u.started_traffic, List.drop_length]

theorem sentTraffic_goes (h : ∀ k < polls, u.Goes k) : sentTraffic descriptorList polls u = [] := by
  obtain ⟨t, ht, hrun⟩ := sendState_goes descriptorList h
  rw [sentTraffic, hrun, ht, List.drop_length]

theorem not_undisturbed_of_ready {n : ℕ} (h : u.Ready n) (hn : n < polls) :
    ¬ Undisturbed descriptorList polls u := by
  intro hclear
  rw [Undisturbed, sentTraffic_ready h hn, transmission] at hclear
  exact Bool.noConfusion (hclear _ List.mem_cons_self)

end Traffic

theorem report_undisturbed_iff (descriptorList : List DescriptorContainer) (polls : ℕ)
    (u : Device Script) :
    Undisturbed descriptorList polls u ↔ ¬ ∃ n < polls, u.Ready n := by
  constructor
  · rintro hclear ⟨n, hn, hready⟩
    exact not_undisturbed_of_ready hready hn hclear
  · intro hnever
    rcases u.sendState_cases polls with hready | ⟨n, hn, hrefused⟩ | hgoes
    · exact (hnever hready).elim
    · rw [Undisturbed, sentTraffic_refused hrefused hn]
      simp
    · rw [Undisturbed, sentTraffic_goes hgoes]
      simp

def receptive (sreg : UInt8) : Device Script where
  hidState := { configuration := kConfigurationValue }
  hardware := { answers := fun _ _ => bit RWAL, sreg }
  events := []

theorem ready_of_open {u : Device Script} (h : u.hardware.answers = fun _ _ => bit RWAL) :
    u.Ready 0 where
  goes := by simp
  writable := by
    have hset : bit RWAL &&& bit RWAL ≠ 0 := by decide
    rw [u.writable_started, Script.writable, h]
    exact decide_eq_true hset

theorem report_disturbed :
    ¬ Undisturbed [] 1 (receptive 0) ∧ ¬ Undisturbed [] 1 (receptive (bit SREG_I)) :=
  ⟨not_undisturbed_of_ready (ready_of_open rfl) Nat.one_pos,
    not_undisturbed_of_ready (ready_of_open rfl) Nat.one_pos⟩

end Threeboard.Usb
