import Threeboard.Usb.SendKeypress

namespace Threeboard.Usb

open Actions Actions.Action Mcu

structure Access where
  writes : Bool
  register : Register
  value : UInt8
  interrupts : Bool
  endpoint : UInt8
  deriving DecidableEq, Repr

def Access.isTraffic (a : Access) : Bool :=
  if a.register = .UEINTX then a.writes || (a.value &&& bit RWAL ≠ 0)
  else a.register = .UEDATX && a.writes

-- What interrupt handlers may do to the HID state; the keys are not theirs.
structure Interference where
  apply : HidState → HidState
  modifierKeys : ∀ hid, (apply hid).modifierKeys = hid.modifierKeys
  keyboardKeys : ∀ hid, (apply hid).keyboardKeys = hid.keyboardKeys

def Interference.none : Interference := ⟨id, fun _ => rfl, fun _ => rfl⟩

-- Hardware that answers as it is told, with the accesses there have been.
structure Script where
  answers : Register → ℕ → UInt8
  changes : ℕ → Interference := fun _ => .none
  sreg : UInt8
  uenum : UInt8 := 0
  reads : Register → ℕ := fun _ => 0
  rounds : ℕ := 0
  log : List Access := []

namespace Script

def interrupts (s : Script) : Bool := s.sreg &&& bit SREG_I ≠ 0

def read (r : Register) (s : Script) : UInt8 :=
  match r with
  | .SREG => s.sreg
  | .UENUM => s.uenum
  | _ => s.answers r (s.reads r)

def access (s : Script) (writes : Bool) (r : Register) (value : UInt8) : Access :=
  ⟨writes, r, value, s.interrupts, s.uenum⟩

def reading (r : Register) (s : Script) : Script := { s with
  reads := Function.update s.reads r (s.reads r + 1)
  log := s.log ++ [s.access false r (s.read r)] }

def writing (r : Register) (value : UInt8) (s : Script) : Script := { s with
  sreg := if r = .SREG then value else s.sreg
  uenum := if r = .UENUM then value else s.uenum
  log := s.log ++ [s.access true r value] }

def native : Native Script where
  getRegister r s := (s.read r, s.reading r)
  setRegister := writing

def interfered (s : Script) : Script := { s with rounds := s.rounds + 1 }

def meanwhile : Action (Device Script) Unit := Action.modify fun u => { u with
  hidState := (u.hardware.changes u.hardware.rounds).apply u.hidState
  hardware := u.hardware.interfered }

def traffic (s : Script) : List Access := s.log.filter Access.isTraffic

@[simp] theorem read_sreg (s : Script) : s.read .SREG = s.sreg := rfl
@[simp] theorem read_ueintx (s : Script) : s.read .UEINTX = s.answers .UEINTX (s.reads .UEINTX) := rfl

@[simp] theorem read_udfnuml (s : Script) :
    s.read .UDFNUML = s.answers .UDFNUML (s.reads .UDFNUML) := rfl

section Fields

variable (r : Register) (value : UInt8) (s : Script)

@[simp] theorem reading_answers : (s.reading r).answers = s.answers := rfl
@[simp] theorem reading_changes : (s.reading r).changes = s.changes := rfl
@[simp] theorem reading_sreg : (s.reading r).sreg = s.sreg := rfl
@[simp] theorem reading_uenum : (s.reading r).uenum = s.uenum := rfl
@[simp] theorem reading_rounds : (s.reading r).rounds = s.rounds := rfl

@[simp] theorem reading_reads :
    (s.reading r).reads = Function.update s.reads r (s.reads r + 1) := rfl

@[simp] theorem writing_answers : (s.writing r value).answers = s.answers := rfl
@[simp] theorem writing_changes : (s.writing r value).changes = s.changes := rfl
@[simp] theorem writing_reads : (s.writing r value).reads = s.reads := rfl
@[simp] theorem writing_rounds : (s.writing r value).rounds = s.rounds := rfl

@[simp] theorem writing_sreg :
    (s.writing r value).sreg = if r = .SREG then value else s.sreg := rfl

@[simp] theorem writing_uenum :
    (s.writing r value).uenum = if r = .UENUM then value else s.uenum := rfl

@[simp] theorem interfered_answers : s.interfered.answers = s.answers := rfl
@[simp] theorem interfered_changes : s.interfered.changes = s.changes := rfl
@[simp] theorem interfered_sreg : s.interfered.sreg = s.sreg := rfl
@[simp] theorem interfered_uenum : s.interfered.uenum = s.uenum := rfl
@[simp] theorem interfered_reads : s.interfered.reads = s.reads := rfl
@[simp] theorem interfered_rounds : s.interfered.rounds = s.rounds + 1 := rfl
@[simp] theorem interfered_traffic : s.interfered.traffic = s.traffic := rfl

@[simp] theorem reading_traffic : (s.reading r).traffic =
    s.traffic ++ [s.access false r (s.read r)].filter Access.isTraffic := by
  simp only [traffic, reading, List.filter_append]

@[simp] theorem writing_traffic : (s.writing r value).traffic =
    s.traffic ++ [s.access true r value].filter Access.isTraffic := by
  simp only [traffic, writing, List.filter_append]

end Fields

end Script

end Threeboard.Usb
