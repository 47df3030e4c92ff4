import Threeboard.Usb.Session
import Threeboard.Usb.Watching
import Threeboard.Usb.Releasing
import Threeboard.Usb.ReportTrace

namespace Threeboard.Usb

open Actions Actions.Action Mcu UsbControllerImpl

def FIFOCON : UInt8 := 7

-- A host that reads keyboard reports: the keys that were down in the last one, and what has been
-- typed, each key with the modifiers that it came down with.
structure Host where
  down : List UInt8 := []
  typed : List (UInt8 × UInt8) := []

def keysIn (report : List UInt8) : List UInt8 := (report.drop 2).filter (· ≠ 0)

def Host.receive (report : List UInt8) (host : Host) : Host where
  down := keysIn report
  typed := host.typed ++ ((keysIn report).filter (· ∉ host.down)).map (report.headD 0, ·)

-- What is written to the FIFO of the keyboard endpoint goes to the host once FIFOCON is cleared.
structure Line where
  script : Script
  bank : List UInt8 := []
  host : Host := {}

namespace Line

variable (r : Register) (value : UInt8) (w : Line)

def read : UInt8 := w.script.read r

def reading : Line := { w with script := w.script.reading r }

def selected : Prop := w.script.uenum = kKeyboardEndpoint

instance : Decidable w.selected := inferInstanceAs (Decidable (_ = _))

def writing : Line :=
  let written := { w with script := w.script.writing r value }
  if ¬ w.selected then written
  else if r = .UEDATX then { written with bank := w.bank ++ [value] }
  else if r = .UEINTX ∧ value &&& bit FIFOCON = 0 then
    { written with bank := [], host := w.host.receive w.bank }
  else written

def native : Native Line where
  getRegister r w := (w.read r, w.reading r)
  setRegister := writing

def controller (descriptorList : List DescriptorContainer) (polls : ℕ) :
    UsbControllerImpl Line := ⟨native, descriptorList, polls⟩

def outside : List UInt8 × Host := (w.bank, w.host)

theorem of_outside {w : Line} {bank : List UInt8} {host : Host} (h : w.outside = (bank, host)) :
    w.bank = bank ∧ w.host = host := Prod.mk.inj h

def handsOver : Prop := r = .UEINTX ∧ value &&& bit FIFOCON = 0

@[simp] theorem writing_script : (w.writing r value).script = w.script.writing r value := by
  rw [writing]
  split_ifs <;> rfl

theorem writing_unselected (h : ¬ w.selected) : (w.writing r value).outside = w.outside := by
  rw [writing, if_pos h]
  rfl

variable {r value} in
theorem writing_outside (hr : r ≠ .UEDATX) (hv : ¬ handsOver r value) :
    (w.writing r value).outside = w.outside := by
  have hgone : ¬ (r = .UEINTX ∧ value &&& bit FIFOCON = 0) := hv
  rw [writing, if_neg hr, if_neg hgone]
  split_ifs <;> rfl

theorem writing_selected (hr : r ≠ .UENUM) : (w.writing r value).selected ↔ w.selected := by
  rw [selected, selected, writing_script, Script.writing_uenum, if_neg hr]

theorem writing_byte (h : w.selected) :
    (w.writing .UEDATX value).outside = (w.bank ++ [value], w.host) := by
  rw [writing, if_neg (not_not.mpr h), if_pos rfl]
  rfl

theorem writing_done (h : w.selected) :
    (w.writing .UEINTX doneFlags).outside = ([], w.host.receive w.bank) := by
  have hdone : Register.UEINTX = .UEINTX ∧ doneFlags &&& bit FIFOCON = 0 := ⟨rfl, by decide⟩
  rw [writing, if_neg (not_not.mpr h), if_neg (by decide), if_pos hdone]
  rfl

end Line

def Device.onLine (f : Line → Line) (u : Device Line) : Device Line :=
  { u with hardware := f u.hardware }

def Device.meeting (script : Script) (u : Device Line) : Device Line :=
  u.onLine fun w => { w with script }

variable {descriptorList : List DescriptorContainer} {polls : ℕ}

theorem line_get (r : Register) (u : Device Line) :
    (Line.controller descriptorList polls).get r u =
      (some (u.hardware.read r), u.onLine (Line.reading r)) := rfl

theorem line_set (r : Register) (value : UInt8) (u : Device Line) :
    (Line.controller descriptorList polls).set r value u =
      (some (), u.onLine (Line.writing r value)) := rfl

section Requests

def Hidden (o : List UInt8 × Host) (u : Device Line) : Prop := u.hardware.outside = o

structure Deselected (o : List UInt8 × Host) (u : Device Line) : Prop where
  hidden : Hidden o u
  unselected : ¬ u.hardware.selected

variable {o : List UInt8 × Host}

theorem deselected_get (r : Register) :
    Keeps (Deselected o) ((Line.controller descriptorList polls).get r) :=
  fun _ h => ⟨h.hidden, h.unselected⟩

theorem deselected_set {r : Register} (hr : r ≠ .UENUM) (value : UInt8) :
    Keeps (Deselected o) ((Line.controller descriptorList polls).set r value) := by
  intro u h
  rw [line_set]
  exact ⟨(Line.writing_unselected r value _ h.unselected).trans h.hidden,
    fun hs => h.unselected ((Line.writing_selected r value _ hr).mp hs)⟩

theorem deselected_updateHid (f : HidState → HidState) : Keeps (Deselected o) (updateHid f) :=
  fun _ h => ⟨h.hidden, h.unselected⟩

theorem deselected_await :
    Keeps (Deselected o) (Line.controller descriptorList polls).awaitTransmitterReady :=
  .poll ((deselected_get _).bind fun _ => .pure _) _

theorem deselected_fill (bytes : List UInt8) :
    Keeps (Deselected o) ((Line.controller descriptorList polls).fill bytes) :=
  .forM (fun _ => deselected_set (by decide) _) _

theorem deselected_handshake :
    Keeps (Deselected o) (Line.controller descriptorList polls).handshakeTransmitterInterrupt :=
  deselected_set (by decide) _

theorem deselected_reply (bytes : HidState → List UInt8) :
    Keeps (Deselected o) ((Line.controller descriptorList polls).reply bytes) :=
  deselected_await.bind fun _ => (Keeps.gets _).bind fun _ =>
    (deselected_fill _).bind fun _ => deselected_handshake

theorem deselected_store (f : HidState → HidState) :
    Keeps (Deselected o) ((Line.controller descriptorList polls).store f) :=
  deselected_handshake.bind fun _ => deselected_updateHid f

theorem deselected_sendFrames (data : ℕ → UInt8) (rounds sent remaining current : ℕ) :
    Keeps (Deselected o)
      ((Line.controller descriptorList polls).sendFrames data rounds sent remaining current) := by
  induction rounds generalizing sent remaining current with
  | zero => exact .pure ()
  | succ rounds ih =>
    refine .ite ?_ (.pure ())
    exact deselected_await.bind fun _ => (deselected_fill _).bind fun _ =>
      deselected_handshake.bind fun _ => ih _ _ _

theorem deselected_handle (packet : SetupPacket) {h : Handler} (hne : h ≠ .setConfiguration) :
    Keeps (Deselected o) ((Line.controller descriptorList polls).handle packet h) := by
  cases h with
  | setConfiguration => exact absurd rfl hne
  | setAddress =>
    exact deselected_handshake.bind fun _ => (deselected_set (by decide) _).bind fun _ =>
      deselected_await.bind fun _ => (deselected_get _).bind fun _ => deselected_set (by decide) _
  | getDescriptor =>
    rw [handle, handleGetDescriptor]
    split
    · exact deselected_set (by decide) _
    · exact deselected_sendFrames _ _ _ _ _
  | setIdle | setProtocol => exact deselected_store _
  | getStatus | getConfiguration | getReport | getIdle | getProtocol => exact deselected_reply _

theorem hidden_set {r : Register} {value : UInt8} (hr : r ≠ .UEDATX) (hv : ¬ Line.handsOver r value) :
    Keeps (Hidden o) ((Line.controller descriptorList polls).set r value) := by
  intro u h
  rw [line_set]
  exact (Line.writing_outside _ hr hv).trans h

theorem hidden_set_other {r : Register} (hr : r ≠ .UEDATX) (hx : r ≠ .UEINTX) (value : UInt8) :
    Keeps (Hidden o) ((Line.controller descriptorList polls).set r value) :=
  hidden_set hr fun hv => hx hv.1

theorem hidden_record (event : Event) : Keeps (Hidden o) (record event) := fun _ h => h

theorem hidden_setConfiguration (packet : SetupPacket) :
    Keeps (Hidden o) ((Line.controller descriptorList polls).handleSetConfiguration packet) := by
  have hshake : Keeps (Hidden o)
      (Line.controller descriptorList polls).handshakeTransmitterInterrupt :=
    hidden_set (by decide) fun hv => absurd hv.2 (by decide)
  have hstore (f : HidState → HidState) : Keeps (Hidden o) (updateHid f) := fun _ h => h
  have hset {r : Register} (value : UInt8) (hr : r ≠ .UEDATX) (hx : r ≠ .UEINTX) :
      Keeps (Hidden o) ((Line.controller descriptorList polls).set r value) :=
    hidden_set_other hr hx value
  refine (hshake.bind fun _ => hstore _).bind fun _ => (Keeps.gets _).bind fun _ => ?_
  refine .ite (.pure ()) ?_
  exact (hset _ (by decide) (by decide)).bind fun _ => (hset _ (by decide) (by decide)).bind fun _ =>
    (hset _ (by decide) (by decide)).bind fun _ => (hset _ (by decide) (by decide)).bind fun _ =>
      (hset _ (by decide) (by decide)).bind fun _ => (hset _ (by decide) (by decide)).bind fun _ =>
        hidden_record _

def Served (packet : SetupPacket) (o : List UInt8 × Host) (u : Device Line) : Prop :=
  Deselected o u ∨ Hidden o u ∧ packet.accepted .setConfiguration = true

theorem Served.hidden {packet : SetupPacket} {u : Device Line} (h : Served packet o u) :
    Hidden o u := h.elim Deselected.hidden And.left

theorem served_callIf (packet : SetupPacket) (h : Handler) :
    Keeps (Served packet o)
      ((Line.controller descriptorList polls).callIf (packet.accepted h) h packet) := by
  refine fun u hu => ?_
  rw [callIf]
  split
  · rename_i ha
    by_cases hset : h = .setConfiguration
    · subst hset
      exact .inr ⟨(hidden_record _).bind (fun _ => hidden_setConfiguration packet) u hu.hidden, ha⟩
    · have hnot : ¬ packet.accepted .setConfiguration = true := fun hc =>
        hset (SetupPacket.accepted_unique ha hc)
      have hstart : Deselected o u := hu.resolve_right fun hc => hnot hc.2
      have hrecord : Keeps (Deselected o) (record (σ := Line) (.handled h packet)) :=
        fun _ h => ⟨h.hidden, h.unselected⟩
      exact .inl (hrecord.bind (fun _ => deselected_handle packet hset) u hstart)
  · exact hu

theorem parse_deselects {u : Device Line} (h : Hidden o u) : Deselected o
    (onHardware (SetupPacket.parseFromUsbEndpoint (Line.controller descriptorList polls).native) u).2 := by
  have hbyte : Keeps (Deselected o)
      (onHardware ((Line.controller descriptorList polls).native.get .UEDATX)) := deselected_get _
  simp only [SetupPacket.parseFromUsbEndpoint, onHardware_bind]
  refine keeps_after (I := Deselected o) ⟨?_, ?_⟩ fun _ => ?_
  · exact hidden_set_other (by decide) (by decide) 0 u h
  · have hset : (onHardware ((Line.controller descriptorList polls).native.set .UENUM 0) u).2 =
        u.onLine (Line.writing .UENUM 0) := rfl
    rw [hset, Device.onLine, Line.selected, Line.writing_script, Script.writing_uenum, if_pos rfl]
    decide
  · exact hbyte.bind fun _ => hbyte.bind fun _ => hbyte.bind fun _ => hbyte.bind fun _ =>
      hbyte.bind fun _ => hbyte.bind fun _ => hbyte.bind fun _ => hbyte.bind fun _ => .pure _

theorem handleEndpointInterrupt_hidden :
    Keeps (Hidden o) (Line.controller descriptorList polls).handleEndpointInterrupt := by
  intro u h
  have hparse : Deselected o (onHardware (SetupPacket.parseFromUsbEndpoint
    (Line.controller descriptorList polls).native) u).2 := parse_deselects h
  rw [handleEndpointInterrupt]
  rcases hrun : onHardware (SetupPacket.parseFromUsbEndpoint
    (Line.controller descriptorList polls).native) u with ⟨_ | packet, v⟩
  · rw [hrun] at hparse
    rw [bind_of_none hrun]
    exact hparse.hidden
  · rw [hrun] at hparse
    have hread : Keeps (Deselected o) ((Line.controller descriptorList polls).get .UEINTX) :=
      deselected_get _
    have hack (value : UInt8) : Keeps (Deselected o)
        ((Line.controller descriptorList polls).set .UEINTX value) := deselected_set (by decide) _
    have hacked := fun value => hack value _ (hread _ (hread _ hparse))
    rw [bind_of_some hrun, bind_of_some (line_get _ _), bind_of_some (line_get _ _),
      bind_of_some (line_set _ _ _)]
    split
    · exact (deselected_set (by decide) _ _ (hacked _)).hidden
    · rw [dispatch_eq]
      exact (Keeps.forM (fun handler => served_callIf packet handler) _ _ (.inl (hacked _))).hidden

end Requests

end Threeboard.Usb
