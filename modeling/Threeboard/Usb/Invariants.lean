import Threeboard.Usb.SendKeypress
import Threeboard.Library.Bytes

namespace Threeboard.Usb.UsbControllerImpl

open Actions Actions.Action Mcu

variable {σ α β : Type}

theorem onHardware_bind (x : Action σ α) (f : α → Action σ β) :
    onHardware (x >>= f) = onHardware x >>= fun a => onHardware (f a) := by
  funext u
  cases h : x u.hardware with
  | mk o hardware => cases o <;> simp [onHardware, bind_run, h]

def endsReport (r : Register) (value : UInt8) : Prop := r = .UEINTX ∧ value = doneFlags

variable (c : UsbControllerImpl σ) (I : Device σ → Prop)

structure Steady : Prop where
  get : ∀ r, Keeps I (c.get r)
  set : ∀ r value, ¬ endsReport r value → Keeps I (c.set r value)

structure Stable : Prop extends Steady c I where
  record : ∀ event, (∀ packet, event ≠ .handled .setIdle packet) → Keeps I (record event)
  configure : ∀ v, Keeps I (updateHid fun hid => { hid with configuration := v })
  setProtocol : ∀ v, Keeps I (updateHid fun hid => { hid with protocol := v })
  setIdle : ∀ packet, Keeps I (c.call .setIdle packet)

namespace Steady

variable {c I} (h : Steady c I)

include h

theorem set_other {r : Register} (hr : r ≠ .UEINTX) (value : UInt8) : Keeps I (c.set r value) :=
  h.set r value fun hends => hr hends.1

theorem handshake : Keeps I c.handshakeTransmitterInterrupt :=
  h.set _ _ fun hends => absurd hends.2 (by decide)

theorem awaitTransmitterReady : Keeps I c.awaitTransmitterReady :=
  .poll ((h.get _).bind fun _ => .pure _) _

theorem fill (bytes : List UInt8) : Keeps I (c.fill bytes) :=
  .forM (fun _ => h.set_other (by decide) _) _

theorem reply (bytes : HidState → List UInt8) : Keeps I (c.reply bytes) :=
  h.awaitTransmitterReady.bind fun _ => (Keeps.gets _).bind fun _ =>
    (h.fill _).bind fun _ => h.handshake

theorem sendFrames (data : ℕ → UInt8) (rounds sent remaining current : ℕ) :
    Keeps I (c.sendFrames data rounds sent remaining current) := by
  induction rounds generalizing sent remaining current with
  | zero => exact .pure ()
  | succ rounds ih =>
    refine .ite ?_ (.pure ())
    exact h.awaitTransmitterReady.bind fun _ => (h.fill _).bind fun _ =>
      h.handshake.bind fun _ => ih _ _ _

theorem handleSetAddress (packet : SetupPacket) : Keeps I (c.handleSetAddress packet) :=
  h.handshake.bind fun _ => (h.set_other (by decide) _).bind fun _ =>
    h.awaitTransmitterReady.bind fun _ => (h.get _).bind fun _ => h.set_other (by decide) _

theorem handleGetDescriptor (packet : SetupPacket) : Keeps I (c.handleGetDescriptor packet) := by
  rw [UsbControllerImpl.handleGetDescriptor]
  split
  · exact h.set_other (by decide) _
  · exact h.sendFrames _ _ _ _ _

theorem parse : Keeps I (onHardware (SetupPacket.parseFromUsbEndpoint c.native)) := by
  have hbyte : Keeps I (onHardware (c.native.get .UEDATX)) := h.get _
  simp only [SetupPacket.parseFromUsbEndpoint, onHardware_bind]
  exact (h.set_other (by decide) 0).bind fun _ => hbyte.bind fun _ => hbyte.bind fun _ =>
    hbyte.bind fun _ => hbyte.bind fun _ => hbyte.bind fun _ => hbyte.bind fun _ =>
      hbyte.bind fun _ => hbyte.bind fun _ => .pure _

theorem disableInterrupts : Keeps I c.disableInterrupts := by
  simp only [UsbControllerImpl.disableInterrupts, Native.disableInterrupts, Native.disable,
    onHardware_bind]
  exact (h.get .SREG).bind fun _ => h.set_other (by decide) _

theorem enableInterrupts : Keeps I c.enableInterrupts := by
  simp only [UsbControllerImpl.enableInterrupts, Native.enableInterrupts, Native.enable,
    onHardware_bind]
  exact (h.get .SREG).bind fun _ => h.set_other (by decide) _

theorem checkFrames (initialFrameNum intrState : UInt8) :
    Keeps I (c.checkFrames initialFrameNum intrState) := by
  refine (h.set_other (by decide) _).bind fun _ => (Keeps.gets _).bind fun _ => .ite (.pure _) ?_
  refine (h.get _).bind fun _ => .ite (.pure _) ?_
  exact (h.get _).bind fun _ => h.disableInterrupts.bind fun _ => .pure _

variable {meanwhile : Action (Device σ) Unit} (hm : Keeps I meanwhile)

include hm

theorem pollEndpoint (initialFrameNum intrState : UInt8) :
    Keeps I (c.pollEndpoint meanwhile initialFrameNum intrState) := by
  refine (h.set_other (by decide) _).bind fun _ => h.enableInterrupts.bind fun _ => ?_
  exact hm.bind fun _ => (h.get _).bind fun _ => .ite (.pure _) (h.checkFrames _ _)

theorem sendState (hr : Keeps I c.sendHidState) : Keeps I (c.sendState meanwhile) := by
  refine (h.get _).bind fun _ => h.disableInterrupts.bind fun _ => (h.get _).bind fun _ => ?_
  refine (Keeps.loop (fun _ => h.pollEndpoint hm _ _) _ _).bind fun ready => ?_
  cases ready with
  | none => exact .pure false
  | some intrState => exact hr.bind fun _ => (h.set_other (by decide) _).bind fun _ => .pure true

theorem sendKeypress (hr : Keeps I c.sendHidState)
    (hhold : ∀ key mod, Keeps I (updateHid (hold key mod))) (key mod : UInt8) :
    Keeps I (c.sendKeypress meanwhile key mod) := by
  refine (hhold key mod).bind fun _ => (h.sendState hm hr).bind fun sent => ?_
  cases sent with
  | true => exact (hhold 0 0).bind fun _ => h.sendState hm hr
  | false => exact .pure false

end Steady

namespace Stable

variable {c I} (h : Stable c I)

include h

theorem handleSetConfiguration (packet : SetupPacket) :
    Keeps I (c.handleSetConfiguration packet) := by
  refine (h.handshake.bind fun _ => h.configure _).bind fun _ => (Keeps.gets _).bind fun _ => ?_
  refine .ite (.pure ()) ?_
  exact (h.set_other (by decide) _).bind fun _ => (h.set_other (by decide) _).bind fun _ =>
    (h.set_other (by decide) _).bind fun _ => (h.set_other (by decide) _).bind fun _ =>
      (h.set_other (by decide) _).bind fun _ => (h.set_other (by decide) _).bind fun _ =>
        h.record _ (by simp)

theorem call (packet : SetupPacket) (handler : Handler) : Keeps I (c.call handler packet) := by
  cases handler with
  | setIdle => exact h.setIdle packet
  | setAddress => exact (h.record _ (by simp)).bind fun _ => h.handleSetAddress packet
  | getDescriptor => exact (h.record _ (by simp)).bind fun _ => h.handleGetDescriptor packet
  | setConfiguration => exact (h.record _ (by simp)).bind fun _ => h.handleSetConfiguration packet
  | setProtocol => exact (h.record _ (by simp)).bind fun _ => h.handshake.bind fun _ => h.setProtocol _
  | getStatus | getConfiguration | getReport | getIdle | getProtocol =>
    exact (h.record _ (by simp)).bind fun _ => h.reply _

theorem callIf (condition : Prop) [Decidable condition] (handler : Handler) (packet : SetupPacket) :
    Keeps I (c.callIf condition handler packet) := .ite (h.call packet handler) (.pure ())

theorem dispatchStandard (packet : SetupPacket) : Keeps I (c.dispatchStandard packet) :=
  (h.callIf _ _ _).bind fun _ => (h.callIf _ _ _).bind fun _ => (h.callIf _ _ _).bind fun _ =>
    (h.callIf _ _ _).bind fun _ => h.callIf _ _ _

theorem dispatchHid (packet : SetupPacket) : Keeps I (c.dispatchHid packet) := by
  refine .ite ?_ (.pure ())
  cases packet.bmRequestType.getDirection with
  | deviceToHost =>
    exact (h.callIf _ _ _).bind fun _ => (h.callIf _ _ _).bind fun _ => h.callIf _ _ _
  | hostToDevice => exact (h.callIf _ _ _).bind fun _ => h.callIf _ _ _

theorem handleEndpointInterrupt : Keeps I c.handleEndpointInterrupt := by
  have hclear : ∀ b : UInt8, b &&& ~~~(bit RXSTPI ||| bit RXOUTI ||| bit TXINI) ≠ doneFlags :=
    Bytes.forall_byte (by decide +kernel)
  refine h.parse.bind fun packet => (h.get _).bind fun _ => (h.get _).bind fun ueintx => ?_
  refine (h.set _ _ fun hends => hclear ueintx hends.2).bind fun _ => ?_
  exact .ite (h.set_other (by decide) _)
    ((h.dispatchStandard packet).bind fun _ => h.dispatchHid packet)

theorem configureEndpoint0 : Keeps I c.configureEndpoint0 :=
  (h.record _ (by simp)).bind fun _ => (h.set_other (by decide) _).bind fun _ =>
    (h.set_other (by decide) _).bind fun _ => (h.set_other (by decide) _).bind fun _ =>
      (h.set_other (by decide) _).bind fun _ => h.set_other (by decide) _

end Stable

end Threeboard.Usb.UsbControllerImpl
