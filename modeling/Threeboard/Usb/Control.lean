import Threeboard.Usb.Pipe
import Threeboard.Usb.Keystrokes

namespace Threeboard.Usb

open Actions Actions.Action Mcu UsbControllerImpl Packets Runs

structure Settings where
  configuration : UInt8 := 0
  idleConfig : UInt8 := 125
  protocol : UInt8 := 1
  modifierKeys : UInt8 := 0
  key : UInt8 := 0
  address : UInt8 := 0
  deriving DecidableEq, Repr

inductive Reply where
  | silence
  | stall
  | status
  | data (bytes : List UInt8)
  deriving DecidableEq, Repr

def Reply.packets : Reply → List (List UInt8)
  | .silence | .stall => []
  | .status => [[]]
  | .data bytes => dataPackets bytes

namespace Settings

variable (descriptorList : List DescriptorContainer) (packet : SetupPacket) (d : Settings)

def shown (reply : Reply) : Wire where
  sent := reply.packets
  stalled := reply = .stall
  address := d.address

def describe : Reply :=
  match (counted descriptorList).find? fun container => container.id = packet.wValue with
  | none => .stall
  | some container => .data (container.bytes (container.requested packet.wLength))

def answer : Handler → Reply × Settings
  | .getStatus => (.data [0], d)
  | .setAddress => (.status, { d with address := packet.wValue.toUInt8 ||| bit ADDEN })
  | .getDescriptor => (describe descriptorList packet, d)
  | .getConfiguration => (.data [d.configuration], d)
  | .setConfiguration => (.status, { d with configuration := packet.wValue.toUInt8 })
  | .getReport => (.data (pressReport d.key d.modifierKeys), d)
  | .getIdle => (.data [d.idleConfig], d)
  | .setIdle => (.status, { d with idleConfig := (packet.wValue >>> 8).toUInt8 })
  | .getProtocol => (.data [d.protocol], d)
  | .setProtocol => (.status, { d with protocol := packet.wValue.toUInt8 })

def respond : Reply × Settings :=
  match Handler.all.find? packet.accepted with
  | none => (.silence, d)
  | some h => d.answer descriptorList packet h

end Settings

inductive Occasion where
  | keys (modifierKeys key : UInt8)
  | frame
  | reset
  | request (packet : SetupPacket)
  | other
  deriving DecidableEq, Repr

def Settings.meet (descriptorList : List DescriptorContainer) (d : Settings) :
    Occasion → Reply × Settings
  | .keys modifierKeys key => (.silence, { d with modifierKeys, key })
  | .frame => (.silence, d)
  | .reset => (.silence, { d with address := 0 })
  | .request packet => d.respond descriptorList packet
  | .other => (.stall, d)

def Settings.serve (descriptorList : List DescriptorContainer) (d : Settings) (o : Occasion) :
    Wire × Settings :=
  ((d.meet descriptorList o).2.shown (d.meet descriptorList o).1, (d.meet descriptorList o).2)

inductive Turn where
  | keys (modifierKeys key : UInt8)
  | general (script : Script)
  | endpoint (script : { s : Script // s.Responsive })

def Script.setupPacket (s : Script) : SetupPacket :=
  let byte (n : ℕ) := s.answers .UEDATX (s.reads .UEDATX + n)
  ⟨⟨byte 0⟩, byte 1, word (byte 2) (byte 3), word (byte 4) (byte 5), word (byte 6) (byte 7)⟩

def Occasion.ofInterrupt (interrupt : UInt8) (packet : SetupPacket) : Occasion :=
  if interrupt &&& bit RXSTPI = 0 then .other else .request packet

def Turn.occasion : Turn → Occasion
  | .keys modifierKeys key => .keys modifierKeys key
  | .general script => if script.read .UDINT &&& bit EORSTI ≠ 0 then .reset else .frame
  | .endpoint script => .ofInterrupt (script.val.read .UEINTX) script.val.setupPacket

def Pipe.meeting (script : Script) (setup : Bool) (address : UInt8) : Pipe :=
  ⟨script, setup, { address }⟩

section Turns

variable (descriptorList : List DescriptorContainer) (polls : ℕ) (u : Device Pipe)

-- A bus reset takes the address away.
def Device.met : Turn → Device Pipe
  | .keys modifierKeys key =>
    { u with
      hidState := hold key modifierKeys u.hidState
      hardware := .meeting u.hardware.script false u.hardware.wire.address }
  | .general script =>
    let reset := script.read .UDINT &&& bit EORSTI ≠ 0
    { u with hardware := .meeting script false (if reset then 0 else u.hardware.wire.address) }
  | .endpoint script => { u with hardware := .meeting script.val true u.hardware.wire.address }

def handler : Turn → Action (Device Pipe) Unit
  | .keys _ _ => pure ()
  | .general _ => (Pipe.controller descriptorList polls).handleGeneralInterrupt
  | .endpoint _ => (Pipe.controller descriptorList polls).handleEndpointInterrupt

def takeTurn (u : Device Pipe) (turn : Turn) : Option Wire × Device Pipe :=
  let run := handler descriptorList polls turn (u.met turn)
  (run.1.map fun _ => run.2.hardware.wire, run.2)

end Turns

variable {descriptorList : List DescriptorContainer} {d : Settings} {w : Wire}

structure Mirrored (hid : HidState) (d : Settings) : Prop where
  configuration : hid.configuration = d.configuration
  idleConfig : hid.idleConfig = d.idleConfig
  protocol : hid.protocol = d.protocol
  report : hid.report = pressReport d.key d.modifierKeys

def Holds (d : Settings) (w : Wire) (u : Device Pipe) : Prop :=
  Mirrored u.hidState d ∧ u.hardware.wire = w

section Answering

variable (descriptorList) {hid : HidState} (packet : SetupPacket)

theorem shown_data_byte (byte : UInt8) : (d.shown .silence).sending [[byte]] = d.shown (.data [byte]) := by
  have hpackets : dataPackets [byte] = [[byte]] := split_of_lt (by simp)
  simp [Wire.sending, Settings.shown, Reply.packets, hpackets]

theorem shown_report (key mod : UInt8) : (d.shown .silence).sending [pressReport key mod] =
    d.shown (.data (pressReport key mod)) := by
  have hpackets : dataPackets (pressReport key mod) = [pressReport key mod] :=
    split_of_lt (by simp [pressReport])
  simp [Wire.sending, Settings.shown, Reply.packets, hpackets]

theorem shown_data (bytes : List UInt8) :
    (d.shown .silence).sending (dataPackets bytes) = d.shown (.data bytes) := by
  simp [Wire.sending, Settings.shown, Reply.packets]

theorem shown_status : (d.shown .silence).sending [[]] = d.shown .status := by
  simp [Wire.sending, Settings.shown, Reply.packets]

variable {descriptorList} in
theorem Serves.holds {x : UsbControllerImpl Pipe → Action (Device Pipe) Unit} {hid' : HidState}
    {w w' : Wire} {d' : Settings} (h : Serves descriptorList hid w x fun _ => Standing hid' w')
    (hm : Mirrored hid' d') : Serves descriptorList hid w x fun _ => Holds d' w' :=
  h.mono (fun _ hs => hs) fun _ _ hs => ⟨hs.hidState ▸ hm, hs.wire⟩

theorem reply_serves (hm : Mirrored hid d) {bytes : HidState → List UInt8} {value : UInt8}
    (hbytes : bytes hid = [value]) : Serves descriptorList hid (d.shown .silence)
      (fun c => c.reply bytes) fun _ => Holds d (d.shown (.data [value])) := by
  have hreply : Serves descriptorList hid (d.shown .silence) _ _ :=
      serves_reply descriptorList rfl bytes
  rw [hbytes, shown_data_byte] at hreply
  exact hreply.holds hm

theorem store_serves {f : HidState → HidState} {d' : Settings} (hm : Mirrored (f hid) d')
    (haddress : d'.address = d.address) : Serves descriptorList hid (d.shown .silence)
      (fun c => c.store f) fun _ => Holds d' (d'.shown .status) := by
  have hstore : Serves descriptorList hid (d.shown .silence) _ _ :=
      serves_store descriptorList rfl f
  have hsame : d'.shown .status = d.shown .status := by rw [Settings.shown, haddress, Settings.shown]
  rw [shown_status, ← hsame] at hstore
  exact hstore.holds hm

theorem describe_serves (hm : Mirrored hid d) : Serves descriptorList hid (d.shown .silence)
    (fun c => c.handleGetDescriptor packet)
    fun _ => Holds d (d.shown (Settings.describe descriptorList packet)) := by
  rw [Settings.describe]
  cases hfind : (counted descriptorList).find? fun container => container.id = packet.wValue with
  | none => exact (serves_getDescriptor_missing descriptorList hfind).holds hm
  | some container =>
    have hsent : Serves descriptorList hid (d.shown .silence) _ _ :=
      serves_getDescriptor descriptorList rfl hfind
    rw [shown_data] at hsent
    exact hsent.holds hm

theorem handle_serves (hm : Mirrored hid d) (h : Handler) :
    Serves descriptorList hid (d.shown .silence) (fun c => c.handle packet h) fun _ =>
      Holds (d.answer descriptorList packet h).2
        ((d.answer descriptorList packet h).2.shown (d.answer descriptorList packet h).1) := by
  cases h with
  | getStatus => exact reply_serves descriptorList hm rfl
  | getConfiguration => exact reply_serves descriptorList hm (congrArg (fun b => [b]) hm.configuration)
  | getIdle => exact reply_serves descriptorList hm (congrArg (fun b => [b]) hm.idleConfig)
  | getProtocol => exact reply_serves descriptorList hm (congrArg (fun b => [b]) hm.protocol)
  | getReport =>
    have hreply : Serves descriptorList hid (d.shown .silence) _ _ :=
      serves_reply descriptorList rfl HidState.report
    rw [hm.report, shown_report] at hreply
    exact hreply.holds hm
  | getDescriptor => exact describe_serves descriptorList packet hm
  | setIdle => exact store_serves descriptorList ⟨hm.configuration, rfl, hm.protocol, hm.report⟩ rfl
  | setProtocol =>
    exact store_serves descriptorList ⟨hm.configuration, hm.idleConfig, rfl, hm.report⟩ rfl
  | setAddress =>
    have hset : Serves descriptorList hid (d.shown .silence) _ _ :=
      serves_setAddress descriptorList rfl packet
    rw [shown_status] at hset
    exact hset.holds ⟨hm.configuration, hm.idleConfig, hm.protocol, hm.report⟩
  | setConfiguration =>
    have hset : Serves descriptorList hid (d.shown .silence) _ _ :=
      serves_setConfiguration descriptorList rfl packet
    rw [shown_status] at hset
    refine hset.mono (fun _ hs => hs) fun _ u hs => ⟨?_, hs.2⟩
    rw [hs.1]
    exact ⟨rfl, hm.idleConfig, hm.protocol, hm.report⟩

theorem forM_callIf_find {σ : Type} (c : UsbControllerImpl σ) {handlers : List Handler}
    (hn : handlers.Nodup) :
    (forM handlers fun h => c.callIf (packet.accepted h) h packet) =
      match handlers.find? packet.accepted with
      | none => pure ()
      | some h => c.call h packet := by
  induction handlers with
  | nil => rfl
  | cons h rest ih =>
    obtain ⟨hnot, hrest⟩ := List.nodup_cons.mp hn
    rw [List.forM_cons]
    by_cases ha : packet.accepted h
    · have hnone : ∀ h' ∈ rest, ¬ packet.accepted h' := fun h' hmem ha' =>
        hnot (SetupPacket.accepted_unique ha ha' ▸ hmem)
      rw [forM_callIf_none hnone, callIf, if_pos ha, bind_pure_unit, List.find?_cons_of_pos ha]
    · rw [callIf, if_neg ha, pure_bind, ih hrest, List.find?_cons_of_neg ha]

theorem dispatch_serves (hm : Mirrored hid d) :
    Serves descriptorList hid (d.shown .silence)
      (fun c => do c.dispatchStandard packet; c.dispatchHid packet) fun _ =>
      Holds (d.respond descriptorList packet).2
        ((d.respond descriptorList packet).2.shown (d.respond descriptorList packet).1) := by
  simp only [Serves, dispatch_eq, forM_callIf_find packet _ Handler.all_nodup, Settings.respond]
  cases Handler.all.find? packet.accepted with
  | none => exact Attains.pure fun u hu => ⟨hu.hidState ▸ hm, hu.wire⟩
  | some h =>
    refine Attains.bind (Attains.modify fun u hu => ?_) fun _ => handle_serves descriptorList packet hm h
    exact ⟨hu.hidState, hu.wire, hu.acknowledged, hu.selected, hu.responsive⟩

theorem drained (p : Pipe) (n : ℕ) :
    let q := (Pipe.reading .UEDATX)^[n] p
    q.wire = p.wire ∧ q.setup = p.setup ∧ q.script.uenum = p.script.uenum ∧
      q.script.answers = p.script.answers ∧ q.script.reads .UEINTX = p.script.reads .UEINTX ∧
      q.script.reads .UEDATX = p.script.reads .UEDATX + n := by
  induction n with
  | zero => exact ⟨rfl, rfl, rfl, rfl, rfl, rfl⟩
  | succ n ih =>
    rw [Function.iterate_succ_apply']
    obtain ⟨hwire, hsetup, huenum, hanswers, hflags, hbytes⟩ := ih
    refine ⟨hwire, hsetup, huenum, hanswers, ?_, ?_⟩
    · simpa [Pipe.reading] using hflags
    · simpa [Pipe.reading] using (congrArg (· + 1) hbytes).trans (Nat.add_assoc _ _ _)

theorem parse_run (p : Pipe) : ∃ q : Pipe,
    SetupPacket.parseFromUsbEndpoint Pipe.native p = (some p.script.setupPacket, q) ∧
      q.wire = p.wire ∧ q.setup = p.setup ∧ q.script.uenum = 0 ∧
      q.script.answers = p.script.answers ∧ q.script.reads .UEINTX = p.script.reads .UEINTX := by
  let q (n : ℕ) : Pipe := (Pipe.reading .UEDATX)^[n] (p.writing .UENUM 0)
  have hwire : (p.writing .UENUM 0).wire = p.wire :=
    Wire.after_other (r := .UENUM) (w := p.wire) (by decide)
  have hsetup : (p.writing .UENUM 0).setup = p.setup := by simp [Pipe.writing]
  have hbyte (n : ℕ) : (q n).read .UEDATX =
      p.script.answers .UEDATX (p.script.reads .UEDATX + n) := by
    obtain ⟨-, -, -, hanswers, -, hreads⟩ := drained (p.writing .UENUM 0) n
    change (q n).script.answers .UEDATX ((q n).script.reads .UEDATX) = _
    rw [hanswers, hreads]
    rfl
  have hrun : SetupPacket.parseFromUsbEndpoint Pipe.native p = (some
      ⟨⟨(q 0).read .UEDATX⟩, (q 1).read .UEDATX, word ((q 2).read .UEDATX) ((q 3).read .UEDATX),
        word ((q 4).read .UEDATX) ((q 5).read .UEDATX),
        word ((q 6).read .UEDATX) ((q 7).read .UEDATX)⟩, q 8) := rfl
  obtain ⟨hw, hs, huenum, hanswers, hreads, -⟩ := drained (p.writing .UENUM 0) 8
  refine ⟨q 8, ?_, hw.trans hwire, hs.trans hsetup, huenum, hanswers, hreads⟩
  rw [hrun]
  simp only [hbyte]
  rfl

def respondTo {σ : Type} (c : UsbControllerImpl σ) (interrupt : UInt8) (packet : SetupPacket) :
    Action (Device σ) Unit :=
  if interrupt &&& bit RXSTPI = 0 then c.set .UECONX (bit STALLRQ ||| bit EPEN)
  else do
    c.dispatchStandard packet
    c.dispatchHid packet

theorem respondTo_serves (hm : Mirrored hid d) (interrupt : UInt8) :
    Serves descriptorList hid (d.shown .silence) (fun c => respondTo c interrupt packet) fun _ =>
      let met := d.meet descriptorList (.ofInterrupt interrupt packet)
      Holds met.2 (met.2.shown met.1) := by
  by_cases h : interrupt &&& bit RXSTPI = 0
  · simp only [Serves, respondTo, Occasion.ofInterrupt, if_pos h]
    exact (serves_set descriptorList (by decide) _).holds hm
  · simp only [Serves, respondTo, Occasion.ofInterrupt, if_neg h]
    exact dispatch_serves descriptorList packet hm

theorem endpoint_run {u : Device Pipe} (hsetup : u.hardware.setup = true)
    (hresponsive : u.hardware.script.Responsive) :
    ∃ v, Standing u.hidState u.hardware.wire v ∧ ∀ polls,
      (Pipe.controller descriptorList polls).handleEndpointInterrupt u =
        respondTo (Pipe.controller descriptorList polls) (u.hardware.script.read .UEINTX)
          u.hardware.script.setupPacket v := by
  obtain ⟨q, hparse, hwire, hs, huenum, hanswers, hreads⟩ := parse_run u.hardware
  have hrun (polls : ℕ) : onHardware (SetupPacket.parseFromUsbEndpoint
      (Pipe.controller descriptorList polls).native) u =
        (some u.hardware.script.setupPacket, { u with hardware := q }) :=
    congrArg (fun r => (r.1, { u with hardware := r.2 })) hparse
  have hflags : q.read .UEINTX = u.hardware.script.read .UEINTX := by
    change q.script.answers .UEINTX (q.script.reads .UEINTX) = _
    rw [hanswers, hreads]
    rfl
  have hcleared (value : UInt8) :
      value &&& ~~~(bit RXSTPI ||| bit RXOUTI ||| bit TXINI) &&& bit RXSTPI = 0 := by
    have hmask : ~~~(bit RXSTPI ||| bit RXOUTI ||| bit TXINI) &&& bit RXSTPI = 0 := by decide
    rw [UInt8.and_assoc, hmask, UInt8.and_zero]
  let flags := (q.reading .UEINTX).read .UEINTX &&& ~~~(bit RXSTPI ||| bit RXOUTI ||| bit TXINI)
  let acknowledged := ((q.reading .UEINTX).reading .UEINTX).writing .UEINTX flags
  refine ⟨{ u with hardware := acknowledged }, ⟨rfl, ?_, ?_, ?_, ?_⟩, fun polls => ?_⟩
  · have hkept : Wire.after true 0 .UEINTX flags q.wire = q.wire := by simp [Wire.after]
    change q.wire.after q.setup q.script.uenum .UEINTX flags = _
    rw [hs, hsetup, huenum, hkept, hwire]
  · change (q.setup && ¬ (q.script.uenum = 0 ∧ Register.UEINTX = .UEINTX ∧ flags &&& bit RXSTPI = 0)) =
      false
    simp [huenum, flags, hcleared]
  · exact huenum
  · change ∀ n, ∃ k, q.script.answers .UEINTX (n + k) &&& bit TXINI ≠ 0
    rw [hanswers]
    exact hresponsive
  · rw [handleEndpointInterrupt, bind_of_some (hrun polls), bind_of_some (pipe_get _ _),
      bind_of_some (pipe_get _ _), bind_of_some (pipe_set _ _ _)]
    exact congrArg (fun interrupt => respondTo _ interrupt _ _) hflags

theorem endpoint_serves {u : Device Pipe} (hm : Mirrored u.hidState d) (hsetup : u.hardware.setup = true)
    (hwire : u.hardware.wire = d.shown .silence) (hresponsive : u.hardware.script.Responsive) :
    ∃ a t, Settles (fun polls => (Pipe.controller descriptorList polls).handleEndpointInterrupt) u a t ∧
      let met := d.meet descriptorList
        (.ofInterrupt (u.hardware.script.read .UEINTX) u.hardware.script.setupPacket)
      Holds met.2 (met.2.shown met.1) t := by
  obtain ⟨v, hv, hrun⟩ := endpoint_run descriptorList hsetup hresponsive
  rw [hwire] at hv
  obtain ⟨a, t, ⟨bound, hsettles⟩, ht⟩ := respondTo_serves descriptorList
    u.hardware.script.setupPacket hm (u.hardware.script.read .UEINTX) v hv
  exact ⟨a, t, ⟨bound, fun polls hpolls => (hrun polls).trans (hsettles polls hpolls)⟩, ht⟩

end Answering

section Reporting

variable (descriptorList)

def Aside (d : Settings) (w : Wire) (u : Device Pipe) : Prop :=
  Holds d w u ∧ u.hardware.script.uenum ≠ 0

theorem holds_set_other {r : Register} (hr : r ∉ [.UDADDR, .UEDATX, .UECONX, .UEINTX])
    (value : UInt8) : Attains (Holds d w)
      (fun polls => (Pipe.controller descriptorList polls).set r value) fun _ => Holds d w :=
  set_unseen (P := (Mirrored · d)) descriptorList fun _ _ _ => Wire.after_other hr

theorem holds_get (r : Register) : Attains (Holds d w)
    (fun polls => (Pipe.controller descriptorList polls).get r) fun _ => Holds d w :=
  fun u hu => ⟨_, _, .of_run fun _ => pipe_get r u, hu⟩

theorem aside_set {r : Register} (hr : r ≠ .UENUM) (hd : r ≠ .UDADDR) (value : UInt8) :
    Attains (Aside d w) (fun polls => (Pipe.controller descriptorList polls).set r value)
      fun _ => Aside d w := by
  rintro u ⟨⟨hm, hw⟩, huenum⟩
  refine ⟨(), _, .of_run fun _ => pipe_set r value u, ⟨hm, ?_⟩, ?_⟩
  · exact (Wire.after_elsewhere hd huenum).trans hw
  · change (u.hardware.script.writing r value).uenum ≠ 0
    rwa [Script.writing_uenum, if_neg hr]

theorem aside_count (count : HidState → UInt8) : Attains (Aside d w)
    (fun _ => updateHid fun hid => { hid with idleCount := count hid }) fun _ => Aside d w :=
  .modify fun _ hu => ⟨⟨⟨hu.1.1.configuration, hu.1.1.idleConfig, hu.1.1.protocol, hu.1.1.report⟩,
    hu.1.2⟩, hu.2⟩

theorem aside_sendHidState : Attains (Aside d w)
    (fun polls => (Pipe.controller descriptorList polls).sendHidState) fun _ => Aside d w := by
  refine (aside_count fun _ => 0).bind fun _ =>
    (Attains.gets (Q := fun _ => Aside d w) fun _ hu => hu).bind fun hid => ?_
  refine Attains.bind (Q := fun _ => Aside d w) ?_ fun _ => aside_set descriptorList (by decide) (by decide) _
  exact Attains.forM (I := fun _ => Aside d w)
    (fun byte _ => aside_set descriptorList (by decide) (by decide) byte) hid.report

theorem holds_reportWhenIdle : Attains (Holds d w)
    (fun polls => (Pipe.controller descriptorList polls).reportWhenIdle) fun _ => Holds d w := by
  have hselect : Attains (Holds d w)
      (fun polls => (Pipe.controller descriptorList polls).set .UENUM kKeyboardEndpoint)
      fun _ => Aside d w := by
    intro u hu
    refine ⟨(), _, .of_run fun _ => pipe_set .UENUM kKeyboardEndpoint u, ⟨hu.1, ?_⟩, ?_⟩
    · exact (Wire.after_other (r := .UENUM) (w := u.hardware.wire) (by decide)).trans hu.2
    · change kKeyboardEndpoint ≠ 0
      decide
  have hread : Attains (Aside d w) (fun polls => (Pipe.controller descriptorList polls).get .UEINTX)
      fun _ => Aside d w := fun u hu => ⟨_, _, .of_run fun _ => pipe_get .UEINTX u, hu⟩
  refine Attains.mono (P := Holds d w) (Q := fun _ => Aside d w) ?_ (fun _ h => h) fun _ _ h => h.1
  refine hselect.bind fun _ => hread.bind fun ueintx => .ite (fun _ => ?_) fun _ => .pure fun _ h => h
  refine (aside_count fun hid => hid.idleCount + 1).bind fun _ =>
    (Attains.gets (Q := fun _ => Aside d w) fun _ hu => hu).bind fun hid => ?_
  exact .ite (fun _ => aside_sendHidState descriptorList) fun _ => .pure fun _ h => h

theorem holds_configureEndpoint0 : Attains (Holds d w)
    (fun polls => (Pipe.controller descriptorList polls).configureEndpoint0) fun _ => Holds d w := by
  have hset {r : Register} (hr : r ∉ [.UDADDR, .UEDATX, .UECONX, .UEINTX]) (value : UInt8) :=
    holds_set_other descriptorList (d := d) (w := w) hr value
  refine Attains.bind (Q := fun _ => Holds d w) (.modify fun _ hu => hu) fun _ => ?_
  refine (hset (by decide) _).bind fun _ => ?_
  refine (set_unseen (P := (Mirrored · d)) descriptorList
    fun _ _ _ => Wire.after_enabling).bind fun _ => ?_
  exact (hset (by decide) _).bind fun _ => (hset (by decide) _).bind fun _ => hset (by decide) _

theorem general_serves : Attains (Holds d w)
    (fun polls => (Pipe.controller descriptorList polls).handleGeneralInterrupt) fun _ => Holds d w := by
  refine (holds_get descriptorList .UDINT).bind fun flags => ?_
  refine (holds_set_other descriptorList (by decide) 0).bind fun _ => ?_
  have hframe : Attains (Holds d w) (fun polls => if flags &&& bit SOFI ≠ 0 then
      (Pipe.controller descriptorList polls).countFrame else pure ()) fun _ => Holds d w := by
    refine .ite (fun _ => ?_) fun _ => .pure fun _ h => h
    refine (holds_get descriptorList .UDMFN).bind fun udmfn => ?_
    refine (Attains.gets (Q := fun _ => Holds d w) fun _ hu => hu).bind fun hid => ?_
    exact .ite (fun _ => holds_reportWhenIdle descriptorList) fun _ => .pure fun _ h => h
  exact .ite (fun _ => (holds_configureEndpoint0 descriptorList).bind fun _ => hframe) fun _ => hframe

end Reporting

def Follows (u : Device Pipe) (d : Settings) : Prop :=
  Mirrored u.hidState d ∧ u.hardware.wire.address = d.address

theorem turn_serves (descriptorList : List DescriptorContainer) {u : Device Pipe} (h : Follows u d)
    (turn : Turn) :
    ∃ t, (∃ bound, ∀ polls ≥ bound, takeTurn descriptorList polls u turn =
      (some (d.serve descriptorList turn.occasion).1, t)) ∧
      Follows t (d.serve descriptorList turn.occasion).2 := by
  obtain ⟨hm, haddress⟩ := h
  have hserved : ∃ a t, Settles (fun polls => handler descriptorList polls turn) (u.met turn) a t ∧
      Holds (d.meet descriptorList turn.occasion).2 (d.serve descriptorList turn.occasion).1 t := by
    cases turn with
    | keys modifierKeys key =>
      refine ⟨(), _, .of_run fun _ => rfl, ⟨hm.configuration, hm.idleConfig, hm.protocol, ?_⟩, ?_⟩
      · exact hold_report hm.report key modifierKeys
      · exact congrArg (fun address => { address : Wire }) haddress
    | general script =>
      by_cases hreset : script.read .UDINT &&& bit EORSTI ≠ 0
      · have hheld : Holds { d with address := 0 } (Settings.shown { d with address := 0 } .silence)
            (u.met (.general script)) := by
          refine ⟨⟨hm.configuration, hm.idleConfig, hm.protocol, hm.report⟩, ?_⟩
          exact congrArg (fun address => { address : Wire }) (if_pos hreset)
        rw [Turn.occasion, if_pos hreset]
        exact general_serves descriptorList _ hheld
      · have hheld : Holds d (d.shown .silence) (u.met (.general script)) :=
          ⟨hm, congrArg (fun address => { address : Wire }) ((if_neg hreset).trans haddress)⟩
        rw [Turn.occasion, if_neg hreset]
        exact general_serves descriptorList _ hheld
    | endpoint script =>
      have hwire : (u.met (.endpoint script)).hardware.wire = d.shown .silence :=
        congrArg (fun address => { address : Wire }) haddress
      exact endpoint_serves descriptorList hm rfl hwire script.property
  obtain ⟨a, t, ⟨bound, hsettles⟩, hheld, hwire⟩ := hserved
  refine ⟨t, ⟨bound, fun polls hpolls => ?_⟩, hheld, congrArg Wire.address hwire⟩
  have hrun : handler descriptorList polls turn (u.met turn) = (some a, t) := hsettles polls hpolls
  simp only [takeTurn, hrun, Option.map_some, hwire]

theorem trace_served (descriptorList : List DescriptorContainer) {u : Device Pipe} (h : Follows u d)
    (turns : List Turn) :
    ∃ bound, ∀ polls ≥ bound, trace (takeTurn descriptorList polls) u turns =
      (trace (Settings.serve descriptorList) d (turns.map Turn.occasion)).map some := by
  let answered (d : Settings) (turn : Turn) : Option Wire × Settings :=
    (some (d.serve descriptorList turn.occasion).1, (d.serve descriptorList turn.occasion).2)
  have hturn : ∀ u d turn, Follows u d → ∃ t,
      (∃ bound, ∀ polls ≥ bound, takeTurn descriptorList polls u turn = ((answered d turn).1, t)) ∧
        Follows t (answered d turn).2 := fun _ _ turn h => turn_serves descriptorList h turn
  obtain ⟨bound, hbound⟩ := trace_eq_eventually hturn h turns
  exact ⟨bound, fun polls hpolls => (hbound polls hpolls).trans (trace_map _ _ _ _ _)⟩

theorem follows_initial (script : Script) : Follows (.initial { script }) {} :=
  ⟨⟨rfl, rfl, rfl, rfl⟩, rfl⟩

-- Whatever the flags say meanwhile, every request of a run is answered as the abstract device
-- answers it, and every handler of the run returns.
theorem control_requests_answered (descriptorList : List DescriptorContainer) (script : Script)
    (turns : List Turn) :
    ∃ bound, ∀ polls ≥ bound,
      trace (takeTurn descriptorList polls) (.initial { script }) turns =
        (trace (Settings.serve descriptorList) {} (turns.map Turn.occasion)).map some :=
  trace_served descriptorList (follows_initial script) turns

end Threeboard.Usb
