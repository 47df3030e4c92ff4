import Threeboard.Usb.Descriptors

namespace Threeboard.Usb

open Actions Actions.Action Mcu UsbControllerImpl Packets

structure Wire where
  bank : List UInt8 := []
  sent : List (List UInt8) := []
  stalled : Bool := false
  address : UInt8 := 0
  deriving DecidableEq, Repr

namespace Wire

-- A SETUP packet has the bank until it is acknowledged; after that the bank goes to the host when
-- TXINI is cleared.
def after (setup : Bool) (endpoint : UInt8) (r : Register) (value : UInt8) (w : Wire) : Wire :=
  if r = .UDADDR then { w with address := value }
  else if endpoint ≠ 0 then w
  else if r = .UEDATX then { w with bank := w.bank ++ [value] }
  else if r = .UECONX ∧ value &&& bit STALLRQ ≠ 0 then { w with stalled := true }
  else if r = .UEINTX ∧ ¬ setup ∧ value &&& bit TXINI = 0 then
    { w with bank := [], sent := w.sent ++ [w.bank] }
  else w

def sending (packets : List (List UInt8)) (w : Wire) : Wire :=
  { w with sent := w.sent ++ packets }

variable {setup : Bool} {endpoint : UInt8} {r : Register} {value : UInt8} {w : Wire}

theorem after_elsewhere (hr : r ≠ .UDADDR) (h : endpoint ≠ 0) :
    w.after setup endpoint r value = w := by
  rw [after, if_neg hr, if_pos h]

theorem after_other (hr : r ∉ [.UDADDR, .UEDATX, .UECONX, .UEINTX]) :
    w.after setup endpoint r value = w := by
  simp only [List.mem_cons, List.not_mem_nil, or_false, not_or] at hr
  obtain ⟨haddress, hbyte, hcontrol, hflags⟩ := hr
  simp only [after, haddress, hbyte, hcontrol, hflags, if_false, false_and, ite_self]

theorem after_enabling : w.after setup endpoint .UECONX (bit EPEN) = w := by
  have hstall : bit EPEN &&& bit STALLRQ = 0 := by decide
  simp [after, hstall]

end Wire

-- The control endpoint, with flags that it shows at will.
structure Pipe where
  script : Script
  setup : Bool := false
  wire : Wire := {}

namespace Pipe

variable (r : Register) (value : UInt8) (p : Pipe)

def read : UInt8 := if r = .UDADDR then p.wire.address else p.script.read r

def reading : Pipe := { p with script := p.script.reading r }

def writing : Pipe where
  script := p.script.writing r value
  setup := p.setup && ¬ (p.script.uenum = 0 ∧ r = .UEINTX ∧ value &&& bit RXSTPI = 0)
  wire := p.wire.after p.setup p.script.uenum r value

def native : Native Pipe where
  getRegister r p := (p.read r, p.reading r)
  setRegister := writing

def controller (descriptorList : List DescriptorContainer) (polls : ℕ) :
    UsbControllerImpl Pipe := ⟨native, descriptorList, polls⟩

end Pipe

def Device.onPipe (f : Pipe → Pipe) (u : Device Pipe) : Device Pipe :=
  { u with hardware := f u.hardware }

variable {descriptorList : List DescriptorContainer} {polls : ℕ}

theorem pipe_get (r : Register) (u : Device Pipe) :
    (Pipe.controller descriptorList polls).get r u =
      (some (u.hardware.read r), u.onPipe (Pipe.reading r)) := rfl

theorem pipe_set (r : Register) (value : UInt8) (u : Device Pipe) :
    (Pipe.controller descriptorList polls).set r value u =
      (some (), u.onPipe (Pipe.writing r value)) := rfl

structure Standing (hid : HidState) (w : Wire) (u : Device Pipe) : Prop where
  hidState : u.hidState = hid
  wire : u.hardware.wire = w
  acknowledged : u.hardware.setup = false
  selected : u.hardware.script.uenum = 0
  responsive : u.hardware.script.Responsive

def Stands (hid : HidState) (w : Wire) (u : Device Pipe) : Prop :=
  u.hidState = hid ∧ u.hardware.wire = w

variable {hid : HidState} {w : Wire}

theorem Standing.stands {u : Device Pipe} (h : Standing hid w u) : Stands hid w u :=
  ⟨h.hidState, h.wire⟩

section Steps

variable (descriptorList)

def Serves {α : Type} (hid : HidState) (w : Wire)
    (x : UsbControllerImpl Pipe → Action (Device Pipe) α) (Q : α → Device Pipe → Prop) : Prop :=
  Attains (Standing hid w) (fun polls => x (Pipe.controller descriptorList polls)) Q

theorem serves_set {r : Register} (hr : r ≠ .UENUM) (value : UInt8) :
    Serves descriptorList hid w (fun c => c.set r value)
      fun _ => Standing hid (w.after false 0 r value) := by
  rintro u ⟨rfl, rfl, hack, hsel, hresp⟩
  refine ⟨(), _, .of_run fun _ => pipe_set r value u, rfl, ?_, ?_, ?_, hresp⟩
  · change u.hardware.wire.after u.hardware.setup u.hardware.script.uenum r value = _
    rw [hack, hsel]
  · change (u.hardware.setup && _) = false
    rw [hack, Bool.false_and]
  · change (u.hardware.script.writing r value).uenum = 0
    rw [Script.writing_uenum, if_neg hr, hsel]

theorem serves_get_address : Serves descriptorList hid w (fun c => c.get .UDADDR)
    fun address u => address = w.address ∧ Standing hid w u := by
  rintro u ⟨rfl, rfl, hack, hsel, hresp⟩
  exact ⟨_, _, .of_run fun _ => pipe_get .UDADDR u, rfl, rfl, rfl, hack, hsel, hresp⟩

theorem serves_await :
    Serves descriptorList hid w awaitTransmitterReady fun _ => Standing hid w := by
  let waiting (k : ℕ) (u : Device Pipe) : Prop := Standing hid w u ∧
    u.hardware.script.TransmitterReady (u.hardware.script.reads .UEINTX + k)
  have hpoll : Attains (fun u => ∃ k, waiting k u) (poll do
      let ueintx ← (Pipe.controller descriptorList 0).get .UEINTX
      pure (ueintx &&& bit TXINI ≠ 0)) fun _ => Standing hid w := by
    refine Attains.poll fun k u ⟨hu, hready⟩ => ⟨u.onPipe (Pipe.reading .UEINTX), ?_⟩
    have hnext : Standing hid w (u.onPipe (Pipe.reading .UEINTX)) :=
      ⟨hu.hidState, hu.wire, hu.acknowledged, hu.selected, hu.responsive⟩
    by_cases hnow : u.hardware.script.read .UEINTX &&& bit TXINI = 0
    · refine .inr ⟨?_, ?_⟩
      · exact congrArg (fun ready => (some ready, _)) (decide_eq_false (not_not.mpr hnow))
      · cases k with
        | zero => exact absurd hnow hready
        | succ k =>
          refine ⟨k, Nat.lt_succ_self k, hnext, ?_⟩
          simpa [Device.onPipe, Pipe.reading, Script.TransmitterReady, Nat.add_right_comm,
            Nat.add_assoc] using hready
    · exact .inl ⟨congrArg (fun ready => (some ready, _)) (decide_eq_true hnow), hnext⟩
  exact hpoll.mono (fun u hu => (hu.responsive _).imp fun k hk => ⟨hu, hk⟩) fun _ _ h => h

theorem serves_fill (bytes : List UInt8) : Serves descriptorList hid w (fun c => c.fill bytes)
    fun _ => Standing hid { w with bank := w.bank ++ bytes } := by
  induction bytes generalizing w with
  | nil =>
    refine Attains.pure fun u hu => ?_
    rwa [List.append_nil]
  | cons byte rest ih =>
    simp only [Serves, fill, List.forM_cons]
    refine (serves_set descriptorList (r := .UEDATX) (by decide) byte).bind fun _ => ?_
    have hrest := @ih { w with bank := w.bank ++ [byte] }
    simp only [List.append_assoc, List.singleton_append] at hrest
    exact hrest

theorem serves_handshake : Serves descriptorList hid w handshakeTransmitterInterrupt
    fun _ => Standing hid { w with bank := [], sent := w.sent ++ [w.bank] } :=
  serves_set descriptorList (by decide) _

theorem serves_sendFrame (hbank : w.bank = []) (bytes : List UInt8) :
    Serves descriptorList hid w (fun c => c.sendFrame bytes)
      fun _ => Standing hid (w.sending [bytes]) := by
  refine (serves_await descriptorList).bind fun _ => (serves_fill descriptorList bytes).bind fun _ => ?_
  have hdone : Serves descriptorList hid { w with bank := w.bank ++ bytes } _ _ :=
    serves_handshake descriptorList
  simp only [hbank, List.nil_append] at hdone ⊢
  simpa only [Serves, Wire.sending, hbank] using hdone

theorem Wire.sending_append (packets more : List (List UInt8)) (w : Wire) :
    (w.sending packets).sending more = w.sending (packets ++ more) := by
  simp only [Wire.sending, List.append_assoc]

theorem serves_sendFrames (data : ℕ → UInt8) {rounds sent remaining current : ℕ} (hbank : w.bank = [])
    (hrounds : remaining < rounds) (hgoes : remaining > 0 ∨ current = k32BytePacketSize.toNat) :
    Serves descriptorList hid w (fun c => c.sendFrames data rounds sent remaining current)
      fun _ => Standing hid (w.sending (split 32 (frameBytes data sent remaining))) := by
  induction rounds generalizing w sent remaining current with
  | zero => omega
  | succ rounds ih =>
    simp only [sendFrames_round _ data rounds sent hgoes]
    have hframe : Serves descriptorList hid w _ _ :=
      serves_sendFrame descriptorList hbank (frameBytes data sent (min remaining 32))
    refine hframe.bind fun _ => ?_
    rcases Nat.lt_or_ge remaining 32 with hlast | hfull
    · simp only [Nat.min_eq_left hlast.le, Nat.sub_self, sendFrames_ends _ data rounds _ hlast]
      rw [split_of_lt (by rwa [frameBytes_length])]
      exact Attains.pure fun _ hu => hu
    · simp only [Nat.min_eq_right hfull]
      have hsplit : w.sending (split 32 (frameBytes data sent remaining)) =
          (w.sending [frameBytes data sent 32]).sending
            (split 32 (frameBytes data (sent + 32) (remaining - 32))) := by
        rw [frameBytes_split data sent hfull, split_append (by decide) (frameBytes_length ..),
          Wire.sending_append, List.singleton_append]
      rw [hsplit]
      have hless : remaining - 32 < rounds := by omega
      exact ih hbank hless (.inr rfl)

theorem serves_reply (hbank : w.bank = []) (bytes : HidState → List UInt8) :
    Serves descriptorList hid w (fun c => c.reply bytes)
      fun _ => Standing hid (w.sending [bytes hid]) := by
  refine (serves_await descriptorList).bind fun _ => ?_
  have hread : Attains (Standing hid w) (fun _ => Action.gets Device.hidState)
      fun asked u => asked = hid ∧ Standing hid w u := Attains.gets fun u hu => ⟨hu.hidState, hu⟩
  refine hread.bind fun asked => .assuming ?_
  rintro rfl
  have hbytes : Serves descriptorList asked w _ _ := serves_fill descriptorList (bytes asked)
  have hfill := hbytes.bind fun _ => serves_handshake descriptorList
  simp only [hbank, List.nil_append] at hfill
  simpa only [Wire.sending, hbank] using hfill

theorem serves_store (hbank : w.bank = []) (f : HidState → HidState) :
    Serves descriptorList hid w (fun c => c.store f)
      fun _ => Standing (f hid) (w.sending [[]]) := by
  have hdone : Serves descriptorList hid w _ _ := serves_handshake descriptorList
  rw [hbank] at hdone
  refine hdone.bind fun _ => Attains.modify fun u hu => ?_
  have hwire : w.sending [[]] = { w with bank := [], sent := w.sent ++ [[]] } := by
    rw [Wire.sending, hbank]
  exact ⟨congrArg f hu.hidState, hu.wire.trans hwire.symm, hu.acknowledged, hu.selected,
    hu.responsive⟩

theorem serves_setAddress (hbank : w.bank = []) (packet : SetupPacket) :
    Serves descriptorList hid w (fun c => c.handleSetAddress packet) fun _ =>
      Standing hid { w.sending [[]] with address := packet.wValue.toUInt8 ||| bit ADDEN } := by
  have hdone : Serves descriptorList hid w _ _ := serves_handshake descriptorList
  rw [hbank] at hdone
  refine hdone.bind fun _ => ?_
  refine (serves_set descriptorList (r := .UDADDR) (by decide) packet.wValue.toUInt8).bind fun _ => ?_
  refine (serves_await descriptorList).bind fun _ =>
    (serves_get_address descriptorList).bind fun address => .assuming ?_
  rintro rfl
  refine Attains.mono (serves_set descriptorList (r := .UDADDR) (by decide) _) (fun _ h => h) ?_
  intro _ u hu
  simpa [Wire.sending, Wire.after, hbank] using hu

theorem serves_getDescriptor_missing {packet : SetupPacket}
    (hfind : ((counted descriptorList).find? fun container => container.id = packet.wValue) =
      none) :
    Serves descriptorList hid w (fun c => c.handleGetDescriptor packet)
      fun _ => Standing hid { w with stalled := true } := by
  have hsame (polls : ℕ) :
      (Pipe.controller descriptorList polls).findMatchingContainer packet = none :=
    (findMatchingContainer_eq _ packet).trans hfind
  simp only [Serves, handleGetDescriptor, hsame]
  exact serves_set descriptorList (by decide) _

-- Nothing goes to a host that asks for nothing; not even the empty packet.
def dataPackets (bytes : List UInt8) : List (List UInt8) := if bytes = [] then [] else split 32 bytes

theorem serves_getDescriptor {packet : SetupPacket} {container : DescriptorContainer}
    (hbank : w.bank = [])
    (hfind : ((counted descriptorList).find? fun container => container.id = packet.wValue) =
      some container) :
    Serves descriptorList hid w (fun c => c.handleGetDescriptor packet) fun _ =>
      Standing hid (w.sending (dataPackets
        (container.bytes (container.requested packet.wLength)))) := by
  have hsame (polls : ℕ) :
      (Pipe.controller descriptorList polls).findMatchingContainer packet = some container :=
    (findMatchingContainer_eq _ packet).trans hfind
  simp only [Serves, handleGetDescriptor, hsame, container.requested_eq]
  rcases Nat.eq_zero_or_pos (container.requested packet.wLength) with hzero | hpos
  · rw [hzero]
    refine Attains.pure fun u hu => ?_
    simpa [dataPackets, DescriptorContainer.bytes, Wire.sending] using hu
  · have hbytes : container.bytes (container.requested packet.wLength) =
        frameBytes container.data 0 (container.requested packet.wLength) := by
      simp only [DescriptorContainer.bytes, frameBytes, Nat.zero_add]
    have hsome : frameBytes container.data 0 (container.requested packet.wLength) ≠ [] := by
      rw [← List.length_pos_iff, frameBytes_length]
      exact hpos
    rw [hbytes, dataPackets, if_neg hsome]
    exact serves_sendFrames descriptorList container.data hbank (by omega) (.inl hpos)

theorem set_unseen {P : HidState → Prop} {r : Register} {value : UInt8} {w : Wire}
    (h : ∀ setup endpoint w, Wire.after setup endpoint r value w = w) :
    Attains (fun u : Device Pipe => P u.hidState ∧ u.hardware.wire = w)
      (fun polls => (Pipe.controller descriptorList polls).set r value)
      fun _ u => P u.hidState ∧ u.hardware.wire = w :=
  fun u hu => ⟨(), _, .of_run fun _ => pipe_set r value u, hu.1, (h _ _ _).trans hu.2⟩

theorem serves_setConfiguration (hbank : w.bank = []) (packet : SetupPacket) :
    Serves descriptorList hid w (fun c => c.handleSetConfiguration packet) fun _ =>
      Stands { hid with configuration := packet.wValue.toUInt8 } (w.sending [[]]) := by
  refine (serves_store descriptorList hbank _).bind fun _ => ?_
  refine (Attains.gets (Q := fun _ => Stands { hid with configuration := packet.wValue.toUInt8 }
    (w.sending [[]])) fun u hu => hu.stands).bind fun configuration => ?_
  refine .ite (fun _ => .pure fun _ hu => hu) fun _ => ?_
  have hset {r : Register} (hr : r ∉ [.UDADDR, .UEDATX, .UECONX, .UEINTX]) (value : UInt8) :
      Attains (Stands { hid with configuration := packet.wValue.toUInt8 } (w.sending [[]]))
        (fun polls => (Pipe.controller descriptorList polls).set r value)
        fun _ => Stands { hid with configuration := packet.wValue.toUInt8 } (w.sending [[]]) :=
    set_unseen (P := (· = _)) descriptorList fun _ _ _ => Wire.after_other hr
  refine (hset (by decide) _).bind fun _ => ?_
  refine (set_unseen (P := (· = _)) descriptorList fun _ _ _ => Wire.after_enabling).bind
    fun _ => ?_
  exact (hset (by decide) _).bind fun _ => (hset (by decide) _).bind fun _ =>
    (hset (by decide) _).bind fun _ => (hset (by decide) _).bind fun _ => .modify fun _ hu => hu

end Steps

end Threeboard.Usb
