import Threeboard.Usb.Sending
import Threeboard.Library.Packets

namespace Threeboard.Usb

open Actions Actions.Action Mcu UsbControllerImpl Packets

structure DescriptorFrame where
  waits : List UInt8
  ready : UInt8
  bytes : List UInt8
  waits_clear : ∀ b ∈ waits, b &&& bit TXINI = 0
  ready_set : ready &&& bit TXINI ≠ 0

def Script.awaiting (s : Script) (waits : List UInt8) (ready : UInt8) : List Access :=
  waits.map (s.access false .UEINTX) ++ [s.access false .UEINTX ready]

def DescriptorFrame.accesses (s : Script) (frame : DescriptorFrame) : List Access :=
  s.awaiting frame.waits frame.ready ++ frame.bytes.map (s.access true .UEDATX) ++
    [s.access true .UEINTX (~~~bit TXINI)]

def Access.isHandshake (a : Access) : Bool :=
  a.writes && a.register = .UEINTX && a.value &&& bit TXINI = 0

def Access.isByte (a : Access) : Bool := a.writes && a.register = .UEDATX

def sentBytes (log : List Access) : List UInt8 := (log.filter Access.isByte).map Access.value

-- A handshake hands over the bytes written since the one before it.
def sentFrames : List Access → List (List UInt8)
  | [] => []
  | a :: log =>
    if a.isHandshake then [] :: sentFrames log
    else if a.isByte then
      match sentFrames log with
      | [] => []
      | frame :: frames => (a.value :: frame) :: frames
    else sentFrames log

structure Device.Adds (u t : Device Script) (accesses : List Access) : Prop where
  hidState : t.hidState = u.hidState
  events : t.events = u.events
  answers : t.hardware.answers = u.hardware.answers
  sreg : t.hardware.sreg = u.hardware.sreg
  uenum : t.hardware.uenum = u.hardware.uenum
  log : t.hardware.log = u.hardware.log ++ accesses

namespace Device.Adds

variable {u t v : Device Script} {l l' : List Access}

theorem access (h : u.Adds t l) (writes : Bool) (r : Register) :
    t.hardware.access writes r = u.hardware.access writes r := by
  funext value
  simp only [Script.access, Script.interrupts, h.sreg, h.uenum]

theorem awaiting (h : u.Adds t l) : t.hardware.awaiting = u.hardware.awaiting := by
  funext waits ready
  simp only [Script.awaiting, h.access]

theorem accesses (h : u.Adds t l) : DescriptorFrame.accesses t.hardware = DescriptorFrame.accesses u.hardware := by
  funext frame
  simp only [DescriptorFrame.accesses, h.awaiting, h.access]

theorem refl (u : Device Script) : u.Adds u [] := ⟨rfl, rfl, rfl, rfl, rfl, (List.append_nil _).symm⟩

theorem trans (h : u.Adds t l) (h' : t.Adds v l') : u.Adds v (l ++ l') where
  hidState := h'.hidState.trans h.hidState
  events := h'.events.trans h.events
  answers := h'.answers.trans h.answers
  sreg := h'.sreg.trans h.sreg
  uenum := h'.uenum.trans h.uenum
  log := by rw [h'.log, h.log, List.append_assoc]

theorem reading (u : Device Script) (r : Register) :
    u.Adds (u.onScript (Script.reading r)) [u.hardware.access false r (u.hardware.read r)] :=
  ⟨rfl, rfl, rfl, rfl, rfl, rfl⟩

theorem writing (u : Device Script) {r : Register} (hs : r ≠ .SREG) (he : r ≠ .UENUM)
    (value : UInt8) : u.Adds (u.onScript (Script.writing r value))
      [u.hardware.access true r value] where
  hidState := rfl
  events := rfl
  answers := rfl
  sreg := if_neg hs
  uenum := if_neg he
  log := rfl

theorem filled (bytes : List UInt8) (u : Device Script) :
    u.Adds (u.onScript (Script.filled bytes)) (bytes.map (u.hardware.access true .UEDATX)) := by
  induction bytes generalizing u with
  | nil => exact .refl u
  | cons byte rest ih =>
    have hbyte := writing u (r := .UEDATX) (by decide) (by decide) byte
    rw [List.map_cons, ← hbyte.access]
    exact hbyte.trans (ih _)

end Device.Adds

def Script.TransmitterReady (s : Script) (n : ℕ) : Prop := s.answers .UEINTX n &&& bit TXINI ≠ 0

def Script.Responsive (s : Script) : Prop := ∀ n, ∃ k, s.TransmitterReady (n + k)

section Rounds

variable {σ : Type} (c : UsbControllerImpl σ) (data : ℕ → UInt8)

def UsbControllerImpl.sendFrame (bytes : List UInt8) : Action (Device σ) Unit := do
  c.awaitTransmitterReady
  c.fill bytes
  c.handshakeTransmitterInterrupt

def frameBytes (sent n : ℕ) : List UInt8 := (List.range n).map fun i => data (sent + i)

theorem frameBytes_length (sent n : ℕ) : (frameBytes data sent n).length = n := by
  simp [frameBytes]

theorem frameBytes_split {n : ℕ} (sent : ℕ) (h : 32 ≤ n) :
    frameBytes data sent n = frameBytes data sent 32 ++ frameBytes data (sent + 32) (n - 32) := by
  simp only [frameBytes]
  conv_lhs => rw [← Nat.add_sub_cancel' h, List.range_add, List.map_append, List.map_map]
  simp only [Function.comp_def, Nat.add_assoc]

theorem sendFrames_round (rounds sent : ℕ) {remaining current : ℕ}
    (h : remaining > 0 ∨ current = k32BytePacketSize.toNat) :
    c.sendFrames data (rounds + 1) sent remaining current =
      (c.sendFrame (frameBytes data sent (min remaining 32)) >>= fun _ =>
        c.sendFrames data rounds (sent + min remaining 32) (remaining - min remaining 32)
          (min remaining 32)) := by
  have hsize : k32BytePacketSize.toNat = 32 := rfl
  rw [sendFrames, if_pos h]
  simp only [UsbControllerImpl.sendFrame, frameBytes, bind_assoc, hsize]

theorem sendFrames_ends (rounds sent : ℕ) {current : ℕ} (h : current < 32) :
    c.sendFrames data rounds sent 0 current = pure () := by
  have hsize : k32BytePacketSize.toNat = 32 := rfl
  cases rounds with
  | zero => rfl
  | succ rounds => rw [sendFrames, if_neg (by omega)]

end Rounds

section Transfer

variable {descriptorList : List DescriptorContainer} {u : Device Script}

variable (descriptorList) in
theorem ask_run (polls : ℕ) (u : Device Script) :
    (do let ueintx ← (Script.controller descriptorList polls).get .UEINTX
        pure (ueintx &&& bit TXINI ≠ 0) : Action (Device Script) Bool) u =
      (some (u.hardware.read .UEINTX &&& bit TXINI ≠ 0 : Bool), u.onScript (Script.reading .UEINTX)) :=
  rfl

structure Awaited (descriptorList : List DescriptorContainer) (u : Device Script)
    (waits : List UInt8) (ready : UInt8) (t : Device Script) : Prop where
  waits_clear : ∀ b ∈ waits, b &&& bit TXINI = 0
  ready_set : ready &&& bit TXINI ≠ 0
  settles : Settles (fun polls =>
    (Script.controller descriptorList polls).awaitTransmitterReady) u () t
  adds : u.Adds t (u.hardware.awaiting waits ready)

theorem awaited_at_once (h : u.hardware.read .UEINTX &&& bit TXINI ≠ 0) :
    Awaited descriptorList u [] (u.hardware.read .UEINTX) (u.onScript (Script.reading .UEINTX)) := by
  have hask := ask_run descriptorList 0 u
  rw [decide_eq_true h] at hask
  exact ⟨by simp, h, .poll_ready hask, .reading u .UEINTX⟩

theorem awaited_later {waits : List UInt8} {ready : UInt8} {t : Device Script}
    (h : u.hardware.read .UEINTX &&& bit TXINI = 0)
    (hrest : Awaited descriptorList (u.onScript (Script.reading .UEINTX)) waits ready t) :
    Awaited descriptorList u (u.hardware.read .UEINTX :: waits) ready t := by
  have hask := ask_run descriptorList 0 u
  rw [decide_eq_false (not_not.mpr h)] at hask
  have hread : u.Adds (u.onScript (Script.reading .UEINTX)) _ := .reading u .UEINTX
  have hadds := hrest.adds
  rw [hread.awaiting] at hadds
  exact ⟨List.forall_mem_cons.mpr ⟨h, hrest.waits_clear⟩, hrest.ready_set,
    .poll_waits hask hrest.settles, hread.trans hadds⟩

variable (descriptorList) in
theorem exists_awaited {k : ℕ} (h : u.hardware.TransmitterReady (u.hardware.reads .UEINTX + k)) :
    ∃ waits ready t, Awaited descriptorList u waits ready t := by
  induction k generalizing u with
  | zero => exact ⟨_, _, _, awaited_at_once h⟩
  | succ k ih =>
    by_cases hnow : u.hardware.read .UEINTX &&& bit TXINI = 0
    · have hlater : (u.onScript (Script.reading .UEINTX)).hardware.TransmitterReady
          ((u.onScript (Script.reading .UEINTX)).hardware.reads .UEINTX + k) := by
        simpa [Device.onScript, Script.TransmitterReady, Nat.add_right_comm, Nat.add_assoc] using h
      obtain ⟨waits, ready, t, hrest⟩ := ih hlater
      exact ⟨_, _, _, awaited_later hnow hrest⟩
    · exact ⟨_, _, _, awaited_at_once hnow⟩

variable (descriptorList) in
theorem settles_frame {k : ℕ} (h : u.hardware.TransmitterReady (u.hardware.reads .UEINTX + k))
    (bytes : List UInt8) :
    ∃ frame : DescriptorFrame, frame.bytes = bytes ∧ ∃ t, u.Adds t (frame.accesses u.hardware) ∧
      Settles (fun polls => (Script.controller descriptorList polls).sendFrame bytes) u () t := by
  obtain ⟨waits, ready, t, ha⟩ := exists_awaited descriptorList h
  have hfill := Device.Adds.filled bytes t
  have hdone := Device.Adds.writing (t.onScript (Script.filled bytes)) (r := .UEINTX) (by decide)
    (by decide) (~~~bit TXINI)
  refine ⟨⟨waits, ready, bytes, ha.waits_clear, ha.ready_set⟩, rfl, _, ?_, ha.settles.bind
    ((Settles.of_run fun _ => fill_run bytes t).bind (.of_run fun _ => set_run .UEINTX _ _))⟩
  rw [hfill.access, ha.adds.access] at hdone
  rw [ha.adds.access] at hfill
  have hall := (ha.adds.trans hfill).trans hdone
  rwa [List.append_assoc, ← List.append_assoc] at hall

def packetsOf (frames : List DescriptorFrame) : List (List UInt8) :=
  frames.map DescriptorFrame.bytes

variable (descriptorList) in
theorem settles_sendFrames (data : ℕ → UInt8) {rounds sent remaining current : ℕ}
    (hready : u.hardware.Responsive) (hrounds : remaining < rounds)
    (hgoes : remaining > 0 ∨ current = k32BytePacketSize.toNat) :
    ∃ frames t, u.Adds t (frames.flatMap (DescriptorFrame.accesses u.hardware)) ∧
      Splits 32 (frameBytes data sent remaining) (packetsOf frames) ∧
      Settles (fun polls => (Script.controller descriptorList polls).sendFrames data rounds sent
        remaining current) u () t := by
  induction rounds generalizing u sent remaining current with
  | zero => omega
  | succ rounds ih =>
    obtain ⟨k, hk⟩ := hready (u.hardware.reads .UEINTX)
    obtain ⟨frame, hbytes, t, hadds, hsettles⟩ :=
      settles_frame descriptorList hk (frameBytes data sent (min remaining 32))
    simp only [sendFrames_round _ data rounds sent hgoes]
    rcases Nat.lt_or_ge remaining 32 with hlast | hfull
    · rw [Nat.min_eq_left hlast.le] at hbytes hsettles ⊢
      refine ⟨[frame], t, by simpa using hadds, ?_, ?_⟩
      · rw [packetsOf, List.map_singleton, hbytes]
        exact .last (by simpa only [frameBytes_length] using hlast)
      · simp only [Nat.sub_self, sendFrames_ends _ data rounds _ hlast]
        exact hsettles.bind (.of_run fun _ => rfl)
    · rw [Nat.min_eq_right hfull] at hbytes hsettles ⊢
      have hlater : t.hardware.Responsive := by
        simpa only [Script.Responsive, Script.TransmitterReady, hadds.answers] using hready
      obtain ⟨frames, v, hrest, hsplits, hrests⟩ :=
        @ih t (sent + 32) (remaining - 32) 32 hlater (by omega) (.inr rfl)
      rw [hadds.accesses] at hrest
      refine ⟨frame :: frames, v, by simpa using hadds.trans hrest, ?_, hsettles.bind hrests⟩
      rw [packetsOf, List.map_cons, hbytes, frameBytes_split data sent hfull]
      exact .full (frameBytes_length data sent 32) hsplits

theorem sendFrames_rounds {σ : Type} (c : UsbControllerImpl σ) (data : ℕ → UInt8)
    {rounds sent remaining current : ℕ} (h : remaining < rounds) :
    c.sendFrames data (rounds + 1) sent remaining current =
      c.sendFrames data rounds sent remaining current := by
  induction rounds generalizing sent remaining current with
  | zero => omega
  | succ rounds ih =>
    have hsize : k32BytePacketSize.toNat = 32 := rfl
    rw [sendFrames, sendFrames]
    by_cases hgoes : remaining > 0 ∨ current = k32BytePacketSize.toNat
    · rw [if_pos hgoes, if_pos hgoes]
      have hrest : c.sendFrames data (rounds + 1) (sent + min remaining 32)
          (remaining - min remaining 32) (min remaining 32) = c.sendFrames data rounds
          (sent + min remaining 32) (remaining - min remaining 32) (min remaining 32) := by
        rcases Nat.eq_zero_or_pos rounds with rfl | hpos
        · exact if_neg (by omega)
        · exact ih (by omega)
      simp only [hsize, hrest]
    · rw [if_neg hgoes, if_neg hgoes]

theorem sendFrames_enough {σ : Type} (c : UsbControllerImpl σ) (data : ℕ → UInt8)
    {rounds remaining : ℕ} (h : remaining + 2 ≤ rounds) :
    c.sendFrames data rounds 0 remaining 0 = c.sendFrames data (remaining + 2) 0 remaining 0 := by
  induction rounds, h using Nat.le_induction with
  | base => rfl
  | succ rounds hle ih => rw [sendFrames_rounds c data (by omega), ih]

def DescriptorContainer.requested (container : DescriptorContainer) (wLength : UInt16) : ℕ :=
  min wLength.toNat container.length.toNat

def DescriptorContainer.bytes (container : DescriptorContainer) (n : ℕ) : List UInt8 :=
  (List.range n).map container.data

theorem DescriptorContainer.requested_eq (container : DescriptorContainer) (wLength : UInt16) :
    min (min wLength.toNat 255) container.length.toNat = container.requested wLength := by
  have hbyte := container.length.toNat_lt
  rw [DescriptorContainer.requested]
  omega

theorem settles_handleGetDescriptor {packet : SetupPacket} {container : DescriptorContainer}
    (hfind : (Script.controller descriptorList 0).findMatchingContainer packet = some container)
    (hready : u.hardware.Responsive) :
    ∃ frames t, u.Adds t (frames.flatMap (DescriptorFrame.accesses u.hardware)) ∧
      Settles (fun polls => (Script.controller descriptorList polls).handleGetDescriptor packet) u () t ∧
      (container.requested packet.wLength = 0 → frames = []) ∧
      (0 < container.requested packet.wLength → Splits 32
        (container.bytes (container.requested packet.wLength)) (packetsOf frames)) := by
  have hsame : ∀ polls, (Script.controller descriptorList polls).findMatchingContainer packet =
      some container := fun _ => hfind
  simp only [UsbControllerImpl.handleGetDescriptor, hsame, container.requested_eq]
  rcases Nat.eq_zero_or_pos (container.requested packet.wLength) with hzero | hpos
  · rw [hzero]
    exact ⟨[], u, .refl u, .of_run fun _ => rfl, fun _ => rfl, fun h => absurd h (by omega)⟩
  · obtain ⟨frames, t, hadds, hsplits, hsettles⟩ :=
      @settles_sendFrames descriptorList u container.data (container.requested packet.wLength + 2) 0
        (container.requested packet.wLength) 0 hready (by omega) (.inl hpos)
    simp only [frameBytes, Nat.zero_add] at hsplits
    exact ⟨frames, t, hadds, hsettles, fun h => absurd h (by omega), fun _ => hsplits⟩

end Transfer

section Reading

variable (s : Script)

theorem sentBytes_append (l l' : List Access) :
    sentBytes (l ++ l') = sentBytes l ++ sentBytes l' := by
  simp [sentBytes]

theorem sentBytes_accesses (frame : DescriptorFrame) :
    sentBytes (frame.accesses s) = frame.bytes := by
  simp [sentBytes, DescriptorFrame.accesses, Script.awaiting, Access.isByte, Script.access,
    List.filter_map, Function.comp_def]

theorem sentBytes_frames (frames : List DescriptorFrame) :
    sentBytes (frames.flatMap (DescriptorFrame.accesses s)) = (packetsOf frames).flatten := by
  induction frames with
  | nil => rfl
  | cons frame rest ih =>
    rw [List.flatMap_cons, sentBytes_append, sentBytes_accesses, ih]
    rfl

theorem sentFrames_awaiting (waits : List UInt8) (ready : UInt8) (log : List Access) :
    sentFrames (s.awaiting waits ready ++ log) = sentFrames log := by
  induction waits with
  | nil => rfl
  | cons b rest ih => simpa [Script.awaiting, sentFrames, Access.isHandshake, Access.isByte,
      Script.access] using ih

theorem sentFrames_bytes (bytes : List UInt8) {log : List Access} {frame : List UInt8}
    {frames : List (List UInt8)} (h : sentFrames log = frame :: frames) :
    sentFrames (bytes.map (s.access true .UEDATX) ++ log) = (bytes ++ frame) :: frames := by
  induction bytes with
  | nil => exact h
  | cons b rest ih =>
    rw [List.map_cons, List.cons_append, sentFrames, ih]
    rfl

theorem sentFrames_accesses (frame : DescriptorFrame) (log : List Access) :
    sentFrames (frame.accesses s ++ log) = frame.bytes :: sentFrames log := by
  have hdone : sentFrames (s.access true .UEINTX (~~~bit TXINI) :: log) = [] :: sentFrames log := by
    simp [sentFrames, Access.isHandshake, Script.access]
  rw [DescriptorFrame.accesses, List.append_assoc, List.append_assoc, sentFrames_awaiting,
    List.singleton_append, sentFrames_bytes s frame.bytes hdone, List.append_nil]

theorem sentFrames_frames (frames : List DescriptorFrame) :
    sentFrames (frames.flatMap (DescriptorFrame.accesses s)) = packetsOf frames := by
  induction frames with
  | nil => rfl
  | cons frame rest ih =>
    rw [List.flatMap_cons, sentFrames_accesses, ih]
    rfl

end Reading

end Threeboard.Usb
