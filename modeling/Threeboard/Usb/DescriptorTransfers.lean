import Threeboard.Usb.Descriptors

namespace Threeboard.Usb

open Actions Actions.Action Mcu UsbControllerImpl Packets

structure Transferred (s : Script) (container : DescriptorContainer) (wLength : UInt16)
    (log : List Access) : Prop where
  bytes : sentBytes log = container.bytes (min wLength.toNat container.length.toNat)
  awaited : ∃ frames : List DescriptorFrame,
    log = frames.flatMap (DescriptorFrame.accesses s) ∧ packetsOf frames = sentFrames log
  nothing : wLength = 0 → log = []
  full : ∀ frame ∈ (sentFrames log).dropLast, frame.length = 32
  nonempty : ∀ frame ∈ (sentFrames log).dropLast, frame ≠ []
  bounded : ∀ frame ∈ sentFrames log, frame.length ≤ 32
  ends : (sentBytes log).length < wLength.toNat →
    ∃ frame, (sentFrames log).getLast? = some frame ∧ frame.length < 32

structure FirstMatch (descriptorList : List DescriptorContainer) (packet : SetupPacket)
    (container : DescriptorContainer) : Prop where
  first : ∃ before after, counted descriptorList = before ++ container :: after ∧
    ∀ earlier ∈ before, earlier.id ≠ packet.wValue
  id_eq : container.id = packet.wValue

variable {descriptorList : List DescriptorContainer} {packet : SetupPacket}
  {container : DescriptorContainer} {s : Script}

theorem FirstMatch.find (h : FirstMatch descriptorList packet container) :
    (Script.controller descriptorList 0).findMatchingContainer packet = some container := by
  obtain ⟨before, after, hsplit, hbefore⟩ := h.first
  rw [findMatchingContainer_eq, List.find?_eq_some_iff_append]
  refine ⟨by simp [h.id_eq], before, after, hsplit, fun earlier hmem => ?_⟩
  simpa using hbefore earlier hmem

theorem transferred_nothing (h : container.requested 0 = 0) : Transferred s container 0 [] where
  bytes := congrArg container.bytes h.symm
  awaited := ⟨[], rfl, rfl⟩
  nothing _ := rfl
  full := by simp [sentFrames]
  nonempty := by simp [sentFrames]
  bounded := by simp [sentFrames]
  ends := by simp

theorem transferred_of_splits {wLength : UInt16} {frames : List DescriptorFrame}
    (hpos : wLength ≠ 0) (h : Splits 32 (container.bytes (container.requested wLength))
      (packetsOf frames)) :
    Transferred s container wLength (frames.flatMap (DescriptorFrame.accesses s)) where
  bytes := by rw [sentBytes_frames, h.flatten, DescriptorContainer.requested]
  awaited := ⟨frames, rfl, (sentFrames_frames s frames).symm⟩
  nothing hzero := absurd hzero hpos
  full frame hmem := h.length_of_mem_dropLast (sentFrames_frames s frames ▸ hmem)
  nonempty frame hmem hnil := by
    have hlen := h.length_of_mem_dropLast (sentFrames_frames s frames ▸ hmem)
    rw [hnil] at hlen
    cases hlen
  bounded frame hmem := h.length_le (sentFrames_frames s frames ▸ hmem)
  ends _ := by
    rw [sentFrames_frames, List.getLast?_eq_some_getLast h.ne_nil]
    exact ⟨_, rfl, h.length_getLast⟩

theorem requested_eq_zero {wLength : UInt16} (hlen : 0 < container.length) :
    container.requested wLength = 0 ↔ wLength = 0 := by
  have hnat : 0 < container.length.toNat := hlen
  rw [DescriptorContainer.requested, ← UInt16.toNat_inj, UInt16.toNat_zero]
  omega

theorem handleGetDescriptor_stalls {descriptorList : List DescriptorContainer}
    (packet : SetupPacket) (u : Device Script)
    (hnone : ∀ container ∈ counted descriptorList, container.id ≠ packet.wValue) : ∃ t,
      u.Adds t [u.hardware.access true .UECONX (bit STALLRQ ||| bit EPEN)] ∧
      ∀ polls, (Script.controller descriptorList polls).handleGetDescriptor packet u =
        (some (), t) := by
  have hfind : ∀ polls, (Script.controller descriptorList polls).findMatchingContainer packet =
      none := fun _ => (findMatchingContainer_eq _ packet).trans <|
    List.find?_eq_none.mpr fun container hmem => by simpa using hnone container hmem
  refine ⟨_, .writing u (by decide) (by decide) _, fun polls => ?_⟩
  rw [handleGetDescriptor, hfind]
  exact set_run .UECONX _ u

theorem handleGetDescriptor_transfers (descriptorList : List DescriptorContainer)
    (packet : SetupPacket) (u : Device Script) :
    (∀ container, FirstMatch descriptorList packet container → 0 < container.length →
      u.hardware.Responsive → ∃ t log, u.Adds t log ∧
        Settles (fun polls =>
          (Script.controller descriptorList polls).handleGetDescriptor packet) u () t ∧
        Transferred u.hardware container packet.wLength log ∧
        ∀ polls rounds, container.requested packet.wLength + 2 ≤ rounds →
          (Script.controller descriptorList polls).handleGetDescriptor packet =
            (Script.controller descriptorList polls).sendFrames container.data rounds 0
              (container.requested packet.wLength) 0) ∧
    ((∀ container ∈ counted descriptorList, container.id ≠ packet.wValue) → ∃ t,
      u.Adds t [u.hardware.access true .UECONX (bit STALLRQ ||| bit EPEN)] ∧
      ∀ polls, (Script.controller descriptorList polls).handleGetDescriptor packet u = (some (), t)) := by
  refine ⟨fun container hmatch hlen hready => ?_, handleGetDescriptor_stalls packet u⟩
  obtain ⟨frames, t, hadds, hsettles, hempty, hsplits⟩ :=
    settles_handleGetDescriptor hmatch.find hready
  refine ⟨t, _, hadds, hsettles, ?_, fun polls rounds hrounds => ?_⟩
  · by_cases hzero : packet.wLength = 0
    · rw [hempty ((requested_eq_zero hlen).mpr hzero), hzero]
      exact transferred_nothing ((requested_eq_zero hlen).mpr rfl)
    · exact transferred_of_splits hzero
        (hsplits (Nat.pos_of_ne_zero fun h => hzero ((requested_eq_zero hlen).mp h)))
  · have hfind : (Script.controller descriptorList polls).findMatchingContainer packet =
      some container := hmatch.find
    rw [handleGetDescriptor, hfind, sendFrames_enough _ _ hrounds]
    simp only [container.requested_eq]

section Examples

def getDescriptor (wLength : UInt16) : SetupPacket := ⟨⟨0x80⟩, Request.GET_DESCRIPTOR, 1, 0, wLength⟩

def described (length : UInt8) : DescriptorContainer := ⟨1, 0, fun i => UInt8.ofNat i, length⟩

def alternating : Device Script :=
  ⟨{}, { answers := fun _ n => if n % 2 = 0 then 0 else bit TXINI, sreg := 0 }, []⟩

theorem alternating_responsive : alternating.hardware.Responsive := by
  intro n
  refine ⟨n + 1, ?_⟩
  have hodd : ¬ (n + (n + 1)) % 2 = 0 := by omega
  simpa [Script.TransmitterReady, alternating, hodd] using (by decide : bit TXINI ≠ 0)

theorem firstMatch_described (length : UInt8) (wLength : UInt16) :
    FirstMatch [described length] (getDescriptor wLength) (described length) :=
  ⟨⟨[], [], counted_of_le (by simp), by simp⟩, rfl⟩

-- A table of 256 entries counts as empty, so that its first entry is not found.
theorem handleGetDescriptor_overlooks :
    let descriptorList := List.replicate 256 (described 40)
    (∃ after, descriptorList = described 40 :: after) ∧
      (described 40).id = (getDescriptor 64).wValue ∧ alternating.hardware.Responsive ∧
      ¬ ∃ t log, alternating.Adds t log ∧
        Settles (fun polls => (Script.controller descriptorList polls).handleGetDescriptor
          (getDescriptor 64)) alternating () t ∧
        Transferred alternating.hardware (described 40) 64 log := by
  refine ⟨⟨List.replicate 255 (described 40), rfl⟩, rfl, alternating_responsive, ?_⟩
  rintro ⟨t, log, hadds, ⟨bound, hsettles⟩, htransferred⟩
  have hcounted : counted (List.replicate 256 (described 40)) = [] := by
    rw [counted, List.length_replicate]
    rfl
  have hnone : ∀ container ∈ counted (List.replicate 256 (described 40)),
      container.id ≠ (getDescriptor 64).wValue := by
    rw [hcounted]
    exact fun _ hmem => absurd hmem List.not_mem_nil
  obtain ⟨stalled, hstalled, hrun⟩ := handleGetDescriptor_stalls (getDescriptor 64) alternating hnone
  have hsame : t = stalled :=
    congrArg Prod.snd ((hsettles bound le_rfl).symm.trans (hrun bound))
  subst hsame
  have hlog : log = [alternating.hardware.access true .UECONX (bit STALLRQ ||| bit EPEN)] :=
    List.append_cancel_left (hadds.log.symm.trans hstalled.log)
  have hbytes := congrArg List.length htransferred.bytes
  rw [hlog] at hbytes
  simp [sentBytes, Access.isByte, Script.access, DescriptorContainer.bytes, described] at hbytes

theorem handleGetDescriptor_transfers_forty : ∃ t log, alternating.Adds t log ∧
    Settles (fun polls => (Script.controller [described 40] polls).handleGetDescriptor
      (getDescriptor 64)) alternating () t ∧
    Transferred alternating.hardware (described 40) 64 log := by
  obtain ⟨t, log, hadds, hsettles, htransferred, -⟩ :=
    (handleGetDescriptor_transfers [described 40] (getDescriptor 64) alternating).1 (described 40)
      (firstMatch_described 40 64) (by decide) alternating_responsive
  exact ⟨t, log, hadds, hsettles, htransferred⟩

end Examples

-- USB ends the data stage once all bytes asked for have come; an empty frame stands for fewer.
def EmptyFrameWhenRequired (wLength : UInt16) (log : List Access) : Prop :=
  [] ∈ sentFrames log ↔ 0 < (sentBytes log).length ∧ 32 ∣ (sentBytes log).length ∧
    (sentBytes log).length < wLength.toNat

instance (wLength : UInt16) (log : List Access) : Decidable (EmptyFrameWhenRequired wLength log) :=
  inferInstanceAs (Decidable (_ ↔ _))

theorem emptyFrameWhenRequired_of_splits {wLength : UInt16} {frames : List DescriptorFrame}
    (hpos : 0 < container.requested wLength) (h : Splits 32
      (container.bytes (container.requested wLength)) (packetsOf frames)) :
    EmptyFrameWhenRequired wLength (frames.flatMap (DescriptorFrame.accesses s)) ↔
      (32 ∣ container.requested wLength → container.requested wLength < wLength.toNat) := by
  have hlen : (container.bytes (container.requested wLength)).length =
      container.requested wLength := by
    simp [DescriptorContainer.bytes]
  rw [EmptyFrameWhenRequired, sentFrames_frames, sentBytes_frames, h.flatten, h.nil_mem_iff, hlen]
  tauto

theorem handleGetDescriptor_emptyFrameWhenRequired_iff (u : Device Script)
    (hmatch : FirstMatch descriptorList packet container) (hlen : 0 < container.length)
    (hready : u.hardware.Responsive) :
    ∃ t log, u.Adds t log ∧
      Settles (fun polls =>
        (Script.controller descriptorList polls).handleGetDescriptor packet) u () t ∧
      (EmptyFrameWhenRequired packet.wLength log ↔
        ¬ (0 < packet.wLength.toNat ∧ 32 ∣ packet.wLength.toNat ∧
          packet.wLength.toNat ≤ container.length.toNat)) := by
  obtain ⟨frames, t, hadds, hsettles, hempty, hsplits⟩ :=
    settles_handleGetDescriptor hmatch.find hready
  refine ⟨t, _, hadds, hsettles, ?_⟩
  have hnat : 0 < container.length.toNat := hlen
  rcases Nat.eq_zero_or_pos (container.requested packet.wLength) with hzero | hpos
  · have hnone : packet.wLength.toNat = 0 := by
      rw [DescriptorContainer.requested] at hzero
      omega
    rw [hempty hzero, hnone]
    simp [EmptyFrameWhenRequired, sentFrames, sentBytes]
  · rw [emptyFrameWhenRequired_of_splits hpos (hsplits hpos)]
    rw [DescriptorContainer.requested] at hpos ⊢
    omega

theorem handleGetDescriptor_empty_frame_at_forty : ∃ t log, alternating.Adds t log ∧
    Settles (fun polls => (Script.controller [described 40] polls).handleGetDescriptor
      (getDescriptor 64)) alternating () t ∧
    (EmptyFrameWhenRequired 64 log ↔ ¬ (0 < 64 ∧ 32 ∣ 64 ∧ 64 ≤ 40)) :=
  handleGetDescriptor_emptyFrameWhenRequired_iff alternating (firstMatch_described 40 64)
    (by decide) alternating_responsive

theorem handleGetDescriptor_sends_empty_frame :
    let run := (Script.controller [described 32] 2).handleGetDescriptor (getDescriptor 32) alternating
    run.1 = some () ∧ (sentBytes run.2.hardware.log).length = 32 ∧
      sentFrames run.2.hardware.log = [(described 32).bytes 32, []] ∧
      ¬ EmptyFrameWhenRequired 32 run.2.hardware.log := by
  decide +kernel

end Threeboard.Usb
