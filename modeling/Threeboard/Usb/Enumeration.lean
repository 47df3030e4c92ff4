import Threeboard.Usb.Control
import Threeboard.Usb.DescriptorList

namespace Threeboard.Usb

open Actions Mcu UsbControllerImpl Packets Runs

-- What a host learns of the keyboard: the descriptor it asked for, and that it is one when it asked
-- for all of it. The report is no descriptor of the host's.
structure Enumerated (packet : SetupPacket) (wire : Wire) : Prop where
  bytes : ∀ container ∈ descriptorList, container.id = packet.wValue →
    wire.sent.flatten = container.bytes (container.requested packet.wLength) ∧ wire.stalled = false
  whole : ∀ container ∈ descriptorList, container.id = packet.wValue →
    container.id ≠ descriptorId DescriptorType.HID_REPORT 0 →
    container.length.toNat ≤ packet.wLength.toNat →
      (descriptorsIn 4 wire.sent.flatten).map (fun descriptors => (descriptors.headD []).getD 1 0) =
        some (packet.wValue >>> 8).toUInt8
  unknown : (∀ container ∈ descriptorList, container.id ≠ packet.wValue) →
    wire.sent = [] ∧ wire.stalled = true

section Lookup

variable {packet : SetupPacket} {container : DescriptorContainer} {d : Settings}

theorem find?_of_nodup {entries : List DescriptorContainer}
    (hn : (entries.map DescriptorContainer.id).Nodup) (hmem : container ∈ entries) :
    entries.find? (fun other => other.id = container.id) = some container := by
  induction entries with
  | nil => exact absurd hmem List.not_mem_nil
  | cons first rest ih =>
    rw [List.map_cons, List.nodup_cons] at hn
    rcases List.mem_cons.mp hmem with rfl | hrest
    · simp
    · have hne : first.id ≠ container.id := fun h => hn.1 (h ▸ List.mem_map_of_mem hrest)
      rw [List.find?_cons_of_neg (by simpa using hne)]
      exact ih hn.2 hrest

theorem counted_descriptorList : counted descriptorList = descriptorList :=
  counted_of_le (by decide)

theorem describe_known (hmem : container ∈ descriptorList) (hid : container.id = packet.wValue) :
    Settings.describe descriptorList packet =
      .data (container.bytes (container.requested packet.wLength)) := by
  rw [Settings.describe, counted_descriptorList, ← hid,
    find?_of_nodup descriptorList_ids_nodup hmem]

theorem describe_unknown (h : ∀ container ∈ descriptorList, container.id ≠ packet.wValue) :
    Settings.describe descriptorList packet = .stall := by
  have hnone : (descriptorList.find? fun container => container.id = packet.wValue) = none :=
    List.find?_eq_none.mpr fun container hmem => by simpa using h container hmem
  rw [Settings.describe, counted_descriptorList, hnone]

theorem dataPackets_flatten (bytes : List UInt8) : (dataPackets bytes).flatten = bytes := by
  rw [dataPackets]
  split_ifs with h
  · rw [h, List.flatten_nil]
  · exact (splits_split (by decide) bytes).flatten

theorem respond_describes (h : packet.bRequest = Request.GET_DESCRIPTOR) :
    d.respond descriptorList packet = (Settings.describe descriptorList packet, d) := by
  have hfind : Handler.all.find? packet.accepted = some .getDescriptor := by
    simp [Handler.all, SetupPacket.accepted, h, Request.GET_DESCRIPTOR, Request.GET_STATUS,
      Request.SET_ADDRESS]
  rw [Settings.respond, hfind]
  rfl

theorem enumerated_describe (d : Settings) (packet : SetupPacket) :
    Enumerated packet (d.shown (Settings.describe descriptorList packet)) := by
  have hbytes : ∀ container ∈ descriptorList, container.id = packet.wValue →
      (d.shown (Settings.describe descriptorList packet)).sent.flatten =
        container.bytes (container.requested packet.wLength) := by
    intro container hmem hid
    rw [describe_known hmem hid]
    exact dataPackets_flatten _
  refine ⟨fun container hmem hid => ⟨hbytes container hmem hid, ?_⟩,
    fun container hmem hid hreport hlength => ?_, fun hnone => ?_⟩
  · rw [describe_known hmem hid]
    rfl
  · have hall : container.requested packet.wLength = container.length.toNat :=
      Nat.min_eq_right hlength
    rw [hbytes container hmem hid, hall, ← hid]
    exact descriptorList_whole container hmem hreport
  · rw [describe_unknown hnone]
    exact ⟨rfl, rfl⟩

end Lookup

def Turn.describes : Turn → Option SetupPacket
  | .endpoint script =>
    let packet := script.val.setupPacket
    if script.val.read .UEINTX &&& bit RXSTPI ≠ 0 ∧ packet.bRequest = Request.GET_DESCRIPTOR then
      some packet
    else none
  | _ => none

theorem serve_describes {turn : Turn} {packet : SetupPacket} (h : turn.describes = some packet)
    (d : Settings) : (d.serve descriptorList turn.occasion).1 =
      d.shown (Settings.describe descriptorList packet) := by
  cases turn with
  | keys | general => cases h
  | endpoint script =>
    rw [Turn.describes] at h
    split_ifs at h with hrequest
    cases h
    rw [Settings.serve, Turn.occasion, Occasion.ofInterrupt, if_neg hrequest.1, Settings.meet,
      respond_describes hrequest.2]

-- A host that enumerates the keyboard: between any other requests, frames and resets each descriptor
-- comes back as it stands in the table, and nothing for an id that is not there.
theorem keyboard_enumerated (script : Script) (turns : List Turn) :
    ∃ bound, ∀ polls ≥ bound, ∀ n : ℕ, ∀ packet ∈ turns[n]?.bind Turn.describes,
      ∃ wire, (trace (takeTurn descriptorList polls) (.initial { script }) turns)[n]? =
        some (some wire) ∧ Enumerated packet wire := by
  obtain ⟨bound, hserved⟩ := trace_served descriptorList (follows_initial script) turns
  refine ⟨bound, fun polls hpolls n packet hpacket => ?_⟩
  obtain ⟨turn, hturn, hdescribes⟩ := Option.bind_eq_some_iff.mp hpacket
  let settings := final (Settings.serve descriptorList) {} ((turns.map Turn.occasion).take n)
  refine ⟨_, ?_, enumerated_describe settings packet⟩
  rw [hserved polls hpolls, List.getElem?_map, trace_getElem?, List.getElem?_map, hturn,
    Option.map_some, Option.map_some, Option.map_some, serve_describes hdescribes]

def askingForDevice : Script where
  answers
    | .UEDATX, n => [0x80, Request.GET_DESCRIPTOR, 0, DescriptorType.DEVICE, 0, 0, 64, 0].getD n 0
    | _, _ => bit TXINI ||| bit RXSTPI
  sreg := 0

theorem askingForDevice_responsive : askingForDevice.Responsive := fun n =>
  ⟨0, (by decide : (bit TXINI ||| bit RXSTPI) &&& bit TXINI ≠ 0)⟩

theorem keyboard_enumerated_device : ∃ bound, ∀ polls ≥ bound, ∃ wire,
    (trace (takeTurn descriptorList polls) (.initial { script := askingForDevice })
      [.endpoint ⟨askingForDevice, askingForDevice_responsive⟩])[0]? = some (some wire) ∧
      wire.sent.flatten = deviceDescriptor := by
  obtain ⟨bound, hruns⟩ := keyboard_enumerated askingForDevice
    [.endpoint ⟨askingForDevice, askingForDevice_responsive⟩]
  refine ⟨bound, fun polls hpolls => ?_⟩
  obtain ⟨wire, htrace, henumerated⟩ := hruns polls hpolls 0
    ⟨⟨0x80⟩, Request.GET_DESCRIPTOR, 0x0100, 0, 64⟩ (by decide)
  refine ⟨wire, htrace, ?_⟩
  exact (henumerated.bytes _ List.mem_cons_self (by decide)).1.trans (by decide)

example :
    let configuration (wLength : UInt16) : SetupPacket :=
      ⟨⟨0x80⟩, Request.GET_DESCRIPTOR, descriptorId DescriptorType.CONFIGURATION 0, 0, wLength⟩
    let getConfiguration : SetupPacket := ⟨⟨0x80⟩, Request.GET_CONFIGURATION, 0, 0, 1⟩
    trace (Settings.serve descriptorList) {}
        [.request ⟨⟨0x00⟩, Request.SET_ADDRESS, 5, 0, 0⟩, .request (configuration 9),
          .request (configuration 34), .request ⟨⟨0x00⟩, Request.SET_CONFIGURATION, 1, 0, 0⟩,
          .request getConfiguration] =
      [⟨[], [[]], false, 0x85⟩, ⟨[], [combinedDescriptor.take 9], false, 0x85⟩,
        ⟨[], [combinedDescriptor.take 32, combinedDescriptor.drop 32], false, 0x85⟩,
        ⟨[], [[]], false, 0x85⟩, ⟨[], [[1]], false, 0x85⟩] := by
  decide +kernel

end Threeboard.Usb
