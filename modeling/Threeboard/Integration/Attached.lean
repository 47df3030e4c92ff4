import Threeboard.Integration.Running
import Threeboard.Simulator.FirmwareStorage

namespace Threeboard.Integration

open Actions Actions.Action I2c Keys Layers Mcu Runs Simulator Storage

def attached : Devices Ideal where
  usbController := Ideal.usbController
  storageController := { Ideal.storageController with
    appendToBlobShortcut := fun index character modcode =>
      if index < kEeprom1LayerBStartShortcutId then
        Ideal.order (.appendToBlob index character modcode)
      else Action.stop }

def AppendsUnattached (c : Cursors) (k : Keypress) : Prop :=
  c.currentLayer = .b ∧ c.layerB.prog = true ∧ k = .z ∧
    ¬ c.layerB.shortcutId < kEeprom1LayerBStartShortcutId

instance (c : Cursors) (k : Keypress) : Decidable (AppendsUnattached c k) := instDecidableAnd

theorem LayerB.onKeypress_attached {layer : LayerB} {k : Keypress}
    (h : ¬ (layer.prog = true ∧ k = .z ∧ ¬ layer.shortcutId < kEeprom1LayerBStartShortcutId)) :
    layer.onKeypress attached k = layer.onKeypress Ideal.devices k := by
  cases k with
  | z =>
    cases hprog : layer.prog with
    | false => simp [LayerB.onKeypress, hprog, attached, Ideal.devices]
    | true =>
      have hlt : layer.shortcutId < kEeprom1LayerBStartShortcutId := by
        by_contra hge
        exact h ⟨hprog, rfl, hge⟩
      simp [LayerB.onKeypress, hprog, attached, Ideal.devices, Ideal.storageController, hlt]
  | _ => rfl

theorem handleEvent_attached {a : Board Ideal} {k : Keypress} (h : ¬ AppendsUnattached a.cursors k) :
    LayerController.handleEvent attached k a = LayerController.handleEvent Ideal.devices k a := by
  simp only [LayerController.handleEvent, gets_bind]
  cases hcur : a.currentLayer with
  | dflt | r | g => rfl
  | b =>
    have hlayer : a.layerB.onKeypress attached k = a.layerB.onKeypress Ideal.devices k :=
      LayerB.onKeypress_attached fun hb => h ⟨hcur, hb⟩
    simp only [LayerB.handleEvent, gets_bind, hlayer]
    rfl

structure Stores (polls : ℕ) (m : Machine) (w : Ideal) : Prop where
  carries : ∃ b, Machine.Carries polls m b ∧ Faultless b w
  eeprom1 : ∀ id : BlobId, 120 ≤ id.1.toNat → (w.shortcuts.blobs id).1 = []

theorem Stores.sent {polls : ℕ} {m : Machine} {w : Ideal} (h : Stores polls m w) :
    m.keypresses = w.keypresses := by
  obtain ⟨b, hcarries, hfaultless⟩ := h.carries
  exact hcarries.mirrors.keypresses.trans hfaultless.keypresses

def machineDevices (codes : StatusCodes) (polls : ℕ) : Devices Machine :=
  ⟨Machine.usbController, (Machine.controller codes polls).methods⟩

variable {codes : StatusCodes} {polls : ℕ}

def AppendsToEeprom1 : Storage.Request → Prop
  | .appendToBlob index _ _ => kEeprom1LayerBStartShortcutId ≤ index
  | _ => False

instance : DecidablePred AppendsToEeprom1
  | .appendToBlob index _ _ => inferInstanceAs (Decidable (kEeprom1LayerBStartShortcutId ≤ index))
  | .setCharacter .. | .getCharacter _ | .appendToWord .. | .clearWord _ | .getWordLength _
  | .sendWord .. | .clearBlob _ | .getBlobLength _ | .sendBlob _ => .isFalse id

def serveAttached (s : Shortcuts) (r : Storage.Request) : Response × Shortcuts :=
  if AppendsToEeprom1 r then (.rejected, s) else s.serve r

section Requests

variable {s : Shortcuts}

theorem serve_eeprom1 (h : ∀ id : BlobId, 120 ≤ id.1.toNat → (s.blobs id).1 = [])
    {r : Storage.Request} (hr : r.OnEeprom0) (id : BlobId) (hid : 120 ≤ id.1.toNat) :
    ((s.serve r).2.blobs id).1 = [] := by
  cases r with
  | setCharacter | getCharacter | clearWord | getWordLength | sendWord => exact h id hid
  | appendToWord =>
    rw [Shortcuts.serve]
    split <;> exact h id hid
  | getBlobLength | sendBlob =>
    rw [Shortcuts.serve, Shortcuts.serveBlob]
    split <;> exact h id hid
  | clearBlob index =>
    rw [Shortcuts.serve, Shortcuts.serveBlob]
    split
    · rename_i hindex
      by_cases hne : id = ⟨index, hindex⟩
      · rw [hne]
        exact congrArg Subtype.val (Function.update_self _ _ s.blobs)
      · exact (BlobUse.setBlob_of_ne hne _).trans (h id hid)
    · exact h id hid
  | appendToBlob index character modcode =>
    have hlt : index.toNat < 120 := UInt8.lt_iff_toNat_lt.mp hr
    rw [Shortcuts.serve, Shortcuts.serveBlob]
    split
    · rename_i hindex
      have hne : id ≠ ⟨index, hindex⟩ := by
        rintro rfl
        exact Nat.not_lt.mpr hid hlt
      split
      · exact h id hid
      · exact (BlobUse.setBlob_of_ne hne _).trans (h id hid)
    · exact h id hid

theorem run_attached {r : Storage.Request} (hr : ¬ AppendsToEeprom1 r) :
    r.run attached.storageController = Ideal.serve r := by
  rw [← Ideal.run_eq_serve]
  cases r with
  | appendToBlob index character modcode =>
    have hlt : index < kEeprom1LayerBStartShortcutId := UInt8.not_le.mp hr
    simp [Request.run, attached, Ideal.storageController, hlt]
  | _ => rfl

theorem run_attached_refused {r : Storage.Request} (hr : AppendsToEeprom1 r) :
    r.run attached.storageController = Action.stop := by
  cases r with
  | appendToBlob index character modcode =>
    have hge : ¬ index < kEeprom1LayerBStartShortcutId := UInt8.not_lt.mpr hr
    funext w
    simp [Request.run, attached, hge, silently, bind_run]
  | _ => exact hr.elim

theorem not_appendsToEeprom1 {r : Storage.Request} (hr : r.OnEeprom0) : ¬ AppendsToEeprom1 r := by
  cases r with
  | appendToBlob index character modcode => exact UInt8.not_le.mpr hr
  | _ => exact id

end Requests

section Following

variable {m : Machine} {b : Bench} {w : Ideal}

theorem appendToBlob_refused (hcodes : Telling codes) (h : Machine.Carries polls m b) {id : BlobId}
    (hid : 120 ≤ id.1.toNat) (hempty : b.view (.blobLength id) = 0) (character modcode : UInt8) :
    ∃ u, Machine.Carries polls u b ∧
      (Machine.controller codes polls).appendToBlobShortcut id.1 character modcode m = (none, u) := by
  have hlength : (Machine.controller codes polls).getBlobShortcutLength id.1 m = (some 0, m) := by
    rw [Machine.getBlobShortcutLength_run h.mirrors, hempty]
  have heeprom : (Machine.controller codes polls).blobEeprom id.1 =
      Machine.externalEeprom (driver codes Bus.wires .eeprom1 polls) :=
    if_pos ((eeprom1_iff id.1).mpr hid)
  obtain ⟨twi, hkept, hrefused⟩ := eeprom1_write_keeps hcodes h.mirrors.eeprom0
    (StorageController.blobOffset id.1 0) character
  have hwrite : (Machine.externalEeprom (driver codes Bus.wires .eeprom1 polls)).writeByte
      (StorageController.blobOffset id.1 0) character m = (none, { m with twi }) := by
    simp only [Machine.externalEeprom, Machine.onTwi, bind_run, zoom_run, hrefused]
    rfl
  refine ⟨{ m with twi }, ⟨h.internal, h.mirrors.lengths, hkept, h.mirrors.keypresses,
    h.mirrors.calm⟩, ?_⟩
  rw [StorageController.appendToBlobShortcut, if_neg (Bench.not_gt_maxIndex id),
    bind_of_some hlength, if_neg (by decide), heeprom]
  exact bind_of_none hwrite _

theorem eeprom1_refused (hcodes : Telling codes) (h : Machine.Carries polls m b)
    (hempty : ∀ id : BlobId, 120 ≤ id.1.toNat → b.view (.blobLength id) = 0)
    {r : Storage.Request} (hr : ¬ r.OnEeprom0) : ∃ u, Machine.Carries polls u b ∧
      r.run (machineDevices codes polls).storageController m = (none, u) := by
  cases r with
  | appendToBlob index character modcode =>
    by_cases hid : index ≤ kLayerBMaxIndex
    · have hge : 120 ≤ index.toNat := UInt8.le_iff_toNat_le.mp (UInt8.not_lt.mp hr)
      obtain ⟨u, hu, hrun⟩ :=
        appendToBlob_refused hcodes h hge (hempty ⟨index, hid⟩ hge) character modcode
      exact ⟨u, hu, bind_of_none hrun _⟩
    · refine ⟨m, h, ?_⟩
      change silently (if index > kLayerBMaxIndex then _ else _) m = _
      rw [if_pos (UInt8.not_le.mp hid)]
      rfl
  | sendBlob index =>
    refine ⟨m, h, ?_⟩
    by_cases hid : index ≤ kLayerBMaxIndex
    · have hge : 120 ≤ index.toNat := UInt8.le_iff_toNat_le.mp (UInt8.not_lt.mp hr)
      let id : BlobId := ⟨index, hid⟩
      have hlength : (Machine.controller codes polls).getBlobShortcutLength id.1 m = (some 0, m) := by
        rw [Machine.getBlobShortcutLength_run h.mirrors, hempty id hge]
      exact Machine.send_empty_run hlength
    · change silently (if index > kLayerBMaxIndex then _ else _) m = _
      rw [if_pos (UInt8.not_le.mp hid)]
      rfl
  | _ => exact (hr trivial).elim

theorem eeprom1_attached (h : ∀ id : BlobId, 120 ≤ id.1.toNat → (w.shortcuts.blobs id).1 = [])
    {r : Storage.Request} (hr : ¬ r.OnEeprom0) :
    r.run attached.storageController w = (none, w) := by
  cases r with
  | appendToBlob index character modcode =>
    have hrefused : AppendsToEeprom1 (.appendToBlob index character modcode) := UInt8.not_lt.mp hr
    rw [run_attached_refused hrefused]
    rfl
  | sendBlob index =>
    rw [run_attached id, Ideal.serve, Shortcuts.serve, Shortcuts.serveBlob]
    by_cases hid : index ≤ kLayerBMaxIndex
    · have hge : 120 ≤ index.toNat := UInt8.le_iff_toNat_le.mp (UInt8.not_lt.mp hr)
      simp [hid, h ⟨index, hid⟩ hge, Response.typed]
    · simp [hid, Response.rejected]
  | _ => exact (hr trivial).elim

theorem request_attached (hcodes : Telling codes) (r : Storage.Request) :
    Corres (Stores polls) (r.run (machineDevices codes polls).storageController)
      (r.run attached.storageController) := by
  rintro m w ⟨⟨b, hcarries, hfaultless⟩, heeprom1⟩
  by_cases hr : r.OnEeprom0
  · rw [run_attached (not_appendsToEeprom1 hr)]
    obtain ⟨hvalue, hnext⟩ := ((Machine.couples hcodes.toAccepting).run hr).comp (request_follows r)
      m w ⟨b, hcarries, hfaultless⟩
    exact ⟨hvalue, hnext, serve_eeprom1 heeprom1 hr⟩
  · have hempty (id : BlobId) (hid : 120 ≤ id.1.toNat) : b.view (.blobLength id) = 0 := by
      rw [← UInt8.toNat_inj, hfaultless.represents.blobLength id, heeprom1 id hid]
      rfl
    obtain ⟨u, hu, hrun⟩ := eeprom1_refused hcodes hcarries hempty hr
    rw [hrun, eeprom1_attached heeprom1 hr]
    exact ⟨rfl, ⟨b, hu, hfaultless⟩, heeprom1⟩

theorem follows_attached (hcodes : Telling codes) :
    Follows (Stores polls) (machineDevices codes polls) attached where
  sendKeypress key mod := by
    rintro m w ⟨hcarries, heeprom1⟩
    obtain ⟨hvalue, hnext⟩ := ((Machine.couples hcodes.toAccepting).sendKeypress key mod).comp
      (sendKeypress_follows key mod) m w hcarries
    exact ⟨hvalue, hnext, heeprom1⟩
  request := request_attached hcodes

def MachineFits (c : Cursors) (k : Keypress) : Prop :=
  (c.press k).layerB.shortcutId ≤ kLayerBMaxIndex ∧ ¬ AppendsUnattached c k

instance (c : Cursors) (k : Keypress) : Decidable (MachineFits c k) := instDecidableAnd

theorem machine_implements (hcodes : Telling codes) : Implements (Stores polls)
    (machineDevices codes polls) Machine.keypresses MachineFits where
  handles b a k hmirrors hfits := by
    have hnext := (handleEvent_mirrors (follows_attached hcodes) k b a hmirrors).2
    rwa [handleEvent_attached hfits.2] at hnext
  inRange _ _ hfits := hfits.1
  sent _ _ h := h.sent

theorem stores_start {t : Twi Bus} (hpolls : t.slowest < polls) (control : UInt8) (buffer : Buffer)
    (mode : EepromMode) :
    Stores polls (.start (fun _ => 0xFF) t control buffer mode) ⟨Shortcuts.empty, []⟩ := by
  let memory : Memory := fun
    | (.eeprom0, offset) => buffer.get offset.toNat
    | _ => 0xFF
  let b : Bench := .start memory fun _ => .succeed
  have hbuffer : ∀ o : Offset, memory (.eeprom0, UInt16.ofNat o) = buffer o :=
    fun o => get_offset buffer o
  have hremembers : Remembers polls (connect t control buffer mode)
      fun o : Offset => memory (.eeprom0, UInt16.ofNat o) + 1 := by
    simp only [hbuffer]
    exact connect_remembers hpolls control buffer mode
  have hzero : (0xFF : UInt8) + 1 = 0 := by decide
  have hword : ∀ id, b.view (.wordLength id) = 0 := fun _ => hzero
  have hblob : ∀ id, b.view (.blobLength id) = 0 := fun _ => hzero
  have hrepresents : Represents b.view Shortcuts.empty :=
    ⟨fun _ => hzero, fun id => by rw [wordContents, hword]; rfl,
      fun id => by rw [blobContents, hblob]; rfl⟩
  exact ⟨⟨b, ⟨fun _ => rfl, fun _ => rfl, hremembers, rfl, fun _ => rfl⟩,
    hrepresents, fun _ => rfl, rfl⟩, fun _ _ => rfl⟩

end Following

section Serving

def serveRequest (codes : StatusCodes) (polls : ℕ) (m : Machine) (r : Storage.Request) :
    Response × Machine :=
  let result := r.run (machineDevices codes polls).storageController m
  (⟨result.1.isSome, result.1.join, result.2.keypresses.drop m.keypresses.length⟩, result.2)

theorem serve_output {s : Shortcuts} {r : Storage.Request} (h : (s.serve r).1.ok = false) :
    (s.serve r).1.output = none := by
  cases r with
  | setCharacter | getCharacter | clearWord | getWordLength => cases h
  | sendWord => rfl
  | appendToWord =>
    rw [Shortcuts.serve]
    split <;> rfl
  | clearBlob index | sendBlob index =>
    rw [Shortcuts.serve, Shortcuts.serveBlob]
    split <;> rfl
  | appendToBlob index =>
    rw [Shortcuts.serve, Shortcuts.serveBlob]
    split
    · split <;> rfl
    · rfl
  | getBlobLength index =>
    rw [Shortcuts.serve, Shortcuts.serveBlob] at h ⊢
    split
    · rename_i hindex
      rw [dif_pos hindex] at h
      cases h
    · rfl

theorem run_serveAttached {s : Shortcuts} {keypresses : List (UInt8 × UInt8)} (r : Storage.Request) :
    r.run attached.storageController ⟨s, keypresses⟩ =
      (if (serveAttached s r).1.ok then some (serveAttached s r).1.output else none,
        ⟨(serveAttached s r).2, keypresses ++ (serveAttached s r).1.keypresses⟩) := by
  by_cases hr : AppendsToEeprom1 r
  · rw [run_attached_refused hr, serveAttached, if_pos hr]
    simp [Response.rejected]
  · rw [run_attached hr, serveAttached, if_neg hr]
    rfl

theorem serveAttached_output {s : Shortcuts} {r : Storage.Request}
    (h : (serveAttached s r).1.ok = false) : (serveAttached s r).1.output = none := by
  by_cases hr : AppendsToEeprom1 r
  · rw [serveAttached, if_pos hr]
    rfl
  · rw [serveAttached, if_neg hr] at h ⊢
    exact serve_output h

theorem serveRequest_attached (hcodes : Telling codes) {m : Machine} {s : Shortcuts}
    (h : Stores polls m ⟨s, m.keypresses⟩) (r : Storage.Request) :
    (serveRequest codes polls m r).1 = (serveAttached s r).1 ∧
      Stores polls (serveRequest codes polls m r).2
        ⟨(serveAttached s r).2, (serveRequest codes polls m r).2.keypresses⟩ := by
  obtain ⟨hvalue, hnext⟩ := request_attached hcodes r m ⟨s, m.keypresses⟩ h
  rw [run_serveAttached] at hvalue hnext
  have hsent : (serveRequest codes polls m r).2.keypresses =
      m.keypresses ++ (serveAttached s r).1.keypresses := hnext.sent
  refine ⟨?_, hsent ▸ hnext⟩
  have hoks : (serveRequest codes polls m r).1.ok = (serveAttached s r).1.ok := by
    rw [serveRequest, hvalue]
    cases (serveAttached s r).1.ok <;> rfl
  have houtput : (serveRequest codes polls m r).1.output = (serveAttached s r).1.output := by
    rw [serveRequest, hvalue]
    cases hok : (serveAttached s r).1.ok with
    | true => rfl
    | false => exact (serveAttached_output hok).symm
  have hkeys : (serveRequest codes polls m r).1.keypresses = (serveAttached s r).1.keypresses := by
    exact (congrArg (List.drop m.keypresses.length) hsent).trans List.drop_left
  exact congr (congr (congrArg Response.mk hoks) houtput) hkeys

-- The storage that the simulator gives the firmware serves any requests as the maps do, down to
-- the transfers on the bus, but for the appends that it has no component for.
theorem storage_on_bus_serves (hcodes : Telling codes) {t : Twi Bus} (hpolls : t.slowest < polls)
    (control : UInt8) (buffer : Buffer) (mode : EepromMode) (requests : List Storage.Request) :
    trace (serveRequest codes polls) (.start (fun _ => 0xFF) t control buffer mode) requests =
      trace serveAttached .empty requests := by
  have hstart : Stores polls (.start (fun _ => 0xFF) t control buffer mode) _ :=
    stores_start hpolls control buffer mode
  exact (trace_eq_of_simulation (R := fun m s => Stores polls m ⟨s, m.keypresses⟩)
    (fun _ _ r h => serveRequest_attached hcodes h r) hstart requests).1

theorem storage_on_bus_serves_requests :
    let t : Twi Bus := .reset ⟨0, .attached .eeprom0 (fun _ => 0) .write⟩
    trace (serveRequest simpleCodes 1) (.start (fun _ => 0xFF) t 0 (fun _ => 7) .write)
        [.appendToWord 3 5, .appendToBlob 119 6 1, .appendToBlob 120 6 1, .sendWord 3 0,
          .sendBlob 119, .sendBlob 120, .getBlobLength 120] =
      [.done, .done, .rejected, .typed true [(5, 0)], .typed true [(6, 1)], .typed false [],
        .value 0] :=
  (storage_on_bus_serves telling_simpleCodes Nat.one_pos 0 _ .write _).trans (by decide +kernel)

end Serving

end Threeboard.Integration
