import Threeboard.Simulator.Machine
import Threeboard.Storage.Refinement

namespace Threeboard.Simulator

open Actions Actions.Action I2c Mcu Runs Storage

inductive BlobCall where
  | append (id : BlobId) (character modcode : UInt8)
  | clear (id : BlobId)
  | send (id : BlobId)

namespace BlobCall

def request : BlobCall → Storage.Request
  | .append id character modcode => .appendToBlob id.1 character modcode
  | .clear id => .clearBlob id.1
  | .send id => .sendBlob id.1

def OnEeprom0 : BlobCall → Prop
  | .append id _ _ => id.1 < kEeprom1LayerBStartShortcutId
  | .clear _ | .send _ => True

instance : DecidablePred OnEeprom0
  | .append id _ _ => inferInstanceAs (Decidable (id.1 < kEeprom1LayerBStartShortcutId))
  | .clear _ | .send _ => .isTrue trivial

end BlobCall

theorem lt_eeprom1_iff (id : BlobId) : id.1 < kEeprom1LayerBStartShortcutId ↔ id.1.toNat < 120 :=
  UInt8.lt_iff_toNat_lt

section Unattached

variable {codes : StatusCodes} {polls : ℕ} {t : Twi Bus} {values : Offset → UInt8}

theorem control_eeprom1 : createControlByte .eeprom1 kWriteBit = 0xA2 := by decide

theorem start_unacknowledged {b : Bus} (h : b.Remembers values) :
    (Bus.wires.start 0xA2 b).1 = false := by
  have hother : parseMessageAddress (TwiMessage.addr ⟨TWI_COND_START, 0xA2, 0⟩) ≠
      I2cEeprom.address { b.eeprom with raised := [] } := by
    rw [h.address]
    decide
  simp only [Bus.wires, Bus.acknowledged, Bus.deliver]
  rw [I2cEeprom.handle_other hother, if_pos (by decide)]
  rfl

theorem eeprom1_write_refused (hcodes : Telling codes) (h : Remembers polls t values)
    (offset : UInt16) (data : UInt8) :
    ((driver codes Bus.wires .eeprom1 polls).writeByte offset data t).1 = some false := by
  have hspec : wp ((driver codes Bus.wires .eeprom1 polls).writeByte offset data)
      (fun ok _ => ok = false) (fun _ => False) t := by
    rw [I2c.I2cEeprom.writeByte, wp_bind, I2c.I2cEeprom.startAndAddress, wp_bind]
    refine wp_mono (start_spec hcodes.tellsStart kWriteBit ⟨rfl, rfl, h.patient⟩) ?_
      (fun _ hf => hf)
    rintro ok u ⟨rfl, -⟩
    have hsla : codes.sla 0xA2 = codes.mtSla := if_pos (by decide)
    have hrefused : accepted (codes.mtSla false) = false := by simpa using hcodes.mtSla_refused
    rw [control_eeprom1, start_unacknowledged h.bus, hsla, hrefused]
    exact rfl
  rcases hrun : (driver codes Bus.wires .eeprom1 polls).writeByte offset data t with ⟨_ | ok, u⟩
  · exact (wp_none hspec hrun).elim
  · have hok := wp_some hspec hrun
    exact congrArg some hok

end Unattached

namespace Machine

variable (codes : StatusCodes) (polls : ℕ)

def serve (m : Machine) (call : BlobCall) : Response × Machine :=
  let result := call.request.run (controller codes polls).methods m
  (⟨result.1.isSome, result.1.join, result.2.keypresses.drop m.keypresses.length⟩, result.2)

def start (internal : UInt16 → UInt8) (t : Twi Bus) (control : UInt8) (buffer : Buffer)
    (mode : EepromMode) : Machine := ⟨internal, connect t control buffer mode, []⟩

variable {codes polls} {m : Machine} {b : Bench}

section Calls

theorem silently_mirrors {x : Action Machine Unit} {y : Action Bench Unit}
    (h : Corres (Mirrors polls) x y) : Corres (Mirrors polls) (silently x) (silently y) :=
  h.bind fun _ => Corres.pure none

theorem send_empty_run {σ : Type} {c : StorageController σ} {s : σ} {id : BlobId}
    (h : c.getBlobShortcutLength id.1 s = (some 0, s)) :
    silently (c.sendBlobShortcut id.1) s = (none, s) := by
  rw [silently, StorageController.sendBlobShortcut, if_neg (Bench.not_gt_maxIndex id)]
  exact bind_of_none ((bind_of_some h _).trans (by rw [if_pos rfl]; rfl)) _

theorem getBlobShortcutLength_run (h : Mirrors polls m b) {id : BlobId} :
    (controller codes polls).getBlobShortcutLength id.1 m = (some (b.view (.blobLength id)), m) := by
  rw [StorageController.getBlobShortcutLength, if_neg (Bench.not_gt_maxIndex id)]
  exact congrArg (fun byte => (some (byte + 1), m)) (h.lengths id)

theorem run_mirrors (hcodes : Accepting codes) (h : Mirrors polls m b) {call : BlobCall}
    (hcall : call.OnEeprom0)
    (hempty : ∀ id : BlobId, 120 ≤ id.1.toNat → b.view (.blobLength id) = 0) :
    (call.request.run (controller codes polls).methods m).1 =
        (call.request.run Bench.controller.methods b).1 ∧
      Mirrors polls (call.request.run (controller codes polls).methods m).2
        (call.request.run Bench.controller.methods b).2 := by
  cases call with
  | append id character modcode =>
    have hid := (lt_eeprom1_iff id).mp hcall
    exact silently_mirrors (appendToBlobShortcut_mirrors hcodes id hid character modcode) m b h
  | clear id => exact silently_mirrors (clearBlobShortcut_mirrors id) m b h
  | send id =>
    by_cases hid : id.1.toNat < 120
    · exact silently_mirrors (sendBlobShortcut_mirrors hcodes id hid) m b h
    · have hlength := hempty id (by omega)
      have hm : (controller codes polls).getBlobShortcutLength id.1 m = (some 0, m) := by
        rw [getBlobShortcutLength_run h, hlength]
      have hb : Bench.controller.getBlobShortcutLength id.1 b = (some 0, b) := by
        rw [Bench.getBlobShortcutLength_view, hlength]
      change (silently ((controller codes polls).sendBlobShortcut id.1) m).1 =
          (silently (Bench.controller.sendBlobShortcut id.1) b).1 ∧
        Mirrors polls (silently ((controller codes polls).sendBlobShortcut id.1) m).2
          (silently (Bench.controller.sendBlobShortcut id.1) b).2
      rw [send_empty_run hm, send_empty_run hb]
      exact ⟨rfl, h⟩

theorem serve_mirrors (hcodes : Accepting codes) (h : Mirrors polls m b) {call : BlobCall}
    (hcall : call.OnEeprom0)
    (hempty : ∀ id : BlobId, 120 ≤ id.1.toNat → b.view (.blobLength id) = 0) :
    (m.serve codes polls call).1 = (b.serve call.request).1 ∧
      Mirrors polls (m.serve codes polls call).2 (b.serve call.request).2 := by
  obtain ⟨hresult, hnext⟩ := run_mirrors hcodes h hcall hempty
  refine ⟨?_, hnext⟩
  simp only [serve, Bench.serve, hresult, hnext.keypresses, h.keypresses]

theorem append_refused (hcodes : Telling codes) (h : Mirrors polls m b) {id : BlobId}
    (hid : 120 ≤ id.1.toNat) (hempty : b.view (.blobLength id) = 0) (character modcode : UInt8) :
    (m.serve codes polls (.append id character modcode)).1.ok = false := by
  have hlength : (controller codes polls).getBlobShortcutLength id.1 m = (some 0, m) := by
    rw [getBlobShortcutLength_run h, hempty]
  have heeprom : (controller codes polls).blobEeprom id.1 =
      externalEeprom (driver codes Bus.wires .eeprom1 polls) :=
    if_pos ((eeprom1_iff id.1).mpr hid)
  have hrefused := eeprom1_write_refused hcodes h.eeprom0
    (StorageController.blobOffset id.1 0) character
  have hwrite : ((externalEeprom (driver codes Bus.wires .eeprom1 polls)).writeByte
      (StorageController.blobOffset id.1 0) character m).1 = none := by
    simp only [externalEeprom, onTwi, bind_run, zoom_run, hrefused]
    rfl
  have happend : ((controller codes polls).appendToBlobShortcut id.1 character modcode m).1 = none := by
    rw [StorageController.appendToBlobShortcut, if_neg (Bench.not_gt_maxIndex id),
      bind_of_some hlength, if_neg (by decide), heeprom]
    exact congrArg Prod.fst (bind_of_none (Prod.ext hwrite rfl) _)
  have hrun : (silently ((controller codes polls).appendToBlobShortcut id.1 character modcode) m).1 =
      none := congrArg Prod.fst (bind_of_none (Prod.ext happend rfl) _)
  exact congrArg Option.isSome hrun

end Calls

end Machine

structure BlobUse where
  machine : Machine
  shortcuts : Shortcuts

namespace BlobUse

variable (codes : StatusCodes) (polls : ℕ) (u : BlobUse)

def step (call : BlobCall) : BlobUse :=
  ⟨(u.machine.serve codes polls call).2, (u.shortcuts.serve call.request).2⟩

def RightReply : BlobCall → Prop
  | .append id character modcode => ¬ u.shortcuts.blobFull id →
    (u.machine.serve codes polls (.append id character modcode)).1.ok = true
  | .clear _ => True
  | .send id =>
    (u.machine.serve codes polls (.send id)).1.keypresses = (u.shortcuts.blobs id).1

structure Consistent : Prop where
  stored : ∃ b, Machine.Mirrors polls u.machine b ∧ Represents b.view u.shortcuts
  eeprom1 : ∀ id : BlobId, 120 ≤ id.1.toNat → (u.shortcuts.blobs id).1 = []

variable {codes polls u}

theorem blobLength_of_nil {b : Bench} (h : Represents b.view u.shortcuts) {id : BlobId}
    (hnil : (u.shortcuts.blobs id).1 = []) : b.view (.blobLength id) = 0 := by
  rw [← UInt8.toNat_inj, h.blobLength id, hnil]
  rfl

theorem setBlob_of_ne {s : Shortcuts} {id other : BlobId} (hne : other ≠ id) (blob : Blob) :
    ((s.setBlob id blob).blobs other).1 = (s.blobs other).1 := by
  simp [Shortcuts.setBlob, hne]

theorem serve_eeprom1 (h : ∀ id : BlobId, 120 ≤ id.1.toNat → (u.shortcuts.blobs id).1 = [])
    {call : BlobCall} (hcall : call.OnEeprom0) (id : BlobId) (hid : 120 ≤ id.1.toNat) :
    ((u.shortcuts.serve call.request).2.blobs id).1 = [] := by
  cases call with
  | append other character modcode =>
    have hne : id ≠ other := by
      rintro rfl
      have := (lt_eeprom1_iff id).mp hcall
      omega
    rw [BlobCall.request, Shortcuts.serve, Shortcuts.serveBlob_of_le]
    split
    · exact h id hid
    · exact (setBlob_of_ne hne _).trans (h id hid)
  | clear other =>
    rw [BlobCall.request, Shortcuts.serve, Shortcuts.serveBlob_of_le]
    by_cases hne : id = other
    · rw [hne]
      exact congrArg Subtype.val (Function.update_self other _ u.shortcuts.blobs)
    · exact (setBlob_of_ne hne _).trans (h id hid)
  | send other =>
    rw [BlobCall.request, Shortcuts.serve, Shortcuts.serveBlob_of_le]
    exact h id hid

theorem rightReply_of_response {call : BlobCall}
    (h : (u.machine.serve codes polls call).1 = (u.shortcuts.serve call.request).1) :
    u.RightReply codes polls call := by
  cases call with
  | append id character modcode =>
    intro hfull
    rw [h, BlobCall.request, Shortcuts.serve, Shortcuts.serveBlob_of_le, dif_neg hfull]
    rfl
  | clear id => trivial
  | send id =>
    rw [RightReply, h, BlobCall.request, Shortcuts.serve, Shortcuts.serveBlob_of_le]
    rfl

theorem step_consistent (hcodes : Accepting codes) (h : u.Consistent polls) {call : BlobCall}
    (hcall : call.OnEeprom0) :
    u.RightReply codes polls call ∧ (u.step codes polls call).Consistent polls := by
  obtain ⟨⟨b, hmirrors, hrep⟩, hnil⟩ := h
  have hempty : ∀ id : BlobId, 120 ≤ id.1.toNat → b.view (.blobLength id) = 0 :=
    fun id hid => blobLength_of_nil hrep (hnil id hid)
  obtain ⟨hreply, hnext⟩ := Machine.serve_mirrors hcodes hmirrors hcall hempty
  obtain ⟨hresponse, hrefines⟩ := Bench.serve_refines b u.shortcuts call.request ⟨hrep, hmirrors.calm⟩
  exact ⟨rightReply_of_response (hreply.trans hresponse), ⟨_, hnext, hrefines.1⟩,
    serve_eeprom1 hnil hcall⟩

theorem onEeprom0_of_rightReply (hcodes : Telling codes) (h : u.Consistent polls) {call : BlobCall}
    (hright : u.RightReply codes polls call) : call.OnEeprom0 := by
  cases call with
  | append id character modcode =>
    obtain ⟨⟨b, hmirrors, hrep⟩, hnil⟩ := h
    by_contra hid
    have hge : 120 ≤ id.1.toNat := not_lt.mp fun hlt => hid ((lt_eeprom1_iff id).mpr hlt)
    have hfull : ¬ u.shortcuts.blobFull id := by simp [Shortcuts.blobFull, hnil id hge]
    have hrefused := Machine.append_refused hcodes hmirrors hge
      (blobLength_of_nil hrep (hnil id hge)) character modcode
    simp [hright hfull] at hrefused
  | clear id => trivial
  | send id => trivial

def start (internal : UInt16 → UInt8) (t : Twi Bus) (control : UInt8) (buffer : Buffer)
    (mode : EepromMode) : BlobUse := ⟨.start internal t control buffer mode, .empty⟩

theorem start_consistent {internal : UInt16 → UInt8}
    (hempty : ∀ id, internal (Machine.blobLengthOffset id) = 0xFF) {t : Twi Bus}
    (hpolls : t.slowest < polls) (control : UInt8) (buffer : Buffer) (mode : EepromMode) :
    (start internal t control buffer mode).Consistent polls := by
  let memory : Memory := fun
    | (.eeprom0, offset) => buffer.get offset.toNat
    | _ => 0xFF
  have hbuffer : ∀ o : Offset, memory (.eeprom0, UInt16.ofNat o) = buffer o :=
    fun o => get_offset buffer o
  refine ⟨⟨.start memory fun _ => .succeed, ⟨hempty, ?_, rfl, fun _ => rfl⟩, ?_⟩, fun _ _ => rfl⟩
  · change Remembers polls _ fun o : Offset => memory (.eeprom0, UInt16.ofNat o) + 1
    simp only [hbuffer]
    exact connect_remembers hpolls control buffer mode
  · let b : Bench := .start memory fun _ => .succeed
    have hzero : (0xFF : UInt8) + 1 = 0 := by decide
    have hword : ∀ id, b.view (.wordLength id) = 0 := fun _ => hzero
    have hblob : ∀ id, b.view (.blobLength id) = 0 := fun _ => hzero
    exact ⟨fun _ => hzero, fun id => by rw [wordContents, hword]; rfl,
      fun id => by rw [blobContents, hblob]; rfl⟩

end BlobUse

theorem blob_calls_right_iff (codes : StatusCodes) (hcodes : Telling codes)
    (internal : UInt16 → UInt8) (hempty : ∀ id, internal (Machine.blobLengthOffset id) = 0xFF)
    (t : Twi Bus) (control : UInt8) (buffer : Buffer) (mode : EepromMode) (calls : List BlobCall) :
    ∃ enough, ∀ polls ≥ enough,
      let start := BlobUse.start internal t control buffer mode
      Obeys (BlobUse.RightReply codes polls) start (path (BlobUse.step codes polls) start calls) ↔
        ∀ call ∈ calls, call.OnEeprom0 := by
  refine ⟨t.slowest + 1, fun polls hpolls => ?_⟩
  have hgood : ∀ (u : BlobUse) call, u.Consistent polls → call.OnEeprom0 →
      u.RightReply codes polls call ∧ (u.step codes polls call).Consistent polls :=
    fun u call hu hcall => BlobUse.step_consistent hcodes.toAccepting hu hcall
  have hbad : ∀ (u : BlobUse) call, u.Consistent polls → u.RightReply codes polls call →
      call.OnEeprom0 := fun u call hu hright => BlobUse.onEeprom0_of_rightReply hcodes hu hright
  exact obeys_path_iff hgood hbad (BlobUse.start_consistent hempty hpolls control buffer mode)

theorem telling_simpleCodes : Telling simpleCodes :=
  ⟨accepting_simpleCodes, by decide, by decide, by decide⟩

theorem blob_calls_right_last_attached : ∃ enough, ∀ polls ≥ enough,
    let start := BlobUse.start (fun _ => 0xFF) (.reset ⟨0, .attached .eeprom0 (fun _ => 0) .write⟩) 0
      (fun _ => 0xFF) .write
    let calls := [.append ⟨119, by decide⟩ 4 2, .send ⟨119, by decide⟩, .clear ⟨120, by decide⟩]
    Obeys (BlobUse.RightReply simpleCodes polls) start
        (path (BlobUse.step simpleCodes polls) start calls) ↔
      ∀ call ∈ calls, call.OnEeprom0 :=
  blob_calls_right_iff simpleCodes telling_simpleCodes (fun _ => 0xFF) (fun _ => rfl) _ 0
    (fun _ => 0xFF) .write
    [.append ⟨119, by decide⟩ 4 2, .send ⟨119, by decide⟩, .clear ⟨120, by decide⟩]

theorem append_refused_on_unattached_chip : ¬ ∀ (codes : StatusCodes), Telling codes →
    ∀ (internal : UInt16 → UInt8), (∀ id, internal (Machine.blobLengthOffset id) = 0xFF) →
      ∀ (t : Twi Bus) (control : UInt8) (buffer : Buffer) (mode : EepromMode)
        (calls : List BlobCall), ∃ enough, ∀ polls ≥ enough,
          let start := BlobUse.start internal t control buffer mode
          Obeys (BlobUse.RightReply codes polls) start
            (path (BlobUse.step codes polls) start calls) := by
  intro h
  let t : Twi Bus := .reset ⟨0, .attached .eeprom0 (fun _ => 0) .write⟩
  obtain ⟨enough, hall⟩ := h simpleCodes telling_simpleCodes (fun _ => 0xFF) (fun _ => rfl) t 0
    (fun _ => 0xFF) .write [.append ⟨120, by decide⟩ 4 0]
  have hpolls : t.slowest < enough + 1 := Nat.succ_pos enough
  have hstart : (BlobUse.start (fun _ => 0xFF) t 0 (fun _ => 0xFF) .write).Consistent (enough + 1) :=
    BlobUse.start_consistent (fun _ => rfl) hpolls 0 (fun _ => 0xFF) .write
  have hright := (hall (enough + 1) (Nat.le_succ enough)).1
  have hcall := BlobUse.onEeprom0_of_rightReply telling_simpleCodes hstart hright
  exact absurd hcall (by decide)

end Threeboard.Simulator
