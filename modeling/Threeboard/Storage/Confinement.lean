import Threeboard.Storage.Requests

namespace Threeboard.Storage

open Actions Actions.Action Records StorageController

inductive RecordId where
  | character (id : UInt8)
  | word (id : UInt8)
  | blob (id : UInt8)
  deriving DecidableEq, Repr

def Cell.record : Cell → RecordId
  | character id => .character id
  | wordLength id | wordChar id _ => .word id
  | blobLength id | blobKey id _ | blobMod id _ => .blob id.1

def Request.target : Request → Option RecordId
  | .setCharacter index _ => some (.character index)
  | .appendToWord index _ | .clearWord index => some (.word index)
  | .appendToBlob index _ _ | .clearBlob index => some (.blob index)
  | .getCharacter _ | .getWordLength _ | .sendWord _ _ | .getBlobLength _ | .sendBlob _ => none

def Request.Gets : Request → Prop
  | .getCharacter _ | .getWordLength _ | .getBlobLength _ => True
  | _ => False

theorem Request.Gets.target_eq_none {r : Request} (h : r.Gets) : r.target = none := by
  cases r <;> first | rfl | exact h.elim

namespace Bench

structure Edits (b : Bench) (cells : List Cell) (t : Bench) : Prop where
  writes : t.writes = b.writes ++ cells.map Cell.address
  memory : ∀ a ∉ cells.map Cell.address, t.memory a = b.memory a

variable {b t u : Bench} {cells more : List Cell}

theorem Edits.refl (b : Bench) : Edits b [] b := ⟨by simp, fun _ _ => rfl⟩

theorem Edits.trans (h : Edits b cells t) (h' : Edits t more u) : Edits b (cells ++ more) u := by
  refine ⟨by rw [h'.writes, h.writes, List.append_assoc, List.map_append], fun a ha => ?_⟩
  rw [List.map_append, List.mem_append, not_or] at ha
  exact (h'.memory a ha.2).trans (h.memory a ha.1)

theorem Edits.view (h : Edits b cells t) {f : Cell} (hf : f ∉ cells) : t.view f = b.view f := by
  rw [view_apply, view_apply, h.memory]
  rintro hmem
  obtain ⟨g, hg, hgf⟩ := List.mem_map.mp hmem
  exact hf (Cell.address_injective hgf ▸ hg)

def WordsFit (b : Bench) : Prop := ∀ id, (b.view (.wordLength id)).toNat ≤ 15

structure Confined (target : Option RecordId) (b t : Bench) : Prop where
  fit : WordsFit t
  edits : ∃ cells, Edits b cells t ∧ ∀ f ∈ cells, some f.record = target

theorem Confined.refl (target : Option RecordId) (h : WordsFit b) : Confined target b b :=
  ⟨h, [], Edits.refl b, by simp⟩

theorem Confined.trans {target : Option RecordId} (h : Confined target b t)
    (h' : Confined target t u) : Confined target b u := by
  obtain ⟨cells, hcells, htarget⟩ := h.edits
  obtain ⟨more, hmore, htarget'⟩ := h'.edits
  refine ⟨h'.fit, cells ++ more, hcells.trans hmore, fun f hf => ?_⟩
  rcases List.mem_append.mp hf with hf | hf
  · exact htarget f hf
  · exact htarget' f hf

theorem WordsFit.of_edits (h : WordsFit b) (hedits : Edits b cells t)
    (hlen : ∀ id, .wordLength id ∉ cells) : WordsFit t := fun id => by
  rw [hedits.view (hlen id)]
  exact h id

theorem WordsFit.confined (h : WordsFit b) {f : Cell} (hedits : Edits b [f] t)
    (hlen : ∀ id, .wordLength id ≠ f) : Confined (some f.record) b t :=
  ⟨h.of_edits hedits (by simpa using hlen), [f], hedits, by simp⟩

theorem popFate_edits (b : Bench) : Edits b [] b.popFate := ⟨by simp [popFate], fun _ _ => rfl⟩

theorem poke_edits (b : Bench) (f : Cell) (byte : UInt8) :
    Edits b [f] ((b.logWrite f.address).poke f.address byte) := by
  refine ⟨rfl, fun a ha => ?_⟩
  exact Function.update_of_ne (by simpa using ha) _ _

theorem failWrite_edits (f : Cell) (residue : Option UInt8) (b : Bench) :
    wp (failWrite f.address residue) (fun _ _ => False)
      (fun t => Edits b [f] t ∧ (residue = none → t.view = b.view)) b := by
  cases residue with
  | some byte => exact ⟨poke_edits b f byte, by simp⟩
  | none => exact ⟨⟨rfl, fun _ _ => rfl⟩, fun _ => rfl⟩

theorem sendKeypress_edits (key mod : UInt8) (b : Bench) :
    wp (usbController.sendKeypress key mod) (fun _ t => Edits b [] t) (Edits b []) b := by
  simp only [usbController, wp_bind, wp_modify, wp_nextFate]
  cases (logKeypress key mod b).fates 0 with
  | succeed | fail residue => exact ⟨by simp [popFate, logKeypress], fun _ _ => rfl⟩

theorem external_read_edits (chip : Chip) (offset : UInt16) (b : Bench) :
    wp ((externalEeprom chip).readByte offset) (fun _ t => Edits b [] t) (Edits b []) b := by
  simp only [externalEeprom, wp_bind, wp_nextFate]
  cases b.fates 0 with
  | succeed | fail residue => exact popFate_edits b

theorem external_write_edits {f : Cell} {chip : Chip} {offset : UInt16}
    (h : f.address = (chip, offset)) (x : UInt8) (b : Bench) :
    wp ((externalEeprom chip).writeByte offset x) (fun _ t => Edits b [f] t) (Edits b [f]) b := by
  simp only [externalEeprom, wp_bind, wp_nextFate]
  rw [← h]
  cases b.fates 0 with
  | succeed => exact (popFate_edits b).trans (poke_edits b.popFate f (x - 1))
  | fail residue =>
    exact wp_mono (failWrite_edits f residue b.popFate) (fun _ _ hf => hf.elim)
      fun _ ht => (popFate_edits b).trans ht.1

theorem flaky_read_edits {f : Cell} {offset : UInt16} (h : f.address = (.internal, offset))
    (b : Bench) : wp (flakyInternalEeprom.readByte offset)
      (fun x t => x = b.view f ∧ Edits b [] t) (Edits b []) b := by
  simp only [flakyInternalEeprom, wp_bind, wp_nextFate]
  cases b.fates 0 with
  | succeed => exact wp_of_some (internal_read h b.popFate) ⟨rfl, popFate_edits b⟩
  | fail residue => exact popFate_edits b

theorem flaky_write_edits {f : Cell} {offset : UInt16} (h : f.address = (.internal, offset))
    (x : UInt8) (b : Bench) : wp (flakyInternalEeprom.writeByte offset x)
      (fun _ t => t.view = Function.update b.view f x ∧ Edits b [f] t)
      (fun t => t.view = b.view ∧ Edits b [f] t) b := by
  simp only [flakyInternalEeprom, wp_bind, wp_nextFate]
  cases b.fates 0 with
  | succeed =>
    have hedits := (popFate_edits b).trans (poke_edits b.popFate f (x - 1))
    have hview := (poke_encoded_after b.popFate f x).view
    rw [h] at hview hedits
    exact ⟨hview, hedits⟩
  | fail residue =>
    rw [← h]
    exact wp_mono (failWrite_edits f none b.popFate) (fun _ _ hf => hf.elim)
      fun _ ht => ⟨ht.2 rfl, (popFate_edits b).trans ht.1⟩

theorem keeps_of_edits {α : Type} {x : Action Bench α}
    (h : ∀ s, wp x (fun _ t => Edits s [] t) (Edits s []) s) : Keeps (Edits b []) x :=
  keeps_iff_wp.mpr fun s hs => wp_mono (h s) (fun _ _ ht => hs.trans ht) fun _ ht => hs.trans ht

theorem sendKeypress_keeps (key mod : UInt8) :
    Keeps (Edits b []) (usbController.sendKeypress key mod) :=
  keeps_of_edits (sendKeypress_edits key mod)

theorem external_read_keeps (chip : Chip) (offset : UInt16) :
    Keeps (Edits b []) ((externalEeprom chip).readByte offset) :=
  keeps_of_edits (external_read_edits chip offset)

theorem flaky_read_keeps {f : Cell} {offset : UInt16} (h : f.address = (.internal, offset)) :
    Keeps (Edits b []) (flakyInternalEeprom.readByte offset) :=
  keeps_of_edits fun s => wp_mono (flaky_read_edits h s) (fun _ _ ht => ht.2) fun _ ht => ht

theorem flaky_blobEeprom_eq (index : UInt8) :
    flakyController.blobEeprom index = externalEeprom (blobChip index) := by
  simp only [blobEeprom, blobChip, flakyController]
  split <;> rfl

theorem sendWordCharacter_keeps (id code length : UInt8) (i : ℕ) :
    Keeps (Edits b []) (flakyController.sendWordCharacter id code length i) := by
  refine Keeps.bind (external_read_keeps _ _) fun character => Keeps.ite ?_ (Keeps.ite ?_ ?_)
  · exact sendKeypress_keeps _ _
  · exact Keeps.bind (sendKeypress_keeps _ _) fun _ => sendKeypress_keeps _ _
  · exact sendKeypress_keeps _ _

theorem sendWordShortcut_keeps (id code : UInt8) :
    Keeps (Edits b []) (flakyController.sendWordShortcut id code) :=
  Keeps.bind (flaky_read_keeps (f := .wordLength id) rfl) fun _ =>
    Keeps.ite Keeps.stop (Keeps.forM (sendWordCharacter_keeps id code _) _)

theorem sendBlobPair_keeps (id : UInt8) (i : ℕ) :
    Keeps (Edits b []) (flakyController.sendBlobPair id i) := by
  simp only [StorageController.sendBlobPair, flaky_blobEeprom_eq]
  exact Keeps.bind (external_read_keeps _ _) fun _ =>
    Keeps.bind (external_read_keeps _ _) fun _ => sendKeypress_keeps _ _

theorem getBlobShortcutLength_keeps (id : UInt8) :
    Keeps (Edits b []) (flakyController.getBlobShortcutLength id) := by
  by_cases hid : id ≤ kLayerBMaxIndex
  · exact Keeps.ite Keeps.stop (flaky_read_keeps (f := .blobLength ⟨id, hid⟩) rfl)
  · rw [getBlobShortcutLength, if_pos (UInt8.not_le.mp hid)]
    exact Keeps.stop

theorem sendBlobShortcut_keeps (id : UInt8) :
    Keeps (Edits b []) (flakyController.sendBlobShortcut id) :=
  Keeps.ite Keeps.stop (Keeps.bind (getBlobShortcutLength_keeps id) fun _ =>
    Keeps.ite Keeps.stop (Keeps.forM (sendBlobPair_keeps id) _))

theorem WordsFit.set_length (h : WordsFit b) {id n : UInt8} (hn : n.toNat ≤ 15)
    (hview : t.view = Function.update b.view (.wordLength id) n) : WordsFit t := by
  intro j
  rw [hview]
  by_cases hj : j = id
  · rw [hj, Function.update_self]
    exact hn
  · rw [Function.update_of_ne (by simpa using hj)]
    exact h j

theorem wordLength_write_confined (h : WordsFit b) (id : UInt8) {n : UInt8} (hn : n.toNat ≤ 15)
    {offset : UInt16} (hoff : (Cell.wordLength id).address = (.internal, offset)) :
    wp (flakyInternalEeprom.writeByte offset n) (fun _ => Confined (some (.word id)) b)
      (Confined (some (.word id)) b) b := by
  refine wp_mono (flaky_write_edits hoff n b) ?_ ?_
  · rintro - t ⟨hview, hedits⟩
    exact ⟨h.set_length hn hview, _, hedits, by simp [Cell.record]⟩
  · rintro t ⟨hview, hedits⟩
    exact ⟨fun j => by rw [hview]; exact h j, _, hedits, by simp [Cell.record]⟩

theorem flaky_write_confined (h : WordsFit b) {f : Cell} (hlen : ∀ id, .wordLength id ≠ f)
    {offset : UInt16} (hoff : f.address = (.internal, offset)) (x : UInt8) :
    wp (flakyInternalEeprom.writeByte offset x) (fun _ => Confined (some f.record) b)
      (Confined (some f.record) b) b :=
  wp_mono (flaky_write_edits hoff x b) (fun _ _ ht => h.confined ht.2 hlen)
    fun _ ht => h.confined ht.2 hlen

theorem external_write_confined (h : WordsFit b) {f : Cell} (hlen : ∀ id, .wordLength id ≠ f)
    {chip : Chip} {offset : UInt16} (hoff : f.address = (chip, offset)) (x : UInt8) :
    wp ((externalEeprom chip).writeByte offset x) (fun _ => Confined (some f.record) b)
      (Confined (some f.record) b) b :=
  wp_mono (external_write_edits hoff x b) (fun _ _ ht => h.confined ht hlen)
    fun _ ht => h.confined ht hlen

theorem appendToWordShortcut_confined (h : WordsFit b) (id x : UInt8) :
    wp (flakyController.appendToWordShortcut id x) (fun _ => Confined (some (.word id)) b)
      (Confined (some (.word id)) b) b := by
  unfold StorageController.appendToWordShortcut
  rw [wp_bind]
  refine wp_mono (flaky_read_edits (f := .wordLength id) rfl b) ?_ ?_
  · rintro length t ⟨rfl, ht⟩
    have hfit := h.of_edits ht (by simp)
    have hbt : Confined (some (.word id)) b t := ⟨hfit, [], ht, by simp⟩
    have hle := h id
    refine wp_ite.mpr ⟨fun _ => hbt, fun hne => ?_⟩
    have hlt : (b.view (.wordLength id)).toNat < 15 := by
      rw [← UInt8.toNat_inj] at hne
      exact lt_of_le_of_ne hle hne
    rw [wp_bind]
    refine wp_mono (external_write_confined hfit (f := wordSlot id _) (by simp [wordSlot])
      (wordChar_address id (by omega)) x) ?_ fun u hu => hbt.trans hu
    intro _ u hu
    have hbu := hbt.trans hu
    exact wp_mono (wordLength_write_confined hbu.fit id (by rw [toNat_succ (by omega)]; omega) rfl)
      (fun _ _ hw => hbu.trans hw) fun _ hw => hbu.trans hw
  · intro t ht
    exact ⟨h.of_edits ht (by simp), [], ht, by simp⟩

theorem appendToBlobShortcut_confined (h : WordsFit b) (id : BlobId) (key mod : UInt8) :
    wp (flakyController.appendToBlobShortcut id.1 key mod) (fun _ => Confined (some (.blob id.1)) b)
      (Confined (some (.blob id.1)) b) b := by
  rw [StorageController.appendToBlobShortcut, if_neg (not_gt_maxIndex id), wp_bind,
    StorageController.getBlobShortcutLength, if_neg (not_gt_maxIndex id), flaky_blobEeprom_eq]
  refine wp_mono (flaky_read_edits (f := .blobLength id) rfl b) ?_ ?_
  · rintro length t ⟨-, ht⟩
    have hbt : Confined (some (.blob id.1)) b t := ⟨h.of_edits ht (by simp), [], ht, by simp⟩
    have hlt := length.toNat_lt
    refine wp_ite.mpr ⟨fun _ => hbt, fun hne => ?_⟩
    simp only [wp_bind]
    refine wp_mono (external_write_confined hbt.fit (by simp) (blobKey_address id hlt) key) ?_
      fun u hu => hbt.trans hu
    intro _ u hu
    have hbu := hbt.trans hu
    refine wp_mono (external_write_confined hbu.fit (by simp) (blobMod_address id hlt) mod) ?_
      fun w hw => hbu.trans hw
    intro _ w hw
    have hbw := hbu.trans hw
    exact wp_mono (flaky_write_confined hbw.fit (f := .blobLength id) (by simp) rfl _)
      (fun _ _ hz => hbw.trans hz) fun _ hz => hbw.trans hz
  · intro t ht
    exact ⟨h.of_edits ht (by simp), [], ht, by simp⟩

theorem confined_of_wp {target : Option RecordId} {w : Bench} {x : Action Bench Unit}
    (h : ∀ s, WordsFit s → wp x (fun _ => Confined target s) (Confined target s) s) :
    Keeps (Confined target w) (silently x) :=
  Keeps.bind (keeps_iff_wp.mpr fun s hs => wp_mono (h s hs.fit) (fun _ _ ht => hs.trans ht)
    fun _ ht => hs.trans ht) fun _ => Keeps.pure none

theorem confined_of_keeps {α : Type} {target : Option RecordId} {w : Bench} {x : Action Bench α}
    (h : ∀ s, Keeps (Edits s []) x) : Keeps (Confined target w) x := fun s hs => by
  have hedits := h s s (Edits.refl s)
  exact hs.trans ⟨hs.fit.of_edits hedits (by simp), [], hedits, by simp⟩

theorem confined_of_gt {target : Option RecordId} {w : Bench} {index : UInt8}
    (h : ¬ index ≤ kLayerBMaxIndex) (x : Action Bench Unit) :
    Keeps (Confined target w) (silently (if index > kLayerBMaxIndex then Action.stop else x)) := by
  rw [if_pos (UInt8.not_le.mp h)]
  exact Keeps.bind Keeps.stop fun _ => Keeps.pure none

theorem run_keeps {r : Request} (h : r.target = none) :
    Keeps (Edits b []) (r.run flakyController.methods) := by
  cases r with
  | setCharacter | appendToWord | clearWord | appendToBlob | clearBlob => cases h
  | getCharacter index =>
    exact Keeps.bind (flaky_read_keeps (f := .character index) rfl) fun _ => Keeps.pure _
  | getWordLength index =>
    exact Keeps.bind (flaky_read_keeps (f := .wordLength index) rfl) fun _ => Keeps.pure _
  | sendWord index rawModCode =>
    exact Keeps.bind (sendWordShortcut_keeps index rawModCode) fun _ => Keeps.pure _
  | getBlobLength index =>
    exact Keeps.bind (getBlobShortcutLength_keeps index) fun _ => Keeps.pure _
  | sendBlob index => exact Keeps.bind (sendBlobShortcut_keeps index) fun _ => Keeps.pure _

theorem write_confined {record : RecordId} {w : Bench} {r : Request} (h : r.target = some record) :
    Keeps (Confined (some record) w) (r.run flakyController.methods) := by
  cases r with
  | getCharacter | getWordLength | sendWord | getBlobLength | sendBlob => cases h
  | setCharacter index character =>
    cases h
    exact confined_of_wp fun s hs =>
      flaky_write_confined hs (f := .character index) (by simp) rfl character
  | appendToWord index character =>
    cases h
    exact confined_of_wp fun s hs => appendToWordShortcut_confined hs index character
  | clearWord index =>
    cases h
    exact confined_of_wp fun s hs => wordLength_write_confined hs index (by decide) rfl
  | appendToBlob index character modcode =>
    cases h
    by_cases hid : index ≤ kLayerBMaxIndex
    · exact confined_of_wp fun s hs =>
        appendToBlobShortcut_confined hs ⟨index, hid⟩ character modcode
    · exact confined_of_gt hid _
  | clearBlob index =>
    cases h
    by_cases hid : index ≤ kLayerBMaxIndex
    · exact confined_of_wp fun s hs => wp_ite.mpr ⟨fun hgt => (UInt8.not_lt.mpr hid hgt).elim,
        fun _ => flaky_write_confined hs (f := .blobLength ⟨index, hid⟩) (by simp) rfl 0⟩
    · exact confined_of_gt hid _

theorem run_confined {target : Option RecordId} {w : Bench} (r : Request)
    (h : r.target = none ∨ r.target = target) :
    Keeps (Confined target w) (r.run flakyController.methods) := by
  rcases htarget : r.target with _ | record
  · exact confined_of_keeps fun _ => run_keeps htarget
  · obtain rfl : target = some record := (h.resolve_left (by simp [htarget])).symm.trans htarget
    exact write_confined htarget

theorem sendKeypress_confined {target : Option RecordId} {w : Bench} (key mod : UInt8) :
    Keeps (Confined target w) (usbController.sendKeypress key mod) :=
  confined_of_keeps fun _ => sendKeypress_keeps key mod

end Bench

end Threeboard.Storage
