import Threeboard.Storage.Confinement

namespace Threeboard.Storage

open Actions Actions.Action Records StorageController

-- The power is there for so many accesses. The next one is cut short, which may leave any byte
-- where an external chip was being written, and there are none after it.
def untilCut (power : ℕ) (residue : UInt8) (n : ℕ) : Fate :=
  if n < power then .succeed else if n = power then .fail (some residue) else .fail none

namespace Bench

def Powered (b : Bench) : Prop := ∃ power residue, b.fates = untilCut power residue

def Dead (b : Bench) : Prop := ∀ n, b.fates n = .fail none

variable {b t : Bench} {v : Cell → UInt8}

theorem Powered.start (memory : Memory) (power : ℕ) (residue : UInt8) :
    Powered (start memory (untilCut power residue)) := ⟨power, residue, rfl⟩

theorem Powered.not_dead (h : Powered b) : ¬ Dead b := by
  obtain ⟨power, residue, hfates⟩ := h
  intro hdead
  have hcut := hdead power
  rw [hfates] at hcut
  simp [untilCut] at hcut

theorem Powered.next (h : Powered b) : (b.fates 0 = .succeed ∧ Powered b.popFate) ∨
    ∃ residue, b.fates 0 = .fail residue ∧ Dead b.popFate := by
  obtain ⟨power, residue, hfates⟩ := h
  cases power with
  | zero =>
    refine .inr ⟨some residue, by rw [hfates]; rfl, fun n => ?_⟩
    change b.fates (n + 1) = .fail none
    rw [hfates]
    simp [untilCut]
  | succ power =>
    refine .inl ⟨by rw [hfates]; rfl, power, residue, ?_⟩
    funext n
    change b.fates (n + 1) = _
    simp only [hfates, untilCut, Nat.add_lt_add_iff_right, Nat.add_right_cancel_iff]

structure Done (v : Cell → UInt8) (t : Bench) : Prop where
  view : t.view = v
  powered : Powered t

structure Cut (v : Cell → UInt8) (t : Bench) : Prop where
  view : t.view = v
  dead : Dead t

section Accesses

variable (h : Powered b)

include h

theorem fated_cut {α : Type} {y : Action Bench α} {z : Option UInt8 → Action Bench α}
    {Q : α → Bench → Prop} {E : Bench → Prop} (hy : Powered b.popFate → wp y Q E b.popFate)
    (hz : ∀ residue, Dead b.popFate → wp (z residue) Q E b.popFate) :
    wp (do match ← nextFate with
      | .succeed => y
      | .fail residue => z residue) Q E b := by
  rw [wp_bind, wp_nextFate]
  rcases h.next with ⟨hfate, hpowered⟩ | ⟨residue, hfate, hdead⟩
  · rw [hfate]
    exact hy hpowered
  · rw [hfate]
    exact hz residue hdead

theorem flaky_read_cut {f : Cell} {offset : UInt16} (hf : f.address = (.internal, offset)) :
    wp (flakyInternalEeprom.readByte offset) (fun x t => x = b.view f ∧ Done b.view t)
      (Cut b.view) b :=
  fated_cut h (fun hpowered => wp_of_some (internal_read hf b.popFate) ⟨rfl, rfl, hpowered⟩)
    fun _ hdead => ⟨rfl, hdead⟩

theorem flaky_write_cut {f : Cell} {offset : UInt16} (hf : f.address = (.internal, offset))
    (x : UInt8) : wp (flakyInternalEeprom.writeByte offset x)
      (fun _ => Done (Function.update b.view f x)) (Cut b.view) b := by
  refine fated_cut h (fun hpowered => ?_) fun _ hdead => ⟨rfl, hdead⟩
  have hview := (poke_encoded_after b.popFate f x).view
  rw [hf] at hview
  exact ⟨hview, hpowered⟩

theorem external_read_cut {f : Cell} {chip : Chip} {offset : UInt16}
    (hf : f.address = (chip, offset)) : wp ((externalEeprom chip).readByte offset)
      (fun x t => x = b.view f ∧ Done b.view t) (Cut b.view) b :=
  fated_cut h (fun hpowered => ⟨by rw [view_apply, hf]; rfl, rfl, hpowered⟩)
    fun _ hdead => ⟨rfl, hdead⟩

theorem external_write_cut {f : Cell} {chip : Chip} {offset : UInt16}
    (hf : f.address = (chip, offset)) (x : UInt8) : wp ((externalEeprom chip).writeByte offset x)
      (fun _ => Done (Function.update b.view f x))
      (fun t => ∃ y, Cut (Function.update b.view f y) t) b := by
  refine fated_cut h (fun hpowered => ?_) fun residue hdead => ?_
  · have hview := (poke_encoded_after b.popFate f x).view
    rw [hf] at hview
    exact ⟨hview, hpowered⟩
  · cases residue with
    | some byte =>
      rw [← hf]
      exact ⟨byte + 1, (poke_after b.popFate f byte).view, hdead⟩
    | none => exact ⟨b.view f, (Function.update_eq_self f b.view).symm, hdead⟩

theorem sendKeypress_cut (key mod : UInt8) :
    wp (usbController.sendKeypress key mod) (fun _ => Done b.view) (Cut b.view) b := by
  rw [usbController, wp_bind]
  obtain ⟨power, residue, hfates⟩ := h
  have hlogged : Powered (logKeypress key mod b) := ⟨power, residue, hfates⟩
  exact fated_cut hlogged (fun hpowered => ⟨rfl, hpowered⟩) fun _ hdead => ⟨rfl, hdead⟩

end Accesses

section Sends

theorem external_read_steady {f : Cell} {chip : Chip} {offset : UInt16}
    (hf : f.address = (chip, offset)) :
    Steady (Done v) (Cut v) ((externalEeprom chip).readByte offset) := by
  rintro t ⟨rfl, hpowered⟩
  exact wp_mono (external_read_cut hpowered hf) (fun _ _ ht => ht.2) fun _ ht => ht

theorem sendKeypress_steady (key mod : UInt8) :
    Steady (Done v) (Cut v) (usbController.sendKeypress key mod) := by
  rintro t ⟨rfl, hpowered⟩
  exact sendKeypress_cut hpowered key mod

theorem sendWordCharacter_steady (id code length : UInt8) {i : ℕ} (hi : i < 16) :
    Steady (Done v) (Cut v) (flakyController.sendWordCharacter id code length i) := by
  refine (external_read_steady (wordChar_address id hi)).bind fun character => ?_
  refine Steady.ite (sendKeypress_steady _ _) (Steady.ite ?_ (sendKeypress_steady _ _))
  exact (sendKeypress_steady _ _).bind fun _ => sendKeypress_steady _ _

theorem sendBlobPair_steady (id : BlobId) {i : ℕ} (hi : i < 256) :
    Steady (Done v) (Cut v) (flakyController.sendBlobPair id.1 i) := by
  simp only [StorageController.sendBlobPair, flaky_blobEeprom_eq]
  refine (external_read_steady (blobKey_address id hi)).bind fun character => ?_
  refine (external_read_steady (blobMod_address id hi)).bind fun modcode => ?_
  exact sendKeypress_steady _ _

end Sends

section Requests

variable {s : Shortcuts} {r : Request}

structure Answered (s : Shortcuts) (r : Request) (output : Option UInt8) (t : Bench) : Prop where
  represents : Represents t.view (s.serve r).2
  powered : Powered t
  ok : (s.serve r).1.ok = true
  output : (s.serve r).1.output = output

structure Refused (s : Shortcuts) (r : Request) (t : Bench) : Prop where
  represents : Represents t.view (s.serve r).2
  powered : Powered t
  ok : (s.serve r).1.ok = false

structure Lost (s : Shortcuts) (t : Bench) : Prop where
  represents : Represents t.view s
  dead : Dead t

theorem Cut.lost (h : Cut v t) (hv : Represents v s) : Lost s t := ⟨by rw [h.view]; exact hv, h.dead⟩

theorem Done.answered {output : Option UInt8} (ht : Done v t) (hv : Represents v (s.serve r).2)
    (hok : (s.serve r).1.ok = true) (houtput : (s.serve r).1.output = output) :
    Answered s r output t := ⟨by rw [ht.view]; exact hv, ht.powered, hok, houtput⟩

theorem Done.refused (ht : Done v t) (hv : Represents v (s.serve r).2)
    (hok : (s.serve r).1.ok = false) : Refused s r t :=
  ⟨by rw [ht.view]; exact hv, ht.powered, hok⟩

theorem wp_outputting {x : Action Bench UInt8} {Q : Option UInt8 → Bench → Prop} {E : Bench → Prop}
    (hx : wp x (fun y => Q (some y)) E b) : wp (outputting x) Q E b := by
  rw [outputting, wp_bind]
  exact hx

section Words

variable (h : Powered b) (hb : Represents b.view s) (id : UInt8)

include h hb

theorem appendToWord_cut (x : UInt8) : wp (flakyController.appendToWordShortcut id x)
    (fun _ => Answered s (.appendToWord id x) none)
    (fun t => Refused s (.appendToWord id x) t ∨ Lost s t) b := by
  unfold StorageController.appendToWordShortcut
  rw [wp_bind]
  refine wp_mono (flaky_read_cut h (f := .wordLength id) rfl) ?_ fun _ ht => .inr (ht.lost hb)
  rintro length t ⟨rfl, ht⟩
  have hle := hb.wordLength_le id
  have hfull_iff := hb.wordFull_iff id
  refine wp_ite.mpr ⟨fun hmax => ?_, fun hmax => ?_⟩
  · have hfull := hfull_iff.mpr hmax
    have hserve : s.serve (.appendToWord id x) = (.rejected, s) := dif_pos hfull
    exact .inl (ht.refused (by rw [hserve]; exact hb) (by rw [hserve]; rfl))
  · have hfull := mt hfull_iff.mp hmax
    have hserve : s.serve (.appendToWord id x) = (.done, s.appendWord id x hfull) := dif_neg hfull
    have haddr := wordChar_address id (k := (b.view (.wordLength id)).toNat) (by omega)
    rw [wp_bind]
    refine wp_mono (external_write_cut ht.powered haddr x) ?_ ?_
    · intro _ u hu
      rw [ht.view] at hu
      refine wp_mono (flaky_write_cut hu.powered (f := .wordLength id) rfl _) ?_ ?_
      · intro _ w hw
        rw [hu.view] at hw
        exact hw.answered (by rw [hserve]; exact represents_appendWord hb id x hfull)
          (by rw [hserve]; rfl) (by rw [hserve]; rfl)
      · intro w hw
        rw [hu.view] at hw
        exact .inr (hw.lost (hb.spoil_word (le_refl _) (by omega) x))
    · rintro u ⟨y, hu⟩
      rw [ht.view] at hu
      exact .inr (hu.lost (hb.spoil_word (le_refl _) (by omega) y))

theorem sendWord_cut (code : UInt8) : wp (flakyController.sendWordShortcut id code)
    (fun _ => Answered s (.sendWord id code) none)
    (fun t => Refused s (.sendWord id code) t ∨ Lost s t) b := by
  unfold StorageController.sendWordShortcut
  rw [wp_bind]
  refine wp_mono (flaky_read_cut h (f := .wordLength id) rfl) ?_ fun _ ht => .inr (ht.lost hb)
  rintro length t ⟨rfl, ht⟩
  have hle := hb.wordLength_le id
  have hnil : b.view (.wordLength id) = 0 ↔ (s.words id).1 = [] := by
    rw [← List.length_eq_zero_iff, ← hb.wordLength id, ← UInt8.toNat_inj]
    rfl
  refine wp_ite.mpr ⟨fun hzero => ?_, fun hzero => ?_⟩
  · exact .inl (ht.refused hb (decide_eq_false (not_not.mpr (hnil.mp hzero))))
  · have hloop : Steady (Done b.view) (Cut b.view)
        (forM (List.range (b.view (.wordLength id)).toNat)
          (flakyController.sendWordCharacter id code (b.view (.wordLength id)))) :=
      Steady.forM fun i hi => sendWordCharacter_steady id code _
        (by have := List.mem_range.mp hi; omega)
    exact wp_mono (hloop t ht)
      (fun _ u hu => hu.answered hb (decide_eq_true (mt hnil.mpr hzero)) rfl)
      fun _ hu => .inr (hu.lost hb)

end Words

section Blobs

variable (h : Powered b) (hb : Represents b.view s) (id : BlobId)

include h hb

theorem appendToBlob_cut (key mod : UInt8) : wp (flakyController.appendToBlobShortcut id.1 key mod)
    (fun _ => Answered s (.appendToBlob id.1 key mod) none)
    (fun t => Refused s (.appendToBlob id.1 key mod) t ∨ Lost s t) b := by
  have hanswer := s.serveBlob_of_le id fun id =>
    if h : s.blobFull id then (Response.rejected, s) else (.done, s.appendBlob id (key, mod) h)
  rw [StorageController.appendToBlobShortcut, if_neg (not_gt_maxIndex id), wp_bind,
    StorageController.getBlobShortcutLength, if_neg (not_gt_maxIndex id), flaky_blobEeprom_eq]
  refine wp_mono (flaky_read_cut h (f := .blobLength id) rfl) ?_ fun _ ht => .inr (ht.lost hb)
  rintro length t ⟨rfl, ht⟩
  have hfull_iff := hb.blobFull_iff id
  refine wp_ite.mpr ⟨fun hmax => ?_, fun hmax => ?_⟩
  · have hfull := hfull_iff.mpr hmax
    have hserve : s.serve (.appendToBlob id.1 key mod) = (.rejected, s) :=
      hanswer.trans (dif_pos hfull)
    exact .inl (ht.refused (by rw [hserve]; exact hb) (by rw [hserve]; rfl))
  · have hfull := mt hfull_iff.mp hmax
    have hserve : s.serve (.appendToBlob id.1 key mod) = (.done, s.appendBlob id (key, mod) hfull) :=
      hanswer.trans (dif_neg hfull)
    obtain ⟨k, hk⟩ : ∃ k, k = (b.view (.blobLength id)).toNat := ⟨_, rfl⟩
    have hlt : k < 256 := hk ▸ (b.view (.blobLength id)).toNat_lt
    have hspoiled (y : UInt8) :
        Represents (Function.update b.view (.blobKey id (UInt8.ofNat k)) y) s :=
      hb.spoil_blobKey hk.ge hlt y
    have hspoiled_both (y : UInt8) : Represents (Function.update (Function.update b.view
        (.blobKey id (UInt8.ofNat k)) key) (.blobMod id (UInt8.ofNat k)) y) s :=
      (hspoiled key).spoil_blobMod (by simpa using hk.ge) hlt y
    simp only [wp_bind]
    rw [← hk]
    refine wp_mono (external_write_cut ht.powered (blobKey_address id hlt) key) ?_ ?_
    · intro _ u hu
      rw [ht.view] at hu
      refine wp_mono (external_write_cut hu.powered (blobMod_address id hlt) mod) ?_ ?_
      · intro _ w hw
        rw [hu.view] at hw
        refine wp_mono (flaky_write_cut hw.powered (f := .blobLength id) rfl _) ?_ ?_
        · intro _ z hz
          rw [hw.view] at hz
          exact hz.answered (by rw [hserve]; exact represents_appendBlob hb id key mod hfull hk)
            (by rw [hserve]; rfl) (by rw [hserve]; rfl)
        · intro z hz
          rw [hw.view] at hz
          exact .inr (hz.lost (hspoiled_both mod))
      · rintro w ⟨y, hw⟩
        rw [hu.view] at hw
        exact .inr (hw.lost (hspoiled_both y))
    · rintro u ⟨y, hu⟩
      rw [ht.view] at hu
      exact .inr (hu.lost (hspoiled y))

theorem sendBlob_cut : wp (flakyController.sendBlobShortcut id.1)
    (fun _ => Answered s (.sendBlob id.1) none)
    (fun t => Refused s (.sendBlob id.1) t ∨ Lost s t) b := by
  have hserve : s.serve (.sendBlob id.1) = (.typed ((s.blobs id).1 ≠ []) (s.blobs id).1, s) :=
    dif_pos id.2
  rw [StorageController.sendBlobShortcut, if_neg (not_gt_maxIndex id), wp_bind,
    StorageController.getBlobShortcutLength, if_neg (not_gt_maxIndex id)]
  refine wp_mono (flaky_read_cut h (f := .blobLength id) rfl) ?_ fun _ ht => .inr (ht.lost hb)
  rintro length t ⟨rfl, ht⟩
  have hlt := (b.view (.blobLength id)).toNat_lt
  have hnil : b.view (.blobLength id) = 0 ↔ (s.blobs id).1 = [] := by
    rw [← List.length_eq_zero_iff, ← hb.blobLength id, ← UInt8.toNat_inj]
    rfl
  refine wp_ite.mpr ⟨fun hzero => ?_, fun hzero => ?_⟩
  · refine .inl (ht.refused (by rw [hserve]; exact hb) ?_)
    rw [hserve]
    exact decide_eq_false (not_not.mpr (hnil.mp hzero))
  · have hloop : Steady (Done b.view) (Cut b.view)
        (forM (List.range (b.view (.blobLength id)).toNat) (flakyController.sendBlobPair id.1)) :=
      Steady.forM fun i hi => sendBlobPair_steady id (by have := List.mem_range.mp hi; omega)
    refine wp_mono (hloop t ht) (fun _ u hu => ?_) fun _ hu => .inr (hu.lost hb)
    refine hu.answered (by rw [hserve]; exact hb) ?_ (by rw [hserve]; rfl)
    rw [hserve]
    exact decide_eq_true (mt hnil.mpr hzero)

end Blobs

theorem refused_of_gt {index : UInt8} {x : Action Bench Unit} (h : Powered b)
    (hb : Represents b.view s) (hgt : ¬ index ≤ kLayerBMaxIndex)
    (hserve : s.serve r = (.rejected, s)) :
    wp (silently (if index > kLayerBMaxIndex then Action.stop else x)) (Answered s r)
      (fun t => Refused s r t ∨ Lost s t) b := by
  have hdone : Done b.view b := ⟨rfl, h⟩
  refine wp_of_none (run_of_gt hgt x) (.inl ?_)
  exact hdone.refused (by rw [hserve]; exact hb) (by rw [hserve]; rfl)

theorem request_cut (h : Powered b) (hb : Represents b.view s) (r : Request) :
    wp (r.run flakyController.methods) (Answered s r) (fun t => Refused s r t ∨ Lost s t) b := by
  cases r with
  | setCharacter index character =>
    refine wp_silently (wp_mono (flaky_write_cut h (f := .character index) rfl character) ?_ ?_)
    · exact fun _ t ht => ht.answered (hb.set_character index character) rfl rfl
    · exact fun t ht => .inr (ht.lost hb)
  | getCharacter index =>
    refine wp_outputting (wp_mono (flaky_read_cut h (f := .character index) rfl) ?_ ?_)
    · rintro x t ⟨rfl, ht⟩
      exact ht.answered hb rfl (congrArg some (hb.character index).symm)
    · exact fun t ht => .inr (ht.lost hb)
  | appendToWord index character => exact wp_silently (appendToWord_cut h hb index character)
  | clearWord index =>
    refine wp_silently (wp_mono (flaky_write_cut h (f := .wordLength index) rfl 0) ?_ ?_)
    · exact fun _ t ht => ht.answered (hb.set_wordLength rfl) rfl rfl
    · exact fun t ht => .inr (ht.lost hb)
  | getWordLength index =>
    refine wp_outputting (wp_mono (flaky_read_cut h (f := .wordLength index) rfl) ?_ ?_)
    · rintro x t ⟨rfl, ht⟩
      refine ht.answered hb rfl (congrArg some ?_)
      rw [← hb.wordLength index, UInt8.ofNat_toNat]
    · exact fun t ht => .inr (ht.lost hb)
  | sendWord index rawModCode => exact wp_silently (sendWord_cut h hb index rawModCode)
  | appendToBlob index character modcode =>
    by_cases hid : index ≤ kLayerBMaxIndex
    · exact wp_silently (appendToBlob_cut h hb ⟨index, hid⟩ character modcode)
    · exact refused_of_gt h hb hid (dif_neg hid)
  | clearBlob index =>
    by_cases hid : index ≤ kLayerBMaxIndex
    · have hserve : s.serve (.clearBlob index) = (.done, s.clearBlob ⟨index, hid⟩) := dif_pos hid
      have hrun : flakyController.clearBlobShortcut index = _ :=
        if_neg (not_gt_maxIndex ⟨index, hid⟩)
      refine wp_silently ?_
      change wp (flakyController.clearBlobShortcut index) _ _ b
      rw [hrun]
      refine wp_mono (flaky_write_cut h (f := .blobLength ⟨index, hid⟩) rfl 0) ?_ ?_
      · exact fun _ t ht => ht.answered (by rw [hserve]; exact hb.set_blobLength rfl)
          (by rw [hserve]; rfl) (by rw [hserve]; rfl)
      · exact fun t ht => .inr (ht.lost hb)
    · exact refused_of_gt h hb hid (dif_neg hid)
  | getBlobLength index =>
    by_cases hid : index ≤ kLayerBMaxIndex
    · have hserve : s.serve (.getBlobLength index) =
          (.value (UInt8.ofNat (s.blobs ⟨index, hid⟩).1.length), s) := dif_pos hid
      have hrun : flakyController.getBlobShortcutLength index = _ :=
        if_neg (not_gt_maxIndex ⟨index, hid⟩)
      refine wp_outputting ?_
      change wp (flakyController.getBlobShortcutLength index) _ _ b
      rw [hrun]
      refine wp_mono (flaky_read_cut h (f := .blobLength ⟨index, hid⟩) rfl) ?_ ?_
      · rintro x t ⟨rfl, ht⟩
        refine ht.answered (by rw [hserve]; exact hb) (by rw [hserve]; rfl) ?_
        rw [hserve, ← hb.blobLength ⟨index, hid⟩, UInt8.ofNat_toNat]
        rfl
      · exact fun t ht => .inr (ht.lost hb)
    · have hserve : s.serve (.getBlobLength index) = (.rejected, s) := dif_neg hid
      have hdone : Done b.view b := ⟨rfl, h⟩
      refine wp_of_none (t := b) ?_ (.inl (hdone.refused (by rw [hserve]; exact hb)
        (by rw [hserve]; rfl)))
      change outputting (if index > kLayerBMaxIndex then _ else _) b = _
      rw [if_pos (UInt8.not_le.mp hid)]
      rfl
  | sendBlob index =>
    by_cases hid : index ≤ kLayerBMaxIndex
    · exact wp_silently (sendBlob_cut h hb ⟨index, hid⟩)
    · exact refused_of_gt h hb hid (dif_neg hid)

end Requests

section Lost

theorem fated_dead {α : Type} {y : Action Bench α} {z : Option UInt8 → Action Bench α}
    (hz : ∀ t, Cut v t → Cut v (z none t).2) : Keeps (Cut v) (do match ← nextFate with
      | .succeed => y
      | .fail residue => z residue) := by
  intro t ht
  have hfate : t.fates 0 ≠ .succeed := by simp [ht.dead 0]
  have hnext : Cut v t.popFate := ⟨ht.view, fun n => ht.dead (n + 1)⟩
  simp only [nextFate, bind_assoc, gets_bind, modify_bind, pure_bind, ht.dead 0]
  exact hz _ hnext

theorem external_read_dead (chip : Chip) (offset : UInt16) :
    Keeps (Cut v) ((externalEeprom chip).readByte offset) := fated_dead fun _ ht => ht

theorem external_write_dead (chip : Chip) (offset : UInt16) (x : UInt8) :
    Keeps (Cut v) ((externalEeprom chip).writeByte offset x) :=
  fated_dead fun _ ht => ⟨ht.view, ht.dead⟩

theorem flaky_read_dead (offset : UInt16) : Keeps (Cut v) (flakyInternalEeprom.readByte offset) :=
  fated_dead fun _ ht => ht

theorem flaky_write_dead (offset : UInt16) (x : UInt8) :
    Keeps (Cut v) (flakyInternalEeprom.writeByte offset x) :=
  fated_dead fun _ ht => ⟨ht.view, ht.dead⟩

theorem sendKeypress_dead (key mod : UInt8) :
    Keeps (Cut v) (usbController.sendKeypress key mod) :=
  Keeps.bind (fun _ ht => ⟨ht.view, ht.dead⟩) fun _ => fated_dead fun _ ht => ht

theorem sendWordCharacter_dead (id code length : UInt8) (i : ℕ) :
    Keeps (Cut v) (flakyController.sendWordCharacter id code length i) := by
  refine (external_read_dead _ _).bind fun character => Keeps.ite ?_ (Keeps.ite ?_ ?_)
  · exact sendKeypress_dead _ _
  · exact (sendKeypress_dead _ _).bind fun _ => sendKeypress_dead _ _
  · exact sendKeypress_dead _ _

theorem sendBlobPair_dead (id : UInt8) (i : ℕ) :
    Keeps (Cut v) (flakyController.sendBlobPair id i) := by
  simp only [StorageController.sendBlobPair, flaky_blobEeprom_eq]
  refine (external_read_dead _ _).bind fun _ => ?_
  exact (external_read_dead _ _).bind fun _ => sendKeypress_dead _ _

theorem getBlobLength_dead (index : UInt8) :
    Keeps (Cut v) (flakyController.getBlobShortcutLength index) :=
  Keeps.ite Keeps.stop (flaky_read_dead _)

theorem appendToBlob_dead (index key mod : UInt8) :
    Keeps (Cut v) (flakyController.appendToBlobShortcut index key mod) := by
  rw [StorageController.appendToBlobShortcut, flaky_blobEeprom_eq]
  refine Keeps.ite Keeps.stop ((getBlobLength_dead index).bind fun length => ?_)
  refine Keeps.ite Keeps.stop ((external_write_dead _ _ _).bind fun _ => ?_)
  exact (external_write_dead _ _ _).bind fun _ => flaky_write_dead _ _

theorem request_dead (r : Request) : Keeps (Cut v) (r.run flakyController.methods) := by
  cases r with
  | setCharacter index character => exact (flaky_write_dead _ _).bind fun _ => Keeps.pure _
  | getCharacter index => exact (flaky_read_dead _).bind fun _ => Keeps.pure _
  | appendToWord index character =>
    refine Keeps.bind ((flaky_read_dead _).bind fun length => ?_) fun _ => Keeps.pure _
    exact Keeps.ite Keeps.stop ((external_write_dead _ _ _).bind fun _ => flaky_write_dead _ _)
  | clearWord index => exact (flaky_write_dead _ _).bind fun _ => Keeps.pure _
  | getWordLength index => exact (flaky_read_dead _).bind fun _ => Keeps.pure _
  | sendWord index rawModCode =>
    refine Keeps.bind ((flaky_read_dead _).bind fun length => ?_) fun _ => Keeps.pure _
    exact Keeps.ite Keeps.stop (Keeps.forM (sendWordCharacter_dead index rawModCode length) _)
  | appendToBlob index character modcode =>
    exact (appendToBlob_dead index character modcode).bind fun _ => Keeps.pure _
  | clearBlob index =>
    exact Keeps.bind (Keeps.ite Keeps.stop (flaky_write_dead _ _)) fun _ => Keeps.pure _
  | getBlobLength index => exact (getBlobLength_dead index).bind fun _ => Keeps.pure _
  | sendBlob index =>
    refine Keeps.bind (Keeps.ite Keeps.stop ((getBlobLength_dead index).bind fun length => ?_))
      fun _ => Keeps.pure _
    exact Keeps.ite Keeps.stop (Keeps.forM (sendBlobPair_dead index) _)

end Lost

end Bench

end Threeboard.Storage
