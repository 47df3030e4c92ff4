import Threeboard.Storage.Specs

namespace Threeboard.Storage

open Actions Actions.Action Records StorageController

variable {b : Bench} {s : Shortcuts}

theorem toNat_lt_of_ne_max {x : UInt8} (h : x ≠ 255) : x.toNat < 255 := by
  have hle := x.toNat_lt
  rw [ne_eq, ← UInt8.toNat_inj] at h
  simp only [UInt8.reduceToNat] at h
  omega

theorem toNat_succ {x : UInt8} (h : x.toNat < 255) : (x + 1).toNat = x.toNat + 1 := by
  rw [UInt8.toNat_add, Nat.mod_eq_of_lt (by simp; omega)]
  rfl

namespace Bench

structure Becomes (b : Bench) (s : Shortcuts) (t : Bench) : Prop where
  represents : Represents t.view s
  keypresses : t.keypresses = b.keypresses
  calm : b.Calm → t.Calm

theorem After.becomes {v : Cell → UInt8} {t : Bench} (h : After b v t) (hv : Represents v s) :
    Becomes b s t :=
  ⟨by rw [h.view]; exact hv, h.keypresses, h.calm⟩

theorem setCharacterShortcut_spec (h : Represents b.view s) (id x : UInt8) :
    wp (controller.setCharacterShortcut id x) (fun _ t => Becomes b (s.setCharacter id x) t)
      (fun _ => False) b :=
  wp_mono (internal_write (f := .character id) rfl x b)
    (fun _ _ ht => ht.becomes (h.set_character id x)) (fun _ hf => hf)

theorem getCharacterShortcut_run (h : Represents b.view s) (id : UInt8) :
    controller.getCharacterShortcut id b = (some (s.characters id), b) := by
  rw [← h.character id]
  exact internal_read (f := .character id) rfl b

theorem getWordShortcutLength_view (b : Bench) (id : UInt8) :
    controller.getWordShortcutLength id b = (some (b.view (.wordLength id)), b) :=
  internal_read (f := .wordLength id) rfl b

theorem getWordShortcutLength_run (h : Represents b.view s) (id : UInt8) :
    controller.getWordShortcutLength id b =
      (some (UInt8.ofNat (s.words id).1.length), b) := by
  rw [getWordShortcutLength_view, ← h.wordLength id, UInt8.ofNat_toNat]

theorem clearWordShortcut_spec (h : Represents b.view s) (id : UInt8) :
    wp (controller.clearWordShortcut id) (fun _ t => Becomes b (s.clearWord id) t)
      (fun _ => False) b :=
  wp_mono (internal_write (f := .wordLength id) rfl 0 b)
    (fun _ _ ht => ht.becomes (h.set_wordLength rfl)) (fun _ hf => hf)

theorem wordChar_address (id : UInt8) {k : ℕ} (h : k < 16) :
    (wordSlot id k).address = (.eeprom0, wordOffset id k) := by
  simp only [wordSlot, Cell.address, Fin.ofNat, Nat.mod_eq_of_lt h]

theorem represents_appendWord (h : Represents b.view s) (id x : UInt8) (hfull : ¬ s.wordFull id) :
    Represents (Function.update (Function.update b.view
      (wordSlot id (b.view (.wordLength id)).toNat) x) (.wordLength id)
        (b.view (.wordLength id) + 1)) (s.appendWord id x hfull) := by
  have hle := h.wordLength_le id
  have hne : b.view (.wordLength id) ≠ 15 := mt (h.wordFull_iff id).mpr hfull
  have hlt : (b.view (.wordLength id)).toNat < 15 := by
    rw [ne_eq, ← UInt8.toNat_inj] at hne
    exact lt_of_le_of_ne hle hne
  refine (h.spoil_word (le_refl _) (by omega) x).set_wordLength ?_
  rw [toNat_succ (by omega)]
  change contents (_ + 1) _ = (s.words id).1 ++ [x]
  rw [← h.word id, wordContents]
  refine contents_push (fun k hk => Function.update_of_ne ?_ _ _) (Function.update_self _ _ _)
  exact wordSlot_ne (by omega) (by omega) (by omega)

theorem appendToWordShortcut_spec (h : Represents b.view s) (id x : UInt8) :
    wp (controller.appendToWordShortcut id x)
      (fun _ t => ∃ hfull : ¬ s.wordFull id, Becomes b (s.appendWord id x hfull) t)
      (fun t => (b.Calm → s.wordFull id) ∧ Becomes b s t) b := by
  unfold StorageController.appendToWordShortcut
  rw [wp_bind]
  refine wp_of_some (getWordShortcutLength_view b id) ?_
  have hle := h.wordLength_le id
  by_cases hfull : s.wordFull id
  · rw [if_pos ((h.wordFull_iff id).mp hfull)]
    exact ⟨fun _ => hfull, (After.refl b).becomes h⟩
  · rw [if_neg (mt (h.wordFull_iff id).mpr hfull), wp_bind]
    have haddr := wordChar_address id (k := (b.view (.wordLength id)).toNat) (by omega)
    refine wp_mono (external_write haddr x b) ?_ ?_
    · rintro - t ht
      refine wp_mono (internal_write (f := .wordLength id) rfl (b.view (.wordLength id) + 1) t)
        (fun _ u hu => ⟨hfull, ?_⟩) (fun _ hf => hf.elim)
      refine (ht.trans hu).becomes ?_
      rw [ht.view]
      exact represents_appendWord h id x hfull
    · rintro t ⟨hcalm, y, hy⟩
      exact ⟨fun hc => (hcalm hc).elim,
        hy.becomes (h.spoil_word (le_refl _) (by omega) y)⟩

theorem not_gt_maxIndex (id : BlobId) : ¬ id.1 > kLayerBMaxIndex := UInt8.not_lt.mpr id.2

theorem getBlobShortcutLength_view (b : Bench) (id : BlobId) :
    controller.getBlobShortcutLength id.1 b = (some (b.view (.blobLength id)), b) := by
  rw [StorageController.getBlobShortcutLength, if_neg (not_gt_maxIndex id)]
  exact internal_read (f := .blobLength id) rfl b

theorem getBlobShortcutLength_run (h : Represents b.view s) (id : BlobId) :
    controller.getBlobShortcutLength id.1 b =
      (some (UInt8.ofNat (s.blobs id).1.length), b) := by
  rw [getBlobShortcutLength_view, ← h.blobLength id, UInt8.ofNat_toNat]

theorem clearBlobShortcut_spec (h : Represents b.view s) (id : BlobId) :
    wp (controller.clearBlobShortcut id.1) (fun _ t => Becomes b (s.clearBlob id) t)
      (fun _ => False) b := by
  rw [StorageController.clearBlobShortcut, if_neg (not_gt_maxIndex id)]
  exact wp_mono (internal_write (f := .blobLength id) rfl 0 b)
    (fun _ _ ht => ht.becomes (h.set_blobLength rfl)) (fun _ hf => hf)

theorem blobEeprom_eq (index : UInt8) :
    controller.blobEeprom index = externalEeprom (blobChip index) := by
  simp only [blobEeprom, blobChip, controller]
  split <;> rfl

theorem blobKey_address (id : BlobId) {k : ℕ} (h : k < 256) :
    (Cell.blobKey id (UInt8.ofNat k)).address = (blobChip id.1, blobOffset id.1 k) := by
  rw [Cell.address, UInt8.toNat_ofNat', Nat.mod_eq_of_lt h]

theorem blobMod_address (id : BlobId) {k : ℕ} (h : k < 256) :
    (Cell.blobMod id (UInt8.ofNat k)).address = (blobChip id.1, blobOffset id.1 k + 1) := by
  rw [Cell.address, UInt8.toNat_ofNat', Nat.mod_eq_of_lt h]

theorem represents_appendBlob (h : Represents b.view s) (id : BlobId) (key mod : UInt8)
    (hfull : ¬ s.blobFull id) {k : ℕ} (hk : k = (b.view (.blobLength id)).toNat) :
    Represents (Function.update (Function.update (Function.update b.view
      (.blobKey id (UInt8.ofNat k)) key) (.blobMod id (UInt8.ofNat k)) mod) (.blobLength id)
        (b.view (.blobLength id) + 1)) (s.appendBlob id (key, mod) hfull) := by
  have hlt : k < 255 := hk ▸ toNat_lt_of_ne_max (mt (h.blobFull_iff id).mpr hfull)
  have hkey := h.spoil_blobKey hk.ge (by omega) key
  have hlen : (b.view (.blobLength id)).toNat ≤ k := hk.ge
  refine (hkey.spoil_blobMod (by simpa using hlen) (by omega) mod).set_blobLength ?_
  rw [toNat_succ (by omega), ← hk]
  change contents (k + 1) _ = (s.blobs id).1 ++ [(key, mod)]
  rw [← h.blob id, blobContents, ← hk]
  refine contents_push (fun j hj => ?_) (by simp)
  have hne := blobSlot_ne (k := j) (l := k) (by omega) (by omega) (by omega)
  simp [hne]

theorem appendToBlobShortcut_spec (h : Represents b.view s) (id : BlobId) (key mod : UInt8) :
    wp (controller.appendToBlobShortcut id.1 key mod)
      (fun _ t => ∃ hfull : ¬ s.blobFull id, Becomes b (s.appendBlob id (key, mod) hfull) t)
      (fun t => (b.Calm → s.blobFull id) ∧ Becomes b s t) b := by
  rw [StorageController.appendToBlobShortcut, if_neg (not_gt_maxIndex id), wp_bind]
  refine wp_of_some (getBlobShortcutLength_view b id) ?_
  by_cases hfull : s.blobFull id
  · rw [if_pos ((h.blobFull_iff id).mp hfull)]
    exact ⟨fun _ => hfull, (After.refl b).becomes h⟩
  · rw [if_neg (mt (h.blobFull_iff id).mpr hfull), blobEeprom_eq]
    simp only [wp_bind]
    obtain ⟨k, hk⟩ : ∃ k, k = (b.view (.blobLength id)).toNat := ⟨_, rfl⟩
    have hlt : k < 256 := hk ▸ (b.view (.blobLength id)).toNat_lt
    rw [← hk]
    have spoiled : ∀ y, Represents (Function.update b.view (.blobKey id (UInt8.ofNat k)) y) s :=
      fun y => h.spoil_blobKey hk.ge hlt y
    refine wp_mono (external_write (blobKey_address id hlt) key b) ?_ ?_
    · rintro - t ht
      refine wp_mono (external_write (blobMod_address id hlt) mod t) ?_ ?_
      · rintro - u hu
        refine wp_mono (internal_write (f := .blobLength id) rfl (b.view (.blobLength id) + 1) u)
          (fun _ w hw => ⟨hfull, ?_⟩) (fun _ hf => hf.elim)
        refine ((ht.trans hu).trans hw).becomes ?_
        rw [hu.view, ht.view]
        exact represents_appendBlob h id key mod hfull hk
      · rintro u ⟨hcalm, y, hy⟩
        refine ⟨fun hc => (hcalm (ht.calm hc)).elim, (ht.trans hy).becomes ?_⟩
        rw [ht.view]
        exact (spoiled key).spoil_blobMod (by simpa using hk.ge) hlt y
    · rintro t ⟨hcalm, y, hy⟩
      exact ⟨fun hc => (hcalm hc).elim, hy.becomes (spoiled y)⟩

end Bench

end Threeboard.Storage
