import Threeboard.Storage.Operations

namespace Threeboard.Storage

open Actions Actions.Action Records StorageController

def wordKeys (code : UInt8) (length i : ℕ) (character : UInt8) : List (UInt8 × UInt8) :=
  if code = WordModCode.uppercase ∨ code = WordModCode.capitalise ∧ i = 0 then [(character, 2)]
  else if i = length - 1 ∧ appendKeycode code > 0 then [(character, 0), (appendKeycode code, 0)]
  else [(character, 0)]

def wordKeypresses (code : UInt8) (word : List UInt8) : List (UInt8 × UInt8) :=
  word.zipIdx.flatMap fun p => wordKeys code word.length p.2 p.1

theorem wordKeypresses_lowercase (word : List UInt8) :
    wordKeypresses WordModCode.lowercase word = word.map fun c => (c, 0) := by
  have hkeys : ∀ n i c, wordKeys WordModCode.lowercase n i c = [(c, 0)] := by
    intro n i c
    have h : ¬ appendKeycode WordModCode.lowercase > 0 := by decide
    have hu : ¬ (WordModCode.lowercase = WordModCode.uppercase ∨
        WordModCode.lowercase = WordModCode.capitalise ∧ i = 0) := by
      simp [WordModCode.lowercase, WordModCode.uppercase, WordModCode.capitalise]
    rw [wordKeys, if_neg hu, if_neg fun hh => h hh.2]
  simp only [wordKeypresses, hkeys]
  rw [← List.map_eq_flatMap, ← List.zipIdx_map_fst 0 word, List.map_map]
  simp [Function.comp_def]

namespace Bench

variable {b : Bench} {s : Shortcuts}

structure Sending (b t : Bench) : Prop where
  view : t.view = b.view
  calm : b.Calm → t.Calm

structure Broken (b t : Bench) : Prop where
  view : t.view = b.view
  storm : ¬ b.Calm

theorem Sending.refl (b : Bench) : Sending b b := ⟨rfl, id⟩

theorem send_step {t : Bench} (h : Sending b t) (key mod : UInt8) :
    wp (controller.usbController.sendKeypress key mod)
      (fun _ u => Sending b u ∧ u.keypresses = t.keypresses ++ [(key, mod)])
      (fun u => Broken b u ∧ u.keypresses = t.keypresses ++ [(key, mod)]) t := by
  refine wp_mono (sendKeypress_spec key mod t) ?_ ?_
  · rintro - u ⟨hv, hc, hk⟩
    exact ⟨⟨hv.trans h.view, hc ∘ h.calm⟩, hk⟩
  · rintro u ⟨hv, hc, hk⟩
    exact ⟨⟨hv.trans h.view, mt h.calm hc⟩, hk⟩

theorem read_step {t : Bench} (h : Sending b t) {f : Cell} {chip : Chip} {offset : UInt16}
    (haddr : f.address = (chip, offset)) : wp ((externalEeprom chip).readByte offset)
      (fun x u => x = b.view f ∧ Sending b u ∧ u.keypresses = t.keypresses)
      (fun u => Broken b u ∧ u.keypresses = t.keypresses) t := by
  refine wp_mono (external_read haddr t) ?_ ?_
  · rintro x u ⟨hx, hu⟩
    exact ⟨by rw [hx, h.view], ⟨hu.view.trans h.view, hu.calm ∘ h.calm⟩, hu.keypresses⟩
  · rintro u ⟨hc, hu⟩
    exact ⟨⟨hu.view.trans h.view, mt h.calm hc⟩, hu.keypresses⟩

theorem nothing_appended {code length : UInt8} {i : ℕ}
    (h : ¬ (i = length.toNat - 1 ∧ appendKeycode code > 0)) :
    ¬ (if i = length.toNat - 1 then appendKeycode code else 0) > 0 := by
  split
  · exact fun hpos => h ⟨‹_›, hpos⟩
  · decide

theorem sendWordCharacter_spec {t : Bench} (h : Sending b t) (id code length : UInt8) {i : ℕ}
    (hi : i < 16) : wp (controller.sendWordCharacter id code length i)
      (fun _ u => Sending b u ∧ u.keypresses =
        t.keypresses ++ wordKeys code length.toNat i (b.view (wordSlot id i)))
      (fun u => Broken b u ∧ ∃ issued,
        issued <+: wordKeys code length.toNat i (b.view (wordSlot id i)) ∧
          u.keypresses = t.keypresses ++ issued) t := by
  unfold StorageController.sendWordCharacter
  rw [wp_bind]
  refine wp_mono (read_step h (wordChar_address id hi)) ?_ ?_
  · rintro x u ⟨rfl, hu, hk⟩
    rw [← hk]
    simp only [wordKeys]
    by_cases hshift : code = WordModCode.uppercase ∨ code = WordModCode.capitalise ∧ i = 0
    · simp only [if_pos hshift]
      exact wp_mono (send_step hu _ _) (fun _ _ h => h)
        (fun _ h => ⟨h.1, _, List.prefix_rfl, h.2⟩)
    · simp only [if_neg hshift]
      by_cases happend : i = length.toNat - 1 ∧ appendKeycode code > 0
      · simp only [if_pos happend, if_pos happend.1, if_pos happend.2, wp_bind]
        refine wp_mono (send_step hu _ _) ?_ ?_
        · rintro - w ⟨hw, hkw⟩
          refine wp_mono (send_step hw _ _) ?_ ?_
          · rintro - y ⟨hy, hky⟩
            exact ⟨hy, by rw [hky, hkw]; simp⟩
          · rintro y ⟨hy, hky⟩
            exact ⟨hy, _, List.prefix_rfl, by rw [hky, hkw]; simp⟩
        · rintro w ⟨hw, hkw⟩
          exact ⟨hw, _, by simp, hkw⟩
      · have hzero := nothing_appended happend
        simp only [if_neg happend, if_neg hzero]
        exact wp_mono (send_step hu _ _) (fun _ _ h => h)
          (fun _ h => ⟨h.1, _, List.prefix_rfl, h.2⟩)
  · rintro u ⟨hu, hk⟩
    exact ⟨hu, [], List.nil_prefix, by rw [hk, List.append_nil]⟩

theorem sendBlobPair_spec {t : Bench} (h : Sending b t) (id : BlobId) {i : ℕ} (hi : i < 256) :
    wp (controller.sendBlobPair id.1 i)
      (fun _ u => Sending b u ∧ u.keypresses = t.keypresses ++
        [(b.view (.blobKey id (UInt8.ofNat i)), b.view (.blobMod id (UInt8.ofNat i)))])
      (fun u => Broken b u ∧ ∃ issued, issued <+:
        [(b.view (.blobKey id (UInt8.ofNat i)), b.view (.blobMod id (UInt8.ofNat i)))] ∧
          u.keypresses = t.keypresses ++ issued) t := by
  have stopped : ∀ {u w : Bench}, u.keypresses = t.keypresses →
      Broken b w ∧ w.keypresses = u.keypresses → Broken b w ∧ ∃ issued, issued <+:
        [(b.view (.blobKey id (UInt8.ofNat i)), b.view (.blobMod id (UInt8.ofNat i)))] ∧
          w.keypresses = t.keypresses ++ issued :=
    fun hu hw => ⟨hw.1, [], List.nil_prefix, by rw [hw.2, hu, List.append_nil]⟩
  simp only [StorageController.sendBlobPair, blobEeprom_eq, wp_bind]
  refine wp_mono (read_step h (blobKey_address id hi)) ?_ (fun u hu => stopped rfl hu)
  rintro x u ⟨rfl, hu, hku⟩
  refine wp_mono (read_step hu (blobMod_address id hi)) ?_ (fun w hw => stopped hku hw)
  rintro y w ⟨rfl, hw, hkw⟩
  rw [← hku, ← hkw]
  exact wp_mono (send_step hw _ _) (fun _ _ h => h) (fun _ h => ⟨h.1, _, List.prefix_rfl, h.2⟩)

theorem wordKeypresses_contents (b : Bench) (id code : UInt8) :
    wordKeypresses code (wordContents b.view id) =
      (List.range (b.view (.wordLength id)).toNat).flatMap fun i =>
        wordKeys code (b.view (.wordLength id)).toNat i (b.view (wordSlot id i)) := by
  rw [wordKeypresses, wordContents, contents_zipIdx, contents_length, List.flatMap_map]

theorem sendWordShortcut_spec (h : Represents b.view s) (id code : UInt8) :
    wp (controller.sendWordShortcut id code)
      (fun _ t => (s.words id).1 ≠ [] ∧ Sending b t ∧
        t.keypresses = b.keypresses ++ wordKeypresses code (s.words id).1)
      (fun t => (b.Calm → (s.words id).1 = [] ∧ t.keypresses = b.keypresses) ∧
        Sending b t ∧ ∃ issued, issued <+: wordKeypresses code (s.words id).1 ∧
          t.keypresses = b.keypresses ++ issued) b := by
  unfold StorageController.sendWordShortcut
  rw [wp_bind]
  refine wp_of_some (getWordShortcutLength_view b id) ?_
  have hle := h.wordLength_le id
  have hnil : b.view (.wordLength id) = 0 ↔ (s.words id).1 = [] := by
    rw [← List.length_eq_zero_iff, ← h.wordLength id, ← UInt8.toNat_inj]
    rfl
  by_cases hzero : b.view (.wordLength id) = 0
  · rw [if_pos hzero]
    exact ⟨fun _ => ⟨hnil.mp hzero, rfl⟩, Sending.refl b, [], List.nil_prefix, by simp⟩
  · rw [if_neg hzero, ← h.word id, wordKeypresses_contents]
    have hround : ∀ i ∈ List.range (b.view (.wordLength id)).toNat, ∀ t, Sending b t → _ :=
      fun i hi t ht => sendWordCharacter_spec ht id code (b.view (.wordLength id))
        (i := i) (by have := List.mem_range.mp hi; omega)
    refine wp_mono (wp_forM_log Bench.keypresses hround b (Sending.refl b)) ?_ ?_
    · rintro - t ⟨ht, hk⟩
      exact ⟨by rw [h.word id]; exact mt hnil.mpr hzero, ht, hk⟩
    · rintro t ⟨ht, hissued⟩
      exact ⟨fun hc => (ht.storm hc).elim, ⟨ht.view, fun hc => (ht.storm hc).elim⟩, hissued⟩

theorem sendBlobShortcut_spec (h : Represents b.view s) (id : BlobId) :
    wp (controller.sendBlobShortcut id.1)
      (fun _ t => (s.blobs id).1 ≠ [] ∧ Sending b t ∧
        t.keypresses = b.keypresses ++ (s.blobs id).1)
      (fun t => (b.Calm → (s.blobs id).1 = [] ∧ t.keypresses = b.keypresses) ∧
        Sending b t ∧ ∃ issued, issued <+: (s.blobs id).1 ∧
          t.keypresses = b.keypresses ++ issued) b := by
  rw [StorageController.sendBlobShortcut, if_neg (not_gt_maxIndex id), wp_bind]
  refine wp_of_some (getBlobShortcutLength_view b id) ?_
  have hnil : b.view (.blobLength id) = 0 ↔ (s.blobs id).1 = [] := by
    rw [← List.length_eq_zero_iff, ← h.blobLength id, ← UInt8.toNat_inj]
    rfl
  by_cases hzero : b.view (.blobLength id) = 0
  · rw [if_pos hzero]
    exact ⟨fun _ => ⟨hnil.mp hzero, rfl⟩, Sending.refl b, [], List.nil_prefix, by simp⟩
  · have hlt := (b.view (.blobLength id)).toNat_lt
    have hpairs : (s.blobs id).1 = (List.range (b.view (.blobLength id)).toNat).flatMap fun i =>
        [(b.view (.blobKey id (UInt8.ofNat i)), b.view (.blobMod id (UInt8.ofNat i)))] := by
      rw [← h.blob id, blobContents, contents, List.map_eq_flatMap]
    rw [if_neg hzero]
    have hround : ∀ i ∈ List.range (b.view (.blobLength id)).toNat, ∀ t, Sending b t → _ :=
      fun i hi t ht => sendBlobPair_spec ht id
        (i := i) (by have := List.mem_range.mp hi; omega)
    refine wp_mono (wp_forM_log Bench.keypresses hround b (Sending.refl b)) ?_ ?_
    · rintro - t ⟨ht, hk⟩
      exact ⟨mt hnil.mpr hzero, ht, by rw [hk, ← hpairs]⟩
    · rintro t ⟨ht, hissued⟩
      rw [← hpairs] at hissued
      exact ⟨fun hc => (ht.storm hc).elim, ⟨ht.view, fun hc => (ht.storm hc).elim⟩, hissued⟩

end Bench

end Threeboard.Storage
