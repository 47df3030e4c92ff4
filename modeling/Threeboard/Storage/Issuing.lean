import Threeboard.Storage.Requests

namespace Threeboard.Storage

open Actions Actions.Action Records StorageController

variable {σ : Type}

def StorageController.eeprom (c : StorageController σ) : Chip → Eeprom σ
  | .internal => c.internalEeprom
  | .eeprom0 => c.externalEeprom0
  | .eeprom1 => c.externalEeprom1

-- A controller that reads what is stored for sure, over a host that may or may not take a keypress:
-- `I` holds as long as it does, `J` afterwards. Each keypress that the host is asked to take is logged.
structure Issues (c : StorageController σ) (log : σ → List (UInt8 × UInt8)) (I J : σ → Prop)
    (v : Cell → UInt8) : Prop where
  read : ∀ {f : Cell} {chip : Chip} {offset : UInt16}, f.address = (chip, offset) → ∀ t, I t →
    wp ((c.eeprom chip).readByte offset) (fun x u => x = v f ∧ I u ∧ log u = log t)
      (fun _ => False) t
  send : ∀ key mod t, I t → wp (c.usbController.sendKeypress key mod)
    (fun _ u => I u ∧ log u = log t ++ [(key, mod)])
    (fun u => J u ∧ log u = log t ++ [(key, mod)]) t

def Issued (log : σ → List (UInt8 × UInt8)) (I J : σ → Prop) (keypresses : List (UInt8 × UInt8))
    (t u : σ) : Prop :=
  (I u ∧ log u = log t ++ keypresses) ∨
    J u ∧ ∃ issued, issued <+: keypresses ∧ log u = log t ++ issued

namespace Issues

variable {c : StorageController σ} {log : σ → List (UInt8 × UInt8)} {I J : σ → Prop}
  {v : Cell → UInt8} {s : Shortcuts} {t : σ}

theorem blobEeprom_eq (c : StorageController σ) (index : UInt8) :
    c.blobEeprom index = c.eeprom (blobChip index) := by
  simp only [blobEeprom, blobChip]
  split <;> rfl

theorem issued_of_wp {x : Action σ Unit} {keypresses : List (UInt8 × UInt8)}
    (h : wp x (fun _ => Issued log I J keypresses t) (Issued log I J keypresses t) t) :
    Issued log I J keypresses t (x t).2 := by
  rcases hx : x t with ⟨_ | _, u⟩
  · exact wp_none h hx
  · exact wp_some (Q := fun _ => Issued log I J keypresses t) h hx

variable (h : Issues c log I J v)

include h

theorem sendKeypress (ht : I t) (key mod : UInt8) : wp (c.usbController.sendKeypress key mod)
    (fun _ u => I u ∧ log u = log t ++ [(key, mod)])
    (fun u => J u ∧ ∃ issued, issued <+: [(key, mod)] ∧ log u = log t ++ issued) t :=
  wp_mono (h.send key mod t ht) (fun _ _ hu => hu) fun _ hu => ⟨hu.1, _, List.prefix_rfl, hu.2⟩

theorem sendWordCharacter (ht : I t) (id code length : UInt8) {i : ℕ} (hi : i < 16) :
    wp (c.sendWordCharacter id code length i)
      (fun _ u => I u ∧ log u = log t ++ wordKeys code length.toNat i (v (wordSlot id i)))
      (fun u => J u ∧ ∃ issued, issued <+: wordKeys code length.toNat i (v (wordSlot id i)) ∧
        log u = log t ++ issued) t := by
  rw [StorageController.sendWordCharacter, wp_bind]
  refine wp_mono (h.read (Bench.wordChar_address id hi) t ht) ?_ fun _ hf => hf.elim
  rintro x u ⟨rfl, hu, hlog⟩
  rw [← hlog, wordKeys]
  by_cases hshift : code = WordModCode.uppercase ∨ code = WordModCode.capitalise ∧ i = 0
  · rw [if_pos hshift, if_pos hshift]
    exact h.sendKeypress hu _ _
  · rw [if_neg hshift, if_neg hshift]
    by_cases happend : i = length.toNat - 1 ∧ appendKeycode code > 0
    · simp only [if_pos happend, if_pos happend.1, if_pos happend.2, wp_bind]
      refine wp_mono (h.send _ _ u hu) ?_ ?_
      · rintro - w ⟨hw, hfirst⟩
        refine wp_mono (h.send _ _ w hw) ?_ ?_
        · rintro - y ⟨hy, hsecond⟩
          exact ⟨hy, by rw [hsecond, hfirst, List.append_assoc]; rfl⟩
        · rintro y ⟨hy, hsecond⟩
          exact ⟨hy, _, List.prefix_rfl, by rw [hsecond, hfirst, List.append_assoc]; rfl⟩
      · rintro w ⟨hw, hfirst⟩
        exact ⟨hw, [_], by simp, hfirst⟩
    · have hzero := Bench.nothing_appended happend
      simp only [if_neg happend, if_neg hzero]
      exact h.sendKeypress hu _ _

theorem internal {f : Cell} {offset : UInt16} (haddr : f.address = (.internal, offset)) (ht : I t) :
    wp (c.internalEeprom.readByte offset) (fun x u => x = v f ∧ I u ∧ log u = log t)
      (fun _ => False) t := h.read haddr t ht

theorem sendBlobPair (ht : I t) (id : BlobId) {i : ℕ} (hi : i < 256) :
    wp (c.sendBlobPair id.1 i)
      (fun _ u => I u ∧ log u = log t ++
        [(v (.blobKey id (UInt8.ofNat i)), v (.blobMod id (UInt8.ofNat i)))])
      (fun u => J u ∧ ∃ issued, issued <+:
        [(v (.blobKey id (UInt8.ofNat i)), v (.blobMod id (UInt8.ofNat i)))] ∧
          log u = log t ++ issued) t := by
  simp only [StorageController.sendBlobPair, blobEeprom_eq, wp_bind]
  refine wp_mono (h.read (Bench.blobKey_address id hi) t ht) ?_ fun _ hf => hf.elim
  rintro x u ⟨rfl, hu, hlog⟩
  refine wp_mono (h.read (Bench.blobMod_address id hi) u hu) ?_ fun _ hf => hf.elim
  rintro y w ⟨rfl, hw, hsame⟩
  rw [← hlog, ← hsame]
  exact h.sendKeypress hw _ _

theorem sendWordShortcut (hv : Represents v s) (ht : I t) (id code : UInt8) :
    Issued log I J (wordKeypresses code (s.words id).1) t ((c.sendWordShortcut id code) t).2 := by
  refine issued_of_wp ?_
  have hle := hv.wordLength_le id
  have hkeys : wordKeypresses code (s.words id).1 =
      (List.range (v (.wordLength id)).toNat).flatMap fun i =>
        wordKeys code (v (.wordLength id)).toNat i (v (wordSlot id i)) := by
    rw [← hv.word id, wordKeypresses, wordContents, contents_zipIdx, contents_length,
      List.flatMap_map]
  rw [StorageController.sendWordShortcut, wp_bind]
  refine wp_mono (h.internal (f := .wordLength id) rfl ht) ?_ fun _ hf => hf.elim
  rintro length u ⟨rfl, hu, hlog⟩
  rw [hkeys]
  by_cases hzero : v (.wordLength id) = 0
  · rw [if_pos hzero, hzero]
    exact .inl ⟨hu, hlog.trans (List.append_nil _).symm⟩
  · rw [if_neg hzero]
    have hround : ∀ i ∈ List.range (v (.wordLength id)).toNat, ∀ u, I u → _ := fun i hi u hu =>
      h.sendWordCharacter hu id code (v (.wordLength id)) (i := i)
        (by have := List.mem_range.mp hi; omega)
    have hall := wp_forM_log log hround u hu
    rw [hlog] at hall
    exact wp_mono hall (fun _ _ => .inl) fun _ => .inr

theorem sendBlobShortcut (hv : Represents v s) (ht : I t) (id : BlobId) :
    Issued log I J (s.blobs id).1 t ((c.sendBlobShortcut id.1) t).2 := by
  refine issued_of_wp ?_
  have hlt := (v (.blobLength id)).toNat_lt
  have hkeys : (s.blobs id).1 = (List.range (v (.blobLength id)).toNat).flatMap fun i =>
      [(v (.blobKey id (UInt8.ofNat i)), v (.blobMod id (UInt8.ofNat i)))] := by
    rw [← hv.blob id, blobContents, contents, List.map_eq_flatMap]
  rw [StorageController.sendBlobShortcut, if_neg (Bench.not_gt_maxIndex id), wp_bind,
    StorageController.getBlobShortcutLength, if_neg (Bench.not_gt_maxIndex id)]
  refine wp_mono (h.internal (f := .blobLength id) rfl ht) ?_ fun _ hf => hf.elim
  rintro length u ⟨rfl, hu, hlog⟩
  rw [hkeys]
  by_cases hzero : v (.blobLength id) = 0
  · rw [if_pos hzero, hzero]
    exact .inl ⟨hu, hlog.trans (List.append_nil _).symm⟩
  · rw [if_neg hzero]
    have hround : ∀ i ∈ List.range (v (.blobLength id)).toNat, ∀ u, I u → _ := fun i hi u hu =>
      h.sendBlobPair hu id (i := i) (by have := List.mem_range.mp hi; omega)
    have hall := wp_forM_log log hround u hu
    rw [hlog] at hall
    exact wp_mono hall (fun _ _ => .inl) fun _ => .inr

end Issues

end Threeboard.Storage
