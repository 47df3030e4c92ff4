import Threeboard.Simulator.Loading

namespace Threeboard.Simulator

open Actions Integration Records Storage Updates

def OnChip (chip : Chip) (ws : List (Cell × UInt8)) : Prop := ∀ w ∈ ws, w.1.chip = chip

theorem OnChip.append {chip : Chip} {ws ws' : List (Cell × UInt8)} (h : OnChip chip ws)
    (h' : OnChip chip ws') : OnChip chip (ws ++ ws') := by
  intro w hw
  rcases List.mem_append.mp hw with hw | hw
  · exact h w hw
  · exact h' w hw

theorem OnChip.flatMap {chip : Chip} {out : UInt8 × Text → List (Cell × UInt8)}
    (h : ∀ e, OnChip chip (out e)) (entries : List (UInt8 × Text)) :
    OnChip chip (entries.flatMap out) := by
  intro w hw
  obtain ⟨e, -, hw⟩ := List.mem_flatMap.mp hw
  exact h e w hw

theorem wordWrites_onChip (e : UInt8 × Text) : OnChip .eeprom0 (wordWrites e) := by
  intro w hw
  simp only [wordWrites, List.mem_flatMap, List.mem_singleton] at hw
  obtain ⟨c, -, rfl⟩ := hw
  rfl

theorem blobWrites_onChip (chip : Chip) (e : UInt8 × Text) : OnChip chip (blobWrites chip e) := by
  intro w hw
  rw [blobWrites] at hw
  split at hw
  · rename_i hon
    simp only [pairWrites, List.mem_flatMap, List.mem_cons, List.not_mem_nil, or_false] at hw
    obtain ⟨c, -, rfl | rfl⟩ := hw
    · exact (chip_blobKey _ _).trans hon.2
    · exact (chip_blobMod _ _).trans hon.2
  · simp at hw

section Stages

variable {f : Cell} {v : Cell → UInt8} {file : StateFile}

theorem apply_clear_of_ne {chip : Chip} {ws : List (Cell × UInt8)} (hws : OnChip chip ws)
    (hf : f.chip ≠ chip) : apply ws (clear chip v) f = v f := by
  rw [apply_of_forall_ne, clear_of_ne hf]
  intro w hw heq
  exact hf (heq ▸ hws w hw)

theorem eeprom0Writes_onChip (file : StateFile) : OnChip .eeprom0 (eeprom0Writes file) :=
  (OnChip.flatMap wordWrites_onChip _).append (OnChip.flatMap (blobWrites_onChip _) _)

theorem eeprom1Writes_onChip (file : StateFile) : OnChip .eeprom1 (eeprom1Writes file) :=
  OnChip.flatMap (blobWrites_onChip _) _

theorem loaded_internal (h : f.chip = .internal) :
    loaded file v f = apply (internalWrites file) (clear .internal v) f := by
  simp only [loaded, Function.comp_apply]
  rw [apply_clear_of_ne (eeprom1Writes_onChip file) (by simp [h]),
    apply_clear_of_ne (eeprom0Writes_onChip file) (by simp [h])]

theorem loaded_eeprom0 (h : f.chip = .eeprom0) :
    ∃ u, loaded file v f = apply (eeprom0Writes file) (clear .eeprom0 u) f := by
  simp only [loaded, Function.comp_apply]
  rw [apply_clear_of_ne (eeprom1Writes_onChip file) (by simp [h])]
  exact ⟨_, rfl⟩

end Stages

section Cells

variable {property : JsonProperty} {part : Section property} {v : Cell → UInt8}

theorem apply_characters {id : UInt8} (hv : v (.character id) = 0) :
    apply (part.entries.flatMap characterWrites) v (.character id) =
      (toUsbKeycodes ((part.text id).headD 0)).1 := by
  refine apply_flatMap Prod.fst id (fun e _ hne => ?_) (fun hnone => ?_) fun e he u => ?_
  · simp [characterWrites, hne]
  · rw [Section.text_of_none hnone, hv]
    rfl
  · rw [Section.text_of_some he]
    simp [characterWrites]

theorem apply_wordLengths {id : UInt8} (hv : v (.wordLength id) = 0) :
    apply (part.entries.flatMap wordLengthWrites) v (.wordLength id) =
      UInt8.ofNat (part.text id).length := by
  refine apply_flatMap Prod.fst id (fun e _ hne => ?_) (fun hnone => ?_) fun e he u => ?_
  · simp [wordLengthWrites, hne]
  · rw [Section.text_of_none hnone, hv]
    rfl
  · rw [Section.text_of_some he]
    simp [wordLengthWrites]

theorem apply_blobLengths {id : BlobId} (hv : v (.blobLength id) = 0) :
    apply (part.entries.flatMap blobLengthWrites) v (.blobLength id) =
      UInt8.ofNat (part.text id.1).length := by
  refine apply_flatMap Prod.fst id.1 (fun e _ hne => ?_) (fun hnone => ?_) fun e he u => ?_
  · rw [blobLengthWrites]
    split
    · have hid : (⟨e.1, ‹_›⟩ : BlobId) ≠ id := fun h => hne (congrArg Subtype.val h)
      simpa using hid
    · simp
  · rw [Section.text_of_none hnone, hv]
    rfl
  · rw [Section.text_of_some he, blobLengthWrites, dif_pos id.2]
    simp

theorem apply_words {id : UInt8} {k : ℕ} (hlength : (part.text id).length ≤ 15)
    (hk : k < (part.text id).length) :
    apply (part.entries.flatMap wordWrites) v (wordSlot id k) =
      (toUsbKeycodes (part.text id)[k]).1 := by
  refine apply_flatMap Prod.fst id (fun e _ hne w hw => ?_) (fun hnone => ?_) fun e he u => ?_
  · simp only [wordWrites, List.mem_flatMap, List.mem_singleton] at hw
    obtain ⟨c, -, rfl⟩ := hw
    simp [wordSlot, hne]
  · rw [Section.text_of_none hnone] at hk
    exact absurd hk (Nat.not_lt_zero k)
  · rw [Section.text_of_some he, wordWrites]
    refine apply_zipIdx hk (fun c hc hne w hw => ?_) fun u => Function.update_self _ _ u
    have hslot : c.2 < (part.text id).length := List.snd_lt_of_mem_zipIdx hc
    rw [List.mem_singleton.mp hw]
    exact wordSlot_ne (by omega) (by omega) hne

section Blobs

variable {id : BlobId} {chip : Chip} {k : ℕ}

theorem blobWrites_pair {e : UInt8 × Text} {w : Cell × UInt8} (hw : w ∈ blobWrites chip e) :
    ∃ id : BlobId, id.1 = e.1 ∧ ∃ c, w ∈ pairWrites id c := by
  rw [blobWrites] at hw
  split at hw
  · obtain ⟨c, -, hw⟩ := List.mem_flatMap.mp hw
    exact ⟨_, rfl, c, hw⟩
  · simp at hw

theorem apply_blobs {f : Cell} {g : UInt8 × UInt8 → UInt8} (hchip : blobChip id.1 = chip)
    (hk : k < (part.text id.1).length) (hlength : (part.text id.1).length ≤ 255)
    (hfar : ∀ (id' : BlobId) c, id' ≠ id ∨ UInt8.ofNat c.2 ≠ UInt8.ofNat k →
      ∀ w ∈ pairWrites id' c, w.1 ≠ f)
    (hhere : ∀ c u, apply (pairWrites id (c, k)) u f = g (toUsbKeycodes c)) :
    apply (part.entries.flatMap (blobWrites chip)) v f = g (toUsbKeycodes (part.text id.1)[k]) := by
  refine apply_flatMap Prod.fst id.1 (fun e _ hne w hw => ?_) (fun hnone => ?_) fun e he u => ?_
  · obtain ⟨id', hid', c, hw⟩ := blobWrites_pair hw
    exact hfar id' c (.inl fun h => hne (hid'.symm.trans (congrArg Subtype.val h))) w hw
  · rw [Section.text_of_none hnone] at hk
    exact absurd hk (Nat.not_lt_zero k)
  · rw [Section.text_of_some he, blobWrites, dif_pos ⟨id.2, hchip⟩]
    refine apply_zipIdx hk (fun c hc hne => ?_) fun u => hhere _ u
    have hslot : c.2 < (part.text id.1).length := List.snd_lt_of_mem_zipIdx hc
    exact hfar id c (.inr (blobSlot_ne (by omega) (by omega) hne))

theorem apply_blobKeys (hchip : blobChip id.1 = chip) (hk : k < (part.text id.1).length)
    (hlength : (part.text id.1).length ≤ 255) :
    apply (part.entries.flatMap (blobWrites chip)) v (.blobKey id (UInt8.ofNat k)) =
      (toUsbKeycodes (part.text id.1)[k]).1 := by
  refine apply_blobs (g := Prod.fst) hchip hk hlength (fun id' c hfar w hw => ?_) fun c u => ?_
  · simp only [pairWrites, List.mem_cons, List.not_mem_nil, or_false] at hw
    rcases hw with rfl | rfl
    · simpa [← not_and_or] using hfar
    · simp
  · simp [pairWrites, Function.update_of_ne]

theorem apply_blobMods (hchip : blobChip id.1 = chip) (hk : k < (part.text id.1).length)
    (hlength : (part.text id.1).length ≤ 255) :
    apply (part.entries.flatMap (blobWrites chip)) v (.blobMod id (UInt8.ofNat k)) =
      (toUsbKeycodes (part.text id.1)[k]).2 := by
  refine apply_blobs (g := Prod.snd) hchip hk hlength (fun id' c hfar w hw => ?_) fun c u => ?_
  · simp only [pairWrites, List.mem_cons, List.not_mem_nil, or_false] at hw
    rcases hw with rfl | rfl
    · simp
    · simpa [← not_and_or] using hfar
  · simp [pairWrites]

end Blobs

end Cells

section Untouched

variable {entries : List (UInt8 × Text)} {v : Cell → UInt8} {f : Cell}

theorem apply_flatMap_of_ne {out : UInt8 × Text → List (Cell × UInt8)}
    (h : ∀ e, ∀ w ∈ out e, w.1 ≠ f) : apply (entries.flatMap out) v f = v f :=
  apply_of_forall_ne fun w hw => by
    obtain ⟨e, -, hw⟩ := List.mem_flatMap.mp hw
    exact h e w hw

theorem apply_characters_of_ne (h : ∀ id, f ≠ .character id) :
    apply (entries.flatMap characterWrites) v f = v f :=
  apply_flatMap_of_ne fun e => by simp [characterWrites, (h e.1).symm]

theorem apply_wordLengths_of_ne (h : ∀ id, f ≠ .wordLength id) :
    apply (entries.flatMap wordLengthWrites) v f = v f :=
  apply_flatMap_of_ne fun e => by simp [wordLengthWrites, (h e.1).symm]

theorem apply_blobLengths_of_ne (h : ∀ id, f ≠ .blobLength id) :
    apply (entries.flatMap blobLengthWrites) v f = v f :=
  apply_flatMap_of_ne fun e => by
    rw [blobLengthWrites]
    split
    · simpa using (h _).symm
    · simp

theorem apply_blobs_of_ne (chip : Chip) (hkey : ∀ id slot, f ≠ .blobKey id slot)
    (hmod : ∀ id slot, f ≠ .blobMod id slot) :
    apply (entries.flatMap (blobWrites chip)) v f = v f :=
  apply_flatMap_of_ne fun e w hw => by
    obtain ⟨id, -, c, hw⟩ := blobWrites_pair hw
    simp only [pairWrites, List.mem_cons, List.not_mem_nil, or_false] at hw
    rcases hw with rfl | rfl
    · exact (hkey id _).symm
    · exact (hmod id _).symm

end Untouched

section Represents

variable {v : Cell → UInt8} (file : StateFile)

theorem loaded_character (id : UInt8) :
    loaded file v (.character id) = (toUsbKeycodes ((file.characters.text id).headD 0)).1 := by
  rw [loaded_internal rfl, internalWrites, apply_append, apply_append,
    apply_blobLengths_of_ne (by simp), apply_wordLengths_of_ne (by simp)]
  exact apply_characters (clear_of_chip rfl (Cell.offset_internal_lt rfl) v)

theorem loaded_wordLength (id : UInt8) :
    loaded file v (.wordLength id) = UInt8.ofNat (file.words.text id).length := by
  rw [loaded_internal rfl, internalWrites, apply_append, apply_append,
    apply_blobLengths_of_ne (by simp)]
  refine apply_wordLengths ?_
  rw [apply_characters_of_ne (by simp)]
  exact clear_of_chip rfl (Cell.offset_internal_lt rfl) v

theorem loaded_blobLength (id : BlobId) :
    loaded file v (.blobLength id) = UInt8.ofNat (file.blobs.text id.1).length := by
  rw [loaded_internal rfl, internalWrites, apply_append, apply_append]
  refine apply_blobLengths ?_
  rw [apply_wordLengths_of_ne (by simp), apply_characters_of_ne (by simp)]
  exact clear_of_chip rfl (Cell.offset_internal_lt rfl) v

theorem loaded_word (id : UInt8) {k : ℕ} (hk : k < (file.words.text id).length) :
    loaded file v (wordSlot id k) = (toUsbKeycodes (file.words.text id)[k]).1 := by
  obtain ⟨u, hu⟩ : ∃ u, loaded file v (wordSlot id k) =
      apply (eeprom0Writes file) (clear .eeprom0 u) (wordSlot id k) := loaded_eeprom0 rfl
  rw [hu, eeprom0Writes, apply_append,
    apply_blobs_of_ne .eeprom0 (by simp [wordSlot]) (by simp [wordSlot])]
  exact apply_words (file.words.text_length_le id) hk

theorem loaded_blob_of {f : Cell} {chip : Chip} {x : UInt8} (hf : f.chip = chip)
    (hchip : chip = .eeprom0 ∨ chip = .eeprom1)
    (h : ∀ u, apply (file.blobs.entries.flatMap (blobWrites chip)) u f = x) :
    loaded file v f = x := by
  rcases hchip with rfl | rfl
  · obtain ⟨u, hu⟩ : ∃ u, loaded file v f = apply (eeprom0Writes file) (clear .eeprom0 u) f :=
      loaded_eeprom0 hf
    rw [hu, eeprom0Writes, apply_append]
    exact h _
  · exact h _

theorem blobChip_cases (index : UInt8) : blobChip index = .eeprom0 ∨ blobChip index = .eeprom1 := by
  rw [blobChip]
  split
  · exact .inr rfl
  · exact .inl rfl

theorem loaded_blob (id : BlobId) {k : ℕ} (hk : k < (file.blobs.text id.1).length) :
    (loaded file v (.blobKey id (UInt8.ofNat k)), loaded file v (.blobMod id (UInt8.ofNat k))) =
      toUsbKeycodes (file.blobs.text id.1)[k] := by
  have hlength := file.blobs.text_length_le id.1
  exact Prod.ext
    (loaded_blob_of file (chip_blobKey id _) (blobChip_cases id.1) fun u =>
      apply_blobKeys rfl hk hlength)
    (loaded_blob_of file (chip_blobMod id _) (blobChip_cases id.1) fun u =>
      apply_blobMods rfl hk hlength)

theorem loaded_represents (v : Cell → UInt8) : Represents (loaded file v) file.shortcuts := by
  refine ⟨loaded_character file, fun id => ?_, fun id => ?_⟩
  · have hlength : (file.words.text id).length ≤ 15 := file.words.text_length_le id
    refine contents_eq_map ?_ fun k hk => loaded_word file id hk
    rw [loaded_wordLength, UInt8.toNat_ofNat']
    omega
  · have hlength : (file.blobs.text id.1).length ≤ 255 := file.blobs.text_length_le id.1
    refine contents_eq_map ?_ fun k hk => loaded_blob file id hk
    rw [loaded_blobLength, UInt8.toNat_ofNat']
    omega

end Represents

theorem configure_represents {file : StateFile} {json : Json} (h : file.Describes json)
    (hstorable : Storable file) (memory : Memory) :
    ∃ m, configure json memory = (some (), m) ∧ Represents (layout.view m) file.shortcuts := by
  obtain ⟨hsome, hview⟩ := configure_performs h hstorable memory
  refine ⟨(configure json memory).2, Prod.ext hsome rfl, ?_⟩
  rw [hview]
  exact loaded_represents file _

theorem putBlob1_stops {item : Text × Json} {e : UInt8 × Text} (h : Denotes item e)
    (hid : ¬ e.1 ≤ kLayerBMaxIndex) (hne : e.2 ≠ []) : Action.Stops (putBlob1 item.1 item.2) := by
  obtain ⟨hidx, hvalue⟩ := h
  obtain ⟨c, rest, hcons⟩ := List.exists_cons_of_ne_nil hne
  have hgt : 247 < e.1.toNat := UInt8.lt_iff_toNat_lt.mp (UInt8.not_le.mp hid)
  rw [putBlob1, hvalue, throwing_some, hidx, throwing_some]
  have hfirst : (c, 0) ∈ e.2.zipIdx := by simp [hcons]
  refine Action.Stops.forM hfirst ?_
  rw [if_pos (by omega), putPair, put, if_neg (by simp only [size]; omega)]
  exact Action.Stops.stop.bind _

theorem configure_stops {file : StateFile} {json : Json} (h : file.Describes json)
    (hstorable : ¬ Storable file) : Action.Stops (configure json) := by
  simp only [Storable, not_forall, not_or] at hstorable
  obtain ⟨e, hmem, hid, hne⟩ := hstorable
  obtain ⟨items, hmember, hdescribes⟩ := h.blobs
  obtain ⟨item, hitem, hdenotes⟩ := hdescribes.item hmem
  have hloop : Action.Stops (forItems json blobShortcuts putBlob1) := by
    rw [forItems_eq hmember]
    exact Action.Stops.forM hitem (putBlob1_stops hdenotes hid hne)
  exact .after _ fun _ => .after _ fun _ => .after _ fun _ => hloop

end Threeboard.Simulator
