import Threeboard.Simulator.StateFile

namespace Threeboard.Simulator

open Actions Integration Records Storage Updates

-- The arrays of the external chips end one byte early, at a byte no blob is long enough to use.
def clear (chip : Chip) (v : Cell → UInt8) : Cell → UInt8 := fun f =>
  if f.chip = chip ∧ f.offset < size chip then 0 else v f

def characterWrites (e : UInt8 × Text) : List (Cell × UInt8) :=
  [(.character e.1, (toUsbKeycodes (e.2.headD 0)).1)]

def wordLengthWrites (e : UInt8 × Text) : List (Cell × UInt8) :=
  [(.wordLength e.1, UInt8.ofNat e.2.length)]

def wordWrites (e : UInt8 × Text) : List (Cell × UInt8) :=
  e.2.zipIdx.flatMap fun c => [(wordSlot e.1 c.2, (toUsbKeycodes c.1).1)]

def blobLengthWrites (e : UInt8 × Text) : List (Cell × UInt8) :=
  if h : e.1 ≤ kLayerBMaxIndex then [(.blobLength ⟨e.1, h⟩, UInt8.ofNat e.2.length)] else []

def pairWrites (id : BlobId) (c : UInt8 × ℕ) : List (Cell × UInt8) :=
  [(.blobKey id (UInt8.ofNat c.2), (toUsbKeycodes c.1).1),
    (.blobMod id (UInt8.ofNat c.2), (toUsbKeycodes c.1).2)]

def blobWrites (chip : Chip) (e : UInt8 × Text) : List (Cell × UInt8) :=
  if h : e.1 ≤ kLayerBMaxIndex ∧ blobChip e.1 = chip then e.2.zipIdx.flatMap (pairWrites ⟨e.1, h.1⟩)
  else []

theorem clear_of_chip {f : Cell} {chip : Chip} (hchip : f.chip = chip) (hkept : f.offset < size chip)
    (v : Cell → UInt8) : clear chip v f = 0 := if_pos ⟨hchip, hkept⟩

theorem clear_of_ne {f : Cell} {chip : Chip} (h : f.chip ≠ chip) (v : Cell → UInt8) :
    clear chip v f = v f := if_neg fun hboth => h hboth.1

theorem fill_performs (chip : Chip) : Performs layout.view (fill chip) (clear chip) := by
  intro m
  refine ⟨rfl, funext fun f => ?_⟩
  simp only [fill, Action.modify_run, Layout.view, layout, clear, Cell.address_chip,
    Cell.address_offset]
  by_cases h : f.chip = chip ∧ f.offset < size chip
  · rw [if_pos h, if_pos h]
    decide
  · rw [if_neg h, if_neg h]

theorem put_performs (f : Cell) (chip : Chip) {i : ℤ} (hchip : f.chip = chip)
    (hi : (f.offset : ℤ) = i) (hkept : f.offset < size chip) (x : UInt8) :
    Performs layout.view (put chip i (x - 1)) (apply [(f, x)]) := by
  intro m
  subst hchip hi
  have haddress : (f.chip, UInt16.ofNat f.offset) = f.address := by
    rw [← Cell.address_chip, ← Cell.address_offset, UInt16.ofNat_toNat]
  rw [put, if_pos ⟨Int.natCast_nonneg _, Int.ofNat_lt.mpr hkept⟩, Int.toNat_natCast, haddress]
  exact ⟨rfl, layout.view_update_encode m f x⟩

@[simp] theorem throwing_some {α β : Type} (a : α) (f : α → Action Memory β) :
    (throwing (some a) >>= f) = f a := rfl

section Items

variable {item : Text × Json} {e : UInt8 × Text}

theorem putCharacter_performs (h : Denotes item e) :
    Performs layout.view (putCharacter item.1 item.2) (apply (characterWrites e)) := by
  obtain ⟨hidx, hvalue⟩ := h
  rw [putCharacter, hvalue, throwing_some, hidx, throwing_some]
  exact put_performs (.character e.1) .internal rfl rfl (Cell.offset_internal_lt rfl) _

theorem putWordLength_performs (h : Denotes item e) :
    Performs layout.view (putLength 256 item.1 item.2) (apply (wordLengthWrites e)) := by
  obtain ⟨hidx, hvalue⟩ := h
  rw [putLength, hidx, throwing_some, hvalue, throwing_some]
  exact put_performs (.wordLength e.1) .internal rfl rfl (Cell.offset_internal_lt rfl) _

theorem putWord_performs (h : Denotes item e) (hlength : e.2.length ≤ 15) :
    Performs layout.view (putWord item.1 item.2) (apply (wordWrites e)) := by
  obtain ⟨hidx, hvalue⟩ := h
  have hid := e.1.toNat_lt
  rw [putWord, hvalue, throwing_some]
  refine Performs.forM (R := Eq) (List.forall₂_refl e.2.zipIdx) fun c d hd heq => ?_
  subst heq
  rw [hidx, throwing_some]
  have hslot := List.snd_lt_of_mem_zipIdx hd
  have hoffset : ((wordSlot e.1 c.2).offset : ℤ) = e.1.toNat * 16 + c.2 := by
    simp only [wordSlot, Cell.offset, Fin.ofNat]
    omega
  have hkept : (wordSlot e.1 c.2).offset < size .eeprom0 := by
    simp only [size]
    omega
  exact put_performs (wordSlot e.1 c.2) .eeprom0 rfl hoffset hkept _

theorem blobBase_lt (id : BlobId) {k : ℕ} (hk : k < 255) :
    Cell.blobBase id (UInt8.ofNat k) + 1 < 65535 := by
  have hid := blobId_toNat_le id
  simp only [Cell.blobBase, UInt8.toNat_ofNat']
  split <;> omega

theorem chip_blobKey (id : BlobId) (slot : UInt8) : (Cell.blobKey id slot).chip = blobChip id.1 :=
  (Cell.address_chip _).symm

theorem chip_blobMod (id : BlobId) (slot : UInt8) : (Cell.blobMod id slot).chip = blobChip id.1 :=
  (Cell.address_chip _).symm

theorem size_blobChip (index : UInt8) : size (blobChip index) = 65535 := by
  rw [blobChip]
  split <;> rfl

theorem blobChip_eeprom1 {index : UInt8} : blobChip index = .eeprom1 ↔ 120 ≤ index.toNat := by
  rw [blobChip, ← eeprom1_iff]
  split <;> simp_all

theorem blobChip_eeprom0 {index : UInt8} : blobChip index = .eeprom0 ↔ ¬ 120 ≤ index.toNat := by
  rw [blobChip, ← eeprom1_iff]
  split <;> simp_all

theorem putPair_performs (id : BlobId) {c : UInt8 × ℕ} (hslot : c.2 < 255) :
    Performs layout.view (putPair (blobChip id.1) (Cell.blobBase id (UInt8.ofNat c.2))
      (toUsbKeycodes c.1).1 (toUsbKeycodes c.1).2) (apply (pairWrites id c)) := by
  have hlt := blobBase_lt id hslot
  have hsize := size_blobChip id.1
  refine (put_performs (.blobKey id _) _ (chip_blobKey id _) rfl ?_ _).append
    (put_performs (.blobMod id _) _ (chip_blobMod id _) rfl ?_ _)
  · simp only [Cell.offset]
    omega
  · simp only [Cell.offset]
    omega

theorem putPairs_performs (hlength : e.2.length ≤ 255) (hid : e.1 ≤ kLayerBMaxIndex ∨ e.2 = [])
    (chip : Chip) (c : Prop) [Decidable c] (start : ℕ → ℤ) (hc : c ↔ blobChip e.1 = chip)
    (hstart : c → ∀ id : BlobId, id.1 = e.1 → ∀ k < 255,
      start k = Cell.blobBase id (UInt8.ofNat k)) :
    Performs layout.view (forM e.2.zipIdx fun x => if c then
      putPair chip (start x.2) (toUsbKeycodes x.1).1 (toUsbKeycodes x.1).2 else pure ())
      (apply (blobWrites chip e)) := by
  rcases hid with hid | hnil
  · by_cases hon : c
    · obtain rfl := hc.mp hon
      rw [blobWrites, dif_pos ⟨hid, rfl⟩]
      refine Performs.forM (R := Eq) (List.forall₂_refl e.2.zipIdx) fun x y hy hxy => ?_
      have hslot := List.snd_lt_of_mem_zipIdx hy
      rw [if_pos hon, hxy, hstart hon ⟨e.1, hid⟩ rfl y.2 (by omega)]
      exact putPair_performs ⟨e.1, hid⟩ (by omega)
    · rw [blobWrites, dif_neg fun h => hon (hc.mpr h.2)]
      have hall : Performs layout.view (forM e.2.zipIdx fun x => if c then
          putPair chip (start x.2) (toUsbKeycodes x.1).1 (toUsbKeycodes x.1).2 else pure ())
          (apply (e.2.zipIdx.flatMap fun _ => [])) :=
        Performs.forM (R := Eq) (List.forall₂_refl e.2.zipIdx) fun x _ _ _ => by
          rw [if_neg hon]
          exact Performs.of_nil fun _ => rfl
      rwa [List.flatMap_eq_nil_iff.mpr fun _ _ => rfl] at hall
  · have hwrites : blobWrites chip e = [] := by simp [blobWrites, hnil]
    rw [hnil, hwrites]
    exact Performs.of_nil fun _ => rfl

theorem putBlob0_performs (h : Denotes item e) (hlength : e.2.length ≤ 255)
    (hid : e.1 ≤ kLayerBMaxIndex ∨ e.2 = []) :
    Performs layout.view (putBlob0 item.1 item.2) (apply (blobWrites .eeprom0 e)) := by
  obtain ⟨hidx, hvalue⟩ := h
  rw [putBlob0, hvalue, throwing_some, hidx, throwing_some]
  refine putPairs_performs hlength hid .eeprom0 ((e.1.toNat : ℤ) < 120)
    (fun k => 0x1000 + e.1.toNat * 512 + k * 2) ?_ fun hlow id heq k hk => ?_
  · rw [blobChip_eeprom0]
    omega
  · rw [← heq] at hlow ⊢
    simp only [Cell.blobBase, UInt8.toNat_ofNat']
    split <;> omega

theorem putBlob1_performs (h : Denotes item e) (hlength : e.2.length ≤ 255)
    (hid : e.1 ≤ kLayerBMaxIndex ∨ e.2 = []) :
    Performs layout.view (putBlob1 item.1 item.2) (apply (blobWrites .eeprom1 e)) := by
  obtain ⟨hidx, hvalue⟩ := h
  rw [putBlob1, hvalue, throwing_some, hidx, throwing_some]
  refine putPairs_performs hlength hid .eeprom1 ((e.1.toNat : ℤ) ≥ 120)
    (fun k => (e.1.toNat - 120) * 512 + k * 2) ?_ fun hhigh id heq k hk => ?_
  · rw [blobChip_eeprom1]
    omega
  · rw [← heq] at hhigh ⊢
    simp only [Cell.blobBase, UInt8.toNat_ofNat']
    split <;> omega

theorem ne_address_internal {n : ℕ} (hlow : 760 ≤ n) (hhigh : n < 1024) (f : Cell) :
    f.address ≠ (.internal, UInt16.ofNat n) := by
  intro h
  have hchip : f.chip = .internal := by rw [← Cell.address_chip, h]
  have hoffset : f.offset = n := by
    rw [← Cell.address_offset, h, UInt16.toNat_ofNat']
    omega
  cases f with
  | character id => have := id.toNat_lt; simp only [Cell.offset] at hoffset; omega
  | wordLength id => have := id.toNat_lt; simp only [Cell.offset] at hoffset; omega
  | blobLength id => have := blobId_toNat_le id; simp only [Cell.offset] at hoffset; omega
  | wordChar id slot => simp [Cell.chip] at hchip
  | blobKey id slot | blobMod id slot => simp only [Cell.chip] at hchip; split at hchip <;> simp at hchip

theorem putBlobLength_performs (h : Denotes item e) (hmax : e.1 ≤ 248) :
    Performs layout.view (putLength 512 item.1 item.2) (apply (blobLengthWrites e)) := by
  obtain ⟨hidx, hvalue⟩ := h
  have hle : e.1.toNat ≤ 248 := UInt8.le_iff_toNat_le.mp hmax
  rw [putLength, hidx, throwing_some, hvalue, throwing_some]
  by_cases hid : e.1 ≤ kLayerBMaxIndex
  · rw [blobLengthWrites, dif_pos hid]
    exact put_performs (.blobLength ⟨e.1, hid⟩) .internal rfl rfl (Cell.offset_internal_lt rfl) _
  · rw [blobLengthWrites, dif_neg hid]
    intro m
    have hgt : 247 < e.1.toNat := UInt8.lt_iff_toNat_lt.mp (UInt8.not_le.mp hid)
    rw [put, if_pos (by simp only [size]; omega)]
    refine ⟨rfl, funext fun f => ?_⟩
    have hne := ne_address_internal (n := (512 + (e.1.toNat : ℤ)).toNat) (by omega) (by omega) f
    simp [Layout.view, layout, Function.update_of_ne hne]

end Items

section Configure

variable {property : JsonProperty} {part : Section property} {json : Json} {file : StateFile}

theorem forItems_eq {items : Json} (h : json.member property.name = some items)
    (body : Text → Json → Action Memory Unit) :
    forItems json property body = forM items.items fun item => body item.1 item.2 := by
  cases json with
  | object entries =>
    rw [forItems, subscript, h]
    rfl
  | _ => simp [Json.member] at h

theorem forItems_performs (hfound : StateFile.Found json property part)
    {body : Text → Json → Action Memory Unit} {out : UInt8 × Text → List (Cell × UInt8)}
    (h : ∀ item, ∀ e ∈ part.entries, Denotes item e →
      Performs layout.view (body item.1 item.2) (apply (out e))) :
    Performs layout.view (forItems json property body) (apply (part.entries.flatMap out)) := by
  obtain ⟨items, hmember, hdescribes⟩ := hfound
  rw [forItems_eq hmember]
  exact Performs.forM hdescribes h

def internalWrites (file : StateFile) : List (Cell × UInt8) :=
  file.characters.entries.flatMap characterWrites ++
    (file.words.entries.flatMap wordLengthWrites ++ file.blobs.entries.flatMap blobLengthWrites)

def eeprom0Writes (file : StateFile) : List (Cell × UInt8) :=
  file.words.entries.flatMap wordWrites ++ file.blobs.entries.flatMap (blobWrites .eeprom0)

def eeprom1Writes (file : StateFile) : List (Cell × UInt8) :=
  file.blobs.entries.flatMap (blobWrites .eeprom1)

theorem configureInternalEeprom_performs (h : file.Describes json) :
    Performs layout.view (configureInternalEeprom json)
      (apply (internalWrites file) ∘ clear .internal) := by
  refine (fill_performs .internal).bind ?_
  refine (forItems_performs h.characters fun item e _ he => putCharacter_performs he).append ?_
  refine (forItems_performs h.words fun item e _ he => putWordLength_performs he).append ?_
  exact forItems_performs h.blobs fun item e hmem he =>
    putBlobLength_performs he (file.blobs.bounded e hmem).1

def Storable (file : StateFile) : Prop :=
  ∀ e ∈ file.blobs.entries, e.1 ≤ kLayerBMaxIndex ∨ e.2 = []

theorem configureEeprom0_performs (h : file.Describes json) (hstorable : Storable file) :
    Performs layout.view (configureEeprom0 json) (apply (eeprom0Writes file) ∘ clear .eeprom0) := by
  refine (fill_performs .eeprom0).bind ?_
  refine (forItems_performs h.words fun item e hmem he =>
    putWord_performs he (file.words.bounded e hmem).2).append ?_
  exact forItems_performs h.blobs fun item e hmem he =>
    putBlob0_performs he (file.blobs.bounded e hmem).2 (hstorable e hmem)

theorem configureEeprom1_performs (h : file.Describes json) (hstorable : Storable file) :
    Performs layout.view (configureEeprom1 json) (apply (eeprom1Writes file) ∘ clear .eeprom1) := by
  refine (fill_performs .eeprom1).bind ?_
  exact forItems_performs h.blobs fun item e hmem he =>
    putBlob1_performs he (file.blobs.bounded e hmem).2 (hstorable e hmem)

def loaded (file : StateFile) : (Cell → UInt8) → Cell → UInt8 :=
  ((apply (eeprom1Writes file) ∘ clear .eeprom1) ∘ apply (eeprom0Writes file) ∘ clear .eeprom0) ∘
    apply (internalWrites file) ∘ clear .internal

theorem configure_performs (h : file.Describes json) (hstorable : Storable file) :
    Performs layout.view (configure json) (loaded file) :=
  (configureInternalEeprom_performs h).bind
    ((configureEeprom0_performs h hstorable).bind (configureEeprom1_performs h hstorable))

end Configure

end Threeboard.Simulator
