import Threeboard.Library.Runs
import Threeboard.Storage.Refinement
import Threeboard.Integration.Firmware
import Mathlib.Tactic.IntervalCases

namespace Threeboard.Integration

open Actions Runs Keys Layers Storage

def storedBy (s : Shortcuts) : Effect → Shortcuts
  | .request r => (s.serve r).2
  | _ => s

def typedBy (s : Shortcuts) : Effect → List (UInt8 × UInt8)
  | .nothing => []
  | .request r => (s.serve r).1.keypresses
  | .type key mod => [(key, mod)]

theorem after_eq (w : Ideal) (e : Effect) :
    after w e = ⟨storedBy w.shortcuts e, w.keypresses ++ typedBy w.shortcuts e⟩ := by
  cases e with
  | nothing => simp [after, storedBy, typedBy]
  | request r => rfl
  | type key mod => rfl

def wordText (word : List UInt8) : Text := word.map fun key => fromUsbKeycodes key 0

def blobText (blob : List (UInt8 × UInt8)) : Text := blob.map fun p => fromUsbKeycodes p.1 p.2

def modelOf (c : Cursors) (s : Shortcuts) (blobs : UInt8 → Text) : ThreeboardModel where
  dfltLayerModel := ⟨{ bank0 := c.layerDefault.bank0, bank1 := c.layerDefault.bank1 }⟩
  rLayerModel :=
    { shortcutId := c.layerR.shortcutId
      modcode := c.layerR.modcode
      prog := c.layerR.prog
      shortcuts := s.characters }
  gLayerModel :=
    { shortcutId := c.layerG.shortcutId
      wordModCode := c.layerG.wordModCode
      keyCode := c.layerG.keyCode
      prog := c.layerG.prog
      shortcuts := fun id => wordText (s.words id).1 }
  bLayerModel :=
    { shortcutId := c.layerB.shortcutId
      keyCode := c.layerB.keyCode
      modCode := c.layerB.modcode
      prog := c.layerB.prog
      shortcuts := blobs }
  currentLayer := c.currentLayer

-- The model keeps text for every number of a blob, of which the firmware has those up to the last.
def Spells (blobs : UInt8 → Text) (s : Shortcuts) : Prop :=
  ∀ id : BlobId, blobs id.1 = blobText (s.blobs id).1

def Matches (m : ThreeboardModel) (c : Cursors) (s : Shortcuts) : Prop :=
  ∃ blobs, Spells blobs s ∧ m = modelOf c s blobs

variable {c : Cursors} {s : Shortcuts} {blobs : UInt8 → Text}

def typing (m : ThreeboardModel) (text : Text) : ThreeboardModel :=
  match m.currentLayer with
  | .dflt => { m with dfltLayerModel.deviceState.usbBuffer := text }
  | .r => { m with rLayerModel.usbBuffer := text }
  | .g => { m with gLayerModel.usbBuffer := text }
  | .b => { m with bLayerModel.usbBuffer := text }

theorem ofNat_shiftLeft {n : ℕ} (h : n ≤ 15) : UInt8.ofNat (n <<< 4) = UInt8.ofNat n <<< 4 := by
  interval_cases n <;> rfl

theorem wordText_length (word : Word) : (wordText word.1).length ≤ 15 := by
  rw [wordText, List.length_map]
  exact word.2

theorem snapshot_typing (hdflt : c.layerDefault.prog = false) (hid : c.layerB.shortcutId ≤ kLayerBMaxIndex)
    (h : Spells blobs s) (text : Text) : (typing (modelOf c s blobs) text).getStateSnapshot =
      (snapshot c s text, modelOf c s blobs) := by
  obtain ⟨cur, ⟨prog, bank0, bank1⟩, ⟨progR, idR, modR, charR⟩, ⟨progG, idG, codeG, keyG⟩,
    ⟨progB, idB, keyB, modB⟩⟩ := c
  obtain rfl : prog = false := hdflt
  cases cur with
  | dflt => rfl
  | r => cases progR <;> rfl
  | g =>
    have hsize : UInt8.ofNat ((wordText (s.words idG).1).length <<< 4) =
        UInt8.ofNat (s.words idG).1.length <<< 4 := by
      rw [ofNat_shiftLeft (wordText_length _), wordText, List.length_map]
    refine Prod.ext ?_ rfl
    cases progG
    · change DeviceState.mk idG (codeG ||| UInt8.ofNat _) _ _ _ _ text =
        DeviceState.mk idG (UInt8.ofNat (s.words idG).1.length <<< 4 ||| codeG) _ _ _ _ text
      rw [UInt8.or_comm, ← hsize]
      rfl
    · change DeviceState.mk keyG (UInt8.ofNat _) _ _ _ _ text =
        DeviceState.mk keyG (UInt8.ofNat (s.words idG).1.length <<< 4) _ _ _ _ text
      rw [← hsize]
      rfl
  | b =>
    refine Prod.ext ?_ rfl
    cases progB
    · have hsize : UInt8.ofNat (blobs idB).length = blobSize s idB := by
        rw [blobSize, dif_pos hid, h ⟨idB, hid⟩, blobText, List.length_map]
      change DeviceState.mk idB (UInt8.ofNat (blobs idB).length) _ _ _ _ text =
        DeviceState.mk idB (blobSize s idB) _ _ _ _ text
      rw [hsize]
      rfl
    · rfl

def Agrees (c : Cursors) (s : Shortcuts) (blobs : UInt8 → Text) (k : Keypress) : Prop :=
  let stored := storedBy s (effect c s k)
  ((modelOf c s blobs).press k).1 =
      snapshot (c.press k) stored (hostText (typedBy s (effect c s k))) ∧
    Matches ((modelOf c s blobs).press k).2 (c.press k) stored

theorem agrees_of_applyKey {k : Keypress} {blobs' : UInt8 → Text} (hone : c.OneProg)
    (hid : (c.press k).layerB.shortcutId ≤ kLayerBMaxIndex)
    (hspells : Spells blobs' (storedBy s (effect c s k)))
    (happly : (modelOf c s blobs).applyKey k = typing
      (modelOf (c.press k) (storedBy s (effect c s k)) blobs') (hostText (typedBy s (effect c s k)))) :
    Agrees c s blobs k := by
  have hdflt : (c.press k).layerDefault.prog = false := by
    have h := (hone.press k) .dflt
    simpa [Cursors.progOf] using h
  simp only [Agrees, ThreeboardModel.press, happly, snapshot_typing hdflt hid hspells]
  exact ⟨trivial, blobs', hspells, rfl⟩

section ApplyKey

variable {m : ThreeboardModel} {k : Keypress}

theorem applyKey_dflt {d : DefaultLayerModel} (hcur : m.currentLayer = .dflt)
    (h : m.dfltLayerModel.applyKey k = (false, d)) :
    m.applyKey k = { m with dfltLayerModel := d } := by
  simp [ThreeboardModel.applyKey, ThreeboardModel.applyToCurrent, hcur, h]

theorem applyKey_r {r : LayerRModel} (hcur : m.currentLayer = .r)
    (h : m.rLayerModel.applyKey k = (false, r)) : m.applyKey k = { m with rLayerModel := r } := by
  simp [ThreeboardModel.applyKey, ThreeboardModel.applyToCurrent, hcur, h]

theorem applyKey_g {g : LayerGModel} (hcur : m.currentLayer = .g)
    (h : m.gLayerModel.applyKey k = (false, g)) : m.applyKey k = { m with gLayerModel := g } := by
  simp [ThreeboardModel.applyKey, ThreeboardModel.applyToCurrent, hcur, h]

theorem applyKey_b {b : LayerBModel} (hcur : m.currentLayer = .b)
    (h : m.bLayerModel.applyKey k = (false, b)) : m.applyKey k = { m with bLayerModel := b } := by
  simp [ThreeboardModel.applyKey, ThreeboardModel.applyToCurrent, hcur, h]

end ApplyKey

theorem hostText_zero {key mod : UInt8} (h : ¬ (mod ≠ 0 ∨ key ≠ 0)) : hostText [(key, mod)] = [] := by
  obtain ⟨rfl, rfl⟩ : mod = 0 ∧ key = 0 := by simpa using h
  rfl

theorem hostText_singleton (key mod : UInt8) :
    hostText [(key, mod)] = [] ++ printable (fromUsbKeycodes key mod) := by
  simp [hostText_cons]

theorem applies_dflt (hcur : c.currentLayer = .dflt) (k : Keypress) :
    (modelOf c s blobs).applyKey k = typing (modelOf (c.press k) (storedBy s (effect c s k)) blobs)
      (hostText (typedBy s (effect c s k))) := by
  obtain ⟨cur, ⟨prog, bank0, bank1⟩, lr, lg, lb⟩ := c
  obtain rfl : cur = .dflt := hcur
  cases k with
  | z =>
    by_cases hz : bank0 ≠ 0 ∨ bank1 ≠ 0
    · refine Eq.trans (applyKey_dflt rfl (if_pos hz)) ?_
      change _ = typing _ (hostText [(bank0, bank1)])
      rw [hostText_singleton]
      rfl
    · refine Eq.trans (applyKey_dflt rfl (if_neg hz)) ?_
      change _ = typing _ (hostText [(bank0, bank1)])
      rw [hostText_zero (mt Or.symm hz)]
      rfl
  | _ => rfl

theorem applies_r (hcur : c.currentLayer = .r) (k : Keypress) :
    (modelOf c s blobs).applyKey k = typing (modelOf (c.press k) (storedBy s (effect c s k)) blobs)
      (hostText (typedBy s (effect c s k))) := by
  obtain ⟨cur, ld, ⟨prog, id, modcode, char⟩, lg, lb⟩ := c
  obtain rfl : cur = .r := hcur
  cases prog <;> cases k
  case false.z =>
    by_cases hz : modcode ≠ 0 ∨ s.characters id ≠ 0
    · refine Eq.trans (applyKey_r rfl (if_pos ⟨by simp [modelOf], hz⟩)) ?_
      change _ = typing _ (hostText [(s.characters id, modcode)])
      rw [hostText_singleton]
      rfl
    · refine Eq.trans (applyKey_r rfl (if_neg fun h => hz h.2)) ?_
      change _ = typing _ (hostText [(s.characters id, modcode)])
      rw [hostText_zero hz]
      rfl
  all_goals rfl

section Words

open LayerGModel

def ShiftsSymbol (code : UInt8) (word : List UInt8) : Prop :=
  code = WordModCode.uppercase ∧ (∃ key ∈ word, shiftsSymbol key) ∨
    code = WordModCode.capitalise ∧ ∃ key ∈ word.head?, shiftsSymbol key

def Types (code : UInt8) (word : List UInt8) : Prop :=
  StorageController.appendKeycode code > 0 ∨ ∃ key ∈ word, isPrint (fromUsbKeycodes key 0)

instance (code : UInt8) (word : List UInt8) : Decidable (ShiftsSymbol code word) :=
  inferInstanceAs (Decidable (_ ∧ _ ∨ _ ∧ _))

instance (code : UInt8) (word : List UInt8) : Decidable (Types code word) :=
  inferInstanceAs (Decidable (_ ∨ _))

theorem fromUsbKeycodes_append (code : UInt8) :
    fromUsbKeycodes (StorageController.appendKeycode code) 0 = appendChar code := by
  simp only [StorageController.appendKeycode, appendChar]
  split
  · rfl
  · split
    · rfl
    · split <;> rfl

theorem appendChar_pos (code : UInt8) :
    appendChar code > 0 ↔ StorageController.appendKeycode code > 0 := by
  simp only [StorageController.appendKeycode, appendChar]
  split
  · decide
  · split
    · decide
    · split <;> decide

theorem modCodeChar_eq {code key : UInt8} {n i : ℕ}
    (h : code = WordModCode.uppercase ∨ code = WordModCode.capitalise ∧ i = 0 →
      ¬ shiftsSymbol key) :
    modCodeChar code n i (fromUsbKeycodes key 0) = hostText (wordKeys code n i key) := by
  simp only [modCodeChar, wordKeys, appendChar_pos]
  split
  · rename_i hshift
    rw [hostText_singleton, fromUsbKeycodes_shift key (h hshift), List.nil_append]
  · split
    · rw [hostText_cons, hostText_singleton, fromUsbKeycodes_append, List.nil_append]
    · rw [hostText_singleton, List.nil_append]

theorem head_of_mem_zipIdx {word : List UInt8} {key : UInt8} (h : (key, 0) ∈ word.zipIdx) :
    key ∈ word.head? := by
  have hget := List.mk_mem_zipIdx_iff_getElem?.mp h
  rw [List.head?_eq_getElem?]
  exact hget

theorem applyModCode_eq {code : UInt8} {word : List UInt8} (h : ¬ ShiftsSymbol code word) :
    applyModCode code (wordText word) = hostText (wordKeypresses code word) := by
  rw [hostText_eq_flatMap, wordKeypresses, List.flatMap_assoc, applyModCode, wordText,
    List.zipIdx_map, List.flatMap_map, List.length_map]
  refine List.flatMap_congr fun p hp => ?_
  rw [← hostText_eq_flatMap]
  refine modCodeChar_eq ?_
  rintro (hcode | ⟨hcode, hi⟩) hsym
  · exact h (.inl ⟨hcode, p.1, List.fst_mem_of_mem_zipIdx hp, hsym⟩)
  · refine h (.inr ⟨hcode, p.1, head_of_mem_zipIdx ?_, hsym⟩)
    have hzero : p = (p.1, 0) := Prod.ext rfl hi
    rwa [← hzero]

theorem applyModCode_eq_nil {code : UInt8} {word : List UInt8} (h : ¬ Types code word) :
    applyModCode code (wordText word) = [] := by
  rw [applyModCode, wordText, List.zipIdx_map, List.flatMap_map, List.flatMap_eq_nil_iff]
  intro p hp
  have happend : ¬ appendChar code > 0 := by
    rw [appendChar_pos]
    exact fun hpos => h (.inl hpos)
  have hprint : ¬ isPrint (fromUsbKeycodes p.1 0) := fun hpr =>
    h (.inr ⟨p.1, List.fst_mem_of_mem_zipIdx hp, hpr⟩)
  simp only [Prod.map, modCodeChar, happend, and_false, if_false]
  split
  · rwa [printable_eq_nil, isPrint_toUpper]
  · rwa [printable_eq_nil]

theorem wordTexts_setWord (s : Shortcuts) (id : UInt8) (word : Word) :
    Function.update (fun j => wordText (s.words j).1) id (wordText word.1) =
      fun j => wordText ((s.setWord id word).words j).1 :=
  (Function.comp_update (fun w : Word => wordText w.1) s.words id word).symm

theorem types_g (hcur : c.currentLayer = .g)
    (h : c.layerG.prog → s.wordFull c.layerG.shortcutId) :
    (modelOf c s blobs).applyKey .z = typing (modelOf c s blobs)
      (applyModCode c.layerG.wordModCode (wordText (s.words c.layerG.shortcutId).1)) := by
  obtain ⟨cur, ld, lr, lg, lb⟩ := c
  obtain rfl : cur = .g := hcur
  have hfull : ¬ (lg.prog ∧ (wordText (s.words lg.shortcutId).1).length < 15) := by
    rintro ⟨hprog, hlen⟩
    rw [wordText, List.length_map, h hprog] at hlen
    omega
  exact Eq.trans (applyKey_g rfl (if_neg hfull)) rfl

theorem appends_g (hcur : c.currentLayer = .g) (hprog : c.layerG.prog)
    (h : ¬ s.wordFull c.layerG.shortcutId) : (modelOf c s blobs).applyKey .z =
      modelOf c (s.appendWord c.layerG.shortcutId c.layerG.keyCode h) blobs := by
  obtain ⟨cur, ld, lr, lg, lb⟩ := c
  obtain rfl : cur = .g := hcur
  have hlen : (wordText (s.words lg.shortcutId).1).length < 15 := by
    have hle := (s.words lg.shortcutId).2
    simp only [Shortcuts.wordFull] at h
    rw [wordText, List.length_map]
    omega
  refine Eq.trans (applyKey_g rfl (if_pos ⟨hprog, hlen⟩)) ?_
  simp only [modelOf, Shortcuts.appendWord, ← wordTexts_setWord]
  simp [LayerGModel.setCurrent, wordText]
  rfl

theorem applies_g (hcur : c.currentLayer = .g) {k : Keypress}
    (hz : k = .z → if c.layerG.prog then
        ¬ (s.wordFull c.layerG.shortcutId ∧
          Types c.layerG.wordModCode (s.words c.layerG.shortcutId).1)
      else ¬ ShiftsSymbol c.layerG.wordModCode (s.words c.layerG.shortcutId).1) :
    (modelOf c s blobs).applyKey k = typing (modelOf (c.press k) (storedBy s (effect c s k)) blobs)
      (hostText (typedBy s (effect c s k))) := by
  obtain ⟨cur, ld, lr, ⟨prog, id, code, key⟩, lb⟩ := c
  obtain rfl : cur = .g := hcur
  cases prog <;> cases k
  case true.z =>
    change _ = typing (modelOf _ (s.serve (.appendToWord id key)).2 blobs)
      (hostText (s.serve (.appendToWord id key)).1.keypresses)
    by_cases hfull : s.wordFull id
    · rw [types_g rfl fun _ => hfull, applyModCode_eq_nil fun ht => hz rfl ⟨hfull, ht⟩]
      simp [Shortcuts.serve, hfull, Response.rejected]
      rfl
    · rw [appends_g rfl rfl hfull]
      simp [Shortcuts.serve, hfull, Response.done]
      rfl
  case true.yz =>
    refine Eq.trans (applyKey_g rfl rfl) ?_
    change _ = typing (modelOf _ (s.clearWord id) blobs) []
    simp only [modelOf, Shortcuts.clearWord, ← wordTexts_setWord]
    rfl
  case false.z =>
    rw [types_g rfl (by simp), applyModCode_eq (hz rfl)]
    rfl
  all_goals rfl

end Words

theorem blobText_flatMap (blob : List (UInt8 × UInt8)) :
    (blobText blob).flatMap printable = hostText blob := by
  rw [hostText_eq_flatMap, blobText, List.flatMap_map]

theorem Spells.setBlob (h : Spells blobs s) (id : BlobId) (blob : Blob) :
    Spells (Function.update blobs id.1 (blobText blob.1)) (s.setBlob id blob) := by
  intro j
  by_cases hj : j = id
  · subst hj
    simp [Shortcuts.setBlob]
  · rw [Function.update_of_ne fun heq => hj (Subtype.ext heq), h j]
    simp [Shortcuts.setBlob, hj]

theorem applies_b (hcur : c.currentLayer = .b) (hid : c.layerB.shortcutId ≤ kLayerBMaxIndex)
    (hspells : Spells blobs s) {k : Keypress}
    (hz : k = .z → c.layerB.prog → ¬ s.blobFull ⟨c.layerB.shortcutId, hid⟩) :
    ∃ blobs', Spells blobs' (storedBy s (effect c s k)) ∧ (modelOf c s blobs).applyKey k =
      typing (modelOf (c.press k) (storedBy s (effect c s k)) blobs')
        (hostText (typedBy s (effect c s k))) := by
  obtain ⟨cur, ld, lr, lg, ⟨prog, id, key, modcode⟩⟩ := c
  obtain rfl : cur = .b := hcur
  let blobId : BlobId := ⟨id, hid⟩
  have hserve : ∀ answer, s.serveBlob id answer = answer blobId := s.serveBlob_of_le blobId
  have hspell : blobs id = blobText (s.blobs blobId).1 := hspells blobId
  cases prog <;> cases k
  case true.z =>
    have hroom : ¬ s.blobFull blobId := hz rfl rfl
    refine ⟨Function.update blobs id (blobs id ++ [fromUsbKeycodes key modcode]), ?_,
      Eq.trans (applyKey_b rfl rfl) ?_⟩
    · change Spells _ (s.serve (.appendToBlob id key modcode)).2
      simp only [Shortcuts.serve, hserve, hroom, dite_false, hspell]
      simpa [blobText, Shortcuts.appendBlob, blobId] using
        hspells.setBlob blobId ⟨(s.blobs blobId).1 ++ [(key, modcode)], _⟩
    · change _ = typing (modelOf _ (s.serve (.appendToBlob id key modcode)).2 _)
        (hostText (s.serve (.appendToBlob id key modcode)).1.keypresses)
      simp only [Shortcuts.serve, hserve, hroom, dite_false]
      rfl
  case true.xy =>
    refine ⟨Function.update blobs id [], ?_, Eq.trans (applyKey_b rfl rfl) ?_⟩
    · change Spells _ (s.serve (.clearBlob id)).2
      simp only [Shortcuts.serve, hserve]
      exact hspells.setBlob blobId ⟨[], by simp⟩
    · change _ = typing (modelOf _ (s.serve (.clearBlob id)).2 _)
        (hostText (s.serve (.clearBlob id)).1.keypresses)
      simp only [Shortcuts.serve, hserve]
      rfl
  case false.z =>
    refine ⟨blobs, ?_, Eq.trans (applyKey_b rfl rfl) ?_⟩
    · change Spells _ (s.serve (.sendBlob id)).2
      simpa only [Shortcuts.serve, hserve] using hspells
    · change _ = typing (modelOf _ (s.serve (.sendBlob id)).2 _)
        (hostText (s.serve (.sendBlob id)).1.keypresses)
      simp only [Shortcuts.serve, hserve, Response.typed, ← blobText_flatMap, ← hspell]
      rfl
  all_goals exact ⟨blobs, hspells, rfl⟩

-- Where a press of Z makes firmware and model part: on a word to be typed with a symbol to be
-- shifted, on a full word that would type something, and on the 256th pair of a blob.
def PartsIn (c : Cursors) (words : UInt8 → List UInt8) (blobs : BlobId → List (UInt8 × UInt8)) :
    LayerId → Prop
  | .dflt | .r => False
  | .g =>
    let word := words c.layerG.shortcutId
    if c.layerG.prog then word.length = 15 ∧ Types c.layerG.wordModCode word
    else ShiftsSymbol c.layerG.wordModCode word
  | .b => c.layerB.prog ∧ ∃ h, (blobs ⟨c.layerB.shortcutId, h⟩).length = 255

def Parts (c : Cursors) (words : UInt8 → List UInt8) (blobs : BlobId → List (UInt8 × UInt8))
    (k : Keypress) : Prop :=
  k = .z ∧ PartsIn c words blobs c.currentLayer

section Decidable

variable (c : Cursors) (words : UInt8 → List UInt8) (blobs : BlobId → List (UInt8 × UInt8))

instance : DecidablePred (PartsIn c words blobs)
  | .dflt | .r => .isFalse id
  | .g => inferInstanceAs (Decidable (if c.layerG.prog then _ ∧ _ else _))
  | .b => instDecidableAnd

instance (k : Keypress) : Decidable (Parts c words blobs k) :=
  inferInstanceAs (Decidable (_ ∧ _))

end Decidable

theorem storedBy_blobs (hcur : c.currentLayer ≠ .b) (k : Keypress) :
    (storedBy s (effect c s k)).blobs = s.blobs := by
  obtain ⟨cur, ld, ⟨prog, id, modcode, char⟩, ⟨progG, idG, code, keyG⟩, lb⟩ := c
  cases cur with
  | dflt => cases k <;> rfl
  | r => cases prog <;> cases k <;> rfl
  | g =>
    cases progG <;> cases k
    case true.z =>
      change (s.serve (.appendToWord idG keyG)).2.blobs = s.blobs
      simp only [Shortcuts.serve]
      split <;> rfl
    all_goals rfl
  | b => exact (hcur rfl).elim

theorem Spells.of_blobs {u : Shortcuts} (h : Spells blobs s) (hu : u.blobs = s.blobs) :
    Spells blobs u := fun id => by rw [h id, hu]

theorem agrees_of_not_parts (hone : c.OneProg) (hid : c.layerB.shortcutId ≤ kLayerBMaxIndex)
    (hspells : Spells blobs s) {k : Keypress}
    (hid' : (c.press k).layerB.shortcutId ≤ kLayerBMaxIndex)
    (h : ¬ Parts c (fun id => (s.words id).1) (fun id => (s.blobs id).1) k) :
    Agrees c s blobs k := by
  cases hcur : c.currentLayer with
  | dflt =>
    exact agrees_of_applyKey hone hid' (hspells.of_blobs (storedBy_blobs (by simp [hcur]) k))
      (applies_dflt hcur k)
  | r =>
    exact agrees_of_applyKey hone hid' (hspells.of_blobs (storedBy_blobs (by simp [hcur]) k))
      (applies_r hcur k)
  | g =>
    refine agrees_of_applyKey hone hid' (hspells.of_blobs (storedBy_blobs (by simp [hcur]) k))
      (applies_g hcur fun hk => ?_)
    simp only [Parts, PartsIn, hk, hcur, true_and] at h
    split
    · rename_i hp
      rwa [if_pos hp] at h
    · rename_i hp
      rwa [if_neg hp] at h
  | b =>
    obtain ⟨blobs', hspells', happly⟩ := applies_b hcur hid hspells (k := k) fun hk hp hfull => by
      refine h ⟨hk, ?_⟩
      rw [hcur]
      exact ⟨hp, hid, hfull⟩
    exact agrees_of_applyKey hone hid' hspells' happly

section Run

def observed (b : Board Bench) (k : Keypress) : DeviceState × Board Bench :=
  let t := pressed b k
  (ledsOf t.ledState (hostText (t.world.keypresses.drop b.world.keypresses.length)), t)

structure Tracks (b : Board Bench) (m : ThreeboardModel) (a : Board Ideal) : Prop where
  mirrors : Mirrors Faultless b a
  ready : Ready a
  matching : Matches m a.cursors a.world.shortcuts

def parts (b : Board Bench) (k : Keypress) : Prop :=
  Parts b.cursors (wordContents b.world.view) (blobContents b.world.view) k

instance (b : Board Bench) (k : Keypress) : Decidable (parts b k) :=
  inferInstanceAs (Decidable (Parts _ _ _ k))

variable {b : Board Bench} {m : ThreeboardModel} {a : Board Ideal} {k : Keypress}

theorem Tracks.parts_iff (h : Tracks b m a) : parts b k ↔ Parts a.cursors
    (fun id => (a.world.shortcuts.words id).1) (fun id => (a.world.shortcuts.blobs id).1) k := by
  have hrep := h.mirrors.world.represents
  rw [parts, h.mirrors.cursors, funext hrep.word, funext hrep.blob]

theorem Tracks.press (h : Tracks b m a) (hk : ¬ parts b k)
    (hid : (pressed b k).layerB.shortcutId ≤ kLayerBMaxIndex) :
    (observed b k).1 = (m.press k).1 ∧
      Tracks (observed b k).2 (m.press k).2 (LayerController.press Ideal.devices a k).2 := by
  obtain ⟨blobs, hspells, rfl⟩ := h.matching
  have hmirrors : Mirrors Faultless (pressed b k) (LayerController.press Ideal.devices a k).2 :=
    (handleEvent_mirrors follows_ideal k b a h.mirrors).2
  have hcursors := press_cursors Ideal.devices a k
  have hid' : (a.cursors.press k).layerB.shortcutId ≤ kLayerBMaxIndex := by
    rw [← hcursors]
    simpa [Board.cursors, ← hmirrors.layerB] using hid
  have hready := h.ready.press hid'
  have hworld := press_world h.ready.settled.progChar k
  rw [after_eq] at hworld
  obtain ⟨hleds, hmatch⟩ := agrees_of_not_parts h.ready.oneProg h.ready.blobId hspells hid'
    (mt h.parts_iff.mpr hk)
  refine ⟨?_, hmirrors, hready, ?_⟩
  · have hkeys : (pressed b k).world.keypresses.drop b.world.keypresses.length =
        typedBy a.world.shortcuts (effect a.cursors a.world.shortcuts k) := by
      rw [hmirrors.world.keypresses, hworld, h.mirrors.world.keypresses, List.drop_left]
    change ledsOf (pressed b k).ledState _ = _
    rw [hkeys, hmirrors.ledState, hready.settled.lit, hcursors, hworld, hleds]
  · rw [hcursors, hworld]
    exact hmatch

theorem boot_tracks : Tracks (Board.boot (Bench.start erased fun _ => .succeed)) {}
    (Board.boot ⟨Shortcuts.empty, []⟩) := by
  refine ⟨⟨rfl, rfl, rfl, rfl, rfl, rfl, ⟨Bench.start_represents _, fun _ => rfl, rfl⟩⟩,
    boot_ready _, fun _ => [], fun _ => rfl, rfl⟩

def selectsBlob (b : Board Bench) : Prop := b.layerB.shortcutId ≤ kLayerBMaxIndex

instance (b : Board Bench) : Decidable (selectsBlob b) := inferInstanceAs (Decidable (_ ≤ _))

-- As long as no keypress is one of those from which they part, and no id beyond the last blob is
-- selected, what can be observed of the firmware is what the reference model says.
theorem firmware_equals_model (keys : List Keypress) :
    let start := Board.boot (Bench.start erased fun _ => .succeed)
    Always selectsBlob (path pressed start keys) →
      Obeys (fun b k => ¬ parts b k) start (path pressed start keys) →
        trace observed start keys = trace ThreeboardModel.press {} keys := by
  intro start hid hobeys
  have hstep : ∀ (b : Board Bench) (m : ThreeboardModel) (k : Keypress), (∃ a, Tracks b m a) →
      ¬ parts b k ∧ selectsBlob (pressed b k) → (observed b k).1 = (m.press k).1 ∧
        ∃ a, Tracks (observed b k).2 (m.press k).2 a := by
    rintro b m k ⟨a, h⟩ ⟨hk, hsel⟩
    obtain ⟨hseen, hnext⟩ := h.press hk hsel
    exact ⟨hseen, _, hnext⟩
  exact (trace_eq_of_obeys hstep ⟨_, boot_tracks⟩ (hobeys.and_always hid)).1

def typedInLowercase : List Keypress :=
  [.xyz, .xyz, .xy] ++ List.replicate 0x1e .x ++ [.z, .xyz, .z]

theorem firmware_equals_model_lowercase :
    trace observed (Board.boot (Bench.start erased fun _ => .succeed)) typedInLowercase =
      trace ThreeboardModel.press {} typedInLowercase :=
  firmware_equals_model typedInLowercase (by decide +kernel) (by decide +kernel)

-- The word "1" is stored, then typed in upper case: the host reads "!", the model says "1".
def typedInUppercase : List Keypress :=
  [.xyz, .xyz, .xy] ++ List.replicate 0x1e .x ++ [.z, .xyz, .y, .z]

theorem firmware_parts_from_model : ¬ ∀ keys : List Keypress,
    let start := Board.boot (Bench.start erased fun _ => .succeed)
    Always selectsBlob (path pressed start keys) →
      trace observed start keys = trace ThreeboardModel.press {} keys := by
  intro h
  have hsel : Always selectsBlob (path pressed
      (Board.boot (Bench.start erased fun _ => .succeed)) typedInUppercase) := by decide +kernel
  have hne : trace observed (Board.boot (Bench.start erased fun _ => .succeed)) typedInUppercase ≠
    trace ThreeboardModel.press {} typedInUppercase := by decide +kernel
  exact hne (h typedInUppercase hsel)

end Run

end Threeboard.Integration
