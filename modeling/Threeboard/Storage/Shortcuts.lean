import Threeboard.Storage.Layout

namespace Threeboard.Storage

open Records

abbrev Word := {chars : List UInt8 // chars.length ≤ 15}

abbrev Blob := {pairs : List (UInt8 × UInt8) // pairs.length ≤ 255}

-- What the storage is for: three independent maps, none of which can hold an over-long record.
structure Shortcuts where
  characters : UInt8 → UInt8
  words : UInt8 → Word
  blobs : BlobId → Blob

namespace Shortcuts

def empty : Shortcuts where
  characters _ := 0
  words _ := ⟨[], by simp⟩
  blobs _ := ⟨[], by simp⟩

variable (s : Shortcuts)

def setCharacter (id character : UInt8) : Shortcuts :=
  { s with characters := Function.update s.characters id character }

def setWord (id : UInt8) (word : Word) : Shortcuts :=
  { s with words := Function.update s.words id word }

def setBlob (id : BlobId) (blob : Blob) : Shortcuts :=
  { s with blobs := Function.update s.blobs id blob }

def clearWord (id : UInt8) : Shortcuts := s.setWord id ⟨[], by simp⟩

def clearBlob (id : BlobId) : Shortcuts := s.setBlob id ⟨[], by simp⟩

def wordFull (id : UInt8) : Prop := (s.words id).1.length = 15

def blobFull (id : BlobId) : Prop := (s.blobs id).1.length = 255

instance (id : UInt8) : Decidable (s.wordFull id) := inferInstanceAs (Decidable (_ = _))

instance (id : BlobId) : Decidable (s.blobFull id) := inferInstanceAs (Decidable (_ = _))

def appendWord (id character : UInt8) (h : ¬ s.wordFull id) : Shortcuts :=
  s.setWord id ⟨(s.words id).1 ++ [character], by
    have := (s.words id).2
    simp only [wordFull] at h
    simp only [List.length_append, List.length_singleton]
    omega⟩

def appendBlob (id : BlobId) (pair : UInt8 × UInt8) (h : ¬ s.blobFull id) : Shortcuts :=
  s.setBlob id ⟨(s.blobs id).1 ++ [pair], by
    have := (s.blobs id).2
    simp only [blobFull] at h
    simp only [List.length_append, List.length_singleton]
    omega⟩

end Shortcuts

def wordSlot (id : UInt8) (k : ℕ) : Cell := .wordChar id (Fin.ofNat 16 k)

def wordContents (v : Cell → UInt8) (id : UInt8) : List UInt8 :=
  contents (v (.wordLength id)).toNat fun k => v (wordSlot id k)

def blobContents (v : Cell → UInt8) (id : BlobId) : List (UInt8 × UInt8) :=
  contents (v (.blobLength id)).toNat fun k =>
    (v (.blobKey id (UInt8.ofNat k)), v (.blobMod id (UInt8.ofNat k)))

structure Represents (v : Cell → UInt8) (s : Shortcuts) : Prop where
  character : ∀ id, v (.character id) = s.characters id
  word : ∀ id, wordContents v id = (s.words id).1
  blob : ∀ id, blobContents v id = (s.blobs id).1

namespace Represents

variable {v : Cell → UInt8} {s : Shortcuts}

theorem wordLength (h : Represents v s) (id : UInt8) :
    (v (.wordLength id)).toNat = (s.words id).1.length := by
  rw [← h.word id, wordContents, contents_length]

theorem blobLength (h : Represents v s) (id : BlobId) :
    (v (.blobLength id)).toNat = (s.blobs id).1.length := by
  rw [← h.blob id, blobContents, contents_length]

theorem wordLength_le (h : Represents v s) (id : UInt8) : (v (.wordLength id)).toNat ≤ 15 :=
  h.wordLength id ▸ (s.words id).2

theorem wordFull_iff (h : Represents v s) (id : UInt8) :
    s.wordFull id ↔ v (.wordLength id) = 15 := by
  rw [Shortcuts.wordFull, ← h.wordLength id, ← UInt8.toNat_inj]
  rfl

theorem blobFull_iff (h : Represents v s) (id : BlobId) :
    s.blobFull id ↔ v (.blobLength id) = 255 := by
  rw [Shortcuts.blobFull, ← h.blobLength id, ← UInt8.toNat_inj]
  rfl

theorem of_agree {v' : Cell → UInt8} (h : Represents v s)
    (hc : ∀ id, v' (.character id) = v (.character id))
    (hw : ∀ id, wordContents v' id = wordContents v id)
    (hb : ∀ id, blobContents v' id = blobContents v id) : Represents v' s :=
  ⟨fun id => (hc id).trans (h.character id), fun id => (hw id).trans (h.word id),
    fun id => (hb id).trans (h.blob id)⟩

end Represents

section Updates

variable {v : Cell → UInt8}

theorem wordSlot_ne {id : UInt8} {k l : ℕ} (hk : k < 16) (hl : l < 16) (h : k ≠ l) :
    wordSlot id k ≠ wordSlot id l := by
  simp only [wordSlot, ne_eq, Cell.wordChar.injEq, true_and, Fin.ext_iff, Fin.ofNat]
  omega

theorem blobSlot_ne {k l : ℕ} (hk : k < 256) (hl : l < 256) (h : k ≠ l) :
    UInt8.ofNat k ≠ UInt8.ofNat l := by
  rw [ne_eq, ← UInt8.toNat_inj, UInt8.toNat_ofNat', UInt8.toNat_ofNat']
  omega

theorem wordContents_update {f : Cell} {x : UInt8} {id : UInt8} (hlen : f ≠ .wordLength id)
    (hslot : ∀ k < (v (.wordLength id)).toNat, f ≠ wordSlot id k) :
    wordContents (Function.update v f x) id = wordContents v id := by
  rw [wordContents, Function.update_of_ne hlen.symm]
  exact contents_congr fun k hk => Function.update_of_ne (hslot k hk).symm x v

theorem blobContents_update {f : Cell} {x : UInt8} {id : BlobId} (hlen : f ≠ .blobLength id)
    (hslot : ∀ k < (v (.blobLength id)).toNat,
      f ≠ .blobKey id (UInt8.ofNat k) ∧ f ≠ .blobMod id (UInt8.ofNat k)) :
    blobContents (Function.update v f x) id = blobContents v id := by
  rw [blobContents, Function.update_of_ne hlen.symm]
  refine contents_congr fun k hk => ?_
  rw [Function.update_of_ne (hslot k hk).1.symm, Function.update_of_ne (hslot k hk).2.symm]

variable {s : Shortcuts}

theorem Represents.set_character (h : Represents v s) (id x : UInt8) :
    Represents (Function.update v (.character id) x) (s.setCharacter id x) := by
  refine ⟨fun j => ?_, fun j => ?_, fun j => ?_⟩
  · by_cases hj : j = id
    · simp [hj, Shortcuts.setCharacter]
    · simp [hj, Shortcuts.setCharacter, h.character j]
  · rw [wordContents_update (by simp) (by simp [wordSlot])]
    exact h.word j
  · rw [blobContents_update (by simp) (by simp)]
    exact h.blob j

theorem Represents.spoil_word (h : Represents v s) {id : UInt8} {k : ℕ}
    (hk : (v (.wordLength id)).toNat ≤ k) (hk' : k < 16) (x : UInt8) :
    Represents (Function.update v (wordSlot id k) x) s := by
  refine h.of_agree (fun j => ?_) (fun j => ?_) (fun j => ?_)
  · rw [Function.update_of_ne (by simp [wordSlot])]
  · refine wordContents_update (by simp [wordSlot]) fun l hl => ?_
    by_cases hj : id = j
    · subst hj
      exact wordSlot_ne hk' (by omega) (by omega)
    · simp [wordSlot, hj]
  · exact blobContents_update (by simp [wordSlot]) (by simp [wordSlot])

theorem Represents.spoil_blobKey (h : Represents v s) {id : BlobId} {k : ℕ}
    (hk : (v (.blobLength id)).toNat ≤ k) (hk' : k < 256) (x : UInt8) :
    Represents (Function.update v (.blobKey id (UInt8.ofNat k)) x) s := by
  refine h.of_agree (fun j => ?_) (fun j => ?_) (fun j => ?_)
  · rw [Function.update_of_ne (by simp)]
  · exact wordContents_update (by simp) (by simp [wordSlot])
  · refine blobContents_update (by simp) fun l hl => ⟨?_, by simp⟩
    by_cases hj : id = j
    · subst hj
      simpa using blobSlot_ne hk' (by omega) (by omega)
    · simp [hj]

theorem Represents.spoil_blobMod (h : Represents v s) {id : BlobId} {k : ℕ}
    (hk : (v (.blobLength id)).toNat ≤ k) (hk' : k < 256) (x : UInt8) :
    Represents (Function.update v (.blobMod id (UInt8.ofNat k)) x) s := by
  refine h.of_agree (fun j => ?_) (fun j => ?_) (fun j => ?_)
  · rw [Function.update_of_ne (by simp)]
  · exact wordContents_update (by simp) (by simp [wordSlot])
  · refine blobContents_update (by simp) fun l hl => ⟨by simp, ?_⟩
    by_cases hj : id = j
    · subst hj
      simpa using blobSlot_ne hk' (by omega) (by omega)
    · simp [hj]

theorem Represents.set_wordLength (h : Represents v s) {id n : UInt8} {word : Word}
    (hword : contents n.toNat (fun k => v (wordSlot id k)) = word.1) :
    Represents (Function.update v (.wordLength id) n) (s.setWord id word) := by
  refine ⟨fun j => ?_, fun j => ?_, fun j => ?_⟩
  · rw [Function.update_of_ne (by simp)]
    exact h.character j
  · by_cases hj : j = id
    · subst hj
      simpa [wordContents, Shortcuts.setWord, wordSlot] using hword
    · rw [wordContents_update (by simp [Ne.symm hj]) (by simp [wordSlot])]
      simpa [Shortcuts.setWord, hj] using h.word j
  · rw [blobContents_update (by simp) (by simp)]
    exact h.blob j

theorem Represents.set_blobLength (h : Represents v s) {id : BlobId} {n : UInt8} {blob : Blob}
    (hblob : contents n.toNat (fun k =>
      (v (.blobKey id (UInt8.ofNat k)), v (.blobMod id (UInt8.ofNat k)))) = blob.1) :
    Represents (Function.update v (.blobLength id) n) (s.setBlob id blob) := by
  refine ⟨fun j => ?_, fun j => ?_, fun j => ?_⟩
  · rw [Function.update_of_ne (by simp)]
    exact h.character j
  · rw [wordContents_update (by simp) (by simp [wordSlot])]
    exact h.word j
  · by_cases hj : j = id
    · subst hj
      simpa [blobContents, Shortcuts.setBlob] using hblob
    · rw [blobContents_update (by simp [Ne.symm hj]) (by simp)]
      simpa [Shortcuts.setBlob, hj] using h.blob j

theorem represents_empty : Represents (fun _ => 0) Shortcuts.empty :=
  ⟨fun _ => rfl, fun _ => rfl, fun _ => rfl⟩

end Updates

end Threeboard.Storage
