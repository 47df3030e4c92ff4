import Threeboard.Library.Updates
import Threeboard.Simulator.StateStorageImpl
import Threeboard.Storage.Shortcuts

namespace Threeboard.Simulator

open Integration Storage Updates

structure Section (property : JsonProperty) where
  entries : List (UInt8 × Text)
  bounded : ∀ e ∈ entries, e.1 ≤ property.maxIndex ∧ e.2.length ≤ property.maxLength.toNat

def Denotes (item : Text × Json) (e : UInt8 × Text) : Prop :=
  stoi item.1 = some (e.1.toNat : ℤ) ∧ item.2.getString = some e.2

instance (item : Text × Json) (e : UInt8 × Text) : Decidable (Denotes item e) :=
  inferInstanceAs (Decidable (_ ∧ _))

theorem exists_left_of_mem {α β : Type} {R : α → β → Prop} {xs : List α} {ys : List β}
    (h : xs.Forall₂ R ys) {y : β} (hy : y ∈ ys) : ∃ x ∈ xs, R x y := by
  induction h with
  | nil => simp at hy
  | cons hxy _ ih =>
    rcases List.mem_cons.mp hy with rfl | hy
    · exact ⟨_, List.mem_cons_self, hxy⟩
    · obtain ⟨x, hx, hR⟩ := ih hy
      exact ⟨x, List.mem_cons_of_mem _ hx, hR⟩

namespace Section

variable {property : JsonProperty}

def Describes (part : Section property) (items : List (Text × Json)) : Prop :=
  items.Forall₂ Denotes part.entries

theorem Describes.item {part : Section property} {items : List (Text × Json)}
    (h : part.Describes items) {e : UInt8 × Text} (he : e ∈ part.entries) :
    ∃ item ∈ items, Denotes item e := exists_left_of_mem h he

theorem Describes.entry {part : Section property} {items : List (Text × Json)}
    (h : part.Describes items) {item : Text × Json} (hitem : item ∈ items) :
    ∃ e ∈ part.entries, Denotes item e := exists_left_of_mem h.flip hitem

def text (part : Section property) (id : UInt8) : Text :=
  ((latest Prod.fst id part.entries).map Prod.snd).getD []

variable {part : Section property} {id : UInt8}

theorem text_of_none (h : latest Prod.fst id part.entries = none) : part.text id = [] := by
  rw [text, h]
  rfl

theorem text_of_some {e : UInt8 × Text} (h : latest Prod.fst id part.entries = some e) :
    e = (id, part.text id) := by
  rw [text, h]
  exact Prod.ext (latest_mem h).2 rfl

theorem text_length_le (part : Section property) (id : UInt8) :
    (part.text id).length ≤ property.maxLength.toNat := by
  cases h : latest Prod.fst id part.entries with
  | none =>
    rw [text_of_none h]
    exact Nat.zero_le _
  | some e =>
    have hbound := (part.bounded e (latest_mem h).1).2
    rwa [text_of_some h] at hbound

end Section

structure StateFile where
  characters : Section characterShortcuts
  words : Section wordShortcuts
  blobs : Section blobShortcuts

namespace StateFile

def Found (json : Json) (property : JsonProperty) (part : Section property) : Prop :=
  ∃ items, json.member property.name = some items ∧ part.Describes items.items

structure Describes (file : StateFile) (json : Json) : Prop where
  characters : Found json characterShortcuts file.characters
  words : Found json wordShortcuts file.words
  blobs : Found json blobShortcuts file.blobs

def shortcuts (file : StateFile) : Shortcuts where
  characters id := (toUsbKeycodes ((file.characters.text id).headD 0)).1
  words id := ⟨(file.words.text id).map fun c => (toUsbKeycodes c).1, by
    rw [List.length_map]
    exact file.words.text_length_le id⟩
  blobs id := ⟨(file.blobs.text id.1).map toUsbKeycodes, by
    rw [List.length_map]
    exact file.blobs.text_length_le id.1⟩

end StateFile

theorem forM_ok_iff {α ε : Type} {f : α → Except ε Unit} {xs : List α} :
    forM xs f = .ok () ↔ ∀ x ∈ xs, f x = .ok () := by
  induction xs with
  | nil => simp [pure, Except.pure]
  | cons x rest ih =>
    rw [List.forM_cons, List.forall_mem_cons]
    cases h : f x with
    | error e => simp [bind, Except.bind]
    | ok u => simp [bind, Except.bind, ih]

theorem validateItem_ok {property : JsonProperty} {item : Text × Json}
    (h : validateItem property item = .ok ()) :
    ∃ e, Denotes item e ∧ e.1 ≤ property.maxIndex ∧ e.2.length ≤ property.maxLength.toNat := by
  simp only [validateItem] at h
  cases hidx : stoi item.1 with
  | none => simp [hidx] at h
  | some idx =>
    cases hvalue : item.2.getString with
    | none => simp [hidx, hvalue] at h
    | some value =>
      simp only [hidx, hvalue] at h
      split at h
      · simp at h
      · rename_i hrange
        split at h
        · simp at h
        · rename_i hlength
          have hmax := property.maxIndex.toNat_lt
          have hid : (UInt8.ofNat idx.toNat).toNat = idx.toNat := by
            rw [UInt8.toNat_ofNat']
            omega
          refine ⟨(UInt8.ofNat idx.toNat, value), ⟨?_, hvalue⟩, ?_,
            Nat.le_of_not_lt hlength⟩
          · rw [hidx, hid, Int.toNat_of_nonneg (by omega)]
          · rw [UInt8.le_iff_toNat_le, hid]
            omega

theorem validateItems_ok {property : JsonProperty} {items : List (Text × Json)}
    (h : ∀ item ∈ items, validateItem property item = .ok ()) :
    ∃ part : Section property, part.Describes items := by
  induction items with
  | nil => exact ⟨⟨[], by simp⟩, .nil⟩
  | cons item rest ih =>
    obtain ⟨e, hdenotes, hbound⟩ := validateItem_ok (h item (by simp))
    obtain ⟨part, hrest⟩ := ih fun i hi => h i (by simp [hi])
    exact ⟨⟨e :: part.entries, List.forall_mem_cons.mpr ⟨hbound, part.bounded⟩⟩,
      .cons hdenotes hrest⟩

theorem validateProperty_ok {json : Json} {property : JsonProperty}
    (h : validateProperty json property = .ok ()) :
    ∃ part : Section property, StateFile.Found json property part := by
  simp only [validateProperty] at h
  cases hmember : json.member property.name with
  | none => simp [hmember] at h
  | some items =>
    rw [hmember] at h
    obtain ⟨part, hsection⟩ := validateItems_ok (forM_ok_iff.mp h)
    exact ⟨part, items, hmember, hsection⟩

theorem validate_ok {json : Json} (h : validate json = .ok ()) :
    ∃ file : StateFile, file.Describes json := by
  have hall := forM_ok_iff.mp h
  obtain ⟨characters, hcharacters⟩ := validateProperty_ok (hall characterShortcuts (by decide))
  obtain ⟨words, hwords⟩ := validateProperty_ok (hall wordShortcuts (by decide))
  obtain ⟨blobs, hblobs⟩ := validateProperty_ok (hall blobShortcuts (by decide))
  exact ⟨⟨characters, words, blobs⟩, hcharacters, hwords, hblobs⟩

end Threeboard.Simulator
