import Threeboard.Simulator.Loaded
import Threeboard.Storage.Refinement
import Mathlib.Data.List.Nodup

namespace Threeboard.Simulator

open Actions Integration Storage Updates

namespace Json

def shortcuts (json : Json) (property : JsonProperty) : List (Text × Json) :=
  ((json.member property.name).map items).getD []

def entry (json : Json) (property : JsonProperty) (id : UInt8) : Text :=
  ((latest (fun item => stoi item.1) (some (id.toNat : ℤ)) (json.shortcuts property)).bind fun item =>
    item.2.getString).getD []

end Json

section Entries

variable {property : JsonProperty} {part : Section property} {json : Json} {id : UInt8}

theorem shortcuts_describes (h : StateFile.Found json property part) :
    part.Describes (json.shortcuts property) := by
  obtain ⟨items, hmember, hdescribes⟩ := h
  rw [Json.shortcuts, hmember]
  exact hdescribes

theorem Denotes.stoi_eq_iff {item : Text × Json} {e : UInt8 × Text} (h : Denotes item e) :
    stoi item.1 = some (id.toNat : ℤ) ↔ e.1 = id := by
  rw [h.1, Option.some.injEq, ← UInt8.toNat_inj]
  exact Int.ofNat_inj

theorem entry_eq_text (h : StateFile.Found json property part) (id : UInt8) :
    json.entry property id = part.text id := by
  have hcases := latest_forall₂ (k := id) (n := some (id.toNat : ℤ)) (shortcuts_describes h)
    fun _ _ hdenotes => hdenotes.stoi_eq_iff
  rw [Json.entry, Section.text]
  rcases hcases with ⟨hitem, he⟩ | ⟨item, e, hdenotes, hitem, he⟩
  · rw [hitem, he]
    rfl
  · rw [hitem, he]
    simp [hdenotes.2]

theorem entry_of_distinct (h : ((json.shortcuts property).map fun item => stoi item.1).Nodup)
    {item : Text × Json} (hmem : item ∈ json.shortcuts property) {t : Text}
    (hdenotes : Denotes item (id, t)) : json.entry property id = t := by
  have hlatest : latest (fun item => stoi item.1) (some (id.toNat : ℤ)) (json.shortcuts property) =
      some item := latest_of_forall hmem hdenotes.1 fun other hother hid =>
    List.inj_on_of_nodup_map h hother hmem (hid.trans hdenotes.1.symm)
  rw [Json.entry, hlatest]
  simp [hdenotes.2]

theorem entry_of_none (h : ∀ item ∈ json.shortcuts property, stoi item.1 ≠ some (id.toNat : ℤ)) :
    json.entry property id = [] := by
  rw [Json.entry, latest_eq_none.mpr h]
  rfl

end Entries

theorem storable_of_le {file : StateFile} {json : Json} (h : file.Describes json)
    (hblobs : ∀ item ∈ json.shortcuts blobShortcuts, ∀ idx ∈ stoi item.1, idx ≤ 247) :
    Storable file := by
  intro e he
  obtain ⟨item, hitem, hdenotes⟩ := (shortcuts_describes h.blobs).item he
  have hle := hblobs item hitem _ hdenotes.1
  have hnat : e.1.toNat ≤ 247 := by omega
  exact .inl (UInt8.le_iff_toNat_le.mpr hnat)

section Serve

variable (file : StateFile) (id : UInt8)

theorem serve_getCharacter : (file.shortcuts.serve (.getCharacter id)).1 = .value
    (((file.characters.text id).head?.map fun c => (toUsbKeycodes c).1).getD 0) := by
  have hkeycode : ∀ t : Text, (toUsbKeycodes (t.headD 0)).1 =
      (t.head?.map fun c => (toUsbKeycodes c).1).getD 0
    | [] => rfl
    | _ :: _ => rfl
  exact congrArg Response.value (hkeycode _)

theorem serve_getWordLength : (file.shortcuts.serve (.getWordLength id)).1 =
    .value (UInt8.ofNat (file.words.text id).length) := by
  simp [Shortcuts.serve, StateFile.shortcuts]

theorem serve_sendWord : (file.shortcuts.serve (.sendWord id 0)).1 = .typed (file.words.text id ≠ [])
    ((file.words.text id).map fun c => ((toUsbKeycodes c).1, 0)) := by
  have hkeys := wordKeypresses_lowercase ((file.words.text id).map fun c => (toUsbKeycodes c).1)
  rw [List.map_map] at hkeys
  simp only [Shortcuts.serve, StateFile.shortcuts, ne_eq, List.map_eq_nil_iff]
  exact congrArg _ hkeys

theorem serve_getBlobLength (h : id ≤ kLayerBMaxIndex) :
    (file.shortcuts.serve (.getBlobLength id)).1 =
      .value (UInt8.ofNat (file.blobs.text id).length) := by
  simp [Shortcuts.serve, Shortcuts.serveBlob, StateFile.shortcuts, h]

theorem serve_sendBlob (h : id ≤ kLayerBMaxIndex) :
    (file.shortcuts.serve (.sendBlob id)).1 =
      .typed (file.blobs.text id ≠ []) ((file.blobs.text id).map toUsbKeycodes) := by
  simp [Shortcuts.serve, Shortcuts.serveBlob, StateFile.shortcuts, h]

theorem serve_sendBlob_of_gt (h : ¬ id ≤ kLayerBMaxIndex) :
    (file.shortcuts.serve (.sendBlob id)).1 = .typed false [] := by
  simp [Shortcuts.serve, Shortcuts.serveBlob, h, Response.rejected, Response.typed]

end Serve

theorem firmware_reads_state_file (json : Json) (memory : Memory) (hvalid : validate json = .ok ())
    (hblobs : ∀ item ∈ json.shortcuts blobShortcuts, ∀ idx ∈ stoi item.1, idx ≤ 247) :
    ∃ m, createFromFile (some json) memory = .ok (some (), m) ∧
      let serve (r : Storage.Request) := ((Bench.start m fun _ => .succeed).serve r).1
      (∀ id, serve (.getCharacter id) = .value
        (((json.entry characterShortcuts id).head?.map fun c => (toUsbKeycodes c).1).getD 0)) ∧
      (∀ id, let word := json.entry wordShortcuts id
        serve (.getWordLength id) = .value (UInt8.ofNat word.length) ∧
        serve (.sendWord id 0) = .typed (word ≠ []) (word.map fun c => ((toUsbKeycodes c).1, 0))) ∧
      ∀ id, let blob := json.entry blobShortcuts id
        (id ≤ 247 → serve (.getBlobLength id) = .value (UInt8.ofNat blob.length)) ∧
        serve (.sendBlob id) = .typed (blob ≠ []) (blob.map toUsbKeycodes) := by
  obtain ⟨file, hfile⟩ := validate_ok hvalid
  obtain ⟨m, hrun, hrep⟩ := configure_represents hfile (storable_of_le hfile hblobs) memory
  have hserve : ∀ r, ((Bench.start m fun _ => .succeed).serve r).1 = (file.shortcuts.serve r).1 :=
    fun r => (Bench.serve_refines (Bench.start m fun _ => .succeed) _ r ⟨hrep, fun _ => rfl⟩).1
  have hcharacters := entry_eq_text hfile.characters
  have hwords := entry_eq_text hfile.words
  have hblobtexts := entry_eq_text hfile.blobs
  refine ⟨m, by simp [createFromFile, hvalid, hrun, bind, Except.bind, pure, Except.pure], ?_, ?_, ?_⟩
  · intro id
    rw [hcharacters]
    exact (hserve _).trans (serve_getCharacter file id)
  · intro id
    simp only [hwords]
    exact ⟨(hserve _).trans (serve_getWordLength file id), (hserve _).trans (serve_sendWord file id)⟩
  · intro id
    by_cases hid : id ≤ kLayerBMaxIndex
    · simp only [hblobtexts]
      exact ⟨fun _ => (hserve _).trans (serve_getBlobLength file id hid),
        (hserve _).trans (serve_sendBlob file id hid)⟩
    · have hgt : 247 < id.toNat := UInt8.lt_iff_toNat_lt.mp (UInt8.not_le.mp hid)
      have hnil : json.entry blobShortcuts id = [] := entry_of_none fun item hitem hidx => by
        have hle := hblobs item hitem _ hidx
        omega
      simp only [hnil]
      exact ⟨fun hle => (hid hle).elim, (hserve _).trans (serve_sendBlob_of_gt file id hid)⟩

def greetings : Json := .object [
  (text "blob_shortcuts", .object [(text "247", .string (text "Hi!")), (text "3", .string [])]),
  (text "character_shortcuts", .object [(text "65", .string (text "a"))]),
  (text "word_shortcuts", .array [.string (text "you")])]

theorem firmware_reads_greetings : ∃ m, createFromFile (some greetings) erased = .ok (some (), m) ∧
    let serve (r : Storage.Request) := ((Bench.start m fun _ => .succeed).serve r).1
    serve (.getCharacter 65) = .value 4 ∧ serve (.getCharacter 66) = .value 0 ∧
      serve (.sendWord 0 0) = .typed true [(0x1c, 0), (0x12, 0), (0x18, 0)] ∧
      serve (.sendBlob 247) = .typed true [(0x0b, 2), (0x0c, 0), (0x1e, 2)] ∧
      serve (.sendBlob 3) = .typed false [] := by
  obtain ⟨m, hrun, hcharacters, hwords, hblobs⟩ :=
    firmware_reads_state_file greetings erased (by rfl) (by decide)
  exact ⟨m, hrun, hcharacters 65, hcharacters 66, (hwords 0).2, (hblobs 247).2, (hblobs 3).2⟩

end Threeboard.Simulator
