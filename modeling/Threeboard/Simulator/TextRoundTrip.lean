import Threeboard.Simulator.FileReading

namespace Threeboard.Simulator

open Actions Integration Storage

def RoundTrips (json : Json) (memory : Memory) (id : UInt8) (v : Text) : Prop :=
  ∃ m, createFromFile (some json) memory = .ok (some (), m) ∧
    hostText ((Bench.start m fun _ => .succeed).serve (.sendBlob id)).1.keypresses = v

-- The number after the last that a blob can have passes for one, but nothing can be stored there.
def NoTextAt248 (json : Json) : Prop :=
  ∀ item ∈ json.shortcuts blobShortcuts, stoi item.1 = some 248 → item.2.getString = some []

instance (json : Json) : Decidable (NoTextAt248 json) := inferInstanceAs (Decidable (∀ _ ∈ _, _ → _))

theorem createFromFile_of_valid {json : Json} (h : validate json = .ok ()) (memory : Memory) :
    createFromFile (some json) memory = .ok (configure json memory) := by
  simp [createFromFile, h, bind, Except.bind, pure, Except.pure]

theorem hostText_map (t : Text) : hostText (t.map toUsbKeycodes) = t.flatMap displaced := by
  rw [hostText_eq_flatMap, List.flatMap_map]
  exact List.flatMap_congr fun c _ => rendered_eq_displaced c

theorem storable_iff {file : StateFile} {json : Json} (h : file.Describes json) :
    Storable file ↔ NoTextAt248 json := by
  have hdescribes := shortcuts_describes h.blobs
  constructor
  · intro hstorable item hitem hidx
    obtain ⟨e, he, hdenotes⟩ := hdescribes.entry hitem
    have hid : e.1 = 248 := hdenotes.stoi_eq_iff.mp hidx
    rcases hstorable e he with hle | hnil
    · rw [hid] at hle
      exact absurd hle (by decide)
    · rw [hdenotes.2, hnil]
  · intro hnone e he
    obtain ⟨item, hitem, hdenotes⟩ := hdescribes.item he
    by_cases hid : e.1 = 248
    · have hvalue := hnone item hitem (hdenotes.stoi_eq_iff.mpr hid)
      rw [hdenotes.2, Option.some.injEq] at hvalue
      exact .inr hvalue
    · left
      have hmax : e.1.toNat ≤ 248 := UInt8.le_iff_toNat_le.mp (file.blobs.bounded e he).1
      have hne : e.1.toNat ≠ 248 := fun heq => hid (UInt8.toNat_inj.mp heq)
      have hle : e.1.toNat ≤ 247 := by omega
      exact UInt8.le_iff_toNat_le.mpr hle

theorem roundTrips_iff {json : Json} (hvalid : validate json = .ok ()) (memory : Memory)
    {id : UInt8} (hid : id ≤ kLayerBMaxIndex) (v : Text) :
    RoundTrips json memory id v ↔
      NoTextAt248 json ∧ (json.entry blobShortcuts id).flatMap displaced = v := by
  obtain ⟨file, hfile⟩ := validate_ok hvalid
  rw [RoundTrips, createFromFile_of_valid hvalid, ← storable_iff hfile]
  by_cases hstorable : Storable file
  · obtain ⟨m, hrun, hrep⟩ := configure_represents hfile hstorable memory
    have hserve := (Bench.serve_refines (Bench.start m fun _ => .succeed) _ (.sendBlob id)
      ⟨hrep, fun _ => rfl⟩).1
    have htext : hostText ((Bench.start m fun _ => .succeed).serve (.sendBlob id)).1.keypresses =
        (json.entry blobShortcuts id).flatMap displaced := by
      rw [hserve, serve_sendBlob file id hid, entry_eq_text hfile.blobs id]
      exact hostText_map _
    rw [hrun]
    constructor
    · rintro ⟨m', hm', hv⟩
      obtain rfl : m = m' := by simpa using hm'
      exact ⟨hstorable, htext.symm.trans hv⟩
    · rintro ⟨-, hv⟩
      exact ⟨m, rfl, htext.trans hv⟩
  · have hstop := configure_stops hfile hstorable memory
    constructor
    · rintro ⟨m, hm, -⟩
      rw [Except.ok.injEq] at hm
      simp [hm] at hstop
    · rintro ⟨hstorable', -⟩
      exact (hstorable hstorable').elim

theorem text_round_trips_iff (json : Json) (memory : Memory) (hvalid : validate json = .ok ())
    (item : Text × Json) (hitem : item ∈ json.shortcuts blobShortcuts) (id : UInt8) (v : Text)
    (hdenotes : Denotes item (id, v)) (hid : id ≤ 247)
    (hproducible : ∀ c ∈ v, producible c) :
    (RoundTrips json memory id v ↔
      NoTextAt248 json ∧ (json.entry blobShortcuts id).flatMap displaced = v) ∧
    (((json.shortcuts blobShortcuts).map fun other => stoi other.1).Nodup →
      (RoundTrips json memory id v ↔ NoTextAt248 json ∧ ∀ c ∈ v, garbled c = false)) := by
  have hall := roundTrips_iff hvalid memory hid v
  refine ⟨hall, fun hdistinct => ?_⟩
  rw [hall, entry_of_distinct hdistinct hitem hdenotes, flatMap_displaced_eq_iff hproducible]

def oneBlob (value : String) : Json := .object [
  (text "blob_shortcuts", .object [(text "0", .string (text value))]),
  (text "character_shortcuts", .object []),
  (text "word_shortcuts", .object [])]

theorem text_round_trips_for_ab : RoundTrips (oneBlob "ab") erased 0 (text "ab") := by
  have hproducible : ∀ c ∈ text "ab", producible c :=
    List.forall_mem_cons.mpr ⟨⟨rfl, 4, 0, rfl⟩, List.forall_mem_cons.mpr ⟨⟨rfl, 5, 0, rfl⟩, by simp⟩⟩
  have hplain : ∀ c ∈ text "ab", garbled c = false :=
    List.forall_mem_cons.mpr ⟨rfl, List.forall_mem_cons.mpr ⟨rfl, by simp⟩⟩
  have hboth := text_round_trips_iff (oneBlob "ab") erased (by rfl) (text "0", .string (text "ab"))
    List.mem_cons_self 0 (text "ab") (by decide) (by decide) hproducible
  exact (hboth.2 (by decide)).mpr ⟨by decide, hplain⟩

theorem zero_comes_back_as_one : validate (oneBlob "0") = .ok () ∧
    (text "0", .string (text "0")) ∈ (oneBlob "0").shortcuts blobShortcuts ∧
      Denotes (text "0", .string (text "0")) (0, text "0") ∧ (∀ c ∈ text "0", producible c) ∧
        RoundTrips (oneBlob "0") erased 0 (text "1") ∧
          ¬ RoundTrips (oneBlob "0") erased 0 (text "0") := by
  have hproducible : ∀ c ∈ text "0", producible c :=
    List.forall_mem_cons.mpr ⟨⟨rfl, 0x27, 0, rfl⟩, by simp⟩
  have hvalid : validate (oneBlob "0") = .ok () := by rfl
  have hid : (0 : UInt8) ≤ kLayerBMaxIndex := by decide
  have hiff := roundTrips_iff hvalid erased hid
  refine ⟨hvalid, List.mem_cons_self, by decide, hproducible, (hiff _).mpr (by decide), ?_⟩
  rw [hiff]
  decide

end Threeboard.Simulator
