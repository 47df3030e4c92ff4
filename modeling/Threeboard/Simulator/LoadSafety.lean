import Threeboard.Simulator.TextRoundTrip

namespace Threeboard.Simulator

open Actions Action Integration Storage

section Outside

variable {I : Memory → Prop}

structure OutsideArrays (I : Memory → Prop) : Prop where
  kept : ∀ {m m' : Memory}, (∀ a, size a.1 ≤ a.2.toNat → m' a = m a) → I m → I m'

theorem keeps_throwing {α : Type} (x : Option α) : Keeps I (throwing x) := fun _ h => h

theorem keeps_forItems (json : Json) (property : JsonProperty) {body : Text → Json → Action Memory Unit}
    (hbody : ∀ idx value, Keeps I (body idx value)) : Keeps I (forItems json property body) :=
  (keeps_throwing _).bind fun _ => .forM (fun item : Text × Json => hbody item.1 item.2) _

variable (h : OutsideArrays I)

include h

theorem keeps_fill (chip : Chip) : Keeps I (fill chip) := by
  refine fun m hm => h.kept (fun a ha => ?_) hm
  rw [fill, modify_run]
  refine if_neg fun hin => ?_
  rw [hin.1] at ha
  omega

theorem keeps_put (chip : Chip) (i : ℤ) (byte : UInt8) : Keeps I (put chip i byte) := by
  rw [put]
  split
  · rename_i hi
    refine fun m hm => h.kept (fun a ha => ?_) hm
    rw [modify_run]
    refine Function.update_of_ne ?_ _ _
    rintro rfl
    simp only [UInt16.toNat_ofNat'] at ha
    have hsmall : i.toNat % 2 ^ 16 ≤ i.toNat := Nat.mod_le _ _
    omega
  · exact .stop

theorem keeps_putLength (base : ℤ) (idx : Text) (value : Json) : Keeps I (putLength base idx value) :=
  (keeps_throwing _).bind fun _ => (keeps_throwing _).bind fun _ => keeps_put h _ _ _

theorem keeps_putCharacter (idx : Text) (value : Json) : Keeps I (putCharacter idx value) :=
  (keeps_throwing _).bind fun _ => (keeps_throwing _).bind fun _ => keeps_put h _ _ _

theorem keeps_putWord (idx : Text) (value : Json) : Keeps I (putWord idx value) :=
  (keeps_throwing _).bind fun _ => .forM (fun _ => (keeps_throwing _).bind fun _ =>
    keeps_put h _ _ _) _

theorem keeps_putPair (chip : Chip) (eepromIdx : ℤ) (keycode modcode : UInt8) :
    Keeps I (putPair chip eepromIdx keycode modcode) :=
  (keeps_put h _ _ _).bind fun _ => keeps_put h _ _ _

theorem keeps_putBlob0 (idx : Text) (value : Json) : Keeps I (putBlob0 idx value) :=
  (keeps_throwing _).bind fun _ => (keeps_throwing _).bind fun _ =>
    .forM (fun _ => .ite (keeps_putPair h _ _ _ _) (.pure ())) _

theorem keeps_putBlob1 (idx : Text) (value : Json) : Keeps I (putBlob1 idx value) :=
  (keeps_throwing _).bind fun _ => (keeps_throwing _).bind fun _ =>
    .forM (fun _ => .ite (keeps_putPair h _ _ _ _) (.pure ())) _

theorem keeps_configure (json : Json) : Keeps I (configure json) := by
  refine Keeps.bind ?_ fun _ => Keeps.bind ?_ fun _ => ?_
  · exact (keeps_fill h _).bind fun _ => (keeps_forItems _ _ (keeps_putCharacter h)).bind fun _ =>
      (keeps_forItems _ _ (keeps_putLength h _)).bind fun _ =>
        keeps_forItems _ _ (keeps_putLength h _)
  · exact (keeps_fill h _).bind fun _ => (keeps_forItems _ _ (keeps_putWord h)).bind fun _ =>
      keeps_forItems _ _ (keeps_putBlob0 h)
  · exact (keeps_fill h _).bind fun _ => keeps_forItems _ _ (keeps_putBlob1 h)

end Outside

structure Loads (json : Json) (memory : Memory) : Prop where
  completes : (configure json memory).1 = some ()
  inside : ∀ a, size a.1 ≤ a.2.toNat → (configure json memory).2 a = memory a

theorem validated_file_loads_iff (json : Json) (memory : Memory) (hvalid : validate json = .ok ()) :
    Loads json memory ↔ NoTextAt248 json := by
  obtain ⟨file, hfile⟩ := validate_ok hvalid
  rw [← storable_iff hfile]
  constructor
  · intro hloads
    by_contra hstorable
    have hstop := configure_stops hfile hstorable memory
    rw [hloads.completes] at hstop
    cases hstop
  · intro hstorable
    obtain ⟨m, hrun, -⟩ := configure_represents hfile hstorable memory
    have houtside : OutsideArrays fun m => ∀ a, size a.1 ≤ a.2.toNat → m a = memory a :=
      ⟨fun hkept hm a ha => (hkept a ha).trans (hm a ha)⟩
    exact ⟨by rw [hrun], keeps_configure houtside json memory fun _ _ => rfl⟩

theorem ab_loads : Loads (oneBlob "ab") erased :=
  (validated_file_loads_iff (oneBlob "ab") erased rfl).mpr (by decide)

def blobAt248 : Json := .object [
  (text "blob_shortcuts", .object [(text "248", .string (text "a"))]),
  (text "character_shortcuts", .object []),
  (text "word_shortcuts", .object [])]

theorem text_at_248_throws : validate blobAt248 = .ok () ∧ ¬ Loads blobAt248 erased := by
  have hvalid : validate blobAt248 = .ok () := rfl
  refine ⟨hvalid, fun hloads => ?_⟩
  obtain ⟨file, hfile⟩ := validate_ok hvalid
  have hstop := configure_stops hfile (by rw [storable_iff hfile]; decide) erased
  rw [hloads.completes] at hstop
  cases hstop

end Threeboard.Simulator
