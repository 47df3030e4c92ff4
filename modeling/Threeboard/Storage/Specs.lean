import Threeboard.Storage.Shortcuts

namespace Threeboard.Storage

open Actions Actions.Action Records

namespace Bench

def view (b : Bench) : Cell → UInt8 := layout.view b.memory

theorem view_apply (b : Bench) (f : Cell) : b.view f = b.memory f.address + 1 := rfl

theorem view_erased (fates : ℕ → Fate) : (start erased fates).view = fun _ => 0 := by
  funext f
  change (0xFF : UInt8) + 1 = 0
  decide

def Calm (b : Bench) : Prop := ∀ n, b.fates n = .succeed

structure After (b : Bench) (v : Cell → UInt8) (t : Bench) : Prop where
  view : t.view = v
  keypresses : t.keypresses = b.keypresses
  calm : b.Calm → t.Calm

theorem After.refl (b : Bench) : After b b.view b := ⟨rfl, rfl, id⟩

theorem After.trans {b t u : Bench} {v w : Cell → UInt8} (h : After b v t) (h' : After t w u) :
    After b w u :=
  ⟨h'.view, h'.keypresses.trans h.keypresses, fun hc => h'.calm (h.calm hc)⟩

theorem wp_nextFate {Q : Fate → Bench → Prop} {E : Bench → Prop} {b : Bench} :
    wp nextFate Q E b ↔ Q (b.fates 0) b.popFate := Iff.rfl

section Fated

variable {α : Type} {y : Action Bench α} {z : Option UInt8 → Action Bench α} {b : Bench}

theorem fated_succeeds (h : b.fates 0 = .succeed) :
    (do match ← nextFate with
      | .succeed => y
      | .fail residue => z residue) b = y b.popFate := by
  simp only [nextFate, bind_assoc, gets_bind, modify_bind, pure_bind, h]

theorem fated_fails (h : b.fates 0 ≠ .succeed) : ∃ residue,
    (do match ← nextFate with
      | .succeed => y
      | .fail residue => z residue) b = z residue b.popFate := by
  cases hfate : b.fates 0 with
  | succeed => exact absurd hfate h
  | fail residue =>
    exact ⟨residue, by simp only [nextFate, bind_assoc, gets_bind, modify_bind, pure_bind, hfate]⟩

theorem fated_stops {result : Option α × Bench} (h : b.fates 0 ≠ .succeed)
    (hz : ∀ residue, z residue b.popFate = result) :
    (do match ← nextFate with
      | .succeed => y
      | .fail residue => z residue) b = result := by
  obtain ⟨residue, hrun⟩ := fated_fails (y := y) h
  exact hrun.trans (hz residue)

end Fated

theorem poke_memory_self (b : Bench) (a : Address) (byte : UInt8) :
    (b.poke a byte).memory a = byte := by
  simp [poke]

theorem poke_memory_of_ne (b : Bench) {a c : Address} (h : c ≠ a) (byte : UInt8) :
    (b.poke a byte).memory c = b.memory c := by
  simp [poke, h]

theorem popFate_after (b : Bench) : After b b.view b.popFate :=
  ⟨rfl, rfl, fun hc n => hc (n + 1)⟩

theorem view_poke (b : Bench) (f : Cell) (byte : UInt8) :
    (b.poke f.address byte).view = Function.update b.view f (byte + 1) :=
  layout.view_update_place b.memory f byte

theorem poke_after (b : Bench) (f : Cell) (byte : UInt8) :
    After b (Function.update b.view f (byte + 1)) ((b.logWrite f.address).poke f.address byte) :=
  ⟨view_poke (b.logWrite f.address) f byte, rfl, id⟩

theorem poke_encoded_after (b : Bench) (f : Cell) (x : UInt8) :
    After b (Function.update b.view f x) ((b.logWrite f.address).poke f.address (x - 1)) :=
  ⟨layout.view_update_encode b.memory f x, rfl, id⟩

theorem failWrite_spec (f : Cell) (residue : Option UInt8) (b : Bench) :
    wp (failWrite f.address residue) (fun _ _ => False)
      (fun t => ∃ y, After b (Function.update b.view f y) t) b := by
  cases residue with
  | some byte => exact ⟨byte + 1, poke_after b f byte⟩
  | none => exact ⟨b.view f, (Function.update_eq_self f b.view).symm, rfl, id⟩

theorem internal_read {f : Cell} {offset : UInt16} (h : f.address = (.internal, offset))
    (b : Bench) : internalEeprom.readByte offset b = (some (b.view f), b) := by
  rw [view_apply, h]
  rfl

theorem internal_write {f : Cell} {offset : UInt16} (h : f.address = (.internal, offset))
    (x : UInt8) (b : Bench) : wp (internalEeprom.writeByte offset x)
      (fun _ t => After b (Function.update b.view f x) t) (fun _ => False) b := by
  have hafter := poke_encoded_after b f x
  rw [h] at hafter
  exact hafter

theorem external_read {f : Cell} {chip : Chip} {offset : UInt16} (h : f.address = (chip, offset))
    (b : Bench) : wp ((externalEeprom chip).readByte offset)
      (fun x t => x = b.view f ∧ After b b.view t)
      (fun t => ¬ b.Calm ∧ After b b.view t) b := by
  simp only [externalEeprom, wp_bind, wp_nextFate]
  cases hfate : b.fates 0 with
  | succeed => exact ⟨by rw [view_apply, h]; rfl, b.popFate_after⟩
  | fail residue => exact ⟨fun hc => by simp [hc 0] at hfate, b.popFate_after⟩

theorem external_write {f : Cell} {chip : Chip} {offset : UInt16} (h : f.address = (chip, offset))
    (x : UInt8) (b : Bench) : wp ((externalEeprom chip).writeByte offset x)
      (fun _ t => After b (Function.update b.view f x) t)
      (fun t => ¬ b.Calm ∧ ∃ y, After b (Function.update b.view f y) t) b := by
  simp only [externalEeprom, wp_bind, wp_nextFate]
  cases hfate : b.fates 0 with
  | succeed =>
    have hafter := b.popFate_after.trans (poke_encoded_after b.popFate f x)
    rw [h] at hafter
    exact hafter
  | fail residue =>
    rw [← h]
    refine wp_mono (failWrite_spec f residue b.popFate) (fun _ _ hf => hf.elim) ?_
    rintro t ⟨y, hy⟩
    exact ⟨fun hc => by simp [hc 0] at hfate, y, b.popFate_after.trans hy⟩

theorem sendKeypress_spec (key mod : UInt8) (b : Bench) : wp (usbController.sendKeypress key mod)
      (fun _ t => t.view = b.view ∧ (b.Calm → t.Calm) ∧ t.keypresses = b.keypresses ++ [(key, mod)])
      (fun t => t.view = b.view ∧ ¬ b.Calm ∧ t.keypresses = b.keypresses ++ [(key, mod)]) b := by
  simp only [usbController, wp_bind, wp_modify, wp_nextFate]
  cases hfate : (logKeypress key mod b).fates 0 with
  | succeed => exact ⟨rfl, fun hc n => hc (n + 1), rfl⟩
  | fail residue => exact ⟨rfl, fun hc => by simp [logKeypress, hc 0] at hfate, rfl⟩

end Bench

end Threeboard.Storage
