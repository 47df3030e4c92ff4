import Threeboard.Storage.Confinement
import Mathlib.Data.Nat.Find

namespace Threeboard.Storage

open Actions Actions.Action StorageController

namespace Bench

variable {α β : Type}

structure TakesAt (x : Action Bench α) (n : ℕ) (w : Bench) : Prop where
  succeeds : (∀ k < n, w.fates k = .succeed) →
    ∃ a t, x w = (some a, t) ∧ t.fates = fun k => w.fates (k + n)
  fails : ∀ m < n, (∀ k < m, w.fates k = .succeed) → w.fates m ≠ .succeed →
    ∃ t, x w = (none, t) ∧ t.fates = fun k => w.fates (k + (m + 1))

theorem exists_first_fault {w : Bench} {n : ℕ} (h : ∃ m < n, w.fates m ≠ .succeed) :
    ∃ m < n, (∀ k < m, w.fates k = .succeed) ∧ w.fates m ≠ .succeed := by
  obtain ⟨hm, hfail⟩ := Nat.find_spec h
  refine ⟨Nat.find h, hm, fun k hk => ?_, hfail⟩
  by_contra hne
  exact Nat.find_min h hk ⟨hk.trans hm, hne⟩

namespace TakesAt

variable {x : Action Bench α} {f : α → Action Bench β} {n m : ℕ} {w : Bench}

theorem pure (a : α) (w : Bench) : TakesAt (Pure.pure a) 0 w :=
  ⟨fun _ => ⟨a, w, rfl, rfl⟩, fun _ hm => absurd hm (Nat.not_lt_zero _)⟩

theorem modify {f : Bench → Bench} (h : (f w).fates = w.fates) :
    TakesAt (Action.modify f) 0 w :=
  ⟨fun _ => ⟨(), f w, rfl, h⟩, fun _ hm => absurd hm (Nat.not_lt_zero _)⟩

theorem one (hgoes : w.fates 0 = .succeed → ∃ a t, x w = (some a, t) ∧ t.fates = w.popFate.fates)
    (hstops : w.fates 0 ≠ .succeed → ∃ t, x w = (none, t) ∧ t.fates = w.popFate.fates) :
    TakesAt x 1 w := by
  refine ⟨fun h => hgoes (h 0 Nat.one_pos), fun m hm _ hfail => ?_⟩
  obtain rfl : m = 0 := by omega
  exact hstops hfail

theorem bind (hx : TakesAt x n w) (hf : ∀ a t, x w = (some a, t) → TakesAt (f a) m t) :
    TakesAt (x >>= f) (n + m) w := by
  constructor
  · intro h
    obtain ⟨a, t, hrun, ht⟩ := hx.succeeds fun k hk => h k (by omega)
    have hmore : ∀ k < m, t.fates k = .succeed := fun k hk => by
      rw [ht]
      exact h (k + n) (by omega)
    obtain ⟨c, u, hrun', hu⟩ := (hf a t hrun).succeeds hmore
    refine ⟨c, u, by rw [bind_of_some hrun, hrun'], ?_⟩
    rw [hu, ht]
    simp only [Nat.add_assoc, Nat.add_comm m n]
  · intro i hi h hfail
    rcases Nat.lt_or_ge i n with hin | hni
    · obtain ⟨t, hrun, ht⟩ := hx.fails i hin h hfail
      exact ⟨t, bind_of_none hrun _, ht⟩
    · obtain ⟨j, rfl⟩ := Nat.exists_eq_add_of_le' hni
      obtain ⟨a, t, hrun, ht⟩ := hx.succeeds fun k hk => h k (by omega)
      have hmore : ∀ k < j, t.fates k = .succeed := fun k hk => by
        rw [ht]
        exact h (k + n) (by omega)
      obtain ⟨u, hrun', hu⟩ := (hf a t hrun).fails j (by omega) hmore (by rw [ht]; exact hfail)
      refine ⟨u, by rw [bind_of_some hrun, hrun'], ?_⟩
      rw [hu, ht]
      simp only [Nat.add_assoc, Nat.add_comm n 1]

theorem forM {body : α → Action Bench Unit} (h : ∀ a t, TakesAt (body a) n t) (xs : List α)
    (w : Bench) : TakesAt (ForM.forM xs body) (xs.length * n) w := by
  induction xs generalizing w with
  | nil =>
    rw [List.length_nil, Nat.zero_mul]
    exact pure () w
  | cons a rest ih =>
    rw [List.forM_cons, List.length_cons, Nat.succ_mul, Nat.add_comm]
    exact (h a w).bind fun _ t _ => ih t

theorem faulty (h : TakesAt x n w) (hnone : (x w).1 = none) : ∃ m < n, w.fates m ≠ .succeed := by
  by_contra hall
  have hsucceed : ∀ k < n, w.fates k = .succeed := fun k hk => by
    by_contra hne
    exact hall ⟨k, hk, hne⟩
  obtain ⟨a, t, hrun, -⟩ := h.succeeds hsucceed
  simp [hrun] at hnone

theorem none_iff (h : TakesAt x n w) : (x w).1 = none ↔ ∃ m < n, w.fates m ≠ .succeed := by
  refine ⟨h.faulty, fun hfault => ?_⟩
  obtain ⟨m, hm, hbefore, hfail⟩ := exists_first_fault hfault
  obtain ⟨t, hrun, -⟩ := h.fails m hm hbefore hfail
  rw [hrun]

theorem failing_iff (h : TakesAt x n w) (P : (ℕ → Fate) → Prop) :
    (x w).1 = none ∧ P (x w).2.fates ↔ ∃ m < n, (∀ k < m, w.fates k = .succeed) ∧
      w.fates m ≠ .succeed ∧ P fun k => w.fates (k + (m + 1)) := by
  constructor
  · rintro ⟨hnone, hp⟩
    obtain ⟨m, hm, hbefore, hfail⟩ := exists_first_fault (h.faulty hnone)
    obtain ⟨t, hrun, ht⟩ := h.fails m hm hbefore hfail
    rw [hrun, ht] at hp
    exact ⟨m, hm, hbefore, hfail, hp⟩
  · rintro ⟨m, hm, hbefore, hfail, hp⟩
    obtain ⟨t, hrun, ht⟩ := h.fails m hm hbefore hfail
    rw [hrun, ht]
    exact ⟨rfl, hp⟩

end TakesAt

section Accesses

variable (w : Bench)

theorem TakesAt.fated {y : Action Bench α} {z : Option UInt8 → Action Bench α} {w : Bench}
    (hy : ∀ t, ∃ a u, y t = (some a, u) ∧ u.fates = t.fates)
    (hz : ∀ residue t, ∃ u, z residue t = (none, u) ∧ u.fates = t.fates) :
    TakesAt (do match ← nextFate with
      | .succeed => y
      | .fail residue => z residue) 1 w := by
  refine .one (fun hfate => ?_) (fun hfate => ?_)
  · obtain ⟨a, u, hrun, hu⟩ := hy w.popFate
    exact ⟨a, u, (fated_succeeds hfate).trans hrun, hu⟩
  · obtain ⟨residue, hfated⟩ := fated_fails (y := y) (z := z) hfate
    obtain ⟨u, hrun, hu⟩ := hz residue w.popFate
    exact ⟨u, hfated.trans hrun, hu⟩

theorem failWrite_stops (a : Address) (residue : Option UInt8) (t : Bench) :
    ∃ u, failWrite a residue t = (none, u) ∧ u.fates = t.fates := by
  cases residue with
  | none => exact ⟨_, rfl, rfl⟩
  | some byte => exact ⟨_, rfl, rfl⟩

theorem flaky_read_takes (offset : UInt16) : TakesAt (flakyInternalEeprom.readByte offset) 1 w :=
  .fated (fun _ => ⟨_, _, rfl, rfl⟩) fun _ _ => ⟨_, rfl, rfl⟩

theorem flaky_write_takes (offset : UInt16) (byte : UInt8) :
    TakesAt (flakyInternalEeprom.writeByte offset byte) 1 w :=
  .fated (fun _ => ⟨_, _, rfl, rfl⟩) fun _ => failWrite_stops _ none

theorem external_read_takes (chip : Chip) (offset : UInt16) :
    TakesAt ((externalEeprom chip).readByte offset) 1 w :=
  .fated (fun _ => ⟨_, _, rfl, rfl⟩) fun _ _ => ⟨_, rfl, rfl⟩

theorem external_write_takes (chip : Chip) (offset : UInt16) (byte : UInt8) :
    TakesAt ((externalEeprom chip).writeByte offset byte) 1 w :=
  .fated (fun _ => ⟨_, _, rfl, rfl⟩) fun residue => failWrite_stops _ residue

theorem sendKeypress_takes (key mod : UInt8) : TakesAt (usbController.sendKeypress key mod) 1 w :=
  (TakesAt.modify (f := logKeypress key mod) rfl).bind fun _ _ _ =>
    .fated (fun _ => ⟨_, _, rfl, rfl⟩) fun _ _ => ⟨_, rfl, rfl⟩

end Accesses

section Blobs

variable {w : Bench} {id : UInt8}

def blobLength (w : Bench) (id : UInt8) : UInt8 :=
  w.memory (.internal, kInternalEepromLayerBLengthStart + id.toUInt16) + 1

theorem getBlobShortcutLength_value {length : UInt8} {t : Bench}
    (h : flakyController.getBlobShortcutLength id w = (some length, t)) :
    length = w.blobLength id := by
  rw [StorageController.getBlobShortcutLength] at h
  by_cases hid : id > kLayerBMaxIndex
  · simp [if_pos hid] at h
  · rw [if_neg hid] at h
    by_cases hfate : w.fates 0 = .succeed
    · have hread := (fated_succeeds hfate).symm.trans h
      exact (Option.some.inj (congrArg Prod.fst hread)).symm
    · have hfails : flakyInternalEeprom.readByte
          (kInternalEepromLayerBLengthStart + id.toUInt16) w = (none, w.popFate) :=
        fated_stops hfate fun _ => rfl
      have hread := hfails.symm.trans h
      simp at hread

theorem getBlobShortcutLength_takes (h : id ≤ kLayerBMaxIndex) :
    TakesAt (flakyController.getBlobShortcutLength id) 1 w := by
  rw [StorageController.getBlobShortcutLength, if_neg (UInt8.not_lt.mpr h)]
  exact flaky_read_takes w _

theorem clearBlobShortcut_takes (h : id ≤ kLayerBMaxIndex) :
    TakesAt (flakyController.clearBlobShortcut id) 1 w := by
  rw [StorageController.clearBlobShortcut, if_neg (UInt8.not_lt.mpr h)]
  exact flaky_write_takes w _ _

theorem appendToBlobShortcut_takes (h : id ≤ kLayerBMaxIndex) (hroom : w.blobLength id ≠ 255)
    (key mod : UInt8) : TakesAt (flakyController.appendToBlobShortcut id key mod) 4 w := by
  rw [StorageController.appendToBlobShortcut, if_neg (UInt8.not_lt.mpr h), flaky_blobEeprom_eq]
  refine (getBlobShortcutLength_takes h).bind (m := 3) fun length t hlength => ?_
  rw [getBlobShortcutLength_value hlength, if_neg hroom]
  exact (external_write_takes t _ _ _).bind (m := 2) fun _ u _ =>
    (external_write_takes u _ _ _).bind fun _ v _ => flaky_write_takes v _ _

theorem sendBlobPair_takes (id : UInt8) (i : ℕ) (t : Bench) :
    TakesAt (flakyController.sendBlobPair id i) 3 t := by
  simp only [StorageController.sendBlobPair, flaky_blobEeprom_eq]
  exact (external_read_takes t _ _).bind (m := 2) fun _ u _ =>
    (external_read_takes u _ _).bind fun _ v _ => sendKeypress_takes v _ _

theorem sendBlobShortcut_takes (h : id ≤ kLayerBMaxIndex) (hpairs : w.blobLength id ≠ 0) :
    TakesAt (flakyController.sendBlobShortcut id) (1 + (w.blobLength id).toNat * 3) w := by
  rw [StorageController.sendBlobShortcut, if_neg (UInt8.not_lt.mpr h)]
  refine (getBlobShortcutLength_takes h).bind fun length t hlength => ?_
  rw [getBlobShortcutLength_value hlength, if_neg hpairs]
  have hround := TakesAt.forM (sendBlobPair_takes id)
    (List.range (w.blobLength id).toNat) t
  rwa [List.length_range] at hround

theorem length_then_stop {f : UInt8 → Action Bench Unit} (hf : f (w.blobLength id) = Action.stop) :
    ((flakyController.getBlobShortcutLength id >>= f) w) =
      (none, (flakyController.getBlobShortcutLength id w).2) := by
  rcases hrun : flakyController.getBlobShortcutLength id w with ⟨_ | length, t⟩
  · exact bind_of_none hrun f
  · rw [bind_of_some hrun, getBlobShortcutLength_value hrun, hf]
    rfl

theorem appendToBlobShortcut_none_iff (w : Bench) (id key mod : UInt8) :
    (flakyController.appendToBlobShortcut id key mod w).1 = none ↔
      id > kLayerBMaxIndex ∨ w.blobLength id = 255 ∨ ∃ n < 4, w.fates n ≠ .succeed := by
  by_cases hid : id > kLayerBMaxIndex
  · rw [StorageController.appendToBlobShortcut, if_pos hid]
    exact iff_of_true rfl (.inl hid)
  · by_cases hfull : w.blobLength id = 255
    · rw [StorageController.appendToBlobShortcut, if_neg hid, length_then_stop (if_pos hfull)]
      exact iff_of_true rfl (.inr (.inl hfull))
    · rw [(appendToBlobShortcut_takes (UInt8.not_lt.mp hid) hfull key mod).none_iff,
        or_iff_right hid, or_iff_right hfull]

theorem clearBlobShortcut_none_iff (w : Bench) (id : UInt8) :
    (flakyController.clearBlobShortcut id w).1 = none ↔
      id > kLayerBMaxIndex ∨ w.fates 0 ≠ .succeed := by
  by_cases hid : id > kLayerBMaxIndex
  · rw [StorageController.clearBlobShortcut, if_pos hid]
    exact iff_of_true rfl (.inl hid)
  · rw [(clearBlobShortcut_takes (UInt8.not_lt.mp hid)).none_iff, or_iff_right hid]
    simp

theorem getBlobShortcutLength_none_iff (w : Bench) (id : UInt8) :
    (flakyController.getBlobShortcutLength id w).1 = none ↔
      id > kLayerBMaxIndex ∨ w.fates 0 ≠ .succeed := by
  by_cases hid : id > kLayerBMaxIndex
  · rw [StorageController.getBlobShortcutLength, if_pos hid]
    exact iff_of_true rfl (.inl hid)
  · rw [(getBlobShortcutLength_takes (UInt8.not_lt.mp hid)).none_iff, or_iff_right hid]
    simp

theorem getBlobShortcutLength_fates (w : Bench) (h : id ≤ kLayerBMaxIndex) :
    (flakyController.getBlobShortcutLength id w).2.fates = w.popFate.fates := by
  have htakes : TakesAt (flakyController.getBlobShortcutLength id) 1 w :=
    getBlobShortcutLength_takes h
  by_cases hfate : w.fates 0 = .succeed
  · obtain ⟨length, t, hrun, ht⟩ := htakes.succeeds fun k hk => by
      obtain rfl : k = 0 := by omega
      exact hfate
    rw [hrun, ht]
    rfl
  · obtain ⟨t, hrun, ht⟩ := htakes.fails 0 Nat.one_pos (fun k hk => absurd hk (Nat.not_lt_zero k)) hfate
    rw [hrun, ht]
    rfl

theorem sendBlobShortcut_failing_iff (w : Bench) (h : id ≤ kLayerBMaxIndex)
    (P : (ℕ → Fate) → Prop) : (flakyController.sendBlobShortcut id w).1 = none ∧
        P (flakyController.sendBlobShortcut id w).2.fates ↔
      ∃ m ≤ (w.blobLength id).toNat * 3, (∀ k < m, w.fates k = .succeed) ∧
        (w.blobLength id = 0 ∨ w.fates m ≠ .succeed) ∧ P fun k => w.fates (k + (m + 1)) := by
  by_cases hempty : w.blobLength id = 0
  · have hrun : flakyController.sendBlobShortcut id w =
        (none, (flakyController.getBlobShortcutLength id w).2) := by
      rw [StorageController.sendBlobShortcut, if_neg (UInt8.not_lt.mpr h)]
      exact length_then_stop (if_pos hempty)
    rw [hrun, getBlobShortcutLength_fates w h, hempty]
    constructor
    · rintro ⟨-, hp⟩
      exact ⟨0, le_refl 0, fun k hk => absurd hk (Nat.not_lt_zero k), .inl rfl, hp⟩
    · rintro ⟨m, hm, -, -, hp⟩
      obtain rfl : m = 0 := Nat.le_zero.mp hm
      exact ⟨rfl, hp⟩
  · rw [(sendBlobShortcut_takes h hempty).failing_iff P]
    simp only [Nat.add_comm 1, Nat.lt_succ_iff, or_iff_right hempty]

end Blobs

end Bench

end Threeboard.Storage
