import Threeboard.Events.EventLoop
import Threeboard.Layers.Modes
import Threeboard.Layers.Reporting
import Threeboard.Storage.Faults

namespace Threeboard.Events

open Actions Actions.Action Runs Keys Layers Leds Storage

section Iterating

variable {σ : Type} (d : Devices σ)

def pulseErr (b : Board σ) : Board σ := { b with ledState := b.ledState.setErr .pulse }

def runKeypress (b : Board σ) (k : Keypress) : Board σ :=
  let result := LayerController.press d b k
  if ¬ result.1 then pulseErr result.2 else result.2

theorem endIteration_board (t : EventLoop σ) (k : Keypress) :
    (t.endIteration (LayerController.handleEvent d k)).board = runKeypress d t.board k := by
  rw [runKeypress, LayerController.press, EventLoop.endIteration]
  rcases LayerController.handleEvent d k t.board with ⟨_ | _, b⟩ <;> rfl

structure ErrorsShown (b : Board σ) (k : Keypress) : Prop where
  status : (LayerController.press d b k).1 = false ↔ false ∈ storageResults d b k
  err : runKeypress d b k = if false ∈ storageResults d b k
    then pulseErr (LayerController.press d b k).2 else (LayerController.press d b k).2

theorem errorsShown_iff (b : Board σ) (k : Keypress) : ErrorsShown d b k ↔ ¬ Hides d b k := by
  rw [← reported_iff]
  refine ⟨ErrorsShown.status, fun h => ⟨h, ?_⟩⟩
  have hstatus : ¬ (LayerController.press d b k).1 = true ↔ false ∈ storageResults d b k := by
    rw [Bool.not_eq_true]
    exact h
  simp only [runKeypress, hstatus]

end Iterating

section Swallowing

variable {b : Board Bench} {k : Keypress}

-- The accesses of the keypress, to the chips and to the host, have the fates to come in order. A
-- failed send goes unseen if the length is read again without a fault.
def Swallows (b : Board Bench) (k : Keypress) : Prop :=
  let length := b.world.blobLength b.layerB.shortcutId
  let invalid := b.layerB.shortcutId > kLayerBMaxIndex
  b.currentLayer = .b ∧
    match k with
    | .z =>
      if b.layerB.prog then invalid ∨ length = 255 ∨ ∃ n < 4, b.world.fates n ≠ .succeed
      else ¬ invalid ∧ ∃ m ≤ length.toNat * 3, (∀ n < m, b.world.fates n = .succeed) ∧
        (length = 0 ∨ b.world.fates m ≠ .succeed) ∧ b.world.fates (m + 1) = .succeed
    | .xy => b.layerB.prog ∧ (invalid ∨ b.world.fates 0 ≠ .succeed)
    | _ => False

theorem display_none_iff (b : Board Bench) : (LayerB.display flakyDevices b).1 = none ↔
    ¬ b.layerB.prog ∧ (b.layerB.shortcutId > kLayerBMaxIndex ∨ b.world.fates 0 ≠ .succeed) := by
  rw [← Bench.getBlobShortcutLength_none_iff]
  simp only [LayerB.display, gets_bind]
  by_cases hp : b.layerB.prog
  · rw [if_pos hp]
    exact iff_of_false (by simp [Layer.updateLedState]) fun h => h.1 hp
  · rw [if_neg hp, and_iff_right hp]
    change ((onWorld (Bench.flakyController.getBlobShortcutLength _) >>= _) b).1 = none ↔ _
    rcases hrun : Bench.flakyController.getBlobShortcutLength b.layerB.shortcutId b.world with
      ⟨_ | length, w⟩
    · rw [bind_of_none (t := { b with world := w }) (by simp [onWorld, hrun])]
      exact iff_of_true rfl rfl
    · rw [bind_of_some (onWorld_of_some hrun)]
      simp [Layer.updateLedState]

theorem hides_of_ignored {x : Action Bench Unit} (hx : b.layerB.ignored flakyDevices k = some x) :
    Hides flakyDevices b k ↔ b.currentLayer = .b ∧ (x b.world).1 = none ∧
      (b.layerB.prog ∨ b.layerB.shortcutId ≤ kLayerBMaxIndex ∧ (x b.world).2.fates 0 = .succeed) := by
  have hdisplay := display_none_iff { b with world := (x b.world).2 }
  have hgoes : (LayerB.display flakyDevices { b with world := (x b.world).2 }).1 ≠ none ↔
      b.layerB.prog ∨ b.layerB.shortcutId ≤ kLayerBMaxIndex ∧ (x b.world).2.fates 0 = .succeed := by
    rw [ne_eq, hdisplay, not_and_or, not_not, not_or, not_not, gt_iff_lt, UInt8.not_lt]
  rw [← hgoes]
  constructor
  · rintro ⟨y, hcur, hy, hfails, hshows⟩
    obtain rfl : x = y := Option.some.inj (hx.symm.trans hy)
    exact ⟨hcur, hfails, hshows⟩
  · rintro ⟨hcur, hfails, hshows⟩
    exact ⟨x, hcur, hx, hfails, hshows⟩

theorem not_hides (hx : b.layerB.ignored flakyDevices k = none) : ¬ Hides flakyDevices b k := by
  rintro ⟨x, -, hy, -⟩
  simp [hx] at hy

theorem hides_z_iff (b : Board Bench) : Hides flakyDevices b .z ↔ Swallows b .z := by
  by_cases hp : b.layerB.prog
  · have hx : b.layerB.ignored flakyDevices .z = some (Bench.flakyController.appendToBlobShortcut
        b.layerB.shortcutId b.layerB.keyCode b.layerB.modcode) := congrArg some (if_pos hp)
    simp only [hides_of_ignored hx, Swallows, hp, true_or, and_true, if_true]
    exact and_congr_right fun _ => Bench.appendToBlobShortcut_none_iff b.world _ _ _
  · have hx : b.layerB.ignored flakyDevices .z =
        some (Bench.flakyController.sendBlobShortcut b.layerB.shortcutId) := congrArg some (if_neg hp)
    simp only [hides_of_ignored hx, Swallows, hp, Bool.false_eq_true, false_or, if_false, gt_iff_lt,
      UInt8.not_lt]
    refine and_congr_right fun _ => and_left_comm.trans (and_congr_right fun hid => ?_)
    have hsend := Bench.sendBlobShortcut_failing_iff b.world hid fun fates => fates 0 = .succeed
    simpa only [Nat.zero_add] using hsend

theorem hides_xy_iff (b : Board Bench) : Hides flakyDevices b .xy ↔ Swallows b .xy := by
  by_cases hp : b.layerB.prog
  · have hx : b.layerB.ignored flakyDevices .xy =
        some (Bench.flakyController.clearBlobShortcut b.layerB.shortcutId) := if_pos hp
    simp only [hides_of_ignored hx, Swallows, hp, true_or, and_true, true_and]
    exact and_congr_right fun _ => Bench.clearBlobShortcut_none_iff b.world _
  · exact iff_of_false (not_hides (if_neg hp)) fun h => hp h.2.1

theorem hides_iff (b : Board Bench) (k : Keypress) : Hides flakyDevices b k ↔ Swallows b k := by
  cases k with
  | z => exact hides_z_iff b
  | xy => exact hides_xy_iff b
  | _ => exact iff_of_false (not_hides rfl) fun h => h.2

end Swallowing

theorem storage_errors_shown_iff (memory : Memory) (fates : ℕ → Fate) (keys : List Keypress) :
    let start := Board.boot (Bench.start memory fates)
    Obeys (ErrorsShown flakyDevices) start (path (runKeypress flakyDevices) start keys) ↔
      Obeys (fun b k => ¬ Swallows b k) start (path (runKeypress flakyDevices) start keys) := by
  have hsame : ErrorsShown flakyDevices = fun b k => ¬ Swallows b k := by
    funext b k
    rw [errorsShown_iff, hides_iff]
  rw [hsame]

theorem empty_blob_sent_silently :
    let start := Board.boot (Bench.start erased fun _ => .succeed)
    ¬ Obeys (ErrorsShown flakyDevices) start
      (path (runKeypress flakyDevices) start [.xyz, .xyz, .xyz, .z]) := by
  rintro start ⟨-, -, -, hshown, -⟩
  have hstatus := hshown.status
  revert hstatus
  decide +kernel

end Threeboard.Events
