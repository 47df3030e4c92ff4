import Threeboard.Library.Runs
import Threeboard.Layers.Asking

namespace Threeboard.Layers

open Actions Actions.Action Runs Keys Storage

variable {σ : Type}

def LayerId.code : LayerId → ℕ
  | .dflt => 0
  | .r => 1
  | .g => 2
  | .b => 3

theorem LayerId.code_next (l : LayerId) : l.next.code = (l.code + 1) % 4 := by
  cases l <;> rfl

namespace Cursors

variable {c : Cursors}

theorem code_press (h : c.OneProg) (k : Keypress) : (c.press k).currentLayer.code =
    (c.currentLayer.code + if k = .xyz ∧ ¬ c.prog then 1 else 0) % 4 := by
  simp only [Cursors.press, h.leaves_iff]
  by_cases hk : k = .xyz ∧ ¬ c.prog
  · simp only [if_pos hk]
    exact LayerId.code_next _
  · simp only [if_neg hk, currentLayer_edit]
    cases c.currentLayer <;> rfl

end Cursors

def switches (d : Devices σ) : Board σ → List Keypress → ℕ
  | _, [] => 0
  | b, k :: rest =>
    (if k = .xyz ∧ ¬ b.cursors.prog then 1 else 0) + switches d (LayerController.press d b k).2 rest

theorem final_oneProg {d : Devices σ} {b : Board σ} (h : b.cursors.OneProg) (keys : List Keypress) :
    (final (LayerController.press d) b keys).cursors.OneProg := by
  induction keys generalizing b with
  | nil => exact h
  | cons k rest ih =>
    refine ih ?_
    rw [press_cursors]
    exact h.press k

theorem final_code {d : Devices σ} {b : Board σ} (h : b.cursors.OneProg) (keys : List Keypress) :
    (final (LayerController.press d) b keys).currentLayer.code =
      (b.currentLayer.code + switches d b keys) % 4 := by
  induction keys generalizing b with
  | nil => cases hb : b.currentLayer <;> simp [hb, LayerId.code, switches]
  | cons k rest ih =>
    have hcur : ∀ b : Board σ, b.currentLayer = b.cursors.currentLayer := fun _ => rfl
    have hpress := Cursors.code_press h k
    rw [← press_cursors d b k, ← hcur, ← hcur] at hpress
    rw [final_cons, ih (by rw [press_cursors]; exact h.press k), hpress, switches]
    omega

def flakyDevices : Devices Bench := ⟨Bench.usbController, Bench.flakyController.methods⟩

def stored (fates : ℕ → Fate) (before : List Request) : Bench :=
  before.foldl (fun b r => (r.run Bench.flakyController.methods b).2) (Bench.start erased fates)

theorem stored_fit (fates : ℕ → Fate) (before : List Request) :
    (stored fates before).WordsFit := by
  have hstart : (Bench.start erased fates).WordsFit := fun id => by
    rw [Bench.view_erased]
    exact Nat.zero_le _
  rw [stored]
  generalize Bench.start erased fates = b at hstart
  induction before generalizing b with
  | nil => exact hstart
  | cons r rest ih =>
    have hr := Bench.run_confined (w := b) r (.inr rfl) b (.refl _ hstart)
    exact ih _ hr.fit

theorem press_confined {b : Board Bench} (h : b.world.WordsFit) (k : Keypress) :
    b.world.Confined (if b.cursors.prog then b.cursors.selected else none)
      (LayerController.press flakyDevices b k).2.world := by
  refine press_keeps (fun key mod => Bench.sendKeypress_confined key mod) ?_ (.refl _ h) k
  rintro r (hr | ⟨hp, hr⟩)
  · exact Bench.run_confined r (.inl hr)
  · exact Bench.run_confined r (.inr (by rw [hr, if_pos hp]))

theorem final_fit {b : Board Bench} (h : b.world.WordsFit) (keys : List Keypress) :
    (final (LayerController.press flakyDevices) b keys).world.WordsFit := by
  induction keys generalizing b with
  | nil => exact h
  | cons k rest ih => exact ih (press_confined h k).fit

theorem modes_layers_and_storage (fates : ℕ → Fate) (before : List Request)
    (keys : List Keypress) :
    let start := Board.boot (stored fates before)
    let b := final (LayerController.press flakyDevices) start keys
    (∀ l, b.cursors.progOf l → l = b.currentLayer) ∧
      b.currentLayer.code = switches flakyDevices start keys % 4 ∧
      ∀ k, let t := (LayerController.press flakyDevices b k).2
        (t.currentLayer ≠ b.currentLayer → ¬ t.cursors.prog) ∧
        (¬ b.cursors.prog → b.world.Edits [] t.world) ∧
        (b.cursors.prog → ∃ cells, b.world.Edits cells t.world ∧
          ∀ f ∈ cells, some f.record = b.cursors.selected) ∧
        ∀ f : Cell, some f.record ≠ b.cursors.selected → t.world.view f = b.world.view f := by
  intro start b
  have hone : b.cursors.OneProg := final_oneProg (boot_oneProg _) keys
  have hstart : start.world.WordsFit := stored_fit fates before
  have hfit : b.world.WordsFit := final_fit hstart keys
  refine ⟨fun l hl => (hone l hl).1, ?_, fun k => ?_⟩
  · rw [final_code (boot_oneProg _) keys]
    simp [start, Board.boot, LayerId.code]
  · intro t
    have hcursors : t.cursors = b.cursors.press k := press_cursors flakyDevices b k
    obtain ⟨-, cells, hedits, hcells⟩ := press_confined hfit k
    refine ⟨fun hne => ?_, fun hp => ?_, fun hp => ⟨cells, hedits, ?_⟩, fun f hf => ?_⟩
    · rw [hcursors]
      refine hone.entered ?_
      rwa [← hcursors]
    · have hnil : cells = [] := List.eq_nil_iff_forall_not_mem.mpr fun f hf => by
        simpa [hp] using hcells f hf
      rwa [hnil] at hedits
    · simpa [hp] using hcells
    · refine hedits.view fun hmem => ?_
      have hrec := hcells f hmem
      split at hrec
      · exact hf hrec
      · simp at hrec

end Threeboard.Layers
