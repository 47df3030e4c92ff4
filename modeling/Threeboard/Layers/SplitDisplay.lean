import Threeboard.Layers.Asking
import Threeboard.Layers.Display
import Threeboard.Storage.Refinement
import Threeboard.Library.Bytes

namespace Threeboard.Layers

open Actions Actions.Action Runs Keys Storage Layer

section Soundness

def Sound (w : Bench) : Prop := ∃ s, Represents w.view s

theorem request_sound (r : Request) : Keeps Sound (r.run Bench.controller.methods) := by
  rintro w ⟨s, hs⟩
  have hspec := Bench.serve_spec hs r
  rcases hrun : r.run Bench.controller.methods w with ⟨_ | output, t⟩
  · exact ⟨s, (wp_none hspec hrun).represents⟩
  · exact ⟨_, (wp_some hspec hrun).represents⟩

theorem sendKeypress_sound (key mod : UInt8) :
    Keeps Sound (Bench.usbController.sendKeypress key mod) := by
  rintro w ⟨s, hs⟩
  have hspec := Bench.sendKeypress_spec key mod w
  rcases hrun : Bench.usbController.sendKeypress key mod w with ⟨_ | _, t⟩
  · exact ⟨s, (wp_none hspec hrun).1 ▸ hs⟩
  · exact ⟨s, (wp_some hspec hrun).1 ▸ hs⟩

theorem pressed_sound {b : Board Bench} (h : Sound b.world) (k : Keypress) :
    Sound (pressed b k).world := by
  have hkey : ∀ key mod, Keeps Sound (faultyDevices.usbController.sendKeypress key mod) :=
    sendKeypress_sound
  have hask : ∀ r, b.cursors.MayAsk r → Keeps Sound (r.run faultyDevices.storageController) :=
    fun r _ => request_sound r
  exact press_keeps hkey hask h k

theorem start_sound (fates : ℕ → Fate) : Sound (Bench.start erased fates) :=
  ⟨_, Bench.start_represents fates⟩

end Soundness

variable {b : Board Bench}

def Board.wordLength (b : Board Bench) : UInt8 := b.world.view (.wordLength b.layerG.shortcutId)

def Board.ShowsWord (b : Board Bench) : Prop := b.currentLayer = .g ∧ ¬ b.layerG.prog

-- Bank 1 as the manual has it: the length of the word above, the code of its next sending below.
structure Split (b : Board Bench) : Prop where
  length : b.ledState.bank1 >>> 4 = b.wordLength
  code : b.ledState.bank1 &&& 15 = b.layerG.wordModCode
  code_lt : b.layerG.wordModCode < 16

def SplitShown (b : Board Bench) : Prop := b.ShowsWord → Split b

def Packed (b : Board Bench) : Prop :=
  b.ShowsWord → b.ledState.bank1 = b.wordLength <<< 4 ||| b.layerG.wordModCode

theorem LayerG.display_packs :
    wp (LayerG.display faultyDevices) (fun _ => Packed) (fun _ => False) b := by
  simp only [LayerG.display, wp_bind, wp_gets]
  refine wp_of_some (onWorld_of_some (Bench.internal_read (f := .wordLength _) rfl b.world)) ?_
  refine wp_ite.mpr ⟨fun hp hshows => ?_, fun _ _ => rfl⟩
  exact (hshows.2 hp).elim

theorem LayerG.transitionedToLayer_packs :
    wp (LayerG.transitionedToLayer faultyDevices) (fun _ => Packed) (fun _ => False) b := by
  simp only [LayerG.transitionedToLayer, wp_bind, wp_gets]
  exact wp_of_some (onWorld_of_some (Bench.internal_read (f := .wordLength _) rfl b.world))
    fun _ => rfl

theorem packed_of_view (h : Packed b) {w : Bench} (hview : w.view = b.world.view) :
    Packed { b with world := w } := by
  intro hshows
  simpa only [Board.wordLength, hview] using h hshows

theorem LayerG.onKeypress_packs (h : Packed b) (hsound : Sound b.world) (k : Keypress) :
    wp (b.layerG.onKeypress faultyDevices k) (fun _ _ => True) Packed b := by
  by_cases hp : b.layerG.prog
  · refine wp_mono (LayerG.onKeypress_spec k) (fun _ _ _ => trivial) ?_
    rintro t ⟨w, rfl⟩ hshows
    exact (hshows.2 hp).elim
  · obtain ⟨s, hs⟩ := hsound
    obtain ⟨cur, ld, lr, ⟨prog, id, code, key⟩, lb, led, world⟩ := b
    obtain rfl : prog = false := Bool.not_eq_true _ ▸ hp
    cases k
    case z =>
      have hsend : wp (onWorld (Bench.controller.sendWordShortcut id code)) (fun _ _ => True) Packed
          ⟨cur, ld, lr, ⟨false, id, code, key⟩, lb, led, world⟩ := by
        refine wp_zoom.mpr (wp_mono (Bench.sendWordShortcut_spec hs id code) (fun _ _ _ => trivial) ?_)
        rintro t ⟨-, hsending, -⟩
        exact packed_of_view h hsending.view
      exact hsend
    all_goals trivial

theorem switchToLayer_packs :
    wp (LayerController.switchToLayer faultyDevices .g) (fun _ => Packed) (fun _ => False) b := by
  simp only [LayerController.switchToLayer, wp_bind, wp_modify]
  exact LayerG.transitionedToLayer_packs

theorem packed_elsewhere (h : b.currentLayer ≠ .g) : Packed b := fun hshows => (h hshows.1).elim

theorem pressed_packed (h : Packed b) (hsound : Sound b.world) (k : Keypress) :
    Packed (pressed b k) := by
  have hlayer : (pressed b k).currentLayer =
      if b.cursors.leaves k then b.currentLayer.next else b.currentLayer :=
    press_currentLayer faultyDevices b k
  cases hcur : b.currentLayer with
  | dflt =>
    refine packed_elsewhere ?_
    rw [hlayer, hcur]
    split <;> simp [LayerId.next]
  | b =>
    refine packed_elsewhere ?_
    rw [hlayer, hcur]
    split <;> simp [LayerId.next]
  | r =>
    by_cases hl : b.cursors.leaves k
    · have hleaves : k = .xyz ∧ ¬ b.layerR.prog := by
        simpa [Cursors.leaves, Cursors.prog, Board.cursors, hcur] using hl
      simp only [pressed, LayerController.press, LayerController.handleEvent, gets_bind, hcur,
        LayerR.handleEvent, if_pos hleaves]
      exact good_of_wp (wp_mono switchToLayer_packs (fun _ _ ht => ht) fun _ hf => hf.elim)
    · refine packed_elsewhere ?_
      rw [hlayer, if_neg hl, hcur]
      simp
  | g =>
    by_cases hl : b.cursors.leaves k
    · refine packed_elsewhere ?_
      rw [hlayer, if_pos hl, hcur]
      simp [LayerId.next]
    · have hstays : ¬ (k = .xyz ∧ ¬ b.layerG.prog) := by
        simpa [Cursors.leaves, Cursors.prog, Board.cursors, hcur] using hl
      simp only [pressed, LayerController.press, LayerController.handleEvent, gets_bind, hcur,
        LayerG.handleEvent, if_neg hstays]
      exact good_of_wp (handled_good (LayerG.onKeypress_cursors _ b k)
        (LayerG.onKeypress_packs h hsound k) fun _ _ => LayerG.display_packs)

-- A sixteenth Y in a row without YZ between makes the code too large for the low half of the bank.
def OverflowsCode (b : Board Bench) (k : Keypress) : Prop :=
  b.ShowsWord ∧ k = .y ∧ b.layerG.wordModCode = 15

structure Splittable (b : Board Bench) : Prop where
  packed : Packed b
  sound : Sound b.world
  code_le : b.layerG.wordModCode ≤ 15

theorem Splittable.split (h : Splittable b) : SplitShown b := by
  obtain ⟨hpacked, ⟨s, hs⟩, hcode⟩ := h
  intro hshows
  have hlength : b.wordLength.toNat < 16 := Nat.lt_succ_of_le (hs.wordLength_le _)
  have hlow : b.layerG.wordModCode.toNat < 16 := Nat.lt_succ_of_le (UInt8.le_iff_toNat_le.mp hcode)
  refine ⟨?_, ?_, UInt8.lt_iff_toNat_lt.mpr hlow⟩
  · rw [hpacked hshows, Bytes.nibbles_high hlength hlow]
  · rw [hpacked hshows, Bytes.nibbles_low hlength hlow]

theorem LayerG.press_code_le {l : LayerG} {k : Keypress} (h : l.wordModCode ≤ 15)
    (hk : ¬ (¬ l.prog ∧ k = .y ∧ l.wordModCode = 15)) : (l.press k).wordModCode ≤ 15 := by
  obtain ⟨prog, id, code, key⟩ := l
  cases prog <;> cases k
  case false.y =>
    have hne : code ≠ 15 := by simpa using hk
    rw [ne_eq, ← UInt8.toNat_inj] at hne
    rw [UInt8.le_iff_toNat_le] at h ⊢
    have hmax : (15 : UInt8).toNat = 15 := rfl
    change (code + 1).toNat ≤ _
    rw [toNat_succ (by simp only at h; omega)]
    simp only at h
    omega
  case false.yz =>
    change (0 : UInt8) ≤ 15
    decide
  all_goals exact h

theorem pressed_layerG (b : Board Bench) (k : Keypress) : (pressed b k).layerG =
    if b.currentLayer = .g ∧ ¬ b.cursors.leaves k then b.layerG.press k else b.layerG :=
  (congrArg Cursors.layerG (press_cursors faultyDevices b k)).trans (b.cursors.layerG_press k)

theorem Splittable.pressed (h : Splittable b) {k : Keypress} (hk : ¬ OverflowsCode b k) :
    Splittable (pressed b k) := by
  refine ⟨pressed_packed h.packed h.sound k, pressed_sound h.sound k, ?_⟩
  rw [pressed_layerG]
  split
  · rename_i hg
    exact LayerG.press_code_le h.code_le fun hover => hk ⟨⟨hg.1, hover.1⟩, hover.2⟩
  · exact h.code_le

theorem OverflowsCode.not_shown {k : Keypress} (h : OverflowsCode b k) :
    ¬ SplitShown (Layers.pressed b k) := by
  obtain ⟨⟨hcur, hprog⟩, rfl, hcode⟩ := h
  have hstays : ¬ b.cursors.leaves .y := fun hl => absurd hl.1 (by simp)
  have hlayer : (pressed b .y).layerG = { b.layerG with wordModCode := b.layerG.wordModCode + 1 } := by
    rw [pressed_layerG, if_pos ⟨hcur, hstays⟩, LayerG.press, if_neg hprog]
  intro hshown
  have hg : (Layers.pressed b .y).currentLayer = .g :=
    (press_currentLayer faultyDevices b .y).trans (by rw [if_neg hstays, hcur])
  have hsplit := hshown ⟨hg, by rw [hlayer]; exact hprog⟩
  have hlt : b.layerG.wordModCode + 1 < 16 := by
    simpa only [hlayer] using hsplit.code_lt
  rw [hcode] at hlt
  exact absurd hlt (by decide)

theorem boot_splittable (fates : ℕ → Fate) :
    Splittable (Board.boot (Bench.start erased fates)) :=
  ⟨packed_elsewhere (by simp [Board.boot]), start_sound fates, UInt8.le_iff_toNat_le.mpr (Nat.zero_le _)⟩

theorem Splittable.always_shown_iff (h : Splittable b) (keys : List Keypress) :
    Always SplitShown (path Layers.pressed b keys) ↔
      Obeys (fun b k => ¬ OverflowsCode b k) b (path Layers.pressed b keys) := by
  refine always_iff_obeys ?_ ?_ (path_isPath Layers.pressed b keys) h
  · rintro b k t h rfl hk
    exact ⟨h.pressed hk, (h.pressed hk).split⟩
  · rintro b k t - rfl hshown hk
    exact hk.not_shown hshown

theorem split_display_right_iff (fates : ℕ → Fate) (keys : List Keypress) :
    let start := Board.boot (Bench.start erased fates)
    Always SplitShown (path pressed start keys) ↔
      Obeys (fun b k => ¬ OverflowsCode b k) start (path pressed start keys) :=
  (boot_splittable fates).always_shown_iff keys

def sixteenCodes : List Keypress := List.replicate 2 .xyz ++ List.replicate 16 .y

theorem length_shown_wrong_at_code_sixteen :
    ¬ Always SplitShown
      (path pressed (Board.boot (Bench.start erased fun _ => .succeed)) sixteenCodes) := by
  intro h
  have hshown := always_path_foldl h (List.append_ne_nil_of_left_ne_nil (by decide) _)
  have hlayer : (sixteenCodes.foldl pressed
      (Board.boot (Bench.start erased fun _ => .succeed))).currentLayer = .g := by decide +kernel
  have hprog : (sixteenCodes.foldl pressed
      (Board.boot (Bench.start erased fun _ => .succeed))).layerG.prog = false := by decide +kernel
  have hlength : (sixteenCodes.foldl pressed
      (Board.boot (Bench.start erased fun _ => .succeed))).wordLength = 0 := by decide +kernel
  have hbank : (sixteenCodes.foldl pressed
      (Board.boot (Bench.start erased fun _ => .succeed))).ledState.bank1 = 16 := by decide +kernel
  have hsplit := (hshown ⟨hlayer, by simp [hprog]⟩).length
  rw [hlength, hbank] at hsplit
  exact absurd hsplit (by decide)

end Threeboard.Layers
