import Threeboard.Library.Runs
import Threeboard.Layers.Handling
import Threeboard.Storage.Operations

namespace Threeboard.Layers

open Actions Actions.Action Runs Keys Leds Storage Layer

def Board.edited (b : Board Bench) : UInt8 :=
  match b.currentLayer with
  | .dflt => b.layerDefault.bank0
  | .r => if b.layerR.prog then b.world.view (.character b.layerR.shortcutId)
    else b.layerR.shortcutId
  | .g => if b.layerG.prog then b.layerG.keyCode else b.layerG.shortcutId
  | .b => if b.layerB.prog then b.layerB.keyCode else b.layerB.shortcutId

structure Shows (b : Board Bench) : Prop where
  red : b.ledState.ledR.state = .on ↔ b.currentLayer = .r
  green : b.ledState.ledG.state = .on ↔ b.currentLayer = .g
  blue : b.ledState.ledB.state = .on ↔ b.currentLayer = .b
  prog : b.ledState.ledProg.state = .on ↔ b.cursors.prog
  bank0 : b.ledState.bank0 = b.edited

def faultyDevices : Devices Bench := ⟨Bench.usbController, Bench.controller.methods⟩

variable {b : Board Bench}

theorem showLayerId_leds (layerId : LayerId) (led : LedState) :
    ((showLayerId layerId led).ledR.state = .on ↔ layerId = .r) ∧
      ((showLayerId layerId led).ledG.state = .on ↔ layerId = .g) ∧
      ((showLayerId layerId led).ledB.state = .on ↔ layerId = .b) := by
  cases layerId <;>
    simp [showLayerId, LedState.setR, LedState.setG, LedState.setB, FullState.of]

theorem updateLedState_shows {layerId : LayerId} {prog : Bool} {bank0 : UInt8} (bank1 : UInt8)
    (hcur : b.currentLayer = layerId) (hprog : b.cursors.prog = prog) (hbank : b.edited = bank0) :
    Shows (updateLedState prog layerId bank0 bank1 b).2 := by
  subst hcur hprog hbank
  obtain ⟨hr, hg, hb⟩ := showLayerId_leds b.currentLayer b.ledState
  refine ⟨hr, hg, hb, ?_, rfl⟩
  change (FullState.of (if b.cursors.prog then .on else .off)).state = .on ↔ b.cursors.prog
  cases b.cursors.prog <;> simp [FullState.of]

theorem setCharacter_sure (id x : UInt8) :
    wp (onWorld (faultyDevices.storageController.setCharacterShortcut id x)) (fun _ _ => True)
      (fun _ => False) b :=
  wp_zoom.mpr (wp_mono (Bench.internal_write (f := .character id) rfl x b.world)
    (fun _ _ _ => trivial) fun _ hf => hf)

theorem DefaultLayer.display_shows (h : b.currentLayer = .dflt) :
    wp (DefaultLayer.display : Action (Board Bench) Unit) (fun _ => Shows) (fun _ => False) b :=
  updateLedState_shows _ h (by simp [Cursors.prog, Board.cursors, h]) (by simp [Board.edited, h])

theorem LayerR.display_shows (h : b.currentLayer = .r) :
    wp (LayerR.display faultyDevices) (fun _ => Shows) (fun _ => False) b := by
  simp only [LayerR.display, wp_bind, wp_gets]
  have hprog : b.cursors.prog = b.layerR.prog := by simp [Cursors.prog, Board.cursors, h]
  refine wp_ite.mpr ⟨fun hp => ?_, fun hp => ?_⟩
  · rw [wp_bind]
    refine wp_of_some (onWorld_of_some (Bench.internal_read (f := .character _) rfl b.world)) ?_
    refine updateLedState_shows _ h hprog ?_
    simp only [Board.edited, h, hp, if_true]
  · exact updateLedState_shows _ h hprog (by simp only [Board.edited, h, if_neg hp])

theorem LayerG.display_shows (h : b.currentLayer = .g) :
    wp (LayerG.display faultyDevices) (fun _ => Shows) (fun _ => False) b := by
  simp only [LayerG.display, wp_bind, wp_gets]
  have hprog : b.cursors.prog = b.layerG.prog := by simp [Cursors.prog, Board.cursors, h]
  refine wp_of_some (onWorld_of_some (Bench.internal_read (f := .wordLength _) rfl b.world)) ?_
  refine wp_ite.mpr ⟨fun hp => ?_, fun hp => ?_⟩
  · exact updateLedState_shows _ h hprog (by simp only [Board.edited, h, hp, if_true])
  · exact updateLedState_shows _ h hprog (by simp only [Board.edited, h, if_neg hp])

theorem LayerB.display_shows (h : b.currentLayer = .b)
    (hid : b.layerB.shortcutId ≤ kLayerBMaxIndex) :
    wp (LayerB.display faultyDevices) (fun _ => Shows) (fun _ => False) b := by
  simp only [LayerB.display, wp_bind, wp_gets]
  have hprog : b.cursors.prog = b.layerB.prog := by simp [Cursors.prog, Board.cursors, h]
  refine wp_ite.mpr ⟨fun hp => ?_, fun hp => ?_⟩
  · exact updateLedState_shows _ h hprog (by simp only [Board.edited, h, hp, if_true])
  · rw [wp_bind]
    refine wp_of_some (onWorld_of_some (Bench.getBlobShortcutLength_view b.world ⟨_, hid⟩)) ?_
    exact updateLedState_shows _ h hprog (by simp only [Board.edited, h, if_neg hp])

theorem switchToLayer_shows {layerId : LayerId} (hprog : ¬ b.cursors.progOf layerId)
    (hid : b.layerB.shortcutId ≤ kLayerBMaxIndex) :
    wp (LayerController.switchToLayer faultyDevices layerId) (fun _ => Shows) (fun _ => False) b := by
  simp only [LayerController.switchToLayer, wp_bind, wp_modify]
  cases layerId with
  | dflt => exact updateLedState_shows _ rfl rfl rfl
  | r => exact updateLedState_shows _ rfl rfl (if_neg hprog)
  | g =>
    simp only [LayerG.transitionedToLayer, wp_bind, wp_gets]
    refine wp_of_some (onWorld_of_some (Bench.internal_read (f := .wordLength _) rfl b.world)) ?_
    exact updateLedState_shows _ rfl rfl (if_neg hprog)
  | b =>
    simp only [LayerB.transitionedToLayer, wp_bind, wp_gets]
    refine wp_of_some (onWorld_of_some (Bench.getBlobShortcutLength_view b.world ⟨_, hid⟩)) ?_
    exact updateLedState_shows _ rfl rfl (if_neg hprog)

theorem LayerG.onKeypress_spec (k : Keypress) :
    wp (b.layerG.onKeypress faultyDevices k) (fun _ _ => True)
      (fun t => ∃ world, t = { b with world }) b := by
  have hcall : ∀ x : Action Bench Unit, wp (onWorld x) (fun _ _ => True)
      (fun t => ∃ world, t = { b with world }) b := by
    intro x
    refine wp_zoom.mpr ?_
    rcases h : x b.world with ⟨_ | _, w⟩
    · exact wp_of_none h ⟨w, rfl⟩
    · exact wp_of_some h trivial
  obtain ⟨cur, ld, lr, ⟨prog, id, code, key⟩, lb, led, world⟩ := b
  cases prog <;> cases k
  case true.z | true.yz | false.z => exact hcall _
  all_goals trivial

theorem shows_of_world (h : Shows b) (hcur : b.currentLayer = .g) (world : Bench) :
    Shows { b with world } :=
  ⟨h.red, h.green, h.blue, h.prog, by simp [h.bank0, Board.edited, hcur]⟩

structure UpToDate (b : Board Bench) : Prop where
  shows : Shows b
  oneProg : b.cursors.OneProg
  blobId : b.layerB.shortcutId ≤ kLayerBMaxIndex

def Overruns (b : Board Bench) (k : Keypress) : Prop :=
  b.currentLayer = .b ∧ ¬ b.layerB.prog ∧ k = .x ∧ b.layerB.shortcutId = kLayerBMaxIndex

theorem LayerB.press_id_le {l : LayerB} {k : Keypress} (h : l.shortcutId ≤ kLayerBMaxIndex)
    (hk : ¬ (¬ l.prog ∧ k = .x ∧ l.shortcutId = kLayerBMaxIndex)) :
    (l.press k).shortcutId ≤ kLayerBMaxIndex := by
  obtain ⟨prog, id, key, modcode⟩ := l
  cases prog <;> cases k
  case false.x =>
    have hne : id ≠ kLayerBMaxIndex := by simpa using hk
    rw [ne_eq, ← UInt8.toNat_inj] at hne
    rw [UInt8.le_iff_toNat_le] at h ⊢
    have hmax : kLayerBMaxIndex.toNat = 247 := rfl
    change (id + 1).toNat ≤ _
    rw [toNat_succ (by simp only at h; omega)]
    simp only at h
    omega
  case false.xz =>
    change (0 : UInt8) ≤ kLayerBMaxIndex
    decide
  all_goals exact h

theorem UpToDate.press_blobId (h : UpToDate b) {k : Keypress} (hk : ¬ Overruns b k) :
    (b.cursors.press k).layerB.shortcutId ≤ kLayerBMaxIndex := by
  by_cases hl : b.cursors.leaves k
  · rw [Cursors.press, if_pos hl]
    exact h.blobId
  · rw [Cursors.press, if_neg hl]
    cases hcur : b.currentLayer with
    | b =>
      have hedit : b.cursors.edit k = { b.cursors with layerB := b.layerB.press k } := by
        simp [Cursors.edit, Board.cursors, hcur]
      rw [hedit]
      exact LayerB.press_id_le h.blobId fun hover => hk ⟨hcur, hover⟩
    | dflt | r | g => simpa [Cursors.edit, Board.cursors, hcur] using h.blobId

theorem UpToDate.handles (h : UpToDate b) {k : Keypress} (hk : ¬ Overruns b k) :
    Handles faultyDevices Shows b k where
  switch layerId hne := switchToLayer_shows (fun hp => hne (h.oneProg layerId hp).1) h.blobId
  effectR := LayerR.onKeypress_sure k setCharacter_sure fun id =>
    ⟨_, Bench.internal_read (f := .character id) rfl b.world⟩
  effectG hcur := by
    refine wp_mono (LayerG.onKeypress_spec k) (fun _ _ _ => trivial) ?_
    rintro t ⟨world, rfl⟩
    exact shows_of_world h.shows hcur world
  displayDefault _ := DefaultLayer.display_shows
  displayR _ := LayerR.display_shows
  displayG _ := LayerG.display_shows
  displayB t ht hcur hlayer := by
    refine LayerB.display_shows ht ?_
    rw [hlayer]
    exact LayerB.press_id_le h.blobId fun hover => hk ⟨hcur, hover⟩

theorem UpToDate.press (h : UpToDate b) {k : Keypress} (hk : ¬ Overruns b k) :
    UpToDate (LayerController.press faultyDevices b k).2 := by
  have hcursors := press_cursors faultyDevices b k
  refine ⟨(h.handles hk).press, hcursors ▸ h.oneProg.press k, ?_⟩
  have hid := h.press_blobId hk
  rw [← hcursors] at hid
  exact hid

theorem LayerB.display_fails (hprog : ¬ b.layerB.prog)
    (hid : b.layerB.shortcutId > kLayerBMaxIndex) :
    LayerB.display faultyDevices b = (none, b) := by
  simp only [LayerB.display, gets_bind, if_neg hprog]
  refine bind_of_none ?_ _
  simp [onWorld, faultyDevices, StorageController.methods, StorageController.getBlobShortcutLength,
    hid]

theorem UpToDate.press_overruns (h : UpToDate b) {k : Keypress} (hk : Overruns b k) :
    ¬ Shows (LayerController.press faultyDevices b k).2 := by
  obtain ⟨cur, ld, lr, lg, ⟨prog, id, key, modcode⟩, led, world⟩ := b
  obtain ⟨hcur, hprog, rfl, hid⟩ := hk
  obtain rfl : cur = .b := hcur
  obtain rfl : prog = false := Bool.not_eq_true _ ▸ hprog
  obtain rfl : id = kLayerBMaxIndex := hid
  have hgt : kLayerBMaxIndex + 1 > kLayerBMaxIndex := by decide
  change ¬ Shows (LayerB.display faultyDevices
    ⟨.b, ld, lr, lg, ⟨false, kLayerBMaxIndex + 1, key, modcode⟩, led, world⟩).2
  rw [LayerB.display_fails (by simp) hgt]
  intro hshows
  have hbank : kLayerBMaxIndex = kLayerBMaxIndex + 1 := h.shows.bank0.symm.trans hshows.bank0
  exact absurd hbank (by decide)

theorem boot_upToDate (world : Bench) : UpToDate (Board.boot world) := by
  refine ⟨⟨?_, ?_, ?_, ?_, rfl⟩, boot_oneProg world, UInt8.le_iff_toNat_le.mpr (Nat.zero_le _)⟩ <;>
    simp [Board.boot, FullState.of, Board.cursors, Cursors.prog]

def pressed (b : Board Bench) (k : Keypress) : Board Bench :=
  (LayerController.press faultyDevices b k).2

theorem UpToDate.always_shows_iff (h : UpToDate b) (keys : List Keypress) :
    Always Shows (path pressed b keys) ↔ Obeys (fun b k => ¬ Overruns b k) b (path pressed b keys) := by
  have hright : ∀ (b : Board Bench) (k : Keypress) (t : Board Bench), UpToDate b → pressed b k = t →
      ¬ Overruns b k → UpToDate t ∧ Shows t := by
    rintro b k t h rfl hk
    exact ⟨h.press hk, (h.handles hk).press⟩
  have hstale : ∀ (b : Board Bench) (k : Keypress) (t : Board Bench), UpToDate b → pressed b k = t →
      Shows t → ¬ Overruns b k := by
    rintro b k t h rfl hshows hk
    exact h.press_overruns hk hshows
  exact always_iff_obeys hright hstale (path_isPath pressed b keys) h

theorem leds_show_state_iff (memory : Memory) (fates : ℕ → Fate) (keys : List Keypress) :
    let start := Board.boot (Bench.start memory fates)
    Always Shows (path pressed start keys) ↔
      Obeys (fun b k => ¬ Overruns b k) start (path pressed start keys) :=
  (boot_upToDate _).always_shows_iff keys

def pastLastBlob : List Keypress := List.replicate 3 .xyz ++ List.replicate 248 .x

theorem leds_stale_past_last_blob :
    ¬ Always Shows (path pressed (Board.boot (Bench.start erased fun _ => .succeed)) pastLastBlob) := by
  intro h
  have hshows := always_path_foldl h (List.append_ne_nil_of_left_ne_nil (by decide) _)
  have hbank : (pastLastBlob.foldl pressed
      (Board.boot (Bench.start erased fun _ => .succeed))).ledState.bank0 = 247 := by decide +kernel
  have hedited : (pastLastBlob.foldl pressed
      (Board.boot (Bench.start erased fun _ => .succeed))).edited = 248 := by decide +kernel
  exact absurd (hbank.symm.trans (hshows.bank0.trans hedited)) (by decide)

end Threeboard.Layers
