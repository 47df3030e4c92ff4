import Threeboard.Integration.Firmware

namespace Threeboard.Integration

open Actions Actions.Action Keys Layers Layer Storage

variable {σ : Type}

def Effect.run (d : Devices σ) : Effect → Action σ Unit
  | .nothing => pure ()
  | .request r => do
    let _ ← r.run d.storageController
    pure ()
  | .type key mod => d.usbController.sendKeypress key mod

structure Legible (d : Devices σ) (character : σ → UInt8 → UInt8) : Prop where
  gets : ∀ w, ∀ r : Request, r.Gets → Keeps (· = w) (r.run d.storageController)
  getCharacter : ∀ id w, d.storageController.getCharacterShortcut id w = (some (character w id), w)
  setCharacter : ∀ id x w, (d.storageController.setCharacterShortcut id x w).1 = some ()

def CharCached (character : σ → UInt8 → UInt8) (b : Board σ) : Prop :=
  b.currentLayer = .r → b.layerR.prog → b.layerR.currentProgChar = character b.world b.layerR.shortcutId

section Worlds

variable {d : Devices σ} {character : σ → UInt8 → UInt8} {s : Shortcuts} {b : Board σ}

theorem request_state (d : Devices σ) (r : Request) (w : σ) :
    ((Effect.request r).run d w).2 = (r.run d.storageController w).2 := bind_pure_state _ _ w

theorem silently_state (x : Action σ Unit) (w : σ) : (silently x w).2 = (x w).2 :=
  bind_pure_state x (fun _ => none) w

theorem order_state {r : Request} {x : Action σ Unit} (h : r.run d.storageController = silently x)
    (w : σ) : (x w).2 = ((Effect.request r).run d w).2 := by
  rw [request_state, h, silently_state]

theorem sendToHost_world (u : UsbController σ) (key mod : UInt8) (b : Board σ) :
    (sendToHost u key mod b).2.world = (u.sendKeypress key mod b.world).2 := by
  simp only [sendToHost, attempt_bind]
  split <;> rfl

theorem sendCharacter_effect {id x : UInt8}
    (h : d.storageController.getCharacterShortcut id b.world = (some x, b.world)) (modcode : UInt8) :
    ((do let character ← onWorld (d.storageController.getCharacterShortcut id)
         sendToHost d.usbController character modcode) b).2.world =
      ((Effect.type x modcode).run d b.world).2 := by
  rw [bind_of_some (onWorld_of_some h)]
  exact sendToHost_world _ _ _ b

theorem DefaultLayer.onKeypress_effect (k : Keypress) : (b.layerDefault.onKeypress d k b).2.world =
    ((effectDefault b.layerDefault k).run d b.world).2 := by
  cases k with
  | z => exact sendToHost_world _ _ _ b
  | _ => rfl

theorem LayerR.onKeypress_effect (h : Legible d character)
    (hs : ∀ id, character b.world id = s.characters id) (hcur : b.currentLayer = .r)
    (hcached : CharCached character b) (k : Keypress) : (b.layerR.onKeypress d k b).2.world =
      ((effectR b.layerR s k).run d b.world).2 := by
  obtain ⟨cur, ld, ⟨prog, id, modcode, char⟩, lg, lb, led, w⟩ := b
  cases prog <;> cases k
  case true.x =>
    obtain rfl : char = s.characters id := (hcached hcur rfl).trans (hs id)
    rw [effectR, if_pos rfl, ← order_state rfl]
    exact bind_unseen Board.world (fun _ _ => rfl) _
  case true.xz =>
    rw [effectR, if_pos rfl, ← order_state rfl]
    rfl
  case false.z =>
    have hread := h.getCharacter id w
    rw [hs id] at hread
    exact sendCharacter_effect hread modcode
  all_goals rfl

theorem LayerG.onKeypress_effect (k : Keypress) : (b.layerG.onKeypress d k b).2.world =
    ((effectG b.layerG k).run d b.world).2 := by
  obtain ⟨cur, ld, lr, ⟨prog, id, code, key⟩, lb, led, w⟩ := b
  cases prog <;> cases k
  case true.z => exact order_state (r := .appendToWord id key) rfl w
  case true.yz => exact order_state (r := .clearWord id) rfl w
  case false.z => exact order_state (r := .sendWord id code) rfl w
  all_goals rfl

theorem LayerB.onKeypress_effect (k : Keypress) : (b.layerB.onKeypress d k b).2.world =
    ((effectB b.layerB k).run d b.world).2 := by
  obtain ⟨cur, ld, lr, lg, ⟨prog, id, key, modcode⟩, led, w⟩ := b
  cases prog <;> cases k
  case true.z => exact order_state (r := .appendToBlob id key modcode) rfl w
  case true.xy => exact order_state (r := .clearBlob id) rfl w
  case false.z => exact order_state (r := .sendBlob id) rfl w
  all_goals rfl

theorem handled_effect (h : Legible d character) {k : Keypress} {leaving : Prop} [Decidable leaving]
    {next : LayerId} {x display : Action (Board σ) Unit} (hleaves : leaving → k = .xyz)
    (hdisplay : ∀ w, Keeps (World (· = w)) display)
    (hx : (x b).2.world = ((effect b.cursors s k).run d b.world).2) :
    ((if leaving then LayerController.switchToLayer d next else do x; display) b).2.world =
      ((effect b.cursors s k).run d b.world).2 := by
  by_cases hl : leaving
  · rw [if_pos hl, effect_of_xyz (hleaves hl)]
    exact switchToLayer_keeps (h.gets b.world) next b rfl
  · rw [if_neg hl, ← hx]
    exact bind_unseen Board.world (fun _ t => hdisplay t.world t rfl) b

theorem press_effect (h : Legible d character) (hs : ∀ id, character b.world id = s.characters id)
    (hcached : CharCached character b) (k : Keypress) :
    (LayerController.press d b k).2.world = ((effect b.cursors s k).run d b.world).2 := by
  simp only [LayerController.press, LayerController.handleEvent, gets_bind]
  cases hcur : b.currentLayer with
  | dflt =>
    refine handled_effect h id (fun _ _ h => h) ?_
    rw [DefaultLayer.onKeypress_effect]
    simp [effect, Board.cursors, hcur]
  | r =>
    refine handled_effect h And.left (fun w => LayerR.display_keeps (h.gets w)) ?_
    rw [LayerR.onKeypress_effect h hs hcur hcached]
    simp [effect, Board.cursors, hcur, effectR]
  | g =>
    refine handled_effect h And.left (fun w => LayerG.display_keeps (h.gets w)) ?_
    rw [LayerG.onKeypress_effect]
    simp [effect, Board.cursors, hcur]
  | b =>
    refine handled_effect h And.left (fun w => LayerB.display_keeps (h.gets w)) ?_
    rw [LayerB.onKeypress_effect]
    simp [effect, Board.cursors, hcur]

theorem LayerR.display_charCached (h : Legible d character) :
    wp (LayerR.display d) (fun _ => CharCached character) (fun _ => False) b := by
  simp only [LayerR.display, wp_bind, wp_gets]
  refine wp_ite.mpr ⟨fun _ => ?_, fun hprog => fun _ hprog' => (hprog hprog').elim⟩
  rw [wp_bind]
  refine wp_of_some (onWorld_of_some (h.getCharacter b.layerR.shortcutId b.world)) ?_
  exact fun _ _ => rfl

theorem LayerR.onKeypress_runs (h : Legible d character) (k : Keypress) :
    wp (b.layerR.onKeypress d k) (fun _ _ => True) (fun _ => False) b := by
  refine LayerR.onKeypress_sure k (fun id x => wp_zoom.mpr ?_) fun id => ⟨_, h.getCharacter id _⟩
  exact wp_of_some (Prod.ext (h.setCharacter id x b.world) rfl) trivial

theorem press_charCached (h : Legible d character) (hone : b.cursors.OneProg) (k : Keypress) :
    CharCached character (LayerController.press d b k).2 := by
  intro hnext hprog
  have hcursors := press_cursors d b k
  by_cases hcur : b.currentLayer = .r
  · have hstays : ¬ b.cursors.leaves k := by
      intro hleaves
      rw [press_currentLayer, if_pos hleaves, hcur] at hnext
      cases hnext
    have hhandled : ¬ (k = .xyz ∧ ¬ b.layerR.prog) := by
      rwa [hone.leaves_iff, Cursors.prog, show b.cursors.currentLayer = .r from hcur] at hstays
    have hrun : (LayerController.press d b k).2 =
        ((do b.layerR.onKeypress d k; LayerR.display d) b).2 := by
      simp only [LayerController.press, LayerController.handleEvent, gets_bind, hcur,
        LayerR.handleEvent, if_neg hhandled]
    have hcached : wp (do b.layerR.onKeypress d k; LayerR.display d)
        (fun _ => CharCached character) (fun _ => False) b :=
      (wp_bind _ _).mpr (wp_mono (LayerR.onKeypress_runs h k)
        (fun _ _ _ => LayerR.display_charCached h) fun _ hf => hf)
    rw [hrun] at hnext hprog ⊢
    exact good_of_wp (wp_mono hcached (fun _ _ ht => ht) fun _ hf => hf.elim) hnext hprog
  · have hentered : (b.cursors.press k).currentLayer ≠ b.cursors.currentLayer := by
      rw [← hcursors]
      exact ne_of_eq_of_ne hnext (Ne.symm hcur)
    have hnot := hone.entered hentered
    rw [← hcursors, Cursors.prog,
      show (LayerController.press d b k).2.cursors.currentLayer = .r from hnext] at hnot
    exact (hnot hprog).elim

end Worlds

theorem ideal_legible : Legible Ideal.devices fun w => w.shortcuts.characters :=
  ⟨gets_keeps, getCharacter_run, fun _ _ _ => rfl⟩

end Threeboard.Integration
