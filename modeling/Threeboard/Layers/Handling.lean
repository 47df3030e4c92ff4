import Threeboard.Layers.Cursors

namespace Threeboard.Layers

open Actions Actions.Action Keys Storage Layer

variable {σ α : Type} {d : Devices σ} {b : Board σ} {Good : Board σ → Prop}

section Effects

theorem onWorld_of_some {x : Action σ α} {a : α} {w : σ} (h : x b.world = (some a, w)) :
    onWorld x b = (some a, { b with world := w }) := by
  simp [onWorld, h]

theorem sendToHost_sure (u : UsbController σ) (key mod : UInt8) :
    wp (sendToHost u key mod) (fun _ _ => True) (fun _ => False) b := by
  simp only [sendToHost, wp_bind, wp_attempt, onWorld, wp_zoom]
  rcases h : u.sendKeypress key mod b.world with ⟨_ | _, t⟩
  · exact wp_of_none h trivial
  · exact wp_of_some h trivial

theorem DefaultLayer.onKeypress_sure (k : Keypress) :
    wp (b.layerDefault.onKeypress d k) (fun _ _ => True) (fun _ => False) b := by
  cases k with
  | z => exact sendToHost_sure _ _ _
  | _ => trivial

theorem LayerR.onKeypress_sure (k : Keypress)
    (hset : ∀ id x, wp (onWorld (d.storageController.setCharacterShortcut id x)) (fun _ _ => True)
      (fun _ => False) b)
    (hget : ∀ id, ∃ x, d.storageController.getCharacterShortcut id b.world = (some x, b.world)) :
    wp (b.layerR.onKeypress d k) (fun _ _ => True) (fun _ => False) b := by
  obtain ⟨cur, ld, ⟨prog, id, modcode, char⟩, lg, lb, led, world⟩ := b
  cases prog <;> cases k
  case true.x => exact (wp_bind _ _).mpr (wp_mono (hset id _) (fun _ _ h => h) fun _ hf => hf)
  case true.xz => exact hset id 0
  case false.z =>
    obtain ⟨x, hx⟩ := hget id
    exact (wp_bind _ _).mpr (wp_of_some (onWorld_of_some hx) (sendToHost_sure _ _ _))
  all_goals trivial

theorem LayerB.onKeypress_sure (k : Keypress) :
    wp (b.layerB.onKeypress d k) (fun _ _ => True) (fun _ => False) b := by
  obtain ⟨cur, ld, lr, lg, ⟨prog, id, key, modcode⟩, led, world⟩ := b
  cases prog <;> cases k <;> trivial

end Effects

theorem good_of_wp {x : Action (Board σ) Unit} (h : wp x (fun _ => Good) Good b) :
    Good (x b).2 := by
  rcases hx : x b with ⟨_ | _, t⟩
  · exact wp_none h hx
  · exact wp_some h hx

theorem handled_good {effect display : Action (Board σ) Unit} {c : Cursors}
    (hcursors : (effect b).2.cursors = c) (heffect : wp effect (fun _ _ => True) Good b)
    (hdisplay : ∀ t : Board σ, t.cursors = c → wp display (fun _ => Good) (fun _ => False) t) :
    wp (do effect; display) (fun _ => Good) Good b := by
  rw [wp_bind]
  rcases hrun : effect b with ⟨_ | _, t⟩
  · exact wp_of_none hrun (wp_none heffect hrun)
  · rw [hrun] at hcursors
    exact wp_of_some hrun (wp_mono (hdisplay t hcursors) (fun _ _ h => h) fun _ hf => hf.elim)

theorem good_of_sure {x : Action (Board σ) Unit}
    (h : wp x (fun _ _ => True) (fun _ => False) b) : wp x (fun _ _ => True) Good b :=
  wp_mono h (fun _ _ h => h) fun _ hf => hf.elim

structure Handles (d : Devices σ) (Good : Board σ → Prop) (b : Board σ) (k : Keypress) : Prop where
  switch : ∀ layerId ≠ b.currentLayer,
    wp (LayerController.switchToLayer d layerId) (fun _ => Good) (fun _ => False) b
  effectR : wp (b.layerR.onKeypress d k) (fun _ _ => True) (fun _ => False) b
  effectG : b.currentLayer = .g → wp (b.layerG.onKeypress d k) (fun _ _ => True) Good b
  displayDefault : ∀ t : Board σ, t.currentLayer = .dflt →
    wp DefaultLayer.display (fun _ => Good) (fun _ => False) t
  displayR : ∀ t : Board σ, t.currentLayer = .r →
    wp (LayerR.display d) (fun _ => Good) (fun _ => False) t
  displayG : ∀ t : Board σ, t.currentLayer = .g →
    wp (LayerG.display d) (fun _ => Good) (fun _ => False) t
  displayB : ∀ t : Board σ, t.currentLayer = .b → b.currentLayer = .b →
    t.layerB = b.layerB.press k → wp (LayerB.display d) (fun _ => Good) (fun _ => False) t

theorem Handles.press {k : Keypress} (h : Handles d Good b k) :
    Good (LayerController.press d b k).2 := by
  have hswitch : ∀ layerId ≠ b.currentLayer,
      wp (LayerController.switchToLayer d layerId) (fun _ => Good) Good b := fun layerId hne =>
    wp_mono (h.switch layerId hne) (fun _ _ ht => ht) fun _ hf => hf.elim
  simp only [LayerController.press, LayerController.handleEvent, gets_bind]
  cases hcur : b.currentLayer with
  | dflt =>
    refine good_of_wp (wp_ite.mpr ⟨fun _ => hswitch _ (by simp [hcur]), fun _ => ?_⟩)
    refine handled_good (DefaultLayer.onKeypress_cursors _ b k)
      (good_of_sure (DefaultLayer.onKeypress_sure k)) fun t ht => h.displayDefault t ?_
    exact (congrArg Cursors.currentLayer ht).trans hcur
  | r =>
    refine good_of_wp (wp_ite.mpr ⟨fun _ => hswitch _ (by simp [hcur]), fun _ => ?_⟩)
    refine handled_good (LayerR.onKeypress_cursors _ b k)
      (good_of_sure h.effectR) fun t ht => h.displayR t ?_
    exact (congrArg Cursors.currentLayer ht).trans hcur
  | g =>
    refine good_of_wp (wp_ite.mpr ⟨fun _ => hswitch _ (by simp [hcur]), fun _ => ?_⟩)
    refine handled_good (LayerG.onKeypress_cursors _ b k)
      (h.effectG hcur) fun t ht => h.displayG t ?_
    exact (congrArg Cursors.currentLayer ht).trans hcur
  | b =>
    refine good_of_wp (wp_ite.mpr ⟨fun _ => hswitch _ (by simp [hcur]), fun _ => ?_⟩)
    refine handled_good (LayerB.onKeypress_cursors _ b k)
      (good_of_sure (LayerB.onKeypress_sure k)) fun t ht => h.displayB t ?_ hcur ?_
    · exact (congrArg Cursors.currentLayer ht).trans hcur
    · exact congrArg Cursors.layerB ht

end Threeboard.Layers
