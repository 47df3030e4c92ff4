import Threeboard.Layers.Cursors
import Threeboard.Storage.Confinement

namespace Threeboard.Layers

open Actions Actions.Action Keys Storage Layer

variable {σ α : Type}

def Cursors.selected (c : Cursors) : Option RecordId :=
  match c.currentLayer with
  | .dflt => none
  | .r => some (.character c.layerR.shortcutId)
  | .g => some (.word c.layerG.shortcutId)
  | .b => some (.blob c.layerB.shortcutId)

def Cursors.MayAsk (c : Cursors) (r : Request) : Prop :=
  r.target = none ∨ c.prog ∧ r.target = c.selected

theorem keeps_of_silently {J : σ → Prop} {x : Action σ Unit} (h : Keeps J (silently x)) :
    Keeps J x := Keeps.of_bind_pure (f := fun _ => none) h

theorem keeps_of_outputting {J : σ → Prop} {x : Action σ UInt8} (h : Keeps J (outputting x)) :
    Keeps J x := Keeps.of_bind_pure (f := some) h

def World (J : σ → Prop) (b : Board σ) : Prop := J b.world

section Pieces

variable {d : Devices σ} {J : σ → Prop}

theorem onWorld_keeps {x : Action σ α} (h : Keeps J x) : Keeps (World J) (onWorld x) :=
  fun b hb => h b.world hb

theorem onWorld_asks {x : Action σ Unit} (h : Keeps J (silently x)) :
    Keeps (World J) (onWorld x) := onWorld_keeps (keeps_of_silently h)

theorem onWorld_reads {x : Action σ UInt8} (h : Keeps J (outputting x)) :
    Keeps (World J) (onWorld x) := onWorld_keeps (keeps_of_outputting h)

theorem ignoringErrors_asks {x : Action σ Unit} (h : Keeps J (silently x)) :
    Keeps (World J) (LayerB.ignoringErrors x) :=
  Keeps.bind (Keeps.attempt (onWorld_asks h)) fun _ => Keeps.pure ()

theorem updateLedState_keeps (prog : Bool) (layerId : LayerId) (bank0 bank1 : UInt8) :
    Keeps (World J) (updateLedState prog layerId bank0 bank1) := fun _ hb => hb

theorem sendToHost_keeps (hkey : ∀ key mod, Keeps J (d.usbController.sendKeypress key mod))
    (key mod : UInt8) : Keeps (World J) (sendToHost d.usbController key mod) :=
  Keeps.bind (Keeps.attempt (onWorld_keeps (hkey key mod))) fun _ =>
    Keeps.ite (fun _ hb => hb) fun _ hb => hb

variable (hkey : ∀ key mod, Keeps J (d.usbController.sendKeypress key mod))
  (hget : ∀ r : Request, r.Gets → Keeps J (r.run d.storageController))
  (hread : ∀ r : Request, r.target = none → Keeps J (r.run d.storageController))

section Reading

include hget

theorem LayerR.display_keeps : Keeps (World J) (LayerR.display d) :=
  Keeps.bind (Keeps.gets _) fun layer => Keeps.ite
    (Keeps.bind (onWorld_reads (hget (.getCharacter layer.shortcutId) trivial)) fun _ =>
      Keeps.bind (fun _ hb => hb) fun _ => updateLedState_keeps _ _ _ _)
    (updateLedState_keeps _ _ _ _)

theorem LayerG.display_keeps : Keeps (World J) (LayerG.display d) :=
  Keeps.bind (Keeps.gets _) fun layer =>
    Keeps.bind (onWorld_reads (hget (.getWordLength layer.shortcutId) trivial)) fun _ =>
      Keeps.ite (updateLedState_keeps _ _ _ _) (updateLedState_keeps _ _ _ _)

theorem LayerB.display_keeps : Keeps (World J) (LayerB.display d) :=
  Keeps.bind (Keeps.gets _) fun layer => Keeps.ite (updateLedState_keeps _ _ _ _)
    (Keeps.bind (onWorld_reads (hget (.getBlobLength layer.shortcutId) trivial)) fun _ =>
      updateLedState_keeps _ _ _ _)

theorem switchToLayer_keeps (layerId : LayerId) :
    Keeps (World J) (LayerController.switchToLayer d layerId) := by
  refine Keeps.bind (fun _ hb => hb) fun _ => ?_
  cases layerId with
  | dflt | r => exact fun _ hb => hb
  | g => exact Keeps.bind (Keeps.gets _) fun layer =>
      Keeps.bind (onWorld_reads (hget (.getWordLength layer.shortcutId) trivial)) fun _ =>
        updateLedState_keeps _ _ _ _
  | b => exact Keeps.bind (Keeps.gets _) fun layer =>
      Keeps.bind (onWorld_reads (hget (.getBlobLength layer.shortcutId) trivial)) fun _ =>
        updateLedState_keeps _ _ _ _

end Reading

section Effects

include hkey

theorem DefaultLayer.onKeypress_keeps (layer : DefaultLayer) (k : Keypress) :
    Keeps (World J) (layer.onKeypress d k) := by
  cases k with
  | z => exact sendToHost_keeps hkey _ _
  | _ => exact fun _ hb => hb

include hread

theorem LayerR.onKeypress_keeps (layer : LayerR) (k : Keypress)
    (hwrite : layer.prog → ∀ r : Request, r.target = some (.character layer.shortcutId) →
      Keeps J (r.run d.storageController)) : Keeps (World J) (layer.onKeypress d k) := by
  obtain ⟨prog, id, modcode, char⟩ := layer
  cases prog <;> cases k
  case true.x => exact Keeps.bind (onWorld_asks (hwrite rfl (.setCharacter id _) rfl)) fun _ _ h => h
  case true.xz => exact onWorld_asks (hwrite rfl (.setCharacter id 0) rfl)
  case false.z => exact Keeps.bind (onWorld_reads (hread (.getCharacter id) rfl)) fun _ =>
    sendToHost_keeps hkey _ _
  all_goals exact fun _ hb => hb

omit hkey

theorem LayerG.onKeypress_keeps (layer : LayerG) (k : Keypress)
    (hwrite : layer.prog → ∀ r : Request, r.target = some (.word layer.shortcutId) →
      Keeps J (r.run d.storageController)) : Keeps (World J) (layer.onKeypress d k) := by
  obtain ⟨prog, id, code, key⟩ := layer
  cases prog <;> cases k
  case true.z => exact onWorld_asks (hwrite rfl (.appendToWord id key) rfl)
  case true.yz => exact onWorld_asks (hwrite rfl (.clearWord id) rfl)
  case false.z => exact onWorld_asks (hread (.sendWord id code) rfl)
  all_goals exact fun _ hb => hb

theorem LayerB.onKeypress_keeps (layer : LayerB) (k : Keypress)
    (hwrite : layer.prog → ∀ r : Request, r.target = some (.blob layer.shortcutId) →
      Keeps J (r.run d.storageController)) : Keeps (World J) (layer.onKeypress d k) := by
  obtain ⟨prog, id, key, modcode⟩ := layer
  cases prog <;> cases k
  case true.z => exact ignoringErrors_asks (hwrite rfl (.appendToBlob id key modcode) rfl)
  case true.xy => exact ignoringErrors_asks (hwrite rfl (.clearBlob id) rfl)
  case false.z => exact ignoringErrors_asks (hread (.sendBlob id) rfl)
  all_goals exact fun _ hb => hb

end Effects

end Pieces

theorem press_keeps {d : Devices σ} {J : σ → Prop} {b : Board σ}
    (hkey : ∀ key mod, Keeps J (d.usbController.sendKeypress key mod))
    (hask : ∀ r, b.cursors.MayAsk r → Keeps J (r.run d.storageController)) (h : J b.world)
    (k : Keypress) : J (LayerController.press d b k).2.world := by
  have hread : ∀ r : Request, r.target = none → Keeps J (r.run d.storageController) :=
    fun r hr => hask r (.inl hr)
  have hget : ∀ r : Request, r.Gets → Keeps J (r.run d.storageController) :=
    fun r hr => hread r hr.target_eq_none
  have hwrite : b.cursors.prog → ∀ r : Request, r.target = b.cursors.selected →
      Keeps J (r.run d.storageController) := fun hp r hr => hask r (.inr ⟨hp, hr⟩)
  simp only [LayerController.press, LayerController.handleEvent, gets_bind]
  cases hcur : b.currentLayer with
  | dflt =>
    exact Keeps.ite (switchToLayer_keeps hget .r)
      (Keeps.bind (DefaultLayer.onKeypress_keeps hkey _ k) fun _ _ hb => hb) b h
  | r =>
    refine Keeps.ite (switchToLayer_keeps hget .g)
      (Keeps.bind (LayerR.onKeypress_keeps hkey hread _ k fun hp r hr => hwrite ?_ r ?_)
        fun _ => LayerR.display_keeps hget) b h
    · simpa [Cursors.prog, Board.cursors, hcur] using hp
    · simpa [Cursors.selected, Board.cursors, hcur] using hr
  | g =>
    refine Keeps.ite (switchToLayer_keeps hget .b)
      (Keeps.bind (LayerG.onKeypress_keeps hread _ k fun hp r hr => hwrite ?_ r ?_)
        fun _ => LayerG.display_keeps hget) b h
    · simpa [Cursors.prog, Board.cursors, hcur] using hp
    · simpa [Cursors.selected, Board.cursors, hcur] using hr
  | b =>
    refine Keeps.ite (switchToLayer_keeps hget .dflt)
      (Keeps.bind (LayerB.onKeypress_keeps hread _ k fun hp r hr => hwrite ?_ r ?_)
        fun _ => LayerB.display_keeps hget) b h
    · simpa [Cursors.prog, Board.cursors, hcur] using hp
    · simpa [Cursors.selected, Board.cursors, hcur] using hr

end Threeboard.Layers
