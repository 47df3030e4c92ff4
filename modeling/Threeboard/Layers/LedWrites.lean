import Threeboard.Layers.LayerController

namespace Threeboard.Layers

open Actions Actions.Action Keys Leds Storage Layer

variable {σ α : Type} {d : Devices σ} {J : LedState → Prop}

structure LedInvariant (J : LedState → Prop) : Prop where
  display : ∀ (prog : Bool) (layerId : LayerId) (bank0 bank1 : UInt8) (led : LedState), J led →
    J ((((showLayerId layerId led).setBank0 bank0).setBank1 bank1).setProg
      (if prog then .on else .off))
  err : ∀ (state : State) (led : LedState), J led → J (led.setErr state)

def OnLeds (J : LedState → Prop) (b : Board σ) : Prop := J b.ledState

theorem onWorld_leds (x : Action σ α) : Keeps (OnLeds J) (onWorld x) := fun _ h => h

variable (h : LedInvariant J)

include h

theorem updateLedState_leds (prog : Bool) (layerId : LayerId) (bank0 bank1 : UInt8) :
    Keeps (OnLeds J) (updateLedState prog layerId bank0 bank1 : Action (Board σ) Unit) :=
  fun _ hb => h.display _ _ _ _ _ hb

theorem sendToHost_leds (u : UsbController σ) (key mod : UInt8) :
    Keeps (OnLeds J) (sendToHost u key mod) :=
  Keeps.bind (Keeps.attempt (onWorld_leds _)) fun _ =>
    Keeps.ite (fun _ hb => h.err _ _ hb) fun _ hb => h.err _ _ hb

theorem DefaultLayer.display_leds : Keeps (OnLeds J) (DefaultLayer.display : Action (Board σ) Unit) :=
  Keeps.bind (Keeps.gets _) fun _ => updateLedState_leds h _ _ _ _

theorem LayerR.display_leds : Keeps (OnLeds J) (LayerR.display d) :=
  Keeps.bind (Keeps.gets _) fun _ => Keeps.ite
    (Keeps.bind (onWorld_leds _) fun _ => Keeps.bind (fun _ hb => hb) fun _ =>
      updateLedState_leds h _ _ _ _)
    (updateLedState_leds h _ _ _ _)

theorem LayerG.display_leds : Keeps (OnLeds J) (LayerG.display d) :=
  Keeps.bind (Keeps.gets _) fun _ => Keeps.bind (onWorld_leds _) fun _ =>
    Keeps.ite (updateLedState_leds h _ _ _ _) (updateLedState_leds h _ _ _ _)

theorem LayerB.display_leds : Keeps (OnLeds J) (LayerB.display d) :=
  Keeps.bind (Keeps.gets _) fun _ => Keeps.ite (updateLedState_leds h _ _ _ _)
    (Keeps.bind (onWorld_leds _) fun _ => updateLedState_leds h _ _ _ _)

theorem switchToLayer_leds (layerId : LayerId) :
    Keeps (OnLeds J) (LayerController.switchToLayer d layerId) := by
  refine Keeps.bind (fun _ hb => hb) fun _ => ?_
  cases layerId with
  | dflt | r => exact Keeps.bind (Keeps.gets _) fun _ => updateLedState_leds h _ _ _ _
  | g | b => exact Keeps.bind (Keeps.gets _) fun _ => Keeps.bind (onWorld_leds _) fun _ =>
      updateLedState_leds h _ _ _ _

theorem DefaultLayer.onKeypress_leds (layer : DefaultLayer) (k : Keypress) :
    Keeps (OnLeds J) (layer.onKeypress d k) := by
  cases k with
  | z => exact sendToHost_leds h _ _ _
  | _ => exact fun _ hb => hb

theorem LayerR.onKeypress_leds (layer : LayerR) (k : Keypress) :
    Keeps (OnLeds J) (layer.onKeypress d k) := by
  obtain ⟨prog, id, modcode, char⟩ := layer
  cases prog <;> cases k
  case true.x => exact Keeps.bind (onWorld_leds _) fun _ _ hb => hb
  case false.z => exact Keeps.bind (onWorld_leds _) fun _ => sendToHost_leds h _ _ _
  all_goals exact fun _ hb => hb

omit h in
theorem LayerG.onKeypress_leds (layer : LayerG) (k : Keypress) :
    Keeps (OnLeds J) (layer.onKeypress d k) := by
  obtain ⟨prog, id, code, key⟩ := layer
  cases prog <;> cases k <;> exact fun _ hb => hb

omit h in
theorem LayerB.onKeypress_leds (layer : LayerB) (k : Keypress) :
    Keeps (OnLeds J) (layer.onKeypress d k) := by
  obtain ⟨prog, id, key, modcode⟩ := layer
  cases prog <;> cases k <;> exact fun _ hb => hb

theorem handleEvent_leds (k : Keypress) : Keeps (OnLeds J) (LayerController.handleEvent d k) := by
  refine Keeps.bind (Keeps.gets _) fun layerId => ?_
  cases layerId with
  | dflt =>
    exact Keeps.bind (Keeps.gets _) fun layer => Keeps.ite (switchToLayer_leds h _)
      (Keeps.bind (DefaultLayer.onKeypress_leds h layer k) fun _ => DefaultLayer.display_leds h)
  | r =>
    exact Keeps.bind (Keeps.gets _) fun layer => Keeps.ite (switchToLayer_leds h _)
      (Keeps.bind (LayerR.onKeypress_leds h layer k) fun _ => LayerR.display_leds h)
  | g =>
    exact Keeps.bind (Keeps.gets _) fun layer => Keeps.ite (switchToLayer_leds h _)
      (Keeps.bind (LayerG.onKeypress_leds layer k) fun _ => LayerG.display_leds h)
  | b =>
    exact Keeps.bind (Keeps.gets _) fun layer => Keeps.ite (switchToLayer_leds h _)
      (Keeps.bind (LayerB.onKeypress_leds layer k) fun _ => LayerB.display_leds h)

end Threeboard.Layers
