import Threeboard.Layers.Layer

namespace Threeboard.Layers

open Actions Keys Storage Layer

variable {σ : Type} (d : Devices σ)

namespace DefaultLayer

def update (f : DefaultLayer → DefaultLayer) : Action (Board σ) Unit :=
  Action.modify fun b => { b with layerDefault := f b.layerDefault }

def transitionedToLayer : Action (Board σ) Unit := do
  let layer ← Action.gets Board.layerDefault
  updateLedState layer.prog .dflt layer.bank0 layer.bank1

end DefaultLayer

namespace LayerR

def update (f : LayerR → LayerR) : Action (Board σ) Unit :=
  Action.modify fun b => { b with layerR := f b.layerR }

def transitionedToLayer : Action (Board σ) Unit := do
  let layer ← Action.gets Board.layerR
  updateLedState layer.prog .r layer.shortcutId layer.modcode

end LayerR

namespace LayerG

def update (f : LayerG → LayerG) : Action (Board σ) Unit :=
  Action.modify fun b => { b with layerG := f b.layerG }

def transitionedToLayer : Action (Board σ) Unit := do
  let layer ← Action.gets Board.layerG
  let length ← onWorld (d.storageController.getWordShortcutLength layer.shortcutId)
  updateLedState layer.prog .g layer.shortcutId (length <<< 4 ||| layer.wordModCode)

end LayerG

namespace LayerB

def update (f : LayerB → LayerB) : Action (Board σ) Unit :=
  Action.modify fun b => { b with layerB := f b.layerB }

def transitionedToLayer : Action (Board σ) Unit := do
  let layer ← Action.gets Board.layerB
  let length ← onWorld (d.storageController.getBlobShortcutLength layer.shortcutId)
  updateLedState layer.prog .b layer.shortcutId length

end LayerB

namespace LayerController

def switchToLayer (layerId : LayerId) : Action (Board σ) Unit := do
  Action.modify fun b => { b with currentLayer := layerId }
  match layerId with
  | .dflt => DefaultLayer.transitionedToLayer
  | .r => LayerR.transitionedToLayer
  | .g => LayerG.transitionedToLayer d
  | .b => LayerB.transitionedToLayer d

end LayerController

open LayerController

namespace DefaultLayer

def onKeypress (layer : DefaultLayer) : Keypress → Action (Board σ) Unit
  | .x => update fun l => { l with bank0 := l.bank0 + 1 }
  | .y => update fun l => { l with bank1 := l.bank1 + 1 }
  | .z => sendToHost d.usbController layer.bank0 layer.bank1
  | .xz => update fun l => { l with bank0 := 0 }
  | .yz => update fun l => { l with bank1 := 0 }
  | _ => pure ()

def display : Action (Board σ) Unit := do
  let layer ← Action.gets Board.layerDefault
  updateLedState layer.prog .dflt layer.bank0 layer.bank1

def handleEvent (keypress : Keypress) : Action (Board σ) Unit := do
  let layer ← Action.gets Board.layerDefault
  if keypress = .xyz then switchToLayer d .r
  else
    layer.onKeypress d keypress
    display

end DefaultLayer

namespace LayerR

def onKeypress (layer : LayerR) : Keypress → Action (Board σ) Unit
  | .x =>
    if layer.prog then do
      onWorld (d.storageController.setCharacterShortcut layer.shortcutId
        (layer.currentProgChar + 1))
      update fun l => { l with currentProgChar := l.currentProgChar + 1 }
    else update fun l => { l with shortcutId := l.shortcutId + 1 }
  | .y =>
    if layer.prog then update fun l => { l with shortcutId := l.shortcutId + 1 }
    else update fun l => { l with modcode := l.modcode + 1 }
  | .z =>
    if ¬ layer.prog then do
      let character ← onWorld (d.storageController.getCharacterShortcut layer.shortcutId)
      sendToHost d.usbController character layer.modcode
    else pure ()
  | .xy => update fun l => { l with prog := true }
  | .xz =>
    if layer.prog then onWorld (d.storageController.setCharacterShortcut layer.shortcutId 0)
    else update fun l => { l with shortcutId := 0 }
  | .yz =>
    if layer.prog then update fun l => { l with shortcutId := 0 }
    else update fun l => { l with modcode := 0 }
  | .xyz => update fun l => { l with prog := false }
  | .inactive => pure ()

def display : Action (Board σ) Unit := do
  let layer ← Action.gets Board.layerR
  if layer.prog then do
    let character ← onWorld (d.storageController.getCharacterShortcut layer.shortcutId)
    update fun l => { l with currentProgChar := character }
    updateLedState layer.prog .r character layer.shortcutId
  else updateLedState layer.prog .r layer.shortcutId layer.modcode

def handleEvent (keypress : Keypress) : Action (Board σ) Unit := do
  let layer ← Action.gets Board.layerR
  if keypress = .xyz ∧ ¬ layer.prog then switchToLayer d .g
  else
    layer.onKeypress d keypress
    display d

end LayerR

namespace LayerG

def onKeypress (layer : LayerG) : Keypress → Action (Board σ) Unit
  | .x =>
    if layer.prog then update fun l => { l with keyCode := l.keyCode + 1 }
    else update fun l => { l with shortcutId := l.shortcutId + 1 }
  | .y =>
    if ¬ layer.prog then update fun l => { l with wordModCode := l.wordModCode + 1 }
    else pure ()
  | .z =>
    if layer.prog then
      onWorld (d.storageController.appendToWordShortcut layer.shortcutId layer.keyCode)
    else onWorld (d.storageController.sendWordShortcut layer.shortcutId layer.wordModCode)
  | .xy => if ¬ layer.prog then update fun l => { l with prog := true } else pure ()
  | .xz =>
    if layer.prog then update fun l => { l with keyCode := 0 }
    else update fun l => { l with shortcutId := 0 }
  | .yz =>
    if layer.prog then onWorld (d.storageController.clearWordShortcut layer.shortcutId)
    else update fun l => { l with wordModCode := 0 }
  | .xyz => update fun l => { l with prog := false }
  | .inactive => pure ()

def display : Action (Board σ) Unit := do
  let layer ← Action.gets Board.layerG
  let length ← onWorld (d.storageController.getWordShortcutLength layer.shortcutId)
  if layer.prog then updateLedState layer.prog .g layer.keyCode (length <<< 4)
  else updateLedState layer.prog .g layer.shortcutId (length <<< 4 ||| layer.wordModCode)

def handleEvent (keypress : Keypress) : Action (Board σ) Unit := do
  let layer ← Action.gets Board.layerG
  if keypress = .xyz ∧ ¬ layer.prog then switchToLayer d .b
  else
    layer.onKeypress d keypress
    display d

end LayerG

namespace LayerB

-- The results of the operations on blobs are not looked at.
def ignoringErrors (x : Action σ Unit) : Action (Board σ) Unit := do
  let _ ← Action.attempt (onWorld x)
  pure ()

def onKeypress (layer : LayerB) : Keypress → Action (Board σ) Unit
  | .x =>
    if layer.prog then update fun l => { l with keyCode := l.keyCode + 1 }
    else update fun l => { l with shortcutId := l.shortcutId + 1 }
  | .y => if layer.prog then update fun l => { l with modcode := l.modcode + 1 } else pure ()
  | .z =>
    if layer.prog then ignoringErrors
      (d.storageController.appendToBlobShortcut layer.shortcutId layer.keyCode layer.modcode)
    else ignoringErrors (d.storageController.sendBlobShortcut layer.shortcutId)
  | .xy =>
    if layer.prog then ignoringErrors (d.storageController.clearBlobShortcut layer.shortcutId)
    else update fun l => { l with prog := true }
  | .xz =>
    if layer.prog then update fun l => { l with keyCode := 0 }
    else update fun l => { l with shortcutId := 0 }
  | .yz => if layer.prog then update fun l => { l with modcode := 0 } else pure ()
  | .xyz => update fun l => { l with prog := false }
  | .inactive => pure ()

def display : Action (Board σ) Unit := do
  let layer ← Action.gets Board.layerB
  if layer.prog then updateLedState layer.prog .b layer.keyCode layer.modcode
  else
    let length ← onWorld (d.storageController.getBlobShortcutLength layer.shortcutId)
    updateLedState layer.prog .b layer.shortcutId length

def handleEvent (keypress : Keypress) : Action (Board σ) Unit := do
  let layer ← Action.gets Board.layerB
  if keypress = .xyz ∧ ¬ layer.prog then switchToLayer d .dflt
  else
    layer.onKeypress d keypress
    display d

end LayerB

namespace LayerController

def handleEvent (keypress : Keypress) : Action (Board σ) Unit := do
  match ← Action.gets Board.currentLayer with
  | .dflt => DefaultLayer.handleEvent d keypress
  | .r => LayerR.handleEvent d keypress
  | .g => LayerG.handleEvent d keypress
  | .b => LayerB.handleEvent d keypress

def press (b : Board σ) (keypress : Keypress) : Bool × Board σ :=
  ((handleEvent d keypress b).1.isSome, (handleEvent d keypress b).2)

end LayerController

end Threeboard.Layers
