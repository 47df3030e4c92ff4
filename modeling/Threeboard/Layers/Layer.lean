import Threeboard.Keys.KeyController
import Threeboard.Leds.LedState
import Threeboard.Storage.StorageController

namespace Threeboard.Layers

open Actions Keys Leds Storage

inductive LayerId where
  | dflt
  | r
  | g
  | b
  deriving DecidableEq, Repr

structure DefaultLayer where
  prog : Bool := false
  bank0 : UInt8 := 0
  bank1 : UInt8 := 0
  deriving DecidableEq, Repr

structure LayerR where
  prog : Bool := false
  shortcutId : UInt8 := 0
  modcode : UInt8 := 0
  currentProgChar : UInt8 := 0
  deriving DecidableEq, Repr

structure LayerG where
  prog : Bool := false
  shortcutId : UInt8 := 0
  wordModCode : UInt8 := 0
  keyCode : UInt8 := 0
  deriving DecidableEq, Repr

structure LayerB where
  prog : Bool := false
  shortcutId : UInt8 := 0
  keyCode : UInt8 := 0
  modcode : UInt8 := 0
  deriving DecidableEq, Repr

structure Board (σ : Type) where
  currentLayer : LayerId := .dflt
  layerDefault : DefaultLayer := {}
  layerR : LayerR := {}
  layerG : LayerG := {}
  layerB : LayerB := {}
  ledState : LedState := {}
  world : σ

structure Devices (σ : Type) where
  usbController : UsbController σ
  storageController : StorageMethods σ

variable {σ α : Type}

def Board.boot (world : σ) : Board σ := { world }

def onWorld (x : Action σ α) : Action (Board σ) α :=
  Action.zoom Board.world (fun world b => { b with world }) x

namespace Layer

def showLayerId (layerId : LayerId) (led : LedState) : LedState :=
  match layerId with
  | .dflt => ((led.setR .off).setG .off).setB .off
  | .r => ((led.setR .on).setG .off).setB .off
  | .g => ((led.setR .off).setG .on).setB .off
  | .b => ((led.setR .off).setG .off).setB .on

def updateLedState (prog : Bool) (layerId : LayerId) (bank0 bank1 : UInt8) :
    Action (Board σ) Unit :=
  Action.modify fun b => { b with
    ledState := (((showLayerId layerId b.ledState).setBank0 bank0).setBank1 bank1).setProg
      (if prog then .on else .off) }

def setErr (state : State) : Action (Board σ) Unit :=
  Action.modify fun b => { b with ledState := b.ledState.setErr state }

def sendToHost (usbController : UsbController σ) (key mod : UInt8) : Action (Board σ) Unit := do
  let success ← Action.attempt (onWorld (usbController.sendKeypress key mod))
  if ¬ success then setErr .on else setErr .off

end Layer

end Threeboard.Layers
