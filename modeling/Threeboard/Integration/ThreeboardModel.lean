import Threeboard.Integration.UsbKeycodes
import Threeboard.Layers.Cursors
import Mathlib.Logic.Function.Basic

namespace Threeboard.Integration

open Keys Layers Storage

structure DeviceState where
  bank0 : UInt8 := 0
  bank1 : UInt8 := 0
  ledR : Bool := false
  ledG : Bool := false
  ledB : Bool := false
  ledProg : Bool := false
  usbBuffer : Text := []
  deriving DecidableEq, Repr

structure DefaultLayerModel where
  deviceState : DeviceState := {}

structure LayerRModel where
  usbBuffer : Text := []
  shortcutId : UInt8 := 0
  modcode : UInt8 := 0
  prog : Bool := false
  shortcuts : UInt8 → UInt8 := fun _ => 0

structure LayerGModel where
  usbBuffer : Text := []
  shortcutId : UInt8 := 0
  wordModCode : UInt8 := 0
  keyCode : UInt8 := 0
  prog : Bool := false
  shortcuts : UInt8 → Text := fun _ => []

structure LayerBModel where
  usbBuffer : Text := []
  shortcutId : UInt8 := 0
  keyCode : UInt8 := 0
  modCode : UInt8 := 0
  prog : Bool := false
  shortcuts : UInt8 → Text := fun _ => []

namespace DefaultLayerModel

def appendTo (m : DefaultLayerModel) (modCode keyCode : UInt8) : DefaultLayerModel :=
  let text := printable (fromUsbKeycodes keyCode modCode)
  { m with deviceState.usbBuffer := m.deviceState.usbBuffer ++ text }

def applyKey (m : DefaultLayerModel) : Keypress → Bool × DefaultLayerModel
  | .x => (false, { m with deviceState.bank0 := m.deviceState.bank0 + 1 })
  | .y => (false, { m with deviceState.bank1 := m.deviceState.bank1 + 1 })
  | .z =>
    if m.deviceState.bank0 ≠ 0 ∨ m.deviceState.bank1 ≠ 0 then
      (false, m.appendTo m.deviceState.bank1 m.deviceState.bank0)
    else (false, m)
  | .xz => (false, { m with deviceState.bank0 := 0 })
  | .yz => (false, { m with deviceState.bank1 := 0 })
  | .xyz => (true, m)
  | _ => (false, m)

def getStateSnapshot (m : DefaultLayerModel) : DeviceState × DefaultLayerModel :=
  (m.deviceState, { m with deviceState.usbBuffer := [] })

end DefaultLayerModel

namespace LayerRModel

def appendTo (m : LayerRModel) (modCode keyCode : UInt8) : LayerRModel :=
  { m with usbBuffer := m.usbBuffer ++ printable (fromUsbKeycodes keyCode modCode) }

def setCurrent (m : LayerRModel) (value : UInt8) : LayerRModel :=
  { m with shortcuts := Function.update m.shortcuts m.shortcutId value }

def applyKey (m : LayerRModel) : Keypress → Bool × LayerRModel
  | .x =>
    if m.prog then (false, m.setCurrent (m.shortcuts m.shortcutId + 1))
    else (false, { m with shortcutId := m.shortcutId + 1 })
  | .y =>
    if m.prog then (false, { m with shortcutId := m.shortcutId + 1 })
    else (false, { m with modcode := m.modcode + 1 })
  | .z =>
    if ¬ m.prog ∧ (m.modcode ≠ 0 ∨ m.shortcuts m.shortcutId ≠ 0) then
      (false, m.appendTo m.modcode (m.shortcuts m.shortcutId))
    else (false, m)
  | .xy => (false, { m with prog := true })
  | .xz =>
    if m.prog then (false, m.setCurrent 0) else (false, { m with shortcutId := 0 })
  | .yz =>
    if m.prog then (false, { m with shortcutId := 0 }) else (false, { m with modcode := 0 })
  | .xyz => if m.prog then (false, { m with prog := false }) else (true, m)
  | .inactive => (false, m)

def getStateSnapshot (m : LayerRModel) : DeviceState × LayerRModel :=
  ({ bank0 := if m.prog then m.shortcuts m.shortcutId else m.shortcutId
     bank1 := if m.prog then m.shortcutId else m.modcode
     ledR := true
     ledProg := m.prog
     usbBuffer := m.usbBuffer },
    { m with usbBuffer := [] })

end LayerRModel

namespace LayerGModel

def setCurrent (m : LayerGModel) (chars : Text) : LayerGModel :=
  { m with shortcuts := Function.update m.shortcuts m.shortcutId chars }

def appendChar (wordModCode : UInt8) : UInt8 :=
  if wordModCode = WordModCode.appendPeriod then 0x2e
  else if wordModCode = WordModCode.appendComma then 0x2c
  else if wordModCode = WordModCode.appendHyphen then 0x2d
  else 0

def modCodeChar (wordModCode : UInt8) (size i : ℕ) (c : UInt8) : Text :=
  if wordModCode = WordModCode.uppercase ∨ wordModCode = WordModCode.capitalise ∧ i = 0 then
    printable (toUpper c)
  else if i = size - 1 ∧ appendChar wordModCode > 0 then
    printable c ++ printable (appendChar wordModCode)
  else printable c

def applyModCode (wordModCode : UInt8) (chars : Text) : Text :=
  chars.zipIdx.flatMap fun p => modCodeChar wordModCode chars.length p.2 p.1

def applyModCodeToCurrentShortcut (m : LayerGModel) : Text :=
  applyModCode m.wordModCode (m.shortcuts m.shortcutId)

def applyKey (m : LayerGModel) : Keypress → Bool × LayerGModel
  | .x =>
    if m.prog then (false, { m with keyCode := m.keyCode + 1 })
    else (false, { m with shortcutId := m.shortcutId + 1 })
  | .y => if ¬ m.prog then (false, { m with wordModCode := m.wordModCode + 1 }) else (false, m)
  | .z =>
    if m.prog ∧ (m.shortcuts m.shortcutId).length < 15 then
      (false, m.setCurrent (m.shortcuts m.shortcutId ++ [fromUsbKeycodes m.keyCode 0]))
    else (false, { m with usbBuffer := m.usbBuffer ++ m.applyModCodeToCurrentShortcut })
  | .xy => (false, { m with prog := true })
  | .xz =>
    if m.prog then (false, { m with keyCode := 0 }) else (false, { m with shortcutId := 0 })
  | .yz => if m.prog then (false, m.setCurrent []) else (false, { m with wordModCode := 0 })
  | .xyz => if m.prog then (false, { m with prog := false }) else (true, m)
  | .inactive => (false, m)

def sizeNibble (m : LayerGModel) : UInt8 := UInt8.ofNat ((m.shortcuts m.shortcutId).length <<< 4)

def getStateSnapshot (m : LayerGModel) : DeviceState × LayerGModel :=
  ({ bank0 := if m.prog then m.keyCode else m.shortcutId
     bank1 := if m.prog then m.sizeNibble else m.wordModCode ||| m.sizeNibble
     ledG := true
     ledProg := m.prog
     usbBuffer := m.usbBuffer },
    { m with usbBuffer := [] })

end LayerGModel

namespace LayerBModel

def currentText (m : LayerBModel) : Text := (m.shortcuts m.shortcutId).flatMap printable

def setCurrent (m : LayerBModel) (chars : Text) : LayerBModel :=
  { m with shortcuts := Function.update m.shortcuts m.shortcutId chars }

def applyKey (m : LayerBModel) : Keypress → Bool × LayerBModel
  | .x =>
    if m.prog then (false, { m with keyCode := m.keyCode + 1 })
    else (false, { m with shortcutId := m.shortcutId + 1 })
  | .y => if m.prog then (false, { m with modCode := m.modCode + 1 }) else (false, m)
  | .z =>
    if m.prog then
      (false, m.setCurrent (m.shortcuts m.shortcutId ++ [fromUsbKeycodes m.keyCode m.modCode]))
    else (false, { m with usbBuffer := m.usbBuffer ++ m.currentText })
  | .xy => if m.prog then (false, m.setCurrent []) else (false, { m with prog := true })
  | .xz =>
    if m.prog then (false, { m with keyCode := 0 }) else (false, { m with shortcutId := 0 })
  | .yz => if m.prog then (false, { m with modCode := 0 }) else (false, m)
  | .xyz => if m.prog then (false, { m with prog := false }) else (true, m)
  | .inactive => (false, m)

def getStateSnapshot (m : LayerBModel) : DeviceState × LayerBModel :=
  ({ bank0 := if m.prog then m.keyCode else m.shortcutId
     bank1 := if m.prog then m.modCode else UInt8.ofNat (m.shortcuts m.shortcutId).length
     ledB := true
     ledProg := m.prog
     usbBuffer := m.usbBuffer },
    { m with usbBuffer := [] })

end LayerBModel

structure ThreeboardModel where
  dfltLayerModel : DefaultLayerModel := {}
  rLayerModel : LayerRModel := {}
  gLayerModel : LayerGModel := {}
  bLayerModel : LayerBModel := {}
  currentLayer : LayerId := .dflt

namespace ThreeboardModel

variable (m : ThreeboardModel)

def applyToCurrent (k : Keypress) : Bool × ThreeboardModel :=
  match m.currentLayer with
  | .dflt => ((m.dfltLayerModel.applyKey k).1,
      { m with dfltLayerModel := (m.dfltLayerModel.applyKey k).2 })
  | .r => ((m.rLayerModel.applyKey k).1, { m with rLayerModel := (m.rLayerModel.applyKey k).2 })
  | .g => ((m.gLayerModel.applyKey k).1, { m with gLayerModel := (m.gLayerModel.applyKey k).2 })
  | .b => ((m.bLayerModel.applyKey k).1, { m with bLayerModel := (m.bLayerModel.applyKey k).2 })

def applyKey (k : Keypress) : ThreeboardModel :=
  let result := m.applyToCurrent k
  if result.1 then { result.2 with currentLayer := result.2.currentLayer.next } else result.2

def getStateSnapshot : DeviceState × ThreeboardModel :=
  match m.currentLayer with
  | .dflt => (m.dfltLayerModel.getStateSnapshot.1,
      { m with dfltLayerModel := m.dfltLayerModel.getStateSnapshot.2 })
  | .r => (m.rLayerModel.getStateSnapshot.1,
      { m with rLayerModel := m.rLayerModel.getStateSnapshot.2 })
  | .g => (m.gLayerModel.getStateSnapshot.1,
      { m with gLayerModel := m.gLayerModel.getStateSnapshot.2 })
  | .b => (m.bLayerModel.getStateSnapshot.1,
      { m with bLayerModel := m.bLayerModel.getStateSnapshot.2 })

def press (k : Keypress) : DeviceState × ThreeboardModel := (m.applyKey k).getStateSnapshot

end ThreeboardModel

end Threeboard.Integration
