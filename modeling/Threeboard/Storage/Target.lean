import Threeboard.Storage.Offsets
import Threeboard.Storage.Requests

namespace Threeboard.Storage

open Actions Actions.Action Integers

structure Target (σ : Type) where
  world : σ
  offsets : List Expr

namespace Target

variable {σ α : Type}

def onDevices (x : Action σ α) : Action (Target σ) α :=
  Action.zoom Target.world (fun world t => { t with world }) x

def compute (width : ℕ) (e : Expr) : Action (Target σ) UInt16 := do
  Action.modify fun t => { t with offsets := t.offsets ++ [e] }
  pure (UInt16.ofInt (e.value width))

section Operations

variable (width : ℕ) (c : StorageController σ)

def readLength (start : UInt16) (index : UInt8) : Action (Target σ) UInt8 := do
  let offset ← compute width (OffsetExpr.length start index)
  onDevices (c.internalEeprom.readByte offset)

def writeLength (start : UInt16) (index length : UInt8) : Action (Target σ) Unit := do
  let offset ← compute width (OffsetExpr.length start index)
  onDevices (c.internalEeprom.writeByte offset length)

def appendToWordShortcut (index character : UInt8) : Action (Target σ) Unit := do
  let length ← readLength width c kInternalEepromLayerGLengthStart index
  if length = 15 then Action.stop
  else
    let offset ← compute width (OffsetExpr.wordCharacter index (.byte length))
    onDevices (c.externalEeprom0.writeByte offset character)
    writeLength width c kInternalEepromLayerGLengthStart index (length + 1)

def sendWordCharacter (index rawModCode length : UInt8) (i : ℕ) : Action (Target σ) Unit := do
  let offset ← compute width (OffsetExpr.wordCharacter index (.int i))
  let character ← onDevices (c.externalEeprom0.readByte offset)
  onDevices (
    if rawModCode = WordModCode.uppercase ∨ rawModCode = WordModCode.capitalise ∧ i = 0 then
      c.usbController.sendKeypress character ((1 : UInt8) <<< 1)
    else
      let append := if i = length.toNat - 1 then StorageController.appendKeycode rawModCode else 0
      if append > 0 then do
        c.usbController.sendKeypress character 0
        c.usbController.sendKeypress append 0
      else c.usbController.sendKeypress character 0)

def sendWordShortcut (index rawModCode : UInt8) : Action (Target σ) Unit := do
  let length ← readLength width c kInternalEepromLayerGLengthStart index
  if length = 0 then Action.stop
  else forM (List.range length.toNat) (sendWordCharacter width c index rawModCode length)

def getBlobShortcutLength (index : UInt8) : Action (Target σ) UInt8 :=
  if index > kLayerBMaxIndex then Action.stop
  else readLength width c kInternalEepromLayerBLengthStart index

def appendBlobPair (index character modcode length : UInt8) : Action (Target σ) Unit := do
  let eepromIdx ← compute width (OffsetExpr.blobPair index (.byte length))
  onDevices ((c.blobEeprom index).writeByte eepromIdx character)
  let next ← compute width (OffsetExpr.next eepromIdx)
  onDevices ((c.blobEeprom index).writeByte next modcode)
  writeLength width c kInternalEepromLayerBLengthStart index (length + 1)

def appendToBlobShortcut (index character modcode : UInt8) : Action (Target σ) Unit :=
  if index > kLayerBMaxIndex then Action.stop
  else do
    let length ← getBlobShortcutLength width c index
    if length = 255 then Action.stop
    else appendBlobPair width c index character modcode length

def sendBlobPair (index : UInt8) (i : ℕ) : Action (Target σ) Unit := do
  let eepromIdx ← compute width (OffsetExpr.blobPair index (.int i))
  let character ← onDevices ((c.blobEeprom index).readByte eepromIdx)
  let next ← compute width (OffsetExpr.next eepromIdx)
  let modcode ← onDevices ((c.blobEeprom index).readByte next)
  onDevices (c.usbController.sendKeypress character modcode)

def sendBlobShortcut (index : UInt8) : Action (Target σ) Unit :=
  if index > kLayerBMaxIndex then Action.stop
  else do
    let length ← getBlobShortcutLength width c index
    if length = 0 then Action.stop
    else forM (List.range length.toNat) (sendBlobPair width c index)

def run : Request → Action (Target σ) (Option UInt8)
  | .appendToWord index character => silently (appendToWordShortcut width c index character)
  | .sendWord index rawModCode => silently (sendWordShortcut width c index rawModCode)
  | .appendToBlob index character modcode =>
    silently (appendToBlobShortcut width c index character modcode)
  | .sendBlob index => silently (sendBlobShortcut width c index)
  | r => onDevices (r.run c.methods)

end Operations

section Erasure

def Erases (t : Target σ) (s : σ) : Prop := t.world = s

variable {width : ℕ} {c : StorageController σ}

theorem onDevices_erases (x : Action σ α) : Corres Erases (onDevices x) x := by
  rintro t s rfl
  exact ⟨rfl, rfl⟩

theorem compute_erases {e : Expr} {offset : UInt16} {k : UInt16 → Action (Target σ) α}
    {y : Action σ α} (hvalue : UInt16.ofInt (e.value width) = offset)
    (hk : Corres Erases (k offset) y) : Corres Erases (compute width e >>= k) y := by
  rintro t s rfl
  subst hvalue
  exact hk { t with offsets := t.offsets ++ [e] } t.world rfl

variable (hwidth : 16 ≤ width)

include hwidth

theorem readLength_erases (start : UInt16) (index : UInt8) :
    Corres Erases (readLength width c start index)
      (c.internalEeprom.readByte (start + index.toUInt16)) :=
  compute_erases (length_value hwidth start index) (onDevices_erases _)

theorem writeLength_erases (start : UInt16) (index length : UInt8) :
    Corres Erases (writeLength width c start index length)
      (c.internalEeprom.writeByte (start + index.toUInt16) length) :=
  compute_erases (length_value hwidth start index) (onDevices_erases _)

theorem appendToWordShortcut_erases (index character : UInt8) :
    Corres Erases (appendToWordShortcut width c index character)
      (c.appendToWordShortcut index character) :=
  (readLength_erases hwidth _ index).bind fun _ => .ite .stop <|
    compute_erases (wordCharacter_value hwidth rfl index) <|
      (onDevices_erases _).bind fun _ => writeLength_erases hwidth _ index _

theorem sendWordCharacter_erases (index rawModCode length : UInt8) (i : ℕ) :
    Corres Erases (sendWordCharacter width c index rawModCode length i)
      (c.sendWordCharacter index rawModCode length i) :=
  compute_erases (wordCharacter_value hwidth rfl index) <|
    (onDevices_erases _).bind fun _ => onDevices_erases _

theorem sendWordShortcut_erases (index rawModCode : UInt8) :
    Corres Erases (sendWordShortcut width c index rawModCode)
      (c.sendWordShortcut index rawModCode) :=
  (readLength_erases hwidth _ index).bind fun length => .ite .stop <|
    .forM fun i _ => sendWordCharacter_erases hwidth index rawModCode length i

theorem getBlobShortcutLength_erases (index : UInt8) :
    Corres Erases (getBlobShortcutLength width c index) (c.getBlobShortcutLength index) :=
  .ite .stop (readLength_erases hwidth _ index)

theorem appendToBlobShortcut_erases (index character modcode : UInt8) :
    Corres Erases (appendToBlobShortcut width c index character modcode)
      (c.appendToBlobShortcut index character modcode) :=
  .ite .stop <| (getBlobShortcutLength_erases hwidth index).bind fun _ => .ite .stop <|
    compute_erases (blobPair_value hwidth rfl index) <| (onDevices_erases _).bind fun _ =>
      compute_erases (next_value hwidth _) <| (onDevices_erases _).bind fun _ =>
        writeLength_erases hwidth _ index _

theorem sendBlobPair_erases (index : UInt8) (i : ℕ) :
    Corres Erases (sendBlobPair width c index i) (c.sendBlobPair index i) :=
  compute_erases (blobPair_value hwidth rfl index) <| (onDevices_erases _).bind fun _ =>
    compute_erases (next_value hwidth _) <| (onDevices_erases _).bind fun _ => onDevices_erases _

theorem sendBlobShortcut_erases (index : UInt8) :
    Corres Erases (sendBlobShortcut width c index) (c.sendBlobShortcut index) :=
  .ite .stop <| (getBlobShortcutLength_erases hwidth index).bind fun _ => .ite .stop <|
    .forM fun i _ => sendBlobPair_erases hwidth index i

theorem run_erases (r : Request) : Corres Erases (run width c r) (r.run c.methods) := by
  cases r with
  | appendToWord index character =>
    exact (appendToWordShortcut_erases hwidth index character).bind fun _ => .pure none
  | sendWord index rawModCode =>
    exact (sendWordShortcut_erases hwidth index rawModCode).bind fun _ => .pure none
  | appendToBlob index character modcode =>
    exact (appendToBlobShortcut_erases hwidth index character modcode).bind fun _ => .pure none
  | sendBlob index => exact (sendBlobShortcut_erases hwidth index).bind fun _ => .pure none
  | _ => exact onDevices_erases _

end Erasure

end Target

end Threeboard.Storage
