import Threeboard.Library.Action

namespace Threeboard.Storage

open Actions

variable {σ : Type}

-- A stopped action is a call that returned false; its output arguments are never looked at then.
structure Eeprom (σ : Type) where
  readByte : UInt16 → Action σ UInt8
  writeByte : UInt16 → UInt8 → Action σ Unit

structure UsbController (σ : Type) where
  sendKeypress : UInt8 → UInt8 → Action σ Unit

namespace WordModCode

def lowercase : UInt8 := 0
def uppercase : UInt8 := 1
def capitalise : UInt8 := 2
def appendPeriod : UInt8 := 3
def appendComma : UInt8 := 4
def appendHyphen : UInt8 := 5

end WordModCode

def kInternalEepromLayerGLengthStart : UInt16 := 0x100
def kInternalEepromLayerBLengthStart : UInt16 := 0x200
def kEeprom0LayerBStart : ℕ := 0x1000
def kLayerBMaxIndex : UInt8 := 247
def kEeprom1LayerBStartShortcutId : UInt8 := 120

structure StorageController (σ : Type) where
  usbController : UsbController σ
  internalEeprom : Eeprom σ
  externalEeprom0 : Eeprom σ
  externalEeprom1 : Eeprom σ

namespace StorageController

variable (c : StorageController σ)

def setCharacterShortcut (index character : UInt8) : Action σ Unit :=
  c.internalEeprom.writeByte index.toUInt16 character

def getCharacterShortcut (index : UInt8) : Action σ UInt8 :=
  c.internalEeprom.readByte index.toUInt16

def getWordShortcutLength (index : UInt8) : Action σ UInt8 :=
  c.internalEeprom.readByte (kInternalEepromLayerGLengthStart + index.toUInt16)

def clearWordShortcut (index : UInt8) : Action σ Unit :=
  c.internalEeprom.writeByte (kInternalEepromLayerGLengthStart + index.toUInt16) 0

def wordOffset (index : UInt8) (position : ℕ) : UInt16 :=
  UInt16.ofNat (index.toNat * 16 + position)

def appendToWordShortcut (index character : UInt8) : Action σ Unit := do
  let length ← c.getWordShortcutLength index
  if length = 15 then Action.stop
  else
    c.externalEeprom0.writeByte (wordOffset index length.toNat) character
    c.internalEeprom.writeByte (kInternalEepromLayerGLengthStart + index.toUInt16) (length + 1)

def appendKeycode (wordModCode : UInt8) : UInt8 :=
  if wordModCode = WordModCode.appendPeriod then 0x37
  else if wordModCode = WordModCode.appendComma then 0x36
  else if wordModCode = WordModCode.appendHyphen then 0x2d
  else 0

def sendWordCharacter (index rawModCode length : UInt8) (i : ℕ) : Action σ Unit := do
  let character ← c.externalEeprom0.readByte (wordOffset index i)
  if rawModCode = WordModCode.uppercase ∨ rawModCode = WordModCode.capitalise ∧ i = 0 then
    c.usbController.sendKeypress character ((1 : UInt8) <<< 1)
  else
    let append := if i = length.toNat - 1 then appendKeycode rawModCode else 0
    if append > 0 then
      c.usbController.sendKeypress character 0
      c.usbController.sendKeypress append 0
    else c.usbController.sendKeypress character 0

def sendWordShortcut (index rawModCode : UInt8) : Action σ Unit := do
  let length ← c.getWordShortcutLength index
  if length = 0 then Action.stop
  else forM (List.range length.toNat) (c.sendWordCharacter index rawModCode length)

def getBlobShortcutLength (index : UInt8) : Action σ UInt8 :=
  if index > kLayerBMaxIndex then Action.stop
  else c.internalEeprom.readByte (kInternalEepromLayerBLengthStart + index.toUInt16)

def clearBlobShortcut (index : UInt8) : Action σ Unit :=
  if index > kLayerBMaxIndex then Action.stop
  else c.internalEeprom.writeByte (kInternalEepromLayerBLengthStart + index.toUInt16) 0

def blobEeprom (index : UInt8) : Eeprom σ :=
  if index ≥ kEeprom1LayerBStartShortcutId then c.externalEeprom1 else c.externalEeprom0

def blobOffset (index : UInt8) (position : ℕ) : UInt16 :=
  if index ≥ kEeprom1LayerBStartShortcutId then
    UInt16.ofNat ((index.toNat - kEeprom1LayerBStartShortcutId.toNat) * 512 + position * 2)
  else UInt16.ofNat (kEeprom0LayerBStart + index.toNat * 512 + position * 2)

def appendToBlobShortcut (index character modcode : UInt8) : Action σ Unit :=
  if index > kLayerBMaxIndex then Action.stop
  else do
    let length ← c.getBlobShortcutLength index
    if length = 255 then Action.stop
    else
      let eepromIdx := blobOffset index length.toNat
      (c.blobEeprom index).writeByte eepromIdx character
      (c.blobEeprom index).writeByte (eepromIdx + 1) modcode
      c.internalEeprom.writeByte (kInternalEepromLayerBLengthStart + index.toUInt16) (length + 1)

def sendBlobPair (index : UInt8) (i : ℕ) : Action σ Unit := do
  let eepromIdx := blobOffset index i
  let character ← (c.blobEeprom index).readByte eepromIdx
  let modcode ← (c.blobEeprom index).readByte (eepromIdx + 1)
  c.usbController.sendKeypress character modcode

def sendBlobShortcut (index : UInt8) : Action σ Unit :=
  if index > kLayerBMaxIndex then Action.stop
  else do
    let length ← c.getBlobShortcutLength index
    if length = 0 then Action.stop
    else forM (List.range length.toNat) (c.sendBlobPair index)

end StorageController

structure StorageMethods (σ : Type) where
  setCharacterShortcut : UInt8 → UInt8 → Action σ Unit
  getCharacterShortcut : UInt8 → Action σ UInt8
  appendToWordShortcut : UInt8 → UInt8 → Action σ Unit
  clearWordShortcut : UInt8 → Action σ Unit
  getWordShortcutLength : UInt8 → Action σ UInt8
  sendWordShortcut : UInt8 → UInt8 → Action σ Unit
  appendToBlobShortcut : UInt8 → UInt8 → UInt8 → Action σ Unit
  clearBlobShortcut : UInt8 → Action σ Unit
  getBlobShortcutLength : UInt8 → Action σ UInt8
  sendBlobShortcut : UInt8 → Action σ Unit

def StorageController.methods (c : StorageController σ) : StorageMethods σ where
  setCharacterShortcut := c.setCharacterShortcut
  getCharacterShortcut := c.getCharacterShortcut
  appendToWordShortcut := c.appendToWordShortcut
  clearWordShortcut := c.clearWordShortcut
  getWordShortcutLength := c.getWordShortcutLength
  sendWordShortcut := c.sendWordShortcut
  appendToBlobShortcut := c.appendToBlobShortcut
  clearBlobShortcut := c.clearBlobShortcut
  getBlobShortcutLength := c.getBlobShortcutLength
  sendBlobShortcut := c.sendBlobShortcut

end Threeboard.Storage
