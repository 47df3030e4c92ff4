import Mathlib.Logic.Function.Basic
import Mathlib.Tactic.Common

namespace Threeboard.Simulator

def TWI_COND_START : UInt8 := 1
def TWI_COND_STOP : UInt8 := 2
def TWI_COND_ACK : UInt8 := 8
def TWI_COND_WRITE : UInt8 := 16
def TWI_COND_READ : UInt8 := 32

structure TwiMessage where
  msg : UInt8
  addr : UInt8
  data : UInt8
  deriving DecidableEq, Repr

def TwiMessage.has (message : TwiMessage) (condition : UInt8) : Bool := message.msg &&& condition ≠ 0

def kControlCode : UInt8 := 0b10100000

def parseMessageAddress (address : UInt8) : UInt8 := (address &&& 14) >>> 1

def isControlByte (message : TwiMessage) : Bool := message.addr &&& kControlCode ≠ 0

inductive Instance where
  | eeprom0
  | eeprom1
  deriving DecidableEq, Repr

def Instance.code : Instance → UInt8
  | .eeprom0 => 0
  | .eeprom1 => 3

inductive EepromState where
  | stopped
  | addressingHigh
  | addressingLow
  | started
  deriving DecidableEq, Repr

inductive EepromMode where
  | write
  | read
  deriving DecidableEq, Repr

abbrev Buffer := Fin 65535 → UInt8

-- Beyond its 65535 bytes the array holds nothing: a read gives zero, a write is lost.
def Buffer.get (buffer : Buffer) (i : ℕ) : UInt8 := if h : i < 65535 then buffer ⟨i, h⟩ else 0

def Buffer.set (buffer : Buffer) (i : ℕ) (byte : UInt8) : Buffer :=
  if h : i < 65535 then Function.update buffer ⟨i, h⟩ byte else buffer

structure I2cEeprom where
  address : UInt8
  buffer : Buffer
  state : EepromState
  mode : EepromMode
  operationAddress : UInt16
  operationAddressCounter : UInt8
  raised : List TwiMessage

namespace I2cEeprom

variable (e : I2cEeprom)

def reset : I2cEeprom :=
  { e with operationAddress := 0, operationAddressCounter := 0, state := .stopped }

def isRelevant (message : TwiMessage) : Bool := parseMessageAddress message.addr = e.address

def raiseI2cIrq (msg data : UInt8) : I2cEeprom :=
  { e with raised := e.raised ++ [⟨msg, e.address, data⟩] }

def index : ℕ := e.operationAddress.toNat + e.operationAddressCounter.toNat

def handleStart (message : TwiMessage) : I2cEeprom :=
  let mode : EepromMode := if message.addr &&& 1 = 0 then .write else .read
  let state : EepromState := if mode = .write then .addressingHigh else .started
  { e with mode, state }.raiseI2cIrq TWI_COND_ACK 1

def takeByte (data : UInt8) : I2cEeprom :=
  match e.state with
  | .addressingHigh =>
    { e with
      operationAddress := e.operationAddress ||| data.toUInt16 <<< 8, state := .addressingLow }
  | .addressingLow =>
    { e with operationAddress := e.operationAddress ||| data.toUInt16, state := .started }
  | .started =>
    { e with
      buffer := e.buffer.set e.index data
      operationAddressCounter := e.operationAddressCounter + 1 }
  | .stopped => e

def handleWrite (message : TwiMessage) : I2cEeprom :=
  (e.takeByte message.data).raiseI2cIrq TWI_COND_ACK 1

def handleRead : I2cEeprom :=
  let currentByte := e.buffer.get e.index
  { e with operationAddressCounter := e.operationAddressCounter + 1 }.raiseI2cIrq
    TWI_COND_READ currentByte

def handleI2cMessage (message : TwiMessage) : I2cEeprom :=
  if ¬ e.isRelevant message then
    if message.has TWI_COND_START then e.reset else e
  else
    let e := if message.has TWI_COND_STOP then e.reset else e
    if message.has TWI_COND_START ∧ ¬ isControlByte message then e
    else
      let e := if message.has TWI_COND_START then e.handleStart message else e
      let e := if message.has TWI_COND_WRITE then e.handleWrite message else e
      if message.has TWI_COND_READ then e.handleRead else e

-- A component just constructed; its mode is not initialised.
def attached (which : Instance) (buffer : Buffer) (mode : EepromMode) : I2cEeprom where
  address := which.code
  buffer
  state := .stopped
  mode
  operationAddress := 0
  operationAddressCounter := 0
  raised := []

section Messages

variable {e} {control data : UInt8}

theorem handle_stop (h : parseMessageAddress control = e.address) :
    e.handleI2cMessage ⟨TWI_COND_STOP, control, data⟩ = e.reset := by
  simp +decide [handleI2cMessage, isRelevant, h, TwiMessage.has]

theorem handle_start (h : parseMessageAddress control = e.address)
    (hcontrol : control &&& kControlCode ≠ 0) :
    e.handleI2cMessage ⟨TWI_COND_START, control, data⟩ =
      e.handleStart ⟨TWI_COND_START, control, data⟩ := by
  simp +decide [handleI2cMessage, isRelevant, h, TwiMessage.has, isControlByte, hcontrol]

theorem handle_write (h : parseMessageAddress control = e.address) :
    e.handleI2cMessage ⟨TWI_COND_WRITE, control, data⟩ =
      e.handleWrite ⟨TWI_COND_WRITE, control, data⟩ := by
  simp +decide [handleI2cMessage, isRelevant, h, TwiMessage.has]

theorem handle_read (h : parseMessageAddress control = e.address) :
    e.handleI2cMessage ⟨TWI_COND_READ, control, data⟩ = e.handleRead := by
  simp +decide [handleI2cMessage, isRelevant, h, TwiMessage.has]

theorem handle_other {message : TwiMessage} (h : parseMessageAddress message.addr ≠ e.address) :
    e.handleI2cMessage message = if message.has TWI_COND_START then e.reset else e := by
  simp [handleI2cMessage, isRelevant, h]

end Messages

end I2cEeprom

end Threeboard.Simulator
