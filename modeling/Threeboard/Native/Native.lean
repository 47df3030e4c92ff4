import Threeboard.Library.Polling

namespace Threeboard.Mcu

open Actions

inductive Register where
  | UEDATX | UEINTX | UDINT | UECONX | UECFG0X | UECFG1X | UDMFN | UENUM | UEIENX | UDADDR | UERST
  | UDFNUML | SREG
  | TWSR | TWCR | TWDR
  | PORTB | PORTC | PORTD | PORTF
  deriving DecidableEq, Repr

-- The registers of the microcontroller; reading one may change what is read next.
structure Native (σ : Type) where
  getRegister : Register → σ → UInt8 × σ
  setRegister : Register → UInt8 → σ → σ

variable {σ : Type}

def Native.get (native : Native σ) (r : Register) : Action σ UInt8 := fun s =>
  (some (native.getRegister r s).1, (native.getRegister r s).2)

def Native.set (native : Native σ) (r : Register) (value : UInt8) : Action σ Unit :=
  Action.modify (native.setRegister r value)

def Native.enable (native : Native σ) (r : Register) (val : UInt8) : Action σ Unit := do
  let current ← native.get r
  native.set r (current ||| val)

def Native.disable (native : Native σ) (r : Register) (val : UInt8) : Action σ Unit := do
  let current ← native.get r
  native.set r (current &&& ~~~val)

def Native.enablePORTB (native : Native σ) : UInt8 → Action σ Unit := native.enable .PORTB
def Native.disablePORTB (native : Native σ) : UInt8 → Action σ Unit := native.disable .PORTB
def Native.enablePORTC (native : Native σ) : UInt8 → Action σ Unit := native.enable .PORTC
def Native.disablePORTC (native : Native σ) : UInt8 → Action σ Unit := native.disable .PORTC
def Native.enablePORTD (native : Native σ) : UInt8 → Action σ Unit := native.enable .PORTD
def Native.disablePORTD (native : Native σ) : UInt8 → Action σ Unit := native.disable .PORTD
def Native.enablePORTF (native : Native σ) : UInt8 → Action σ Unit := native.enable .PORTF
def Native.disablePORTF (native : Native σ) : UInt8 → Action σ Unit := native.disable .PORTF

def bit (n : UInt8) : UInt8 := 1 <<< n

def SREG_I : UInt8 := 7

def Native.enableInterrupts (native : Native σ) : Action σ Unit := native.enable .SREG (bit SREG_I)
def Native.disableInterrupts (native : Native σ) : Action σ Unit := native.disable .SREG (bit SREG_I)

def TXINI : UInt8 := 0
def STALLEDI : UInt8 := 1
def RXOUTI : UInt8 := 2
def RXSTPI : UInt8 := 3
def NAKOUTI : UInt8 := 4
def RWAL : UInt8 := 5

def EPEN : UInt8 := 0
def STALLRQ : UInt8 := 5

def RXSTPE : UInt8 := 3

def SOFI : UInt8 := 2
def EORSTI : UInt8 := 3

def FNCERR : UInt8 := 4

def ADDEN : UInt8 := 7

def TWEN : UInt8 := 2
def TWSTO : UInt8 := 4
def TWSTA : UInt8 := 5
def TWEA : UInt8 := 6
def TWINT : UInt8 := 7

def TW_START : UInt8 := 0x08
def TW_REP_START : UInt8 := 0x10
def TW_MT_SLA_ACK : UInt8 := 0x18
def TW_MT_SLA_NACK : UInt8 := 0x20
def TW_MT_DATA_ACK : UInt8 := 0x28
def TW_MT_DATA_NACK : UInt8 := 0x30
def TW_MR_SLA_ACK : UInt8 := 0x40
def TW_MR_SLA_NACK : UInt8 := 0x48
def TW_MR_DATA_ACK : UInt8 := 0x50
def TW_MR_DATA_NACK : UInt8 := 0x58
def TW_NO_INFO : UInt8 := 0xF8

def PB4 : UInt8 := 4
def PB5 : UInt8 := 5
def PB6 : UInt8 := 6
def PC6 : UInt8 := 6
def PD4 : UInt8 := 4
def PD6 : UInt8 := 6
def PD7 : UInt8 := 7
def PF0 : UInt8 := 0
def PF1 : UInt8 := 1
def PF4 : UInt8 := 4
def PF5 : UInt8 := 5

end Threeboard.Mcu
