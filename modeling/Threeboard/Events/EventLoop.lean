import Threeboard.Keys.KeyController
import Threeboard.Layers.LayerController
import Threeboard.Leds.LedController
import Threeboard.Library.Mailbox

namespace Threeboard.Events

open Actions Keys Layers Leds Mailbox

structure EventBuffer where
  event : Keypress
  hasKeypress : Bool := false
  deriving DecidableEq, Repr

namespace EventBuffer

def hasKeypressEvent (b : EventBuffer) : Bool := b.hasKeypress

def getKeypressEvent (b : EventBuffer) : Keypress × EventBuffer :=
  (b.event, { b with hasKeypress := false })

def handleKeypress (keypress : Keypress) (_ : EventBuffer) : EventBuffer :=
  { event := keypress, hasKeypress := true }

def pending (b : EventBuffer) : Option Keypress := if b.hasKeypress then some b.event else none

end EventBuffer

scoped instance bootStatusNeZero : @NeZero ℕ ⟨0⟩ 8 := ⟨by decide⟩
scoped instance bootCounterNeZero : @NeZero ℕ ⟨0⟩ 32 := ⟨by decide⟩

structure BootIndicator where
  status : Fin 8 := 0
  counter : Fin 32 := 0
  deriving DecidableEq, Repr

namespace BootIndicator

def lights (indicator : BootIndicator) (led : LedState) : LedState :=
  if indicator.status = 1 then led.setR .on
  else if indicator.status = 2 then (led.setR .off).setG .on
  else if indicator.status = 3 then (led.setG .off).setB .on
  else led

def poll (indicator : BootIndicator) (led : LedState) : BootIndicator × LedState :=
  let (indicator, led) :=
    if indicator.counter > 12 then
      if indicator.status > 3 then ({ indicator with status := 0 }, led.setB .off)
      else (⟨indicator.status + 1, 0⟩, indicator.lights led)
    else (indicator, led)
  ({ indicator with counter := indicator.counter + 1 }, led)

end BootIndicator

-- Where the event loop is; HandleEvent is what is left of it to run.
inductive Phase (σ : Type) where
  | between
  | handling (rest : Action (Board σ) Unit)
  | sleeping

structure EventLoop (σ : Type) where
  eventBuffer : EventBuffer
  keyMask : UInt8 := 0
  blinkStatus : UInt8 := 0
  bootIndicator : BootIndicator := {}
  board : Board σ
  phase : Phase σ := .between
  samples : List UInt8 := []
  history : List (Occurrence Keypress) := []

namespace EventLoop

variable {σ : Type} (d : Devices σ)

def pollKeyState (pinb : UInt8) (t : EventLoop σ) : EventLoop σ :=
  let (keypress, keyMask) := KeyController.pollKeyState t.keyMask pinb
  let t := { t with keyMask, samples := t.samples ++ [pinb] }
  match keypress with
  | some k => { t with
      eventBuffer := t.eventBuffer.handleKeypress k
      history := t.history ++ [.post k] }
  | none => t

def updateBlinkStatus (t : EventLoop σ) : EventLoop σ :=
  { t with blinkStatus := nextBlinkStatus t.blinkStatus }

def pollBootIndicator (t : EventLoop σ) : EventLoop σ :=
  let (bootIndicator, ledState) := t.bootIndicator.poll t.board.ledState
  { t with bootIndicator, board := { t.board with ledState } }

-- But for the message that it logs at its first interrupt.
def handleTimer3Interrupt (pinb : UInt8) (t : EventLoop σ) : EventLoop σ :=
  let t := (t.pollKeyState pinb).updateBlinkStatus
  if t.bootIndicator.status > 0 then t.pollBootIndicator else t

-- One iteration up to where HandleEvent begins or the CPU sleeps; interrupts are off meanwhile.
def beginIteration (t : EventLoop σ) : EventLoop σ :=
  if t.eventBuffer.hasKeypressEvent then
    let (keypress, eventBuffer) := t.eventBuffer.getKeypressEvent
    { t with
      eventBuffer
      phase := .handling (LayerController.handleEvent d keypress)
      history := t.history ++ [.fetch keypress] }
  else { t with phase := .sleeping }

def endIteration (rest : Action (Board σ) Unit) (t : EventLoop σ) : EventLoop σ :=
  match rest t.board with
  | (some (), board) => { t with board, phase := .between }
  | (none, board) =>
    { t with board := { board with ledState := board.ledState.setErr .pulse }, phase := .between }

end EventLoop

inductive Input where
  | timer3 (pinb : UInt8)
  | iterate
  | work
  | finish
  | wake
  deriving DecidableEq, Repr

variable {σ : Type}

inductive Step (d : Devices σ) : EventLoop σ → Input → EventLoop σ → Prop where
  | timer3 (t) (pinb : UInt8) : Step d t (.timer3 pinb) (t.handleTimer3Interrupt pinb)
  | iterate (t) (h : t.phase = .between) : Step d t .iterate (t.beginIteration d)
  | work (t) {α : Type} (x : Action (Board σ) α) (f : α → Action (Board σ) Unit) (a : α)
      (b : Board σ) (h : t.phase = .handling (x >>= f)) (hx : x t.board = (some a, b)) :
      Step d t .work { t with board := b, phase := .handling (f a) }
  | finish (t) (rest : Action (Board σ) Unit) (h : t.phase = .handling rest) :
      Step d t .finish (t.endIteration rest)
  | wake (t) (h : t.phase = .sleeping) : Step d t .wake { t with phase := .between }

end Threeboard.Events
