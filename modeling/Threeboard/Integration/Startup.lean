import Threeboard.Integration.Booting
import Threeboard.Usb.Setup
import Threeboard.Leds.Timing

namespace Threeboard.Integration

open Actions Actions.Action Events Layers Leds LedController Simulator Storage Usb

variable {σ : Type}

inductive Timer where
  | timer1
  | timer3
  deriving DecidableEq, Repr

def interrupt (s : Simulation σ) : Timer → Simulation σ
  | .timer1 => s.handleTimer1Interrupt
  | .timer3 => s.handleTimer3Interrupt

def Timer.message : Timer → String
  | .timer1 => "Timer 1 setup complete"
  | .timer3 => "Timer 3 setup complete"

def setupMessage : String := "Failed to lock PLL during USB setup"
def configurationMessage : String := "Failed to configure USB, continuing to retry"

-- Each use of LOG_ONCE has a flag of its own.
inductive LogSite where
  | timer (t : Timer)
  | configuration
  deriving DecidableEq, Repr

-- The keyboard before its event loop. When the PLL locks, what HasConfigured() says and which timer
-- interrupts come before an attempt, before a poll and in a delay is not for the firmware to decide;
-- those that come while Setup() waits for the PLL are taken before it, which neither of them sees.
structure Startup (σ : Type) where
  usb : UsbModule
  simulation : Simulation σ
  configured : ℕ → Bool
  polls : ℕ := 0
  interrupts : ℕ → List Timer
  interludes : ℕ := 0
  hasLogged : LogSite → Bool := fun _ => false
  delays : List (UInt8 × State) := []

namespace Startup

def onUsb {α : Type} (x : Action UsbModule α) : Action (Startup σ) α :=
  zoom usb (fun usb s => { s with usb }) x

def logOnce (site : LogSite) (line : String) : Action (Startup σ) Unit := do
  let hasLogged ← Action.gets fun s => s.hasLogged site
  if hasLogged then pure ()
  else do
    Action.modify fun s => { s with hasLogged := Function.update s.hasLogged site true }
    onUsb (UsbModule.log line)

def handleTimer (t : Timer) : Action (Startup σ) Unit := do
  logOnce (.timer t) t.message
  Action.modify fun s => { s with simulation := interrupt s.simulation t }

def interlude : Action (Startup σ) Unit := do
  let timers ← Action.gets fun s => s.interrupts s.interludes
  Action.modify fun s => { s with interludes := s.interludes + 1 }
  forM timers handleTimer

def setLeds (f : LedState → LedState) : Action (Startup σ) Unit := Action.modify fun s =>
  { s with simulation := s.simulation.setLedState (f s.simulation.board.ledState) }

def setErr (state : State) : Action (Startup σ) Unit := setLeds (LedState.setErr state)

def delayMs (ms : UInt8) : Action (Startup σ) Unit := do
  Action.modify fun s =>
    { s with delays := s.delays ++ [(ms, s.simulation.board.ledState.ledErr.state)] }
  interlude

def hasConfigured : Action (Startup σ) Bool :=
  fun s => (some (s.configured s.polls), { s with polls := s.polls + 1 })

def trySetup (_ : Unit) : Action (Startup σ) (Unit ⊕ Unit) := do
  interlude
  if ← onUsb setup then pure (.inr ())
  else do
    setErr .blink
    delayMs 50
    pure (.inl ())

def waitForUsbSetup (rounds : ℕ) : Action (Startup σ) Unit := do
  Action.loop trySetup rounds ()
  setErr .off

def pollConfiguration (iterations : UInt8) : Action (Startup σ) (UInt8 ⊕ Unit) := do
  interlude
  if ← hasConfigured then pure (.inr ())
  else do
    if iterations + 1 > 250 then do
      logOnce .configuration configurationMessage
      setErr .blink
    delayMs 10
    pure (.inl (iterations + 1))

def waitForUsbConfiguration (rounds : ℕ) : Action (Startup σ) Unit := do
  Action.loop pollConfiguration rounds 0
  setErr .off

def displayBootIndicator : Action (Startup σ) Unit := do
  Action.modify fun s => { s with simulation.threeboard.bootIndicator := ⟨1, 13⟩ }
  delayMs 255

def start (rounds : ℕ) : Action (Startup σ) Unit := do
  waitForUsbSetup rounds
  waitForUsbConfiguration rounds
  displayBootIndicator

end Startup

variable {R : σ → Ideal → Prop} {d : Devices σ} {err : State}

theorem Idling.timer1_err {s : Simulation σ} (h : Idling R d s)
    (hs : s.board.ledState.ledErr = .of err) (he : err ≠ .pulse) :
    s.handleTimer1Interrupt.board.ledState.ledErr = .of err := by
  obtain ⟨row, hrow⟩ := h.scanning
  have hstate : s.handleTimer1Interrupt.board.ledState = s.board.ledState.tick (ticking row) :=
    state_scan hrow
  have hkept : s.board.ledState.ledErr.tick = s.board.ledState.ledErr := by
    rw [hs, FullState.tick, if_neg (show (FullState.of err).state ≠ .pulse from he)]
  rw [hstate]
  change (s.board.ledState.tick (ticking row)).get .err = _
  rw [tick_get row .err s.board.ledState]
  split
  · exact hkept.trans hs
  · exact hs

theorem timer3_err {s : Simulation σ} (hs : s.board.ledState.ledErr = .of err) :
    s.handleTimer3Interrupt.board.ledState.ledErr = .of err := by
  have hpolled := congrArg Prod.snd (timer3_polls s.threeboard s.pinb).indicator
  refine (congrArg LedState.ledErr hpolled).trans (Eq.trans ?_ hs)
  split
  · simp only [BootIndicator.poll, BootIndicator.lights]
    split_ifs <;> rfl
  · rfl

structure Awaiting (R : σ → Ideal → Prop) (d : Devices σ) (err : State) (s : Simulation σ) : Prop
    extends Idling R d s where
  leds : mainLeds s.board.ledState = {}
  indicator : s.threeboard.bootIndicator = {}
  ledErr : s.board.ledState.ledErr = .of err

namespace Awaiting

variable {s : Simulation σ}

theorem plain (h : Awaiting R d err s) : Plain s.board.ledState := by
  rw [← plain_mainLeds, h.leds]
  exact plain_boot

theorem timer1 (h : Awaiting R d err s) (he : err ≠ .pulse) :
    Awaiting R d err s.handleTimer1Interrupt :=
  ⟨h.toIdling.timer1, (timer1_leds h.scanning h.plain).trans h.leds, h.indicator,
    h.toIdling.timer1_err h.ledErr he⟩

theorem timer3 (h : Awaiting R d err s) : Awaiting R d err s.handleTimer3Interrupt := by
  have hpolled := (timer3_polls s.threeboard s.pinb).indicator
  rw [h.indicator, if_neg (by decide)] at hpolled
  have hled : s.handleTimer3Interrupt.board.ledState = s.board.ledState := congrArg Prod.snd hpolled
  exact ⟨h.toIdling.timer3, hled ▸ h.leds, congrArg Prod.fst hpolled, timer3_err h.ledErr⟩

theorem interrupt (h : Awaiting R d err s) (he : err ≠ .pulse) (t : Timer) :
    Awaiting R d err (interrupt s t) := by
  cases t with
  | timer1 => exact h.timer1 he
  | timer3 => exact h.timer3

theorem interrupted (h : Awaiting R d err s) (he : err ≠ .pulse) (timers : List Timer) :
    Awaiting R d err (timers.foldl Integration.interrupt s) := by
  induction timers generalizing s with
  | nil => exact h
  | cons t rest ih => exact ih (h.interrupt he t)

theorem setErr (h : Awaiting R d err s) (state : State) :
    Awaiting R d state (s.setLedState (s.board.ledState.setErr state)) := by
  obtain ⟨row, hrow⟩ := h.scanning
  exact ⟨⟨h.world, h.board, ⟨h.events.low, h.events.keyMask, h.events.pending, h.events.phase⟩,
    ⟨row, hrow.line, hrow.ready⟩, h.taken, h.output⟩, h.leds, h.indicator, rfl⟩

end Awaiting

def untimed (logged : List String) : List String :=
  logged.filter fun line => line ≠ Timer.timer1.message ∧ line ≠ Timer.timer3.message

def forgetTimers (u : UsbModule) : UsbModule := { u with logged := untimed u.logged }

structure Progress where
  err : State := .off
  usb : UsbModule
  polls : ℕ := 0
  hasLogged : Bool := false
  delays : List (UInt8 × State) := []
  interludes : ℕ := 0
  seen : Timer → Bool := fun _ => false

structure LoggedOnce (seen : Timer → Bool) (s : Startup σ) : Prop where
  flag : ∀ t, s.hasLogged (.timer t) = seen t
  count : ∀ t, s.usb.logged.count t.message = if seen t then 1 else 0

structure Recorded (configured : ℕ → Bool) (interrupts : ℕ → List Timer) (p : Progress)
    (s : Startup σ) : Prop where
  usb : forgetTimers s.usb = p.usb
  configured : s.configured = configured
  polls : s.polls = p.polls
  hasLogged : s.hasLogged .configuration = p.hasLogged
  delays : s.delays = p.delays
  interrupts : s.interrupts = interrupts
  interludes : s.interludes = p.interludes
  logged : LoggedOnce p.seen s

structure Stage (R : σ → Ideal → Prop) (d : Devices σ) (configured : ℕ → Bool)
    (interrupts : ℕ → List Timer) (p : Progress) (s : Startup σ) : Prop
    extends Recorded configured interrupts p s where
  awaiting : Awaiting R d p.err s.simulation

section Logging

open Startup

theorem untimed_append {line : String} (logged : List String)
    (h1 : line ≠ Timer.timer1.message) (h3 : line ≠ Timer.timer3.message) :
    untimed (logged ++ [line]) = untimed logged ++ [line] := by
  simp [untimed, h1, h3]

theorem untimed_message (logged : List String) (t : Timer) :
    untimed (logged ++ [t.message]) = untimed logged := by
  cases t <;> simp [untimed]

theorem count_message (t u : Timer) : [t.message].count u.message = if u = t then 1 else 0 := by
  cases t <;> cases u <;> decide

def Startup.noted (site : LogSite) (line : String) (s : Startup σ) : Startup σ :=
  if s.hasLogged site then s
  else { s with
    hasLogged := Function.update s.hasLogged site true
    usb.logged := s.usb.logged ++ [line] }

theorem logOnce_run (site : LogSite) (line : String) (s : Startup σ) :
    logOnce site line s = (some (), s.noted site line) := by
  by_cases h : s.hasLogged site <;> simp [logOnce, bind_run, h, noted, onUsb, UsbModule.log]

theorem noted_usb (t : Timer) (s : Startup σ) :
    forgetTimers (s.noted (.timer t) t.message).usb = forgetTimers s.usb := by
  rw [noted]
  split
  · rfl
  · simp only [forgetTimers, untimed_message]

theorem noted_kept (t : Timer) (s : Startup σ) :
    let u := s.noted (.timer t) t.message
    u.simulation = s.simulation ∧ u.configured = s.configured ∧ u.polls = s.polls ∧
      u.hasLogged .configuration = s.hasLogged .configuration ∧ u.delays = s.delays ∧
      u.interrupts = s.interrupts ∧ u.interludes = s.interludes := by
  simp only [noted]
  split
  · simp
  · simp

theorem LoggedOnce.kept {seen : Timer → Bool} {s u : Startup σ} (h : LoggedOnce seen s)
    (hflags : u.hasLogged = s.hasLogged) (husb : u.usb = s.usb) : LoggedOnce seen u :=
  ⟨hflags ▸ h.flag, husb ▸ h.count⟩

theorem LoggedOnce.noted {seen : Timer → Bool} {s : Startup σ} (h : LoggedOnce seen s) (t : Timer) :
    LoggedOnce (fun u => seen u || u = t) (s.noted (.timer t) t.message) := by
  by_cases hs : s.hasLogged (.timer t)
  · have hsame : (fun u => seen u || decide (u = t)) = seen := by
      funext u
      by_cases hu : u = t
      · rw [hu, ← h.flag t, hs, Bool.true_or]
      · simp [hu]
    rw [hsame, Startup.noted, if_pos hs]
    exact h
  · have hnot : seen t = false := by rw [← h.flag t, Bool.eq_false_iff.mpr hs]
    rw [Startup.noted, if_neg hs]
    refine ⟨fun u => ?_, fun u => ?_⟩
    · by_cases hu : u = t
      · simp [hu]
      · simp [hu, h.flag u]
    · rw [List.count_append, h.count u, count_message]
      by_cases hu : u = t
      · simp [hu, hnot]
      · simp [hu]

end Logging

section Interludes

open Startup

variable {configured : ℕ → Bool} {interrupts : ℕ → List Timer} {p : Progress} {s : Startup σ}

theorem Recorded.handleTimer (h : Recorded configured interrupts p s) (t : Timer) :
    ∃ u, handleTimer t s = (some (), u) ∧ u.simulation = interrupt s.simulation t ∧
      Recorded configured interrupts { p with seen := fun u => p.seen u || u = t } u := by
  obtain ⟨hsimulation, hconfigured, hpolls, hflag, hdelays, hinterrupts, hinterludes⟩ :=
    noted_kept t s
  have hrun : Startup.handleTimer t s = (some (), { s.noted (.timer t) t.message with
      simulation := interrupt s.simulation t }) := by
    rw [Startup.handleTimer, bind_of_some (logOnce_run _ _ s), modify_run, hsimulation]
  have hlogged := h.logged.noted t
  exact ⟨_, hrun, rfl, (noted_usb t s).trans h.usb, hconfigured.trans h.configured,
    hpolls.trans h.polls, hflag.trans h.hasLogged, hdelays.trans h.delays,
    hinterrupts.trans h.interrupts, hinterludes.trans h.interludes, hlogged.kept rfl rfl⟩

def Progress.seeing (timers : List Timer) (p : Progress) : Progress :=
  { p with seen := fun t => p.seen t || t ∈ timers }

theorem Recorded.handleTimers (h : Recorded configured interrupts p s) (timers : List Timer) :
    ∃ u, forM timers Startup.handleTimer s = (some (), u) ∧
      u.simulation = timers.foldl interrupt s.simulation ∧
      Recorded configured interrupts (p.seeing timers) u := by
  induction timers generalizing p s with
  | nil =>
    have hsame : p.seeing [] = p := by simp [Progress.seeing]
    exact ⟨s, rfl, rfl, hsame.symm ▸ h⟩
  | cons t rest ih =>
    have hsame : Progress.seeing rest { p with seen := fun u => p.seen u || u = t } =
        p.seeing (t :: rest) := by
      simp [Progress.seeing, Bool.or_assoc, Bool.decide_or]
    obtain ⟨u, hfirst, hsimulation, hu⟩ := h.handleTimer t
    obtain ⟨v, hrest, hlast, hv⟩ := ih hu
    rw [hsimulation] at hlast
    rw [hsame] at hv
    exact ⟨v, (bind_of_some hfirst _).trans hrest, hlast, hv⟩

def came (interrupts : ℕ → List Timer) (n : ℕ) (t : Timer) : Bool :=
  (List.range n).any fun i => t ∈ interrupts i

theorem came_succ (interrupts : ℕ → List Timer) (n : ℕ) (t : Timer) :
    came interrupts (n + 1) t = (came interrupts n t || t ∈ interrupts n) := by
  simp [came, List.range_succ]

def Progress.interrupted (interrupts : ℕ → List Timer) (p : Progress) : Progress :=
  { p.seeing (interrupts p.interludes) with interludes := p.interludes + 1 }

theorem Recorded.interlude (h : Recorded configured interrupts p s) :
    ∃ u, interlude s = (some (), u) ∧
      u.simulation = (interrupts p.interludes).foldl interrupt s.simulation ∧
      Recorded configured interrupts (p.interrupted interrupts) u := by
  have hnext : Recorded configured interrupts { p with interludes := p.interludes + 1 }
      { s with interludes := s.interludes + 1 } :=
    { h with
      interludes := congrArg (· + 1) h.interludes
      logged := h.logged.kept rfl rfl }
  have hrun : Startup.interlude s = forM (interrupts p.interludes) Startup.handleTimer
      { s with interludes := s.interludes + 1 } := by
    rw [Startup.interlude, gets_bind, modify_bind, h.interrupts, h.interludes]
  rw [hrun]
  exact hnext.handleTimers _

def Progress.delayed (interrupts : ℕ → List Timer) (ms : UInt8) (p : Progress) : Progress :=
  { p.interrupted interrupts with delays := p.delays ++ [(ms, p.err)] }

theorem Recorded.delayMs (h : Recorded configured interrupts p s)
    (herr : s.simulation.board.ledState.ledErr = .of p.err) (ms : UInt8) :
    ∃ u, delayMs ms s = (some (), u) ∧
      u.simulation = (interrupts p.interludes).foldl interrupt s.simulation ∧
      Recorded configured interrupts (p.delayed interrupts ms) u := by
  have hdelays : s.delays ++ [(ms, s.simulation.board.ledState.ledErr.state)] =
      p.delays ++ [(ms, p.err)] := by
    rw [h.delays, herr]
    rfl
  have hnext : Recorded configured interrupts { p with delays := p.delays ++ [(ms, p.err)] }
      { s with delays := s.delays ++ [(ms, s.simulation.board.ledState.ledErr.state)] } :=
    { h with delays := hdelays, logged := h.logged.kept rfl rfl }
  exact hnext.interlude

end Interludes

section Stages

open Startup

variable {configured : ℕ → Bool} {interrupts : ℕ → List Timer} {p : Progress}

theorem stage_interlude (he : p.err ≠ .pulse) :
    Attains (Stage R d configured interrupts p) (fun _ => interlude)
      fun _ => Stage R d configured interrupts (p.interrupted interrupts) := by
  intro s hs
  obtain ⟨u, hrun, hsimulation, hu⟩ := hs.interlude
  refine ⟨(), u, .of_run fun _ => hrun, hu, ?_⟩
  rw [hsimulation]
  exact hs.awaiting.interrupted he _

theorem stage_setErr (state : State) :
    Attains (Stage R d configured interrupts p) (fun _ => setErr state)
      fun _ => Stage R d configured interrupts { p with err := state } :=
  Attains.modify fun _ h =>
    { h with awaiting := h.awaiting.setErr state, logged := h.logged.kept rfl rfl }

theorem stage_delayMs (he : p.err ≠ .pulse) (ms : UInt8) :
    Attains (Stage R d configured interrupts p) (fun _ => delayMs ms)
      fun _ => Stage R d configured interrupts (p.delayed interrupts ms) := by
  intro s hs
  obtain ⟨u, hrun, hsimulation, hu⟩ := hs.delayMs hs.awaiting.ledErr ms
  refine ⟨(), u, .of_run fun _ => hrun, hu, ?_⟩
  rw [hsimulation]
  exact hs.awaiting.interrupted he _

structure Untimely (f : UsbModule → UsbModule) : Prop where
  forgets : ∀ u, forgetTimers (f u) = f (forgetTimers u)
  counts : ∀ u (t : Timer), (f u).logged.count t.message = u.logged.count t.message

theorem untimely_attach (n : ℕ) : Untimely (UsbModule.attach n) := ⟨fun _ => rfl, fun _ _ => rfl⟩

theorem count_other {line : String} (h : ∀ t : Timer, line ≠ t.message) (logged : List String)
    (t : Timer) : (logged ++ [line]).count t.message = logged.count t.message := by
  rw [List.count_append, List.count_singleton, beq_eq_false_iff_ne.mpr (h t)]
  rfl

theorem setupMessage_ne (t : Timer) : setupMessage ≠ t.message := by cases t <;> decide

theorem configurationMessage_ne (t : Timer) : configurationMessage ≠ t.message := by
  cases t <;> decide

theorem untimely_giveUp : Untimely UsbModule.giveUp where
  forgets u := congrArg
    (fun logged =>
      { u with reads := u.reads + 0xFFFF, writes := u.writes ++ UsbModule.lockWrites, logged })
    (untimed_append u.logged (setupMessage_ne .timer1) (setupMessage_ne .timer3))
  counts u t := count_other setupMessage_ne u.logged t

theorem untimely_warning :
    Untimely fun u => { u with logged := u.logged ++ [configurationMessage] } where
  forgets u := congrArg (fun logged => { u with logged })
    (untimed_append u.logged (configurationMessage_ne .timer1) (configurationMessage_ne .timer3))
  counts u t := count_other configurationMessage_ne u.logged t

theorem stage_setup {ok : Bool} {f : UsbModule → UsbModule} (hf : Untimely f)
    (hrun : ∀ u, forgetTimers u = p.usb → setup u = (some ok, f u)) :
    Attains (Stage R d configured interrupts p) (fun _ => onUsb setup)
      fun r s => r = ok ∧ Stage R d configured interrupts { p with usb := f p.usb } s := by
  intro s hs
  have hsetup : onUsb setup s = (some ok, { s with usb := f s.usb }) := by
    rw [onUsb, zoom_run, hrun s.usb hs.usb]
  refine ⟨ok, _, .of_run fun _ => hsetup, rfl, { hs with
    usb := (hf.forgets s.usb).trans (congrArg f hs.usb)
    logged := ⟨hs.logged.flag, fun t => ?_⟩ }⟩
  exact (hf.counts s.usb t).trans (hs.logged.count t)

theorem stage_hasConfigured : Attains (Stage R d configured interrupts p) (fun _ => hasConfigured)
    fun r s => r = configured p.polls ∧
      Stage R d configured interrupts { p with polls := p.polls + 1 } s := by
  intro s hs
  refine ⟨_, _, .of_run fun _ => rfl, ?_, { hs with
    polls := congrArg (· + 1) hs.polls
    logged := hs.logged.kept rfl rfl }⟩
  rw [hs.configured, hs.polls]

theorem stage_warn : Attains (Stage R d configured interrupts p)
    (fun _ => logOnce .configuration configurationMessage)
    fun _ => Stage R d configured interrupts { p with
      hasLogged := true
      usb := if p.hasLogged then p.usb
        else { p.usb with logged := p.usb.logged ++ [configurationMessage] } } := by
  intro s hs
  refine ⟨(), _, .of_run fun _ => logOnce_run _ _ s, ?_⟩
  by_cases hlogged : p.hasLogged
  · have hflag : s.hasLogged .configuration = true := hs.hasLogged.trans hlogged
    rw [noted, if_pos hflag, if_pos hlogged]
    exact { hs with hasLogged := hflag }
  · have hflag : ¬ s.hasLogged .configuration = true := by rwa [hs.hasLogged]
    rw [noted, if_neg hflag, if_neg hlogged]
    have hwarning := untimely_warning
    refine { hs with
      usb := (hwarning.forgets s.usb).trans (by rw [hs.usb])
      hasLogged := Function.update_self LogSite.configuration true s.hasLogged
      logged := ⟨fun t => ?_, fun t => (hwarning.counts s.usb t).trans (hs.logged.count t)⟩ }
    have hother : LogSite.timer t ≠ .configuration := nofun
    exact (Function.update_of_ne hother true s.hasLogged).trans (hs.logged.flag t)

def Progress.retried (interrupts : ℕ → List Timer) (p : Progress) : Progress :=
  Progress.delayed interrupts 50
    { p.interrupted interrupts with err := .blink, usb := p.usb.giveUp }

theorem stage_trySetup_fails (he : p.err ≠ .pulse)
    (h : ∀ m < 0xFFFF, ¬ p.usb.locked (p.usb.reads + m)) (b : Unit) :
    Attains (Stage R d configured interrupts p) (fun _ => trySetup b)
      fun r s => ∃ b', r = .inl b' ∧ Stage R d configured interrupts (p.retried interrupts) s := by
  have hrun (u : UsbModule) (hu : forgetTimers u = p.usb) : setup u = (some false, u.giveUp) := by
    rw [← hu] at h
    exact UsbModule.setup_unlocked h
  refine (stage_interlude he).bind fun _ =>
    (stage_setup (p := p.interrupted interrupts) untimely_giveUp hrun).bind fun ok =>
      .assuming ?_
  rintro rfl
  refine (stage_setErr .blink).bind fun _ => (stage_delayMs (by simp) 50).bind fun _ => ?_
  exact Attains.pure fun s hs => ⟨(), rfl, hs⟩

theorem stage_trySetup_done (he : p.err ≠ .pulse) {n : ℕ} (hn : n < 0xFFFF)
    (h : p.usb.locked (p.usb.reads + n)) (hbefore : ∀ m < n, ¬ p.usb.locked (p.usb.reads + m))
    (b : Unit) : Attains (Stage R d configured interrupts p) (fun _ => trySetup b)
      fun r s => ∃ a, r = .inr a ∧ Stage R d configured interrupts
        { p.interrupted interrupts with usb := p.usb.attach (n + 1) } s := by
  have hrun (u : UsbModule) (hu : forgetTimers u = p.usb) :
      setup u = (some true, u.attach (n + 1)) := by
    rw [← hu] at h hbefore
    exact UsbModule.setup_locked hn h hbefore
  refine (stage_interlude he).bind fun _ =>
    (stage_setup (p := p.interrupted interrupts) (untimely_attach (n + 1)) hrun).bind fun ok =>
      .assuming ?_
  rintro rfl
  exact Attains.pure fun s hs => ⟨(), rfl, hs⟩

-- The message comes with the 251st poll, and the error stays shown when the counter is back to 0.
def Progress.unconfigured (interrupts : ℕ → List Timer) (p : Progress) : Progress :=
  Progress.delayed interrupts 10 { p.interrupted interrupts with
    err := if p.polls < 250 then .off else .blink
    polls := p.polls + 1
    hasLogged := 250 ≤ p.polls
    usb := if p.polls = 250 then { p.usb with logged := p.usb.logged ++ [configurationMessage] }
      else p.usb }

theorem iterations_succ (m : ℕ) : UInt8.ofNat m + 1 = UInt8.ofNat (m + 1) :=
  (UInt8.ofNat_add m 1).symm

theorem iterations_warn {m : ℕ} (h : UInt8.ofNat m + 1 > 250) : 250 ≤ m := by
  have hnat : 250 < (m + 1) % 256 := by
    rw [iterations_succ, gt_iff_lt, UInt8.lt_iff_toNat_lt] at h
    simpa using h
  omega

theorem iterations_silent {m : ℕ} (h : ¬ UInt8.ofNat m + 1 > 250) : m ≠ 250 := by
  rintro rfl
  exact h (by decide)

theorem stage_poll_fails (hp : p.err = if p.polls ≤ 250 then .off else .blink)
    (hlogged : p.hasLogged = decide (250 < p.polls)) (h : configured p.polls = false) :
    Attains (Stage R d configured interrupts p) (fun _ => pollConfiguration (.ofNat p.polls))
      fun r s => r = .inl (.ofNat (p.polls + 1)) ∧
        Stage R d configured interrupts (p.unconfigured interrupts) s := by
  have he : p.err ≠ .pulse := by
    rw [hp]
    split <;> simp
  have htail {q : Progress} (hq : q.err ≠ .pulse)
      (hnext : q.delayed interrupts 10 = p.unconfigured interrupts) :
      Attains (Stage R d configured interrupts q) (fun _ => do
        delayMs 10
        pure (.inl (UInt8.ofNat p.polls + 1) : UInt8 ⊕ Unit))
        fun r s => r = .inl (.ofNat (p.polls + 1)) ∧
          Stage R d configured interrupts (p.unconfigured interrupts) s := by
    refine (stage_delayMs hq 10).bind fun _ => Attains.pure fun s hs => ⟨?_, hnext ▸ hs⟩
    rw [iterations_succ]
  refine (stage_interlude he).bind fun _ => stage_hasConfigured.bind fun ok => .assuming ?_
  rintro rfl
  have hno : configured (p.interrupted interrupts).polls = false := h
  rw [hno]
  refine .ite (fun hf => absurd hf (by simp)) fun _ => ?_
  refine .ite (fun hwarn => ?_) fun hsilent => htail he (congrArg (Progress.delayed interrupts 10) ?_)
  · have hm := iterations_warn hwarn
    refine stage_warn.bind fun _ => (stage_setErr .blink).bind fun _ =>
      htail (by simp) (congrArg (Progress.delayed interrupts 10) ?_)
    have hshown : ¬ p.polls < 250 := by omega
    by_cases hfirst : p.polls = 250
    · simp [Progress.interrupted, Progress.seeing, hlogged, hfirst]
    · have hlater : 250 < p.polls := by omega
      simp [Progress.interrupted, Progress.seeing, hlogged, hm, hshown, hfirst, hlater]
  · have hm := iterations_silent hsilent
    rcases Nat.lt_or_gt_of_ne hm with hearly | hlater
    · have hle : ¬ 250 ≤ p.polls := by omega
      have hlt : ¬ 250 < p.polls := by omega
      simp [Progress.interrupted, Progress.seeing, hp, hlogged, hm, hearly, hearly.le, hle, hlt]
    · have hle : ¬ p.polls ≤ 250 := by omega
      have hlt : ¬ p.polls < 250 := by omega
      simp [Progress.interrupted, Progress.seeing, hp, hlogged, hm, hlater, hlater.le, hle, hlt]

def Progress.polled (interrupts : ℕ → List Timer) (p : Progress) : Progress :=
  { p.interrupted interrupts with polls := p.polls + 1 }

theorem stage_poll_done (he : p.err ≠ .pulse) (h : configured p.polls = true) (b : UInt8) :
    Attains (Stage R d configured interrupts p) (fun _ => pollConfiguration b) fun r s =>
      ∃ a, r = .inr a ∧ Stage R d configured interrupts (p.polled interrupts) s := by
  refine (stage_interlude he).bind fun _ => stage_hasConfigured.bind fun ok => .assuming ?_
  rintro rfl
  have hyes : configured (p.interrupted interrupts).polls = true := h
  rw [hyes]
  exact Attains.pure fun s hs => ⟨(), rfl, hs⟩

end Stages

end Threeboard.Integration
