import Threeboard.Integration.Startup

namespace Threeboard.Integration

open Actions Actions.Action Events Layers Leds LedController Simulator Storage Usb

variable {σ : Type} {R : σ → Ideal → Prop} {d : Devices σ} {interrupts : ℕ → List Timer}

structure FirstAt (p : ℕ → Prop) (n : ℕ) : Prop where
  here : p n
  before : ∀ m < n, ¬ p m

def locks (pllcsr : ℕ → UInt8) (n : ℕ) : Prop := pllcsr n &&& Mcu.bit PLOCK ≠ 0

def Attentive (interrupts : ℕ → List Timer) (n : ℕ) (p : Progress) : Prop :=
  p.interludes = n ∧ p.seen = came interrupts n

theorem Attentive.interrupted {n : ℕ} {p : Progress} (h : Attentive interrupts n p) :
    Attentive interrupts (n + 1) (p.interrupted interrupts) := by
  obtain ⟨rfl, hseen⟩ := h
  refine ⟨rfl, funext fun t => ?_⟩
  rw [came_succ, ← hseen]
  rfl

structure Retried (interrupts : ℕ → List Timer) (pllcsr : ℕ → UInt8) (m : ℕ) (p : Progress) :
    Prop where
  err : p.err = if m = 0 then .off else .blink
  pllcsr : p.usb.pllcsr = pllcsr
  reads : p.usb.reads = 0xFFFF * m
  udcon : p.usb.udcon = Mcu.bit DETACH
  logged : p.usb.logged = List.replicate m setupMessage
  polls : p.polls = 0
  hasLogged : p.hasLogged = false
  delays : p.delays = List.replicate m (50, .blink)
  attentive : Attentive interrupts (2 * m) p

namespace Retried

variable {pllcsr : ℕ → UInt8} {m : ℕ} {p : Progress}

theorem err_ne (h : Retried interrupts pllcsr m p) : p.err ≠ .pulse := by
  rw [h.err]
  split <;> simp

theorem start (interrupts : ℕ → List Timer) (pllcsr : ℕ → UInt8) :
    Retried interrupts pllcsr 0 { usb := { pllcsr } } :=
  ⟨rfl, rfl, rfl, rfl, rfl, rfl, rfl, rfl, rfl, rfl⟩

theorem retried (h : Retried interrupts pllcsr m p) :
    Retried interrupts pllcsr (m + 1) (p.retried interrupts) where
  err := rfl
  pllcsr := h.pllcsr
  reads := by
    change p.usb.reads + 0xFFFF = _
    rw [h.reads, Nat.mul_succ]
  udcon := h.udcon
  logged := by
    change p.usb.logged ++ [setupMessage] = _
    rw [h.logged, List.replicate_succ']
  polls := h.polls
  hasLogged := h.hasLogged
  delays := by
    change p.delays ++ [_] = _
    rw [h.delays, List.replicate_succ']
  attentive := h.attentive.interrupted.interrupted

theorem locked (h : Retried interrupts pllcsr m p) (n : ℕ) :
    p.usb.locked (p.usb.reads + n) ↔ locks pllcsr (0xFFFF * m + n) := by
  rw [UsbModule.locked, h.pllcsr, h.reads, locks]

end Retried

structure Unconfigured (interrupts : ℕ → List Timer) (a m : ℕ) (p : Progress) : Prop where
  err : p.err = if m ≤ 250 then .off else .blink
  attached : p.usb.attached
  logged : p.usb.logged = List.replicate a setupMessage ++
    if 250 < m then [configurationMessage] else []
  polls : p.polls = m
  hasLogged : p.hasLogged = decide (250 < m)
  delays : p.delays = List.replicate a (50, .blink) ++
    (List.range m).map fun i => (10, if i < 250 then .off else .blink)
  attentive : Attentive interrupts (2 * (a + m) + 1) p

namespace Unconfigured

variable {a m : ℕ} {p : Progress}

theorem err_ne (h : Unconfigured interrupts a m p) : p.err ≠ .pulse := by
  rw [h.err]
  split <;> simp

theorem unconfigured (h : Unconfigured interrupts a m p) :
    Unconfigured interrupts a (m + 1) (p.unconfigured interrupts) where
  err := by
    change (if p.polls < 250 then State.off else .blink) = _
    rw [h.polls]
    rfl
  attached := by
    change UsbModule.attached (if p.polls = 250 then _ else p.usb)
    split <;> exact h.attached
  logged := by
    change UsbModule.logged (if p.polls = 250 then _ else p.usb) = _
    rw [h.polls]
    by_cases hfirst : m = 250
    · simp [hfirst, h.logged]
    · have hiff : 250 < m + 1 ↔ 250 < m := by omega
      simp [hfirst, hiff, h.logged]
  polls := congrArg (· + 1) h.polls
  hasLogged := by
    change decide (250 ≤ p.polls) = _
    rw [h.polls]
    exact decide_eq_decide.mpr Nat.lt_succ_iff.symm
  delays := by
    change p.delays ++ [_] = _
    rw [h.delays, h.polls, List.range_succ, List.map_append, List.append_assoc]
    rfl
  attentive := h.attentive.interrupted.interrupted

end Unconfigured

def setupDelays (attempts : ℕ) : List (UInt8 × State) := List.replicate attempts (50, .blink)

def pollDelays (polls : ℕ) : List (UInt8 × State) :=
  (List.range polls).map fun i => (10, if i < 250 then .off else .blink)

section Loops

open Startup

variable {pllcsr : ℕ → UInt8} {configured : ℕ → Bool} {k a c m : ℕ}

def SetUp (R : σ → Ideal → Prop) (d : Devices σ) (pllcsr : ℕ → UInt8) (configured : ℕ → Bool)
    (interrupts : ℕ → List Timer) (m : ℕ) (s : Startup σ) : Prop :=
  ∃ p, Retried interrupts pllcsr m p ∧ Stage R d configured interrupts p s

def Waited (R : σ → Ideal → Prop) (d : Devices σ) (a : ℕ) (configured : ℕ → Bool)
    (interrupts : ℕ → List Timer) (m : ℕ) (s : Startup σ) : Prop :=
  ∃ p, Unconfigured interrupts a m p ∧ Stage R d configured interrupts p s

def Locked (R : σ → Ideal → Prop) (d : Devices σ) (k : ℕ) (pllcsr : ℕ → UInt8)
    (configured : ℕ → Bool) (interrupts : ℕ → List Timer) (s : Startup σ) : Prop :=
  ∃ p, Retried interrupts pllcsr (k / 0xFFFF) p ∧ Stage R d configured interrupts
    { p.interrupted interrupts with usb := p.usb.attach (k % 0xFFFF + 1) } s

theorem setUp_fails (hk : ∀ n < 0xFFFF * (m + 1), ¬ locks pllcsr n) (b : Unit) :
    Attains (SetUp R d pllcsr configured interrupts m) (fun _ => trySetup b)
      fun r s => ∃ b', r = .inl b' ∧ SetUp R d pllcsr configured interrupts (m + 1) s := by
  rintro s ⟨p, hp, hs⟩
  have hunlocked : ∀ n < 0xFFFF, ¬ p.usb.locked (p.usb.reads + n) := fun n hn =>
    (hp.locked n).not.mpr (hk _ (by omega))
  obtain ⟨r, t, hsettles, b', hr, ht⟩ := stage_trySetup_fails hp.err_ne hunlocked b s hs
  exact ⟨r, t, hsettles, b', hr, _, hp.retried, ht⟩

theorem setUp_done (hk : FirstAt (locks pllcsr) k) (b : Unit) :
    Attains (SetUp R d pllcsr configured interrupts (k / 0xFFFF)) (fun _ => trySetup b)
      fun r s => ∃ a, r = .inr a ∧ Locked R d k pllcsr configured interrupts s := by
  rintro s ⟨p, hp, hs⟩
  have hk' : 0xFFFF * (k / 0xFFFF) + k % 0xFFFF = k := Nat.div_add_mod k 0xFFFF
  have hlocked : p.usb.locked (p.usb.reads + k % 0xFFFF) := by
    rw [hp.locked, hk']
    exact hk.here
  have hbefore : ∀ n < k % 0xFFFF, ¬ p.usb.locked (p.usb.reads + n) := fun n hn =>
    (hp.locked n).not.mpr (hk.before _ (by omega))
  obtain ⟨r, t, hsettles, a, hr, ht⟩ := stage_trySetup_done hp.err_ne
    (Nat.mod_lt k (by decide)) hlocked hbefore b s hs
  exact ⟨r, t, hsettles, a, hr, p, hp, ht⟩

theorem Retried.attach {p : Progress} (h : Retried interrupts pllcsr a p) (n : ℕ) :
    Unconfigured interrupts a 0
      { p.interrupted interrupts with err := .off, usb := p.usb.attach n } where
  err := rfl
  attached := UsbModule.attached_attach n p.usb
  logged := h.logged.trans (List.append_nil _).symm
  polls := h.polls
  hasLogged := h.hasLogged
  delays := h.delays.trans (List.append_nil _).symm
  attentive := h.attentive.interrupted

theorem waitForUsbSetup_attains (hk : FirstAt (locks pllcsr) k) :
    Attains (SetUp R d pllcsr configured interrupts 0) waitForUsbSetup
      fun _ => Waited R d (k / 0xFFFF) configured interrupts 0 := by
  have hloop : Attains
      (fun s => ∃ m, m + k / 0xFFFF = k / 0xFFFF ∧ SetUp R d pllcsr configured interrupts m s)
      (fun rounds => Action.loop trySetup rounds ())
      fun _ => Locked R d k pllcsr configured interrupts := by
    refine Attains.loop
      (I := fun n _ s => ∃ m, m + n = k / 0xFFFF ∧ SetUp R d pllcsr configured interrupts m s)
      ?_ ?_ _ _
    · rintro n b s ⟨m, hm, hs⟩
      have hunlocked : ∀ n < 0xFFFF * (m + 1), ¬ locks pllcsr n := by
        intro n hn
        have hle : 0xFFFF * (k / 0xFFFF) ≤ k := Nat.mul_div_le k 0xFFFF
        exact hk.before n (by omega)
      obtain ⟨r, t, hsettles, b', hr, ht⟩ := setUp_fails hunlocked b s hs
      exact ⟨r, t, hsettles, b', hr, m + 1, by omega, ht⟩
    · rintro b s ⟨m, rfl, hs⟩
      exact setUp_done hk b s hs
  refine (hloop.mono (fun s hs => ⟨0, Nat.zero_add _, hs⟩) fun _ _ h => h).bind fun _ => ?_
  rintro s ⟨p, hp, hs⟩
  obtain ⟨r, t, hsettles, ht⟩ := stage_setErr .off s hs
  exact ⟨r, t, hsettles, _, hp.attach _, ht⟩

theorem waited_fails (hm : configured m = false) {b : UInt8} (hb : b = UInt8.ofNat m) :
    Attains (Waited R d a configured interrupts m) (fun _ => pollConfiguration b) fun r s =>
      ∃ b', r = .inl b' ∧ b' = UInt8.ofNat (m + 1) ∧
        Waited R d a configured interrupts (m + 1) s := by
  rintro s ⟨p, hp, hs⟩
  subst hb
  obtain rfl : p.polls = m := hp.polls
  obtain ⟨r, t, hsettles, hr, ht⟩ := stage_poll_fails hp.err hp.hasLogged hm s hs
  exact ⟨r, t, hsettles, _, hr, rfl, _, hp.unconfigured, ht⟩

theorem waitForUsbConfiguration_attains (hc : FirstAt (configured · = true) c) :
    Attains (Waited R d a configured interrupts 0) waitForUsbConfiguration fun _ s =>
      ∃ p, Unconfigured interrupts a c p ∧
        Stage R d configured interrupts { p.polled interrupts with err := .off } s := by
  have hloop : Attains
      (fun s => ∃ m, m + c = c ∧ (0 : UInt8) = UInt8.ofNat m ∧
        Waited R d a configured interrupts m s)
      (fun rounds => Action.loop pollConfiguration rounds 0) fun _ s =>
        ∃ p, Unconfigured interrupts a c p ∧
          Stage R d configured interrupts (p.polled interrupts) s := by
    refine Attains.loop
      (I := fun n b s => ∃ m, m + n = c ∧ b = UInt8.ofNat m ∧ Waited R d a configured interrupts m s)
      ?_ ?_ _ _
    · rintro n b s ⟨m, hm, hb, hs⟩
      have hno : configured m = false := by simpa using hc.before m (by omega)
      obtain ⟨r, t, hsettles, b', hr, hb', ht⟩ := waited_fails hno hb s hs
      exact ⟨r, t, hsettles, b', hr, m + 1, by omega, hb', ht⟩
    · rintro b s ⟨m, rfl, hb, p, hp, hs⟩
      have hyes : configured p.polls = true := by
        rw [hp.polls]
        exact hc.here
      obtain ⟨r, t, hsettles, u, hr, ht⟩ := stage_poll_done hp.err_ne hyes b s hs
      exact ⟨r, t, hsettles, u, hr, p, hp, ht⟩
  refine (hloop.mono (fun s hs => ⟨0, Nat.zero_add _, rfl, hs⟩) fun _ _ h => h).bind fun _ => ?_
  rintro s ⟨p, hp, hs⟩
  obtain ⟨r, t, hsettles, ht⟩ := stage_setErr .off s hs
  exact ⟨r, t, hsettles, p, hp, ht⟩

def powerUp (world : σ) (pllcsr : ℕ → UInt8) (configured : ℕ → Bool)
    (interrupts : ℕ → List Timer) : Startup σ where
  usb := { pllcsr }
  simulation := { powered world {} with threeboard.bootIndicator := {} }
  configured := configured
  interrupts := interrupts

variable {world : σ}

theorem powerUp_setUp (h : R world ⟨Shortcuts.empty, []⟩) :
    SetUp R d pllcsr configured interrupts 0 (powerUp world pllcsr configured interrupts) := by
  have hidling : Idling R d (powered world {}) := powered_idling h
  obtain ⟨row, hrow⟩ := hidling.scanning
  have hlogged : LoggedOnce (fun _ => false) (powerUp world pllcsr configured interrupts) :=
    ⟨fun _ => rfl, fun _ => rfl⟩
  have hawaiting : Awaiting R d .off (powerUp world pllcsr configured interrupts).simulation :=
    ⟨⟨h, rfl, ⟨hidling.events.low, hidling.events.keyMask, hidling.events.pending,
      hidling.events.phase⟩, ⟨row, hrow.line, hrow.ready⟩, rfl, rfl⟩, rfl, rfl, rfl⟩
  exact ⟨_, .start interrupts pllcsr, ⟨rfl, rfl, rfl, rfl, rfl, rfl, rfl, hlogged⟩, hawaiting⟩

theorem Booting.interrupted {n : ℕ} {s : Simulation σ} (h : Booting R d n s)
    (herr : s.board.ledState.ledErr = .of .off) (timers : List Timer) :
    let t := timers.foldl interrupt s
    Booting R d (n + timers.count .timer3) t ∧ t.board.ledState.ledErr = .of .off := by
  induction timers generalizing n s with
  | nil => exact ⟨h, herr⟩
  | cons t rest ih =>
    cases t with
    | timer1 =>
      have hrest := ih h.timer1 (h.toIdling.timer1_err herr (by simp))
      rwa [List.count_cons_of_ne (by simp)]
    | timer3 =>
      have hrest := ih h.timer3 (timer3_err herr)
      rwa [List.count_cons_self, Nat.add_comm _ 1, ← Nat.add_assoc]

theorem displayBootIndicator_boots {p : Progress} {s : Startup σ}
    (h : Stage R d configured interrupts p s) (herr : p.err = .off) :
    ∃ t, displayBootIndicator s = (some (), t) ∧
      Booting R d ((interrupts p.interludes).count .timer3) t.simulation ∧
      t.simulation.board.ledState.ledErr = .of .off ∧
      Recorded configured interrupts (p.delayed interrupts 255) t := by
  obtain ⟨row, hrow⟩ := h.awaiting.scanning
  have hevents := h.awaiting.events
  have hrecorded : Recorded configured interrupts p
      { s with simulation.threeboard.bootIndicator := ⟨1, 13⟩ } :=
    { h with logged := h.logged.kept rfl rfl }
  have hboots : Booting R d 0
      { s.simulation with threeboard.bootIndicator := ⟨1, 13⟩ } :=
    ⟨⟨h.awaiting.world, h.awaiting.board, ⟨hevents.low, hevents.keyMask, hevents.pending,
      hevents.phase⟩, ⟨row, hrow.line, hrow.ready⟩, h.awaiting.taken, h.awaiting.output⟩,
      h.awaiting.leds, rfl⟩
  have hdark : s.simulation.board.ledState.ledErr = .of .off := herr ▸ h.awaiting.ledErr
  obtain ⟨t, hrun, hsimulation, ht⟩ := hrecorded.delayMs h.awaiting.ledErr 255
  obtain ⟨hbooted, hoff⟩ := hboots.interrupted hdark (interrupts p.interludes)
  rw [Nat.zero_add] at hbooted
  refine ⟨t, (modify_bind ..).trans hrun, ?_, ?_, ht⟩
  · rw [hsimulation]
    exact hbooted
  · rw [hsimulation]
    exact hoff

theorem untimed_usb {p : Progress} {s : Startup σ} (h : Recorded configured interrupts p s) :
    untimed s.usb.logged = p.usb.logged ∧ (s.usb.attached ↔ p.usb.attached) := by
  rw [← h.usb]
  exact ⟨rfl, .rfl⟩

theorem startup_boots (hworld : R world ⟨Shortcuts.empty, []⟩)
    (hk : FirstAt (locks pllcsr) k) (hc : FirstAt (configured · = true) c) :
    let interludes := 2 * (k / 0xFFFF + c) + 2
    ∃ t, Settles start (powerUp world pllcsr configured interrupts) () t ∧
      Booting R d ((interrupts interludes).count .timer3) t.simulation ∧
      t.simulation.board.ledState.ledErr = .of .off ∧ t.usb.attached ∧
      untimed t.usb.logged = List.replicate (k / 0xFFFF) setupMessage ++
        (if 250 < c then [configurationMessage] else []) ∧
      (∀ timer : Timer, t.usb.logged.count timer.message =
        if came interrupts (interludes + 1) timer then 1 else 0) ∧
      t.delays = setupDelays (k / 0xFFFF) ++ pollDelays c ++ [(255, .off)] := by
  intro interludes
  have hstart : SetUp R d pllcsr configured interrupts 0
      (powerUp world pllcsr configured interrupts) := powerUp_setUp hworld
  obtain ⟨_, s, hsetup, hs⟩ := waitForUsbSetup_attains hk _ hstart
  obtain ⟨_, v, hpolled, p, hp, hv⟩ := waitForUsbConfiguration_attains hc s hs
  obtain ⟨t, hrun, hboots, herr, ht⟩ := displayBootIndicator_boots hv rfl
  obtain ⟨hlogged, hattached⟩ := untimed_usb ht
  have hattentive : Attentive interrupts interludes (p.interrupted interrupts) :=
    hp.attentive.interrupted
  have hseen := hattentive.interrupted.2
  refine ⟨t, hsetup.bind (hpolled.bind (.of_run fun _ => hrun)), ?_, herr, hattached.mpr hp.attached,
    hlogged.trans hp.logged, fun timer => ?_, ?_⟩
  · rw [← hattentive.1]
    exact hboots
  · rw [← hseen]
    exact ht.logged.count timer
  · rw [ht.delays]
    exact congrArg (· ++ [_]) hp.delays

theorem startup_unconfigured (d : Devices σ) (hworld : R world ⟨Shortcuts.empty, []⟩)
    (hk : FirstAt (locks pllcsr) k) (hc : ∀ n, configured n = false) :
    ∃ bound, ∀ rounds ≥ bound, ∃ t, start rounds (powerUp world pllcsr configured interrupts) =
      (none, t) ∧ t.usb.attached ∧ t.delays = setupDelays (k / 0xFFFF) ++ pollDelays rounds := by
  have hstart : SetUp R d pllcsr configured interrupts 0
      (powerUp world pllcsr configured interrupts) := powerUp_setUp hworld
  obtain ⟨_, s, ⟨bound, hsetup⟩, hs⟩ := waitForUsbSetup_attains hk _ hstart
  refine ⟨bound, fun rounds hrounds => ?_⟩
  obtain ⟨b, t, hloop, -, p, hp, ht⟩ := loop_pending
    (I := fun m b s => b = UInt8.ofNat m ∧ Waited R d (k / 0xFFFF) configured interrupts m s)
    (fun m b => .assuming fun hb => waited_fails (hc m) hb) rounds ⟨rfl, hs⟩
  have hwait : waitForUsbConfiguration rounds s = (none, t) := bind_of_none hloop _
  refine ⟨t, ?_, (untimed_usb ht.toRecorded).2.mpr hp.attached, ?_⟩
  · exact (bind_of_some (hsetup rounds hrounds) _).trans (bind_of_none hwait _)
  · rw [ht.delays, hp.delays, Nat.zero_add]
    rfl

theorem startup_unlocked (d : Devices σ) (hworld : R world ⟨Shortcuts.empty, []⟩)
    (hk : ∀ n, ¬ locks pllcsr n) (rounds : ℕ) :
    ∃ t, start rounds (powerUp world pllcsr configured interrupts) = (none, t) ∧
      ¬ t.usb.attached ∧ t.delays = setupDelays rounds := by
  have hstart : SetUp R d pllcsr configured interrupts 0
      (powerUp world pllcsr configured interrupts) := powerUp_setUp hworld
  obtain ⟨b, t, hloop, p, hp, ht⟩ := loop_pending
    (I := fun m _ s => SetUp R d pllcsr configured interrupts m s)
    (fun m b => setUp_fails (fun n _ => hk n) b) rounds hstart
  have hwait : waitForUsbSetup rounds (powerUp world pllcsr configured interrupts) = (none, t) :=
    bind_of_none hloop _
  refine ⟨t, bind_of_none hwait _, ?_, ?_⟩
  · rw [(untimed_usb ht.toRecorded).2, UsbModule.attached, hp.udcon]
    decide
  · rw [ht.delays, hp.delays, Nat.zero_add]
    rfl

end Loops

-- However long the PLL and the host take, and whatever interrupts come meanwhile, ERR blinks as long
-- as the one is unlocked or the other is late; the device is attached once the PLL has locked, each
-- timer logs its message once if it comes at all, and the event loop begins with the indicator as far
-- as the polls of the last delay have brought it.
theorem startup_follows_usb {world : σ} (hworld : R world ⟨Shortcuts.empty, []⟩)
    (d : Devices σ) (pllcsr : ℕ → UInt8) (configured : ℕ → Bool) (interrupts : ℕ → List Timer) :
    let powered := powerUp world pllcsr configured interrupts
    (∀ k c, FirstAt (locks pllcsr) k → FirstAt (configured · = true) c →
      let interludes := 2 * (k / 0xFFFF + c) + 2
      ∃ t, Settles Startup.start powered () t ∧
        Booting R d ((interrupts interludes).count .timer3) t.simulation ∧
        t.simulation.board.ledState.ledErr = .of .off ∧ t.usb.attached ∧
        untimed t.usb.logged = List.replicate (k / 0xFFFF) setupMessage ++
          (if 250 < c then [configurationMessage] else []) ∧
        (∀ timer : Timer, t.usb.logged.count timer.message =
          if came interrupts (interludes + 1) timer then 1 else 0) ∧
        t.delays = setupDelays (k / 0xFFFF) ++ pollDelays c ++ [(255, .off)]) ∧
    (∀ k, FirstAt (locks pllcsr) k → (∀ n, configured n = false) →
      ∃ bound, ∀ rounds ≥ bound, ∃ t, Startup.start rounds powered = (none, t) ∧ t.usb.attached ∧
        t.delays = setupDelays (k / 0xFFFF) ++ pollDelays rounds) ∧
    ((∀ n, ¬ locks pllcsr n) → ∀ rounds, ∃ t, Startup.start rounds powered = (none, t) ∧
      ¬ t.usb.attached ∧ t.delays = setupDelays rounds) :=
  ⟨fun _ _ hk hc => startup_boots hworld hk hc,
    fun _ hk hc => startup_unconfigured d hworld hk hc,
    fun hk rounds => startup_unlocked d hworld hk rounds⟩

theorem startup_follows_usb_late :
    ∃ t, Settles Startup.start (powerUp (.start erased fun _ => .succeed)
        (fun n => if n < 70000 then 0 else Mcu.bit PLOCK) (fun n => decide (300 ≤ n))
        fun n => if n = 604 then [.timer3, .timer1, .timer3] else []) () t ∧
      Booting Faultless faultyDevices 2 t.simulation ∧
      untimed t.usb.logged = [setupMessage, configurationMessage] ∧
      t.usb.logged.count Timer.timer3.message = 1 ∧
      t.delays = setupDelays 1 ++ pollDelays 300 ++ [(255, .off)] := by
  have hk : FirstAt (locks fun n => if n < 70000 then 0 else Mcu.bit PLOCK) 70000 :=
    ⟨by simp [locks]; decide, fun m hm => by simp [locks, hm]⟩
  have hc : FirstAt (fun n => decide (300 ≤ n) = true) 300 := ⟨by simp, fun m hm => by simpa using hm⟩
  obtain ⟨t, hsettles, hboots, -, -, hlogged, htimers, hdelays⟩ := (startup_follows_usb
    bench_faultless faultyDevices (fun n => if n < 70000 then 0 else Mcu.bit PLOCK)
    (fun n => decide (300 ≤ n))
    fun n => if n = 604 then [.timer3, .timer1, .timer3] else []).1 70000 300 hk hc
  refine ⟨t, hsettles, hboots, hlogged, (htimers .timer3).trans ?_, hdelays⟩
  simp [came]

end Threeboard.Integration
