import Threeboard.Integration.Running

namespace Threeboard.Integration

open Actions Bursts Events Keys Layers Leds Runs Simulator Storage

variable {σ : Type} (d : Devices σ) (sent : σ → List (UInt8 × UInt8))

structure Round where
  keypress : Keypress
  down : List Turn
  up : List Turn
  refresh : List Turn

def busy (t : EventLoop σ) : Bool :=
  t.eventBuffer.hasKeypress || match t.phase with
    | .handling _ => true
    | _ => false

namespace Round

variable (r : Round) (s : Simulation σ)

def pressed : Simulation σ := (s.handleKeypress r.keypress true).run d sent r.down

def released : Simulation σ :=
  ((r.pressed d sent s).handleKeypress r.keypress false).run d sent r.up

def refreshed : Simulation σ := (r.released d sent s).run d sent r.refresh

def applyToSimulator : DeviceState × Simulation σ :=
  let (state, s) := (r.refreshed d sent s).getDeviceState
  (state.toDeviceState, s)

-- A poll sees the key down and another sees it up. The fixture waits for five scans and only then for
-- the next iteration; here the event has been handled before the five scans, which so show what it
-- has set, and the host reads all that was typed.
structure Reliable : Prop where
  down : .timer3 ∈ r.down
  up : .timer3 ∈ r.up
  handled : ¬ busy (r.released d sent s).threeboard
  refresh : 5 ≤ r.refresh.count .timer1
  read : (r.refreshed d sent s).taken =
    (sent (r.refreshed d sent s).threeboard.board.world).length

instance : Decidable (r.Reliable d sent s) :=
  decidable_of_iff (.timer3 ∈ r.down ∧ .timer3 ∈ r.up ∧
      ¬ busy (r.released d sent s).threeboard ∧ 5 ≤ r.refresh.count .timer1 ∧
      (r.refreshed d sent s).taken =
        (sent (r.refreshed d sent s).threeboard.board.world).length)
    ⟨fun ⟨h1, h2, h3, h4, h5⟩ => ⟨h1, h2, h3, h4, h5⟩,
      fun h => ⟨h.down, h.up, h.handled, h.refresh, h.read⟩⟩

end Round

variable {R : σ → Ideal → Prop} {d : Devices σ} {sent : σ → List (UInt8 × UInt8)}
  {Fits : Cursors → Keypress → Prop} {c : Content} {first : ℕ} {s : Simulation σ}

variable {low gathered : Finset Key} {pending handled : Option Keypress}

theorem Handling.of_ne {phase : Phase σ} (h : Handling d handled phase)
    (hne : ∀ rest, phase ≠ .handling rest) : handled = none := by
  cases handled with
  | none => rfl
  | some k => exact (hne _ h).elim

theorem Handling.of_handling {rest : Action (Board σ) Unit}
    (h : Handling d handled (.handling rest)) :
    ∃ k, handled = some k ∧ rest = LayerController.handleEvent d k := by
  cases handled with
  | none => exact (h rest rfl).elim
  | some k => exact ⟨k, rfl, Phase.handling.inj h⟩

theorem turn_cases (hi : Implements R d sent Fits) (h : Running R c first s)
    (hat : At d low gathered pending handled s) {t : Turn} (ht : t ≠ .timer3)
    (hk : ∀ k, handled = some k → Fits c.cursors k) :
    (Running R c first (s.turn d sent t) ∧ At d low gathered pending handled (s.turn d sent t)) ∨
    (∃ k, pending = some k ∧ handled = none ∧ Running R c first (s.turn d sent t) ∧
      At d low gathered none (some k) (s.turn d sent t)) ∨
    ∃ k, handled = some k ∧ Running R (c.press k) first (s.turn d sent t) ∧
      At d low gathered pending none (s.turn d sent t) := by
  have hphase := hat.phase
  cases t with
  | timer1 => exact .inl ⟨h.timer1, hat.low, hat.keyMask, hat.pending, hat.phase⟩
  | timer1During led =>
    simp only [Simulation.turn]
    split
    · exact .inl ⟨h.timer1During led, hat.low, hat.keyMask, hat.pending, hat.phase⟩
    · exact .inl ⟨h, hat⟩
  | timer3 => exact (ht rfl).elim
  | iterate =>
    simp only [Simulation.turn]
    split
    · rename_i hbetween
      rw [hbetween] at hphase
      obtain rfl := hphase.of_ne (by simp)
      have hrun := h.iterate (d := d)
      rw [EventLoop.beginIteration] at hrun ⊢
      split at hrun
      · rename_i hfull
        have hsome : pending = some s.threeboard.eventBuffer.event :=
          hat.pending.symm.trans (if_pos hfull)
        rw [if_pos hfull]
        exact .inr (.inl ⟨_, hsome, rfl, hrun, hat.low, hat.keyMask, rfl, rfl⟩)
      · rename_i hempty
        rw [if_neg hempty]
        exact .inl ⟨hrun, hat.low, hat.keyMask, hat.pending, by simp [Handling]⟩
    · exact .inl ⟨h, hat⟩
  | finish =>
    simp only [Simulation.turn]
    split
    · rename_i rest hrest
      rw [hrest] at hphase
      obtain ⟨k, rfl, rfl⟩ := hphase.of_handling
      obtain ⟨led, -, hend⟩ := endIteration_spec (LayerController.handleEvent d k) s.threeboard
      refine .inr (.inr ⟨k, rfl, h.finish hi (hk k rfl), hat.low, ?_, ?_, ?_⟩)
      · rw [hend]
        exact hat.keyMask
      · rw [hend]
        exact hat.pending
      · rw [hend]
        simp [Handling]
    · exact .inl ⟨h, hat⟩
  | wake =>
    simp only [Simulation.turn]
    split
    · rename_i hsleeping
      rw [hsleeping] at hphase
      obtain rfl := hphase.of_ne (by simp)
      exact .inl ⟨h.same rfl rfl rfl rfl rfl, hat.low, hat.keyMask, hat.pending, by simp [Handling]⟩
    · exact .inl ⟨h, hat⟩
  | usbOutput =>
    refine .inl ⟨h.takeOutput hi, ?_⟩
    simp only [Simulation.turn, Simulation.takeOutput]
    split
    · exact ⟨hat.low, hat.keyMask, hat.pending, hat.phase⟩
    · exact hat

theorem quiet_turn (hi : Implements R d sent Fits) (h : Running R c first s)
    (hat : At d low gathered none none s) {t : Turn} (ht : t ≠ .timer3) :
    Running R c first (s.turn d sent t) ∧ At d low gathered none none (s.turn d sent t) := by
  obtain hsame | ⟨k, hk, -⟩ | ⟨k, hk, -⟩ := turn_cases hi h hat ht (by simp)
  · exact hsame
  · exact nomatch hk
  · exact nomatch hk

variable {k : Keypress}

theorem keys_ne_empty (hk : k ≠ .inactive) : k.keys ≠ ∅ := by
  rintro hempty
  refine hk ?_
  rw [← ofKeys_keys k, hempty]
  decide

section Down

def Held (R : σ → Ideal → Prop) (d : Devices σ) (c : Content) (first : ℕ) (k : Keypress)
    (gathered : Finset Key) (s : Simulation σ) : Prop :=
  Running R c first s ∧ At d k.keys gathered none none s

theorem Held.timer3 (h : Held R d c first k gathered s) (hk : k ≠ .inactive) :
    Held R d c first k (gathered ∪ k.keys) s.handleTimer3Interrupt := by
  have hat := h.2.timer3
  rw [collect, if_neg (keys_ne_empty hk)] at hat
  exact ⟨h.1.timer3, hat⟩

theorem down_run (hi : Implements R d sent Fits) (hk : k ≠ .inactive) (h : Held R d c first k ∅ s)
    {turns : List Turn} (hturns : .timer3 ∈ turns) :
    Held R d c first k k.keys (s.run d sent turns) := by
  have hkeep : ∀ g, g ∪ k.keys = k.keys → ∀ s t, Held R d c first k g s →
      (∃ g, g ∪ k.keys = k.keys ∧ Held R d c first k g (s.turn d sent t)) ∧
        (t = .timer3 ∨ g = k.keys → Held R d c first k k.keys (s.turn d sent t)) := by
    intro g hg s t h
    by_cases ht : t = .timer3
    · subst ht
      have hnext := h.timer3 hk
      rw [hg] at hnext
      exact ⟨⟨_, Finset.union_self _, hnext⟩, fun _ => hnext⟩
    · have hnext := quiet_turn hi h.1 h.2 ht
      refine ⟨⟨g, hg, hnext⟩, ?_⟩
      rintro (hpoll | rfl)
      · exact (ht hpoll).elim
      · exact hnext
  refine foldl_reaches (P := fun s => ∃ g, g ∪ k.keys = k.keys ∧ Held R d c first k g s)
    ?_ ?_ ?_ ⟨∅, Finset.empty_union _, h⟩ hturns
  · rintro s t ⟨g, hg, h⟩
    exact (hkeep g hg s t h).1
  · rintro s t h
    exact (hkeep _ (Finset.union_self _) s t h).2 (.inr rfl)
  · rintro s ⟨g, hg, h⟩
    exact (hkeep g hg s _ h).2 (.inl rfl)

end Down

section Up

inductive Polled (R : σ → Ideal → Prop) (d : Devices σ) (c : Content) (first : ℕ) (k : Keypress)
    (s : Simulation σ) : Prop
  | posted (h : Running R c first s) (hat : At d ∅ ∅ (some k) none s)
  | fetched (h : Running R c first s) (hat : At d ∅ ∅ none (some k) s)
  | handled (h : Running R (c.press k) first s) (hat : At d ∅ ∅ none none s)

def Lifted (R : σ → Ideal → Prop) (d : Devices σ) (c : Content) (first : ℕ) (k : Keypress)
    (s : Simulation σ) : Prop :=
  Running R c first s ∧ At d ∅ k.keys none none s

theorem Lifted.timer3 (h : Lifted R d c first k s) (hk : k ≠ .inactive) :
    Polled R d c first k s.handleTimer3Interrupt := by
  have hat := h.2.timer3
  rw [collect, if_pos rfl, if_neg (keys_ne_empty hk), Option.map_some, ofKeys_keys] at hat
  exact .posted h.1.timer3 hat

theorem Polled.turn (hi : Implements R d sent Fits)
    (hfits : Fits c.cursors k) (h : Polled R d c first k s) (t : Turn) :
    Polled R d c first k (s.turn d sent t) := by
  by_cases ht : t = .timer3
  · subst ht
    cases h with
    | posted h hat => exact .posted h.timer3 hat.idle
    | fetched h hat => exact .fetched h.timer3 hat.idle
    | handled h hat => exact .handled h.timer3 hat.idle
  · cases h with
    | posted h hat =>
      obtain ⟨hrun, hsame⟩ | ⟨_, ⟨⟩, -, hrun, hnext⟩ | ⟨_, hnone, -⟩ :=
        turn_cases hi h hat ht (by simp)
      · exact .posted hrun hsame
      · exact .fetched hrun hnext
      · exact nomatch hnone
    | fetched h hat =>
      obtain ⟨hrun, hsame⟩ | ⟨_, hnone, -⟩ | ⟨_, ⟨⟩, hrun, hnext⟩ :=
        turn_cases hi h hat ht (by rintro _ ⟨⟩; exact hfits)
      · exact .fetched hrun hsame
      · exact nomatch hnone
      · exact .handled hrun hnext
    | handled h hat =>
      obtain ⟨hrun, hsame⟩ := quiet_turn hi h hat ht
      exact .handled hrun hsame

theorem up_run (hi : Implements R d sent Fits) (hfits : Fits c.cursors k) (hk : k ≠ .inactive)
    (h : Lifted R d c first k s) {turns : List Turn} (hturns : .timer3 ∈ turns) :
    Polled R d c first k (s.run d sent turns) := by
  refine foldl_reaches (P := fun s => Lifted R d c first k s ∨ Polled R d c first k s)
    ?_ (fun _ t h => h.turn hi hfits t) ?_ (.inl h) hturns
  · rintro s t (h | h)
    · by_cases ht : t = .timer3
      · exact .inr (ht ▸ h.timer3 hk)
      · exact .inl (quiet_turn hi h.1 h.2 ht)
    · exact .inr (h.turn hi hfits t)
  · rintro s (h | h)
    · exact h.timer3 hk
    · exact h.turn hi hfits _

theorem Polled.settled (h : Polled R d c first k s) (hbusy : ¬ busy s.threeboard) :
    Running R (c.press k) first s ∧ At d ∅ ∅ none none s := by
  cases h with
  | posted _ hat =>
    have hfull : s.threeboard.eventBuffer.hasKeypress = true := by
      by_contra hempty
      have hpending := hat.pending
      rw [EventBuffer.pending, if_neg hempty] at hpending
      cases hpending
    simp [busy, hfull] at hbusy
  | fetched _ hat =>
    have hphase : s.threeboard.phase = .handling _ := hat.phase
    simp [busy, hphase] at hbusy
  | handled h hat => exact ⟨h, hat⟩

end Up

section Refresh

def Quiet (R : σ → Ideal → Prop) (d : Devices σ) (c : Content) (first : ℕ) (s : Simulation σ) :
    Prop :=
  Running R c first s ∧ At d ∅ ∅ none none s

theorem Quiet.turn (hi : Implements R d sent Fits) (h : Quiet R d c first s) (t : Turn) :
    Quiet R d c first (s.turn d sent t) := by
  by_cases ht : t = .timer3
  · subst ht
    exact ⟨h.1.timer3, h.2.idle⟩
  · exact quiet_turn hi h.1 h.2 ht

structure Refreshed (led : LedState) (row : Fin 5) (n : ℕ) (s : Simulation σ) : Prop where
  leds : mainLeds s.board.ledState = mainLeds led
  following : Following (row + Fin.ofNat 5 n) s.ledController
  shown : ∀ i < n, s.simavr.deviceState.shown (row + Fin.ofNat 5 i) = rows led (row + Fin.ofNat 5 i)

theorem Refreshed.of_fields {led : LedState} {row : Fin 5} {n : ℕ} {t : Simulation σ}
    (h : Refreshed led row n s) (hled : t.board.ledState = s.board.ledState)
    (hline : t.nextScanLine = s.nextScanLine) (hdata : t.simavr.data = s.simavr.data)
    (hshown : t.simavr.deviceState.shown = s.simavr.deviceState.shown) :
    Refreshed led row n t := by
  obtain ⟨hleds, ⟨hnext, hresting, hprevious, hsettled⟩, hrows⟩ := h
  refine ⟨by rw [hled, hleds], ⟨hline.trans hnext, ?_, ?_, ?_⟩, fun i hi => by rw [hshown, hrows i hi]⟩
  · exact hdata ▸ hresting
  · exact fun i hi => hprevious i (hdata ▸ hi)
  · intro i hi
    have hcolumns : t.simavr.columns = s.simavr.columns := by
      funext j
      simp only [Simulated.columns, hdata]
    exact (congrFun hshown i).trans ((hsettled i (hdata ▸ hi)).trans hcolumns.symm)

theorem Refreshed.timer1 {led : LedState} {row : Fin 5} {n : ℕ} (h : Refreshed led row n s)
    (hplain : Plain s.board.ledState) : Refreshed led row (n + 1) s.handleTimer1Interrupt := by
  obtain ⟨hnext, hdecoded, hsame⟩ := h.following.scan
  have hrow : row + Fin.ofNat 5 n + 1 = row + Fin.ofNat 5 (n + 1) := by
    simp only [Fin.ext_iff, Fin.val_add, Fin.ofNat]
    omega
  have hmain : mainLeds s.handleTimer1Interrupt.board.ledState = mainLeds s.board.ledState :=
    (congrArg mainLeds (state_scan h.following)).trans (mainLeds_tick hplain _)
  refine ⟨hmain.trans h.leds, hrow ▸ ⟨hnext.line, hnext.ready⟩, fun i hi => ?_⟩
  by_cases hscanned : row + Fin.ofNat 5 i = row + Fin.ofNat 5 n
  · rw [hscanned]
    refine hdecoded.shown.trans ?_
    rw [shown_of_plain hplain]
    exact congrFun (rows_congr h.leds) _
  · have hlt : i < n := by
      refine lt_of_le_of_ne (Nat.lt_succ_iff.mp hi) ?_
      rintro rfl
      exact hscanned rfl
    exact (hsame _ hscanned).1.trans (h.shown i hlt)

variable (sent) in
theorem Refreshed.turn {led : LedState} {row : Fin 5} {n : ℕ} (h : Refreshed led row n s)
    (hquiet : Quiet R d c first s) (t : Turn) :
    Refreshed led row (n + [t].count .timer1) (s.turn d sent t) := by
  have hphase := hquiet.2.phase
  cases t with
  | timer1 => exact h.timer1 hquiet.1.plain
  | timer3 =>
    have hindicator := (timer3_polls s.threeboard s.pinb).indicator
    rw [if_neg (by simp [hquiet.1.booted])] at hindicator
    exact h.of_fields (congrArg Prod.snd hindicator) rfl rfl rfl
  | timer1During led =>
    simp only [Simulation.turn]
    split
    · rename_i rest hrest
      exact (hphase rest hrest).elim
    · exact h
  | finish =>
    simp only [Simulation.turn]
    split
    · rename_i rest hrest
      exact (hphase rest hrest).elim
    · exact h
  | iterate =>
    simp only [Simulation.turn]
    split
    · refine h.of_fields ?_ rfl rfl rfl
      rw [Simulation.board, EventLoop.beginIteration]
      split <;> rfl
    · exact h
  | wake =>
    simp only [Simulation.turn]
    split <;> exact h.of_fields rfl rfl rfl rfl
  | usbOutput =>
    simp only [Simulation.turn, Simulation.takeOutput]
    split <;> exact h.of_fields rfl rfl rfl rfl

theorem refresh_run (hi : Implements R d sent Fits) {led : LedState} {row : Fin 5} (turns : List Turn)
    {n : ℕ} {s : Simulation σ} (h : Refreshed led row n s) (hquiet : Quiet R d c first s) :
    Refreshed led row (n + turns.count .timer1) (s.run d sent turns) ∧
      Quiet R d c first (s.run d sent turns) := by
  induction turns generalizing n s with
  | nil => exact ⟨h, hquiet⟩
  | cons t turns ih =>
    have hrest := ih (h.turn sent hquiet t) (hquiet.turn hi t)
    rw [Nat.add_assoc, ← List.count_append] at hrest
    exact hrest

theorem refresh_shows (hi : Implements R d sent Fits) (hquiet : Quiet R d c first s) {turns : List Turn}
    (hfive : 5 ≤ turns.count .timer1) :
    Quiet R d c first (s.run d sent turns) ∧
      (s.run d sent turns).simavr.deviceState.shown = rows (s.run d sent turns).board.ledState := by
  obtain ⟨row, hrow⟩ := hquiet.1.scanning
  have hstart : Refreshed s.board.ledState row 0 s := by
    refine ⟨rfl, ?_, fun i hi => (Nat.not_lt_zero i hi).elim⟩
    have hzero : row + Fin.ofNat 5 0 = row := by simp
    rwa [hzero]
  obtain ⟨hrun, hend⟩ := refresh_run hi turns hstart hquiet
  refine ⟨hend, funext fun i => ?_⟩
  obtain ⟨k, hk, rfl⟩ := row_within row i
  rw [hrun.shown k (by omega), rows_congr hrun.leds]

end Refresh

theorem ledsOf_of_rows {state : Simulator.DeviceState} {led : LedState}
    (h : state.shown = rows led) : state.toDeviceState = ledsOf led state.usbBuffer := by
  have hbits := fun j => congrFun (congrFun h 4) j
  have hbank0 : state.bank0 = led.bank0 := eq_of_nibbles (congrFun h 0) (congrFun h 1)
  have hbank1 : state.bank1 = led.bank1 := eq_of_nibbles (congrFun h 2) (congrFun h 3)
  have hr : state.ledR = decide (led.ledR.state = .on) := hbits 0
  have hg : state.ledG = decide (led.ledG.state = .on) := hbits 1
  have hb : state.ledB = decide (led.ledB.state = .on) := hbits 2
  have hprog : state.ledProg = decide (led.ledProg.state = .on) := hbits 3
  rw [ledsOf, ← hbank0, ← hbank1, ← hr, ← hg, ← hb, ← hprog]

def Content.observed (c : Content) (k : Keypress) : DeviceState × Content :=
  (snapshot (c.press k).cursors (c.press k).world.shortcuts
    ((c.press k).text c.world.keypresses.length (c.press k).world.keypresses.length), c.press k)

def Resting (R : σ → Ideal → Prop) (d : Devices σ) (c : Content) (s : Simulation σ) : Prop :=
  Quiet R d c c.world.keypresses.length s

theorem Holds.snapshot {b : Board σ} (h : Holds R c b) (text : Text) :
    ledsOf b.ledState text = snapshot c.cursors c.world.shortcuts text := by
  obtain ⟨a, hmirrors, hready, rfl⟩ := h
  rw [hmirrors.ledState]
  exact hready.settled.lit text

theorem round_observes (hi : Implements R d sent Fits) (h : Resting R d c s) {r : Round}
    (hr : r.Reliable d sent s) (hk : r.keypress ≠ .inactive)
    (hfits : Fits c.cursors r.keypress) :
    (r.applyToSimulator d sent s).1 = (c.observed r.keypress).1 ∧
      Resting R d (c.press r.keypress) (r.applyToSimulator d sent s).2 := by
  obtain ⟨hrun, hat⟩ := h
  have hpress : Held R d c c.world.keypresses.length r.keypress ∅
      (s.handleKeypress r.keypress true) := by
    refine ⟨hrun.same rfl rfl rfl rfl rfl, ?_, hat.keyMask, hat.pending, hat.phase⟩
    exact (lowKeys_handleKeypress _ _ _).trans (by rw [hat.low]; exact Finset.empty_union _)
  obtain ⟨hrun, hat⟩ : Held R d c c.world.keypresses.length r.keypress r.keypress.keys
      (r.pressed d sent s) := down_run hi hk hpress hr.down
  have hlift : Lifted R d c c.world.keypresses.length r.keypress
      ((r.pressed d sent s).handleKeypress r.keypress false) := by
    refine ⟨hrun.same rfl rfl rfl rfl rfl, ?_, hat.keyMask, hat.pending, hat.phase⟩
    exact (lowKeys_handleKeypress _ _ _).trans (by rw [hat.low]; exact Finset.sdiff_self _)
  have hsettled := (up_run hi hfits hk hlift hr.up).settled hr.handled
  obtain ⟨⟨hrun, hat⟩, hshown⟩ : Quiet R d (c.press r.keypress) c.world.keypresses.length
      (r.refreshed d sent s) ∧ (r.refreshed d sent s).simavr.deviceState.shown =
        rows (r.refreshed d sent s).board.ledState := refresh_shows hi hsettled hr.refresh
  obtain ⟨a, hmirrors, -, hcontent⟩ := hrun.holds
  have hread : (r.refreshed d sent s).taken = (c.press r.keypress).world.keypresses.length := by
    rw [hr.read, ← hcontent]
    exact congrArg List.length (hi.sent _ _ hmirrors.world)
  constructor
  · refine (ledsOf_of_rows hshown).trans ?_
    rw [hrun.holds.snapshot, hrun.output]
    exact congrArg (fun n => snapshot _ _ (Content.text _ _ n)) hread
  · obtain ⟨row, hrow⟩ := hrun.scanning
    refine ⟨⟨hrun.holds, hrun.plain, hrun.booted, ⟨row, hrow.line, hrow.ready.resting,
      hrow.ready.previous, hrow.ready.settled⟩, ⟨hread.ge, hread.le⟩, ?_⟩, hat.low, hat.keyMask,
      hat.pending, hat.phase⟩
    change [] = Content.text _ _ (r.refreshed d sent s).taken
    rw [hread, Content.text, List.take_length, List.drop_length]
    rfl

structure Modelled (m : ThreeboardModel) (c : Content) : Prop where
  oneProg : c.cursors.OneProg
  blobId : c.cursors.layerB.shortcutId ≤ kLayerBMaxIndex
  matching : Matches m c.cursors c.world.shortcuts

theorem Modelled.observed {m : ThreeboardModel} (h : Modelled m c)
    (hid : (c.cursors.press k).layerB.shortcutId ≤ kLayerBMaxIndex)
    (hparts : ¬ Parts c.cursors (fun id => (c.world.shortcuts.words id).1)
      (fun id => (c.world.shortcuts.blobs id).1) k) :
    (c.observed k).1 = (m.press k).1 ∧ Modelled (m.press k).2 (c.press k) := by
  obtain ⟨hone, hblob, blobs, hspells, rfl⟩ := h
  obtain ⟨hleds, hmatch⟩ := agrees_of_not_parts hone hblob hspells hid hparts
  have hworld : (c.press k).world = ⟨storedBy c.world.shortcuts (effect c.cursors c.world.shortcuts k),
      c.world.keypresses ++ typedBy c.world.shortcuts (effect c.cursors c.world.shortcuts k)⟩ :=
    after_eq _ _
  refine ⟨?_, hone.press k, hid, ?_⟩
  · rw [hleds, Content.observed, Content.text, List.take_length, hworld, List.drop_left]
    rfl
  · rw [hworld]
    exact hmatch

end Threeboard.Integration
