import Threeboard.Integration.Agreement
import Threeboard.Simulator.MainLeds

namespace Threeboard.Integration

open Actions Bursts Events Keys Layers Leds Runs Simulator Storage

variable {σ : Type}

-- Devices that do to the host and to the storage what the ideal ones do, seen through `sent`, when
-- the keypress fits them.
structure Implements (R : σ → Ideal → Prop) (d : Devices σ) (sent : σ → List (UInt8 × UInt8))
    (Fits : Cursors → Keypress → Prop) : Prop where
  handles : ∀ b a k, Mirrors R b a → Fits a.cursors k →
    Mirrors R (LayerController.handleEvent d k b).2 (LayerController.handleEvent Ideal.devices k a).2
  inRange : ∀ c k, Fits c k → (c.press k).layerB.shortcutId ≤ kLayerBMaxIndex
  sent : ∀ w i, R w i → sent w = i.keypresses

theorem hostText_append (ps qs : List (UInt8 × UInt8)) :
    hostText (ps ++ qs) = hostText ps ++ hostText qs := by
  simp only [hostText_eq_flatMap, List.flatMap_append]

structure Content where
  cursors : Cursors
  world : Ideal

namespace Content

def press (c : Content) (k : Keypress) : Content :=
  ⟨c.cursors.press k, after c.world (effect c.cursors c.world.shortcuts k)⟩

def text (c : Content) (first last : ℕ) : Text :=
  hostText ((c.world.keypresses.take last).drop first)

theorem text_succ (c : Content) {first n : ℕ} {key mod : UInt8} (hle : first ≤ n)
    (hget : c.world.keypresses[n]? = some (key, mod)) :
    c.text first (n + 1) = c.text first n ++ printable (fromUsbKeycodes key mod) := by
  have hlen : n < c.world.keypresses.length := (List.getElem?_eq_some_iff.mp hget).1
  have hdrop : first ≤ (c.world.keypresses.take n).length := by
    rw [List.length_take]
    omega
  rw [text, List.take_add_one, hget, Option.toList_some, List.drop_append_of_le_length hdrop,
    hostText_append, hostText_singleton, List.nil_append]
  rfl

theorem keypresses_press (c : Content) (k : Keypress) : (c.press k).world.keypresses =
    c.world.keypresses ++ typedBy c.world.shortcuts (effect c.cursors c.world.shortcuts k) := by
  rw [press, after_eq]

theorem text_press (c : Content) (k : Keypress) {first last : ℕ}
    (h : last ≤ c.world.keypresses.length) : (c.press k).text first last = c.text first last := by
  rw [text, keypresses_press, List.take_append_of_le_length h]
  rfl

end Content

def contentOf (a : Board Ideal) : Content := ⟨a.cursors, a.world⟩

variable {R : σ → Ideal → Prop} {d : Devices σ} {sent : σ → List (UInt8 × UInt8)}
  {Fits : Cursors → Keypress → Prop} {c : Content} {first : ℕ} {s : Simulation σ}

def Holds (R : σ → Ideal → Prop) (c : Content) (b : Board σ) : Prop :=
  ∃ a, Mirrors R b a ∧ Integration.Ready a ∧ contentOf a = c

structure Running (R : σ → Ideal → Prop) (c : Content) (first : ℕ) (s : Simulation σ) : Prop where
  holds : Holds R c s.board
  plain : Plain s.board.ledState
  booted : s.threeboard.bootIndicator.status = 0
  scanning : ∃ row, Following row s.ledController
  bounds : first ≤ s.taken ∧ s.taken ≤ c.world.keypresses.length
  output : s.simavr.deviceState.usbBuffer = c.text first s.taken

theorem ledsOf_congr {led other : LedState} (h : mainLeds led = mainLeds other) :
    ledsOf led = ledsOf other := by
  have hmain : ∀ led, ledsOf led = ledsOf (mainLeds led) := fun _ => rfl
  rw [hmain, h, ← hmain]

theorem Holds.setLeds {b : Board σ} (h : Holds R c b) {ledState : LedState}
    (hmain : mainLeds ledState = mainLeds b.ledState) : Holds R c { b with ledState } := by
  obtain ⟨a, hmirrors, hready, hcontent⟩ := h
  rw [hmirrors.ledState] at hmain
  have hlit : ∀ text, ledsOf ledState text = ledsOf a.ledState text :=
    fun text => congrFun (ledsOf_congr hmain) text
  refine ⟨{ a with ledState }, { hmirrors with ledState := rfl }, ⟨⟨fun text => ?_, ?_⟩, ?_, ?_⟩,
    hcontent⟩
  · exact (hlit text).trans (hready.settled.lit text)
  · exact hready.settled.progChar
  · exact hready.oneProg
  · exact hready.blobId

structure PolledBy (pinb : UInt8) (t u : EventLoop σ) : Prop where
  keyMask : u.keyMask = (KeyController.pollKeyState t.keyMask pinb).2
  pending : u.eventBuffer.pending =
    (KeyController.pollKeyState t.keyMask pinb).1.or t.eventBuffer.pending
  phase : u.phase = t.phase
  board : u.board = { t.board with ledState := u.board.ledState }
  indicator : (u.bootIndicator, u.board.ledState) =
    if t.bootIndicator.status > 0 then t.bootIndicator.poll t.board.ledState
    else (t.bootIndicator, t.board.ledState)

theorem pollKeyState_fields (t : EventLoop σ) (pinb : UInt8) :
    (t.pollKeyState pinb).board = t.board ∧
      (t.pollKeyState pinb).bootIndicator = t.bootIndicator ∧
      (t.pollKeyState pinb).phase = t.phase ∧
      (t.pollKeyState pinb).keyMask = (KeyController.pollKeyState t.keyMask pinb).2 ∧
      (t.pollKeyState pinb).eventBuffer.pending =
        (KeyController.pollKeyState t.keyMask pinb).1.or t.eventBuffer.pending := by
  rcases hk : KeyController.pollKeyState t.keyMask pinb with ⟨_ | k, keyMask⟩ <;>
    simp [EventLoop.pollKeyState, hk, EventBuffer.handleKeypress, EventBuffer.pending]

theorem timer3_polls (t : EventLoop σ) (pinb : UInt8) :
    PolledBy pinb t (t.handleTimer3Interrupt pinb) := by
  obtain ⟨hboard, hindicator, hphase, hmask, hpending⟩ := pollKeyState_fields t pinb
  rw [EventLoop.handleTimer3Interrupt]
  change PolledBy pinb t (if (t.pollKeyState pinb).bootIndicator.status > 0 then _ else _)
  rw [hindicator]
  split
  · rename_i hstatus
    refine ⟨hmask, hpending, hphase, ?_, ?_⟩
    · rw [← hboard]
      rfl
    · rw [if_pos hstatus, ← hindicator, ← hboard]
      rfl
  · rename_i hstatus
    refine ⟨hmask, hpending, hphase, ?_, ?_⟩
    · rw [← hboard]
      rfl
    · rw [if_neg hstatus, ← hindicator, ← hboard]
      rfl

theorem endIteration_spec (rest : Action (Board σ) Unit) (t : EventLoop σ) :
    ∃ led, mainLeds led = mainLeds (rest t.board).2.ledState ∧ t.endIteration rest =
      { t with board := { (rest t.board).2 with ledState := led }, phase := .between } := by
  rcases hrun : rest t.board with ⟨_ | _, b⟩
  · exact ⟨b.ledState.setErr .pulse, rfl, by rw [EventLoop.endIteration, hrun]⟩
  · exact ⟨b.ledState, rfl, by rw [EventLoop.endIteration, hrun]⟩

namespace Running

theorem of_fields {t : Simulation σ} (h : Running R c first s)
    (hboard : t.board = { s.board with ledState := t.board.ledState })
    (hmain : mainLeds t.board.ledState = mainLeds s.board.ledState)
    (hbooted : t.threeboard.bootIndicator = s.threeboard.bootIndicator)
    (hscanning : ∃ row, Following row t.ledController) (htaken : t.taken = s.taken)
    (houtput : t.simavr.deviceState.usbBuffer = s.simavr.deviceState.usbBuffer) :
    Running R c first t where
  holds := hboard ▸ h.holds.setLeds hmain
  plain := (plain_congr hmain).mpr h.plain
  booted := by rw [hbooted, h.booted]
  scanning := hscanning
  bounds := by
    rw [htaken]
    exact h.bounds
  output := by rw [houtput, htaken, h.output]

theorem timer1 (h : Running R c first s) : Running R c first s.handleTimer1Interrupt := by
  obtain ⟨row, hrow⟩ := h.scanning
  have hmain : mainLeds s.handleTimer1Interrupt.board.ledState = mainLeds s.board.ledState := by
    have hstate := state_scan hrow
    exact (congrArg mainLeds hstate).trans (mainLeds_tick h.plain _)
  have hnext := hrow.scan.1
  exact h.of_fields rfl hmain rfl ⟨_, hnext.line, hnext.ready⟩ rfl (usbBuffer_scan hrow)

theorem timer1During (h : Running R c first s) (led : LedState) :
    Running R c first (s.handleTimer1During led) := by
  obtain ⟨row, hrow⟩ := h.scanning
  have hduring : Following row { s.ledController with state := led } := ⟨hrow.line, hrow.ready⟩
  have hnext := hduring.scan.1
  exact h.of_fields rfl rfl rfl ⟨_, hnext.line, hnext.ready⟩ rfl (usbBuffer_scan hduring)

theorem same (h : Running R c first s) {t : Simulation σ} (hboard : t.board = s.board)
    (hbooted : t.threeboard.bootIndicator = s.threeboard.bootIndicator)
    (hline : t.nextScanLine = s.nextScanLine) (hsimavr : t.simavr = s.simavr)
    (htaken : t.taken = s.taken) : Running R c first t := by
  obtain ⟨row, hrow⟩ := h.scanning
  have hready : Simulator.Ready row t.simavr := hsimavr ▸ hrow.ready
  exact h.of_fields (by rw [hboard]) (by rw [hboard]) hbooted ⟨row, hline.trans hrow.line, hready⟩
    htaken (by rw [hsimavr])

theorem timer3 (h : Running R c first s) : Running R c first s.handleTimer3Interrupt := by
  have hpolled := timer3_polls s.threeboard s.pinb
  have hindicator := hpolled.indicator
  rw [if_neg (by simp [h.booted])] at hindicator
  have hled : (s.threeboard.handleTimer3Interrupt s.pinb).board.ledState = s.board.ledState :=
    congrArg Prod.snd hindicator
  have hboard : s.handleTimer3Interrupt.board = s.board :=
    hpolled.board.trans (by rw [hled]; rfl)
  exact h.same hboard (congrArg Prod.fst hindicator) rfl rfl rfl

theorem takeOutput (hi : Implements R d sent Fits) (h : Running R c first s) :
    Running R c first (s.takeOutput sent) := by
  obtain ⟨a, hmirrors, -, hcontent⟩ := h.holds
  have hsent : sent s.board.world = c.world.keypresses := by
    rw [hi.sent _ _ hmirrors.world, ← hcontent]
    rfl
  rw [Simulation.takeOutput, hsent]
  split
  · rename_i key mod hget
    obtain ⟨hfirst, hlast⟩ := h.bounds
    obtain ⟨row, hrow⟩ := h.scanning
    have hlen : s.taken < c.world.keypresses.length := (List.getElem?_eq_some_iff.mp hget).1
    refine ⟨h.holds, h.plain, h.booted, ⟨row, hrow.line, hrow.ready.resting, hrow.ready.previous,
      hrow.ready.settled⟩, ⟨Nat.le_succ_of_le hfirst, hlen⟩, ?_⟩
    rw [Content.text_succ c hfirst hget, ← h.output]
    rfl
  · exact h

theorem iterate (h : Running R c first s) :
    Running R c first { s with threeboard := s.threeboard.beginIteration d } := by
  have hsame : (s.threeboard.beginIteration d).board = s.threeboard.board ∧
      (s.threeboard.beginIteration d).bootIndicator = s.threeboard.bootIndicator := by
    rw [EventLoop.beginIteration]
    split <;> exact ⟨rfl, rfl⟩
  exact h.same hsame.1 hsame.2 rfl rfl rfl

theorem finish (hi : Implements R d sent Fits) (h : Running R c first s) {k : Keypress}
    (hk : Fits c.cursors k) : Running R (c.press k) first
      { s with threeboard := s.threeboard.endIteration (LayerController.handleEvent d k) } := by
  obtain ⟨a, hmirrors, hready, rfl⟩ := h.holds
  have hnext := hi.handles s.board a k hmirrors hk
  have hcursors := press_cursors Ideal.devices a k
  have hholds : Holds R ((contentOf a).press k) (LayerController.handleEvent d k s.board).2 := by
    refine ⟨_, hnext, hready.press (hi.inRange _ k hk), ?_⟩
    exact congrArg₂ Content.mk hcursors (press_world hready.settled.progChar k)
  have hplain : Plain (LayerController.handleEvent d k s.board).2.ledState :=
    handleEvent_leds plain_invariant k s.board h.plain
  obtain ⟨row, hrow⟩ := h.scanning
  obtain ⟨hfirst, hlast⟩ := h.bounds
  have hbounds : s.taken ≤ ((contentOf a).press k).world.keypresses.length := by
    rw [Content.keypresses_press, List.length_append]
    omega
  have htext := h.output.trans (Content.text_press _ k hlast).symm
  obtain ⟨led, hled, hend⟩ := endIteration_spec (LayerController.handleEvent d k) s.threeboard
  rw [hend]
  exact ⟨hholds.setLeds hled, (plain_congr hled).mpr hplain, h.booted, ⟨row, hrow.line, hrow.ready⟩,
    ⟨hfirst, hbounds⟩, htext⟩

end Running

def Handling (d : Devices σ) : Option Keypress → Phase σ → Prop
  | some k, phase => phase = .handling (LayerController.handleEvent d k)
  | none, phase => ∀ rest, phase ≠ .handling rest

structure At (d : Devices σ) (low gathered : Finset Key) (pending handled : Option Keypress)
    (s : Simulation σ) : Prop where
  low : lowKeys s.pinb = low
  keyMask : Keys.Tracks s.threeboard.keyMask gathered
  pending : s.threeboard.eventBuffer.pending = pending
  phase : Handling d handled s.threeboard.phase

variable {low gathered : Finset Key} {pending handled : Option Keypress}

theorem At.timer3 (h : At d low gathered pending handled s) :
    At d low (collect gathered low).2 (((collect gathered low).1.map Keypress.ofKeys).or pending)
      handled s.handleTimer3Interrupt := by
  have hpolled := timer3_polls s.threeboard s.pinb
  obtain ⟨hpoll, htracks⟩ := pollKeyState_tracks h.keyMask s.pinb
  rw [h.low] at hpoll htracks
  refine ⟨h.low, ?_, ?_, ?_⟩
  · rw [← hpolled.keyMask] at htracks
    exact htracks
  · rw [← hpoll, ← h.pending]
    exact hpolled.pending
  · have hphase := h.phase
    rw [← hpolled.phase] at hphase
    exact hphase

theorem At.idle (h : At d ∅ ∅ pending handled s) :
    At d ∅ ∅ pending handled s.handleTimer3Interrupt := h.timer3

end Threeboard.Integration
