import Threeboard.Layers.LayerController

namespace Threeboard.Layers

open Actions Actions.Action Keys Storage Layer

structure Cursors where
  currentLayer : LayerId := .dflt
  layerDefault : DefaultLayer := {}
  layerR : LayerR := {}
  layerG : LayerG := {}
  layerB : LayerB := {}
  deriving DecidableEq, Repr

variable {σ α : Type}

def Board.cursors (b : Board σ) : Cursors where
  currentLayer := b.currentLayer
  layerDefault := b.layerDefault
  layerR := { b.layerR with currentProgChar := 0 }
  layerG := b.layerG
  layerB := b.layerB

def LayerId.next : LayerId → LayerId
  | .dflt => .r
  | .r => .g
  | .g => .b
  | .b => .dflt

def DefaultLayer.press (l : DefaultLayer) : Keypress → DefaultLayer
  | .x => { l with bank0 := l.bank0 + 1 }
  | .y => { l with bank1 := l.bank1 + 1 }
  | .xz => { l with bank0 := 0 }
  | .yz => { l with bank1 := 0 }
  | _ => l

def LayerR.press (l : LayerR) : Keypress → LayerR
  | .x => if l.prog then l else { l with shortcutId := l.shortcutId + 1 }
  | .y => if l.prog then { l with shortcutId := l.shortcutId + 1 }
    else { l with modcode := l.modcode + 1 }
  | .xy => { l with prog := true }
  | .xz => if l.prog then l else { l with shortcutId := 0 }
  | .yz => if l.prog then { l with shortcutId := 0 } else { l with modcode := 0 }
  | .xyz => { l with prog := false }
  | _ => l

def LayerG.press (l : LayerG) : Keypress → LayerG
  | .x => if l.prog then { l with keyCode := l.keyCode + 1 }
    else { l with shortcutId := l.shortcutId + 1 }
  | .y => if l.prog then l else { l with wordModCode := l.wordModCode + 1 }
  | .xy => { l with prog := true }
  | .xz => if l.prog then { l with keyCode := 0 } else { l with shortcutId := 0 }
  | .yz => if l.prog then l else { l with wordModCode := 0 }
  | .xyz => { l with prog := false }
  | _ => l

def LayerB.press (l : LayerB) : Keypress → LayerB
  | .x => if l.prog then { l with keyCode := l.keyCode + 1 }
    else { l with shortcutId := l.shortcutId + 1 }
  | .y => if l.prog then { l with modcode := l.modcode + 1 } else l
  | .xy => { l with prog := true }
  | .xz => if l.prog then { l with keyCode := 0 } else { l with shortcutId := 0 }
  | .yz => if l.prog then { l with modcode := 0 } else l
  | .xyz => { l with prog := false }
  | _ => l

namespace Cursors

variable (c : Cursors)

def prog : Bool :=
  match c.currentLayer with
  | .dflt => c.layerDefault.prog
  | .r => c.layerR.prog
  | .g => c.layerG.prog
  | .b => c.layerB.prog

def switch : Cursors := { c with currentLayer := c.currentLayer.next }

def edit (keypress : Keypress) : Cursors :=
  match c.currentLayer with
  | .dflt => { c with layerDefault := c.layerDefault.press keypress }
  | .r => { c with layerR := c.layerR.press keypress }
  | .g => { c with layerG := c.layerG.press keypress }
  | .b => { c with layerB := c.layerB.press keypress }

def leaves (keypress : Keypress) : Prop :=
  keypress = .xyz ∧ (c.currentLayer = .dflt ∨ ¬ c.prog)

instance (keypress : Keypress) : Decidable (c.leaves keypress) :=
  inferInstanceAs (Decidable (_ ∧ _))

def press (keypress : Keypress) : Cursors :=
  if c.leaves keypress then c.switch else c.edit keypress

end Cursors

section Frame

def Stays (x : Action (Board σ) α) : Prop := ∀ b, (x b).2.cursors = b.cursors

theorem Stays.bind {β : Type} {x : Action (Board σ) α} {f : α → Action (Board σ) β} (hx : Stays x)
    (hf : ∀ a, Stays (f a)) : Stays (x >>= f) := fun b =>
  (Keeps.bind (I := fun t => t.cursors = b.cursors) (fun s hs => (hx s).trans hs)
    fun a s hs => (hf a s).trans hs) b rfl

theorem Stays.ite {c : Prop} [Decidable c] {x y : Action (Board σ) α} (hx : Stays x)
    (hy : Stays y) : Stays (if c then x else y) := by
  split <;> assumption

theorem Stays.gets (f : Board σ → α) : Stays (Action.gets f) := fun _ => rfl

theorem Stays.onWorld (x : Action σ α) : Stays (onWorld x) := fun _ => rfl

theorem Stays.updateLedState (prog : Bool) (layerId : LayerId) (bank0 bank1 : UInt8) :
    Stays (Layer.updateLedState prog layerId bank0 bank1 : Action (Board σ) Unit) := fun _ => rfl

theorem Stays.sendToHost (u : UsbController σ) (key mod : UInt8) :
    Stays (Layer.sendToHost u key mod) :=
  Stays.bind (fun _ => rfl) fun _ => Stays.ite (fun _ => rfl) fun _ => rfl

theorem bind_cursors {β : Type} {x : Action (Board σ) α} {f : α → Action (Board σ) β}
    (hf : ∀ a, Stays (f a)) (b : Board σ) : ((x >>= f) b).2.cursors = (x b).2.cursors :=
  bind_unseen Board.cursors hf b

end Frame

section Layers

variable (d : Devices σ) (b : Board σ)

theorem DefaultLayer.onKeypress_cursors (k : Keypress) : (b.layerDefault.onKeypress d k b).2.cursors =
    { b.cursors with layerDefault := b.layerDefault.press k } := by
  cases k with
  | z => exact Stays.sendToHost _ _ _ b
  | _ => rfl

theorem LayerR.onKeypress_cursors (k : Keypress) : (b.layerR.onKeypress d k b).2.cursors =
    { b.cursors with layerR := b.cursors.layerR.press k } := by
  obtain ⟨cur, ld, ⟨prog, id, modcode, char⟩, lg, lb, led, world⟩ := b
  cases prog <;> cases k
  case true.x => exact Stays.bind (Stays.onWorld _) (fun _ _ => rfl) _
  case false.z => exact Stays.bind (Stays.onWorld _) (fun _ => Stays.sendToHost _ _ _) _
  all_goals rfl

theorem LayerG.onKeypress_cursors (k : Keypress) : (b.layerG.onKeypress d k b).2.cursors =
    { b.cursors with layerG := b.layerG.press k } := by
  obtain ⟨cur, ld, lr, ⟨prog, id, code, key⟩, lb, led, world⟩ := b
  cases prog <;> cases k <;> rfl

theorem LayerB.onKeypress_cursors (k : Keypress) : (b.layerB.onKeypress d k b).2.cursors =
    { b.cursors with layerB := b.layerB.press k } := by
  obtain ⟨cur, ld, lr, lg, ⟨prog, id, key, modcode⟩, led, world⟩ := b
  cases prog <;> cases k <;> rfl

theorem LayerR.display_stays : Stays (LayerR.display d) :=
  Stays.bind (Stays.gets _) fun _ => Stays.ite
    (Stays.bind (Stays.onWorld _) fun _ => Stays.bind (fun _ => rfl) fun _ =>
      Stays.updateLedState _ _ _ _)
    (Stays.updateLedState _ _ _ _)

theorem LayerG.display_stays : Stays (LayerG.display d) :=
  Stays.bind (Stays.gets _) fun _ => Stays.bind (Stays.onWorld _) fun _ => Stays.ite
    (Stays.updateLedState _ _ _ _) (Stays.updateLedState _ _ _ _)

theorem LayerB.display_stays : Stays (LayerB.display d) :=
  Stays.bind (Stays.gets _) fun _ => Stays.ite (Stays.updateLedState _ _ _ _)
    (Stays.bind (Stays.onWorld _) fun _ => Stays.updateLedState _ _ _ _)

theorem LayerG.transitionedToLayer_stays : Stays (LayerG.transitionedToLayer d) :=
  Stays.bind (Stays.gets _) fun _ => Stays.bind (Stays.onWorld _) fun _ =>
    Stays.updateLedState _ _ _ _

theorem LayerB.transitionedToLayer_stays : Stays (LayerB.transitionedToLayer d) :=
  Stays.bind (Stays.gets _) fun _ => Stays.bind (Stays.onWorld _) fun _ =>
    Stays.updateLedState _ _ _ _

theorem switchToLayer_cursors (layerId : LayerId) :
    (LayerController.switchToLayer d layerId b).2.cursors =
      { b.cursors with currentLayer := layerId } := by
  cases layerId with
  | dflt | r => rfl
  | g => exact LayerG.transitionedToLayer_stays d _
  | b => exact LayerB.transitionedToLayer_stays d _

theorem handleEvent_cursors {k : Keypress} {leaving : Prop} [Decidable leaving] {next : LayerId}
    {effect display : Action (Board σ) Unit} (hleaves : leaving ↔ b.cursors.leaves k)
    (hnext : b.currentLayer.next = next) (heffect : (effect b).2.cursors = b.cursors.edit k)
    (hdisplay : Stays display) :
    ((if leaving then LayerController.switchToLayer d next else do effect; display) b).2.cursors =
      b.cursors.press k := by
  by_cases h : leaving
  · rw [if_pos h, switchToLayer_cursors, Cursors.press, if_pos (hleaves.mp h), ← hnext]
    rfl
  · rw [if_neg h, bind_cursors fun _ => hdisplay, heffect, Cursors.press,
      if_neg (mt hleaves.mpr h)]

theorem press_cursors (k : Keypress) :
    (LayerController.press d b k).2.cursors = b.cursors.press k := by
  simp only [LayerController.press, LayerController.handleEvent, gets_bind]
  cases h : b.currentLayer with
  | dflt =>
    refine handleEvent_cursors d b (by simp [Cursors.leaves, Board.cursors, h]) (by rw [h]; rfl) ?_
      fun _ => rfl
    rw [DefaultLayer.onKeypress_cursors]
    simp [Cursors.edit, Board.cursors, h]
  | r =>
    refine handleEvent_cursors d b (by simp [Cursors.leaves, Cursors.prog, Board.cursors, h])
      (by rw [h]; rfl) ?_ (LayerR.display_stays d)
    rw [LayerR.onKeypress_cursors]
    simp [Cursors.edit, Board.cursors, h]
  | g =>
    refine handleEvent_cursors d b (by simp [Cursors.leaves, Cursors.prog, Board.cursors, h])
      (by rw [h]; rfl) ?_ (LayerG.display_stays d)
    rw [LayerG.onKeypress_cursors]
    simp [Cursors.edit, Board.cursors, h]
  | b =>
    refine handleEvent_cursors d b (by simp [Cursors.leaves, Cursors.prog, Board.cursors, h])
      (by rw [h]; rfl) ?_ (LayerB.display_stays d)
    rw [LayerB.onKeypress_cursors]
    simp [Cursors.edit, Board.cursors, h]

end Layers

namespace Cursors

def progOf (c : Cursors) : LayerId → Bool
  | .dflt => c.layerDefault.prog
  | .r => c.layerR.prog
  | .g => c.layerG.prog
  | .b => c.layerB.prog

def OneProg (c : Cursors) : Prop := ∀ l, c.progOf l → l = c.currentLayer ∧ l ≠ .dflt

variable {c : Cursors}

theorem prog_eq_progOf (c : Cursors) : c.prog = c.progOf c.currentLayer := by
  cases h : c.currentLayer <;> simp [prog, progOf, h]

theorem OneProg.leaves_iff (h : c.OneProg) (k : Keypress) :
    c.leaves k ↔ k = .xyz ∧ ¬ c.prog := by
  have hdflt : c.currentLayer = .dflt → ¬ c.prog := by
    intro hcur hp
    rw [prog_eq_progOf] at hp
    exact (h _ hp).2 hcur
  constructor
  · rintro ⟨hk, hcur | hp⟩
    · exact ⟨hk, hdflt hcur⟩
    · exact ⟨hk, hp⟩
  · exact fun hk => ⟨hk.1, .inr hk.2⟩

theorem progOf_edit_of_ne {k : Keypress} {l : LayerId} (hl : l ≠ c.currentLayer) :
    (c.edit k).progOf l = c.progOf l := by
  cases hcur : c.currentLayer <;> rw [hcur] at hl <;> cases l <;>
    simp_all [edit, progOf]

theorem currentLayer_edit (c : Cursors) (k : Keypress) : (c.edit k).currentLayer = c.currentLayer := by
  cases h : c.currentLayer <;> simp [edit, h]

theorem currentLayer_press (c : Cursors) (k : Keypress) :
    (c.press k).currentLayer = if c.leaves k then c.currentLayer.next else c.currentLayer := by
  rw [Cursors.press]
  split
  · rfl
  · exact currentLayer_edit _ _

theorem layerG_press (c : Cursors) (k : Keypress) : (c.press k).layerG =
    if c.currentLayer = .g ∧ ¬ c.leaves k then c.layerG.press k else c.layerG := by
  by_cases hl : c.leaves k
  · simp [Cursors.press, switch, hl]
  · cases hcur : c.currentLayer <;> simp [Cursors.press, edit, hl, hcur]

theorem layerR_press (c : Cursors) (k : Keypress) : (c.press k).layerR =
    if c.currentLayer = .r ∧ ¬ c.leaves k then c.layerR.press k else c.layerR := by
  by_cases hl : c.leaves k
  · simp [Cursors.press, switch, hl]
  · cases hcur : c.currentLayer <;> simp [Cursors.press, edit, hl, hcur]

theorem prog_press_dflt (l : DefaultLayer) (k : Keypress) : (l.press k).prog = l.prog := by
  cases k <;> rfl

theorem OneProg.press (h : c.OneProg) (k : Keypress) : (c.press k).OneProg := by
  intro l hl
  by_cases hk : c.leaves k
  · rw [Cursors.press, if_pos hk] at hl
    have hp : ¬ c.prog := ((h.leaves_iff k).mp hk).2
    obtain ⟨rfl, -⟩ := h l hl
    exact (hp (by rwa [prog_eq_progOf])).elim
  · rw [Cursors.press, if_neg hk] at hl ⊢
    rw [currentLayer_edit]
    by_cases hcur : l = c.currentLayer
    · refine ⟨hcur, ?_⟩
      rintro rfl
      rw [edit, ← hcur] at hl
      exact (h .dflt (by simpa [progOf, prog_press_dflt] using hl)).2 rfl
    · rw [progOf_edit_of_ne hcur] at hl
      exact h l hl

theorem OneProg.entered (h : c.OneProg) {k : Keypress}
    (hne : (c.press k).currentLayer ≠ c.currentLayer) : ¬ (c.press k).prog := by
  intro hp
  by_cases hk : c.leaves k
  · rw [Cursors.press, if_pos hk] at hne hp
    rw [prog_eq_progOf] at hp
    exact hne (h _ hp).1
  · rw [Cursors.press, if_neg hk] at hne
    exact hne (currentLayer_edit c k)

end Cursors

theorem press_currentLayer (d : Devices σ) (b : Board σ) (k : Keypress) :
    (LayerController.press d b k).2.currentLayer =
      if b.cursors.leaves k then b.currentLayer.next else b.currentLayer :=
  (congrArg Cursors.currentLayer (press_cursors d b k)).trans (b.cursors.currentLayer_press k)

theorem boot_oneProg (world : σ) : (Board.boot world).cursors.OneProg := by
  intro l hl
  cases l <;> simp [Board.boot, Board.cursors, Cursors.progOf] at hl

end Threeboard.Layers
