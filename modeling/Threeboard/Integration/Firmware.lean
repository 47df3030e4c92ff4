import Threeboard.Integration.ThreeboardModel
import Threeboard.Layers.Asking
import Threeboard.Layers.Handling
import Threeboard.Layers.Ideal

namespace Threeboard.Integration

open Actions Actions.Action Keys Leds Layers Layer Storage

inductive Effect where
  | nothing
  | request (r : Request)
  | type (key mod : UInt8)

def served (w : Ideal) (r : Request) : Ideal :=
  ⟨(w.shortcuts.serve r).2, w.keypresses ++ (w.shortcuts.serve r).1.keypresses⟩

def after (w : Ideal) : Effect → Ideal
  | .nothing => w
  | .request r => served w r
  | .type key mod => { w with keypresses := w.keypresses ++ [(key, mod)] }

def effectDefault (l : DefaultLayer) : Keypress → Effect
  | .z => .type l.bank0 l.bank1
  | _ => .nothing

def effectR (l : LayerR) (s : Shortcuts) : Keypress → Effect
  | .x => if l.prog then .request (.setCharacter l.shortcutId (s.characters l.shortcutId + 1))
    else .nothing
  | .z => if l.prog then .nothing else .type (s.characters l.shortcutId) l.modcode
  | .xz => if l.prog then .request (.setCharacter l.shortcutId 0) else .nothing
  | _ => .nothing

def effectG (l : LayerG) : Keypress → Effect
  | .z => if l.prog then .request (.appendToWord l.shortcutId l.keyCode)
    else .request (.sendWord l.shortcutId l.wordModCode)
  | .yz => if l.prog then .request (.clearWord l.shortcutId) else .nothing
  | _ => .nothing

def effectB (l : LayerB) : Keypress → Effect
  | .z => if l.prog then .request (.appendToBlob l.shortcutId l.keyCode l.modcode)
    else .request (.sendBlob l.shortcutId)
  | .xy => if l.prog then .request (.clearBlob l.shortcutId) else .nothing
  | _ => .nothing

def effect (c : Cursors) (s : Shortcuts) (k : Keypress) : Effect :=
  match c.currentLayer with
  | .dflt => effectDefault c.layerDefault k
  | .r => effectR c.layerR s k
  | .g => effectG c.layerG k
  | .b => effectB c.layerB k

section World

variable {a : Board Ideal}

theorem serve_snd (r : Request) (w : Ideal) : (Ideal.serve r w).2 = served w r := rfl

theorem order_snd (r : Request) (w : Ideal) : (Ideal.order r w).2 = served w r :=
  bind_pure_state (Ideal.serve r) _ w

theorem served_of_gets {r : Request} (h : r.Gets) (w : Ideal) : served w r = w := by
  cases r with
  | getCharacter | getWordLength => simp [served, Shortcuts.serve, Response.value]
  | getBlobLength =>
    simp only [served, Shortcuts.serve, Shortcuts.serveBlob]
    split <;> simp [Response.value, Response.rejected]
  | _ => exact h.elim

theorem gets_keeps (w : Ideal) (r : Request) (h : r.Gets) :
    Keeps (· = w) (r.run Ideal.devices.storageController) := by
  rintro v rfl
  rw [Ideal.devices, Ideal.run_eq_serve, serve_snd, served_of_gets h]

theorem ask_snd {r : Request} (h : r.Gets) (w : Ideal) : (Ideal.ask r w).2 = w := by
  have hserve : (Ideal.ask r w).2 = (Ideal.serve r w).2 :=
    bind_unseen id (fun output t => by cases output <;> rfl) w
  rw [hserve, serve_snd, served_of_gets h]

theorem getCharacter_run (id : UInt8) (w : Ideal) :
    Ideal.ask (.getCharacter id) w = (some (w.shortcuts.characters id), w) := by
  exact Prod.ext rfl (ask_snd (r := .getCharacter id) trivial w)

theorem getWordLength_run (id : UInt8) (w : Ideal) : Ideal.ask (.getWordLength id) w =
    (some (UInt8.ofNat (w.shortcuts.words id).1.length), w) := by
  exact Prod.ext rfl (ask_snd (r := .getWordLength id) trivial w)

theorem getBlobLength_run (id : BlobId) (w : Ideal) : Ideal.ask (.getBlobLength id.1) w =
    (some (UInt8.ofNat (w.shortcuts.blobs id).1.length), w) := by
  refine Prod.ext ?_ (ask_snd (r := .getBlobLength id.1) trivial w)
  simp [Ideal.ask, bind_run, Ideal.serve, Shortcuts.serve, Shortcuts.serveBlob_of_le, Response.value]

def ProgChar (a : Board Ideal) : Prop :=
  a.currentLayer = .r → a.layerR.prog →
    a.layerR.currentProgChar = a.world.shortcuts.characters a.layerR.shortcutId

theorem DefaultLayer.onKeypress_world (k : Keypress) :
    (a.layerDefault.onKeypress Ideal.devices k a).2.world =
      after a.world (effectDefault a.layerDefault k) := by
  cases k <;> rfl

theorem sendCharacter_world (id modcode : UInt8) :
    ((do let character ← onWorld (Ideal.ask (.getCharacter id))
         sendToHost Ideal.usbController character modcode) a).2.world =
      after a.world (.type (a.world.shortcuts.characters id) modcode) := by
  rw [bind_of_some (onWorld_of_some (getCharacter_run id a.world))]
  rfl

theorem LayerR.onKeypress_world (hcur : a.currentLayer = .r) (h : ProgChar a) (k : Keypress) :
    (a.layerR.onKeypress Ideal.devices k a).2.world =
      after a.world (effectR a.layerR a.world.shortcuts k) := by
  obtain ⟨cur, ld, ⟨prog, id, modcode, char⟩, lg, lb, led, w⟩ := a
  cases prog <;> cases k
  case true.x =>
    obtain rfl : char = w.shortcuts.characters id := h hcur rfl
    rfl
  case true.xz => exact order_snd _ w
  case false.z => exact sendCharacter_world id modcode
  all_goals rfl

theorem LayerG.onKeypress_world (k : Keypress) :
    (a.layerG.onKeypress Ideal.devices k a).2.world = after a.world (effectG a.layerG k) := by
  obtain ⟨cur, ld, lr, ⟨prog, id, code, key⟩, lb, led, w⟩ := a
  cases prog <;> cases k
  case true.z | true.yz | false.z => exact order_snd _ w
  all_goals rfl

theorem LayerB.onKeypress_world (k : Keypress) :
    (a.layerB.onKeypress Ideal.devices k a).2.world = after a.world (effectB a.layerB k) := by
  obtain ⟨cur, ld, lr, lg, ⟨prog, id, key, modcode⟩, led, w⟩ := a
  cases prog <;> cases k
  case true.z | true.xy | false.z => exact order_snd _ w
  all_goals rfl

theorem bind_world {x display : Action (Board Ideal) Unit}
    (h : ∀ w, Keeps (World (· = w)) display) (a : Board Ideal) :
    ((do x; display) a).2.world = (x a).2.world :=
  bind_unseen Board.world (fun _ t => h t.world t rfl) a

theorem effect_of_xyz {c : Cursors} {s : Shortcuts} {k : Keypress} (h : k = .xyz) :
    effect c s k = .nothing := by
  subst h
  cases hc : c.currentLayer <;> simp [effect, hc, effectDefault, effectR, effectG, effectB]

theorem handled_world {k : Keypress} {leaving : Prop} [Decidable leaving] {next : LayerId}
    {x display : Action (Board Ideal) Unit} (hleaves : leaving → k = .xyz)
    (hdisplay : ∀ w, Keeps (World (· = w)) display)
    (hx : (x a).2.world = after a.world (effect a.cursors a.world.shortcuts k)) :
    ((if leaving then LayerController.switchToLayer Ideal.devices next else do x; display) a).2.world =
      after a.world (effect a.cursors a.world.shortcuts k) := by
  by_cases h : leaving
  · rw [if_pos h, effect_of_xyz (hleaves h)]
    exact switchToLayer_keeps (gets_keeps a.world) next a rfl
  · rw [if_neg h, bind_world hdisplay, hx]

theorem press_world (h : ProgChar a) (k : Keypress) :
    (LayerController.press Ideal.devices a k).2.world =
      after a.world (effect a.cursors a.world.shortcuts k) := by
  simp only [LayerController.press, LayerController.handleEvent, gets_bind]
  cases hcur : a.currentLayer with
  | dflt =>
    refine handled_world id (fun _ _ h => h) ?_
    rw [DefaultLayer.onKeypress_world]
    simp [effect, Board.cursors, hcur]
  | r =>
    refine handled_world And.left (fun w => LayerR.display_keeps (gets_keeps w)) ?_
    rw [LayerR.onKeypress_world hcur h]
    simp [effect, Board.cursors, hcur, effectR]
  | g =>
    refine handled_world And.left (fun w => LayerG.display_keeps (gets_keeps w)) ?_
    rw [LayerG.onKeypress_world]
    simp [effect, Board.cursors, hcur]
  | b =>
    refine handled_world And.left (fun w => LayerB.display_keeps (gets_keeps w)) ?_
    rw [LayerB.onKeypress_world]
    simp [effect, Board.cursors, hcur]

end World

section Leds

def blobSize (s : Shortcuts) (id : UInt8) : UInt8 :=
  if h : id ≤ kLayerBMaxIndex then UInt8.ofNat (s.blobs ⟨id, h⟩).1.length else 0

def banks (c : Cursors) (s : Shortcuts) : UInt8 × UInt8 :=
  match c.currentLayer with
  | .dflt => (c.layerDefault.bank0, c.layerDefault.bank1)
  | .r => if c.layerR.prog then (s.characters c.layerR.shortcutId, c.layerR.shortcutId)
    else (c.layerR.shortcutId, c.layerR.modcode)
  | .g =>
    let length := UInt8.ofNat (s.words c.layerG.shortcutId).1.length
    if c.layerG.prog then (c.layerG.keyCode, length <<< 4)
    else (c.layerG.shortcutId, length <<< 4 ||| c.layerG.wordModCode)
  | .b => if c.layerB.prog then (c.layerB.keyCode, c.layerB.modcode)
    else (c.layerB.shortcutId, blobSize s c.layerB.shortcutId)

def snapshot (c : Cursors) (s : Shortcuts) (text : Text) : DeviceState where
  bank0 := (banks c s).1
  bank1 := (banks c s).2
  ledR := c.currentLayer = .r
  ledG := c.currentLayer = .g
  ledB := c.currentLayer = .b
  ledProg := c.prog
  usbBuffer := text

def ledsOf (led : LedState) (text : Text) : DeviceState where
  bank0 := led.bank0
  bank1 := led.bank1
  ledR := led.ledR.state = .on
  ledG := led.ledG.state = .on
  ledB := led.ledB.state = .on
  ledProg := led.ledProg.state = .on
  usbBuffer := text

def Lit (a : Board Ideal) : Prop :=
  ∀ text, ledsOf a.ledState text = snapshot a.cursors a.world.shortcuts text

variable {a : Board Ideal}

theorem updateLedState_lit {layerId : LayerId} {prog : Bool} {bank0 bank1 : UInt8}
    (hcur : a.currentLayer = layerId) (hprog : a.cursors.prog = prog)
    (hbanks : banks a.cursors a.world.shortcuts = (bank0, bank1)) :
    Lit (updateLedState prog layerId bank0 bank1 a).2 := by
  intro text
  subst hcur hprog
  obtain ⟨hr, hg, hb⟩ := showLayerId_leds a.currentLayer a.ledState
  have hprog : decide ((FullState.of (if a.cursors.prog then .on else .off)).state = .on) =
      a.cursors.prog := by cases a.cursors.prog <;> simp [FullState.of]
  change DeviceState.mk bank0 bank1 _ _ _ _ text = DeviceState.mk (banks a.cursors a.world.shortcuts).1
    (banks a.cursors a.world.shortcuts).2 _ _ _ _ text
  rw [hbanks]
  congr 1
  · exact decide_eq_decide.mpr hr
  · exact decide_eq_decide.mpr hg
  · exact decide_eq_decide.mpr hb

structure Settled (a : Board Ideal) : Prop where
  lit : Lit a
  progChar : ProgChar a

theorem settled_of_ne (h : Lit a) (hcur : a.currentLayer ≠ .r) : Settled a :=
  ⟨h, fun hr => (hcur hr).elim⟩

theorem display_settles_dflt (h : a.currentLayer = .dflt) :
    wp (DefaultLayer.display : Action (Board Ideal) Unit) (fun _ => Settled) (fun _ => False) a := by
  have hprog : a.cursors.prog = a.layerDefault.prog := by simp [Cursors.prog, Board.cursors, h]
  have hbanks : banks a.cursors a.world.shortcuts = (a.layerDefault.bank0, a.layerDefault.bank1) := by
    simp [banks, Board.cursors, h]
  exact settled_of_ne (updateLedState_lit h hprog hbanks) (ne_of_eq_of_ne h (by simp))

theorem display_settles_r (h : a.currentLayer = .r) :
    wp (LayerR.display Ideal.devices) (fun _ => Settled) (fun _ => False) a := by
  simp only [LayerR.display, wp_bind, wp_gets]
  have hprog : a.cursors.prog = a.layerR.prog := by simp [Cursors.prog, Board.cursors, h]
  refine wp_ite.mpr ⟨fun hp => ?_, fun hp => ?_⟩
  · rw [wp_bind]
    refine wp_of_some (onWorld_of_some (getCharacter_run a.layerR.shortcutId a.world)) ?_
    refine ⟨updateLedState_lit h hprog ?_, fun _ _ => rfl⟩
    simp [banks, Board.cursors, h, hp]
  · refine ⟨updateLedState_lit h hprog ?_, fun _ hp' => (hp hp').elim⟩
    simp [banks, Board.cursors, h, hp]

theorem display_settles_g (h : a.currentLayer = .g) :
    wp (LayerG.display Ideal.devices) (fun _ => Settled) (fun _ => False) a := by
  simp only [LayerG.display, wp_bind, wp_gets]
  have hprog : a.cursors.prog = a.layerG.prog := by simp [Cursors.prog, Board.cursors, h]
  have hne : a.currentLayer ≠ .r := ne_of_eq_of_ne h (by simp)
  refine wp_of_some (onWorld_of_some (getWordLength_run a.layerG.shortcutId a.world)) ?_
  refine wp_ite.mpr ⟨fun hp => ?_, fun hp => ?_⟩
  · exact settled_of_ne (updateLedState_lit h hprog (by simp [banks, Board.cursors, h, hp])) hne
  · exact settled_of_ne (updateLedState_lit h hprog (by simp [banks, Board.cursors, h, hp])) hne

theorem blobLength_read (id : UInt8) (h : id ≤ kLayerBMaxIndex) (a : Board Ideal) :
    onWorld (Ideal.ask (.getBlobLength id)) a = (some (blobSize a.world.shortcuts id), a) := by
  rw [blobSize, dif_pos h]
  exact onWorld_of_some (getBlobLength_run ⟨id, h⟩ a.world)

theorem display_settles_b (h : a.currentLayer = .b) (hid : a.layerB.shortcutId ≤ kLayerBMaxIndex) :
    wp (LayerB.display Ideal.devices) (fun _ => Settled) (fun _ => False) a := by
  simp only [LayerB.display, wp_bind, wp_gets]
  have hprog : a.cursors.prog = a.layerB.prog := by simp [Cursors.prog, Board.cursors, h]
  have hne : a.currentLayer ≠ .r := ne_of_eq_of_ne h (by simp)
  refine wp_ite.mpr ⟨fun hp => ?_, fun hp => ?_⟩
  · exact settled_of_ne (updateLedState_lit h hprog (by simp [banks, Board.cursors, h, hp])) hne
  · rw [wp_bind]
    refine wp_of_some (blobLength_read a.layerB.shortcutId hid a) ?_
    exact settled_of_ne (updateLedState_lit h hprog (by simp [banks, Board.cursors, h, hp])) hne

theorem switchToLayer_settles {layerId : LayerId} (hprog : ¬ a.cursors.progOf layerId)
    (hid : a.layerB.shortcutId ≤ kLayerBMaxIndex) :
    wp (LayerController.switchToLayer Ideal.devices layerId) (fun _ => Settled)
      (fun _ => False) a := by
  simp only [LayerController.switchToLayer, wp_bind, wp_modify]
  cases layerId with
  | dflt => exact settled_of_ne (updateLedState_lit rfl rfl rfl) (by simp)
  | r => exact ⟨updateLedState_lit rfl rfl (if_neg hprog), fun _ hp => (hprog hp).elim⟩
  | g =>
    simp only [LayerG.transitionedToLayer, wp_bind, wp_gets]
    refine wp_of_some (onWorld_of_some (getWordLength_run a.layerG.shortcutId a.world)) ?_
    exact settled_of_ne (updateLedState_lit rfl rfl (if_neg hprog)) (by simp)
  | b =>
    simp only [LayerB.transitionedToLayer, wp_bind, wp_gets]
    refine wp_of_some (blobLength_read a.layerB.shortcutId hid _) ?_
    exact settled_of_ne (updateLedState_lit rfl rfl (if_neg hprog)) (by simp)

theorem order_of_ok {r : Request} {w : Ideal} (h : (w.shortcuts.serve r).1.ok = true) :
    Ideal.order r w = (some (), served w r) := by
  have hserve : Ideal.serve r w = (some (w.shortcuts.serve r).1.output, served w r) := by
    simp [Ideal.serve, served, h]
  exact bind_of_some hserve _

theorem order_spec (r : Request) (a : Board Ideal)
    (hrefused : (a.world.shortcuts.serve r).1.ok = false →
      (a.world.shortcuts.serve r).2 = a.world.shortcuts) :
    wp (onWorld (Ideal.order r)) (fun _ _ => True)
      (fun t => ∃ w, w.shortcuts = a.world.shortcuts ∧ t = { a with world := w }) a := by
  cases hok : (a.world.shortcuts.serve r).1.ok with
  | true =>
    refine wp_of_some (a := ()) (t := { a with world := served a.world r }) ?_ trivial
    simp [onWorld, order_of_ok hok]
  | false =>
    refine wp_zoom.mpr ?_
    have hsnd := order_snd r a.world
    rcases hrun : Ideal.order r a.world with ⟨_ | _, t⟩
    · rw [hrun] at hsnd
      refine wp_of_none hrun ⟨t, ?_, rfl⟩
      rw [show t = served a.world r from hsnd]
      exact hrefused hok
    · exact wp_of_some hrun trivial

theorem setCharacter_ideal (id x : UInt8) :
    wp (onWorld (Ideal.order (.setCharacter id x))) (fun _ _ => True) (fun _ => False) a :=
  wp_zoom.mpr (wp_of_some (order_of_ok rfl) trivial)

theorem onKeypress_spec_g (k : Keypress) :
    wp (a.layerG.onKeypress Ideal.devices k) (fun _ _ => True)
      (fun t => ∃ w, w.shortcuts = a.world.shortcuts ∧ t = { a with world := w }) a := by
  obtain ⟨cur, ld, lr, ⟨prog, id, code, key⟩, lb, led, w⟩ := a
  cases prog <;> cases k
  case true.z =>
    refine order_spec (.appendToWord id key) _ ?_
    simp only [Shortcuts.serve]
    split <;> simp [Response.done]
  case true.yz => exact order_spec (.clearWord id) _ (by simp [Shortcuts.serve, Response.done])
  case false.z => exact order_spec (.sendWord id code) _ fun _ => rfl
  all_goals trivial

structure Ready (a : Board Ideal) : Prop where
  settled : Settled a
  oneProg : a.cursors.OneProg
  blobId : a.layerB.shortcutId ≤ kLayerBMaxIndex

theorem press_blobId {c : Cursors} (hcur : c.currentLayer = .b) (k : Keypress) :
    (c.press k).layerB.shortcutId = (c.layerB.press k).shortcutId := by
  by_cases h : c.leaves k
  · rw [Cursors.press, if_pos h, h.1]
    rfl
  · rw [Cursors.press, if_neg h, Cursors.edit, hcur]

theorem Ready.handles (h : Ready a) {k : Keypress}
    (hid : (a.cursors.press k).layerB.shortcutId ≤ kLayerBMaxIndex) :
    Handles Ideal.devices Settled a k where
  switch layerId hne := switchToLayer_settles (fun hp => hne (h.oneProg layerId hp).1) h.blobId
  effectR := LayerR.onKeypress_sure k setCharacter_ideal fun id =>
    ⟨_, getCharacter_run id a.world⟩
  effectG hcur := by
    refine wp_mono (onKeypress_spec_g k) (fun _ _ _ => trivial) ?_
    rintro t ⟨w, hw, rfl⟩
    refine settled_of_ne (fun text => ?_) (by simp [hcur])
    exact (h.settled.lit text).trans (by rw [hw]; rfl)
  displayDefault _ := display_settles_dflt
  displayR _ := display_settles_r
  displayG _ := display_settles_g
  displayB t ht hcur hlayer := by
    refine display_settles_b ht ?_
    rw [hlayer]
    rwa [press_blobId hcur] at hid

theorem Ready.press (h : Ready a) {k : Keypress}
    (hid : (a.cursors.press k).layerB.shortcutId ≤ kLayerBMaxIndex) :
    Ready (LayerController.press Ideal.devices a k).2 := by
  have hcursors := press_cursors Ideal.devices a k
  refine ⟨(h.handles hid).press, hcursors ▸ h.oneProg.press k, ?_⟩
  rw [← hcursors] at hid
  exact hid

theorem boot_ready (s : Shortcuts) : Ready (Board.boot ⟨s, []⟩) := by
  refine ⟨settled_of_ne (fun text => ?_) (by simp [Board.boot]), boot_oneProg _,
    UInt8.le_iff_toNat_le.mpr (Nat.zero_le _)⟩
  simp [ledsOf, snapshot, banks, Board.boot, Board.cursors, FullState.of, Cursors.prog]

end Leds

end Threeboard.Integration
