import Threeboard.Layers.Display
import Threeboard.Storage.Requests

namespace Threeboard.Layers

open Actions Actions.Action Keys Storage Layer

structure Ideal where
  shortcuts : Shortcuts
  keypresses : List (UInt8 × UInt8)

namespace Ideal

def serve (r : Request) : Action Ideal (Option UInt8) := fun w =>
  let result := w.shortcuts.serve r
  (if result.1.ok then some result.1.output else none,
    ⟨result.2, w.keypresses ++ result.1.keypresses⟩)

def order (r : Request) : Action Ideal Unit := do
  let _ ← serve r
  pure ()

def ask (r : Request) : Action Ideal UInt8 := do
  match ← serve r with
  | some output => pure output
  | none => Action.stop

def storageController : StorageMethods Ideal where
  setCharacterShortcut index character := order (.setCharacter index character)
  getCharacterShortcut index := ask (.getCharacter index)
  appendToWordShortcut index character := order (.appendToWord index character)
  clearWordShortcut index := order (.clearWord index)
  getWordShortcutLength index := ask (.getWordLength index)
  sendWordShortcut index rawModCode := order (.sendWord index rawModCode)
  appendToBlobShortcut index character modcode := order (.appendToBlob index character modcode)
  clearBlobShortcut index := order (.clearBlob index)
  getBlobShortcutLength index := ask (.getBlobLength index)
  sendBlobShortcut index := order (.sendBlob index)

def usbController : UsbController Ideal where
  sendKeypress key mod := Action.modify fun w => { w with keypresses := w.keypresses ++ [(key, mod)] }

def devices : Devices Ideal := ⟨usbController, storageController⟩

end Ideal

section Methods

variable {σ τ : Type}

structure Mirrors (R : σ → τ → Prop) (b : Board σ) (a : Board τ) : Prop where
  currentLayer : b.currentLayer = a.currentLayer
  layerDefault : b.layerDefault = a.layerDefault
  layerR : b.layerR = a.layerR
  layerG : b.layerG = a.layerG
  layerB : b.layerB = a.layerB
  ledState : b.ledState = a.ledState
  world : R b.world a.world

structure Follows (R : σ → τ → Prop) (d : Devices σ) (e : Devices τ) : Prop where
  sendKeypress : ∀ key mod,
    Corres R (d.usbController.sendKeypress key mod) (e.usbController.sendKeypress key mod)
  request : ∀ r : Request, Corres R (r.run d.storageController) (r.run e.storageController)

variable {R : σ → τ → Prop} {d : Devices σ} {e : Devices τ}

theorem Mirrors.cursors {b : Board σ} {a : Board τ} (h : Mirrors R b a) :
    b.cursors = a.cursors := by
  simp only [Board.cursors, h.currentLayer, h.layerDefault, h.layerR, h.layerG, h.layerB]

theorem corres_of_silently {x : Action σ Unit} {y : Action τ Unit}
    (h : Corres R (silently x) (silently y)) : Corres R x y :=
  Corres.of_bind_pure (f := fun _ => none) (fun _ _ _ => rfl) h

theorem corres_of_outputting {x : Action σ UInt8} {y : Action τ UInt8}
    (h : Corres R (outputting x) (outputting y)) : Corres R x y :=
  Corres.of_bind_pure (fun _ _ => Option.some.inj) h

theorem onWorld_mirrors {α : Type} {x : Action σ α} {y : Action τ α} (h : Corres R x y) :
    Corres (Mirrors R) (onWorld x) (onWorld y) := fun b a hba =>
  have hw := h b.world a.world hba.world
  ⟨hw.1, hba.currentLayer, hba.layerDefault, hba.layerR, hba.layerG, hba.layerB, hba.ledState, hw.2⟩

theorem orders_mirror {x : Action σ Unit} {y : Action τ Unit}
    (h : Corres R (silently x) (silently y)) : Corres (Mirrors R) (onWorld x) (onWorld y) :=
  onWorld_mirrors (corres_of_silently h)

theorem asks_mirror {x : Action σ UInt8} {y : Action τ UInt8}
    (h : Corres R (outputting x) (outputting y)) : Corres (Mirrors R) (onWorld x) (onWorld y) :=
  onWorld_mirrors (corres_of_outputting h)

theorem updateLedState_mirrors (prog : Bool) (layerId : LayerId) (bank0 bank1 : UInt8) :
    Corres (Mirrors R) (updateLedState prog layerId bank0 bank1)
      (updateLedState prog layerId bank0 bank1) :=
  Corres.modify fun b a h => { h with ledState := by rw [h.ledState] }

theorem setErr_mirrors (state : Leds.State) :
    Corres (Mirrors R) (Layer.setErr state) (Layer.setErr state) :=
  Corres.modify fun b a h => { h with ledState := by rw [h.ledState] }

theorem sendToHost_mirrors (h : Follows R d e) (key mod : UInt8) : Corres (Mirrors R)
    (sendToHost d.usbController key mod) (sendToHost e.usbController key mod) :=
  Corres.bind (onWorld_mirrors (h.sendKeypress key mod)).attempt fun _ =>
    Corres.ite (setErr_mirrors _) (setErr_mirrors _)

theorem ignoringErrors_mirrors {x : Action σ Unit} {y : Action τ Unit}
    (h : Corres R (silently x) (silently y)) :
    Corres (Mirrors R) (LayerB.ignoringErrors x) (LayerB.ignoringErrors y) :=
  Corres.bind (orders_mirror h).attempt fun _ => Corres.pure ()

theorem LayerR.update_mirrors (f : LayerR → LayerR) :
    Corres (Mirrors R) (LayerR.update f) (LayerR.update f) :=
  Corres.modify fun b a h => { h with layerR := by rw [h.layerR] }

theorem LayerG.update_mirrors (f : LayerG → LayerG) :
    Corres (Mirrors R) (LayerG.update f) (LayerG.update f) :=
  Corres.modify fun b a h => { h with layerG := by rw [h.layerG] }

theorem LayerB.update_mirrors (f : LayerB → LayerB) :
    Corres (Mirrors R) (LayerB.update f) (LayerB.update f) :=
  Corres.modify fun b a h => { h with layerB := by rw [h.layerB] }

theorem DefaultLayer.update_mirrors (f : DefaultLayer → DefaultLayer) :
    Corres (Mirrors R) (DefaultLayer.update f) (DefaultLayer.update f) :=
  Corres.modify fun b a h => { h with layerDefault := by rw [h.layerDefault] }

theorem DefaultLayer.display_mirrors :
    Corres (Mirrors R) DefaultLayer.display DefaultLayer.display :=
  (Corres.gets fun _ _ hba => hba.layerDefault).bind fun _ => updateLedState_mirrors _ _ _ _

variable (h : Follows R d e)

include h

theorem LayerR.display_mirrors : Corres (Mirrors R) (LayerR.display d) (LayerR.display e) :=
  (Corres.gets fun _ _ hba => hba.layerR).bind fun _ => Corres.ite
    ((asks_mirror (h.request (.getCharacter _))).bind fun _ =>
      (LayerR.update_mirrors _).bind fun _ => updateLedState_mirrors _ _ _ _)
    (updateLedState_mirrors _ _ _ _)

theorem LayerG.display_mirrors : Corres (Mirrors R) (LayerG.display d) (LayerG.display e) :=
  (Corres.gets fun _ _ hba => hba.layerG).bind fun _ =>
    (asks_mirror (h.request (.getWordLength _))).bind fun _ =>
      Corres.ite (updateLedState_mirrors _ _ _ _) (updateLedState_mirrors _ _ _ _)

theorem LayerB.display_mirrors : Corres (Mirrors R) (LayerB.display d) (LayerB.display e) :=
  (Corres.gets fun _ _ hba => hba.layerB).bind fun _ => Corres.ite (updateLedState_mirrors _ _ _ _)
    ((asks_mirror (h.request (.getBlobLength _))).bind fun _ => updateLedState_mirrors _ _ _ _)

theorem switchToLayer_mirrors (layerId : LayerId) : Corres (Mirrors R)
    (LayerController.switchToLayer d layerId) (LayerController.switchToLayer e layerId) := by
  refine (Corres.modify fun b a hba => { hba with currentLayer := rfl }).bind fun _ => ?_
  cases layerId with
  | dflt => exact DefaultLayer.display_mirrors
  | r => exact (Corres.gets fun _ _ hba => hba.layerR).bind fun _ => updateLedState_mirrors _ _ _ _
  | g => exact (Corres.gets fun _ _ hba => hba.layerG).bind fun _ =>
      (asks_mirror (h.request (.getWordLength _))).bind fun _ => updateLedState_mirrors _ _ _ _
  | b => exact (Corres.gets fun _ _ hba => hba.layerB).bind fun _ =>
      (asks_mirror (h.request (.getBlobLength _))).bind fun _ => updateLedState_mirrors _ _ _ _

theorem DefaultLayer.onKeypress_mirrors (layer : DefaultLayer) (k : Keypress) :
    Corres (Mirrors R) (layer.onKeypress d k) (layer.onKeypress e k) := by
  cases k with
  | z => exact sendToHost_mirrors h _ _
  | x | y | xz | yz => exact DefaultLayer.update_mirrors _
  | inactive | xy | xyz => exact Corres.pure ()

theorem LayerR.onKeypress_mirrors (layer : LayerR) (k : Keypress) :
    Corres (Mirrors R) (layer.onKeypress d k) (layer.onKeypress e k) := by
  cases k with
  | x => exact Corres.ite ((orders_mirror (h.request (.setCharacter _ _))).bind fun _ =>
      LayerR.update_mirrors _) (LayerR.update_mirrors _)
  | y | yz => exact Corres.ite (LayerR.update_mirrors _) (LayerR.update_mirrors _)
  | z => exact Corres.ite ((asks_mirror (h.request (.getCharacter _))).bind fun _ =>
      sendToHost_mirrors h _ _) (Corres.pure ())
  | xz => exact Corres.ite (orders_mirror (h.request (.setCharacter _ _))) (LayerR.update_mirrors _)
  | xy | xyz => exact LayerR.update_mirrors _
  | inactive => exact Corres.pure ()

theorem LayerG.onKeypress_mirrors (layer : LayerG) (k : Keypress) :
    Corres (Mirrors R) (layer.onKeypress d k) (layer.onKeypress e k) := by
  cases k with
  | x | xz => exact Corres.ite (LayerG.update_mirrors _) (LayerG.update_mirrors _)
  | y | xy => exact Corres.ite (LayerG.update_mirrors _) (Corres.pure ())
  | z =>
    exact Corres.ite (orders_mirror (h.request (.appendToWord _ _)))
      (orders_mirror (h.request (.sendWord _ _)))
  | yz => exact Corres.ite (orders_mirror (h.request (.clearWord _))) (LayerG.update_mirrors _)
  | xyz => exact LayerG.update_mirrors _
  | inactive => exact Corres.pure ()

theorem LayerB.onKeypress_mirrors (layer : LayerB) (k : Keypress) :
    Corres (Mirrors R) (layer.onKeypress d k) (layer.onKeypress e k) := by
  cases k with
  | x | xz => exact Corres.ite (LayerB.update_mirrors _) (LayerB.update_mirrors _)
  | y | yz => exact Corres.ite (LayerB.update_mirrors _) (Corres.pure ())
  | z =>
    exact Corres.ite (ignoringErrors_mirrors (h.request (.appendToBlob _ _ _)))
      (ignoringErrors_mirrors (h.request (.sendBlob _)))
  | xy =>
    exact Corres.ite (ignoringErrors_mirrors (h.request (.clearBlob _)))
      (LayerB.update_mirrors _)
  | xyz => exact LayerB.update_mirrors _
  | inactive => exact Corres.pure ()

theorem handleEvent_mirrors (k : Keypress) : Corres (Mirrors R)
    (LayerController.handleEvent d k) (LayerController.handleEvent e k) := by
  refine (Corres.gets fun _ _ hba => hba.currentLayer).bind fun layerId => ?_
  cases layerId with
  | dflt =>
    exact (Corres.gets fun _ _ hba => hba.layerDefault).bind fun layer =>
      Corres.ite (switchToLayer_mirrors h _)
        ((DefaultLayer.onKeypress_mirrors h layer k).bind fun _ => DefaultLayer.display_mirrors)
  | r =>
    exact (Corres.gets fun _ _ hba => hba.layerR).bind fun layer =>
      Corres.ite (switchToLayer_mirrors h _)
        ((LayerR.onKeypress_mirrors h layer k).bind fun _ => LayerR.display_mirrors h)
  | g =>
    exact (Corres.gets fun _ _ hba => hba.layerG).bind fun layer =>
      Corres.ite (switchToLayer_mirrors h _)
        ((LayerG.onKeypress_mirrors h layer k).bind fun _ => LayerG.display_mirrors h)
  | b =>
    exact (Corres.gets fun _ _ hba => hba.layerB).bind fun layer =>
      Corres.ite (switchToLayer_mirrors h _)
        ((LayerB.onKeypress_mirrors h layer k).bind fun _ => LayerB.display_mirrors h)

end Methods

namespace Ideal

variable {w : Ideal} {r : Request}

theorem silently_order (h : (w.shortcuts.serve r).1.output = none) :
    silently (order r) w = serve r w := by
  rcases hrun : serve r w with ⟨_ | output, t⟩
  · exact bind_of_none (bind_of_none hrun _) _
  · have hnone : output = none := by
      have hval := congrArg Prod.fst hrun
      simp only [serve, h] at hval
      split at hval <;> simp_all
    rw [hnone]
    exact bind_of_some (bind_of_some hrun _) _

theorem outputting_ask (h : (w.shortcuts.serve r).1.ok → (w.shortcuts.serve r).1.output ≠ none) :
    outputting (ask r) w = serve r w := by
  cases hok : (w.shortcuts.serve r).1.ok with
  | false => simp [outputting, ask, bind_run, serve, hok]
  | true =>
    obtain ⟨v, hv⟩ := Option.ne_none_iff_exists'.mp (h hok)
    simp [outputting, ask, bind_run, serve, hok, hv]

theorem run_eq_serve (r : Request) : r.run storageController = serve r := by
  funext w
  cases r with
  | setCharacter | clearWord | sendWord => exact silently_order rfl
  | appendToWord =>
    refine silently_order ?_
    simp only [Shortcuts.serve]
    split <;> rfl
  | appendToBlob =>
    refine silently_order ?_
    simp only [Shortcuts.serve, Shortcuts.serveBlob]
    split
    · split <;> rfl
    · rfl
  | clearBlob | sendBlob =>
    refine silently_order ?_
    simp only [Shortcuts.serve, Shortcuts.serveBlob]
    split <;> rfl
  | getCharacter | getWordLength => exact outputting_ask fun _ => by simp [Shortcuts.serve, Response.value]
  | getBlobLength =>
    refine outputting_ask ?_
    simp only [Shortcuts.serve, Shortcuts.serveBlob]
    split <;> simp [Response.value, Response.rejected]

end Ideal

structure Faultless (b : Bench) (w : Ideal) : Prop where
  represents : Represents b.view w.shortcuts
  calm : b.Calm
  keypresses : b.keypresses = w.keypresses

theorem sendKeypress_follows (key mod : UInt8) : Corres Faultless
    (Bench.usbController.sendKeypress key mod) (Ideal.usbController.sendKeypress key mod) := by
  intro b w h
  have hspec := Bench.sendKeypress_spec key mod b
  rcases hrun : Bench.usbController.sendKeypress key mod b with ⟨_ | _, t⟩
  · exact ((wp_none hspec hrun).2.1 h.calm).elim
  · obtain ⟨hview, hcalm, hkeys⟩ := wp_some hspec hrun
    exact ⟨rfl, by rw [hview]; exact h.represents, hcalm h.calm, by rw [hkeys, h.keypresses]; rfl⟩

theorem request_follows (r : Request) :
    Corres Faultless (r.run Bench.controller.methods) (Ideal.serve r) := by
  intro b w h
  have hspec := Bench.serve_spec h.represents r
  rcases hrun : r.run Bench.controller.methods b with ⟨_ | output, t⟩
  · have hfail := wp_none hspec hrun
    obtain ⟨hserve, hkeys, hcalm⟩ := hfail.refused h.calm
    simp only [Ideal.serve, hserve]
    exact ⟨rfl, hfail.represents, hcalm, by rw [hkeys, h.keypresses]; exact (List.append_nil _).symm⟩
  · have hsucc := wp_some hspec hrun
    have hresp := hsucc.response
    refine ⟨?_, hsucc.represents, hsucc.calm h.calm, by rw [hsucc.keypresses, h.keypresses]; rfl⟩
    simp only [Ideal.serve, congrArg Response.ok hresp, congrArg Response.output hresp, if_true]

theorem follows_ideal : Follows Faultless faultyDevices Ideal.devices :=
  ⟨sendKeypress_follows, fun r => by
    rw [Ideal.devices, Ideal.run_eq_serve]
    exact request_follows r⟩

end Threeboard.Layers
