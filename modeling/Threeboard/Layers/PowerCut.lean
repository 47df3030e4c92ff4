import Threeboard.Layers.Ideal
import Threeboard.Layers.Modes
import Threeboard.Storage.PowerCut

namespace Threeboard.Layers

open Actions Actions.Action Keys Storage Layer

def handle {σ : Type} (d : Devices σ) (b : Board σ) (presses : List Keypress) : Board σ :=
  presses.foldl (fun b k => (LayerController.press d b k).2) b

structure PowerSession where
  presses : List Keypress
  power : ℕ
  residue : UInt8

def PowerSession.boot (session : PowerSession) (memory : Memory) : Board Bench :=
  Board.boot (.start memory (untilCut session.power session.residue))

-- What the chips hold when the keyboard is plugged in the next time; without power nothing is
-- stored.
def PowerSession.memoryLeft (session : PowerSession) (memory : Memory) : Memory :=
  (handle flakyDevices (session.boot memory) session.presses).world.memory

def remembered (s : Shortcuts) (presses : List Keypress) : Shortcuts :=
  (handle Ideal.devices (Board.boot ⟨s, []⟩) presses).world.shortcuts

def Live (b : Bench) (w : Ideal) : Prop := b.Powered ∧ Represents b.view w.shortcuts

section Rules

variable {α β : Type}

structure Silent (x : Action (Board Bench) α) (y : Action (Board Ideal) α) : Prop where
  run : ∀ b a, Mirrors Live b a →
    ((x b).1 = (y a).1 ∧ Mirrors Live (x b).2 (y a).2) ∨ Bench.Lost a.world.shortcuts (x b).2.world
  same : ∀ a, (y a).2.world.shortcuts = a.world.shortcuts
  dead : ∀ s, Keeps (World (Bench.Lost s)) x

structure Atomic (x : Action (Board Bench) α) (y : Action (Board Ideal) α) : Prop where
  run : ∀ b a, Mirrors Live b a → ((x b).1 = (y a).1 ∧ Mirrors Live (x b).2 (y a).2) ∨
    Bench.Lost a.world.shortcuts (x b).2.world ∨ Bench.Lost (y a).2.world.shortcuts (x b).2.world
  dead : ∀ s, Keeps (World (Bench.Lost s)) x

variable {x x' : Action (Board Bench) α} {y y' : Action (Board Ideal) α}
  {f : α → Action (Board Bench) β} {g : α → Action (Board Ideal) β}

theorem Silent.atomic (h : Silent x y) : Atomic x y where
  run b a hba := (h.run b a hba).imp id .inl
  dead := h.dead

theorem Silent.of_corres (h : Corres (Mirrors Live) x y)
    (hsame : ∀ a, (y a).2.world.shortcuts = a.world.shortcuts)
    (hworld : ∀ b, (x b).2.world = b.world) : Silent x y where
  run b a hba := .inl (h b a hba)
  same := hsame
  dead s b hb := by
    rw [World, hworld b]
    exact hb

theorem Silent.ite {c : Prop} [Decidable c] (h : Silent x y) (h' : Silent x' y') :
    Silent (if c then x else x') (if c then y else y') := by
  split <;> assumption

theorem Atomic.ite {c : Prop} [Decidable c] (h : Atomic x y) (h' : Atomic x' y') :
    Atomic (if c then x else x') (if c then y else y') := by
  split <;> assumption

theorem Silent.attempt (h : Silent x y) : Silent (Action.attempt x) (Action.attempt y) where
  run b a hba := (h.run b a hba).imp (fun hrun => ⟨by simp only [attempt_run, hrun.1], hrun.2⟩) id
  same := h.same
  dead s := Keeps.attempt (h.dead s)

theorem Atomic.attempt (h : Atomic x y) : Atomic (Action.attempt x) (Action.attempt y) where
  run b a hba := (h.run b a hba).imp (fun hrun => ⟨by simp only [attempt_run, hrun.1], hrun.2⟩) id
  dead s := Keeps.attempt (h.dead s)

theorem same_bind (hf : ∀ v a, (g v a).2.world.shortcuts = a.world.shortcuts) (a : Board Ideal) :
    ((y >>= g) a).2.world.shortcuts = (y a).2.world.shortcuts := by
  rcases hy : y a with ⟨_ | v, t⟩
  · rw [bind_of_none hy]
  · rw [bind_of_some hy]
    exact hf v t

theorem Atomic.bind (h : Atomic x y) (hf : ∀ v, Silent (f v) (g v)) : Atomic (x >>= f) (y >>= g) where
  run b a hba := by
    have hsame := same_bind (y := y) (fun v => (hf v).same) a
    rcases h.run b a hba with ⟨hvalue, hnext⟩ | hlost | hlost
    · rcases hx : x b with ⟨_ | v, t⟩ <;> rcases hy : y a with ⟨_ | u, r⟩ <;>
        simp only [hx, hy, reduceCtorEq, Option.some.injEq] at hvalue hnext
      · rw [bind_of_none hx, bind_of_none hy]
        exact .inl ⟨rfl, hnext⟩
      · subst hvalue
        rw [bind_of_some hx, bind_of_some hy]
        refine ((hf v).run t r hnext).imp id fun hlost => .inr ?_
        rw [(hf v).same r]
        exact hlost
    · exact .inr (.inl (keeps_after hlost fun v => (hf v).dead _))
    · refine .inr (.inr ?_)
      rw [hsame]
      exact keeps_after hlost fun v => (hf v).dead _
  dead s := (h.dead s).bind fun v => (hf v).dead s

theorem Silent.bind (h : Silent x y) (hf : ∀ v, Silent (f v) (g v)) : Silent (x >>= f) (y >>= g) where
  run b a hba := by
    have hsame := (same_bind (y := y) (fun v => (hf v).same) a).trans (h.same a)
    refine ((h.atomic.bind hf).run b a hba).imp id fun hlost => hlost.elim id fun hlost => ?_
    rwa [hsame] at hlost
  same a := (same_bind (fun v => (hf v).same) a).trans (h.same a)
  dead s := (h.dead s).bind fun v => (hf v).dead s

theorem Silent.then (h : Silent x y) (hf : ∀ v, Atomic (f v) (g v)) :
    Atomic (x >>= f) (y >>= g) where
  run b a hba := by
    have hsame := h.same a
    rcases h.run b a hba with ⟨hvalue, hnext⟩ | hlost
    · rcases hx : x b with ⟨_ | v, t⟩ <;> rcases hy : y a with ⟨_ | u, r⟩ <;>
        simp only [hx, hy, reduceCtorEq, Option.some.injEq] at hvalue hnext hsame
      · rw [bind_of_none hx, bind_of_none hy]
        exact .inl ⟨rfl, hnext⟩
      · subst hvalue
        rw [bind_of_some hx, bind_of_some hy, ← hsame]
        exact (hf v).run t r hnext
    · exact .inr (.inl (keeps_after hlost fun v => (hf v).dead _))
  dead s := (h.dead s).bind fun v => (hf v).dead s

end Rules

section Handling

theorem keeps_lost {α : Type} {x : Action Bench α} (h : ∀ v, Keeps (Bench.Cut v) x)
    (s : Shortcuts) : Keeps (Bench.Lost s) x := fun b hb => (h b.view b ⟨rfl, hb.dead⟩).lost hb.represents

theorem serve_same {s : Shortcuts} {r : Request} (h : r.target = none) : (s.serve r).2 = s := by
  cases r with
  | setCharacter | appendToWord | clearWord | appendToBlob | clearBlob => cases h
  | getCharacter | getWordLength | sendWord => rfl
  | getBlobLength | sendBlob =>
    rw [Shortcuts.serve, Shortcuts.serveBlob]
    split <;> rfl

structure Cuttable {α : Type} (x : Action Bench α) (y : Action Ideal α) : Prop where
  run : ∀ b w, Live b w →
    ((x b).1 = (y w).1 ∧ Live (x b).2 (y w).2) ∨ Bench.Lost w.shortcuts (x b).2
  dead : ∀ s, Keeps (Bench.Lost s) x

theorem request_cuttable (r : Request) : Cuttable (r.run flakyDevices.storageController)
    (r.run Ideal.devices.storageController) where
  run b w h := by
    have hspec := Bench.request_cut h.1 h.2 r
    change ((r.run Bench.flakyController.methods b).1 = (r.run Ideal.storageController w).1 ∧
      Live (r.run Bench.flakyController.methods b).2 (r.run Ideal.storageController w).2) ∨ _
    rw [Ideal.run_eq_serve, Ideal.serve]
    rcases hrun : r.run Bench.flakyController.methods b with ⟨_ | output, t⟩
    · refine (wp_none hspec hrun).imp (fun hrefused => ⟨?_, hrefused.powered, hrefused.represents⟩) ?_
      · simp [hrefused.ok]
      · intro hlost
        change Bench.Lost w.shortcuts (r.run Bench.flakyController.methods b).2
        rwa [hrun]
    · have hanswered := wp_some hspec hrun
      refine .inl ⟨?_, hanswered.powered, hanswered.represents⟩
      simp [hanswered.ok, hanswered.output]
  dead := keeps_lost fun _ => Bench.request_dead r

theorem sendKeypress_cuttable (key mod : UInt8) :
    Cuttable (flakyDevices.usbController.sendKeypress key mod)
      (Ideal.devices.usbController.sendKeypress key mod) where
  run b w h := by
    have hspec := Bench.sendKeypress_cut h.1 key mod
    change ((Bench.usbController.sendKeypress key mod b).1 = some () ∧
      Live (Bench.usbController.sendKeypress key mod b).2 _) ∨
        Bench.Lost w.shortcuts (Bench.usbController.sendKeypress key mod b).2
    rcases hrun : Bench.usbController.sendKeypress key mod b with ⟨_ | _, t⟩
    · exact .inr ((wp_none hspec hrun).lost h.2)
    · have hdone := wp_some hspec hrun
      exact .inl ⟨rfl, hdone.powered, by rw [hdone.view]; exact h.2⟩
  dead := keeps_lost fun _ => Bench.sendKeypress_dead key mod

variable {α β : Type} {x : Action Bench α} {y : Action Ideal α}

theorem Cuttable.of_bind_pure {f : α → β} (hf : Function.Injective f)
    (h : Cuttable (x >>= fun a => pure (f a)) (y >>= fun a => pure (f a))) : Cuttable x y where
  run b w hbw := by
    have hrun := h.run b w hbw
    rw [bind_pure_value, bind_pure_value, bind_pure_state, bind_pure_state] at hrun
    exact hrun.imp (fun hlive => ⟨Option.map_injective hf hlive.1, hlive.2⟩) id
  dead s := Keeps.of_bind_pure (h.dead s)

theorem Cuttable.atomic (h : Cuttable x y) : Atomic (onWorld x) (onWorld y) where
  run b a hba := (h.run b.world a.world hba.world).imp (fun hlive => ⟨hlive.1, hba.currentLayer,
    hba.layerDefault, hba.layerR, hba.layerG, hba.layerB, hba.ledState, hlive.2⟩) .inl
  dead s := onWorld_keeps (h.dead s)

theorem Cuttable.silent (h : Cuttable x y) (hsame : ∀ w, (y w).2.shortcuts = w.shortcuts) :
    Silent (onWorld x) (onWorld y) where
  run b a hba := (h.atomic.run b a hba).imp id fun hlost => hlost.elim id fun hlost => by
    have hstored : (onWorld y a).2.world.shortcuts = a.world.shortcuts := hsame a.world
    rwa [hstored] at hlost
  same a := hsame a.world
  dead := h.atomic.dead

theorem orders_cuttable {x : Action Bench Unit} {y : Action Ideal Unit}
    (h : Cuttable (silently x) (silently y)) : Cuttable x y :=
  h.of_bind_pure (f := fun _ => none) fun _ _ _ => rfl

theorem asks_cuttable {x : Action Bench UInt8} {y : Action Ideal UInt8}
    (h : Cuttable (outputting x) (outputting y)) : Cuttable x y :=
  h.of_bind_pure fun _ _ => Option.some.inj

theorem sendToHost_silent (key mod : UInt8) : Silent
    (sendToHost flakyDevices.usbController key mod)
    (sendToHost Ideal.devices.usbController key mod) := by
  have hsend : Silent _ _ := ((sendKeypress_cuttable key mod).silent fun _ => rfl).attempt
  refine hsend.bind fun _ => Silent.ite ?_ ?_ <;>
    exact .of_corres (setErr_mirrors _) (fun _ => rfl) fun _ => rfl

theorem ignoringErrors_atomic {x : Action Bench Unit} {y : Action Ideal Unit} (h : Cuttable x y) :
    Atomic (LayerB.ignoringErrors x) (LayerB.ignoringErrors y) :=
  h.atomic.attempt.bind fun _ => .of_corres (Corres.pure ()) (fun _ => rfl) fun _ => rfl

theorem ram_silent {x : Action (Board Bench) Unit} {y : Action (Board Ideal) Unit}
    (h : Corres (Mirrors Live) x y) (hx : ∀ b, (x b).2.world = b.world := by exact fun _ => rfl)
    (hy : ∀ a, (y a).2.world = a.world := by exact fun _ => rfl) : Silent x y :=
  .of_corres h (fun a => congrArg Ideal.shortcuts (hy a)) hx

theorem updateLedState_silent (prog : Bool) (layerId : LayerId) (bank0 bank1 : UInt8) :
    Silent (updateLedState prog layerId bank0 bank1) (updateLedState prog layerId bank0 bank1) :=
  ram_silent (updateLedState_mirrors _ _ _ _)

theorem gets_silent {α : Type} {f : Board Bench → α} {g : Board Ideal → α}
    (h : ∀ b a, Mirrors Live b a → f b = g a) : Silent (Action.gets f) (Action.gets g) :=
  .of_corres (Corres.gets h) (fun _ => rfl) fun _ => rfl

theorem asking_silent {x : Action Bench UInt8} {y : Action Ideal UInt8}
    (h : Cuttable (outputting x) (outputting y))
    (hsame : ∀ w, (outputting y w).2.shortcuts = w.shortcuts) : Silent (onWorld x) (onWorld y) :=
  (asks_cuttable h).silent fun w => (congrArg Ideal.shortcuts (bind_pure_state y some w)).symm.trans (hsame w)

theorem run_same {r : Request} (h : r.target = none) (w : Ideal) :
    (r.run Ideal.devices.storageController w).2.shortcuts = w.shortcuts := by
  change (r.run Ideal.storageController w).2.shortcuts = _
  rw [Ideal.run_eq_serve]
  exact serve_same h

theorem getCharacter_silent (id : UInt8) :
    Silent (onWorld (flakyDevices.storageController.getCharacterShortcut id))
      (onWorld (Ideal.devices.storageController.getCharacterShortcut id)) :=
  asking_silent (request_cuttable (.getCharacter id)) (run_same (r := .getCharacter id) rfl)

theorem getWordLength_silent (id : UInt8) :
    Silent (onWorld (flakyDevices.storageController.getWordShortcutLength id))
      (onWorld (Ideal.devices.storageController.getWordShortcutLength id)) :=
  asking_silent (request_cuttable (.getWordLength id)) (run_same (r := .getWordLength id) rfl)

theorem getBlobLength_silent (id : UInt8) :
    Silent (onWorld (flakyDevices.storageController.getBlobShortcutLength id))
      (onWorld (Ideal.devices.storageController.getBlobShortcutLength id)) :=
  asking_silent (request_cuttable (.getBlobLength id)) (run_same (r := .getBlobLength id) rfl)

theorem LayerR.display_silent :
    Silent (LayerR.display flakyDevices) (LayerR.display Ideal.devices) :=
  (gets_silent fun _ _ h => h.layerR).bind fun layer => Silent.ite
    ((getCharacter_silent _).bind fun _ => (ram_silent (LayerR.update_mirrors _)).bind fun _ =>
      updateLedState_silent _ _ _ _)
    (updateLedState_silent _ _ _ _)

theorem LayerG.display_silent :
    Silent (LayerG.display flakyDevices) (LayerG.display Ideal.devices) :=
  (gets_silent fun _ _ h => h.layerG).bind fun _ => (getWordLength_silent _).bind fun _ =>
    Silent.ite (updateLedState_silent _ _ _ _) (updateLedState_silent _ _ _ _)

theorem LayerB.display_silent :
    Silent (LayerB.display flakyDevices) (LayerB.display Ideal.devices) :=
  (gets_silent fun _ _ h => h.layerB).bind fun _ => Silent.ite (updateLedState_silent _ _ _ _)
    ((getBlobLength_silent _).bind fun _ => updateLedState_silent _ _ _ _)

theorem switchToLayer_silent (layerId : LayerId) :
    Silent (LayerController.switchToLayer flakyDevices layerId)
      (LayerController.switchToLayer Ideal.devices layerId) := by
  have hswitch : Silent (Action.modify fun b : Board Bench => { b with currentLayer := layerId })
      (Action.modify fun a : Board Ideal => { a with currentLayer := layerId }) :=
    ram_silent (Corres.modify fun _ _ h => { h with currentLayer := rfl })
  refine hswitch.bind fun _ => ?_
  cases layerId with
  | dflt => exact ram_silent DefaultLayer.display_mirrors
  | r => exact (gets_silent fun _ _ h => h.layerR).bind fun _ => updateLedState_silent _ _ _ _
  | g => exact (gets_silent fun _ _ h => h.layerG).bind fun _ =>
      (getWordLength_silent _).bind fun _ => updateLedState_silent _ _ _ _
  | b => exact (gets_silent fun _ _ h => h.layerB).bind fun _ =>
      (getBlobLength_silent _).bind fun _ => updateLedState_silent _ _ _ _

theorem pure_silent : Silent (pure () : Action (Board Bench) Unit) (pure ()) :=
  ram_silent (Corres.pure ())

theorem order_atomic {x : Action Bench Unit} {y : Action Ideal Unit}
    (h : Cuttable (silently x) (silently y)) : Atomic (onWorld x) (onWorld y) :=
  (orders_cuttable h).atomic

theorem DefaultLayer.onKeypress_atomic (layer : DefaultLayer) (k : Keypress) :
    Atomic (layer.onKeypress flakyDevices k) (layer.onKeypress Ideal.devices k) := by
  cases k <;> dsimp only [DefaultLayer.onKeypress]
  case z => exact (sendToHost_silent _ _).atomic
  case x | y | xz | yz => exact (ram_silent (DefaultLayer.update_mirrors _)).atomic
  case inactive | xy | xyz => exact pure_silent.atomic

theorem LayerR.onKeypress_atomic (layer : LayerR) (k : Keypress) :
    Atomic (layer.onKeypress flakyDevices k) (layer.onKeypress Ideal.devices k) := by
  have hupdate (f : LayerR → LayerR) :
      Silent (LayerR.update (σ := Bench) f) (LayerR.update (σ := Ideal) f) :=
    ram_silent (LayerR.update_mirrors f)
  cases k <;> dsimp only [LayerR.onKeypress]
  case x =>
    refine Atomic.ite (Atomic.bind (order_atomic ?_) fun _ => hupdate _) (hupdate _).atomic
    exact request_cuttable (.setCharacter _ _)
  case z =>
    refine Atomic.ite (Silent.atomic ?_) pure_silent.atomic
    exact (getCharacter_silent _).bind fun _ => sendToHost_silent _ _
  case xz =>
    refine Atomic.ite (order_atomic ?_) (hupdate _).atomic
    exact request_cuttable (.setCharacter _ _)
  case y | yz => exact Atomic.ite (hupdate _).atomic (hupdate _).atomic
  case xy | xyz => exact (hupdate _).atomic
  case inactive => exact pure_silent.atomic

theorem LayerG.onKeypress_atomic (layer : LayerG) (k : Keypress) :
    Atomic (layer.onKeypress flakyDevices k) (layer.onKeypress Ideal.devices k) := by
  have hupdate (f : LayerG → LayerG) :
      Silent (LayerG.update (σ := Bench) f) (LayerG.update (σ := Ideal) f) :=
    ram_silent (LayerG.update_mirrors f)
  cases k <;> dsimp only [LayerG.onKeypress]
  case x | xz => exact Atomic.ite (hupdate _).atomic (hupdate _).atomic
  case y | xy => exact Atomic.ite (hupdate _).atomic pure_silent.atomic
  case z =>
    refine Atomic.ite (order_atomic ?_) (order_atomic ?_)
    · exact request_cuttable (.appendToWord _ _)
    · exact request_cuttable (.sendWord _ _)
  case yz =>
    refine Atomic.ite (order_atomic ?_) (hupdate _).atomic
    exact request_cuttable (.clearWord _)
  case xyz => exact (hupdate _).atomic
  case inactive => exact pure_silent.atomic

theorem LayerB.onKeypress_atomic (layer : LayerB) (k : Keypress) :
    Atomic (layer.onKeypress flakyDevices k) (layer.onKeypress Ideal.devices k) := by
  have hupdate (f : LayerB → LayerB) :
      Silent (LayerB.update (σ := Bench) f) (LayerB.update (σ := Ideal) f) :=
    ram_silent (LayerB.update_mirrors f)
  cases k <;> dsimp only [LayerB.onKeypress]
  case x | xz => exact Atomic.ite (hupdate _).atomic (hupdate _).atomic
  case y | yz => exact Atomic.ite (hupdate _).atomic pure_silent.atomic
  case z =>
    refine Atomic.ite (ignoringErrors_atomic (orders_cuttable ?_))
      (ignoringErrors_atomic (orders_cuttable ?_))
    · exact request_cuttable (.appendToBlob _ _ _)
    · exact request_cuttable (.sendBlob _)
  case xy =>
    refine Atomic.ite (ignoringErrors_atomic (orders_cuttable ?_)) (hupdate _).atomic
    exact request_cuttable (.clearBlob _)
  case xyz => exact (hupdate _).atomic
  case inactive => exact pure_silent.atomic

theorem handleEvent_atomic (k : Keypress) : Atomic (LayerController.handleEvent flakyDevices k)
    (LayerController.handleEvent Ideal.devices k) := by
  refine (gets_silent fun _ _ h => h.currentLayer).then fun layerId => ?_
  cases layerId with
  | dflt =>
    refine (gets_silent fun _ _ h => h.layerDefault).then fun layer => ?_
    refine Atomic.ite (switchToLayer_silent .r).atomic ?_
    exact (DefaultLayer.onKeypress_atomic layer k).bind fun _ =>
      ram_silent DefaultLayer.display_mirrors
  | r =>
    refine (gets_silent fun _ _ h => h.layerR).then fun layer => ?_
    refine Atomic.ite (switchToLayer_silent .g).atomic ?_
    exact (LayerR.onKeypress_atomic layer k).bind fun _ => LayerR.display_silent
  | g =>
    refine (gets_silent fun _ _ h => h.layerG).then fun layer => ?_
    refine Atomic.ite (switchToLayer_silent .b).atomic ?_
    exact (LayerG.onKeypress_atomic layer k).bind fun _ => LayerG.display_silent
  | b =>
    refine (gets_silent fun _ _ h => h.layerB).then fun layer => ?_
    refine Atomic.ite (switchToLayer_silent .dflt).atomic ?_
    exact (LayerB.onKeypress_atomic layer k).bind fun _ => LayerB.display_silent

end Handling

section Sessions

variable {s : Shortcuts}

theorem handle_dead {b : Board Bench} (h : b.world.Lost s) (presses : List Keypress) :
    (handle flakyDevices b presses).world.Lost s := by
  induction presses generalizing b with
  | nil => exact h
  | cons k rest ih => exact ih ((handleEvent_atomic k).dead s b h)

structure Counts (b : Board Bench) (presses : List Keypress) (n : ℕ) : Prop where
  length : n ≤ presses.length
  handled : ∀ m ≤ presses.length,
    (handle flakyDevices b (presses.take m)).world.Powered → m ≤ n
  cut : ∀ m ≤ presses.length, (handle flakyDevices b (presses.take m)).world.Dead → n ≤ m

theorem presses_count {b : Board Bench} {a : Board Ideal} (h : Mirrors Live b a)
    (presses : List Keypress) : ∃ n, Counts b presses n ∧
      Represents (handle flakyDevices b presses).world.view
        (handle Ideal.devices a (presses.take n)).world.shortcuts := by
  induction presses generalizing b a with
  | nil => exact ⟨0, ⟨le_rfl, fun m hm _ => hm, fun m _ _ => Nat.zero_le m⟩, h.world.2⟩
  | cons k rest ih =>
    have hlost (s : Shortcuts) (hs : (LayerController.press flakyDevices b k).2.world.Lost s)
        (m : ℕ) : (handle flakyDevices b ((k :: rest).take (m + 1))).world.Lost s :=
      handle_dead hs (rest.take m)
    rcases (handleEvent_atomic k).run b a h with ⟨-, hnext⟩ | hs | hs
    · obtain ⟨n, hcounts, hrepresents⟩ := ih hnext
      refine ⟨n + 1, ⟨Nat.succ_le_succ hcounts.length, fun m hm hpowered => ?_,
        fun m hm hdead => ?_⟩, hrepresents⟩
      · cases m with
        | zero => exact Nat.zero_le _
        | succ m => exact Nat.succ_le_succ (hcounts.handled m (Nat.le_of_succ_le_succ hm) hpowered)
      · cases m with
        | zero => exact (h.world.1.not_dead hdead).elim
        | succ m => exact Nat.succ_le_succ (hcounts.cut m (Nat.le_of_succ_le_succ hm) hdead)
    · refine ⟨0, ⟨Nat.zero_le _, fun m _ hpowered => ?_, fun m _ _ => Nat.zero_le m⟩,
        (handle_dead hs rest).represents⟩
      cases m with
      | zero => exact le_rfl
      | succ m => exact (hpowered.not_dead (hlost _ hs m).dead).elim
    · refine ⟨1, ⟨by simp, fun m _ hpowered => ?_, fun m _ hdead => ?_⟩,
        (handle_dead hs rest).represents⟩
      · cases m with
        | zero => exact Nat.zero_le _
        | succ m => exact (hpowered.not_dead (hlost _ hs m).dead).elim
      · cases m with
        | zero => exact (h.world.1.not_dead hdead).elim
        | succ m => exact Nat.succ_le_succ (Nat.zero_le m)

def Survives : Memory → Shortcuts → List PowerSession → Prop
  | _, _, [] => True
  | memory, s, session :: rest => ∃ n, Counts (session.boot memory) session.presses n ∧
      Represents (layout.view (session.memoryLeft memory))
        (remembered s (session.presses.take n)) ∧
      Survives (session.memoryLeft memory) (remembered s (session.presses.take n)) rest

theorem survives {memory : Memory} (h : Represents (layout.view memory) s)
    (sessions : List PowerSession) : Survives memory s sessions := by
  induction sessions generalizing memory s with
  | nil => trivial
  | cons session rest ih =>
    have hboot : Mirrors Live (session.boot memory) (Board.boot ⟨s, []⟩) :=
      ⟨rfl, rfl, rfl, rfl, rfl, rfl, Bench.Powered.start memory session.power session.residue, h⟩
    obtain ⟨n, hcounts, hrepresents⟩ := presses_count hboot session.presses
    exact ⟨n, hcounts, hrepresents, ih hrepresents⟩

-- Whenever the keyboard is unplugged, it finds the next time what the keypresses have stored that it
-- had handled, the one it was handling wholly or not at all.
theorem power_cuts_survived (sessions : List PowerSession) :
    Survives erased Shortcuts.empty sessions := by
  have herased : layout.view erased = fun _ => 0 := Bench.view_erased fun _ => .succeed
  exact survives (herased ▸ represents_empty) sessions

end Sessions

end Threeboard.Layers
