import Threeboard.Layers.Ideal

namespace Threeboard.Layers

open Actions Actions.Action Keys Storage Layer

structure Watched (σ : Type) where
  world : σ
  results : List Bool

variable {σ α : Type}

def watch (x : Action σ α) : Action (Watched σ) α := fun w =>
  ((x w.world).1, ⟨(x w.world).2, w.results ++ [(x w.world).1.isSome]⟩)

def unwatched (x : Action σ α) : Action (Watched σ) α :=
  Action.zoom Watched.world (fun world w => { w with world }) x

def watchedStorage (c : StorageMethods σ) : StorageMethods (Watched σ) where
  setCharacterShortcut index character := watch (c.setCharacterShortcut index character)
  getCharacterShortcut index := watch (c.getCharacterShortcut index)
  appendToWordShortcut index character := watch (c.appendToWordShortcut index character)
  clearWordShortcut index := watch (c.clearWordShortcut index)
  getWordShortcutLength index := watch (c.getWordShortcutLength index)
  sendWordShortcut index rawModCode := watch (c.sendWordShortcut index rawModCode)
  appendToBlobShortcut index character modcode :=
    watch (c.appendToBlobShortcut index character modcode)
  clearBlobShortcut index := watch (c.clearBlobShortcut index)
  getBlobShortcutLength index := watch (c.getBlobShortcutLength index)
  sendBlobShortcut index := watch (c.sendBlobShortcut index)

def Devices.watched (d : Devices σ) : Devices (Watched σ) where
  usbController := ⟨fun key mod => unwatched (d.usbController.sendKeypress key mod)⟩
  storageController := watchedStorage d.storageController

def Board.watched (b : Board σ) (results : List Bool) : Board (Watched σ) where
  currentLayer := b.currentLayer
  layerDefault := b.layerDefault
  layerR := b.layerR
  layerG := b.layerG
  layerB := b.layerB
  ledState := b.ledState
  world := ⟨b.world, results⟩

def storageResults (d : Devices σ) (b : Board σ) (k : Keypress) : List Bool :=
  (LayerController.press d.watched (b.watched []) k).2.world.results

section Erasure

def Erases (w : Watched σ) (s : σ) : Prop := w.world = s

theorem watch_erases (x : Action σ α) : Corres Erases (watch x) x := by
  rintro w s rfl
  exact ⟨rfl, rfl⟩

theorem watched_follows (d : Devices σ) : Follows Erases d.watched d where
  sendKeypress key mod := by
    rintro w s rfl
    exact ⟨rfl, rfl⟩
  request r := by
    cases r <;> exact Corres.bind (watch_erases _) fun _ => Corres.pure _

theorem watched_mirrors (b : Board σ) (results : List Bool) :
    Mirrors Erases (b.watched results) b := ⟨rfl, rfl, rfl, rfl, rfl, rfl, rfl⟩

theorem watched_press (d : Devices σ) (b : Board σ) (k : Keypress) :
    (LayerController.press d.watched (b.watched []) k).1 = (LayerController.press d b k).1 := by
  have h := (handleEvent_mirrors (watched_follows d) k (b.watched []) b (watched_mirrors b [])).1
  exact congrArg Option.isSome h

end Erasure

section Honesty

def HonestAt (x : Action (Board (Watched σ)) α) (b : Board (Watched σ)) : Prop :=
  ∃ added, (x b).2.world.results = b.world.results ++ added ∧ ((x b).1 = none ↔ false ∈ added)

def Honest (x : Action (Board (Watched σ)) α) : Prop := ∀ b, HonestAt x b

variable {β : Type} {d : Devices σ}

theorem Honest.of_sure {x : Action (Board (Watched σ)) α} (hsure : ∀ b, (x b).1 ≠ none)
    (hresults : ∀ b, (x b).2.world.results = b.world.results) : Honest x :=
  fun b => ⟨[], by simpa using hresults b, by simpa using hsure b⟩

theorem Honest.pure (a : α) : Honest (Pure.pure a : Action (Board (Watched σ)) α) :=
  .of_sure (by simp) fun _ => rfl

theorem Honest.gets (f : Board (Watched σ) → α) : Honest (Action.gets f) :=
  .of_sure (by simp) fun _ => rfl

theorem Honest.modify {f : Board (Watched σ) → Board (Watched σ)}
    (h : ∀ b, (f b).world.results = b.world.results) : Honest (Action.modify f) :=
  .of_sure (by simp) h

theorem Honest.bind {x : Action (Board (Watched σ)) α} {f : α → Action (Board (Watched σ)) β}
    (hx : Honest x) (hf : ∀ a, Honest (f a)) : Honest (x >>= f) := by
  intro b
  obtain ⟨added, hadded, hfails⟩ := hx b
  rcases h : x b with ⟨_ | a, t⟩
  · rw [h] at hadded hfails
    exact ⟨added, by rw [bind_of_none h, hadded], by simpa [bind_of_none h] using hfails⟩
  · rw [h] at hadded hfails
    obtain ⟨more, hmore, hfails'⟩ := hf a t
    refine ⟨added ++ more, by rw [bind_of_some h, hmore, hadded, List.append_assoc], ?_⟩
    have hnone : false ∉ added := fun hmem => absurd (hfails.mpr hmem) (by simp)
    rw [bind_of_some h, hfails', List.mem_append, or_iff_right hnone]

theorem Honest.ite {c : Prop} [Decidable c] {x y : Action (Board (Watched σ)) α} (hx : Honest x)
    (hy : Honest y) : Honest (if c then x else y) := by
  split <;> assumption

theorem Honest.watch (x : Action σ α) : Honest (onWorld (watch x)) := by
  intro b
  refine ⟨[(x b.world.world).1.isSome], rfl, ?_⟩
  change (x b.world.world).1 = none ↔ _
  cases (x b.world.world).1 <;> simp

theorem Honest.updateLedState (prog : Bool) (layerId : LayerId) (bank0 bank1 : UInt8) :
    Honest (updateLedState prog layerId bank0 bank1 : Action (Board (Watched σ)) Unit) :=
  .modify fun _ => rfl

theorem Honest.sendToHost (key mod : UInt8) :
    Honest (sendToHost d.watched.usbController key mod) :=
  .bind (.of_sure (by simp) fun _ => rfl) fun _ => .ite (.modify fun _ => rfl) (.modify fun _ => rfl)

theorem DefaultLayer.display_honest :
    Honest (DefaultLayer.display : Action (Board (Watched σ)) Unit) :=
  .bind (.gets _) fun _ => .updateLedState _ _ _ _

theorem LayerR.display_honest : Honest (LayerR.display d.watched) :=
  .bind (.gets _) fun _ => .ite
    (.bind (.watch _) fun _ => .bind (.modify fun _ => rfl) fun _ => .updateLedState _ _ _ _)
    (.updateLedState _ _ _ _)

theorem LayerG.display_honest : Honest (LayerG.display d.watched) :=
  .bind (.gets _) fun _ => .bind (.watch _) fun _ =>
    .ite (.updateLedState _ _ _ _) (.updateLedState _ _ _ _)

theorem LayerB.display_honest : Honest (LayerB.display d.watched) :=
  .bind (.gets _) fun _ => .ite (.updateLedState _ _ _ _)
    (.bind (.watch _) fun _ => .updateLedState _ _ _ _)

theorem switchToLayer_honest (layerId : LayerId) :
    Honest (LayerController.switchToLayer d.watched layerId) := by
  refine .bind (.modify fun _ => rfl) fun _ => ?_
  cases layerId with
  | dflt => exact DefaultLayer.display_honest
  | r => exact .bind (.gets _) fun _ => .updateLedState _ _ _ _
  | g | b => exact .bind (.gets _) fun _ => .bind (.watch _) fun _ => .updateLedState _ _ _ _

theorem DefaultLayer.onKeypress_honest (layer : DefaultLayer) (k : Keypress) :
    Honest (layer.onKeypress d.watched k) := by
  cases k with
  | z => exact .sendToHost _ _
  | x | y | xz | yz => exact .modify fun _ => rfl
  | _ => exact .pure ()

theorem LayerR.onKeypress_honest (layer : LayerR) (k : Keypress) :
    Honest (layer.onKeypress d.watched k) := by
  cases k with
  | x => exact .ite (.bind (.watch _) fun _ => .modify fun _ => rfl) (.modify fun _ => rfl)
  | y | yz => exact .ite (.modify fun _ => rfl) (.modify fun _ => rfl)
  | z => exact .ite (.bind (.watch _) fun _ => .sendToHost _ _) (.pure ())
  | xz => exact .ite (.watch _) (.modify fun _ => rfl)
  | xy | xyz => exact .modify fun _ => rfl
  | inactive => exact .pure ()

theorem LayerG.onKeypress_honest (layer : LayerG) (k : Keypress) :
    Honest (layer.onKeypress d.watched k) := by
  cases k with
  | x | xz => exact .ite (.modify fun _ => rfl) (.modify fun _ => rfl)
  | y | xy => exact .ite (.modify fun _ => rfl) (.pure ())
  | z => exact .ite (.watch _) (.watch _)
  | yz => exact .ite (.watch _) (.modify fun _ => rfl)
  | xyz => exact .modify fun _ => rfl
  | inactive => exact .pure ()

end Honesty

section Ignoring

variable (d : Devices σ)

def LayerB.ignored (layer : LayerB) : Keypress → Option (Action σ Unit)
  | .z => some (if layer.prog then d.storageController.appendToBlobShortcut layer.shortcutId
      layer.keyCode layer.modcode else d.storageController.sendBlobShortcut layer.shortcutId)
  | .xy => if layer.prog then some (d.storageController.clearBlobShortcut layer.shortcutId) else none
  | _ => none

theorem LayerB.onKeypress_ignores {layer : LayerB} {k : Keypress} {x : Action σ Unit}
    (h : layer.ignored d k = some x) :
    layer.onKeypress d.watched k = LayerB.ignoringErrors (watch x) := by
  obtain ⟨prog, id, key, modcode⟩ := layer
  cases k <;> cases prog <;> simp only [LayerB.ignored, reduceCtorEq, Option.some.injEq,
    Bool.false_eq_true, if_false, if_true] at h <;> subst h <;> rfl

theorem LayerB.onKeypress_honest {layer : LayerB} {k : Keypress} (h : layer.ignored d k = none) :
    Honest (layer.onKeypress d.watched k) := by
  cases k with
  | x | xz => exact .ite (.modify fun _ => rfl) (.modify fun _ => rfl)
  | y | yz => exact .ite (.modify fun _ => rfl) (.pure ())
  | xy =>
    have hprog : ¬ layer.prog := fun hp => by simp [LayerB.ignored, hp] at h
    rw [LayerB.onKeypress, if_neg hprog]
    exact .modify fun _ => rfl
  | z => simp [LayerB.ignored] at h
  | xyz => exact .modify fun _ => rfl
  | inactive => exact .pure ()

def Reported (b : Board σ) (k : Keypress) : Prop :=
  (LayerController.press d b k).1 = false ↔ false ∈ storageResults d b k

variable {d}

theorem handleEvent_honest {b : Board (Watched σ)} {k : Keypress}
    (h : b.currentLayer = .b → b.layerB.ignored d k = none) :
    HonestAt (LayerController.handleEvent d.watched k) b := by
  rw [HonestAt, LayerController.handleEvent]
  simp only [gets_bind]
  cases hcur : b.currentLayer with
  | dflt =>
    have hhonest : Honest (DefaultLayer.handleEvent d.watched k) := .bind (.gets _) fun layer =>
      .ite (switchToLayer_honest _) (.bind (DefaultLayer.onKeypress_honest layer k) fun _ =>
        DefaultLayer.display_honest)
    exact hhonest b
  | r =>
    have hhonest : Honest (LayerR.handleEvent d.watched k) := .bind (.gets _) fun layer =>
      .ite (switchToLayer_honest _) (.bind (LayerR.onKeypress_honest layer k) fun _ =>
        LayerR.display_honest)
    exact hhonest b
  | g =>
    have hhonest : Honest (LayerG.handleEvent d.watched k) := .bind (.gets _) fun layer =>
      .ite (switchToLayer_honest _) (.bind (LayerG.onKeypress_honest layer k) fun _ =>
        LayerG.display_honest)
    exact hhonest b
  | b =>
    have hhonest : Honest (if k = .xyz ∧ ¬ b.layerB.prog then
        LayerController.switchToLayer d.watched .dflt
      else do b.layerB.onKeypress d.watched k; LayerB.display d.watched) :=
      .ite (switchToLayer_honest _) (.bind (LayerB.onKeypress_honest d (h hcur)) fun _ =>
        LayerB.display_honest)
    exact hhonest b

theorem watched_display (d : Devices σ) (b : Board σ) (results : List Bool) :
    (LayerB.display d.watched (b.watched results)).1 = (LayerB.display d b).1 :=
  (LayerB.display_mirrors (watched_follows d) _ _ (watched_mirrors b results)).1

variable {b : Board σ} {k : Keypress}

theorem reported_of_honest (h : HonestAt (LayerController.handleEvent d.watched k) (b.watched [])) :
    Reported d b k := by
  obtain ⟨added, hresults, hfails⟩ := h
  have hadded : storageResults d b k = added := hresults
  rw [Reported, ← watched_press, hadded, ← hfails, LayerController.press]
  cases (LayerController.handleEvent d.watched k (b.watched [])).1 <;> simp

-- The one way to lose an error: layer B's operation fails and reading the length then succeeds.
def Hides (d : Devices σ) (b : Board σ) (k : Keypress) : Prop :=
  ∃ x, b.currentLayer = .b ∧ b.layerB.ignored d k = some x ∧ (x b.world).1 = none ∧
    (LayerB.display d { b with world := (x b.world).2 }).1 ≠ none

theorem ignored_run {x : Action σ Unit} (hcur : b.currentLayer = .b)
    (hx : b.layerB.ignored d k = some x) :
    LayerController.handleEvent d.watched k (b.watched []) = LayerB.display d.watched
      (({ b with world := (x b.world).2 } : Board σ).watched [(x b.world).1.isSome]) := by
  have hk : ¬ (k = .xyz ∧ ¬ b.layerB.prog) := by
    rintro ⟨rfl, -⟩
    simp [LayerB.ignored] at hx
  have hlayer : (b.watched []).currentLayer = .b := hcur
  have heffect := LayerB.onKeypress_ignores d hx
  rw [LayerController.handleEvent, gets_bind, hlayer]
  simp only [LayerB.handleEvent, gets_bind]
  change (if k = .xyz ∧ ¬ b.layerB.prog then _ else do
    b.layerB.onKeypress d.watched k; LayerB.display d.watched : Action (Board (Watched σ)) Unit) _ = _
  rw [if_neg hk, heffect]
  rfl

theorem ignored_reported_iff {x : Action σ Unit} (hcur : b.currentLayer = .b)
    (hx : b.layerB.ignored d k = some x) : Reported d b k ↔ ¬ ((x b.world).1 = none ∧
      (LayerB.display d { b with world := (x b.world).2 }).1 ≠ none) := by
  obtain ⟨added, hresults, hfails⟩ := LayerB.display_honest (d := d)
    (({ b with world := (x b.world).2 } : Board σ).watched [(x b.world).1.isSome])
  rw [watched_display] at hfails
  have hall : storageResults d b k = (x b.world).1.isSome :: added := by
    rw [storageResults, LayerController.press, ignored_run hcur hx, hresults]
    rfl
  have hstatus : (LayerController.press d b k).1 =
      (LayerB.display d { b with world := (x b.world).2 }).1.isSome := by
    rw [← watched_press, LayerController.press, ignored_run hcur hx, watched_display]
  rw [Reported, hall, hstatus, List.mem_cons, ← hfails]
  cases (x b.world).1 <;> cases (LayerB.display d { b with world := (x b.world).2 }).1 <;> simp

theorem reported_iff (d : Devices σ) (b : Board σ) (k : Keypress) :
    Reported d b k ↔ ¬ Hides d b k := by
  by_cases h : ∃ x, b.currentLayer = .b ∧ b.layerB.ignored d k = some x
  · obtain ⟨x, hcur, hx⟩ := h
    rw [ignored_reported_iff hcur hx, not_iff_not]
    constructor
    · rintro ⟨hfails, hshows⟩
      exact ⟨x, hcur, hx, hfails, hshows⟩
    · rintro ⟨y, -, hy, hfails, hshows⟩
      obtain rfl : x = y := Option.some.inj (hx.symm.trans hy)
      exact ⟨hfails, hshows⟩
  · refine iff_of_true (reported_of_honest (handleEvent_honest fun hcur => ?_)) ?_
    · by_contra hne
      obtain ⟨x, hx⟩ := Option.ne_none_iff_exists'.mp hne
      exact h ⟨x, hcur, hx⟩
    · rintro ⟨x, hcur, hx, -⟩
      exact h ⟨x, hcur, hx⟩

end Ignoring

end Threeboard.Layers
