import Threeboard.Layers.Asking
import Threeboard.Layers.Display
import Threeboard.Storage.Characters

namespace Threeboard.Layers

open Actions Actions.Action Keys Storage Layer

def Board.stored (b : Board Bench) (id : UInt8) : UInt8 := b.world.view (.character id)

def Cached (b : Board Bench) : Prop :=
  b.layerR.prog → b.layerR.currentProgChar = b.stored b.layerR.shortcutId

structure Coherent (b : Board Bench) : Prop where
  oneProg : b.cursors.OneProg
  cached : Cached b

def LayerR.programmed (stored : UInt8) : Keypress → Option UInt8
  | .x => some (stored + 1)
  | .xz => some 0
  | _ => none

def Programs (b : Board Bench) (k : Keypress) (w : Bench) : Prop :=
  match LayerR.programmed (b.stored b.layerR.shortcutId) k with
  | some x => b.world.After
      (Function.update b.world.view (.character b.layerR.shortcutId) x) w
  | none => w = b.world

variable {b : Board Bench}

theorem LayerR.display_caches : wp (LayerR.display faultyDevices)
    (fun _ t => t.world = b.world ∧ Cached t) (fun _ => False) b := by
  simp only [LayerR.display, wp_bind, wp_gets]
  refine wp_ite.mpr ⟨fun hp => ?_, fun hp => ⟨rfl, fun h => (hp h).elim⟩⟩
  rw [wp_bind]
  exact wp_of_some (onWorld_of_some (Bench.internal_read (f := .character _) rfl b.world))
    ⟨rfl, fun _ => rfl⟩

theorem LayerR.onKeypress_programs (hprog : b.layerR.prog) (h : Cached b) (k : Keypress) :
    wp (b.layerR.onKeypress faultyDevices k) (fun _ t => Programs b k t.world)
      (fun _ => False) b := by
  obtain ⟨cur, ld, ⟨prog, id, modcode, char⟩, lg, lb, led, world⟩ := b
  obtain rfl : prog = true := hprog
  obtain rfl : char = world.view (.character id) := h rfl
  have hset : ∀ x char, wp (onWorld (Bench.controller.setCharacterShortcut id x))
      (fun _ t => world.After (Function.update world.view (.character id) x) t.world)
      (fun _ => False) ⟨cur, ld, ⟨true, id, modcode, char⟩, lg, lb, led, world⟩ := fun x _ =>
    wp_zoom.mpr (Bench.internal_write (f := .character id) rfl x world)
  cases k
  case x => exact (wp_bind _ _).mpr (wp_mono (hset _ _) (fun _ _ ht => ht) fun _ hf => hf)
  case xz => exact hset 0 _
  all_goals rfl

theorem displayed_after {P : Bench → Prop} {effect : Action (Board Bench) Unit}
    (h : wp effect (fun _ t => P t.world) (fun _ => False) b) :
    P ((do effect; LayerR.display faultyDevices : Action (Board Bench) Unit) b).2.world := by
  have hgood : wp (do effect; LayerR.display faultyDevices) (fun _ t => P t.world)
      (fun t => P t.world) b := by
    refine (wp_bind _ _).mpr (wp_mono h ?_ fun _ hf => hf.elim)
    intro _ t ht
    refine wp_mono LayerR.display_caches ?_ fun _ hf => hf.elim
    rintro _ u ⟨hworld, -⟩
    exact hworld ▸ ht
  exact good_of_wp hgood

theorem pressed_in_r (hcur : b.currentLayer = .r) {k : Keypress}
    (hstays : ¬ (k = .xyz ∧ ¬ b.layerR.prog)) : pressed b k =
      ((do b.layerR.onKeypress faultyDevices k; LayerR.display faultyDevices :
        Action (Board Bench) Unit) b).2 := by
  simp only [pressed, LayerController.press, LayerController.handleEvent, gets_bind, hcur,
    LayerR.handleEvent, if_neg hstays]

theorem pressed_programs (h : Coherent b) (hprog : b.layerR.prog) (k : Keypress) :
    Programs b k (pressed b k).world := by
  rw [pressed_in_r (h.oneProg .r hprog).1.symm fun hl => hl.2 hprog]
  exact displayed_after (LayerR.onKeypress_programs hprog h.cached k)

theorem LayerR.handled_caches (k : Keypress) :
    wp (do b.layerR.onKeypress faultyDevices k; LayerR.display faultyDevices)
      (fun _ => Cached) Cached b := by
  have heffect : wp (b.layerR.onKeypress faultyDevices k) (fun _ _ => True) (fun _ => False) b :=
    LayerR.onKeypress_sure k setCharacter_sure fun id =>
      ⟨_, Bench.internal_read (f := .character id) rfl b.world⟩
  exact handled_good (LayerR.onKeypress_cursors _ b k) (good_of_sure heffect) fun _ _ =>
    wp_mono LayerR.display_caches (fun _ _ ht => ht.2) fun _ hf => hf

theorem pressed_cached (h : Coherent b) (k : Keypress) : Cached (pressed b k) := by
  by_cases hstays : b.currentLayer = .r ∧ ¬ (k = .xyz ∧ ¬ b.layerR.prog)
  · rw [pressed_in_r hstays.1 hstays.2]
    exact good_of_wp (LayerR.handled_caches k)
  · intro hprog
    have hlayer : (pressed b k).cursors.layerR = b.cursors.layerR := by
      have hcursors : (pressed b k).cursors = b.cursors.press k := press_cursors faultyDevices b k
      rw [hcursors, Cursors.layerR_press, if_neg]
      rintro ⟨hcur, hl⟩
      refine hstays ⟨hcur, fun hk => hl ⟨hk.1, .inr ?_⟩⟩
      simpa [Cursors.prog, Board.cursors, show b.currentLayer = .r from hcur] using hk.2
    have hp : b.layerR.prog := (congrArg LayerR.prog hlayer).symm.trans hprog
    exact (hstays ⟨(h.oneProg .r hp).1.symm, fun hl => hl.2 hp⟩).elim

theorem Coherent.pressed (h : Coherent b) (k : Keypress) : Coherent (pressed b k) := by
  refine ⟨?_, pressed_cached h k⟩
  have hcursors : (Layers.pressed b k).cursors = b.cursors.press k := press_cursors faultyDevices b k
  rw [hcursors]
  exact h.oneProg.press k

theorem boot_coherent (world : Bench) : Coherent (Board.boot world) :=
  ⟨boot_oneProg world, fun hp => absurd hp (by simp [Board.boot])⟩

theorem Coherent.run (h : Coherent b) (keys : List Keypress) :
    Coherent (keys.foldl Layers.pressed b) := by
  induction keys generalizing b with
  | nil => exact h
  | cons k rest ih => exact ih (h.pressed k)

section Editing

structure Puts (b : Board Bench) (x : UInt8) (t : Board Bench) : Prop where
  world : b.world.After (Function.update b.world.view (.character b.layerR.shortcutId) x) t.world
  cursors : t.cursors = b.cursors

structure Selects (b : Board Bench) (id : UInt8) (t : Board Bench) : Prop where
  world : t.world = b.world
  cursors : t.cursors = { b.cursors with layerR := { b.cursors.layerR with shortcutId := id } }

structure EditsExactly (b : Board Bench) : Prop where
  x : Puts b (b.stored b.layerR.shortcutId + 1) (pressed b .x)
  xz : Puts b 0 (pressed b .xz)
  y : Selects b (b.layerR.shortcutId + 1) (pressed b .y)
  yz : Selects b 0 (pressed b .yz)

theorem press_while_programming (h : b.cursors.OneProg) (hprog : b.layerR.prog) (k : Keypress) :
    (pressed b k).cursors = { b.cursors with layerR := b.cursors.layerR.press k } := by
  have hcursors : (pressed b k).cursors = b.cursors.press k := press_cursors faultyDevices b k
  have hcur : b.currentLayer = .r := (h .r hprog).1.symm
  have hstays : ¬ b.cursors.leaves k := by
    simp [Cursors.leaves, Cursors.prog, Board.cursors, hcur, hprog]
  rw [hcursors, Cursors.press, if_neg hstays]
  simp [Cursors.edit, Board.cursors, hcur]

theorem Coherent.editsExactly (h : Coherent b) (hprog : b.layerR.prog) : EditsExactly b := by
  have hcursors := press_while_programming h.oneProg hprog
  have hworld := pressed_programs h hprog
  have hp : b.cursors.layerR.prog = true := hprog
  refine ⟨⟨hworld .x, ?_⟩, ⟨hworld .xz, ?_⟩, ⟨hworld .y, ?_⟩, ⟨hworld .yz, ?_⟩⟩
  · rw [hcursors, LayerR.press, if_pos hp]
  · rw [hcursors, LayerR.press, if_pos hp]
  · rw [hcursors, LayerR.press, if_pos hp]
    rfl
  · rw [hcursors, LayerR.press, if_pos hp]

end Editing

section Counting

def Board.Programming (b : Board Bench) (id : UInt8) : Prop :=
  b.currentLayer = .r ∧ b.layerR.prog ∧ b.layerR.shortcutId = id

instance (b : Board Bench) (id : UInt8) : Decidable (b.Programming id) :=
  inferInstanceAs (Decidable (_ ∧ _ ∧ _))

def counted (n : ℕ) : Keypress → ℕ
  | .x => n + 1
  | .xz => 0
  | _ => n

def tally (id : UInt8) : ℕ → Board Bench → List Keypress → ℕ
  | n, _, [] => n
  | n, b, k :: rest => tally id (if b.Programming id then counted n k else n) (pressed b k) rest

variable {id : UInt8}

theorem pressed_stored (h : ¬ b.Programming id) (k : Keypress) :
    (pressed b k).stored id = b.stored id := by
  have hkey : ∀ key mod, Keeps (Bench.Stores id (b.stored id))
      (faultyDevices.usbController.sendKeypress key mod) := Bench.sendKeypress_stores
  have hask : ∀ r, b.cursors.MayAsk r → Keeps (Bench.Stores id (b.stored id))
      (r.run faultyDevices.storageController) := by
    intro r hr
    refine Bench.run_stores fun htarget => ?_
    rcases hr with hnone | ⟨hp, hselected⟩
    · simp [hnone] at htarget
    · rw [htarget] at hselected
      cases hcur : b.currentLayer <;>
        simp [Cursors.selected, Board.cursors, hcur] at hselected
      refine h ⟨hcur, ?_, hselected.symm⟩
      simpa [Cursors.prog, Board.cursors, hcur] using hp
  exact press_keeps hkey hask rfl k

theorem pressed_programming (h : Coherent b) (hid : b.Programming id) (k : Keypress) :
    (pressed b k).stored id = (LayerR.programmed (b.stored id) k).getD (b.stored id) := by
  obtain ⟨-, hprog, rfl⟩ := hid
  have hprograms := pressed_programs h hprog k
  rw [Programs] at hprograms
  cases hx : LayerR.programmed (b.stored b.layerR.shortcutId) k with
  | some x =>
    rw [hx] at hprograms
    exact (congrFun hprograms.view _).trans (Function.update_self _ _ _)
  | none =>
    rw [hx] at hprograms
    exact congrArg (fun w => w.view (.character b.layerR.shortcutId)) hprograms

theorem programmed_counted (n : ℕ) (k : Keypress) :
    (LayerR.programmed (UInt8.ofNat n) k).getD (UInt8.ofNat n) = UInt8.ofNat (counted n k) := by
  cases k with
  | x => exact (UInt8.ofNat_add n 1).symm
  | _ => rfl

theorem pressed_counted (h : Coherent b) {n : ℕ} (hn : b.stored id = UInt8.ofNat n) (k : Keypress) :
    (pressed b k).stored id = UInt8.ofNat (if b.Programming id then counted n k else n) := by
  by_cases hid : b.Programming id
  · rw [pressed_programming h hid, hn, if_pos hid, programmed_counted]
  · rw [pressed_stored hid, hn, if_neg hid]

theorem run_stored (h : Coherent b) {n : ℕ} (hn : b.stored id = UInt8.ofNat n)
    (keys : List Keypress) :
    (keys.foldl pressed b).stored id = UInt8.ofNat (tally id n b keys) := by
  induction keys generalizing b n with
  | nil => exact hn
  | cons k rest ih => exact ih (h.pressed k) (pressed_counted h hn k)

end Counting

section Sending

theorem sendToHost_keypresses (key mod : UInt8) :
    wp (sendToHost Bench.usbController key mod)
      (fun _ t => t.world.keypresses = b.world.keypresses ++ [(key, mod)]) (fun _ => False) b := by
  simp only [sendToHost, wp_bind, wp_attempt, onWorld, wp_zoom]
  refine wp_mono (Bench.sendKeypress_spec key mod b.world) ?_ ?_
  · rintro - t ⟨-, -, hkeys⟩
    exact hkeys
  · rintro t ⟨-, -, hkeys⟩
    exact hkeys

theorem LayerR.onKeypress_sends (hprog : ¬ b.layerR.prog) :
    wp (b.layerR.onKeypress faultyDevices .z) (fun _ t => t.world.keypresses =
      b.world.keypresses ++ [(b.stored b.layerR.shortcutId, b.layerR.modcode)])
      (fun _ => False) b := by
  rw [LayerR.onKeypress, if_pos hprog, wp_bind]
  exact wp_of_some (onWorld_of_some (Bench.internal_read (f := .character _) rfl b.world))
    (sendToHost_keypresses _ _)

theorem pressed_sends (hcur : b.currentLayer = .r) (hprog : ¬ b.layerR.prog) :
    (pressed b .z).world.keypresses =
      b.world.keypresses ++ [(b.stored b.layerR.shortcutId, b.layerR.modcode)] := by
  rw [pressed_in_r hcur fun hk => absurd hk.1 (by simp)]
  exact displayed_after (P := fun w => w.keypresses = _) (LayerR.onKeypress_sends hprog)

end Sending

theorem layerR_programming_exact (memory : Memory) (fates : ℕ → Fate) (keys : List Keypress) :
    let start := Board.boot (Bench.start memory fates)
    let b := keys.foldl pressed start
    let id := b.layerR.shortcutId
    let sends (n : ℕ) := (pressed b .z).world.keypresses =
      b.world.keypresses ++ [(UInt8.ofNat n, b.layerR.modcode)]
    (b.layerR.prog → b.layerR.currentProgChar = b.stored id) ∧
      (b.layerR.prog → EditsExactly b) ∧
      (b.currentLayer = .r → ¬ b.layerR.prog → sends (tally id (start.stored id).toNat start keys)) ∧
      (memory = erased → b.currentLayer = .r → ¬ b.layerR.prog → sends (tally id 0 start keys)) := by
  intro start b id sends
  have hstart : Coherent start := boot_coherent _
  have hb : Coherent b := hstart.run keys
  have hsends : ∀ n : ℕ, start.stored id = UInt8.ofNat n → b.currentLayer = .r →
      ¬ b.layerR.prog → sends (tally id n start keys) := by
    intro n hn hcur hprog
    have hstored : b.stored id = UInt8.ofNat (tally id n start keys) := run_stored hstart hn keys
    have hz := pressed_sends hcur hprog
    rwa [hstored] at hz
  refine ⟨hb.cached, hb.editsExactly, hsends _ (UInt8.ofNat_toNat).symm, ?_⟩
  rintro rfl
  exact hsends 0 (congrFun (Bench.view_erased fates) _)

end Threeboard.Layers
