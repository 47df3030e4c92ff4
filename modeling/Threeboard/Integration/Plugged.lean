import Threeboard.Library.Runs
import Threeboard.Storage.Issuing
import Threeboard.Storage.Refinement
import Threeboard.Integration.Effects
import Threeboard.Usb.Keystrokes
import Mathlib.Data.List.Flatten

namespace Threeboard.Integration

open Actions Actions.Action Keys Layers Runs Storage
open Usb (Device DescriptorContainer During Interrupt Line Rests Script Typist Undisturbing Whole
  answering keystroke rests_answer rests_perform rests_powered undisturbed)

structure Meeting where
  script : Script
  during : During

-- The chips, and the USB device with all that it was called for and what came of each call. One that
-- does not return has no outcome.
structure Plugged where
  chips : Bench
  typist : Typist
  meetings : ℕ → Meeting
  calls : List (UInt8 × UInt8) := []
  outcomes : List (Option Bool) := []

def strokes (keypresses : List (UInt8 × UInt8)) : List (UInt8 × UInt8) :=
  keypresses.flatMap fun p => keystroke p.1 p.2

theorem strokes_append (ps qs : List (UInt8 × UInt8)) :
    strokes (ps ++ qs) = strokes ps ++ strokes qs := List.flatMap_append

theorem strokes_sublist {ps qs : List (UInt8 × UInt8)} (h : ps.Sublist qs) :
    (strokes ps).Sublist (strokes qs) := h.flatMap _

def onChips {α : Type} (x : Action Bench α) : Action Plugged α :=
  Action.zoom Plugged.chips (fun chips p => { p with chips }) x

namespace Plugged

def AllSent (p : Plugged) : Prop := ∀ outcome ∈ p.outcomes, outcome = some true

def Hangs (p : Plugged) : Prop := none ∈ p.outcomes

instance : DecidablePred Hangs := fun p => inferInstanceAs (Decidable (none ∈ p.outcomes))

def typed (p : Plugged) : List (UInt8 × UInt8) := p.typist.typed

variable (descriptorList : List DescriptorContainer) (polls : ℕ)

def outcome (key mod : UInt8) (p : Plugged) : Option Bool :=
  ((Line.controller descriptorList polls).sendKeypressAmid
    (answering descriptorList polls (p.meetings 0).during) key mod
    (p.typist.device.meeting (p.meetings 0).script)).1

def called (key mod : UInt8) (p : Plugged) : Plugged where
  chips := p.chips
  typist := p.typist.perform descriptorList polls
    (.keypress (p.meetings 0).script key mod (p.meetings 0).during)
  meetings n := p.meetings (n + 1)
  calls := p.calls ++ [(key, mod)]
  outcomes := p.outcomes ++ [p.outcome descriptorList polls key mod]

def usbController : UsbController Plugged where
  sendKeypress key mod := do
    let outcome ← Action.gets (outcome descriptorList polls key mod)
    Action.modify (called descriptorList polls key mod)
    if outcome = some true then pure () else Action.stop

def onBoard (e : Eeprom Bench) : Eeprom Plugged where
  readByte byteOffset := onChips (e.readByte byteOffset)
  writeByte byteOffset data := onChips (e.writeByte byteOffset data)

def controller : StorageController Plugged where
  usbController := usbController descriptorList polls
  internalEeprom := onBoard Bench.internalEeprom
  externalEeprom0 := onBoard (Bench.externalEeprom .eeprom0)
  externalEeprom1 := onBoard (Bench.externalEeprom .eeprom1)

def devices : Devices Plugged :=
  ⟨usbController descriptorList polls, (controller descriptorList polls).methods⟩

def interrupted (i : Interrupt Script) (p : Plugged) : Plugged :=
  { p with typist := p.typist.perform descriptorList polls (.interrupt i) }

end Plugged

section Chips

variable {α β : Type} {descriptorList : List DescriptorContainer} {polls : ℕ}

theorem onChips_bind (x : Action Bench α) (f : α → Action Bench β) :
    onChips (x >>= f) = onChips x >>= fun a => onChips (f a) := by
  funext p
  rcases hx : x p.chips with ⟨_ | a, b⟩ <;> simp [onChips, bind_run, hx]

theorem onChips_ite {c : Prop} [Decidable c] (x y : Action Bench α) :
    onChips (if c then x else y) = if c then onChips x else onChips y := apply_ite onChips c x y

def Sends : Storage.Request → Prop
  | .sendWord .. | .sendBlob _ => True
  | _ => False

theorem onChips_silently (x : Action Bench Unit) : onChips (silently x) = silently (onChips x) :=
  onChips_bind _ _

theorem onChips_outputting (x : Action Bench UInt8) :
    onChips (outputting x) = outputting (onChips x) := onChips_bind _ _

theorem run_onChips {r : Storage.Request} (h : ¬ Sends r) :
    r.run (Plugged.devices descriptorList polls).storageController =
      onChips (r.run Bench.controller.methods) := by
  have hblob (index : UInt8) : (Plugged.controller descriptorList polls).blobEeprom index =
      Plugged.onBoard (Bench.controller.blobEeprom index) := by
    simp only [StorageController.blobEeprom]
    split <;> rfl
  cases r with
  | setCharacter | clearWord => exact (onChips_silently _).symm
  | getCharacter | getWordLength => exact (onChips_outputting _).symm
  | sendWord | sendBlob => exact (h trivial).elim
  | appendToWord index character =>
    refine (congrArg silently ?_).trans (onChips_silently _).symm
    simp only [StorageController.methods, StorageController.appendToWordShortcut, onChips_bind,
      onChips_ite]
    rfl
  | appendToBlob index character modcode =>
    refine (congrArg silently ?_).trans (onChips_silently _).symm
    change (Plugged.controller descriptorList polls).appendToBlobShortcut index character modcode =
      onChips (Bench.controller.appendToBlobShortcut index character modcode)
    simp only [StorageController.appendToBlobShortcut, StorageController.getBlobShortcutLength,
      onChips_bind, onChips_ite, hblob]
    rfl
  | clearBlob index =>
    refine (congrArg silently ?_).trans (onChips_silently _).symm
    change (Plugged.controller descriptorList polls).clearBlobShortcut index =
      onChips (Bench.controller.clearBlobShortcut index)
    simp only [StorageController.clearBlobShortcut, onChips_ite]
    rfl
  | getBlobLength index =>
    refine (congrArg outputting ?_).trans (onChips_outputting _).symm
    change (Plugged.controller descriptorList polls).getBlobShortcutLength index =
      onChips (Bench.controller.getBlobShortcutLength index)
    simp only [StorageController.getBlobShortcutLength, onChips_ite]
    rfl

end Chips

section Calling

variable {descriptorList : List DescriptorContainer} {polls : ℕ}

structure Care (descriptorList : List DescriptorContainer) (polls : ℕ) where
  whole : Prop
  undisturbed : Prop

def Care.Allows (care : Care descriptorList polls) (during : During) : Prop :=
  (care.whole → Whole descriptorList polls during) ∧ (care.undisturbed → Undisturbing during)

structure Sound (care : Care descriptorList polls) (p : Plugged) : Prop where
  rests : care.whole → Rests care.undisturbed p.typist.asked p.typist.confirmed p.typist.device
  asked : p.typist.asked = strokes p.calls
  confirmed : p.AllSent → p.typist.confirmed = p.typist.asked
  allowed : ∀ n, care.Allows (p.meetings n).during

variable {care : Care descriptorList polls} {p : Plugged}

theorem Plugged.AllSent.of_called {key mod : UInt8}
    (h : (p.called descriptorList polls key mod).AllSent) :
    p.AllSent ∧ p.outcome descriptorList polls key mod = some true :=
  ⟨fun outcome hmem => h outcome (List.mem_append_left _ hmem), h _ List.mem_concat_self⟩

theorem Sound.called (h : Sound care p) (key mod : UInt8) :
    Sound care (p.called descriptorList polls key mod) where
  rests hw :=
    rests_perform descriptorList polls (h.rests hw) ((h.allowed 0).1 hw) (h.allowed 0).2
  asked := by
    change p.typist.asked ++ keystroke key mod = strokes (p.calls ++ [(key, mod)])
    rw [strokes_append, h.asked, strokes, strokes, List.flatMap_singleton]
  confirmed hall := by
    obtain ⟨hbefore, hsent⟩ := hall.of_called
    change (if p.outcome descriptorList polls key mod = some true then
      p.typist.confirmed ++ keystroke key mod else p.typist.confirmed) =
        p.typist.asked ++ keystroke key mod
    rw [if_pos hsent, h.confirmed hbefore]
  allowed n := h.allowed (n + 1)

structure Sending (care : Care descriptorList polls) (p t : Plugged) : Prop where
  view : t.chips.view = p.chips.view
  calm : t.chips.Calm
  sound : Sound care t
  allSent : t.AllSent → p.AllSent

def Refused (care : Care descriptorList polls) (p t : Plugged) : Prop := Sending care p t ∧ ¬ t.AllSent

theorem sendKeypress_run (key mod : UInt8) (p : Plugged) :
    (Plugged.usbController descriptorList polls).sendKeypress key mod p =
      (if p.outcome descriptorList polls key mod = some true then some () else none,
        p.called descriptorList polls key mod) := by
  simp only [Plugged.usbController, gets_bind, modify_bind]
  split <;> rfl

theorem Sound.onChips (h : Sound care p) (chips : Bench) : Sound care { p with chips } :=
  ⟨h.rests, h.asked, h.confirmed, h.allowed⟩

theorem plugged_issues (care : Care descriptorList polls) (p : Plugged) :
    Issues (Plugged.controller descriptorList polls) Plugged.calls (Sending care p)
      (Refused care p) p.chips.view where
  read {f chip offset} hf t ht := by
    have hsame {chips : Bench} (hview : chips.view = t.chips.view) (hcalm : chips.Calm) :
        Sending care p { t with chips } :=
      ⟨hview.trans ht.view, hcalm, ht.sound.onChips chips, ht.allSent⟩
    have hexternal (chip : Chip) (hf : f.address = (chip, offset)) :
        wp (onChips ((Bench.externalEeprom chip).readByte offset))
          (fun x u => x = p.chips.view f ∧ Sending care p u ∧ u.calls = t.calls)
          (fun _ => False) t := by
      rw [onChips, wp_zoom]
      refine wp_mono (Bench.external_read hf t.chips) ?_ fun _ hu => hu.1 ht.calm
      rintro x u ⟨hx, hu⟩
      exact ⟨by rw [hx, ht.view], hsame hu.view (hu.calm ht.calm), rfl⟩
    cases chip with
    | internal =>
      change wp (onChips (Bench.internalEeprom.readByte offset)) _ _ t
      rw [onChips, wp_zoom]
      exact wp_of_some (Bench.internal_read hf t.chips) ⟨by rw [ht.view], hsame rfl ht.calm, rfl⟩
    | eeprom0 => exact hexternal .eeprom0 hf
    | eeprom1 => exact hexternal .eeprom1 hf
  send key mod t ht := by
    have hnext : Sending care p (t.called descriptorList polls key mod) :=
      ⟨ht.view, ht.calm, ht.sound.called key mod, fun hall => ht.allSent hall.of_called.1⟩
    change wp ((Plugged.usbController descriptorList polls).sendKeypress key mod) _ _ t
    by_cases hsent : t.outcome descriptorList polls key mod = some true
    · refine wp_of_some (a := ()) (t := t.called descriptorList polls key mod) ?_ ⟨hnext, rfl⟩
      rw [sendKeypress_run, if_pos hsent]
    · refine wp_of_none (t := t.called descriptorList polls key mod) ?_ ⟨⟨hnext, ?_⟩, rfl⟩
      · rw [sendKeypress_run, if_neg hsent]
      · exact fun hall => hsent hall.of_called.2

end Calling

structure Paced {descriptorList : List DescriptorContainer} {polls : ℕ}
    (care : Care descriptorList polls) (p : Plugged) (w : Ideal) : Prop where
  represents : Represents p.chips.view w.shortcuts
  calm : p.chips.Calm
  sound : Sound care p
  called : p.calls.Sublist w.keypresses
  all : p.AllSent → p.calls = w.keypresses

section Effects

variable {descriptorList : List DescriptorContainer} {polls : ℕ}
  {care : Care descriptorList polls} {p q : Plugged} {w : Ideal}

theorem Paced.sending (h : Paced care p w) : Sending care p p := ⟨rfl, h.calm, h.sound, id⟩

theorem Paced.issued (h : Paced care p w) {keypresses : List (UInt8 × UInt8)}
    (hq : Issued Plugged.calls (Sending care p) (Refused care p) keypresses p q) :
    Paced care q { w with keypresses := w.keypresses ++ keypresses } := by
  rcases hq with ⟨hsending, hcalls⟩ | ⟨⟨hsending, hrefused⟩, issued, hprefix, hcalls⟩
  · refine ⟨hsending.view ▸ h.represents, hsending.calm, hsending.sound, ?_, fun hall => ?_⟩
    · rw [hcalls]
      exact h.called.append (.refl _)
    · rw [hcalls, h.all (hsending.allSent hall)]
  · refine ⟨hsending.view ▸ h.represents, hsending.calm, hsending.sound, ?_, fun hall => ?_⟩
    · rw [hcalls]
      exact h.called.append hprefix.sublist
    · exact (hrefused hall).elim

theorem serve_silent {r : Storage.Request} (hr : ¬ Sends r) (s : Shortcuts) :
    (s.serve r).1.keypresses = [] := by
  cases r with
  | sendWord | sendBlob => exact (hr trivial).elim
  | setCharacter | getCharacter | clearWord | getWordLength => rfl
  | appendToWord =>
    rw [Shortcuts.serve]
    split <;> rfl
  | appendToBlob =>
    rw [Shortcuts.serve, Shortcuts.serveBlob]
    split
    · split <;> rfl
    · rfl
  | clearBlob | getBlobLength =>
    rw [Shortcuts.serve, Shortcuts.serveBlob]
    split <;> rfl

theorem Paced.stored (h : Paced care p w) {r : Storage.Request} (hr : ¬ Sends r) :
    Paced care (r.run (Plugged.devices descriptorList polls).storageController p).2
      (served w r) := by
  have hfaultless : Faultless p.chips ⟨w.shortcuts, p.chips.keypresses⟩ :=
    ⟨h.represents, h.calm, rfl⟩
  obtain ⟨-, hnext⟩ := request_follows r p.chips _ hfaultless
  rw [run_onChips hr, served, serve_silent hr, List.append_nil]
  exact ⟨hnext.represents, hnext.calm, h.sound.onChips _, h.called, h.all⟩

theorem Paced.request (h : Paced care p w) (r : Storage.Request) :
    Paced care (r.run (Plugged.devices descriptorList polls).storageController p).2
      (served w r) := by
  have hissues := plugged_issues care p
  by_cases hr : Sends r
  · cases r with
    | sendWord index rawModCode =>
      have hsent := h.issued (hissues.sendWordShortcut h.represents h.sending index rawModCode)
      rw [← silently_state] at hsent
      exact hsent
    | sendBlob index =>
      by_cases hindex : index ≤ kLayerBMaxIndex
      · have hsent := h.issued (hissues.sendBlobShortcut h.represents h.sending ⟨index, hindex⟩)
        rw [← silently_state] at hsent
        rw [served, Shortcuts.serve, Shortcuts.serveBlob, dif_pos hindex]
        exact hsent
      · have hnone : ((Plugged.controller descriptorList polls).sendBlobShortcut index p).2 = p := by
          rw [StorageController.sendBlobShortcut, if_pos (UInt8.not_le.mp hindex)]
          rfl
        have hsame : Paced care p ⟨w.shortcuts, w.keypresses ++ []⟩ := by rwa [List.append_nil]
        rw [← hnone, ← silently_state] at hsame
        rw [served, Shortcuts.serve, Shortcuts.serveBlob, dif_neg hindex]
        exact hsame
    | _ => exact hr.elim
  · exact h.stored hr

theorem Paced.effect (h : Paced care p w) (e : Effect) :
    Paced care (e.run (Plugged.devices descriptorList polls) p).2 (after w e) := by
  cases e with
  | nothing => exact h
  | request r =>
    rw [request_state]
    exact h.request r
  | type key mod =>
    refine h.issued (Issues.issued_of_wp ?_)
    have hsend := (plugged_issues care p).sendKeypress h.sending key mod
    exact wp_mono hsend (fun _ _ => .inl) fun _ => .inr

end Effects

section Legibility

variable {descriptorList : List DescriptorContainer} {polls : ℕ}

theorem bench_gets {r : Storage.Request} (hr : r.Gets) (b : Bench) :
    (r.run Bench.controller.methods b).2 = b := by
  cases r with
  | getCharacter | getWordLength => rfl
  | getBlobLength index =>
    change (outputting (if index > kLayerBMaxIndex then _ else _) b).2 = b
    split <;> rfl
  | _ => exact hr.elim

def Plugged.character (p : Plugged) (id : UInt8) : UInt8 := p.chips.view (.character id)

theorem plugged_legible : Legible (Plugged.devices descriptorList polls) Plugged.character where
  gets w r hr := by
    rintro p rfl
    have hstays : ¬ Sends r := by
      cases r with
      | sendWord | sendBlob => exact fun _ => hr
      | _ => exact id
    rw [run_onChips hstays]
    change { p with chips := (r.run Bench.controller.methods p.chips).2 } = p
    rw [bench_gets hr]
  getCharacter _ _ := rfl
  setCharacter _ _ _ := rfl

end Legibility

inductive Happening where
  | press (keypress : Keypress) (meetings : ℕ → Meeting)
  | interrupt (i : Interrupt Script)

def Happening.Whole (descriptorList : List DescriptorContainer) (polls : ℕ) : Happening → Prop
  | .press _ meetings => ∀ n, Usb.Whole descriptorList polls (meetings n).during
  | .interrupt _ => True

def Happening.Undisturbed : Happening → Prop
  | .press _ meetings => ∀ n, Undisturbing (meetings n).during
  | .interrupt _ => True

def Happening.Allowed {descriptorList : List DescriptorContainer} {polls : ℕ}
    (care : Care descriptorList polls) : Happening → Prop
  | .press _ meetings => ∀ n, care.Allows (meetings n).during
  | .interrupt _ => True

def Happening.keypress? : Happening → Option Keypress
  | .press keypress _ => some keypress
  | .interrupt _ => none

section Runs

variable (descriptorList : List DescriptorContainer) (polls : ℕ)

-- Once a call has not returned no keypress is handled any more. What the layer would go on to do
-- with its LEDs is of no consequence.
def happen (b : Board Plugged) : Happening → Board Plugged
  | .press keypress meetings =>
    if b.world.Hangs then b
    else (LayerController.press (Plugged.devices descriptorList polls)
      { b with world := { b.world with meetings } } keypress).2
  | .interrupt i => { b with world := b.world.interrupted descriptorList polls i }

def plugged (script : Script) : Board Plugged :=
  Board.boot
    { chips := .start erased fun _ => .succeed
      typist := .powered script
      meetings := fun _ => ⟨script, undisturbed⟩ }

variable {descriptorList polls} {care : Care descriptorList polls} {b : Board Plugged} {a : Board Ideal}

structure Alike (care : Care descriptorList polls) (b : Board Plugged) (a : Board Ideal) : Prop where
  cursors : b.cursors = a.cursors
  cached : CharCached Plugged.character b
  paced : Paced care b.world a.world

structure Alongside (care : Care descriptorList polls) (b : Board Plugged) (a : Board Ideal) : Prop where
  oneProg : a.cursors.OneProg
  cached : CharCached (fun w : Ideal => w.shortcuts.characters) a
  sound : Sound care b.world
  called : b.world.calls.Sublist a.world.keypresses
  alike : ¬ b.world.Hangs → Alike care b a

theorem keypresses_after (w : Ideal) (e : Effect) : w.keypresses <+: (after w e).keypresses := by
  cases e with
  | nothing => exact List.prefix_rfl
  | request | type => exact List.prefix_append _ _

theorem Sound.interrupted {p : Plugged} (h : Sound care p) (i : Interrupt Script) :
    Sound care (p.interrupted descriptorList polls i) :=
  ⟨fun hw => rests_answer descriptorList polls (h.rests hw) i, h.asked, h.confirmed, h.allowed⟩

theorem Alongside.interrupt (h : Alongside care b a) (i : Interrupt Script) :
    Alongside care (happen descriptorList polls b (.interrupt i)) a where
  oneProg := h.oneProg
  cached := h.cached
  sound := h.sound.interrupted i
  called := h.called
  alike hreturns := by
    obtain ⟨hcursors, hcached, hpaced⟩ := h.alike hreturns
    exact ⟨hcursors, hcached, hpaced.represents, hpaced.calm, h.sound.interrupted i, hpaced.called,
      hpaced.all⟩

theorem Alongside.press (h : Alongside care b a) (k : Keypress) {meetings : ℕ → Meeting}
    (hm : ∀ n, care.Allows (meetings n).during) :
    Alongside care (happen descriptorList polls b (.press k meetings))
      (LayerController.press Ideal.devices a k).2 := by
  have hone : (LayerController.press Ideal.devices a k).2.cursors.OneProg := by
    rw [press_cursors]
    exact h.oneProg.press k
  have hcached := press_charCached ideal_legible h.oneProg k
  have hideal := press_world h.cached k
  by_cases hhangs : b.world.Hangs
  · rw [happen, if_pos hhangs]
    refine ⟨hone, hcached, h.sound, ?_, fun hreturns => (hreturns hhangs).elim⟩
    rw [hideal]
    exact h.called.trans (keypresses_after _ _).sublist
  · obtain ⟨hcursors, hchar, hpaced⟩ := h.alike hhangs
    let start : Board Plugged := { b with world := { b.world with meetings } }
    have hstart : Paced care start.world a.world := ⟨hpaced.represents, hpaced.calm,
      ⟨h.sound.rests, h.sound.asked, h.sound.confirmed, hm⟩, hpaced.called, hpaced.all⟩
    have hworld := press_effect (d := Plugged.devices descriptorList polls) (b := start)
      plugged_legible hpaced.represents.character hchar k
    have hsame : start.cursors = a.cursors := hcursors
    rw [hsame] at hworld
    have hnext : Paced care (LayerController.press (Plugged.devices descriptorList polls) start k).2.world
        (LayerController.press Ideal.devices a k).2.world := by
      rw [hworld, hideal]
      exact hstart.effect _
    rw [happen, if_neg hhangs]
    refine ⟨hone, hcached, hnext.sound, hnext.called, fun _ => ⟨?_, ?_, hnext⟩⟩
    · rw [press_cursors, press_cursors, hsame]
    · exact press_charCached plugged_legible (hsame ▸ h.oneProg) k

theorem alongside_run (h : Alongside care b a) {events : List Happening}
    (he : ∀ e ∈ events, e.Allowed care) :
    Alongside care (events.foldl (happen descriptorList polls) b)
      (final (LayerController.press Ideal.devices) a (events.filterMap Happening.keypress?)) := by
  induction events generalizing b a with
  | nil => exact h
  | cons e rest ih =>
    obtain ⟨hfirst, hrest⟩ := List.forall_mem_cons.mp he
    cases e with
    | press k meetings => exact ih (h.press k hfirst) hrest
    | interrupt i => exact ih (h.interrupt i) hrest

theorem plugged_alongside (script : Script) :
    Alongside care (plugged script) (Board.boot ⟨Shortcuts.empty, []⟩) := by
  have hsound : Sound care (plugged script).world :=
    ⟨fun _ => rests_powered script, rfl, fun _ => rfl, fun _ =>
      ⟨fun _ => Usb.undisturbed_whole descriptorList polls, fun _ => Usb.undisturbed_undisturbing⟩⟩
  have hboot {σ : Type} (character : σ → UInt8 → UInt8) (world : σ) :
      CharCached character (Board.boot world) := fun hcur => by cases hcur
  refine ⟨boot_oneProg _, hboot _ _, hsound, .refl _, fun _ => ⟨rfl, hboot _ _, ?_⟩⟩
  exact ⟨Bench.start_represents _, fun _ => rfl, hsound, .refl _, fun _ => rfl⟩

end Runs

-- What is typed at the keyboard: as long as no interrupt tears a report, the host reads no key but
-- those that the keypresses call for, in their order and none twice, whatever the host and the bus do
-- and even when the keyboard hangs. Until then the keyboard does with its layers and its storage what
-- the keypresses are for, whatever becomes of the reports, and when nothing disturbs a report either
-- and every call succeeds the host reads all of the keys.
theorem typed_as_pressed (descriptorList : List DescriptorContainer) (polls : ℕ) (script : Script)
    (events : List Happening) :
    let b := events.foldl (happen descriptorList polls) (plugged script)
    let a := final (LayerController.press Ideal.devices) (Board.boot ⟨Shortcuts.empty, []⟩)
      (events.filterMap Happening.keypress?)
    (¬ b.world.Hangs → b.cursors = a.cursors ∧
        Represents b.world.chips.view a.world.shortcuts) ∧
      ((∀ e ∈ events, e.Whole descriptorList polls) →
        b.world.typed.Sublist (strokes a.world.keypresses) ∧
          (b.world.AllSent → (∀ e ∈ events, e.Undisturbed) →
            b.world.typed = strokes a.world.keypresses)) := by
  intro b a
  let care : Care descriptorList polls :=
    ⟨∀ e ∈ events, e.Whole descriptorList polls, ∀ e ∈ events, e.Undisturbed⟩
  have hallowed : ∀ e ∈ events, e.Allowed care := by
    rintro (_ | _) hmem
    · exact fun n => ⟨fun hw => hw _ hmem n, fun hu => hu _ hmem n⟩
    · trivial
  have hrun : Alongside care b a := alongside_run (plugged_alongside script) hallowed
  refine ⟨fun hreturns => ?_, fun hwhole => ?_⟩
  · obtain ⟨hcursors, -, hpaced⟩ := hrun.alike hreturns
    exact ⟨hcursors, hpaced.represents⟩
  · obtain ⟨key, mod, hears⟩ := hrun.sound.rests hwhole
    have hasked : b.world.typed.Sublist (strokes b.world.calls) := by
      rw [← hrun.sound.asked]
      exact hears.host.1.typed
    refine ⟨hasked.trans (strokes_sublist hrun.called), fun hall hundisturbed => ?_⟩
    have hreturns : ¬ b.world.Hangs := fun hhangs => by cases hall _ hhangs
    rw [← (hrun.alike hreturns).paced.all hall]
    refine hasked.eq_of_length_le ?_
    have hlength := ((hears.host.2 hundisturbed).typed).length_le
    rwa [List.length_map, List.length_map, hrun.sound.confirmed hall, hrun.sound.asked] at hlength

def storingWord : List Happening :=
  [Keypress.xyz, .xyz, .xy, .x, .x, .x, .x, .z, .x, .z, .xyz, .z].map fun k =>
    .press k fun _ => ⟨Usb.writableLine, Usb.everyFrame⟩

theorem typed_as_pressed_word :
    (storingWord.foldl (happen [] 1) (plugged Usb.writableLine)).world.typed = [(0, 4), (0, 5)] := by
  have hwhole : ∀ e ∈ storingWord, e.Whole [] 1 := by
    intro e hmem
    obtain ⟨k, -, rfl⟩ := List.mem_map.mp hmem
    exact fun _ => Usb.everyFrame_whole [] 1
  have hundisturbed : ∀ e ∈ storingWord, e.Undisturbed := by
    intro e hmem
    obtain ⟨k, -, rfl⟩ := List.mem_map.mp hmem
    exact fun _ => Usb.everyFrame_undisturbing
  have hall : (storingWord.foldl (happen [] 1) (plugged Usb.writableLine)).world.AllSent := by
    unfold Plugged.AllSent
    decide +kernel
  have hideal : strokes (final (LayerController.press Ideal.devices)
      (Board.boot ⟨Shortcuts.empty, []⟩)
      (storingWord.filterMap Happening.keypress?)).world.keypresses = [(0, 4), (0, 5)] := by
    decide +kernel
  have htyped := typed_as_pressed [] 1 Usb.writableLine storingWord
  exact ((htyped.2 hwhole).2 hall hundisturbed).trans hideal

end Threeboard.Integration
