import Threeboard.Library.Reaching
import Threeboard.Layers.Modes
import Threeboard.Integration.Effects
import Threeboard.Integration.Running
import Threeboard.Integration.Booting

namespace Threeboard.Integration

open Actions Actions.Action Keys Layers Relation Runs Storage

namespace Content

def Leads : Content → Content → Prop := ReflTransGen fun q q' => ∃ k, q.press k = q'

theorem leads_press (q : Content) (k : Keypress) : Leads q (q.press k) := .single ⟨k, rfl⟩

theorem Leads.oneProg {q q' : Content} (h : Leads q q') (hq : q.cursors.OneProg) :
    q'.cursors.OneProg := by
  induction h with
  | refl => exact hq
  | tail _ hstep ih =>
    obtain ⟨k, rfl⟩ := hstep
    exact ih.press k

structure Home (q : Content) : Prop where
  layer : q.cursors.currentLayer = .dflt
  layerR : q.cursors.layerR.prog = false
  layerG : q.cursors.layerG.prog = false
  layerB : q.cursors.layerB.prog = false

theorem not_prog {q : Content} (h : q.cursors.OneProg) {l : LayerId}
    (hl : l ≠ q.cursors.currentLayer) : q.cursors.progOf l = false := by
  rw [← Bool.not_eq_true]
  exact fun hp => hl (h l hp).1

theorem leads_xyz (q : Content) (n : ℕ) : Leads q ((press · .xyz)^[n] q) := by
  induction n with
  | zero => exact .refl
  | succ n ih =>
    rw [Function.iterate_succ_apply']
    exact ih.tail ⟨.xyz, rfl⟩

theorem leads_home {q : Content} (h : q.cursors.OneProg) :
    ∃ q', Leads q q' ∧ q'.world = q.world ∧ Home q' := by
  have hr := not_prog h (l := .r)
  have hg := not_prog h (l := .g)
  have hb := not_prog h (l := .b)
  obtain ⟨⟨cur, ld, ⟨progR, idR, modR, charR⟩, ⟨progG, idG, codeG, keyG⟩, ⟨progB, idB, keyB, modB⟩⟩,
    w⟩ := q
  cases cur with
  | dflt => exact ⟨_, .refl, rfl, rfl, hr (by simp), hg (by simp), hb (by simp)⟩
  | r =>
    obtain rfl : progG = false := hg (by simp)
    obtain rfl : progB = false := hb (by simp)
    cases progR with
    | false => exact ⟨_, leads_xyz _ 3, rfl, rfl, rfl, rfl, rfl⟩
    | true => exact ⟨_, leads_xyz _ 4, rfl, rfl, rfl, rfl, rfl⟩
  | g =>
    obtain rfl : progR = false := hr (by simp)
    obtain rfl : progB = false := hb (by simp)
    cases progG with
    | false => exact ⟨_, leads_xyz _ 2, rfl, rfl, rfl, rfl, rfl⟩
    | true => exact ⟨_, leads_xyz _ 3, rfl, rfl, rfl, rfl, rfl⟩
  | b =>
    obtain rfl : progR = false := hr (by simp)
    obtain rfl : progG = false := hg (by simp)
    cases progB with
    | false => exact ⟨_, leads_xyz _ 1, rfl, rfl, rfl, rfl, rfl⟩
    | true => exact ⟨_, leads_xyz _ 2, rfl, rfl, rfl, rfl, rfl⟩

def Does (q : Content) (e : Effect) : Prop := ∃ q', Leads q q' ∧ q'.world = after q.world e

theorem Does.of_leads {q q' : Content} {e : Effect} (h : Leads q q') (hworld : q'.world = q.world)
    (hdoes : Does q' e) : Does q e := by
  obtain ⟨r, hr, hafter⟩ := hdoes
  exact ⟨r, h.trans hr, hworld ▸ hafter⟩

section FromHome

variable {q : Content} (h : Home q)

include h

theorem home_types (key mod : UInt8) : Does q (.type key mod) := by
  obtain ⟨⟨cur, ⟨prog, bank0, bank1⟩, lr, lg, lb⟩, w⟩ := q
  obtain rfl : cur = .dflt := h.layer
  let banks (bank0 bank1 : UInt8) : Content := ⟨⟨.dflt, ⟨prog, bank0, bank1⟩, lr, lg, lb⟩, w⟩
  have hkey : Leads (banks bank0 bank1) (banks key bank1) :=
    Reaching.cycle (f := fun n => banks n bank1) (fun n => leads_press (banks n bank1) .x) _ _
  have hmod : Leads (banks key bank1) (banks key mod) :=
    Reaching.cycle (f := banks key) (fun n => leads_press (banks key n) .y) _ _
  exact ⟨_, (hkey.trans hmod).trans (leads_press _ .z), rfl⟩

theorem home_sets (id character : UInt8) : Does q (.request (.setCharacter id character)) := by
  obtain ⟨⟨cur, ld, ⟨prog, idR, modR, charR⟩, lg, lb⟩, w⟩ := q
  obtain rfl : cur = .dflt := h.layer
  obtain rfl : prog = false := h.layerR
  let selected (n : UInt8) : Content := ⟨⟨.r, ld, ⟨false, n, modR, charR⟩, lg, lb⟩, w⟩
  let stored (n : UInt8) : Content :=
    ⟨⟨.r, ld, ⟨true, id, modR, charR⟩, lg, lb⟩, ⟨w.shortcuts.setCharacter id n, w.keypresses⟩⟩
  have hid : Leads (selected idR) (selected id) :=
    Reaching.cycle (f := selected) (fun n => leads_press (selected n) .x) _ _
  have hsame : w.shortcuts.setCharacter id (w.shortcuts.characters id) = w.shortcuts := by
    rw [Shortcuts.setCharacter, Function.update_eq_self]
  have hprog : Leads (selected id) (stored (w.shortcuts.characters id)) := by
    simp only [stored, hsame]
    exact leads_press (selected id) .xy
  have hnext (n : UInt8) : (stored n).press .x = stored (n + 1) := by
    simp [stored, press, effect, effectR, after, served, Shortcuts.serve, Shortcuts.setCharacter,
      Response.done, Cursors.press, Cursors.leaves, Cursors.edit, LayerR.press]
  have hchar : Leads (stored (w.shortcuts.characters id)) (stored character) :=
    Reaching.cycle (f := stored) (fun n => .single ⟨.x, hnext n⟩) _ _
  have hswitch : Leads ⟨⟨.dflt, ld, ⟨false, idR, modR, charR⟩, lg, lb⟩, w⟩ (selected idR) :=
    leads_press _ .xyz
  refine ⟨_, ((hswitch.trans hid).trans hprog).trans hchar, ?_⟩
  simp [stored, after, served, Shortcuts.serve, Response.done]

theorem home_selects_word (id : UInt8) : ∃ code key, Leads q
    ⟨⟨.g, q.cursors.layerDefault, q.cursors.layerR, ⟨false, id, code, key⟩, q.cursors.layerB⟩,
      q.world⟩ := by
  obtain ⟨⟨cur, ld, ⟨progR, idR, modR, charR⟩, ⟨progG, idG, codeG, keyG⟩, lb⟩, w⟩ := q
  obtain rfl : cur = .dflt := h.layer
  obtain rfl : progR = false := h.layerR
  obtain rfl : progG = false := h.layerG
  let selected (n : UInt8) : Content :=
    ⟨⟨.g, ld, ⟨false, idR, modR, charR⟩, ⟨false, n, codeG, keyG⟩, lb⟩, w⟩
  have hid : Leads (selected idG) (selected id) :=
    Reaching.cycle (f := selected) (fun n => leads_press (selected n) .x) _ _
  exact ⟨codeG, keyG, (leads_xyz _ 2).trans hid⟩

theorem home_selects_blob (id : UInt8) : ∃ key mod, Leads q
    ⟨⟨.b, q.cursors.layerDefault, q.cursors.layerR, q.cursors.layerG, ⟨false, id, key, mod⟩⟩,
      q.world⟩ := by
  obtain ⟨⟨cur, ld, ⟨progR, idR, modR, charR⟩, ⟨progG, idG, codeG, keyG⟩, ⟨progB, idB, keyB, modB⟩⟩,
    w⟩ := q
  obtain rfl : cur = .dflt := h.layer
  obtain rfl : progR = false := h.layerR
  obtain rfl : progG = false := h.layerG
  obtain rfl : progB = false := h.layerB
  let selected (n : UInt8) : Content :=
    ⟨⟨.b, ld, ⟨false, idR, modR, charR⟩, ⟨false, idG, codeG, keyG⟩, ⟨false, n, keyB, modB⟩⟩, w⟩
  have hid : Leads (selected idB) (selected id) :=
    Reaching.cycle (f := selected) (fun n => leads_press (selected n) .x) _ _
  exact ⟨keyB, modB, (leads_xyz _ 3).trans hid⟩

end FromHome

section Layers

variable (ld : DefaultLayer) (lr : LayerR) (lg : LayerG) (lb : LayerB) (w : Ideal)
  (id code key mod : UInt8)

theorem word_sent : Does ⟨⟨.g, ld, lr, ⟨false, id, code, key⟩, lb⟩, w⟩
    (.request (.sendWord id mod)) := by
  let selected (n : UInt8) : Content := ⟨⟨.g, ld, lr, ⟨false, id, n, key⟩, lb⟩, w⟩
  have hcode : Leads (selected code) (selected mod) :=
    Reaching.cycle (f := selected) (fun n => leads_press (selected n) .y) _ _
  exact ⟨_, hcode.trans (leads_press _ .z), rfl⟩

theorem word_cleared : Does ⟨⟨.g, ld, lr, ⟨false, id, code, key⟩, lb⟩, w⟩
    (.request (.clearWord id)) :=
  ⟨_, (leads_press _ .xy).trans (leads_press _ .yz), rfl⟩

theorem word_appended (character : UInt8) :
    Does ⟨⟨.g, ld, lr, ⟨false, id, code, key⟩, lb⟩, w⟩ (.request (.appendToWord id character)) := by
  let chosen (n : UInt8) : Content := ⟨⟨.g, ld, lr, ⟨true, id, code, n⟩, lb⟩, w⟩
  have hkey : Leads (chosen key) (chosen character) :=
    Reaching.cycle (f := chosen) (fun n => leads_press (chosen n) .x) _ _
  have hprog : Leads ⟨⟨.g, ld, lr, ⟨false, id, code, key⟩, lb⟩, w⟩ (chosen key) :=
    leads_press _ .xy
  exact ⟨_, (hprog.trans hkey).trans (leads_press _ .z), rfl⟩

theorem blob_sent : Does ⟨⟨.b, ld, lr, lg, ⟨false, id, key, mod⟩⟩, w⟩ (.request (.sendBlob id)) :=
  ⟨_, leads_press _ .z, rfl⟩

theorem blob_cleared :
    Does ⟨⟨.b, ld, lr, lg, ⟨false, id, key, mod⟩⟩, w⟩ (.request (.clearBlob id)) :=
  ⟨_, (leads_press _ .xy).trans (leads_press _ .xy), rfl⟩

theorem blob_appended (character modcode : UInt8) :
    Does ⟨⟨.b, ld, lr, lg, ⟨false, id, key, mod⟩⟩, w⟩
      (.request (.appendToBlob id character modcode)) := by
  let chosen (key mod : UInt8) : Content := ⟨⟨.b, ld, lr, lg, ⟨true, id, key, mod⟩⟩, w⟩
  have hkey : Leads (chosen key mod) (chosen character mod) :=
    Reaching.cycle (f := fun n => chosen n mod) (fun n => leads_press (chosen n mod) .x) _ _
  have hmod : Leads (chosen character mod) (chosen character modcode) :=
    Reaching.cycle (f := chosen character) (fun n => leads_press (chosen character n) .y) _ _
  have hprog : Leads ⟨⟨.b, ld, lr, lg, ⟨false, id, key, mod⟩⟩, w⟩ (chosen key mod) :=
    leads_press _ .xy
  exact ⟨_, ((hprog.trans hkey).trans hmod).trans (leads_press _ .z), rfl⟩

end Layers

theorem does {q : Content} (h : q.cursors.OneProg) (e : Effect) : Does q e := by
  obtain ⟨q', hleads, hworld, hhome⟩ := leads_home h
  refine .of_leads hleads hworld ?_
  cases e with
  | nothing => exact ⟨_, .refl, rfl⟩
  | type key mod => exact home_types hhome key mod
  | request r =>
    have word {id : UInt8} {r : Request} (hdoes : ∀ ld lr lb code key,
        Does ⟨⟨.g, ld, lr, ⟨false, id, code, key⟩, lb⟩, q'.world⟩ (.request r)) :
        Does q' (.request r) := by
      obtain ⟨code, key, hselects⟩ := home_selects_word hhome id
      exact .of_leads hselects rfl (hdoes _ _ _ code key)
    have blob {id : UInt8} {r : Request} (hdoes : ∀ ld lr lg key mod,
        Does ⟨⟨.b, ld, lr, lg, ⟨false, id, key, mod⟩⟩, q'.world⟩ (.request r)) :
        Does q' (.request r) := by
      obtain ⟨key, mod, hselects⟩ := home_selects_blob hhome id
      exact .of_leads hselects rfl (hdoes _ _ _ key mod)
    cases r with
    | setCharacter id character => exact home_sets hhome id character
    | getCharacter id => exact ⟨q', .refl, (served_of_gets (r := .getCharacter id) trivial _).symm⟩
    | getWordLength id => exact ⟨q', .refl, (served_of_gets (r := .getWordLength id) trivial _).symm⟩
    | getBlobLength id => exact ⟨q', .refl, (served_of_gets (r := .getBlobLength id) trivial _).symm⟩
    | appendToWord id character =>
      exact word fun ld lr lb code key => word_appended ld lr lb q'.world id code key character
    | clearWord id => exact word fun ld lr lb code key => word_cleared ld lr lb q'.world id code key
    | sendWord id mod => exact word fun ld lr lb code key => word_sent ld lr lb q'.world id code key mod
    | appendToBlob id character modcode =>
      exact blob fun ld lr lg key mod =>
        blob_appended ld lr lg q'.world id key mod character modcode
    | clearBlob id => exact blob fun ld lr lg key mod => blob_cleared ld lr lg q'.world id key mod
    | sendBlob id => exact blob fun ld lr lg key mod => blob_sent ld lr lg q'.world id key mod

def Reaches (q : Content) (w : Ideal) : Prop := ∃ q', Leads q q' ∧ q'.world = w

namespace Reaches

variable {q : Content} {s : Shortcuts} {strokes : List (UInt8 × UInt8)}

theorem after (hq : q.cursors.OneProg) {w : Ideal} (h : q.Reaches w) (e : Effect) :
    q.Reaches (Integration.after w e) := by
  obtain ⟨q', hleads, rfl⟩ := h
  obtain ⟨r, hdoes, hworld⟩ := does (hleads.oneProg hq) e
  exact ⟨r, hleads.trans hdoes, hworld⟩

theorem stores (hq : q.cursors.OneProg) (h : q.Reaches ⟨s, strokes⟩) {r : Request} {s' : Shortcuts}
    (hserve : s.serve r = (.done, s')) : q.Reaches ⟨s', strokes⟩ := by
  have hafter := h.after hq (.request r)
  simpa [Integration.after, served, hserve, Response.done] using hafter

theorem setWord (hq : q.cursors.OneProg) (h : q.Reaches ⟨s, strokes⟩) (id : UInt8) (word : Word) :
    q.Reaches ⟨s.setWord id word, strokes⟩ := by
  obtain ⟨chars, hlen⟩ := word
  induction chars using List.reverseRecOn with
  | nil => exact h.stores hq (r := .clearWord id) rfl
  | append_singleton chars character ih =>
    rw [List.length_append, List.length_singleton] at hlen
    have hprefix : chars.length ≤ 15 := by omega
    have hroom : ¬ (s.setWord id ⟨chars, hprefix⟩).wordFull id := by
      simp only [Shortcuts.wordFull, Shortcuts.setWord, Function.update_self]
      omega
    refine (ih hprefix).stores hq (r := .appendToWord id character) ?_
    simp only [Shortcuts.serve, dif_neg hroom]
    simp [Shortcuts.appendWord, Shortcuts.setWord]

theorem setBlob (hq : q.cursors.OneProg) (h : q.Reaches ⟨s, strokes⟩) (id : BlobId) (blob : Blob) :
    q.Reaches ⟨s.setBlob id blob, strokes⟩ := by
  obtain ⟨pairs, hlen⟩ := blob
  induction pairs using List.reverseRecOn with
  | nil =>
    refine h.stores hq (r := .clearBlob id.1) ?_
    rw [Shortcuts.serve, Shortcuts.serveBlob_of_le]
    rfl
  | append_singleton pairs pair ih =>
    rw [List.length_append, List.length_singleton] at hlen
    have hprefix : pairs.length ≤ 255 := by omega
    have hroom : ¬ (s.setBlob id ⟨pairs, hprefix⟩).blobFull id := by
      simp only [Shortcuts.blobFull, Shortcuts.setBlob, Function.update_self]
      omega
    refine (ih hprefix).stores hq (r := .appendToBlob id.1 pair.1 pair.2) ?_
    simp only [Shortcuts.serve, Shortcuts.serveBlob_of_le, dif_neg hroom]
    simp [Shortcuts.appendBlob, Shortcuts.setBlob]

theorem shortcuts (hq : q.cursors.OneProg) (h : q.Reaches ⟨s, strokes⟩) (s' : Shortcuts) :
    q.Reaches ⟨s', strokes⟩ := by
  have hcharacters : q.Reaches ⟨⟨s'.characters, s.words, s.blobs⟩, strokes⟩ :=
    Reaching.map (P := fun f => q.Reaches ⟨⟨f, s.words, s.blobs⟩, strokes⟩)
      (fun _ id character hf => hf.stores hq (r := .setCharacter id character) rfl) h _
  have hwords : q.Reaches ⟨⟨s'.characters, s'.words, s.blobs⟩, strokes⟩ :=
    Reaching.map (P := fun f => q.Reaches ⟨⟨s'.characters, f, s.blobs⟩, strokes⟩)
      (fun _ id word hf => hf.setWord hq id word) hcharacters _
  exact Reaching.map (P := fun f => q.Reaches ⟨⟨s'.characters, s'.words, f⟩, strokes⟩)
    (fun _ id blob hf => hf.setBlob hq id blob) hwords _

theorem typing (hq : q.cursors.OneProg) (h : q.Reaches ⟨s, strokes⟩)
    (more : List (UInt8 × UInt8)) : q.Reaches ⟨s, strokes ++ more⟩ := by
  induction more using List.reverseRecOn with
  | nil => rwa [List.append_nil]
  | append_singleton more stroke ih =>
    rw [← List.append_assoc]
    exact ih.after hq (.type stroke.1 stroke.2)

end Reaches

end Content

def Performed (q : Content) (b : Board Bench) : Prop :=
  ∃ a, Mirrors Faultless b a ∧ ProgChar a ∧ contentOf a = q

namespace Performed

variable {q : Content} {b : Board Bench}

theorem press (h : Performed q b) (hq : q.cursors.OneProg) (k : Keypress) :
    Performed (q.press k) (pressed b k) := by
  obtain ⟨a, hmirrors, hcached, rfl⟩ := h
  refine ⟨_, (handleEvent_mirrors follows_ideal k b a hmirrors).2, ?_, ?_⟩
  · exact press_charCached ideal_legible hq k
  · exact congrArg₂ Content.mk (press_cursors Ideal.devices a k) (press_world hcached k)

theorem presses (h : Performed q b) (hq : q.cursors.OneProg) (keys : List Keypress) :
    Performed (keys.foldl Content.press q) (final (LayerController.press faultyDevices) b keys) := by
  induction keys generalizing q b with
  | nil => exact h
  | cons k keys ih => exact ih (h.press hq k) (hq.press k)

theorem reaches (h : Performed q b) (hq : q.cursors.OneProg) {w : Ideal} (hw : q.Reaches w) :
    ∃ keys, Faultless (final (LayerController.press faultyDevices) b keys).world w := by
  obtain ⟨q', hleads, rfl⟩ := hw
  obtain ⟨keys, rfl⟩ := Reaching.exists_inputs hleads
  obtain ⟨a, hmirrors, _, hcontent⟩ := h.presses hq keys
  refine ⟨keys, ?_⟩
  rw [← hcontent]
  exact hmirrors.world

end Performed

-- After any keypresses there are keypresses for everything: each single effect, and each content
-- of the storage after any strokes typed.
theorem everything_programmable (keys : List Keypress) :
    let press := LayerController.press faultyDevices
    let b := final press (Board.boot (.start erased fun _ => .succeed)) keys
    ∃ w, Faultless b.world w ∧
      (∀ e, ∃ more, Faultless (final press b more).world (after w e)) ∧
      ∀ s strokes, ∃ more, Faultless (final press b more).world ⟨s, w.keypresses ++ strokes⟩ := by
  intro press b
  have hboot : Performed ⟨(Board.boot ()).cursors, ⟨Shortcuts.empty, []⟩⟩
      (Board.boot (.start erased fun _ => .succeed)) :=
    ⟨Board.boot ⟨Shortcuts.empty, []⟩, ⟨rfl, rfl, rfl, rfl, rfl, rfl, bench_faultless⟩,
      fun hr => by simp [Board.boot] at hr, rfl⟩
  obtain ⟨q, hq⟩ : ∃ q, Performed q b := ⟨_, hboot.presses (boot_oneProg ()) keys⟩
  have hone : q.cursors.OneProg := by
    obtain ⟨a, hmirrors, _, rfl⟩ := hq
    rw [contentOf, ← hmirrors.cursors]
    exact final_oneProg (boot_oneProg _) keys
  have hhere : q.Reaches q.world := ⟨q, .refl, rfl⟩
  refine ⟨q.world, ?_, fun e => ?_, fun s strokes => ?_⟩
  · obtain ⟨a, hmirrors, _, rfl⟩ := hq
    exact hmirrors.world
  · exact hq.reaches hone (hhere.after hone e)
  · exact hq.reaches hone ((hhere.shortcuts hone s).typing hone strokes)

end Threeboard.Integration
