import Threeboard.Storage.Sending

namespace Threeboard.Storage

open Actions Actions.Action Records

inductive Request where
  | setCharacter (index character : UInt8)
  | getCharacter (index : UInt8)
  | appendToWord (index character : UInt8)
  | clearWord (index : UInt8)
  | getWordLength (index : UInt8)
  | sendWord (index rawModCode : UInt8)
  | appendToBlob (index character modcode : UInt8)
  | clearBlob (index : UInt8)
  | getBlobLength (index : UInt8)
  | sendBlob (index : UInt8)
  deriving DecidableEq, Repr

structure Response where
  ok : Bool
  output : Option UInt8
  keypresses : List (UInt8 × UInt8)
  deriving DecidableEq, Repr

namespace Response

def done : Response := ⟨true, none, []⟩

def rejected : Response := ⟨false, none, []⟩

def value (x : UInt8) : Response := ⟨true, some x, []⟩

def typed (ok : Bool) (keypresses : List (UInt8 × UInt8)) : Response := ⟨ok, none, keypresses⟩

end Response

section Controller

variable {σ : Type}

def silently (x : Action σ Unit) : Action σ (Option UInt8) := do
  x
  pure none

def outputting (x : Action σ UInt8) : Action σ (Option UInt8) := do
  let output ← x
  pure (some output)

def Request.run (c : StorageMethods σ) : Request → Action σ (Option UInt8)
  | .setCharacter index character => silently (c.setCharacterShortcut index character)
  | .getCharacter index => outputting (c.getCharacterShortcut index)
  | .appendToWord index character => silently (c.appendToWordShortcut index character)
  | .clearWord index => silently (c.clearWordShortcut index)
  | .getWordLength index => outputting (c.getWordShortcutLength index)
  | .sendWord index rawModCode => silently (c.sendWordShortcut index rawModCode)
  | .appendToBlob index character modcode =>
    silently (c.appendToBlobShortcut index character modcode)
  | .clearBlob index => silently (c.clearBlobShortcut index)
  | .getBlobLength index => outputting (c.getBlobShortcutLength index)
  | .sendBlob index => silently (c.sendBlobShortcut index)

end Controller

def Bench.serve (b : Bench) (r : Request) : Response × Bench :=
  let result := r.run Bench.controller.methods b
  (⟨result.1.isSome, result.1.join, result.2.keypresses.drop b.keypresses.length⟩, result.2)

namespace Shortcuts

variable (s : Shortcuts)

def serveBlob (index : UInt8) (answer : BlobId → Response × Shortcuts) : Response × Shortcuts :=
  if h : index ≤ kLayerBMaxIndex then answer ⟨index, h⟩ else (.rejected, s)

theorem serveBlob_of_le (id : BlobId) (answer : BlobId → Response × Shortcuts) :
    s.serveBlob id.1 answer = answer id := dif_pos id.2

def serve : Request → Response × Shortcuts
  | .setCharacter index character => (.done, s.setCharacter index character)
  | .getCharacter index => (.value (s.characters index), s)
  | .appendToWord index character =>
    if h : s.wordFull index then (.rejected, s) else (.done, s.appendWord index character h)
  | .clearWord index => (.done, s.clearWord index)
  | .getWordLength index => (.value (UInt8.ofNat (s.words index).1.length), s)
  | .sendWord index rawModCode =>
    (.typed ((s.words index).1 ≠ []) (wordKeypresses rawModCode (s.words index).1), s)
  | .appendToBlob index character modcode => s.serveBlob index fun id =>
    if h : s.blobFull id then (.rejected, s) else (.done, s.appendBlob id (character, modcode) h)
  | .clearBlob index => s.serveBlob index fun id => (.done, s.clearBlob id)
  | .getBlobLength index => s.serveBlob index fun id =>
    (.value (UInt8.ofNat (s.blobs id).1.length), s)
  | .sendBlob index => s.serveBlob index fun id =>
    (.typed ((s.blobs id).1 ≠ []) (s.blobs id).1, s)

end Shortcuts

namespace Bench

structure Succeeded (b : Bench) (s : Shortcuts) (r : Request) (output : Option UInt8)
    (t : Bench) : Prop where
  represents : Represents t.view (s.serve r).2
  response : (s.serve r).1 = ⟨true, output, (s.serve r).1.keypresses⟩
  keypresses : t.keypresses = b.keypresses ++ (s.serve r).1.keypresses
  calm : b.Calm → t.Calm

structure Failed (b : Bench) (s : Shortcuts) (r : Request) (t : Bench) : Prop where
  represents : Represents t.view s
  refused : b.Calm → s.serve r = (.rejected, s) ∧ t.keypresses = b.keypresses ∧ t.Calm

variable {b : Bench} {s : Shortcuts}

theorem Becomes.succeeded {t : Bench} {u : Shortcuts} {r : Request} (h : Becomes b u t)
    (hr : s.serve r = (.done, u)) : Succeeded b s r none t := by
  refine ⟨by rw [hr]; exact h.represents, by rw [hr]; rfl, ?_, h.calm⟩
  rw [hr, h.keypresses]
  exact (List.append_nil _).symm

theorem Becomes.failed {t : Bench} {r : Request} (h : Becomes b s t)
    (hr : b.Calm → s.serve r = (.rejected, s)) : Failed b s r t :=
  ⟨h.represents, fun hc => ⟨hr hc, h.keypresses, h.calm hc⟩⟩

theorem Sending.represents {t : Bench} (h : Sending b t) (hb : Represents b.view s) :
    Represents t.view s := by
  rw [h.view]
  exact hb

theorem serve_refused (h : Represents b.view s) {r : Request}
    (hr : s.serve r = (.rejected, s)) : Failed b s r b :=
  ⟨h, fun hc => ⟨hr, rfl, hc⟩⟩

theorem wp_silently {x : Action Bench Unit} {Q : Option UInt8 → Bench → Prop}
    {E : Bench → Prop} (h : wp x (fun _ => Q none) E b) : wp (silently x) Q E b := by
  rw [silently, wp_bind]
  exact h

theorem outputting_of_some {x : Action Bench UInt8} {y : UInt8} (h : x b = (some y, b)) :
    outputting x b = (some (some y), b) := by
  simp [outputting, bind_of_some h]

theorem wp_output (h : Represents b.view s) {x : Action Bench UInt8} {r : Request} {y : UInt8}
    (hx : x b = (some y, b)) (hr : s.serve r = (.value y, s)) :
    wp (outputting x) (Succeeded b s r) (Failed b s r) b := by
  refine wp_of_some (outputting_of_some hx) ⟨by rw [hr]; exact h, by rw [hr]; rfl, ?_, id⟩
  rw [hr]
  exact (List.append_nil _).symm

theorem wp_send (h : Represents b.view s) {x : Action Bench Unit} {r : Request} {α : Type}
    {record : List α} {ok : Bool} {keys : List (UInt8 × UInt8)} {P : Bench → Prop}
    (hr : s.serve r = (.typed ok keys, s)) (hok : ok = true ↔ record ≠ [])
    (hempty : record = [] → keys = [])
    (hx : wp x (fun _ t => record ≠ [] ∧ Sending b t ∧ t.keypresses = b.keypresses ++ keys)
      (fun t => (b.Calm → record = [] ∧ t.keypresses = b.keypresses) ∧ Sending b t ∧ P t) b) :
    wp (silently x) (Succeeded b s r) (Failed b s r) b := by
  refine wp_silently (wp_mono hx ?_ ?_)
  · rintro - t ⟨hne, ht, hk⟩
    refine ⟨by rw [hr]; exact ht.represents h, ?_, by rw [hr]; exact hk, ht.calm⟩
    rw [hr, hok.mpr hne]
    rfl
  · rintro t ⟨hc, ht, -⟩
    refine ⟨ht.represents h, fun hcalm => ⟨?_, (hc hcalm).2, ht.calm hcalm⟩⟩
    have hfalse : ok = false := by
      rw [← Bool.not_eq_true, hok]
      exact not_not.mpr (hc hcalm).1
    rw [hr, hempty (hc hcalm).1, hfalse]
    rfl

theorem run_of_gt {index : UInt8} (h : ¬ index ≤ kLayerBMaxIndex) (x : Action Bench Unit) :
    silently (if index > kLayerBMaxIndex then Action.stop else x) b = (none, b) := by
  rw [if_pos (UInt8.not_le.mp h)]
  rfl

theorem serve_spec (h : Represents b.view s) (r : Request) :
    wp (r.run controller.methods) (Succeeded b s r) (Failed b s r) b := by
  cases r with
  | setCharacter index character =>
    exact wp_silently (wp_mono (setCharacterShortcut_spec h index character)
      (fun _ _ ht => ht.succeeded rfl) (fun _ hf => hf.elim))
  | getCharacter index => exact wp_output h (getCharacterShortcut_run h index) rfl
  | appendToWord index character =>
    refine wp_silently (wp_mono (appendToWordShortcut_spec h index character) ?_ ?_)
    · rintro - t ⟨hfull, ht⟩
      exact ht.succeeded (dif_neg hfull)
    · rintro t ⟨hfull, ht⟩
      exact ht.failed fun hc => dif_pos (hfull hc)
  | clearWord index =>
    exact wp_silently (wp_mono (clearWordShortcut_spec h index)
      (fun _ _ ht => ht.succeeded rfl) (fun _ hf => hf.elim))
  | getWordLength index => exact wp_output h (getWordShortcutLength_run h index) rfl
  | sendWord index rawModCode =>
    refine wp_send h rfl decide_eq_true_iff (fun hnil => ?_)
      (sendWordShortcut_spec h index rawModCode)
    rw [hnil]
    rfl
  | appendToBlob index character modcode =>
    by_cases hid : index ≤ kLayerBMaxIndex
    · refine wp_silently (wp_mono (appendToBlobShortcut_spec h ⟨index, hid⟩ character modcode) ?_ ?_)
      · rintro - t ⟨hfull, ht⟩
        exact ht.succeeded ((dif_pos hid).trans (dif_neg hfull))
      · rintro t ⟨hfull, ht⟩
        exact ht.failed fun hc => (dif_pos hid).trans (dif_pos (hfull hc))
    · exact wp_of_none (run_of_gt hid _) (serve_refused h (dif_neg hid))
  | clearBlob index =>
    by_cases hid : index ≤ kLayerBMaxIndex
    · exact wp_silently (wp_mono (clearBlobShortcut_spec h ⟨index, hid⟩)
        (fun _ _ ht => ht.succeeded (dif_pos hid)) (fun _ hf => hf.elim))
    · exact wp_of_none (run_of_gt hid _) (serve_refused h (dif_neg hid))
  | getBlobLength index =>
    by_cases hid : index ≤ kLayerBMaxIndex
    · exact wp_output h (getBlobShortcutLength_run h ⟨index, hid⟩) (dif_pos hid)
    · refine wp_of_none (t := b) ?_ (serve_refused h (dif_neg hid))
      change outputting (if index > kLayerBMaxIndex then _ else _) b = _
      rw [if_pos (UInt8.not_le.mp hid)]
      rfl
  | sendBlob index =>
    by_cases hid : index ≤ kLayerBMaxIndex
    · exact wp_send h (dif_pos hid) decide_eq_true_iff id
        (sendBlobShortcut_spec h ⟨index, hid⟩)
    · exact wp_of_none (run_of_gt hid _) (serve_refused h (dif_neg hid))

theorem serve_of_some {r : Request} {output : Option UInt8} {t : Bench}
    (h : r.run controller.methods b = (some output, t)) :
    b.serve r = (⟨true, output, t.keypresses.drop b.keypresses.length⟩, t) := by
  simp [serve, h]

theorem serve_of_none {r : Request} {t : Bench} (h : r.run controller.methods b = (none, t)) :
    b.serve r = (⟨false, none, t.keypresses.drop b.keypresses.length⟩, t) := by
  simp [serve, h]

theorem serve_cases (h : Represents b.view s) (r : Request) :
    ((b.serve r).1.ok = true ∧ (b.serve r).1 = (s.serve r).1 ∧
      Succeeded b s r (b.serve r).1.output (b.serve r).2) ∨
    ((b.serve r).1.ok = false ∧ (b.serve r).1.output = none ∧ Failed b s r (b.serve r).2) := by
  have hspec := serve_spec h r
  rcases hrun : r.run controller.methods b with ⟨_ | output, t⟩
  · have hfail := wp_none hspec hrun
    rw [serve_of_none hrun]
    exact .inr ⟨rfl, rfl, hfail⟩
  · have hsucc := wp_some hspec hrun
    rw [serve_of_some hrun, hsucc.keypresses, List.drop_left]
    exact .inl ⟨rfl, hsucc.response.symm, hsucc⟩

end Bench

end Threeboard.Storage
