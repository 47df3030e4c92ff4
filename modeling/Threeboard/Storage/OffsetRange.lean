import Threeboard.Library.Runs
import Threeboard.Storage.Faults
import Threeboard.Storage.Target

namespace Threeboard.Storage

open Actions Actions.Action Integers Runs

inductive WordOffset (index : UInt8) : Expr → Prop
  | length : WordOffset index (OffsetExpr.length kInternalEepromLayerGLengthStart index)
  | character {position : Expr} {n : ℕ} (h : ∀ width, Counts width position n) (hn : n < 256) :
    WordOffset index (OffsetExpr.wordCharacter index position)

inductive BlobOffset (index : UInt8) : Expr → Prop
  | length : BlobOffset index (OffsetExpr.length kInternalEepromLayerBLengthStart index)
  | pair {position : Expr} {n : ℕ} (h : ∀ width, Counts width position n) (hn : n < 255) :
    BlobOffset index (OffsetExpr.blobPair index position)
  | next (eepromIdx : UInt16) : BlobOffset index (OffsetExpr.next eepromIdx)

theorem WordOffset.defined {index : UInt8} {e : Expr} (h : WordOffset index e) : e.Defined 16 := by
  cases h with
  | length => exact length_defined _ index
  | character hposition hn => exact wordCharacter_defined (hposition 16) index hn

theorem BlobOffset.defined {index : UInt8} {e : Expr} (h : BlobOffset index e)
    (hindex : ¬ BeyondInt index) : e.Defined 16 := by
  cases h with
  | length => exact length_defined _ index
  | pair hposition hn => exact (blobPair_defined_iff (hposition 16) index hn).mpr hindex
  | next eepromIdx => exact next_defined eepromIdx

theorem WordOffset.defined_host {index : UInt8} {e : Expr} (h : WordOffset index e) :
    e.Defined 32 := by
  cases h with
  | length => exact length_defined_host _ index
  | character hposition hn => exact wordCharacter_defined_host (hposition 32) index hn

theorem BlobOffset.defined_host {index : UInt8} {e : Expr} (h : BlobOffset index e) :
    e.Defined 32 := by
  cases h with
  | length => exact length_defined_host _ index
  | pair hposition hn => exact blobPair_defined_host (hposition 32) index hn
  | next eepromIdx => exact next_defined_host eepromIdx

namespace Target

variable {σ α β : Type} {width : ℕ} {c : StorageController σ}

def Computes (D : Expr → Prop) (x : Action (Target σ) α) : Prop :=
  Keeps (fun t => ∀ e ∈ t.offsets, D e) x

def Retains (x : Action (Target σ) α) : Prop := ∀ e, Keeps (fun t => e ∈ t.offsets) x

section Rules

variable {D : Expr → Prop}

theorem onDevices_computes (x : Action σ α) : Computes D (onDevices x) := fun _ h => h

theorem compute_computes {e : Expr} (he : D e) :
    Computes D (compute width e : Action (Target σ) UInt16) := by
  intro t h e' he'
  rcases List.mem_append.mp he' with hmem | hmem
  · exact h e' hmem
  · rw [List.mem_singleton.mp hmem]
    exact he

theorem onDevices_retains (x : Action σ α) : Retains (onDevices x) := fun _ _ h => h

theorem compute_retains (e : Expr) : Retains (compute width e : Action (Target σ) UInt16) :=
  fun _ _ h => List.mem_append_left _ h

theorem Retains.bind {x : Action (Target σ) α} {k : α → Action (Target σ) β} (hx : Retains x)
    (hk : ∀ a, Retains (k a)) : Retains (x >>= k) := fun e => Keeps.bind (hx e) fun a => hk a e

theorem mem_offsets_of_compute {e : Expr} {k : UInt16 → Action (Target σ) α}
    (hk : ∀ offset, Retains (k offset)) (t : Target σ) :
    e ∈ ((compute width e >>= k) t).2.offsets :=
  hk _ e { t with offsets := t.offsets ++ [e] } (by simp)

end Rules

section Pairs

variable {γ : Type} {index : UInt8} {position : Expr} {x : UInt16 → Action σ β}
  {y : UInt16 → Action σ γ} {k : β → γ → Action (Target σ) α}

def atOffset (width : ℕ) (x : UInt16 → Action σ β) (y : UInt16 → Action σ γ)
    (k : β → γ → Action (Target σ) α) (eepromIdx : UInt16) : Action (Target σ) α := do
  let a ← onDevices (x eepromIdx)
  let next ← compute width (OffsetExpr.next eepromIdx)
  let b ← onDevices (y next)
  k a b

def atPair (width : ℕ) (index : UInt8) (position : Expr) (x : UInt16 → Action σ β)
    (y : UInt16 → Action σ γ) (k : β → γ → Action (Target σ) α) : Action (Target σ) α :=
  compute width (OffsetExpr.blobPair index position) >>= atOffset width x y k

theorem atPair_computes (h : BlobOffset index (OffsetExpr.blobPair index position))
    (hk : ∀ a b, Computes (BlobOffset index) (k a b)) :
    Computes (BlobOffset index) (atPair width index position x y k) :=
  Keeps.bind (compute_computes h) fun eepromIdx => Keeps.bind (onDevices_computes _) fun a =>
    Keeps.bind (compute_computes (.next eepromIdx)) fun _ =>
      Keeps.bind (onDevices_computes _) fun b => hk a b

theorem atOffset_retains (hk : ∀ a b, Retains (k a b)) (eepromIdx : UInt16) :
    Retains (atOffset width x y k eepromIdx) :=
  (onDevices_retains _).bind fun a => (compute_retains _).bind fun _ =>
    (onDevices_retains _).bind fun b => hk a b

theorem atPair_mem (hk : ∀ a b, Retains (k a b)) (t : Target σ) :
    OffsetExpr.blobPair index position ∈ (atPair width index position x y k t).2.offsets :=
  mem_offsets_of_compute (atOffset_retains hk) t

end Pairs

section Operations

variable {index : UInt8}

theorem readLength_computes {D : Expr → Prop} {start : UInt16} (h : D (OffsetExpr.length start index)) :
    Computes D (readLength width c start index) :=
  Keeps.bind (compute_computes h) fun _ => onDevices_computes _

theorem writeLength_computes {D : Expr → Prop} {start : UInt16} {length : UInt8}
    (h : D (OffsetExpr.length start index)) : Computes D (writeLength width c start index length) :=
  Keeps.bind (compute_computes h) fun _ => onDevices_computes _

theorem appendToWordShortcut_computes (character : UInt8) :
    Computes (WordOffset index) (appendToWordShortcut width c index character) := by
  refine Keeps.bind (readLength_computes .length) fun length => Keeps.ite Keeps.stop ?_
  have hoffset : WordOffset index (OffsetExpr.wordCharacter index (.byte length)) :=
    .character (fun _ => .byte length) length.toNat_lt
  exact Keeps.bind (compute_computes hoffset) fun _ => Keeps.bind (onDevices_computes _) fun _ =>
    writeLength_computes .length

theorem sendWordShortcut_computes (rawModCode : UInt8) :
    Computes (WordOffset index) (sendWordShortcut width c index rawModCode) := by
  refine Keeps.bind (readLength_computes .length) fun length => Keeps.ite Keeps.stop ?_
  refine Keeps.forM_of_mem fun i hi => ?_
  have hlt : i < 256 := (List.mem_range.mp hi).trans length.toNat_lt
  have hoffset : WordOffset index (OffsetExpr.wordCharacter index (.int i)) :=
    .character (fun _ => .int i) hlt
  exact Keeps.bind (compute_computes hoffset) fun _ => Keeps.bind (onDevices_computes _) fun _ =>
    onDevices_computes _

theorem appendBlobPair_computes (character modcode : UInt8) {length : UInt8} (h : length ≠ 255) :
    Computes (BlobOffset index) (appendBlobPair width c index character modcode length) :=
  atPair_computes (.pair (fun _ => .byte length) (toNat_lt_of_ne_max h)) fun _ _ =>
    writeLength_computes .length

theorem sendBlobPair_computes {i : ℕ} (hi : i < 255) :
    Computes (BlobOffset index) (sendBlobPair width c index i) :=
  atPair_computes (.pair (fun _ => .int i) hi) fun _ _ => onDevices_computes _

theorem sendBlobPairs_computes (length : UInt8) :
    Computes (BlobOffset index) (forM (List.range length.toNat) (sendBlobPair width c index)) := by
  refine Keeps.forM_of_mem fun i hi => sendBlobPair_computes ?_
  have := length.toNat_lt
  have := List.mem_range.mp hi
  omega

theorem appendBlobPair_mem (character modcode length : UInt8) (t : Target σ) :
    OffsetExpr.blobPair index (.byte length) ∈
      (appendBlobPair width c index character modcode length t).2.offsets :=
  atPair_mem (fun _ _ => (compute_retains _).bind fun _ => onDevices_retains _) t

theorem sendBlobPair_mem (i : ℕ) (t : Target σ) :
    OffsetExpr.blobPair index (.int i) ∈ (sendBlobPair width c index i t).2.offsets :=
  atPair_mem (fun _ _ => onDevices_retains _) t

theorem sendBlobPair_retains (i : ℕ) : Retains (sendBlobPair width c index i) :=
  (compute_retains _).bind (atOffset_retains fun _ _ => onDevices_retains _)

theorem sendBlobPairs_mem {length : UInt8} (h : length ≠ 0) (t : Target σ) :
    OffsetExpr.blobPair index (.int (0 : ℕ)) ∈
      (forM (List.range length.toNat) (sendBlobPair width c index) t).2.offsets := by
  obtain ⟨k, hk⟩ : ∃ k, length.toNat = k + 1 := Nat.exists_eq_succ_of_ne_zero fun hzero =>
    h (UInt8.toNat_inj.mp hzero)
  let e := OffsetExpr.blobPair index (.int (0 : ℕ))
  have hfirst : e ∈ (sendBlobPair width c index 0 t).2.offsets := sendBlobPair_mem 0 t
  have hrest : ∀ _ : Unit, Keeps (fun t : Target σ => e ∈ t.offsets)
      (forM ((List.range k).map Nat.succ) (sendBlobPair width c index)) :=
    fun _ => Keeps.forM (fun i => sendBlobPair_retains i e) _
  rw [hk, List.range_succ_eq_map, List.forM_cons]
  exact keeps_after hfirst hrest

end Operations

section Guarded

variable {index stopAt : UInt8} {rest : UInt8 → Action (Target σ) Unit}

theorem getBlobShortcutLength_value (c : StorageController σ) (index : UInt8) (s : σ)
    (log : List Expr) :
    (getBlobShortcutLength 16 c index ⟨s, log⟩).1 = (c.getBlobShortcutLength index s).1 :=
  (getBlobShortcutLength_erases (le_refl 16) index ⟨s, log⟩ s rfl).1

theorem getBlobShortcutLength_defined (c : StorageController σ) (index : UInt8) (s : σ) :
    ∀ e ∈ (getBlobShortcutLength 16 c index ⟨s, []⟩).2.offsets, e.Defined 16 := by
  have hkeeps : Computes (Expr.Defined 16) (getBlobShortcutLength 16 c index) :=
    Keeps.ite Keeps.stop (readLength_computes (length_defined _ index))
  exact hkeeps ⟨s, []⟩ (by simp)

def guarded (width : ℕ) (c : StorageController σ) (index stopAt : UInt8)
    (rest : UInt8 → Action (Target σ) Unit) : Action (Target σ) Unit :=
  if index > kLayerBMaxIndex then Action.stop
  else do
    let length ← getBlobShortcutLength width c index
    if length = stopAt then Action.stop else rest length

def GoesOn (c : StorageController σ) (index stopAt : UInt8) (s : σ) : Prop :=
  ∃ length, (c.getBlobShortcutLength index s).1 = some length ∧ length ≠ stopAt

theorem guarded_computes (hrest : ∀ length ≠ stopAt, Computes (BlobOffset index) (rest length)) :
    Computes (BlobOffset index) (guarded width c index stopAt rest) := by
  refine Keeps.ite Keeps.stop (Keeps.bind (Keeps.ite Keeps.stop (readLength_computes .length)) ?_)
  intro length
  split
  · exact Keeps.stop
  · exact hrest length ‹_›

theorem guarded_stops {s : σ} (h : ¬ GoesOn c index stopAt s) :
    ∀ e ∈ (guarded 16 c index stopAt rest ⟨s, []⟩).2.offsets, e.Defined 16 := by
  have hvalue := getBlobShortcutLength_value c index s []
  have hdefined := getBlobShortcutLength_defined c index s
  rw [guarded]
  split
  · simp
  · rcases hrun : getBlobShortcutLength 16 c index ⟨s, []⟩ with ⟨_ | length, t⟩
    · rw [bind_of_none hrun]
      rwa [hrun] at hdefined
    · rw [hrun] at hvalue hdefined
      have hstop : length = stopAt := not_not.mp fun hne => h ⟨length, hvalue.symm, hne⟩
      rw [bind_of_some hrun, if_pos hstop]
      exact hdefined

theorem guarded_goes (rest : UInt8 → Action (Target σ) Unit) {s : σ}
    (h : GoesOn c index stopAt s) : ∃ length t, length ≠ stopAt ∧
    guarded 16 c index stopAt rest ⟨s, []⟩ = rest length t := by
  obtain ⟨length, hlength, hne⟩ := h
  have hvalue := getBlobShortcutLength_value c index s []
  rw [hlength] at hvalue
  have hindex : ¬ index > kLayerBMaxIndex := fun hgt => by
    rw [StorageController.getBlobShortcutLength, if_pos hgt] at hlength
    cases hlength
  refine ⟨length, (getBlobShortcutLength 16 c index ⟨s, []⟩).2, hne, ?_⟩
  rw [guarded, if_neg hindex, bind_of_some (Prod.ext hvalue rfl), if_neg hne]

theorem guarded_defined_iff (hrest : ∀ length ≠ stopAt, Computes (BlobOffset index) (rest length))
    (hpair : ∀ length ≠ stopAt, ∀ t, ∃ position n, Counts 16 position n ∧ n < 255 ∧
      OffsetExpr.blobPair index position ∈ (rest length t).2.offsets) (s : σ) :
    (∀ e ∈ (guarded 16 c index stopAt rest ⟨s, []⟩).2.offsets, e.Defined 16) ↔
      ¬ (BeyondInt index ∧ GoesOn c index stopAt s) := by
  by_cases hgoes : GoesOn c index stopAt s
  · rw [and_iff_left hgoes]
    constructor
    · intro hdefined hbeyond
      obtain ⟨length, t, hne, hrun⟩ := guarded_goes rest hgoes
      obtain ⟨position, n, hposition, hn, hmem⟩ := hpair length hne t
      rw [hrun] at hdefined
      exact (blobPair_defined_iff hposition index hn).mp (hdefined _ hmem) hbeyond
    · intro hbeyond e he
      exact (guarded_computes hrest ⟨s, []⟩ (by simp) e he).defined hbeyond
  · exact iff_of_true (guarded_stops hgoes) fun h => hgoes h.2

end Guarded

def computed (width : ℕ) (c : StorageController σ) (s : σ) (r : Request) : List Expr :=
  (run width c r ⟨s, []⟩).2.offsets

theorem silently_computes {D : Expr → Prop} {x : Action (Target σ) Unit} (h : Computes D x) (s : σ) :
    ∀ e ∈ (silently x ⟨s, []⟩).2.offsets, D e := by
  rw [silently, bind_pure_state]
  exact h ⟨s, []⟩ (by simp)

theorem computed_defined_host (s : σ) (r : Request) : ∀ e ∈ computed 32 c s r, e.Defined 32 := by
  intro e he
  cases r with
  | appendToWord index character =>
    exact (silently_computes (appendToWordShortcut_computes character) s e he).defined_host
  | sendWord index rawModCode =>
    exact (silently_computes (sendWordShortcut_computes rawModCode) s e he).defined_host
  | appendToBlob index character modcode =>
    have hcall : Computes (BlobOffset index) (appendToBlobShortcut 32 c index character modcode) :=
      guarded_computes fun _ hne => appendBlobPair_computes character modcode hne
    exact (silently_computes hcall s e he).defined_host
  | sendBlob index =>
    have hcall : Computes (BlobOffset index) (sendBlobShortcut 32 c index) :=
      guarded_computes fun length _ => sendBlobPairs_computes length
    exact (silently_computes hcall s e he).defined_host
  | _ => exact absurd he List.not_mem_nil

theorem append_word_defined (s : σ) (index character : UInt8) :
    ∀ e ∈ computed 16 c s (.appendToWord index character), e.Defined 16 := fun e he =>
  (silently_computes (appendToWordShortcut_computes character) s e he).defined

theorem send_word_defined (s : σ) (index rawModCode : UInt8) :
    ∀ e ∈ computed 16 c s (.sendWord index rawModCode), e.Defined 16 := fun e he =>
  (silently_computes (sendWordShortcut_computes rawModCode) s e he).defined

theorem append_defined_iff (s : σ) (index character modcode : UInt8) :
    (∀ e ∈ computed 16 c s (.appendToBlob index character modcode), e.Defined 16) ↔
      ¬ (BeyondInt index ∧ GoesOn c index 255 s) := by
  rw [computed, run, silently, bind_pure_state]
  exact guarded_defined_iff (fun _ hne => appendBlobPair_computes character modcode hne)
    (fun length hne t => ⟨_, _, .byte length, toNat_lt_of_ne_max hne,
      appendBlobPair_mem character modcode length t⟩) s

theorem send_defined_iff (s : σ) (index : UInt8) :
    (∀ e ∈ computed 16 c s (.sendBlob index), e.Defined 16) ↔
      ¬ (BeyondInt index ∧ GoesOn c index 0 s) := by
  rw [computed, run, silently, bind_pure_state]
  exact guarded_defined_iff (fun length _ => sendBlobPairs_computes length)
    (fun _ hne t => ⟨_, _, .int 0, by decide, sendBlobPairs_mem hne t⟩) s

end Target

namespace Bench

def perform (b : Bench) (r : Request) : Bench := (r.run flakyController.methods b).2

def OffsetsInRange (b : Bench) (r : Request) : Prop :=
  ∀ e ∈ Target.computed 16 flakyController b r, e.Defined 16

def Overflows (b : Bench) : Request → Prop
  | .appendToBlob index _ _ => BeyondInt index ∧ index ≤ kLayerBMaxIndex ∧
    b.fates 0 = .succeed ∧ b.blobLength index ≠ 255
  | .sendBlob index => BeyondInt index ∧ index ≤ kLayerBMaxIndex ∧
    b.fates 0 = .succeed ∧ b.blobLength index ≠ 0
  | _ => False

theorem goesOn_iff (b : Bench) (index stopAt : UInt8) :
    Target.GoesOn flakyController index stopAt b ↔
      index ≤ kLayerBMaxIndex ∧ b.fates 0 = .succeed ∧ b.blobLength index ≠ stopAt := by
  have hnone := getBlobShortcutLength_none_iff b index
  rw [Target.GoesOn]
  rcases hrun : flakyController.getBlobShortcutLength index b with ⟨_ | length, t⟩
  · rw [hrun] at hnone
    have hstops := hnone.mp rfl
    grind
  · rw [hrun] at hnone
    have hvalue := getBlobShortcutLength_value hrun
    grind

theorem offsetsInRange_iff (b : Bench) (r : Request) : b.OffsetsInRange r ↔ ¬ b.Overflows r := by
  cases r with
  | appendToWord index character =>
    exact iff_of_true (Target.append_word_defined b index character) id
  | sendWord index rawModCode =>
    exact iff_of_true (Target.send_word_defined b index rawModCode) id
  | appendToBlob index character modcode =>
    rw [OffsetsInRange, Target.append_defined_iff, goesOn_iff, Overflows]
  | sendBlob index => rw [OffsetsInRange, Target.send_defined_iff, goesOn_iff, Overflows]
  | _ => exact iff_of_true (fun e he => absurd he (List.not_mem_nil)) id

end Bench

theorem offset_arithmetic_in_range_iff (memory : Memory) (fates : ℕ → Fate)
    (requests : List Request) :
    let start := Bench.start memory fates
    Obeys Bench.OffsetsInRange start (path Bench.perform start requests) ↔
      Obeys (fun b r => ¬ b.Overflows r) start (path Bench.perform start requests) := by
  have hsame : Bench.OffsetsInRange = fun b r => ¬ b.Overflows r := by
    funext b r
    exact propext (b.offsetsInRange_iff r)
  rw [hsame]

theorem append_to_blob_64_overflows :
    let start := Bench.start erased fun _ => .succeed
    ¬ Obeys Bench.OffsetsInRange start (path Bench.perform start [.appendToBlob 64 4 0]) := by
  rintro start ⟨hrange, -⟩
  refine (start.offsetsInRange_iff _).mp hrange ⟨by decide, by decide, rfl, ?_⟩
  decide

end Threeboard.Storage
