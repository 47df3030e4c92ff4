import Threeboard.Storage.Sending
import Mathlib.Data.Nat.Find

namespace Threeboard.Storage

open Actions Actions.Action Records StorageController

def modified (code : UInt8) (word : List UInt8) : List (UInt8 × UInt8) :=
  if code = WordModCode.uppercase then word.map fun c => (c, 2)
  else if code = WordModCode.capitalise then
    (word.take 1).map (fun c => (c, 2)) ++ (word.drop 1).map fun c => (c, 0)
  else if code = WordModCode.appendPeriod then word.map (fun c => (c, 0)) ++ [(0x37, 0)]
  else if code = WordModCode.appendComma then word.map (fun c => (c, 0)) ++ [(0x36, 0)]
  else if code = WordModCode.appendHyphen then word.map (fun c => (c, 0)) ++ [(0x2d, 0)]
  else word.map fun c => (c, 0)

inductive Access where
  | read (address : Address)
  | press (key mod : UInt8)
  deriving DecidableEq, Repr

namespace Access

def keypress : Access → Option (UInt8 × UInt8)
  | read _ => none
  | press key mod => some (key, mod)

def run (access : Access) : Action Bench Unit := do
  Action.modify fun b => { b with keypresses := b.keypresses ++ access.keypress.toList }
  match ← Bench.nextFate with
  | .succeed => pure ()
  | .fail _ => Action.stop

def perform (accesses : List Access) : Action Bench Unit := forM accesses run

def keypresses (accesses : List Access) : List (UInt8 × UInt8) := accesses.filterMap keypress

end Access

def Bench.spent (b : Bench) (accesses : List Access) : Bench := { b with
  fates := fun n => b.fates (n + accesses.length)
  keypresses := b.keypresses ++ Access.keypresses accesses }

namespace Access

variable {b : Bench} {access : Access} {accesses : List Access}

theorem spent_singleton (b : Bench) (access : Access) : b.spent [access] =
    ({ b with keypresses := b.keypresses ++ access.keypress.toList } : Bench).popFate := by
  cases access <;> rfl

theorem run_succeeds (h : b.fates 0 = .succeed) : access.run b = (some (), b.spent [access]) := by
  rw [spent_singleton, run, modify_bind]
  exact Bench.fated_succeeds h

theorem run_fails (h : b.fates 0 ≠ .succeed) : access.run b = (none, b.spent [access]) := by
  rw [spent_singleton, run, modify_bind]
  exact Bench.fated_stops h fun _ => rfl

theorem spent_cons (b : Bench) (access : Access) (accesses : List Access) :
    (b.spent [access]).spent accesses = b.spent (access :: accesses) := by
  simp only [Bench.spent, keypresses, List.append_assoc, ← List.filterMap_append,
    List.singleton_append, List.length_cons, List.length_nil, Nat.add_assoc]

theorem perform_succeeds (h : ∀ k < accesses.length, b.fates k = .succeed) :
    perform accesses b = (some (), b.spent accesses) := by
  induction accesses generalizing b with
  | nil => simp [perform, Bench.spent, keypresses]
  | cons access rest ih =>
    have hrest : ∀ k < rest.length, (b.spent [access]).fates k = .succeed :=
      fun k hk => h (k + 1) (Nat.succ_lt_succ hk)
    rw [perform, List.forM_cons, bind_of_some (run_succeeds (h 0 (Nat.succ_pos _))),
      ← spent_cons b access rest]
    exact ih hrest

theorem perform_fails {m : ℕ} (hm : m < accesses.length) (h : ∀ k < m, b.fates k = .succeed)
    (hfail : b.fates m ≠ .succeed) :
    perform accesses b = (none, b.spent (accesses.take (m + 1))) := by
  induction accesses generalizing b m with
  | nil => exact absurd hm (Nat.not_lt_zero m)
  | cons access rest ih =>
    rw [perform, List.forM_cons]
    cases m with
    | zero => exact bind_of_none (run_fails hfail) _
    | succ m =>
      have hrest : ∀ k < m, (b.spent [access]).fates k = .succeed :=
        fun k hk => h (k + 1) (Nat.succ_lt_succ hk)
      rw [bind_of_some (run_succeeds (h 0 (Nat.succ_pos m))), List.take_succ_cons,
        ← spent_cons b access (rest.take (m + 1))]
      exact ih (Nat.lt_of_succ_lt_succ hm) hrest hfail

theorem perform_cases (accesses : List Access) (b : Bench) :
    ((∀ k < accesses.length, b.fates k = .succeed) ∧
      perform accesses b = (some (), b.spent accesses)) ∨
    ∃ m < accesses.length, b.fates m ≠ .succeed ∧
      perform accesses b = (none, b.spent (accesses.take (m + 1))) := by
  by_cases hall : ∀ k < accesses.length, b.fates k = .succeed
  · exact .inl ⟨hall, perform_succeeds hall⟩
  · have hsome : ∃ m, m < accesses.length ∧ b.fates m ≠ .succeed := by
      simpa only [not_forall, exists_prop] using hall
    obtain ⟨hm, hfail⟩ := Nat.find_spec hsome
    refine .inr ⟨Nat.find hsome, hm, hfail, perform_fails hm (fun k hk => ?_) hfail⟩
    have hbefore := Nat.find_min hsome hk
    by_contra hne
    exact hbefore ⟨hk.trans hm, hne⟩

theorem perform_succeeds_iff (accesses : List Access) (b : Bench) :
    (perform accesses b).1 = some () ↔ ∀ k < accesses.length, b.fates k = .succeed := by
  rcases perform_cases accesses b with ⟨hall, hrun⟩ | ⟨m, hm, hfail, hrun⟩
  · rw [hrun]
    exact iff_of_true rfl hall
  · rw [hrun]
    exact iff_of_false (by simp) fun hall => hfail (hall m hm)

theorem perform_spends (h : (perform accesses b).1 = some ()) :
    (perform accesses b).2 = b.spent accesses := by
  rw [perform_succeeds ((perform_succeeds_iff accesses b).mp h)]

theorem perform_issues (accesses : List Access) (b : Bench) : ∃ issued,
    issued <+: keypresses accesses ∧ (perform accesses b).2.keypresses = b.keypresses ++ issued := by
  rcases perform_cases accesses b with ⟨-, hrun⟩ | ⟨m, -, -, hrun⟩
  · exact ⟨_, List.prefix_rfl, by rw [hrun]; rfl⟩
  · exact ⟨_, (List.take_prefix _ _).filterMap _, by rw [hrun]; rfl⟩

end Access

section Word

variable (b : Bench) (id code : UInt8)

def wordCharacterAccesses (length i : ℕ) : List Access :=
  .read (.eeprom0, wordOffset id i) ::
    (wordKeys code length i (b.view (wordSlot id i))).map fun p => .press p.1 p.2

def wordAccesses : List Access :=
  .read (.internal, kInternalEepromLayerGLengthStart + id.toUInt16) ::
    (List.range (b.view (.wordLength id)).toNat).flatMap
      (wordCharacterAccesses b id code (b.view (.wordLength id)).toNat)

theorem spent_read (t : Bench) (a : Address) : t.spent [.read a] = t.popFate := by
  simp [Bench.spent, Access.keypresses, Access.keypress, Bench.popFate]

theorem bind_as_access {α : Type} {t : Bench} {a : Address} {x : UInt8} {read : Action Bench UInt8}
    (hsucceeds : t.fates 0 = .succeed → read t = (some x, t.popFate))
    (hfails : t.fates 0 ≠ .succeed → read t = (none, t.popFate)) (g : UInt8 → Action Bench α) :
    (read >>= g) t = ((Access.read a).run >>= fun _ => g x) t := by
  by_cases hfate : t.fates 0 = .succeed
  · rw [bind_of_some (hsucceeds hfate), bind_of_some (Access.run_succeeds hfate), spent_read]
  · rw [bind_of_none (hfails hfate), bind_of_none (Access.run_fails hfate), spent_read]

theorem external_bind {α : Type} {t : Bench} {f : Cell} {chip : Chip} {offset : UInt16}
    (haddr : f.address = (chip, offset)) (hview : t.view f = b.view f) (g : UInt8 → Action Bench α) :
    ((Bench.externalEeprom chip).readByte offset >>= g) t =
      ((Access.read (chip, offset)).run >>= fun _ => g (b.view f)) t := by
  have hread : t.memory (chip, offset) + 1 = b.view f := by rw [← hview, Bench.view_apply, haddr]
  refine bind_as_access (fun hfate => ?_) (fun hfate => ?_) g
  · rw [← hread]
    exact Bench.fated_succeeds hfate
  · exact Bench.fated_stops hfate fun _ => rfl

theorem internal_bind {α : Type} {t : Bench} {f : Cell} {offset : UInt16}
    (haddr : f.address = (.internal, offset)) (hview : t.view f = b.view f)
    (g : UInt8 → Action Bench α) : (Bench.flakyInternalEeprom.readByte offset >>= g) t =
      ((Access.read (.internal, offset)).run >>= fun _ => g (b.view f)) t := by
  have hread : t.memory (.internal, offset) + 1 = b.view f := by
    rw [← hview, Bench.view_apply, haddr]
  refine bind_as_access (fun hfate => ?_) (fun hfate => ?_) g
  · rw [← hread]
    exact Bench.fated_succeeds hfate
  · exact Bench.fated_stops hfate fun _ => rfl

theorem sendKeypress_eq (key mod : UInt8) :
    Bench.usbController.sendKeypress key mod = (Access.press key mod).run := rfl

theorem sendWordCharacter_performs {t : Bench} (ht : t.memory = b.memory) {length : UInt8} {i : ℕ}
    (hi : i < 16) : Bench.flakyController.sendWordCharacter id code length i t =
      Access.perform (wordCharacterAccesses b id code length.toNat i) t := by
  have hview : t.view (wordSlot id i) = b.view (wordSlot id i) := by
    rw [Bench.view_apply, Bench.view_apply, ht]
  have hpress : (if code = WordModCode.uppercase ∨ code = WordModCode.capitalise ∧ i = 0 then
        Bench.usbController.sendKeypress (b.view (wordSlot id i)) 2
      else
        let append := if i = length.toNat - 1 then appendKeycode code else 0
        if append > 0 then do
          Bench.usbController.sendKeypress (b.view (wordSlot id i)) 0
          Bench.usbController.sendKeypress append 0
        else Bench.usbController.sendKeypress (b.view (wordSlot id i)) 0) =
      Access.perform ((wordKeys code length.toNat i (b.view (wordSlot id i))).map
        fun p => .press p.1 p.2) := by
    simp only [wordKeys, sendKeypress_eq]
    by_cases hshift : code = WordModCode.uppercase ∨ code = WordModCode.capitalise ∧ i = 0
    · simp [if_pos hshift, Access.perform]
    · by_cases happend : i = length.toNat - 1 ∧ appendKeycode code > 0
      · simp [if_neg hshift, if_pos happend, if_pos happend.1, if_pos happend.2, Access.perform]
      · have hzero := Bench.nothing_appended happend
        simp [if_neg hshift, if_neg happend, if_neg hzero, Access.perform]
  rw [StorageController.sendWordCharacter]
  refine (external_bind b (Bench.wordChar_address id hi) hview _).trans ?_
  rw [wordCharacterAccesses, Access.perform, List.forM_cons]
  exact congrArg (fun rest => (Access.run _ >>= fun _ => rest) t) hpress

theorem keeps_perform (m : Memory) (accesses : List Access) :
    Keeps (fun t : Bench => t.memory = m) (Access.perform accesses) := by
  refine .forM (fun access t ht => ?_) _
  by_cases hfate : t.fates 0 = .succeed
  · rw [Access.run_succeeds hfate]
    exact ht
  · rw [Access.run_fails hfate]
    exact ht

theorem forM_performs {length : UInt8} {t : Bench} (ht : t.memory = b.memory) {positions : List ℕ}
    (h : ∀ i ∈ positions, i < 16) :
    forM positions (Bench.flakyController.sendWordCharacter id code length) t =
      Access.perform (positions.flatMap (wordCharacterAccesses b id code length.toNat)) t := by
  induction positions generalizing t with
  | nil => rfl
  | cons i rest ih =>
    have hfirst := @sendWordCharacter_performs b id code t ht length i (h i (by simp))
    have hkept := keeps_perform b.memory (wordCharacterAccesses b id code length.toNat i) t ht
    rw [List.forM_cons, List.flatMap_cons, Access.perform, List.forM_append]
    change _ = (Access.perform _ >>= fun _ => Access.perform _) t
    rcases hrun : Access.perform (wordCharacterAccesses b id code length.toNat i) t with ⟨_ | _, u⟩
    · rw [bind_of_none hrun, bind_of_none (hfirst.trans hrun)]
    · rw [hrun] at hkept
      rw [bind_of_some hrun, bind_of_some (hfirst.trans hrun)]
      exact ih hkept fun j hj => h j (by simp [hj])

theorem sendWordShortcut_performs (hpos : 0 < (wordContents b.view id).length)
    (hlen : (wordContents b.view id).length ≤ 15) :
    Bench.flakyController.sendWordShortcut id code b =
      Access.perform (wordAccesses b id code) b := by
  rw [wordContents, contents_length] at hpos hlen
  have hzero : ¬ b.view (.wordLength id) = 0 := by
    intro hzero
    rw [hzero] at hpos
    exact absurd hpos (by decide)
  rw [StorageController.sendWordShortcut]
  refine (internal_bind b (f := .wordLength id) rfl rfl _).trans ?_
  rw [if_neg hzero, wordAccesses, Access.perform, List.forM_cons]
  by_cases hfate : b.fates 0 = .succeed
  · rw [bind_of_some (Access.run_succeeds hfate), bind_of_some (Access.run_succeeds hfate)]
    have hkept : (b.spent [.read (.internal, kInternalEepromLayerGLengthStart + id.toUInt16)]).memory =
      b.memory := rfl
    refine forM_performs b id code hkept fun i hi => ?_
    have hlt := List.mem_range.mp hi
    omega
  · rw [bind_of_none (Access.run_fails hfate), bind_of_none (Access.run_fails hfate)]

theorem keypresses_press (keys : List (UInt8 × UInt8)) :
    Access.keypresses (keys.map fun p => .press p.1 p.2) = keys := by
  simp [Access.keypresses, List.filterMap_map, Function.comp_def, Access.keypress]

theorem keypresses_wordAccesses :
    Access.keypresses (wordAccesses b id code) = wordKeypresses code (wordContents b.view id) := by
  rw [Bench.wordKeypresses_contents, Access.keypresses, wordAccesses, List.filterMap_cons]
  simp only [Access.keypress, List.filterMap_flatMap]
  refine List.flatMap_congr fun i _ => ?_
  exact keypresses_press _

end Word

section Modified

variable {code : UInt8} {word : List UInt8}

theorem flatMap_zipIdx {keys : ℕ → UInt8 → List (UInt8 × UInt8)} {f : UInt8 → UInt8 × UInt8}
    {start : ℕ} (h : ∀ c i, (c, i) ∈ word.zipIdx start → keys i c = [f c]) :
    (word.zipIdx start).flatMap (fun p => keys p.2 p.1) = word.map f := by
  rw [List.flatMap_congr fun p hp => h p.1 p.2 hp, ← List.map_eq_flatMap,
    ← List.zipIdx_map_fst start word, List.map_map]
  simp [Function.comp_def]

theorem wordKeypresses_uppercase :
    wordKeypresses WordModCode.uppercase word = word.map fun c => (c, 2) :=
  flatMap_zipIdx fun _ _ _ => if_pos (.inl rfl)

theorem wordKeypresses_capitalise : wordKeypresses WordModCode.capitalise word =
    (word.take 1).map (fun c => (c, 2)) ++ (word.drop 1).map fun c => (c, 0) := by
  cases word with
  | nil => rfl
  | cons c rest =>
    rw [wordKeypresses, List.zipIdx_cons, List.flatMap_cons]
    refine congrArg₂ (· ++ ·) (if_pos (.inr ⟨rfl, rfl⟩)) (flatMap_zipIdx fun d i hmem => ?_)
    have hi := List.le_snd_of_mem_zipIdx hmem
    have hshift : ¬ (WordModCode.capitalise = WordModCode.uppercase ∨
        WordModCode.capitalise = WordModCode.capitalise ∧ i = 0) := by
      rintro (h | ⟨-, h⟩)
      · exact absurd h (by decide)
      · simp only at hi
        omega
    rw [wordKeys, if_neg hshift, if_neg fun h => absurd h.2 (by decide)]

theorem wordKeypresses_plain (hu : code ≠ WordModCode.uppercase)
    (hc : code ≠ WordModCode.capitalise) (happend : ¬ appendKeycode code > 0) :
    wordKeypresses code word = word.map fun c => (c, 0) :=
  flatMap_zipIdx fun _ i _ => by
    rw [wordKeys, if_neg (by tauto), if_neg (by tauto)]

theorem wordKeypresses_punctuated (hu : code ≠ WordModCode.uppercase)
    (hc : code ≠ WordModCode.capitalise) (happend : appendKeycode code > 0) (hne : word ≠ []) :
    wordKeypresses code word = word.map (fun c => (c, 0)) ++ [(appendKeycode code, 0)] := by
  obtain ⟨init, last, rfl⟩ : ∃ init last, word = init ++ [last] :=
    ⟨_, _, (List.dropLast_append_getLast hne).symm⟩
  have hlen : (init ++ [last]).length = init.length + 1 := List.length_append
  have hfirst : init.zipIdx.flatMap (fun p => wordKeys code (init.length + 1) p.2 p.1) =
      init.map fun c => (c, 0) := by
    refine flatMap_zipIdx fun d i hmem => ?_
    have hi := List.snd_lt_of_mem_zipIdx hmem
    rw [wordKeys, if_neg (by tauto), if_neg]
    rintro ⟨hlast, -⟩
    simp only at hi
    omega
  have hlast : wordKeys code (init.length + 1) init.length last =
      [(last, 0), (appendKeycode code, 0)] := by
    rw [wordKeys, if_neg (by tauto), if_pos ⟨rfl, happend⟩]
  rw [wordKeypresses, hlen, List.zipIdx_append, List.flatMap_append, hfirst]
  simp [hlast]

theorem wordKeypresses_eq_modified (hne : word ≠ []) : wordKeypresses code word = modified code word := by
  rw [modified]
  split_ifs with hu hc hperiod hcomma hhyphen
  · rw [hu, wordKeypresses_uppercase]
  · rw [hc, wordKeypresses_capitalise]
  · subst hperiod
    exact wordKeypresses_punctuated hu hc (by decide) hne
  · subst hcomma
    exact wordKeypresses_punctuated hu hc (by decide) hne
  · subst hhyphen
    exact wordKeypresses_punctuated hu hc (by decide) hne
  · refine wordKeypresses_plain hu hc ?_
    rw [appendKeycode, if_neg hperiod, if_neg hcomma, if_neg hhyphen]
    decide

end Modified

theorem sendWordShortcut_empty (b : Bench) (id code : UInt8) (h : wordContents b.view id = []) :
    (Bench.flakyController.sendWordShortcut id code b).1 = none ∧
      (Bench.flakyController.sendWordShortcut id code b).2.keypresses = b.keypresses := by
  have hzero : b.view (.wordLength id) = 0 := by
    rw [wordContents, ← List.length_eq_zero_iff, contents_length] at h
    exact UInt8.toNat_inj.mp h
  have hrun : Bench.flakyController.sendWordShortcut id code b =
      (none, b.spent [.read (.internal, kInternalEepromLayerGLengthStart + id.toUInt16)]) := by
    rw [StorageController.sendWordShortcut]
    refine (internal_bind b (f := .wordLength id) rfl rfl _).trans ?_
    rw [if_pos hzero]
    by_cases hfate : b.fates 0 = .succeed
    · exact bind_of_some (Access.run_succeeds hfate) _
    · exact bind_of_none (Access.run_fails hfate) _
  rw [hrun]
  exact ⟨rfl, List.append_nil _⟩

theorem sendWordShortcut_follows_code (b : Bench) (id code : UInt8) :
    (∀ w, wordContents b.view id = w → 1 ≤ w.length → w.length ≤ 15 →
      let run := Bench.flakyController.sendWordShortcut id code b
      let accesses := wordAccesses b id code
      Access.keypresses accesses = modified code w ∧
      (run.1 = some () ↔ ∀ k < accesses.length, b.fates k = .succeed) ∧
      (run.1 = some () → run.2 = b.spent accesses) ∧
      (∀ m < accesses.length, (∀ k < m, b.fates k = .succeed) → b.fates m ≠ .succeed →
        run = (none, b.spent (accesses.take (m + 1)))) ∧
      ∃ issued, issued <+: modified code w ∧ run.2.keypresses = b.keypresses ++ issued) ∧
    (wordContents b.view id = [] → (Bench.flakyController.sendWordShortcut id code b).1 = none ∧
      (Bench.flakyController.sendWordShortcut id code b).2.keypresses = b.keypresses) := by
  refine ⟨?_, fun hempty => sendWordShortcut_empty b id code hempty⟩
  rintro w rfl hpos hlen
  have hkeys : Access.keypresses (wordAccesses b id code) = modified code (wordContents b.view id) := by
    rw [keypresses_wordAccesses, wordKeypresses_eq_modified (List.length_pos_iff.mp hpos)]
  simp only [sendWordShortcut_performs b id code hpos hlen]
  refine ⟨hkeys, Access.perform_succeeds_iff _ b, Access.perform_spends,
    fun m hm h hfail => Access.perform_fails hm h hfail, ?_⟩
  rw [← hkeys]
  exact Access.perform_issues _ b

theorem hi_is_sent_capitalised :
    let b := Bench.start (fun a => if a = (.internal, 0x107) then 1 else
      if a = (.eeprom0, 0x70) then 10 else if a = (.eeprom0, 0x71) then 11 else 0xFF) fun _ => .succeed
    (Bench.flakyController.sendWordShortcut 7 WordModCode.capitalise b).1 = some () :=
  (((sendWordShortcut_follows_code _ 7 WordModCode.capitalise).1 [11, 12] (by decide) (by decide)
    (by decide)).2.1).mpr fun _ _ => rfl

end Threeboard.Storage
