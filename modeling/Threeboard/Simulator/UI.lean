import Threeboard.Simulator.KeyPins

namespace Threeboard.Simulator

open Bursts Keys Runs

def kKeyHoldTime : UInt8 := 3

structure UI where
  isRunning : Bool := true
  keyA : UInt8 := 0
  keyS : UInt8 := 0
  keyD : UInt8 := 0
  deriving DecidableEq, Repr

abbrev KeyCall := Char × Bool

namespace UI

variable (ui : UI)

def cooldown (key : UInt8) : UInt8 := if key > 0 then key - 1 else key

def handleTyped (c : Char) : UI :=
  if c = 'q' then { ui with isRunning := false }
  else if c = 'g' then ui
  else if c = 'a' then { ui with keyA := kKeyHoldTime }
  else if c = 's' then { ui with keyS := kKeyHoldTime }
  else if c = 'd' then { ui with keyD := kKeyHoldTime }
  else ui

def keyup (c : Char) (key : UInt8) (keyup : Bool) : List KeyCall :=
  if key = 0 ∧ keyup then [(c, false)] else []

-- The calls in order, for the characters that getch has until it has no more.
def updateKeyState (typed : List Char) : List KeyCall × UI :=
  let keyupA := ui.keyA > 0
  let keyupS := ui.keyS > 0
  let keyupD := ui.keyD > 0
  let ui := { ui with keyA := cooldown ui.keyA, keyS := cooldown ui.keyS, keyD := cooldown ui.keyD }
  let ui := typed.foldl handleTyped ui
  (typed.map (fun c => (c, true)) ++
    (keyup 'a' ui.keyA keyupA ++ keyup 's' ui.keyS keyupS ++ keyup 'd' ui.keyD keyupD), ui)

end UI

-- A pass of RenderLoop: the firmware polls the keys some number of times before each call that the
-- pass makes and `after` times before the next pass.
structure Frame where
  typed : List Char
  during : List ℕ
  after : ℕ
  deriving DecidableEq, Repr

def playCalls : List KeyCall → List ℕ → UInt8 → List UInt8 × UInt8
  | [], _, pinb => ([], pinb)
  | (key, state) :: calls, during, pinb =>
    let rest := playCalls calls during.tail (handleKey key state pinb)
    (List.replicate (during.headD 0) pinb ++ rest.1, rest.2)

-- What the firmware reads in a pass; once the loop has ended there is no simulator.
def Frame.play (s : UI × UInt8) (f : Frame) : List UInt8 × (UI × UInt8) :=
  if s.1.isRunning then
    let result := s.1.updateKeyState f.typed
    let played := playCalls result.1 f.during s.2
    (played.1 ++ List.replicate f.after played.2, (result.2, played.2))
  else ([], s)

def handledKeypresses (frames : List Frame) : List Keypress :=
  (polls (trace Frame.play ({}, 0b1110) frames).flatten).reduceOption

def keyChar : Key → Char
  | .x => 'a'
  | .y => 's'
  | .z => 'd'

def typedKeys (typed : List Char) : Finset Key := Finset.univ.filter fun key => keyChar key ∈ typed

def groupTyped (s : Finset Key × ℕ) (typed : Finset Key) :
    Option (Finset Key) × (Finset Key × ℕ) :=
  if typed ≠ ∅ then (none, (s.1 ∪ typed, 3))
  else if s.2 = 1 then (some s.1, (∅, 0))
  else (none, (s.1, s.2 - 1))

def untilQuit : List Frame → List Frame
  | [] => []
  | f :: rest => f :: if 'q' ∈ f.typed then [] else untilQuit rest

namespace UI

def hold (ui : UI) : Key → UInt8
  | .x => ui.keyA
  | .y => ui.keyS
  | .z => ui.keyD

theorem hold_handleTyped (ui : UI) (c : Char) (key : Key) :
    (ui.handleTyped c).hold key = if c = keyChar key then kKeyHoldTime else ui.hold key := by
  cases key <;> simp only [handleTyped, keyChar, hold] <;> split_ifs <;> simp_all

theorem hold_foldl (ui : UI) (typed : List Char) (key : Key) :
    (typed.foldl handleTyped ui).hold key =
      if keyChar key ∈ typed then kKeyHoldTime else ui.hold key := by
  induction typed generalizing ui with
  | nil => rfl
  | cons c rest ih =>
    rw [List.foldl_cons, ih, hold_handleTyped]
    by_cases hrest : keyChar key ∈ rest <;> simp [hrest, eq_comm]

theorem isRunning_foldl (ui : UI) (typed : List Char) :
    (typed.foldl handleTyped ui).isRunning = (ui.isRunning && decide ('q' ∉ typed)) := by
  induction typed generalizing ui with
  | nil => simp
  | cons c rest ih =>
    rw [List.foldl_cons, ih]
    simp only [handleTyped]
    split_ifs <;> simp_all [eq_comm]

theorem hold_updateKeyState (ui : UI) (typed : List Char) (key : Key) :
    (ui.updateKeyState typed).2.hold key =
      if keyChar key ∈ typed then kKeyHoldTime else cooldown (ui.hold key) := by
  rw [updateKeyState, hold_foldl]
  cases key <;> rfl

def expires (ui : UI) (typed : List Char) (key : Key) : Bool :=
  (ui.updateKeyState typed).2.hold key = 0 ∧ ui.hold key > 0

def released (ui : UI) (typed : List Char) : List Key :=
  [Key.x, Key.y, Key.z].filter (ui.expires typed)

theorem keyup_eq (ui : UI) (typed : List Char) (key : Key) :
    keyup (keyChar key) ((ui.updateKeyState typed).2.hold key) (ui.hold key > 0) =
      ([key].filter (ui.expires typed)).map fun key => (keyChar key, false) := by
  by_cases hexpires : ui.expires typed key = true
  · rw [List.filter_cons_of_pos hexpires, keyup, if_pos (by simpa [expires] using hexpires)]
    rfl
  · rw [List.filter_cons_of_neg hexpires, keyup, if_neg (by simpa [expires] using hexpires)]
    rfl

theorem calls_updateKeyState (ui : UI) (typed : List Char) :
    (ui.updateKeyState typed).1 =
      typed.map (fun c => (c, true)) ++ (ui.released typed).map fun key => (keyChar key, false) := by
  have hsplit : ui.released typed = [Key.x].filter (ui.expires typed) ++
      [Key.y].filter (ui.expires typed) ++ [Key.z].filter (ui.expires typed) := by
    rw [← List.filter_append, ← List.filter_append]
    rfl
  rw [hsplit, List.map_append, List.map_append, ← keyup_eq, ← keyup_eq, ← keyup_eq]
  rfl

end UI

section Pins

theorem handleKey_keyChar (key : Key) (state : Bool) (pinb : UInt8) :
    handleKey (keyChar key) state pinb = setPinB key.pin (!state) pinb := by
  cases key <;> rfl

theorem mem_typedKeys {typed : List Char} {key : Key} :
    key ∈ typedKeys typed ↔ keyChar key ∈ typed := by
  simp [typedKeys]

theorem typedKeys_cons (c : Char) (rest : List Char) :
    typedKeys (c :: rest) = typedKeys [c] ∪ typedKeys rest := by
  ext key
  simp [mem_typedKeys]

theorem typedKeys_keyChar (key : Key) : typedKeys [keyChar key] = {key} := by
  cases key <;> decide

theorem lowKeys_press (c : Char) (pinb : UInt8) :
    lowKeys (handleKey c true pinb) = lowKeys pinb ∪ typedKeys [c] := by
  by_cases hc : ∃ key, c = keyChar key
  · obtain ⟨key, rfl⟩ := hc
    rw [handleKey_keyChar, lowKeys_setPinB, typedKeys_keyChar, Finset.union_comm]
    rfl
  · have hne (key : Key) : c ≠ keyChar key := fun h => hc ⟨key, h⟩
    have hempty : typedKeys [c] = ∅ := by
      ext key
      simp [mem_typedKeys, Ne.symm (hne key)]
    have hsame : handleKey c true pinb = pinb :=
      (if_neg (hne .x)).trans ((if_neg (hne .y)).trans (if_neg (hne .z)))
    rw [hempty, Finset.union_empty, hsame]

theorem lowKeys_release (key : Key) (pinb : UInt8) :
    lowKeys (handleKey (keyChar key) false pinb) = (lowKeys pinb).erase key := by
  rw [handleKey_keyChar, lowKeys_setPinB]
  rfl

theorem playCalls_append (calls more : List KeyCall) (during : List ℕ) (pinb : UInt8) :
    playCalls (calls ++ more) during pinb =
      ((playCalls calls during pinb).1 ++
        (playCalls more (during.drop calls.length) (playCalls calls during pinb).2).1,
      (playCalls more (during.drop calls.length) (playCalls calls during pinb).2).2) := by
  induction calls generalizing during pinb with
  | nil => simp [playCalls]
  | cons call rest ih => simp [playCalls, ih, List.drop_tail]

structure Quietly (g new h low : Finset Key) (played : List UInt8 × UInt8) : Prop where
  handed : handed h (played.1.map lowKeys) = []
  between : Between g new (final collect h (played.1.map lowKeys))
  low : lowKeys played.2 = low

variable {g new h low : Finset Key} {pinb : UInt8}

theorem quietly_call {key : Char} {state : Bool} {calls : List KeyCall} {during : List ℕ}
    (hnone : handed h (List.replicate (during.headD 0) (lowKeys pinb)) = [])
    (hrest : Quietly g new (final collect h (List.replicate (during.headD 0) (lowKeys pinb))) low
      (playCalls calls during.tail (handleKey key state pinb))) :
    Quietly g new h low (playCalls ((key, state) :: calls) during pinb) := by
  have hsamples : (playCalls ((key, state) :: calls) during pinb).1.map lowKeys =
      List.replicate (during.headD 0) (lowKeys pinb) ++
        (playCalls calls during.tail (handleKey key state pinb)).1.map lowKeys := by
    rw [playCalls, List.map_append, List.map_replicate]
  refine ⟨?_, ?_, hrest.low⟩
  · rw [hsamples, handed_append, hnone, hrest.handed, List.nil_append]
  · rw [hsamples, final_append]
    exact hrest.between

theorem quietly_presses (hb : Between g new h) {typed : List Char} (htyped : typedKeys typed ⊆ new)
    (hlow : lowKeys pinb ⊆ g ∪ new) (hidle : lowKeys pinb = ∅ → h = ∅) (during : List ℕ) :
    Quietly g new h (lowKeys pinb ∪ typedKeys typed)
      (playCalls (typed.map fun c => (c, true)) during pinb) := by
  induction typed generalizing h pinb during with
  | nil =>
    refine ⟨rfl, hb, ?_⟩
    exact (Finset.union_empty _).symm
  | cons c rest ih =>
    rw [typedKeys_cons] at htyped ⊢
    obtain ⟨hnone, hbetween, hstill⟩ := hb.replicate hlow hidle (during.headD 0)
    have hpressed := lowKeys_press c pinb
    have hsub : lowKeys (handleKey c true pinb) ⊆ g ∪ new := by
      rw [hpressed]
      exact Finset.union_subset hlow
        ((Finset.union_subset_left htyped).trans Finset.subset_union_right)
    have hrest := ih hbetween (Finset.union_subset_right htyped) hsub
      (fun hempty => hstill (Finset.union_eq_empty.mp (hpressed.symm.trans hempty)).1) during.tail
    rw [hpressed, Finset.union_assoc] at hrest
    exact quietly_call hnone hrest

theorem quietly_releases (hb : Between g new h) {keys : List Key} (hnodup : keys.Nodup)
    (hkeys : ∀ key ∈ keys, key ∈ lowKeys pinb) (hlow : lowKeys pinb ⊆ g ∪ new) (during : List ℕ) :
    Quietly g new h (lowKeys pinb \ keys.toFinset)
      (playCalls (keys.map fun key => (keyChar key, false)) during pinb) := by
  induction keys generalizing h pinb during with
  | nil => exact ⟨rfl, hb, Finset.sdiff_empty.symm⟩
  | cons key rest ih =>
    obtain ⟨hnot, hrest⟩ := List.nodup_cons.mp hnodup
    have hmem := hkeys key List.mem_cons_self
    obtain ⟨hnone, hbetween, -⟩ := hb.replicate hlow
      (fun hempty => absurd hmem (by simp [hempty])) (during.headD 0)
    have hreleased := lowKeys_release key pinb
    have hstill : ∀ other ∈ rest, other ∈ lowKeys (handleKey (keyChar key) false pinb) := by
      intro other hother
      rw [hreleased]
      refine Finset.mem_erase.mpr ⟨?_, hkeys other (List.mem_cons_of_mem _ hother)⟩
      rintro rfl
      exact hnot hother
    have hsub : lowKeys (handleKey (keyChar key) false pinb) ⊆ g ∪ new := by
      rw [hreleased]
      exact (Finset.erase_subset _ _).trans hlow
    have hafter := ih hbetween hrest hstill hsub during.tail
    rw [hreleased, Finset.erase_sdiff_comm, ← Finset.sdiff_insert] at hafter
    rw [List.toFinset_cons]
    exact quietly_call hnone hafter

theorem Quietly.append {calls more : List KeyCall} {during : List ℕ} {middle : Finset Key}
    (hcalls : Quietly g new h middle (playCalls calls during pinb))
    (hmore : Quietly g new (final collect h ((playCalls calls during pinb).1.map lowKeys)) low
      (playCalls more (during.drop calls.length) (playCalls calls during pinb).2)) :
    Quietly g new h low (playCalls (calls ++ more) during pinb) := by
  rw [playCalls_append]
  refine ⟨?_, ?_, hmore.low⟩
  · rw [List.map_append, handed_append, hcalls.handed, hmore.handed, List.nil_append]
  · rw [List.map_append, final_append]
    exact hmore.between

end Pins

section Groups

structure Holding (s : UI × UInt8) (g : Finset Key) (left : ℕ) : Prop where
  low : ∀ key, key ∈ lowKeys s.2 ↔ 0 < s.1.hold key
  atMost : ∀ key, (s.1.hold key).toNat ≤ left
  attained : 0 < left → ∃ key, (s.1.hold key).toNat = left
  gathered : lowKeys s.2 ⊆ g
  idle : left = 0 → g = ∅
  left_le : left ≤ 3

variable {ui : UI} {g : Finset Key} {left : ℕ} {pinb : UInt8}

theorem toNat_cooldown (key : UInt8) : (UI.cooldown key).toNat = key.toNat - 1 := by
  rw [UI.cooldown]
  split_ifs with hpos
  · rw [UInt8.toNat_sub_of_le _ _ (by rwa [UInt8.le_iff_toNat_le] )]
    rfl
  · have hzero : key.toNat = 0 := by simpa [UInt8.lt_iff_toNat_lt] using hpos
    simp [hzero]

theorem mem_released {typed : List Char} {key : Key} :
    key ∈ ui.released typed ↔ (ui.updateKeyState typed).2.hold key = 0 ∧ 0 < ui.hold key := by
  rw [UI.released, List.mem_filter, UI.expires, decide_eq_true_eq]
  exact and_iff_right (by cases key <;> simp)

theorem nodup_released (typed : List Char) : (ui.released typed).Nodup :=
  List.Nodup.filter _ (by decide)

def lowAfter (ui : UI) (typed : List Char) : Finset Key :=
  Finset.univ.filter fun key => 0 < (ui.updateKeyState typed).2.hold key

theorem mem_lowAfter {typed : List Char} {key : Key} :
    key ∈ lowAfter ui typed ↔ key ∈ typedKeys typed ∨ 1 < (ui.hold key).toNat := by
  rw [lowAfter, Finset.mem_filter, mem_typedKeys, UI.hold_updateKeyState]
  by_cases htyped : keyChar key ∈ typed
  · simp [htyped, kKeyHoldTime]
  · have hcooldown : 0 < UI.cooldown (ui.hold key) ↔ 1 < (ui.hold key).toNat := by
      rw [UInt8.lt_iff_toNat_lt, toNat_cooldown]
      exact Nat.lt_sub_iff_add_lt
    simpa [htyped] using hcooldown

theorem lowAfter_eq (hlow : ∀ key, key ∈ lowKeys pinb ↔ 0 < ui.hold key) (typed : List Char) :
    (lowKeys pinb ∪ typedKeys typed) \ (ui.released typed).toFinset = lowAfter ui typed := by
  ext key
  have hpos := UInt8.pos_iff_ne_zero (a := (ui.updateKeyState typed).2.hold key)
  have htyped : key ∈ typedKeys typed → (ui.updateKeyState typed).2.hold key ≠ 0 := by
    intro hkey
    rw [UI.hold_updateKeyState, if_pos (mem_typedKeys.mp hkey)]
    decide
  have hheld : 0 < (ui.updateKeyState typed).2.hold key →
      key ∈ typedKeys typed ∨ 0 < ui.hold key := by
    intro hafter
    have hmem : key ∈ lowAfter ui typed := Finset.mem_filter.mpr ⟨Finset.mem_univ _, hafter⟩
    exact (mem_lowAfter.mp hmem).imp id fun h => UInt8.lt_iff_toNat_lt.mpr (Nat.zero_lt_of_lt h)
  rw [Finset.mem_sdiff, Finset.mem_union, List.mem_toFinset, mem_released, hlow, lowAfter,
    Finset.mem_filter]
  simp only [Finset.mem_univ, true_and, hpos] at hheld ⊢
  tauto

theorem Holding.idle_of_low (hh : Holding (ui, pinb) g left) (hlow : lowKeys pinb = ∅) : g = ∅ := by
  refine hh.idle (Nat.eq_zero_of_not_pos fun hpos => ?_)
  obtain ⟨key, hkey⟩ := hh.attained hpos
  have hmem : key ∈ lowKeys pinb := (hh.low key).mpr (UInt8.lt_iff_toNat_lt.mpr (by rwa [hkey]))
  simp [hlow] at hmem

theorem quietly_pass (hh : Holding (ui, pinb) g left) (typed : List Char) (during : List ℕ) :
    Quietly g (typedKeys typed) g (lowAfter ui typed)
      (playCalls (ui.updateKeyState typed).1 during pinb) := by
  have hlow : lowKeys pinb ⊆ g ∪ typedKeys typed := hh.gathered.trans Finset.subset_union_left
  have hpresses := quietly_presses (Between.refl _ _) (Finset.Subset.refl _) hlow hh.idle_of_low during
  have hkeys : ∀ key ∈ ui.released typed,
      key ∈ lowKeys (playCalls (typed.map fun c => (c, true)) during pinb).2 := by
    intro key hkey
    rw [hpresses.low]
    exact Finset.mem_union_left _ ((hh.low key).mpr (mem_released.mp hkey).2)
  have hreleases := quietly_releases hpresses.between (nodup_released typed) hkeys
    (by rw [hpresses.low]; exact Finset.union_subset hlow Finset.subset_union_right)
    (during.drop (typed.map fun c => (c, true)).length)
  rw [hpresses.low, lowAfter_eq hh.low] at hreleases
  rw [UI.calls_updateKeyState]
  exact hpresses.append hreleases

theorem toNat_hold (typed : List Char) (key : Key) :
    ((ui.updateKeyState typed).2.hold key).toNat =
      if key ∈ typedKeys typed then 3 else (ui.hold key).toNat - 1 := by
  simp only [UI.hold_updateKeyState, mem_typedKeys]
  split_ifs
  · rfl
  · exact toNat_cooldown _

theorem group_left (s : Finset Key × ℕ) (typed : Finset Key) :
    (groupTyped s typed).2.2 = if typed = ∅ then s.2 - 1 else 3 := by
  rw [groupTyped]
  split_ifs <;> simp_all

theorem group_gathered (s : Finset Key × ℕ) (typed : Finset Key) :
    (groupTyped s typed).2.1 = if typed = ∅ ∧ s.2 = 1 then ∅ else s.1 ∪ typed := by
  rw [groupTyped]
  split_ifs <;> simp_all

theorem Holding.lowAfter_subset (hh : Holding (ui, pinb) g left) (typed : List Char) :
    lowAfter ui typed ⊆ g ∪ typedKeys typed := by
  intro key hkey
  rcases mem_lowAfter.mp hkey with htyped | hheld
  · exact Finset.mem_union_right _ htyped
  · have hlow : key ∈ lowKeys pinb :=
      (hh.low key).mpr (UInt8.lt_iff_toNat_lt.mpr (Nat.zero_lt_of_lt hheld))
    exact Finset.mem_union_left _ (hh.gathered hlow)

theorem Holding.lowAfter_eq_empty (hh : Holding (ui, pinb) g left) {typed : List Char} :
    lowAfter ui typed = ∅ ↔ typedKeys typed = ∅ ∧ left ≤ 1 := by
  constructor
  · intro hempty
    have hnot (key : Key) : key ∉ lowAfter ui typed := by simp [hempty]
    have htyped : typedKeys typed = ∅ :=
      Finset.eq_empty_of_forall_notMem fun key hkey => hnot key (mem_lowAfter.mpr (.inl hkey))
    refine ⟨htyped, ?_⟩
    by_contra hleft
    obtain ⟨key, hkey⟩ := hh.attained (by omega)
    have hheld : 1 < (ui.hold key).toNat := by
      change (ui.hold key).toNat = left at hkey
      omega
    exact hnot key (mem_lowAfter.mpr (.inr hheld))
  · rintro ⟨htyped, hleft⟩
    refine Finset.eq_empty_of_forall_notMem fun key hkey => ?_
    have hle := hh.atMost key
    rcases mem_lowAfter.mp hkey with hmem | hheld
    · simp [htyped] at hmem
    · dsimp only at hle
      omega

theorem Holding.next (hh : Holding (ui, pinb) g left) (typed : List Char) {after : UInt8}
    (hafter : lowKeys after = lowAfter ui typed) :
    Holding ((ui.updateKeyState typed).2, after) (groupTyped (g, left) (typedKeys typed)).2.1
      (groupTyped (g, left) (typedKeys typed)).2.2 where
  low key := by simp [hafter, lowAfter]
  atMost key := by
    have hle := hh.atMost key
    have hthree := hh.left_le
    rw [toNat_hold, group_left]
    split_ifs with hkey hempty <;> simp_all <;> omega
  attained hpos := by
    rw [group_left] at hpos ⊢
    split_ifs at hpos ⊢ with hempty
    · obtain ⟨key, hkey⟩ := hh.attained (by simp at hpos; omega)
      exact ⟨key, by rw [toNat_hold, hempty, if_neg (Finset.notMem_empty key), hkey]⟩
    · obtain ⟨key, hkey⟩ := Finset.nonempty_iff_ne_empty.mpr hempty
      exact ⟨key, by rw [toNat_hold, if_pos hkey]⟩
  gathered := by
    rw [hafter, group_gathered]
    split_ifs with hended
    · exact (hh.lowAfter_eq_empty.mpr ⟨hended.1, hended.2.le⟩).subset
    · exact hh.lowAfter_subset typed
  idle hzero := by
    rw [group_left] at hzero
    rw [group_gathered]
    by_cases hempty : typedKeys typed = ∅
    · rw [if_pos hempty] at hzero
      by_cases hone : left = 1
      · exact if_pos ⟨hempty, hone⟩
      · have hidle : left = 0 := by
          change left - 1 = 0 at hzero
          omega
        rw [if_neg fun h => hone h.2, hempty, hh.idle hidle, Finset.union_empty]
    · rw [if_neg hempty] at hzero
      cases hzero
  left_le := by
    have hthree := hh.left_le
    rw [group_left]
    split_ifs
    · exact (Nat.sub_le _ _).trans hthree
    · exact Nat.le_refl 3

theorem Holding.nonempty (hh : Holding (ui, pinb) g left) (hleft : 0 < left) : g ≠ ∅ := by
  obtain ⟨key, hkey⟩ := hh.attained hleft
  have hlow : key ∈ lowKeys pinb :=
    (hh.low key).mpr (UInt8.lt_iff_toNat_lt.mpr (hleft.trans_eq hkey.symm))
  exact Finset.ne_empty_of_mem (hh.gathered hlow)

theorem Holding.settle (hh : Holding (ui, pinb) g left) {typed : List Char} {h : Finset Key}
    (hb : Between g (typedKeys typed) h) (n : ℕ) :
    handed h (List.replicate (n + 1) (lowAfter ui typed)) =
        (groupTyped (g, left) (typedKeys typed)).1.toList ∧
      final collect h (List.replicate (n + 1) (lowAfter ui typed)) =
        (groupTyped (g, left) (typedKeys typed)).2.1 := by
  by_cases hempty : lowAfter ui typed = ∅
  · obtain ⟨htyped, hleft⟩ := hh.lowAfter_eq_empty.mp hempty
    have hsame : h = g := by
      rw [htyped, Between, Finset.union_empty] at hb
      exact Finset.Subset.antisymm hb.2 hb.1
    obtain ⟨hhanded, hfinal⟩ := handed_replicate_empty (g := g) n
    rw [hempty, hsame, hhanded, hfinal, htyped]
    by_cases hone : left = 1
    · have hne := hh.nonempty (by omega)
      simp [groupTyped, hone, hne]
    · have hidle := hh.idle (by omega)
      simp [groupTyped, hone, hidle]
  · obtain ⟨hnone, hfinal⟩ := hb.settle (hh.lowAfter_subset typed)
      (fun key hkey => mem_lowAfter.mpr (.inl hkey)) hempty n
    have hbusy : ¬ (typedKeys typed = ∅ ∧ left = 1) := fun hended =>
      hempty (hh.lowAfter_eq_empty.mpr ⟨hended.1, hended.2.le⟩)
    rw [hnone, hfinal, group_gathered, if_neg hbusy, groupTyped]
    refine ⟨?_, rfl⟩
    split_ifs <;> simp_all

theorem pass_groups (hh : Holding (ui, pinb) g left) (hrunning : ui.isRunning = true) {f : Frame}
    (hafter : 0 < f.after) :
    handed g ((Frame.play (ui, pinb) f).1.map lowKeys) =
        (groupTyped (g, left) (typedKeys f.typed)).1.toList ∧
      final collect g ((Frame.play (ui, pinb) f).1.map lowKeys) =
        (groupTyped (g, left) (typedKeys f.typed)).2.1 ∧
      Holding (Frame.play (ui, pinb) f).2 (groupTyped (g, left) (typedKeys f.typed)).2.1
        (groupTyped (g, left) (typedKeys f.typed)).2.2 := by
  have hquiet := quietly_pass hh f.typed f.during
  have hplay : Frame.play (ui, pinb) f =
      ((playCalls (ui.updateKeyState f.typed).1 f.during pinb).1 ++
        List.replicate f.after (playCalls (ui.updateKeyState f.typed).1 f.during pinb).2,
      ((ui.updateKeyState f.typed).2, (playCalls (ui.updateKeyState f.typed).1 f.during pinb).2)) :=
    if_pos hrunning
  obtain ⟨n, hn⟩ := Nat.exists_eq_succ_of_ne_zero hafter.ne'
  obtain ⟨hhanded, hfinal⟩ := hh.settle hquiet.between n
  rw [hplay, List.map_append, List.map_replicate, hquiet.low, handed_append, hquiet.handed,
    List.nil_append, final_append, hn]
  exact ⟨hhanded, hfinal, hh.next f.typed hquiet.low⟩

theorem isRunning_play (s : UI × UInt8) (f : Frame) :
    (Frame.play s f).2.1.isRunning = (s.1.isRunning && decide ('q' ∉ f.typed)) := by
  rw [Frame.play]
  split_ifs with hrunning
  · exact UI.isRunning_foldl _ _
  · simp [hrunning]

theorem play_stopped {s : UI × UInt8} (h : s.1.isRunning = false) (frames : List Frame) :
    (trace Frame.play s frames).flatten = [] := by
  induction frames with
  | nil => rfl
  | cons f rest ih =>
    have hplay : Frame.play s f = ([], s) := if_neg (by simp [h])
    rw [trace, hplay]
    exact ih

theorem passes_group {s : UI × UInt8} (hh : Holding s g left) (hrunning : s.1.isRunning = true)
    {frames : List Frame} (hafter : ∀ f ∈ frames, 0 < f.after) :
    handed g ((trace Frame.play s frames).flatten.map lowKeys) =
      (trace groupTyped (g, left)
        ((untilQuit frames).map fun f => typedKeys f.typed)).reduceOption := by
  induction frames generalizing s g left with
  | nil => rfl
  | cons f rest ih =>
    obtain ⟨hf, hrest⟩ := List.forall_mem_cons.mp hafter
    obtain ⟨hhanded, hfinal, hnext⟩ := pass_groups hh hrunning hf
    have hstill := isRunning_play s f
    rw [trace, List.flatten_cons, List.map_append, handed_append, hhanded, hfinal, untilQuit,
      List.map_cons, trace]
    have hhead (spec : Option (Finset Key)) (more : List (Option (Finset Key))) :
        (spec :: more).reduceOption = spec.toList ++ more.reduceOption := by
      cases spec <;> rfl
    rw [hhead]
    congr 1
    split_ifs with hquit
    · rw [hrunning, Bool.true_and, decide_eq_false (by simpa using hquit)] at hstill
      rw [play_stopped hstill]
      rfl
    · rw [hrunning, Bool.true_and, decide_eq_true hquit] at hstill
      exact ih hnext hstill hrest

theorem handledKeypresses_eq (frames : List Frame) : handledKeypresses frames =
    (handed ∅ ((trace Frame.play ({}, 0b1110) frames).flatten.map lowKeys)).map
      Keypress.ofKeys := by
  rw [handledKeypresses, polls_eq_collect, handed, List.reduceOption_map]

-- However the firmware's polls fall among the calls of the UI, the keys typed with no three idle
-- passes in a row between them are handled once, as one keypress.
theorem typed_groups_handled (frames : List Frame) (hafter : ∀ f ∈ frames, 0 < f.after) :
    handledKeypresses frames =
      (trace groupTyped (∅, 0) ((untilQuit frames).map fun f => typedKeys f.typed)).reduceOption.map
        Keypress.ofKeys := by
  have hlow : lowKeys 0b1110 = ∅ := by decide
  have hstart : Holding (({} : UI), 0b1110) ∅ 0 := by
    refine ⟨fun key => ?_, fun key => ?_, by simp, hlow.subset, fun _ => rfl, Nat.zero_le 3⟩
    · cases key <;> decide
    · cases key <;> decide
  rw [handledKeypresses_eq, passes_group hstart rfl hafter]

def typingXz : List Frame :=
  [⟨['a'], [2], 1⟩, ⟨[], [], 2⟩, ⟨[], [], 1⟩, ⟨['d', 'x', 'a'], [0, 3, 1, 2], 1⟩, ⟨[], [], 1⟩,
    ⟨[], [], 1⟩, ⟨[], [1, 1], 1⟩, ⟨['s', 'q'], [], 1⟩]

theorem typed_groups_handled_xz : handledKeypresses typingXz = [.xz] :=
  (typed_groups_handled typingXz (by decide)).trans (by decide +kernel)

end Groups

end Threeboard.Simulator
