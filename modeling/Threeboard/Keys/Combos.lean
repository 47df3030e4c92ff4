import Threeboard.Library.Bursts
import Threeboard.Keys.KeyController
import Mathlib.Data.Fintype.Powerset

namespace Threeboard.Keys

open Bursts Runs KeyController

inductive Key where
  | x
  | y
  | z
  deriving DecidableEq, Repr

namespace Key

instance : Fintype Key := ⟨{x, y, z}, fun key => by cases key <;> decide⟩

def pin : Key → UInt8
  | x => PB2
  | y => PB3
  | z => PB1

def index : Key → UInt8
  | x => kXIndex
  | y => kYIndex
  | z => kZIndex

def keypress : Key → Keypress
  | x => .x
  | y => .y
  | z => .z

end Key

def Keypress.keys (k : Keypress) : Finset Key :=
  Finset.univ.filter fun key => k.code &&& key.keypress.code ≠ 0

def lowKeys (pinb : UInt8) : Finset Key := Finset.univ.filter fun key => isPressed pinb key.pin

def bit (b : Bool) (value : UInt8) : UInt8 := if b then value else 0

def maskOf (held combo : Finset Key) : UInt8 :=
  bit (.x ∈ held) 8 + bit (.y ∈ held) 16 + bit (.z ∈ held) 32 +
    bit (.x ∈ combo) 4 + bit (.y ∈ combo) 2 + bit (.z ∈ combo) 1

def Keypress.ofKeys (g : Finset Key) : Keypress := .ofCode (maskOf ∅ g)

theorem keys_ofKeys (g : Finset Key) : (Keypress.ofKeys g).keys = g := by
  revert g
  decide +kernel

theorem ofKeys_keys (k : Keypress) : Keypress.ofKeys k.keys = k := by
  cases k <;> decide +kernel

theorem mem_lowKeys {pinb : UInt8} {key : Key} : key ∈ lowKeys pinb ↔ isPressed pinb key.pin := by
  simp [lowKeys]

theorem maskOf_press (key : Key) (held combo : Finset Key) :
    maskOf held combo ||| 1 <<< key.index = maskOf (insert key held) combo := by
  revert key held combo
  decide +kernel

theorem wasPressed_maskOf (key : Key) (held combo : Finset Key) :
    wasPressed (maskOf held combo) key.index = decide (key ∈ held) := by
  revert key held combo
  decide +kernel

theorem maskOf_release (key : Key) (held combo : Finset Key) :
    maskOf held combo &&& ~~~(1 <<< key.index) ||| key.keypress.code =
      maskOf (held.erase key) (insert key combo) := by
  revert key held combo
  decide +kernel

def track (low : Finset Key) (key : Key) (p : Finset Key × Finset Key) :
    Finset Key × Finset Key :=
  if key ∈ low then (insert key p.1, p.2)
  else if key ∈ p.1 then (p.1.erase key, insert key p.2)
  else p

theorem pollKey_maskOf (key : Key) (pinb : UInt8) (p : Finset Key × Finset Key) :
    pollKey key.pin key.index key.keypress pinb (maskOf p.1 p.2) =
      maskOf (track (lowKeys pinb) key p).1 (track (lowKeys pinb) key p).2 := by
  simp only [pollKey, track, maskOf_press, maskOf_release, wasPressed_maskOf, decide_eq_true_eq,
    ← mem_lowKeys]
  split
  · rfl
  · split <;> rfl

theorem track_all (low held combo : Finset Key) :
    track low .z (track low .y (track low .x (held, combo))) = (low, combo ∪ held \ low) := by
  revert low held combo
  decide +kernel

theorem poll_maskOf (pinb : UInt8) (held combo : Finset Key) :
    pollZ pinb (pollY pinb (pollX pinb (maskOf held combo))) =
      maskOf (lowKeys pinb) (combo ∪ held \ lowKeys pinb) := by
  have hx := pollKey_maskOf .x pinb (held, combo)
  have hy := pollKey_maskOf .y pinb (track (lowKeys pinb) .x (held, combo))
  have hz := pollKey_maskOf .z pinb (track (lowKeys pinb) .y (track (lowKeys pinb) .x (held, combo)))
  rw [track_all] at hz
  exact (congrArg (fun m => pollZ pinb (pollY pinb m)) hx).trans
    ((congrArg (pollZ pinb) hy).trans hz)

theorem maskOf_idle (low combo : Finset Key) :
    maskOf low combo >>> 3 = 0 ∧ maskOf low combo > 0 ↔ low = ∅ ∧ combo ≠ ∅ := by
  revert low combo
  decide +kernel

theorem maskOf_combo (combo : Finset Key) : maskOf ∅ combo &&& 7 = maskOf ∅ combo := by
  revert combo
  decide +kernel

def Tracks (keyMask : UInt8) (g : Finset Key) : Prop :=
  ∃ held combo, keyMask = maskOf held combo ∧ combo ∪ held = g

theorem pollKeyState_tracks {keyMask : UInt8} {g : Finset Key} (h : Tracks keyMask g)
    (pinb : UInt8) :
    (pollKeyState keyMask pinb).1 = (collect g (lowKeys pinb)).1.map Keypress.ofKeys ∧
      Tracks (pollKeyState keyMask pinb).2 (collect g (lowKeys pinb)).2 := by
  obtain ⟨held, combo, rfl, rfl⟩ := h
  simp only [pollKeyState, poll_maskOf, maskOf_idle, collect]
  by_cases hlow : lowKeys pinb = ∅
  · simp only [hlow, Finset.sdiff_empty, true_and, ne_eq, ite_not]
    by_cases hg : combo ∪ held = ∅
    · simp only [hg, if_true]
      exact ⟨rfl, ∅, ∅, rfl, rfl⟩
    · simp only [if_neg hg, maskOf_combo]
      exact ⟨rfl, ∅, ∅, rfl, rfl⟩
  · simp only [hlow, false_and, if_false]
    refine ⟨rfl, _, _, rfl, ?_⟩
    rw [Finset.union_assoc, Finset.sdiff_union_self_eq_union, Finset.union_assoc]

def polls (samples : List UInt8) : List (Option Keypress) := trace pollKeyState 0 samples

theorem polls_eq_collect (samples : List UInt8) :
    polls samples =
      (trace collect ∅ (samples.map lowKeys)).map (Option.map Keypress.ofKeys) := by
  have hstart : Tracks 0 ∅ := ⟨∅, ∅, rfl, rfl⟩
  rw [← trace_map collect (Option.map Keypress.ofKeys) lowKeys]
  exact (trace_eq_of_simulation (R := Tracks) (fun _ _ pinb h => pollKeyState_tracks h pinb)
    hstart samples).1

def lowAt (samples : List UInt8) : ℕ → Finset Key := sample (samples.map lowKeys)

theorem polls_eq_some (samples : List UInt8) (n : ℕ) (k : Keypress) :
    (polls samples)[n]? = some (some k) ↔ n < samples.length ∧ Ends (lowAt samples) n ∧
      ∀ key, key ∈ k.keys ↔ ∃ i, InBurst (lowAt samples) i n ∧ key ∈ lowAt samples i := by
  have hcollect := trace_collect (samples.map lowKeys) n k.keys
  rw [List.length_map, show sample (samples.map lowKeys) = lowAt samples from rfl] at hcollect
  rw [← hcollect, polls_eq_collect, List.getElem?_map, Option.map_eq_some_iff]
  constructor
  · rintro ⟨_ | g, hg, hk⟩
    · simp at hk
    · rw [hg, ← Option.some_inj.mp hk, keys_ofKeys]
  · intro h
    exact ⟨_, h, by rw [Option.map_some, ofKeys_keys]⟩

theorem keys_inactive : Keypress.inactive.keys = ∅ := by decide

theorem ne_inactive_of_burst {samples : List UInt8} {n : ℕ} {k : Keypress}
    (hends : Ends (lowAt samples) n)
    (hkeys : ∀ key, key ∈ k.keys ↔ ∃ i, InBurst (lowAt samples) i n ∧ key ∈ lowAt samples i) :
    k ≠ .inactive := by
  rintro rfl
  obtain ⟨-, m, rfl, key, hkey⟩ := hends
  have hin : InBurst (lowAt samples) m (m + 1) := inBurst_succ.mpr ⟨⟨key, hkey⟩, .inl rfl⟩
  have hmem := (hkeys key).mpr ⟨m, hin, hkey⟩
  simp [keys_inactive] at hmem

-- The handler is called at exactly the polls that end a burst of low keys, once each, with the
-- keys that burst has shown; pins of other numbers do not count.
theorem keypress_once_per_run (samples : List UInt8) :
    (∀ n k, (polls samples)[n]? = some (some k) ↔ n < samples.length ∧ Ends (lowAt samples) n ∧
      ∀ key, key ∈ k.keys ↔ ∃ i, InBurst (lowAt samples) i n ∧ key ∈ lowAt samples i) ∧
    (∀ n, n < samples.length → Ends (lowAt samples) n →
      ∃ k ≠ Keypress.inactive, (polls samples)[n]? = some (some k)) ∧
    some Keypress.inactive ∉ polls samples ∧
    ∀ others : List UInt8, others.map lowKeys = samples.map lowKeys →
      polls others = polls samples := by
  refine ⟨polls_eq_some samples, fun n hn hends => ?_, fun hmem => ?_, fun others h => ?_⟩
  · have hkeys : ∀ key, key ∈ (Keypress.ofKeys (gathered (lowAt samples) n)).keys ↔
        ∃ i, InBurst (lowAt samples) i n ∧ key ∈ lowAt samples i := by
      intro key
      rw [keys_ofKeys, mem_gathered]
    exact ⟨_, ne_inactive_of_burst hends hkeys, (polls_eq_some samples n _).mpr ⟨hn, hends, hkeys⟩⟩
  · obtain ⟨n, hn⟩ := List.mem_iff_getElem?.mp hmem
    obtain ⟨-, hends, hkeys⟩ := (polls_eq_some samples n .inactive).mp hn
    exact ne_inactive_of_burst hends hkeys rfl
  · rw [polls_eq_collect, polls_eq_collect, h]

end Threeboard.Keys
