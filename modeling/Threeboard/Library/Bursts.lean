import Threeboard.Library.Runs
import Mathlib.Data.Finset.Lattice.Lemmas
import Mathlib.Data.List.ReduceOption

namespace Bursts

open Runs

variable {K : Type}

def InBurst (s : ℕ → Finset K) (i n : ℕ) : Prop := i < n ∧ ∀ j, i ≤ j → j < n → (s j).Nonempty

def Ends (s : ℕ → Finset K) (n : ℕ) : Prop := s n = ∅ ∧ ∃ m, n = m + 1 ∧ (s m).Nonempty

theorem inBurst_succ {s : ℕ → Finset K} {i n : ℕ} :
    InBurst s i (n + 1) ↔ (s n).Nonempty ∧ (i = n ∨ InBurst s i n) := by
  constructor
  · rintro ⟨hi, hall⟩
    refine ⟨hall n (by omega) (by omega), ?_⟩
    rcases Nat.lt_succ_iff_lt_or_eq.mp hi with hlt | heq
    · exact .inr ⟨hlt, fun j hij hj => hall j hij (by omega)⟩
    · exact .inl heq
  · rintro ⟨hn, rfl | ⟨hi, hall⟩⟩
    · refine ⟨by omega, fun j hij hj => ?_⟩
      rwa [show j = i by omega]
    · refine ⟨by omega, fun j hij hj => ?_⟩
      rcases Nat.lt_succ_iff_lt_or_eq.mp hj with hlt | rfl
      · exact hall j hij hlt
      · exact hn

def sample (seen : List (Finset K)) (n : ℕ) : Finset K := seen.getD n ∅

theorem sample_of_lt {seen : List (Finset K)} {n : ℕ} (h : n < seen.length) :
    sample seen n = seen[n] := by
  simp [sample, h]

variable [DecidableEq K]

def gathered (s : ℕ → Finset K) : ℕ → Finset K
  | 0 => ∅
  | n + 1 => if s n = ∅ then ∅ else gathered s n ∪ s n

def collect (gathered seen : Finset K) : Option (Finset K) × Finset K :=
  if seen = ∅ then (if gathered = ∅ then none else some gathered, ∅)
  else (none, gathered ∪ seen)

variable {s : ℕ → Finset K}

theorem mem_gathered {n : ℕ} {k : K} : k ∈ gathered s n ↔ ∃ i, InBurst s i n ∧ k ∈ s i := by
  induction n with
  | zero => simp [gathered, InBurst]
  | succ n ih =>
    simp only [gathered, inBurst_succ]
    split
    · simp_all
    · rename_i hne
      have hn := Finset.nonempty_iff_ne_empty.mpr hne
      simp only [Finset.mem_union, ih, hn, true_and]
      constructor
      · rintro (⟨i, hi, hk⟩ | hk)
        · exact ⟨i, .inr hi, hk⟩
        · exact ⟨n, .inl rfl, hk⟩
      · rintro ⟨i, rfl | hi, hk⟩
        · exact .inr hk
        · exact .inl ⟨i, hi, hk⟩

theorem gathered_ne_empty {n : ℕ} : gathered s n ≠ ∅ ↔ ∃ m, n = m + 1 ∧ (s m).Nonempty := by
  cases n with
  | zero => simp [gathered]
  | succ n =>
    by_cases h : s n = ∅ <;> simp [gathered, h, Finset.nonempty_iff_ne_empty, Finset.union_eq_empty]

theorem collect_gathered (n : ℕ) : (collect (gathered s n) (s n)).2 = gathered s (n + 1) := by
  by_cases h : s n = ∅ <;> simp [collect, gathered, h]

theorem collect_eq_some {n : ℕ} {g : Finset K} :
    (collect (gathered s n) (s n)).1 = some g ↔ Ends s n ∧ gathered s n = g := by
  rw [Ends, ← gathered_ne_empty]
  by_cases h : s n = ∅ <;> by_cases hg : gathered s n = ∅ <;> simp [collect, h, hg]

theorem final_collect (seen : List (Finset K)) {n : ℕ} (h : n ≤ seen.length) :
    final collect ∅ (seen.take n) = gathered (sample seen) n := by
  induction n with
  | zero => rfl
  | succ n ih =>
    rw [List.take_succ_eq_append_getElem (by omega), final_append, ih (by omega),
      ← collect_gathered, sample_of_lt (by omega)]
    rfl

theorem trace_collect (seen : List (Finset K)) (n : ℕ) (g : Finset K) :
    (trace collect ∅ seen)[n]? = some (some g) ↔
      n < seen.length ∧ Ends (sample seen) n ∧
        ∀ k, k ∈ g ↔ ∃ i, InBurst (sample seen) i n ∧ k ∈ sample seen i := by
  rw [trace_getElem?]
  by_cases h : n < seen.length
  · rw [final_collect seen (by omega), List.getElem?_eq_getElem h, Option.map_some, Option.some_inj,
      ← sample_of_lt h, collect_eq_some, Finset.ext_iff]
    simp only [h, mem_gathered, true_and, iff_comm]
  · simp [h]

section Handing

variable {g h low : Finset K}

def handed (g : Finset K) (seen : List (Finset K)) : List (Finset K) :=
  (trace collect g seen).reduceOption

theorem handed_append (g : Finset K) (seen more : List (Finset K)) :
    handed g (seen ++ more) = handed g seen ++ handed (final collect g seen) more := by
  rw [handed, trace_append, List.reduceOption_append]
  rfl

theorem collect_of_nonempty (hlow : low ≠ ∅) : collect g low = (none, g ∪ low) := if_neg hlow

theorem collect_empty : collect g ∅ = (if g = ∅ then none else some g, ∅) := if_pos rfl

theorem handed_replicate (hlow : low ≠ ∅) (n : ℕ) :
    handed g (List.replicate n low) = [] ∧
      final collect g (List.replicate (n + 1) low) = g ∪ low := by
  induction n generalizing g with
  | zero => exact ⟨rfl, congrArg Prod.snd (collect_of_nonempty hlow)⟩
  | succ n ih =>
    obtain ⟨hnone, hfinal⟩ := ih (g := g ∪ low)
    rw [Finset.union_assoc, Finset.union_self] at hfinal
    rw [List.replicate_succ, handed, trace, List.replicate_succ, final_cons,
      collect_of_nonempty hlow, List.reduceOption_cons_of_none]
    exact ⟨hnone, hfinal⟩

theorem handed_replicate_empty (n : ℕ) :
    handed g (List.replicate (n + 1) ∅) = (if g = ∅ then [] else [g]) ∧
      final collect g (List.replicate (n + 1) (∅ : Finset K)) = ∅ := by
  induction n generalizing g with
  | zero =>
    rw [List.replicate_one, handed, trace, trace, final_cons, final_nil, collect_empty]
    split_ifs <;> exact ⟨rfl, rfl⟩
  | succ n ih =>
    obtain ⟨hnone, hfinal⟩ := ih (g := ∅)
    rw [List.replicate_succ, handed, trace, final_cons, collect_empty]
    refine ⟨?_, hfinal⟩
    split_ifs
    · exact hnone
    · exact congrArg (g :: ·) hnone

def Between (g new h : Finset K) : Prop := g ⊆ h ∧ h ⊆ g ∪ new

variable {new : Finset K}

theorem Between.refl (g new : Finset K) : Between g new g :=
  ⟨Finset.Subset.refl g, Finset.subset_union_left⟩

theorem Between.replicate (hb : Between g new h) (hlow : low ⊆ g ∪ new) (hidle : low = ∅ → h = ∅)
    (n : ℕ) : handed h (List.replicate n low) = [] ∧
      Between g new (final collect h (List.replicate n low)) ∧
      (low = ∅ → final collect h (List.replicate n low) = ∅) := by
  cases n with
  | zero => exact ⟨rfl, hb, hidle⟩
  | succ n =>
    by_cases hempty : low = ∅
    · subst hempty
      obtain ⟨hnone, hfinal⟩ := handed_replicate_empty (g := h) n
      rw [if_pos (hidle rfl)] at hnone
      rw [hnone, hfinal]
      exact ⟨rfl, hidle rfl ▸ hb, fun _ => rfl⟩
    · obtain ⟨hnone, -⟩ := handed_replicate (g := h) hempty (n + 1)
      obtain ⟨-, hfinal⟩ := handed_replicate (g := h) hempty n
      rw [hnone, hfinal]
      exact ⟨rfl, ⟨hb.1.trans Finset.subset_union_left, Finset.union_subset hb.2 hlow⟩,
        fun hlow => (hempty hlow).elim⟩

theorem Between.settle (hb : Between g new h) (hlow : low ⊆ g ∪ new) (hnew : new ⊆ low)
    (hne : low ≠ ∅) (n : ℕ) : handed h (List.replicate (n + 1) low) = [] ∧
      final collect h (List.replicate (n + 1) low) = g ∪ new := by
  obtain ⟨hnone, -⟩ := handed_replicate (g := h) hne (n + 1)
  obtain ⟨-, hfinal⟩ := handed_replicate (g := h) hne n
  refine ⟨hnone, hfinal.trans (Finset.Subset.antisymm (Finset.union_subset hb.2 hlow) ?_)⟩
  exact Finset.union_subset_union hb.1 hnew

end Handing

end Bursts
