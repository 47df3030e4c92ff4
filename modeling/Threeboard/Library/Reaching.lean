import Mathlib.Logic.Relation
import Mathlib.Data.Fintype.EquivFin
import Mathlib.Data.Finset.Piecewise

namespace Reaching

open Relation

variable {α : Type} {R : α → α → Prop}

theorem cycle {f : UInt8 → α} (h : ∀ n, ReflTransGen R (f n) (f (n + 1))) (m n : UInt8) :
    ReflTransGen R (f m) (f n) := by
  have hsteps (k : ℕ) : ReflTransGen R (f m) (f (m + UInt8.ofNat k)) := by
    induction k with
    | zero =>
      rw [show m + UInt8.ofNat 0 = m from UInt8.add_zero m]
    | succ k ih =>
      have hnext : m + UInt8.ofNat (k + 1) = m + UInt8.ofNat k + 1 := by
        rw [UInt8.ofNat_add, ← UInt8.add_assoc]
        rfl
      rw [hnext]
      exact ih.trans (h _)
  have hlast := hsteps (n - m).toNat
  rwa [UInt8.ofNat_toNat, UInt8.add_comm, UInt8.sub_add_cancel] at hlast

theorem exists_inputs {A : Type} {step : α → A → α} {q q' : α}
    (h : ReflTransGen (fun q q' => ∃ a, step q a = q') q q') :
    ∃ inputs : List A, inputs.foldl step q = q' := by
  induction h with
  | refl => exact ⟨[], rfl⟩
  | tail _ hstep ih =>
    obtain ⟨inputs, rfl⟩ := ih
    obtain ⟨a, rfl⟩ := hstep
    exact ⟨inputs ++ [a], by rw [List.foldl_append]; rfl⟩

instance finite_uint8 : Finite UInt8 := .of_injective UInt8.toFin fun _ _ => UInt8.toFin_inj.mp

variable {ι β : Type} [DecidableEq ι]

theorem map [Finite ι] {P : (ι → β) → Prop} (hstep : ∀ f i x, P f → P (Function.update f i x))
    {f : ι → β} (hf : P f) (g : ι → β) : P g := by
  cases nonempty_fintype ι
  have hsome (t : Finset ι) : P (t.piecewise g f) := by
    induction t using Finset.induction_on with
    | empty => rwa [Finset.piecewise_empty]
    | insert i t _ ih =>
      rw [Finset.piecewise_insert]
      exact hstep _ i _ ih
  rw [← Finset.piecewise_univ g f]
  exact hsome _

end Reaching
