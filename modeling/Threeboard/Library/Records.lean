import Mathlib.Logic.Function.Basic
import Mathlib.Data.List.Range

namespace Records

variable {F L V W : Type}

structure Layout (F L V : Type) where
  place : F → L
  place_injective : Function.Injective place
  encode : V → V
  decode : V → V
  decode_encode : ∀ v, decode (encode v) = v

namespace Layout

variable (layout : Layout F L V)

def view (m : L → V) : F → V := fun f => layout.decode (m (layout.place f))

theorem view_update_place [DecidableEq F] [DecidableEq L] (m : L → V) (f : F) (b : V) :
    layout.view (Function.update m (layout.place f) b) =
      Function.update (layout.view m) f (layout.decode b) := by
  funext g
  by_cases h : g = f
  · simp [view, h]
  · simp [view, h, layout.place_injective.ne h]

theorem view_update_encode [DecidableEq F] [DecidableEq L] (m : L → V) (f : F) (v : V) :
    layout.view (Function.update m (layout.place f) (layout.encode v)) =
      Function.update (layout.view m) f v := by
  rw [view_update_place, decode_encode]

end Layout

def contents (n : ℕ) (cell : ℕ → W) : List W := (List.range n).map cell

@[simp] theorem contents_length (n : ℕ) (cell : ℕ → W) : (contents n cell).length = n := by
  simp [contents]

theorem contents_congr {n : ℕ} {cell cell' : ℕ → W} (h : ∀ k < n, cell k = cell' k) :
    contents n cell = contents n cell' :=
  List.map_congr_left fun k hk => h k (List.mem_range.mp hk)

theorem contents_eq_map {n : ℕ} {cell : ℕ → W} {t : List V} {g : V → W} (hn : n = t.length)
    (h : ∀ k (hk : k < t.length), cell k = g t[k]) : contents n cell = t.map g := by
  subst hn
  refine List.ext_getElem (by simp) fun k hk _ => ?_
  simp only [contents_length] at hk
  simp [contents, h k hk]

theorem contents_zipIdx (n : ℕ) (cell : ℕ → W) :
    (contents n cell).zipIdx = (List.range n).map fun k => (cell k, k) := by
  refine List.ext_getElem (by simp) fun k hk _ => ?_
  simp [contents]

theorem contents_push {n : ℕ} {cell cell' : ℕ → W} {x : W} (h : ∀ k < n, cell' k = cell k)
    (hx : cell' n = x) : contents (n + 1) cell' = contents n cell ++ [x] := by
  simp only [contents, List.range_succ, List.map_append, List.map_singleton, hx]
  exact congrArg (· ++ [x]) (contents_congr h)

end Records
