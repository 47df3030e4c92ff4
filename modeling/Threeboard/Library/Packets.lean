import Mathlib.Data.List.Basic
import Mathlib.Algebra.Order.Group.Nat

namespace Packets

variable {α : Type} {n : ℕ} {xs : List α} {packets : List (List α)}

-- Packets of one size, up to a shorter one that says the transfer is over; it may be empty.
inductive Splits (n : ℕ) : List α → List (List α) → Prop where
  | last {xs : List α} (h : xs.length < n) : Splits n xs [xs]
  | full {packet xs : List α} {packets : List (List α)} (h : packet.length = n)
      (rest : Splits n xs packets) : Splits n (packet ++ xs) (packet :: packets)

namespace Splits

theorem flatten (h : Splits n xs packets) : packets.flatten = xs := by
  induction h with
  | last => simp
  | full _ _ ih => rw [List.flatten_cons, ih]

theorem ne_nil (h : Splits n xs packets) : packets ≠ [] := by
  cases h <;> simp

theorem length_of_mem_dropLast (h : Splits n xs packets) {packet : List α}
    (hmem : packet ∈ packets.dropLast) : packet.length = n := by
  induction h with
  | last => simp at hmem
  | full hlen rest ih =>
    rw [List.dropLast_cons_of_ne_nil rest.ne_nil, List.mem_cons] at hmem
    rcases hmem with rfl | hmem
    · exact hlen
    · exact ih hmem

theorem length_getLast (h : Splits n xs packets) : (packets.getLast h.ne_nil).length < n := by
  induction h with
  | last h => exact h
  | full _ rest ih => rwa [List.getLast_cons rest.ne_nil]

theorem length_le (h : Splits n xs packets) {packet : List α} (hmem : packet ∈ packets) :
    packet.length ≤ n := by
  rw [← List.dropLast_append_getLast h.ne_nil, List.mem_append, List.mem_singleton] at hmem
  rcases hmem with hmem | rfl
  · exact (h.length_of_mem_dropLast hmem).le
  · exact h.length_getLast.le

theorem nil_mem_iff (h : Splits n xs packets) : [] ∈ packets ↔ n ∣ xs.length := by
  induction h with
  | @last xs hlast =>
    rw [List.mem_singleton, eq_comm, ← List.length_eq_zero_iff]
    exact ⟨fun hzero => hzero ▸ Nat.dvd_zero n, fun hdvd => Nat.eq_zero_of_dvd_of_lt hdvd hlast⟩
  | @full packet xs packets hlen rest ih =>
    have hpos : 0 < n := Nat.lt_of_le_of_lt (Nat.zero_le _) rest.length_getLast
    have hne : packet ≠ [] := by
      rintro rfl
      exact hpos.ne hlen
    rw [List.mem_cons, ih, List.length_append, hlen, Nat.dvd_add_right (Nat.dvd_refl n)]
    simp [hne.symm]

end Splits

def split (n : ℕ) (xs : List α) : List (List α) :=
  (List.range (xs.length / n + 1)).map fun i => (xs.drop (n * i)).take n

theorem split_of_lt (h : xs.length < n) : split n xs = [xs] := by
  simp [split, Nat.div_eq_of_lt h, List.take_of_length_le h.le]

theorem split_append {packet : List α} (hn : 0 < n) (h : packet.length = n) :
    split n (packet ++ xs) = packet :: split n xs := by
  have hlen : (packet ++ xs).length / n + 1 = xs.length / n + 1 + 1 := by
    rw [List.length_append, h, Nat.add_div_left _ hn]
  have hdrop (i : ℕ) : (packet ++ xs).drop (n * (i + 1)) = xs.drop (n * i) := by
    rw [Nat.mul_succ, Nat.add_comm, ← List.drop_drop, List.drop_left' h]
  rw [split, hlen, List.range_succ_eq_map, List.map_cons, List.map_map, Nat.mul_zero, List.drop_zero,
    List.take_left' h, split]
  simp only [Function.comp_def, Nat.succ_eq_add_one, hdrop]

theorem splits_split (hn : 0 < n) (xs : List α) : Splits n xs (split n xs) := by
  induction h : xs.length using Nat.strong_induction_on generalizing xs with
  | _ k ih =>
    rcases Nat.lt_or_ge xs.length n with hlast | hfull
    · rw [split_of_lt hlast]
      exact .last hlast
    · have hpacket : (xs.take n).length = n := List.length_take_of_le hfull
      have hrest : Splits n (xs.drop n) (split n (xs.drop n)) :=
        ih (xs.drop n).length (by rw [List.length_drop]; omega) _ rfl
      rw [← List.take_append_drop n xs, split_append hn hpacket]
      exact .full hpacket hrest

end Packets
