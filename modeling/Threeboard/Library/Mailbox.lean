import Mathlib.Data.List.Basic

namespace Mailbox

variable {α : Type}

inductive Occurrence (α : Type) where
  | post (a : α)
  | fetch (a : α)
  deriving DecidableEq, Repr

def posts : List (Occurrence α) → List α
  | [] => []
  | .post a :: rest => a :: posts rest
  | .fetch _ :: rest => posts rest

def fetches : List (Occurrence α) → List α
  | [] => []
  | .post _ :: rest => fetches rest
  | .fetch a :: rest => a :: fetches rest

-- A history of a mailbox that holds one letter at most: what is fetched is what was posted last.
inductive Holds : List (Occurrence α) → Option α → Prop where
  | empty : Holds [] none
  | post {history held} (a : α) (h : Holds history held) : Holds (history ++ [.post a]) (some a)
  | fetch {history} {a : α} (h : Holds history (some a)) : Holds (history ++ [.fetch a]) none

def Spaced (history : List (Occurrence α)) : Prop :=
  ∀ i a b, history[i]? = some (.post a) → history[i + 1]? ≠ some (.post b)

@[simp] theorem posts_append (xs ys : List (Occurrence α)) :
    posts (xs ++ ys) = posts xs ++ posts ys := by
  induction xs with
  | nil => rfl
  | cons x xs ih => cases x <;> simp [posts, ih]

@[simp] theorem fetches_append (xs ys : List (Occurrence α)) :
    fetches (xs ++ ys) = fetches xs ++ fetches ys := by
  induction xs with
  | nil => rfl
  | cons x xs ih => cases x <;> simp [fetches, ih]

variable {history : List (Occurrence α)} {held : Option α}

theorem fetches_sublist (h : Holds history held) :
    (fetches history ++ held.toList).Sublist (posts history) := by
  induction h with
  | empty => exact .slnil
  | post a _ ih =>
    have hsub := (List.sublist_append_left _ _).trans ih
    simpa [posts, fetches] using hsub.append (List.Sublist.refl [a])
  | fetch _ ih => simpa [posts, fetches] using ih

theorem last_of_held {a : α} (h : Holds history (some a)) :
    ∃ before, history = before ++ [.post a] := by
  cases h with
  | post a _ => exact ⟨_, rfl⟩

theorem getElem?_concat_eq_some {xs : List α} {a b : α} {i : ℕ} :
    (xs ++ [a])[i]? = some b ↔ xs[i]? = some b ∨ i = xs.length ∧ a = b := by
  by_cases h : i < xs.length
  · have hne : i ≠ xs.length := by omega
    simp [List.getElem?_append_left h, hne]
  · have hle : xs.length ≤ i := by omega
    obtain ⟨k, rfl⟩ := Nat.exists_eq_add_of_le hle
    cases k <;> simp

theorem fetch_after_post (h : Holds history held) {i : ℕ} {a : α}
    (hi : history[i]? = some (.fetch a)) :
    ∃ j, i = j + 1 ∧ history[j]? = some (.post a) := by
  induction h with
  | empty => simp at hi
  | post b _ ih =>
    obtain hold | ⟨-, hnew⟩ := getElem?_concat_eq_some.mp hi
    · obtain ⟨j, rfl, hj⟩ := ih hold
      exact ⟨j, rfl, getElem?_concat_eq_some.mpr (.inl hj)⟩
    · cases hnew
  | fetch h ih =>
    obtain hold | ⟨rfl, hnew⟩ := getElem?_concat_eq_some.mp hi
    · obtain ⟨j, rfl, hj⟩ := ih hold
      exact ⟨j, rfl, getElem?_concat_eq_some.mpr (.inl hj)⟩
    · cases hnew
      obtain ⟨before, rfl⟩ := last_of_held h
      exact ⟨before.length, by simp, by simp⟩

theorem after_post (h : Holds history held) {i : ℕ} {a : α}
    (hi : history[i]? = some (.post a)) :
    history[i + 1]? = some (.fetch a) ∨ (∃ b, history[i + 1]? = some (.post b)) ∨
      i + 1 = history.length ∧ held = some a := by
  induction h with
  | empty => simp at hi
  | post b _ ih =>
    obtain hold | ⟨rfl, hnew⟩ := getElem?_concat_eq_some.mp hi
    · obtain hf | ⟨c, hp⟩ | ⟨hlast, -⟩ := ih hold
      · exact .inl (getElem?_concat_eq_some.mpr (.inl hf))
      · exact .inr (.inl ⟨c, getElem?_concat_eq_some.mpr (.inl hp)⟩)
      · exact .inr (.inl ⟨b, getElem?_concat_eq_some.mpr (.inr ⟨hlast, rfl⟩)⟩)
    · cases hnew
      exact .inr (.inr ⟨by simp, rfl⟩)
  | fetch _ ih =>
    obtain hold | ⟨-, hnew⟩ := getElem?_concat_eq_some.mp hi
    · obtain hf | ⟨c, hp⟩ | ⟨hlast, hheld⟩ := ih hold
      · exact .inl (getElem?_concat_eq_some.mpr (.inl hf))
      · exact .inr (.inl ⟨c, getElem?_concat_eq_some.mpr (.inl hp)⟩)
      · cases hheld
        exact .inl (getElem?_concat_eq_some.mpr (.inr ⟨hlast, rfl⟩))
    · cases hnew

theorem Spaced.of_concat {x : Occurrence α} (h : Spaced (history ++ [x])) : Spaced history :=
  fun i a b ha hb => h i a b (getElem?_concat_eq_some.mpr (.inl ha))
    (getElem?_concat_eq_some.mpr (.inl hb))

theorem not_spaced_of_held {a b : α} (h : Holds history (some a)) :
    ¬ Spaced (history ++ [.post b]) := by
  obtain ⟨before, rfl⟩ := last_of_held h
  exact fun hs => hs before.length a b (by simp) (by simp)

theorem posts_eq_fetches (h : Holds history held) (hs : Spaced history) :
    posts history = fetches history ++ held.toList := by
  induction h with
  | empty => rfl
  | @post before held b h ih =>
    cases held with
    | none => simpa [posts, fetches] using ih hs.of_concat
    | some a => exact (not_spaced_of_held h hs).elim
  | fetch _ ih => simpa [posts, fetches] using ih hs.of_concat

end Mailbox
