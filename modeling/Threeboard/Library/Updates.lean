import Threeboard.Library.Action
import Mathlib.Logic.Function.Basic

namespace Updates

open Actions

section Apply

variable {α β κ δ : Type} [DecidableEq α] [DecidableEq κ] {v : α → β} {a : α} {b : β}

def apply (ws : List (α × β)) (v : α → β) : α → β :=
  ws.foldl (fun u w => Function.update u w.1 w.2) v

@[simp] theorem apply_nil (v : α → β) : apply [] v = v := rfl

@[simp] theorem apply_cons (w : α × β) (ws : List (α × β)) (v : α → β) :
    apply (w :: ws) v = apply ws (Function.update v w.1 w.2) := rfl

theorem apply_append (ws ws' : List (α × β)) (v : α → β) :
    apply (ws ++ ws') v = apply ws' (apply ws v) := List.foldl_append

theorem apply_of_forall_ne {ws : List (α × β)} (h : ∀ w ∈ ws, w.1 ≠ a) : apply ws v a = v a := by
  induction ws generalizing v with
  | nil => rfl
  | cons w ws ih =>
    rw [apply_cons, ih fun w' hw' => h w' (by simp [hw'])]
    exact Function.update_of_ne (h w (by simp)).symm _ _

def latest (key : δ → κ) (k : κ) : List δ → Option δ
  | [] => none
  | e :: rest => (latest key k rest).or (if key e = k then some e else none)

section Latest

variable {key : δ → κ} {k : κ} {e : δ} {entries : List δ}

theorem latest_cons_eq_some {first : δ} (h : latest key k (first :: entries) = some e) :
    latest key k entries = some e ∨ latest key k entries = none ∧ key first = k ∧ first = e := by
  simpa [latest, Option.or_eq_some_iff] using h

theorem latest_mem (h : latest key k entries = some e) : e ∈ entries ∧ key e = k := by
  induction entries with
  | nil => simp [latest] at h
  | cons first rest ih =>
    rcases latest_cons_eq_some h with hrest | ⟨-, hkey, rfl⟩
    · exact ⟨List.mem_cons_of_mem first (ih hrest).1, (ih hrest).2⟩
    · exact ⟨List.mem_cons_self, hkey⟩

theorem latest_eq_none : latest key k entries = none ↔ ∀ e ∈ entries, key e ≠ k := by
  induction entries with
  | nil => simp [latest]
  | cons first rest ih => simp [latest, ih, and_comm]

theorem latest_of_forall (hmem : e ∈ entries) (hkey : key e = k)
    (hall : ∀ e' ∈ entries, key e' = k → e' = e) : latest key k entries = some e := by
  cases h : latest key k entries with
  | none => exact (latest_eq_none.mp h e hmem hkey).elim
  | some e' => exact congrArg some (hall e' (latest_mem h).1 (latest_mem h).2)

theorem latest_forall₂ {ε ι : Type} [DecidableEq ι] {R : ε → δ → Prop} {key' : ε → ι} {n : ι}
    {xs : List ε} (h : List.Forall₂ R xs entries)
    (hkey : ∀ x e, R x e → (key' x = n ↔ key e = k)) :
    latest key' n xs = none ∧ latest key k entries = none ∨
      ∃ x e, R x e ∧ latest key' n xs = some x ∧ latest key k entries = some e := by
  induction h with
  | nil => exact .inl ⟨rfl, rfl⟩
  | @cons x e _ _ hxe _ ih =>
    rcases ih with ⟨hx, he⟩ | ⟨x', e', hrest, hx, he⟩
    · by_cases hk : key e = k
      · exact .inr ⟨x, e, hxe, by simp [latest, hx, (hkey x e hxe).mpr hk], by simp [latest, he, hk]⟩
      · exact .inl ⟨by simp [latest, hx, mt (hkey x e hxe).mp hk], by simp [latest, he, hk]⟩
    · exact .inr ⟨x', e', hrest, by simp [latest, hx], by simp [latest, he]⟩

theorem latest_zipIdx {xs : List δ} {n : ℕ} (hn : n < xs.length) :
    latest Prod.snd n xs.zipIdx = some (xs[n], n) := by
  refine latest_of_forall (List.mk_mem_zipIdx_iff_getElem?.mpr (List.getElem?_eq_getElem hn)) rfl ?_
  rintro ⟨x, m⟩ hmem rfl
  have hx := List.mk_mem_zipIdx_iff_getElem?.mp hmem
  rw [List.getElem?_eq_getElem hn, Option.some.injEq] at hx
  rw [hx]

end Latest

section Entries

variable {out : δ → List (α × β)} {entries : List δ} (key : δ → κ) (k : κ)

theorem apply_flatMap_of_none (hkey : ∀ e ∈ entries, key e ≠ k → ∀ w ∈ out e, w.1 ≠ a)
    (h : latest key k entries = none) : apply (entries.flatMap out) v a = v a := by
  refine apply_of_forall_ne fun w hw => ?_
  obtain ⟨e, he, hw⟩ := List.mem_flatMap.mp hw
  exact hkey e he (latest_eq_none.mp h e he) w hw

theorem apply_flatMap_latest (hkey : ∀ e ∈ entries, key e ≠ k → ∀ w ∈ out e, w.1 ≠ a) {e : δ}
    (h : latest key k entries = some e) (he : ∀ u, apply (out e) u a = b) :
    apply (entries.flatMap out) v a = b := by
  induction entries generalizing v with
  | nil => simp [latest] at h
  | cons first rest ih =>
    have hrest : ∀ e ∈ rest, key e ≠ k → ∀ w ∈ out e, w.1 ≠ a :=
      fun e' he' => hkey e' (List.mem_cons_of_mem first he')
    rw [List.flatMap_cons, apply_append]
    rcases latest_cons_eq_some h with hlater | ⟨hnone, -, rfl⟩
    · exact ih hrest hlater
    · rw [apply_flatMap_of_none key k hrest hnone]
      exact he v

theorem apply_flatMap (hkey : ∀ e ∈ entries, key e ≠ k → ∀ w ∈ out e, w.1 ≠ a)
    (hnone : latest key k entries = none → v a = b)
    (hsome : ∀ e, latest key k entries = some e → ∀ u, apply (out e) u a = b) :
    apply (entries.flatMap out) v a = b := by
  cases h : latest key k entries with
  | none => rw [apply_flatMap_of_none key k hkey h, hnone h]
  | some e => exact apply_flatMap_latest key k hkey h (hsome e h)

theorem apply_zipIdx {out : δ × ℕ → List (α × β)} {n : ℕ} (hn : n < entries.length)
    (hother : ∀ c ∈ entries.zipIdx, c.2 ≠ n → ∀ w ∈ out c, w.1 ≠ a)
    (hhere : ∀ u, apply (out (entries[n], n)) u a = b) :
    apply (entries.zipIdx.flatMap out) v a = b :=
  apply_flatMap_latest Prod.snd n hother (latest_zipIdx hn) hhere

end Entries

end Apply

section Performs

variable {σ α β γ δ : Type} {view : σ → α → β}

def Performs (view : σ → α → β) (x : Action σ Unit) (g : (α → β) → α → β) : Prop :=
  ∀ s, (x s).1 = some () ∧ view (x s).2 = g (view s)

theorem Performs.bind {x y : Action σ Unit} {g g' : (α → β) → α → β} (hx : Performs view x g)
    (hy : Performs view y g') : Performs view (x >>= fun _ => y) (g' ∘ g) := by
  intro s
  obtain ⟨hsome, hview⟩ := hx s
  have hrun : x s = (some (), (x s).2) := Prod.ext hsome rfl
  rw [Action.bind_of_some hrun, Function.comp_apply, ← hview]
  exact hy (x s).2

variable [DecidableEq α]

theorem Performs.of_nil {x : Action σ Unit} (h : ∀ s, x s = (some (), s)) :
    Performs view x (apply []) := fun s => by simp [h s]

theorem Performs.append {x y : Action σ Unit} {ws ws' : List (α × β)}
    (hx : Performs view x (apply ws)) (hy : Performs view y (apply ws')) :
    Performs view (x >>= fun _ => y) (apply (ws ++ ws')) := by
  have hboth := hx.bind hy
  have happly : apply (ws ++ ws') = apply ws' ∘ apply ws := funext (apply_append ws ws')
  rwa [happly]

theorem Performs.forM {R : γ → δ → Prop} {body : γ → Action σ Unit} {out : δ → List (α × β)}
    {xs : List γ} {ys : List δ} (hR : List.Forall₂ R xs ys)
    (h : ∀ c, ∀ d ∈ ys, R c d → Performs view (body c) (apply (out d))) :
    Performs view (ForM.forM xs body) (apply (ys.flatMap out)) := by
  induction hR with
  | nil => exact Performs.of_nil fun _ => rfl
  | cons hcd _ ih =>
    rw [List.forM_cons, List.flatMap_cons]
    exact (h _ _ (by simp) hcd).append (ih fun c d hd => h c d (by simp [hd]))

end Performs

end Updates
