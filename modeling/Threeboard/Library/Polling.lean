import Threeboard.Library.Action

namespace Actions.Action

variable {σ α β : Type}

-- A loop that does nothing but ask until the answer is yes; stopped means that it is still asking.
def poll (ask : Action σ Bool) : ℕ → Action σ Unit
  | 0 => stop
  | polls + 1 => do
    if ← ask then pure () else poll ask polls

variable {ask : Action σ Bool}

theorem poll_ready {s t : σ} (h : ask s = (some true, t)) (polls : ℕ) :
    poll ask (polls + 1) s = (some (), t) := by
  rw [poll, bind_of_some h]
  rfl

theorem poll_waits {s t : σ} (h : ask s = (some false, t)) (polls : ℕ) :
    poll ask (polls + 1) s = poll ask polls t := by
  rw [poll, bind_of_some h]
  rfl

theorem poll_of_countdown {waiting : ℕ → σ} {t : σ} (hready : ask (waiting 0) = (some true, t))
    (hwait : ∀ n, ask (waiting (n + 1)) = (some false, waiting n)) {n polls : ℕ} (h : n < polls) :
    poll ask polls (waiting n) = (some (), t) := by
  induction n generalizing polls with
  | zero =>
    obtain ⟨polls, rfl⟩ := Nat.exists_eq_add_of_lt h
    exact poll_ready hready _
  | succ n ih =>
    obtain ⟨polls, rfl⟩ : ∃ k, polls = k + 1 := ⟨polls - 1, by omega⟩
    rw [poll_waits (hwait n)]
    exact ih (by omega)

def Settles (x : ℕ → Action σ α) (s : σ) (a : α) (t : σ) : Prop :=
  ∃ bound, ∀ polls ≥ bound, x polls s = (some a, t)

theorem Settles.of_run {x : ℕ → Action σ α} {s t : σ} {a : α}
    (h : ∀ polls, x polls s = (some a, t)) : Settles x s a t := ⟨0, fun polls _ => h polls⟩

theorem Settles.bind {x : ℕ → Action σ α} {f : ℕ → α → Action σ β} {s t u : σ} {a : α} {b : β}
    (hx : Settles x s a t) (hf : Settles (fun polls => f polls a) t b u) :
    Settles (fun polls => x polls >>= f polls) s b u := by
  obtain ⟨m, hm⟩ := hx
  obtain ⟨n, hn⟩ := hf
  refine ⟨max m n, fun polls h => ?_⟩
  exact (bind_of_some (hm polls (by omega)) _).trans (hn polls (by omega))

theorem Settles.poll_ready {s t : σ} (h : ask s = (some true, t)) : Settles (poll ask) s () t := by
  refine ⟨1, fun polls hpolls => ?_⟩
  obtain ⟨polls, rfl⟩ := Nat.exists_eq_add_of_le' hpolls
  exact Action.poll_ready h polls

theorem Settles.poll_waits {s t u : σ} (h : ask s = (some false, t)) (ht : Settles (poll ask) t () u) :
    Settles (poll ask) s () u := by
  obtain ⟨bound, hbound⟩ := ht
  refine ⟨bound + 1, fun polls hpolls => ?_⟩
  obtain ⟨polls, rfl⟩ : ∃ k, polls = k + 1 := ⟨polls - 1, by omega⟩
  rw [Action.poll_waits h]
  exact hbound polls (by omega)

def Attains (P : σ → Prop) (x : ℕ → Action σ α) (Q : α → σ → Prop) : Prop :=
  ∀ s, P s → ∃ a t, Settles x s a t ∧ Q a t

namespace Attains

variable {P P' : σ → Prop} {Q Q' : α → σ → Prop} {R : β → σ → Prop} {x y : ℕ → Action σ α}

theorem mono (h : Attains P x Q) (hpre : ∀ s, P' s → P s) (hpost : ∀ a s, Q a s → Q' a s) :
    Attains P' x Q' := by
  intro s hs
  obtain ⟨a, t, hsettles, ht⟩ := h s (hpre s hs)
  exact ⟨a, t, hsettles, hpost a t ht⟩

theorem assuming {p : Prop} (h : p → Attains P x Q) : Attains (fun s => p ∧ P s) x Q :=
  fun s hs => h hs.1 s hs.2

theorem pure {a : α} (h : ∀ s, P s → Q a s) : Attains P (fun _ => Pure.pure a) Q :=
  fun s hs => ⟨a, s, .of_run fun _ => rfl, h s hs⟩

theorem gets {f : σ → α} (h : ∀ s, P s → Q (f s) s) : Attains P (fun _ => Action.gets f) Q :=
  fun s hs => ⟨f s, s, .of_run fun _ => rfl, h s hs⟩

theorem modify {f : σ → σ} {Q : Unit → σ → Prop} (h : ∀ s, P s → Q () (f s)) :
    Attains P (fun _ => Action.modify f) Q :=
  fun s hs => ⟨(), f s, .of_run fun _ => rfl, h s hs⟩

theorem bind {f : ℕ → α → Action σ β} (hx : Attains P x Q)
    (hf : ∀ a, Attains (Q a) (fun polls => f polls a) R) :
    Attains P (fun polls => x polls >>= f polls) R := by
  intro s hs
  obtain ⟨a, t, hsettles, ht⟩ := hx s hs
  obtain ⟨b, u, hrest, hu⟩ := hf a t ht
  exact ⟨b, u, hsettles.bind hrest, hu⟩

theorem ite {p : Prop} [Decidable p] (hx : p → Attains P x Q) (hy : ¬ p → Attains P y Q) :
    Attains P (fun polls => if p then x polls else y polls) Q := by
  by_cases hp : p
  · simpa only [if_pos hp] using hx hp
  · simpa only [if_neg hp] using hy hp

theorem forM {γ : Type} {I : List γ → σ → Prop} {body : ℕ → γ → Action σ Unit}
    (h : ∀ g rest, Attains (I (g :: rest)) (fun polls => body polls g) fun _ => I rest)
    (list : List γ) : Attains (I list) (fun polls => ForM.forM list (body polls)) fun _ => I [] := by
  induction list with
  | nil => exact pure fun _ hs => hs
  | cons g rest ih => exact (h g rest).bind fun _ => ih

theorem poll {I : ℕ → σ → Prop} {Q : σ → Prop}
    (h : ∀ k s, I k s → ∃ t, ask s = (some true, t) ∧ Q t ∨
      ask s = (some false, t) ∧ ∃ j < k, I j t) :
    Attains (fun s => ∃ k, I k s) (Action.poll ask) fun _ => Q := by
  rintro s ⟨k, hs⟩
  induction k using Nat.strongRecOn generalizing s with
  | ind k ih =>
    obtain ⟨t, ⟨hask, ht⟩ | ⟨hask, j, hj, ht⟩⟩ := h k s hs
    · exact ⟨(), t, .poll_ready hask, ht⟩
    · obtain ⟨a, v, hsettles, hv⟩ := ih j hj t ht
      exact ⟨(), v, Settles.poll_waits hask hsettles, hv⟩

end Attains

theorem Keeps.poll {I : σ → Prop} (h : Keeps I ask) (polls : ℕ) : Keeps I (poll ask polls) := by
  induction polls with
  | zero => exact Keeps.stop
  | succ polls ih => exact h.bind fun _ => (Keeps.pure ()).ite ih

-- A loop that goes round with a new value until it has a result; stopped means that it has none yet.
def loop (body : β → Action σ (β ⊕ α)) : ℕ → β → Action σ α
  | 0, _ => stop
  | rounds + 1, b => do
    match ← body b with
    | .inl b => loop body rounds b
    | .inr a => pure a

variable {body : β → Action σ (β ⊕ α)}

theorem loop_done {b : β} {a : α} {s t : σ} (h : body b s = (some (.inr a), t)) (rounds : ℕ) :
    loop body (rounds + 1) b s = (some a, t) := by
  rw [loop, bind_of_some h]
  rfl

theorem loop_again {b b' : β} {s t : σ} (h : body b s = (some (.inl b'), t)) (rounds : ℕ) :
    loop body (rounds + 1) b s = loop body rounds b' t := by
  rw [loop, bind_of_some h]

theorem Keeps.loop {I : σ → Prop} (h : ∀ b, Keeps I (body b)) (rounds : ℕ) (b : β) :
    Keeps I (loop body rounds b) := by
  induction rounds generalizing b with
  | zero => exact Keeps.stop
  | succ rounds ih =>
    refine (h b).bind fun r => ?_
    cases r with
    | inl b => exact ih b
    | inr a => exact Keeps.pure a

theorem wp_loop {I E : σ → Prop} {Q : α → σ → Prop}
    (h : ∀ b s, I s → wp (body b) (fun r t => r.elim (fun _ => I t) fun a => Q a t) E s)
    (hstop : ∀ s, I s → E s) (rounds : ℕ) (b : β) {s : σ} (hs : I s) :
    wp (loop body rounds b) Q E s := by
  induction rounds generalizing b s with
  | zero => exact hstop s hs
  | succ rounds ih =>
    rw [loop, wp_bind]
    refine wp_mono (h b s hs) (fun r t ht => ?_) fun _ ht => ht
    cases r with
    | inl b => exact ih b ht
    | inr a => exact ht

theorem Attains.loop {I : ℕ → β → σ → Prop} {Q : α → σ → Prop}
    (hgoes : ∀ n b, Attains (I (n + 1) b) (fun _ => body b) fun r s => ∃ b', r = .inl b' ∧ I n b' s)
    (hdone : ∀ b, Attains (I 0 b) (fun _ => body b) fun r s => ∃ a, r = .inr a ∧ Q a s)
    (n : ℕ) (b : β) : Attains (I n b) (fun rounds => Action.loop body rounds b) Q := by
  intro s hs
  induction n generalizing b s with
  | zero =>
    obtain ⟨r, t, ⟨bound, hrun⟩, a, rfl, ht⟩ := hdone b s hs
    refine ⟨a, t, ⟨1, fun rounds hrounds => ?_⟩, ht⟩
    obtain ⟨rounds, rfl⟩ := Nat.exists_eq_add_of_le' hrounds
    exact loop_done (hrun bound (Nat.le_refl _)) rounds
  | succ n ih =>
    obtain ⟨r, t, ⟨bound, hrun⟩, b', rfl, ht⟩ := hgoes n b s hs
    obtain ⟨a, u, ⟨later, hlater⟩, hu⟩ := ih b' t ht
    refine ⟨a, u, ⟨later + 1, fun rounds hrounds => ?_⟩, hu⟩
    obtain ⟨rounds, rfl⟩ : ∃ k, rounds = k + 1 := ⟨rounds - 1, by omega⟩
    exact (loop_again (hrun bound (Nat.le_refl _)) rounds).trans (hlater rounds (by omega))

theorem loop_pending {I : ℕ → β → σ → Prop}
    (hgoes : ∀ n b, Attains (I n b) (fun _ => body b) fun r s => ∃ b', r = .inl b' ∧ I (n + 1) b' s)
    (rounds : ℕ) {n : ℕ} {b : β} {s : σ} (hs : I n b s) :
    ∃ b' t, loop body rounds b s = (none, t) ∧ I (n + rounds) b' t := by
  induction rounds generalizing n b s with
  | zero => exact ⟨b, s, rfl, hs⟩
  | succ rounds ih =>
    obtain ⟨r, t, ⟨bound, hrun⟩, b', rfl, ht⟩ := hgoes n b s hs
    obtain ⟨b'', u, hloop, hu⟩ := ih ht
    rw [Nat.add_right_comm] at hu
    exact ⟨b'', u, (loop_again (hrun bound (Nat.le_refl _)) rounds).trans hloop, hu⟩

section Rounds

variable {b : ℕ → β} {s : ℕ → σ}

theorem loop_add {n : ℕ}
    (h : ∀ m < n, body (b m) (s m) = (some (.inl (b (m + 1))), s (m + 1))) (rounds : ℕ) :
    loop body (n + rounds) (b 0) (s 0) = loop body rounds (b n) (s n) := by
  induction n generalizing rounds with
  | zero => rw [Nat.zero_add]
  | succ n ih =>
    rw [show n + 1 + rounds = n + (rounds + 1) by omega, ih fun m hm => h m (by omega)]
    exact loop_again (h n (by omega)) rounds

theorem loop_ends {n : ℕ} {a : α} {t : σ}
    (h : ∀ m < n, body (b m) (s m) = (some (.inl (b (m + 1))), s (m + 1)))
    (hdone : body (b n) (s n) = (some (.inr a), t)) {rounds : ℕ} (hn : n < rounds) :
    loop body rounds (b 0) (s 0) = (some a, t) := by
  obtain ⟨rest, rfl⟩ := Nat.exists_eq_add_of_lt hn
  rw [Nat.add_assoc, loop_add h]
  exact loop_done hdone rest

theorem loop_unfinished {rounds : ℕ}
    (h : ∀ m < rounds, body (b m) (s m) = (some (.inl (b (m + 1))), s (m + 1))) :
    loop body rounds (b 0) (s 0) = (none, s rounds) := loop_add h 0

end Rounds

end Actions.Action
