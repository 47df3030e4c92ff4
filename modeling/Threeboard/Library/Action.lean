import Mathlib.Logic.Basic
import Mathlib.Tactic.Common

namespace Actions

variable {σ τ α β γ : Type}

-- A computation on a state that gives a value or stops early; either way the state it reached is kept.
def Action (σ α : Type) := σ → Option α × σ

namespace Action

instance : Monad (Action σ) where
  pure a := fun s => (some a, s)
  bind x f := fun s => match x s with
    | (some a, t) => f a t
    | (none, t) => (none, t)

def stop : Action σ α := fun s => (none, s)
def gets (f : σ → α) : Action σ α := fun s => (some (f s), s)
def modify (f : σ → σ) : Action σ Unit := fun s => (some (), f s)
def attempt (x : Action σ α) : Action σ Bool := fun s => (some (x s).1.isSome, (x s).2)

def zoom (view : τ → σ) (put : σ → τ → τ) (x : Action σ α) : Action τ α :=
  fun t => ((x (view t)).1, put (x (view t)).2 t)

@[simp] theorem pure_run (a : α) (s : σ) : (pure a : Action σ α) s = (some a, s) := rfl
@[simp] theorem stop_run (s : σ) : (stop : Action σ α) s = (none, s) := rfl
@[simp] theorem gets_run (f : σ → α) (s : σ) : gets f s = (some (f s), s) := rfl
@[simp] theorem modify_run (f : σ → σ) (s : σ) : modify f s = (some (), f s) := rfl

@[simp] theorem attempt_run (x : Action σ α) (s : σ) :
    attempt x s = (some (x s).1.isSome, (x s).2) := rfl

@[simp] theorem zoom_run (view : τ → σ) (put : σ → τ → τ) (x : Action σ α) (t : τ) :
    zoom view put x t = ((x (view t)).1, put (x (view t)).2 t) := rfl

theorem bind_run (x : Action σ α) (f : α → Action σ β) (s : σ) :
    (x >>= f) s = match x s with
      | (some a, t) => f a t
      | (none, t) => (none, t) := rfl

theorem bind_of_some {x : Action σ α} {s t : σ} {a : α} (h : x s = (some a, t))
    (f : α → Action σ β) : (x >>= f) s = f a t := by
  simp [bind_run, h]

theorem bind_of_none {x : Action σ α} {s t : σ} (h : x s = (none, t))
    (f : α → Action σ β) : (x >>= f) s = (none, t) := by
  simp [bind_run, h]

@[simp] theorem gets_bind (g : σ → α) (f : α → Action σ β) (s : σ) :
    (gets g >>= f) s = f (g s) s := rfl

@[simp] theorem modify_bind (g : σ → σ) (f : Unit → Action σ β) (s : σ) :
    (modify g >>= f) s = f () (g s) := rfl

@[simp] theorem attempt_bind (x : Action σ α) (f : Bool → Action σ β) (s : σ) :
    (attempt x >>= f) s = f (x s).1.isSome (x s).2 := rfl

theorem bind_pure_run (x : Action σ α) : x >>= pure = x := by
  funext s
  cases h : x s with
  | mk o t => cases o <;> simp [bind_run, h]

theorem bind_assoc_run (x : Action σ α) (f : α → Action σ β) (g : β → Action σ γ) :
    x >>= f >>= g = x >>= fun a => f a >>= g := by
  funext s
  cases h : x s with
  | mk o t => cases o <;> simp [bind_run, h]

theorem bind_unseen (view : σ → τ) {x : Action σ α} {f : α → Action σ β}
    (hf : ∀ a t, view (f a t).2 = view t) (s : σ) : view ((x >>= f) s).2 = view (x s).2 := by
  rcases h : x s with ⟨_ | a, t⟩
  · rw [bind_of_none h]
  · rw [bind_of_some h, hf a t]

theorem bind_pure_state (x : Action σ α) (f : α → β) (s : σ) :
    ((x >>= fun a => pure (f a)) s).2 = (x s).2 := bind_unseen id (fun _ _ => rfl) s

theorem bind_pure_value (x : Action σ α) (f : α → β) (s : σ) :
    ((x >>= fun a => pure (f a)) s).1 = (x s).1.map f := by
  rcases h : x s with ⟨_ | a, t⟩
  · rw [bind_of_none h, Option.map_none]
  · rw [bind_of_some h, Option.map_some, pure_run]

instance : LawfulMonad (Action σ) :=
  LawfulMonad.mk' _ bind_pure_run (fun _ _ => rfl) bind_assoc_run

def wp (x : Action σ α) (Q : α → σ → Prop) (E : σ → Prop) (s : σ) : Prop :=
  match x s with
  | (some a, t) => Q a t
  | (none, t) => E t

variable {Q Q' : α → σ → Prop} {E E' : σ → Prop} {s : σ}

theorem wp_of_some {x : Action σ α} {t : σ} {a : α} (h : x s = (some a, t)) (hq : Q a t) :
    wp x Q E s := by simpa [wp, h] using hq

theorem wp_of_none {x : Action σ α} {t : σ} (h : x s = (none, t)) (he : E t) :
    wp x Q E s := by simpa [wp, h] using he

theorem wp_some {x : Action σ α} {t : σ} {a : α} (hw : wp x Q E s) (h : x s = (some a, t)) :
    Q a t := by simpa [wp, h] using hw

theorem wp_none {x : Action σ α} {t : σ} (hw : wp x Q E s) (h : x s = (none, t)) : E t := by
  simpa [wp, h] using hw

theorem wp_mono {x : Action σ α} (hw : wp x Q E s) (hq : ∀ a t, Q a t → Q' a t)
    (he : ∀ t, E t → E' t) : wp x Q' E' s := by
  rcases h : x s with ⟨_ | a, t⟩
  · exact wp_of_none h (he t (wp_none hw h))
  · exact wp_of_some h (hq a t (wp_some hw h))

@[simp] theorem wp_pure (a : α) : wp (pure a) Q E s ↔ Q a s := Iff.rfl
@[simp] theorem wp_stop : wp (stop : Action σ α) Q E s ↔ E s := Iff.rfl
@[simp] theorem wp_gets (f : σ → α) : wp (gets f) Q E s ↔ Q (f s) s := Iff.rfl

@[simp] theorem wp_modify {Q : Unit → σ → Prop} (f : σ → σ) :
    wp (modify f) Q E s ↔ Q () (f s) := Iff.rfl

@[simp] theorem wp_bind (x : Action σ α) (f : α → Action σ β) {Q : β → σ → Prop} :
    wp (x >>= f) Q E s ↔ wp x (fun a t => wp (f a) Q E t) E s := by
  rcases h : x s with ⟨_ | a, t⟩
  · simp [wp, bind_run, h]
  · simp [wp, bind_run, h]

theorem wp_ite {c : Prop} [Decidable c] {x y : Action σ α} :
    wp (if c then x else y) Q E s ↔ (c → wp x Q E s) ∧ (¬ c → wp y Q E s) := by
  by_cases h : c <;> simp [h]

theorem wp_attempt {x : Action σ α} {Q : Bool → σ → Prop} :
    wp (attempt x) Q E s ↔ wp x (fun _ => Q true) (Q false) s := by
  rcases h : x s with ⟨_ | a, t⟩ <;> simp [wp, h]

theorem wp_zoom {view : τ → σ} {put : σ → τ → τ} {x : Action σ α} {Q : α → τ → Prop}
    {E : τ → Prop} {t : τ} : wp (zoom view put x) Q E t ↔
      wp x (fun a s => Q a (put s t)) (fun s => E (put s t)) (view t) := by
  rcases h : x (view t) with ⟨_ | a, s⟩ <;> simp [wp, h]

theorem wp_forM_log (log : σ → List β) {body : α → Action σ Unit} {out : α → List β}
    {I J : σ → Prop} {xs : List α}
    (hstep : ∀ a ∈ xs, ∀ t, I t → wp (body a) (fun _ u => I u ∧ log u = log t ++ out a)
      (fun u => J u ∧ ∃ issued, issued <+: out a ∧ log u = log t ++ issued) t) :
    ∀ s, I s → wp (forM xs body) (fun _ u => I u ∧ log u = log s ++ xs.flatMap out)
      (fun u => J u ∧ ∃ issued, issued <+: xs.flatMap out ∧ log u = log s ++ issued) s := by
  induction xs with
  | nil => intro s h; exact ⟨h, by simp⟩
  | cons a as ih =>
    intro s h
    rw [List.forM_cons, wp_bind]
    refine wp_mono (hstep a (by simp) s h) ?_ ?_
    · rintro - t ⟨ht, hlog⟩
      refine wp_mono (ih (fun b hb => hstep b (by simp [hb])) t ht) ?_ ?_
      · rintro - u ⟨hu, hu'⟩
        exact ⟨hu, by rw [hu', hlog, List.flatMap_cons, List.append_assoc]⟩
      · rintro u ⟨hu, issued, hpre, hu'⟩
        refine ⟨hu, out a ++ issued, ?_, by rw [hu', hlog, List.append_assoc]⟩
        rw [List.flatMap_cons]
        exact (List.prefix_append_right_inj _).mpr hpre
    · rintro t ⟨ht, issued, hpre, hlog⟩
      refine ⟨ht, issued, ?_, hlog⟩
      rw [List.flatMap_cons]
      exact hpre.trans (List.prefix_append _ _)

def Stops (x : Action σ α) : Prop := ∀ s, (x s).1 = none

theorem Stops.stop : Stops (Action.stop : Action σ α) := fun _ => rfl

theorem Stops.bind {x : Action σ α} (h : Stops x) (f : α → Action σ β) : Stops (x >>= f) := by
  intro s
  have hrun : x s = (none, (x s).2) := Prod.ext (h s) rfl
  rw [bind_of_none hrun]

theorem Stops.after (x : Action σ α) {f : α → Action σ β} (h : ∀ a, Stops (f a)) :
    Stops (x >>= f) := by
  intro s
  rcases hx : x s with ⟨_ | a, t⟩
  · rw [bind_of_none hx]
  · rw [bind_of_some hx]
    exact h a t

theorem Stops.forM {body : α → Action σ Unit} {xs : List α} {a : α} (hmem : a ∈ xs)
    (h : Stops (body a)) : Stops (ForM.forM xs body) := by
  induction xs with
  | nil => simp at hmem
  | cons b rest ih =>
    rw [List.forM_cons]
    rcases List.mem_cons.mp hmem with rfl | hmem
    · exact h.bind _
    · exact Stops.after _ fun _ => ih hmem

def Keeps (I : σ → Prop) (x : Action σ α) : Prop := ∀ s, I s → I (x s).2

variable {I : σ → Prop}

theorem wp_state {x : Action σ α} : wp x (fun _ => I) I s ↔ I (x s).2 := by
  rcases h : x s with ⟨_ | a, t⟩ <;> simp [wp, h]

theorem keeps_iff_wp {x : Action σ α} : Keeps I x ↔ ∀ s, I s → wp x (fun _ => I) I s := by
  simp only [wp_state, Keeps]

theorem Keeps.pure (a : α) : Keeps I (Pure.pure a : Action σ α) := fun _ h => h
theorem Keeps.stop : Keeps I (Action.stop : Action σ α) := fun _ h => h
theorem Keeps.gets (f : σ → α) : Keeps I (Action.gets f) := fun _ h => h

theorem Keeps.attempt {x : Action σ α} (h : Keeps I x) : Keeps I (Action.attempt x) := h

theorem keeps_after {x : Action σ α} {f : α → Action σ β} {s : σ} (hx : I (x s).2)
    (hf : ∀ a, Keeps I (f a)) : I ((x >>= f) s).2 := by
  rcases h : x s with ⟨_ | a, t⟩
  · simpa [bind_of_none h, h] using hx
  · simpa [bind_of_some h] using hf a t (by simpa [h] using hx)

theorem Keeps.bind {x : Action σ α} {f : α → Action σ β} (hx : Keeps I x)
    (hf : ∀ a, Keeps I (f a)) : Keeps I (x >>= f) := fun s hs => keeps_after (hx s hs) hf

theorem Keeps.wp {x : Action σ α} (h : Keeps I x) {s : σ} (hs : I s) :
    Action.wp x (fun _ => I) I s := keeps_iff_wp.mp h s hs

theorem Keeps.wp_bind {x : Action σ α} {f : α → Action σ β} {Q : β → σ → Prop} {E : σ → Prop}
    {s : σ} (hx : Keeps I x) (hs : I s) (he : ∀ t, I t → E t)
    (hf : ∀ a t, I t → Action.wp (f a) Q E t) : Action.wp (x >>= f) Q E s :=
  (Action.wp_bind x f).mpr (wp_mono (hx.wp hs) hf he)

theorem Keeps.of_bind_pure {x : Action σ α} {f : α → β}
    (h : Keeps I (x >>= fun a => Pure.pure (f a))) : Keeps I x := fun s hs =>
  bind_pure_state x f s ▸ h s hs

theorem Keeps.ite {c : Prop} [Decidable c] {x y : Action σ α} (hx : Keeps I x)
    (hy : Keeps I y) : Keeps I (if c then x else y) := by
  split <;> assumption

theorem Keeps.forM_of_mem {body : α → Action σ Unit} {xs : List α}
    (h : ∀ a ∈ xs, Keeps I (body a)) : Keeps I (ForM.forM xs body) := by
  induction xs with
  | nil => exact Keeps.pure ()
  | cons a as ih =>
    rw [List.forM_cons]
    exact (h a (List.mem_cons_self ..)).bind fun _ => ih fun b hb => h b (List.mem_cons_of_mem _ hb)

theorem Keeps.forM {body : α → Action σ Unit} (h : ∀ a, Keeps I (body a)) (xs : List α) :
    Keeps I (ForM.forM xs body) := Keeps.forM_of_mem fun a _ => h a

def Steady (I J : σ → Prop) (x : Action σ α) : Prop := ∀ s, I s → wp x (fun _ => I) J s

section Steadiness

variable {J : σ → Prop}

theorem Steady.bind {x : Action σ α} {f : α → Action σ β} (hx : Steady I J x)
    (hf : ∀ a, Steady I J (f a)) : Steady I J (x >>= f) := fun s hs =>
  (Action.wp_bind x f).mpr (wp_mono (hx s hs) (fun a t ht => hf a t ht) fun _ ht => ht)

theorem Steady.ite {c : Prop} [Decidable c] {x y : Action σ α} (hx : Steady I J x)
    (hy : Steady I J y) : Steady I J (if c then x else y) := by
  split <;> assumption

theorem Steady.forM {body : α → Action σ Unit} {xs : List α}
    (h : ∀ a ∈ xs, Steady I J (body a)) : Steady I J (ForM.forM xs body) := by
  induction xs with
  | nil => exact fun _ hs => hs
  | cons a rest ih =>
    rw [List.forM_cons]
    exact (h a List.mem_cons_self).bind fun _ => ih fun b hb => h b (List.mem_cons_of_mem _ hb)

end Steadiness

def Corres (R : σ → τ → Prop) (x : Action σ α) (y : Action τ α) : Prop :=
  ∀ s t, R s t → (x s).1 = (y t).1 ∧ R (x s).2 (y t).2

variable {R : σ → τ → Prop}

theorem Corres.pure (a : α) : Corres R (Pure.pure a) (Pure.pure a) := fun _ _ h => ⟨rfl, h⟩

theorem Corres.gets {f : σ → α} {g : τ → α} (h : ∀ s t, R s t → f s = g t) :
    Corres R (Action.gets f) (Action.gets g) := fun s t hr => ⟨congrArg some (h s t hr), hr⟩

theorem Corres.modify {f : σ → σ} {g : τ → τ} (h : ∀ s t, R s t → R (f s) (g t)) :
    Corres R (Action.modify f) (Action.modify g) := fun s t hr => ⟨rfl, h s t hr⟩

theorem Corres.attempt {x : Action σ α} {y : Action τ α} (h : Corres R x y) :
    Corres R (Action.attempt x) (Action.attempt y) := fun s t hr =>
  ⟨by simp only [attempt_run, (h s t hr).1], (h s t hr).2⟩

theorem Corres.bind {x : Action σ α} {y : Action τ α} {f : α → Action σ β} {g : α → Action τ β}
    (hx : Corres R x y) (hf : ∀ a, Corres R (f a) (g a)) : Corres R (x >>= f) (y >>= g) := by
  intro s t hr
  obtain ⟨hval, hrel⟩ := hx s t hr
  rcases h : x s with ⟨o, s'⟩
  rcases h' : y t with ⟨o', t'⟩
  simp only [h, h'] at hval hrel
  subst hval
  cases o with
  | none => exact ⟨by simp [bind_of_none h, bind_of_none h'],
      by simpa [bind_of_none h, bind_of_none h'] using hrel⟩
  | some a => simpa only [bind_of_some h, bind_of_some h'] using hf a s' t' hrel

theorem Corres.of_bind_pure {x : Action σ α} {y : Action τ α} {f : α → β}
    (hf : Function.Injective f)
    (h : Corres R (x >>= fun a => Pure.pure (f a)) (y >>= fun a => Pure.pure (f a))) :
    Corres R x y := by
  intro s t hr
  have hst := h s t hr
  rw [bind_pure_value, bind_pure_value, bind_pure_state, bind_pure_state] at hst
  exact ⟨Option.map_injective hf hst.1, hst.2⟩

theorem Corres.ite {c : Prop} [Decidable c] {x x' : Action σ α} {y y' : Action τ α}
    (hx : Corres R x y) (hx' : Corres R x' y') :
    Corres R (if c then x else x') (if c then y else y') := by
  split <;> assumption

theorem Corres.stop : Corres R (Action.stop : Action σ α) (Action.stop : Action τ α) :=
  fun _ _ h => ⟨rfl, h⟩

theorem Corres.forM {body : α → Action σ Unit} {body' : α → Action τ Unit} {xs : List α}
    (h : ∀ a ∈ xs, Corres R (body a) (body' a)) :
    Corres R (ForM.forM xs body) (ForM.forM xs body') := by
  induction xs with
  | nil => exact Corres.pure ()
  | cons a rest ih =>
    rw [List.forM_cons, List.forM_cons]
    exact (h a (List.mem_cons_self ..)).bind fun _ => ih fun b hb => h b (List.mem_cons_of_mem _ hb)

theorem Corres.comp {υ : Type} {S : τ → υ → Prop} {x : Action σ α} {y : Action τ α}
    {z : Action υ α} (hx : Corres R x y) (hy : Corres S y z) :
    Corres (fun s u => ∃ t, R s t ∧ S t u) x z := by
  rintro s u ⟨t, hr, hs⟩
  obtain ⟨hvalue, hnext⟩ := hx s t hr
  obtain ⟨hvalue', hnext'⟩ := hy t u hs
  exact ⟨hvalue.trans hvalue', _, hnext, hnext'⟩

end Action
end Actions
