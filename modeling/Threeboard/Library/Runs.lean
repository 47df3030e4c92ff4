import Mathlib.Data.List.Basic

namespace Runs

variable {Q P A O : Type}

def Path (Step : Q → A → Q → Prop) : Q → List (A × Q) → Prop
  | _, [] => True
  | q, (a, r) :: rest => Step q a r ∧ Path Step r rest

def Obeys (Rule : Q → A → Prop) : Q → List (A × Q) → Prop
  | _, [] => True
  | q, (a, r) :: rest => Rule q a ∧ Obeys Rule r rest

def Always (Good : Q → Prop) (steps : List (A × Q)) : Prop := ∀ p ∈ steps, Good p.2

instance {Good : Q → Prop} [DecidablePred Good] (steps : List (A × Q)) :
    Decidable (Always Good steps) := inferInstanceAs (Decidable (∀ p ∈ steps, Good p.2))

instance Obeys.decidable {Rule : Q → A → Prop} [∀ q a, Decidable (Rule q a)] :
    ∀ (q : Q) (steps : List (A × Q)), Decidable (Obeys Rule q steps)
  | _, [] => .isTrue trivial
  | q, (a, r) :: rest =>
    @instDecidableAnd (Rule q a) (Obeys Rule r rest) _ (Obeys.decidable r rest)

@[simp] theorem always_nil (Good : Q → Prop) : Always Good ([] : List (A × Q)) := by
  simp [Always]

@[simp] theorem always_cons (Good : Q → Prop) (p : A × Q) (rest : List (A × Q)) :
    Always Good (p :: rest) ↔ Good p.2 ∧ Always Good rest := by
  simp [Always]

section Invariants

variable {Step : Q → A → Q → Prop} {Rule : Q → A → Prop} {Inv Good : Q → Prop}

-- The states of a run are all good exactly when every step obeys the rule, provided a step that
-- obeys it from an invariant state ends well and one that breaks it ends badly.
theorem always_iff_obeys
    (hgood : ∀ q a r, Inv q → Step q a r → Rule q a → Inv r ∧ Good r)
    (hbad : ∀ q a r, Inv q → Step q a r → Good r → Rule q a) :
    ∀ {q steps}, Path Step q steps → Inv q → (Always Good steps ↔ Obeys Rule q steps) := by
  intro q steps
  induction steps generalizing q with
  | nil => simp [Obeys]
  | cons p rest ih =>
    rintro ⟨hs, hrest⟩ hq
    rw [always_cons]
    constructor
    · rintro ⟨hg, hall⟩
      have hrule := hbad _ _ _ hq hs hg
      exact ⟨hrule, (ih hrest (hgood _ _ _ hq hs hrule).1).mp hall⟩
    · rintro ⟨hrule, hobeys⟩
      obtain ⟨hr, hg⟩ := hgood _ _ _ hq hs hrule
      exact ⟨hg, (ih hrest hr).mpr hobeys⟩

theorem always_of_step (hstep : ∀ q a r, Inv q → Step q a r → Inv r) :
    ∀ {q steps}, Path Step q steps → Inv q → Always Inv steps := by
  intro q steps
  induction steps generalizing q with
  | nil => simp
  | cons p rest ih =>
    rintro ⟨hs, hrest⟩ hq
    have hr := hstep _ _ _ hq hs
    exact (always_cons _ _ _).mpr ⟨hr, ih hrest hr⟩

end Invariants

def path (step : Q → A → Q) : Q → List A → List (A × Q)
  | _, [] => []
  | q, a :: rest => (a, step q a) :: path step (step q a) rest

theorem path_isPath (step : Q → A → Q) (q : Q) (inputs : List A) :
    Path (fun q a r => step q a = r) q (path step q inputs) := by
  induction inputs generalizing q with
  | nil => trivial
  | cons a rest ih => exact ⟨rfl, ih _⟩

theorem Obeys.and_always {Rule : Q → A → Prop} {Good : Q → Prop} {step : Q → A → Q} {q : Q}
    {inputs : List A} (hrule : Obeys Rule q (path step q inputs))
    (hgood : Always Good (path step q inputs)) :
    Obeys (fun q a => Rule q a ∧ Good (step q a)) q (path step q inputs) := by
  induction inputs generalizing q with
  | nil => trivial
  | cons a rest ih =>
    obtain ⟨ha, hrest⟩ := (always_cons _ _ _).mp hgood
    exact ⟨⟨hrule.1, ha⟩, ih hrule.2 hrest⟩

-- A run is good at every step exactly when every input obeys the rule, provided an input that
-- obeys it is good in an invariant state and one that breaks it is not.
theorem obeys_path_iff {step : Q → A → Q} {Inv : Q → Prop} {Good : Q → A → Prop} {Rule : A → Prop}
    (hgood : ∀ q a, Inv q → Rule a → Good q a ∧ Inv (step q a))
    (hbad : ∀ q a, Inv q → Good q a → Rule a) {q : Q} {inputs : List A} (hq : Inv q) :
    Obeys Good q (path step q inputs) ↔ ∀ a ∈ inputs, Rule a := by
  induction inputs generalizing q with
  | nil => simp [path, Obeys]
  | cons a rest ih =>
    rw [path, Obeys, List.forall_mem_cons]
    constructor
    · rintro ⟨ha, hrest⟩
      have hrule := hbad q a hq ha
      exact ⟨hrule, (ih (hgood q a hq hrule).2).mp hrest⟩
    · rintro ⟨hrule, hrest⟩
      obtain ⟨ha, hnext⟩ := hgood q a hq hrule
      exact ⟨ha, (ih hnext).mpr hrest⟩

theorem obeys_inputs_iff {step : Q → A → Q} {Rule : A → Prop} {q : Q} {inputs : List A} :
    Obeys (fun _ a => Rule a) q (path step q inputs) ↔ ∀ a ∈ inputs, Rule a := by
  have hgood : ∀ q a, (fun _ => True) q → Rule a → Rule a ∧ (fun _ => True) (step q a) :=
    fun _ _ _ ha => ⟨ha, trivial⟩
  exact obeys_path_iff hgood (fun _ _ _ ha => ha) trivial

theorem always_path_foldl {Good : Q → Prop} {step : Q → A → Q} {q : Q} {inputs : List A}
    (h : Always Good (path step q inputs)) (hne : inputs ≠ []) : Good (inputs.foldl step q) := by
  induction inputs generalizing q with
  | nil => exact (hne rfl).elim
  | cons a rest ih =>
    obtain ⟨ha, hrest⟩ := (always_cons _ _ _).mp h
    cases rest with
    | nil => exact ha
    | cons b more => exact ih hrest (by simp)

theorem foldl_keeps {step : Q → A → Q} {P : Q → Prop} (hp : ∀ q a, P q → P (step q a)) {q : Q}
    (hq : P q) (inputs : List A) : P (inputs.foldl step q) := by
  induction inputs generalizing q with
  | nil => exact hq
  | cons a rest ih => exact ih (hp q a hq)

theorem foldl_of_obeys {step : Q → A → Q} {Rule : Q → A → Prop} {P : Q → Prop}
    (hp : ∀ q a, Rule q a → P q → P (step q a)) {q : Q} (hq : P q) {inputs : List A}
    (hrule : Obeys Rule q (path step q inputs)) : P (inputs.foldl step q) := by
  induction inputs generalizing q with
  | nil => exact hq
  | cons a rest ih => exact ih (hp q a hrule.1 hq) hrule.2

theorem foldl_reaches {step : Q → A → Q} {P R : Q → Prop} {x : A}
    (hp : ∀ q a, P q → P (step q a)) (hr : ∀ q a, R q → R (step q a))
    (hx : ∀ q, P q → R (step q x)) {q : Q} (hq : P q) {inputs : List A} (hmem : x ∈ inputs) :
    R (inputs.foldl step q) := by
  induction inputs generalizing q with
  | nil => simp at hmem
  | cons a rest ih =>
    rcases List.mem_cons.mp hmem with rfl | hrest
    · exact foldl_keeps hr (hx q hq) rest
    · exact ih (hp q a hq) hrest

def Leads (step : Q → A → Q) (Rule : Q → A → Prop) (P : Q → Prop) (inputs : List A)
    (R : Q → Prop) : Prop :=
  ∀ q, P q → Obeys Rule q (path step q inputs) ∧ R (inputs.foldl step q)

section Leading

variable {step : Q → A → Q} {Rule : Q → A → Prop} {P R S : Q → Prop}

theorem Leads.nil (h : ∀ q, P q → R q) : Leads step Rule P [] R := fun q hq => ⟨trivial, h q hq⟩

theorem Leads.cons {a : A} {rest : List A} (ha : ∀ q, P q → Rule q a ∧ R (step q a))
    (hrest : Leads step Rule R rest S) : Leads step Rule P (a :: rest) S := by
  intro q hq
  obtain ⟨hrule, hr⟩ := ha q hq
  obtain ⟨hobeys, hs⟩ := hrest _ hr
  exact ⟨⟨hrule, hobeys⟩, hs⟩

theorem Leads.single {a : A} (ha : ∀ q, P q → Rule q a ∧ R (step q a)) :
    Leads step Rule P [a] R := .cons ha (.nil fun _ h => h)

theorem Leads.append {inputs more : List A} (h : Leads step Rule P inputs R)
    (hmore : Leads step Rule R more S) : Leads step Rule P (inputs ++ more) S := by
  induction inputs generalizing P with
  | nil => exact fun q hq => hmore q (h q hq).2
  | cons a rest ih =>
    have hfirst : ∀ q, P q → Rule q a ∧ ∃ p, P p ∧ step q a = step p a :=
      fun q hq => ⟨(h q hq).1.1, q, hq, rfl⟩
    refine .cons (R := fun r => ∃ p, P p ∧ r = step p a) hfirst (ih ?_)
    rintro q ⟨p, hp, rfl⟩
    exact ⟨(h p hp).1.2, (h p hp).2⟩

end Leading

def trace (step : Q → A → O × Q) : Q → List A → List O
  | _, [] => []
  | q, a :: rest => (step q a).1 :: trace step (step q a).2 rest

def final (step : Q → A → O × Q) (q : Q) (inputs : List A) : Q :=
  inputs.foldl (fun q a => (step q a).2) q

@[simp] theorem final_nil (step : Q → A → O × Q) (q : Q) : final step q [] = q := rfl

@[simp] theorem final_cons (step : Q → A → O × Q) (q : Q) (a : A) (rest : List A) :
    final step q (a :: rest) = final step (step q a).2 rest := rfl

theorem final_append (step : Q → A → O × Q) (q : Q) (inputs more : List A) :
    final step q (inputs ++ more) = final step (final step q inputs) more := by
  simp [final]

theorem trace_getElem? (step : Q → A → O × Q) (q : Q) (inputs : List A) (n : ℕ) :
    (trace step q inputs)[n]? =
      inputs[n]?.map fun a => (step (final step q (inputs.take n)) a).1 := by
  induction inputs generalizing q n with
  | nil => simp [trace]
  | cons a rest ih =>
    cases n with
    | zero => rfl
    | succ n => simpa [trace] using ih (step q a).2 n

theorem trace_append (step : Q → A → O × Q) (q : Q) (inputs more : List A) :
    trace step q (inputs ++ more) = trace step q inputs ++ trace step (final step q inputs) more := by
  induction inputs generalizing q with
  | nil => rfl
  | cons a rest ih => exact congrArg ((step q a).1 :: ·) (ih _)

theorem trace_map {B C : Type} (step : Q → A → O × Q) (f : O → C) (g : B → A) (q : Q)
    (inputs : List B) :
    trace (fun q b => ((f (step q (g b)).1, (step q (g b)).2) : C × Q)) q inputs =
      (trace step q (inputs.map g)).map f := by
  induction inputs generalizing q with
  | nil => rfl
  | cons b rest ih => exact congrArg (f (step q (g b)).1 :: ·) (ih _)

section Simulation

variable {step : Q → A → O × Q} {spec : P → A → O × P} {R : Q → P → Prop} {Rule : Q → A → Prop}

theorem trace_eq_of_obeys
    (hstep : ∀ q p a, R q p → Rule q a →
      (step q a).1 = (spec p a).1 ∧ R (step q a).2 (spec p a).2) :
    ∀ {q p inputs}, R q p → Obeys Rule q (path (fun q a => (step q a).2) q inputs) →
      trace step q inputs = trace spec p inputs ∧
        R (final step q inputs) (final spec p inputs) := by
  intro q p inputs
  induction inputs generalizing q p with
  | nil => exact fun h _ => ⟨rfl, h⟩
  | cons a rest ih =>
    rintro h ⟨hrule, hobeys⟩
    obtain ⟨ho, hr⟩ := hstep q p a h hrule
    obtain ⟨ht, hf⟩ := ih hr hobeys
    exact ⟨by simp only [trace, ho, ht], hf⟩

theorem trace_eq_of_simulation
    (hstep : ∀ q p a, R q p → (step q a).1 = (spec p a).1 ∧ R (step q a).2 (spec p a).2)
    {q : Q} {p : P} (h : R q p) (inputs : List A) :
    trace step q inputs = trace spec p inputs ∧
      R (final step q inputs) (final spec p inputs) := by
  have hobeys : ∀ q, Obeys (fun _ _ => True) q (path (fun q a => (step q a).2) q inputs) := by
    induction inputs with
    | nil => exact fun _ => trivial
    | cons a rest ih => exact fun _ => ⟨trivial, ih _⟩
  exact trace_eq_of_obeys (fun q p a h _ => hstep q p a h) h (hobeys q)

theorem trace_eq_eventually {step : ℕ → Q → A → O × Q}
    (hstep : ∀ q p a, R q p → ∃ r, (∃ bound, ∀ n ≥ bound, step n q a = ((spec p a).1, r)) ∧
      R r (spec p a).2)
    {q : Q} {p : P} (h : R q p) (inputs : List A) :
    ∃ bound, ∀ n ≥ bound, trace (step n) q inputs = trace spec p inputs := by
  induction inputs generalizing q p with
  | nil => exact ⟨0, fun _ _ => rfl⟩
  | cons a rest ih =>
    obtain ⟨r, ⟨first, hfirst⟩, hr⟩ := hstep q p a h
    obtain ⟨later, hlater⟩ := ih hr
    refine ⟨max first later, fun n hn => ?_⟩
    simp only [trace, hfirst n (by omega), hlater n (by omega)]

end Simulation

end Runs
