import Threeboard.Leds.Pins
import Threeboard.Library.Runs
import Mathlib.Data.List.Chain

namespace Threeboard.Leds

open Actions LedController Mcu Runs

namespace Ports

def OneRow (p : Ports) : Prop := ∀ i j, p.high (.row i) → p.high (.row j) → i = j

def Dark (p : Ports) : Prop := ∀ i, p.high (.row i) = false

structure SafeWrite (p q : Ports) : Prop where
  exclusive : ¬ (q.high .status ∧ q.high .err)
  oneRow : q.OneRow
  columns : (∀ j, q.high (.column j) = p.high (.column j)) ∨ p.Dark ∧ q.Dark
  keys : ∀ k, q.high (.key k) = p.high (.key k)

structure Lamps (status err : Bool) (p : Ports) : Prop where
  oneRow : p.OneRow
  status : p.high .status → status
  err : p.high .err → err

structure Showing (row : Fin 5) (lits : Fin 4 → Bool) (p : Ports) : Prop where
  rows : ∀ i, p.high (.row i) = decide (i = row)
  columns : ∀ j, p.high (.column j) = !lits j

end Ports

open Ports

abbrev Allowed (p : Ports) (m : PortMod) : Prop := SafeWrite p (p.after m)

theorem Ports.Lamps.mono {s s' e e' : Bool} {p : Ports} (h : Lamps s e p) (hs : s → s') (he : e → e') :
    Lamps s' e' p := ⟨h.oneRow, hs ∘ h.status, he ∘ h.err⟩

theorem oneRow_of_rows {p q : Ports} (h : p.OneRow)
    (hrows : ∀ i, q.high (.row i) = p.high (.row i)) : q.OneRow := by
  simpa only [OneRow, hrows] using h

def statusMod (enables : Bool) : PortMod := ⟨.PORTB, enables, bit PB6⟩
def errMod (enables : Bool) : PortMod := ⟨.PORTC, enables, bit PC6⟩

theorem statusMod_lamps {s : Bool} (enables : Bool) (p : Ports) (h : Lamps s false p) :
    Allowed p (statusMod enables) ∧ Lamps enables false (p.after (statusMod enables)) := by
  have hhigh : ∀ pin, (p.after (statusMod enables)).high pin =
      if pin = .status then enables else p.high pin := by simp [high_after, statusMod]
  have herr : p.high .err = false := by simpa using h.err
  have hrow : (p.after (statusMod enables)).OneRow := oneRow_of_rows h.oneRow (by simp [hhigh])
  refine ⟨⟨?_, hrow, ?_, ?_⟩, ⟨hrow, ?_, ?_⟩⟩ <;> simp [hhigh, herr]

theorem errMod_lamps {e : Bool} (enables : Bool) (p : Ports) (h : Lamps false e p) :
    Allowed p (errMod enables) ∧ Lamps false enables (p.after (errMod enables)) := by
  have hhigh : ∀ pin, (p.after (errMod enables)).high pin =
      if pin = .err then enables else p.high pin := by simp [high_after, errMod]
  have hstatus : p.high .status = false := by simpa using h.status
  have hrow : (p.after (errMod enables)).OneRow := oneRow_of_rows h.oneRow (by simp [hhigh])
  refine ⟨⟨?_, hrow, ?_, ?_⟩, ⟨hrow, ?_, ?_⟩⟩ <;> simp [hhigh, hstatus]

theorem when_lead {m : Bool → PortMod} {P R : Ports → Prop} (lit : Bool)
    (hoff : ∀ p, P p → R p) (hon : ∀ p, P p → Allowed p (m true) ∧ R (p.after (m true))) :
    Leads Ports.after Allowed P (when lit (m true)) R := by
  cases lit with
  | false => exact .nil hoff
  | true => exact .single hon

def resting (row : Fin 5) : Ports → Prop := Lamps (row = 1) (row = 2)
def switched (row : Fin 5) : Ports → Prop := Lamps (row = 0) (row = 1)

theorem statusMods_lead {σ : Type} (c : LedController σ) (row : Fin 5) :
    Leads Ports.after Allowed (resting row) (c.statusMods row) (switched row) := by
  match row with
  | 0 => exact when_lead _ (fun _ h => h.mono (by simp) (by simp)) (statusMod_lamps true)
  | 1 =>
    refine .cons (statusMod_lamps false) ?_
    exact when_lead _ (fun _ h => h.mono (by simp) (by simp)) (errMod_lamps true)
  | 2 => exact .single (errMod_lamps false)
  | 3 => exact .nil fun _ h => h
  | 4 => exact .nil fun _ h => h

theorem safe_of_lamps {s e : Bool} {p q : Ports} (hse : ¬ (s ∧ e)) (h : Lamps s e q)
    (hcolumns : (∀ j, q.high (.column j) = p.high (.column j)) ∨ p.Dark ∧ q.Dark)
    (hkeys : ∀ k, q.high (.key k) = p.high (.key k)) : SafeWrite p q :=
  ⟨fun hboth => hse ⟨h.status hboth.1, h.err hboth.2⟩, h.oneRow, hcolumns, hkeys⟩

theorem Ports.Lamps.of_high {s e : Bool} {p q : Ports} (h : Lamps s e p) (hrow : q.OneRow)
    (hstatus : q.high .status = p.high .status) (herr : q.high .err = p.high .err) :
    Lamps s e q := ⟨hrow, hstatus ▸ h.status, herr ▸ h.err⟩

theorem oneRow_of_dark {p : Ports} (h : p.Dark) : p.OneRow := fun i j hi => by simp [h i] at hi

section Driving

variable {s e : Bool} {p : Ports} {m : PortMod}

theorem rowsOff_lamps (hse : ¬ (s ∧ e)) (hoff : m.enables = false)
    (hm : ∀ pin, m.touches pin → ∃ i, pin = .row i) (h : Lamps s e p) :
    Allowed p m ∧ Lamps s e (p.after m) := by
  have hkeep : ∀ pin, (∀ i, pin ≠ .row i) → (p.after m).high pin = p.high pin := by
    intro pin hpin
    have hnot : ¬ m.touches pin := fun ht => (hm pin ht).elim hpin
    rw [high_after, if_neg hnot]
  have hless : ∀ pin, (p.after m).high pin → p.high pin := by
    intro pin
    rw [high_after, hoff]
    split <;> simp
  have hlamps : Lamps s e (p.after m) := h.of_high
    (fun i j hi hj => h.oneRow i j (hless _ hi) (hless _ hj)) (hkeep _ (by simp)) (hkeep _ (by simp))
  exact ⟨safe_of_lamps hse hlamps (.inl fun j => hkeep _ (by simp)) fun k => hkeep _ (by simp),
    hlamps⟩

theorem columns_lamps (hse : ¬ (s ∧ e)) (hm : ∀ pin, m.touches pin → ∃ j, pin = .column j)
    (h : Lamps s e p) (hd : p.Dark) :
    Allowed p m ∧ Lamps s e (p.after m) ∧ (p.after m).Dark := by
  have hkeep : ∀ pin, (∀ j, pin ≠ .column j) → (p.after m).high pin = p.high pin := by
    intro pin hpin
    have hnot : ¬ m.touches pin := fun ht => (hm pin ht).elim hpin
    rw [high_after, if_neg hnot]
  have hdark : (p.after m).Dark := fun i => (hkeep _ (by simp)).trans (hd i)
  have hlamps : Lamps s e (p.after m) :=
    h.of_high (oneRow_of_dark hdark) (hkeep _ (by simp)) (hkeep _ (by simp))
  exact ⟨safe_of_lamps hse hlamps (.inr ⟨hd, hdark⟩) fun k => hkeep _ (by simp), hlamps, hdark⟩

end Driving

theorem switched_exclusive (row : Fin 5) :
    ¬ (decide (row = 0) = true ∧ decide (row = 1) = true) := by
  revert row
  decide

theorem switched_eq_resting (row : Fin 5) : switched row = resting (row + 1) := by
  have hflags : decide (row = 0) = decide (row + 1 = 1) ∧
      decide (row = 1) = decide (row + 1 = 2) := by
    revert row
    decide
  rw [switched, resting, hflags.1, hflags.2]

structure Columns (row : Fin 5) (lits : Fin 4 → Bool) (p : Ports) : Prop where
  lamps : switched row p
  dark : p.Dark
  columns : ∀ j, p.high (.column j) = !lits j

theorem clearMods_lead (row : Fin 5) :
    Leads Ports.after Allowed (switched row) clearMods (Columns row fun _ => false) := by
  have hse := switched_exclusive row
  refine .cons (R := fun p => switched row p ∧ p.high (.row 1) = false ∧ p.high (.row 4) = false)
    (fun p h => ?_) (.cons (R := fun p => switched row p ∧ p.Dark) (fun p h => ?_)
      (.single fun p h => ?_))
  · obtain ⟨hall, hl⟩ := rowsOff_lamps (m := ⟨.PORTB, false, 0b00110000⟩) hse rfl (by simp) h
    exact ⟨hall, hl, by simp [high_after], by simp [high_after]⟩
  · obtain ⟨hl, h1, h4⟩ := h
    obtain ⟨hall, hl⟩ := rowsOff_lamps (m := ⟨.PORTD, false, 0b11010000⟩) hse rfl (by simp) hl
    exact ⟨hall, hl, by simp [Dark, Fin.forall_fin_succ, high_after, h1, h4]⟩
  · obtain ⟨hall, hl, hd⟩ := columns_lamps (m := ⟨.PORTF, true, 0b00110011⟩) hse (by simp) h.1 h.2
    exact ⟨hall, hl, hd, by simp [high_after]⟩

theorem columnOff_lead (row : Fin 5) (lit : Fin 4 → Bool) (b : Bool) (j : Fin 4) :
    Leads Ports.after Allowed (Columns row lit) (when b (columnOff j))
      (Columns row fun i => lit i || decide (i = j) && b) := by
  cases b with
  | false => exact .nil fun p h => by simpa using h
  | true =>
    refine .single fun p h => ?_
    obtain ⟨hall, hl, hd⟩ :=
      columns_lamps (m := columnOff j) (switched_exclusive row) (by simp) h.lamps h.dark
    refine ⟨hall, hl, hd, fun i => ?_⟩
    by_cases hij : i = j <;> simp [high_after, hij, h.columns]

theorem columnMods_lead (row : Fin 5) (lit lits : Fin 4 → Bool) (js : List (Fin 4)) :
    Leads Ports.after Allowed (Columns row lit) (js.flatMap fun j => when (lits j) (columnOff j))
      (Columns row fun i => lit i || decide (i ∈ js) && lits i) := by
  induction js generalizing lit with
  | nil => exact .nil fun p h => by simpa using h
  | cons j js ih =>
    have hsplit : (fun i => lit i || decide (i ∈ j :: js) && lits i) =
        fun i => (lit i || decide (i = j) && lits j) || decide (i ∈ js) && lits i := by
      funext i
      by_cases hij : i = j
      · subst hij
        cases lit i <;> cases lits i <;> simp
      · simp [hij]
    rw [List.flatMap_cons, hsplit]
    exact (columnOff_lead row lit (lits j) j).append (ih _)

theorem rowOn_lead (row : Fin 5) (lits : Fin 4 → Bool) :
    Leads Ports.after Allowed (Columns row lits) [rowOn row]
      fun p => Showing row lits p ∧ resting (row + 1) p := by
  refine .single fun p h => ?_
  have hhigh : ∀ pin, (p.after (rowOn row)).high pin =
      if pin = .row row then true else p.high pin := by simp [high_after]
  have hrows : ∀ i, (p.after (rowOn row)).high (.row i) = decide (i = row) := by
    intro i
    by_cases hi : i = row <;> simp [hhigh, hi, h.dark i]
  have hone : (p.after (rowOn row)).OneRow := by
    intro i j hi hj
    simp only [hrows, decide_eq_true_eq] at hi hj
    exact hi.trans hj.symm
  have hl := h.lamps.of_high hone (by simp [hhigh]) (by simp [hhigh])
  refine ⟨safe_of_lamps (switched_exclusive row) hl (.inl fun j => by simp [hhigh]) fun k => by
    simp [hhigh], ⟨hrows, fun j => by simp [hhigh, h.columns]⟩, ?_⟩
  exact switched_eq_resting row ▸ hl

theorem beforeRow_lead {σ : Type} (c : LedController σ) (row : Fin 5) :
    Leads Ports.after Allowed (resting row) (c.beforeRow row) (Columns row (c.shown row)) := by
  have hcolumns := columnMods_lead row (fun _ => false) (c.shown row) (List.finRange 4)
  simp only [List.mem_finRange, decide_true, Bool.true_and, Bool.false_or] at hcolumns
  exact (statusMods_lead c row).append ((clearMods_lead row).append hcolumns)

theorem lamps_untouched {pin : Pin} (hpin : pin = .status ∨ pin = .err) (lits : Fin 4 → Bool) :
    ∀ m ∈ clearMods ++ columnMods lits, m.touches pin = false := by
  intro m hm
  rcases List.mem_append.mp hm with hclear | hcolumn
  · simp only [clearMods, List.mem_cons, List.not_mem_nil, or_false] at hclear
    rcases hclear with rfl | rfl | rfl <;> rcases hpin with rfl | rfl <;> simp
  · obtain ⟨j, rfl⟩ := mem_columnMods hcolumn
    rcases hpin with rfl | rfl <;> simp

theorem status_beforeRow {σ : Type} (c : LedController σ) {p : Ports} (h : resting 0 p) :
    ((c.beforeRow 0).foldl Ports.after p).high .status = c.lit .status := by
  have hoff : p.high .status = false := by simpa using h.status
  rw [beforeRow, List.foldl_append, high_foldl_of_untouched (lamps_untouched (.inl rfl) _)]
  cases hlit : c.lit .status <;> simp [statusMods, when, hlit, hoff, high_after]

theorem err_beforeRow {σ : Type} (c : LedController σ) {p : Ports} (h : resting 1 p) :
    ((c.beforeRow 1).foldl Ports.after p).high .err = c.lit .err := by
  have hoff : p.high .err = false := by simpa using h.err
  rw [beforeRow, List.foldl_append, high_foldl_of_untouched (lamps_untouched (.inr rfl) _)]
  cases hlit : c.lit .err <;> simp [statusMods, when, hlit, hoff, high_after]

theorem scanMods_lead {σ : Type} (c : LedController σ) (row : Fin 5) :
    Leads Ports.after Allowed (resting row) (c.scanMods row)
      fun p => Showing row (c.shown row) p ∧ resting (row + 1) p :=
  (beforeRow_lead c row).append (rowOn_lead row _)

end Threeboard.Leds
