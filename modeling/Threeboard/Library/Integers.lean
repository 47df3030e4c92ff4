import Mathlib.Data.Int.ModEq
import Mathlib.Tactic.Linarith
import Mathlib.Tactic.Positivity
import Mathlib.Tactic.Common

namespace Integers

-- The types that C does arithmetic in: int, and the unsigned int of the same width.
inductive Kind where
  | int
  | unsigned
  deriving DecidableEq, Repr

inductive Operator where
  | add
  | sub
  | mul
  deriving DecidableEq, Repr

def Operator.apply : Operator → ℤ → ℤ → ℤ
  | add, m, n => m + n
  | sub, m, n => m - n
  | mul, m, n => m * n

inductive Expr where
  | byte (x : UInt8)
  | word (x : UInt16)
  | int (n : ℤ)
  | operation (op : Operator) (a b : Expr)
  deriving DecidableEq, Repr

instance : Add Expr := ⟨.operation .add⟩
instance : Sub Expr := ⟨.operation .sub⟩
instance : Mul Expr := ⟨.operation .mul⟩

variable (width : ℕ)

def InRange (n : ℤ) : Prop := -2 ^ (width - 1) ≤ n ∧ n < 2 ^ (width - 1)

instance (n : ℤ) : Decidable (InRange width n) := inferInstanceAs (Decidable (_ ∧ _))

def wrap : Kind → ℤ → ℤ
  | .int, n => n.bmod (2 ^ width)
  | .unsigned, n => n % 2 ^ width

namespace Expr

-- Both are promoted to int where int has all their values; else a word is an unsigned int, and an
-- operation with one unsigned operand is unsigned.
def kind : Expr → Kind
  | byte _ | int _ => .int
  | word _ => if 16 < width then .int else .unsigned
  | operation _ a b => if a.kind = .int ∧ b.kind = .int then .int else .unsigned

-- What a machine that wraps around makes of it. Which operands are converted to unsigned int first
-- makes no difference to that.
def value : Expr → ℤ
  | byte x => x.toNat
  | word x => x.toNat
  | int n => n
  | operation op a b => wrap width ((operation op a b).kind width) (op.apply a.value b.value)

def signedResults : Expr → List ℤ
  | byte _ | word _ | int _ => []
  | operation op a b => a.signedResults ++ b.signedResults ++
    if (operation op a b).kind width = .int then [op.apply (a.value width) (b.value width)] else []

def Defined (e : Expr) : Prop := ∀ n ∈ e.signedResults width, InRange width n

instance (e : Expr) : Decidable (e.Defined width) := inferInstanceAs (Decidable (∀ _ ∈ _, _))

def exact : Expr → ℤ
  | byte x => x.toNat
  | word x => x.toNat
  | int n => n
  | operation op a b => op.apply a.exact b.exact

end Expr

variable {width}

theorem apply_modEq {op : Operator} {m n k l w : ℤ} (h : m ≡ n [ZMOD w]) (h' : k ≡ l [ZMOD w]) :
    op.apply m k ≡ op.apply n l [ZMOD w] := by
  cases op with
  | add => exact h.add h'
  | sub => exact h.sub h'
  | mul => exact h.mul h'

theorem wrap_modEq (k : Kind) (n : ℤ) : wrap width k n ≡ n [ZMOD 2 ^ width] := by
  cases k with
  | int =>
    have h : n.bmod (2 ^ width) % (2 ^ width : ℕ) = n % (2 ^ width : ℕ) := Int.bmod_emod
    simpa [Int.ModEq, wrap] using h
  | unsigned => exact Int.mod_modEq n _

theorem inRange_of_lt {n : ℕ} (h : n < 2 ^ (width - 1)) : InRange width n := by
  have hcast : (n : ℤ) < ((2 ^ (width - 1) : ℕ) : ℤ) := Int.ofNat_lt.mpr h
  rw [Nat.cast_pow] at hcast
  have hpos : (0 : ℤ) < 2 ^ (width - 1) := by positivity
  exact ⟨by linarith, hcast⟩

theorem wrap_int {n : ℤ} (hwidth : 0 < width) (h : InRange width n) : wrap width .int n = n := by
  have hpow : ((2 ^ width : ℕ) : ℤ) = 2 ^ (width - 1) * 2 := by
    rw [← pow_succ, Nat.sub_add_cancel hwidth]
    norm_num
  obtain ⟨hlow, hhigh⟩ := h
  exact Int.bmod_eq_of_le_mul_two (by rw [hpow]; linarith) (by rw [hpow]; linarith)

namespace Expr

variable {op : Operator} {a b e : Expr}

theorem value_modEq (e : Expr) : e.value width ≡ e.exact [ZMOD 2 ^ width] := by
  induction e with
  | byte x => rfl
  | word x => rfl
  | int n => rfl
  | operation op a b iha ihb => exact (wrap_modEq _ _).trans (apply_modEq iha ihb)

theorem ofInt_natCast (n : ℕ) : UInt16.ofInt n = UInt16.ofNat n := by
  rw [UInt16.ofInt, ← UInt16.toNat_inj, UInt16.toNat_ofNat', UInt16.toNat_ofNat']
  omega

theorem ofInt_value (hwidth : 16 ≤ width) (e : Expr) :
    UInt16.ofInt (e.value width) = UInt16.ofInt e.exact := by
  have hdvd : (2 ^ 16 : ℤ) ∣ 2 ^ width := pow_dvd_pow 2 hwidth
  have hmod : e.value width % 2 ^ 16 = e.exact % 2 ^ 16 := e.value_modEq.of_dvd hdvd
  rw [UInt16.ofInt, UInt16.ofInt, hmod]

section Exact

variable (a b : Expr)

@[simp] theorem exact_byte (x : UInt8) : (byte x).exact = x.toNat := rfl
@[simp] theorem exact_word (x : UInt16) : (word x).exact = x.toNat := rfl
@[simp] theorem exact_int (n : ℤ) : (int n).exact = n := rfl
@[simp] theorem exact_add : (a + b).exact = a.exact + b.exact := rfl
@[simp] theorem exact_sub : (a - b).exact = a.exact - b.exact := rfl
@[simp] theorem exact_mul : (a * b).exact = a.exact * b.exact := rfl

end Exact

theorem Defined.byte (x : UInt8) : (byte x).Defined width := by simp [Defined, signedResults]

theorem Defined.word (x : UInt16) : (word x).Defined width := by simp [Defined, signedResults]

theorem Defined.int (n : ℤ) : (int n).Defined width := by simp [Defined, signedResults]

theorem defined_operation : (operation op a b).Defined width ↔ a.Defined width ∧ b.Defined width ∧
    ((operation op a b).kind width = .int →
      InRange width (op.apply (a.value width) (b.value width))) := by
  simp only [Defined, signedResults, List.mem_append, or_imp, forall_and, and_assoc]
  refine and_congr_right fun _ => and_congr_right fun _ => ?_
  split
  · rename_i hkind
    simp [hkind]
  · rename_i hkind
    simp [hkind]

theorem kind_operation : (operation op a b).kind width = .int ↔
    a.kind width = .int ∧ b.kind width = .int := by
  rw [kind]
  split <;> simp_all

theorem value_eq_exact (hwidth : 0 < width) (hkind : e.kind width = .int) (h : e.Defined width) :
    e.value width = e.exact := by
  induction e with
  | byte x => rfl
  | word x => rfl
  | int n => rfl
  | operation op a b iha ihb =>
    obtain ⟨ha, hb, hresult⟩ := defined_operation.mp h
    obtain ⟨hka, hkb⟩ := kind_operation.mp hkind
    rw [value, hkind, wrap_int hwidth (hresult hkind), iha hka ha, ihb hkb hb, exact]

theorem defined_operation_int (hwidth : 0 < width) (ha : a.kind width = .int)
    (hb : b.kind width = .int) : (operation op a b).Defined width ↔
      a.Defined width ∧ b.Defined width ∧ InRange width (op.apply a.exact b.exact) := by
  rw [defined_operation, kind_operation]
  refine and_congr_right fun hda => and_congr_right fun hdb => ?_
  rw [value_eq_exact hwidth ha hda, value_eq_exact hwidth hb hdb]
  exact forall_prop_of_true ⟨ha, hb⟩

theorem defined_operation_unsigned (ha : a.kind width = .unsigned) :
    (operation op a b).Defined width ↔ a.Defined width ∧ b.Defined width := by
  rw [defined_operation, kind_operation, ha]
  simp

end Expr

structure Counts (width : ℕ) (e : Expr) (n : ℕ) : Prop where
  kind : e.kind width = .int
  defined : e.Defined width
  exact_eq : e.exact = n

namespace Counts

variable {a b : Expr} {m n k : ℕ}

theorem byte (x : UInt8) : Counts width (.byte x) x.toNat := ⟨rfl, .byte x, rfl⟩

theorem word (hwidth : 16 < width) (x : UInt16) : Counts width (.word x) x.toNat :=
  ⟨if_pos hwidth, .word x, rfl⟩

theorem int (n : ℕ) : Counts width (.int n) n := ⟨rfl, .int n, rfl⟩

theorem operation {op : Operator} (ha : Counts width a m) (hb : Counts width b n)
    (hwidth : 0 < width) (hk : op.apply m n = k) (hlt : k < 2 ^ (width - 1)) :
    Counts width (.operation op a b) k := by
  have hexact : op.apply a.exact b.exact = k := by rw [ha.exact_eq, hb.exact_eq, hk]
  refine ⟨Expr.kind_operation.mpr ⟨ha.kind, hb.kind⟩, ?_, hexact⟩
  refine (Expr.defined_operation_int hwidth ha.kind hb.kind).mpr ⟨ha.defined, hb.defined, ?_⟩
  rw [hexact]
  exact inRange_of_lt hlt

variable (ha : Counts width a m) (hb : Counts width b n) (hwidth : 0 < width)

include ha hb hwidth

theorem add (hlt : m + n < 2 ^ (width - 1)) : Counts width (a + b) (m + n) :=
  ha.operation hb hwidth (by simp [Operator.apply]) hlt

theorem sub (hle : n ≤ m) (hlt : m - n < 2 ^ (width - 1)) : Counts width (a - b) (m - n) :=
  ha.operation hb hwidth (by simp [Operator.apply, Nat.cast_sub hle]) hlt

theorem mul (hlt : m * n < 2 ^ (width - 1)) : Counts width (a * b) (m * n) :=
  ha.operation hb hwidth (by simp [Operator.apply]) hlt

theorem mul_undefined (hge : 2 ^ (width - 1) ≤ m * n) : ¬ (a * b).Defined width := by
  intro h
  obtain ⟨-, -, -, hlt⟩ := (Expr.defined_operation_int hwidth ha.kind hb.kind).mp h
  rw [ha.exact_eq, hb.exact_eq] at hlt
  have hlt' : ((m * n : ℕ) : ℤ) < ((2 ^ (width - 1) : ℕ) : ℤ) := by
    simpa [Operator.apply] using hlt
  exact absurd (Int.ofNat_lt.mp hlt') (not_lt.mpr hge)

end Counts

end Integers
