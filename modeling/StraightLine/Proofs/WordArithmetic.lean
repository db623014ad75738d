import StraightLine.Run
import StraightLine.Proofs.Outcome

/-! Words against integers. A literal in range is what its word stands for, and where the exact
result of an operation is in range, the operation on words finds it. -/

namespace StraightLine

open Outcome

namespace Word

theorem ofLiteral_zero : ofLiteral 0 = 0 := rfl

theorem toInt_ofLiteral {value : Int} (h : FitsWord value) : (ofLiteral value).toInt = value := by
  obtain ⟨hlow, hhigh⟩ := h
  rw [ofLiteral, BitVec.toInt_ofInt]
  exact Int.bmod_eq_of_le (by omega) (by omega)

theorem ofLiteral_injective {left right : Int} (hl : FitsWord left) (hr : FitsWord right)
    (h : ofLiteral left = ofLiteral right) : left = right := by
  rw [← toInt_ofLiteral hl, ← toInt_ofLiteral hr, h]

theorem ofLiteral_neg (value : Int) : ofLiteral (-value) = 0 - ofLiteral value := by
  have hneg : ofLiteral (-value) = -ofLiteral value := BitVec.ofInt_neg
  rw [hneg]
  exact (BitVec.zero_sub _).symm

theorem ofLiteral_add (left right : Int) :
    ofLiteral (left + right) = ofLiteral left + ofLiteral right :=
  BitVec.ofInt_add left right

theorem ofLiteral_sub (left right : Int) :
    ofLiteral (left - right) = ofLiteral left - ofLiteral right := by
  have hneg : ofLiteral (-right) = -ofLiteral right := BitVec.ofInt_neg
  rw [Int.sub_eq_add_neg, ofLiteral_add, hneg]
  exact (BitVec.sub_eq_add_neg _ _).symm

theorem ofLiteral_mul (left right : Int) :
    ofLiteral (left * right) = ofLiteral left * ofLiteral right :=
  BitVec.ofInt_mul left right

theorem ofLiteral_tdiv {left right : Int} (hl : FitsWord left) (hr : FitsWord right)
    (hquotient : FitsWord (left.tdiv right)) :
    ofLiteral (left.tdiv right) = (ofLiteral left).sdiv (ofLiteral right) := by
  apply BitVec.eq_of_toInt_eq
  have hexact := toInt_ofLiteral hquotient
  rw [BitVec.toInt_sdiv, toInt_ofLiteral hl, toInt_ofLiteral hr, hexact]
  obtain ⟨hlow, hhigh⟩ := hquotient
  exact (Int.bmod_eq_of_le (by omega) (by omega)).symm

theorem ofLiteral_eq_zero {value : Int} (h : FitsWord value) (hzero : ofLiteral value = 0) :
    value = 0 :=
  ofLiteral_injective h (by decide) (hzero.trans ofLiteral_zero.symm)

/-- The one pair of words whose quotient no word holds comes from the one pair of literals. -/
theorem not_fitsWord_tdiv {left right : Int} (hl : FitsWord left) (hr : FitsWord right)
    (hleft : ofLiteral left = BitVec.intMin 32) (hright : ofLiteral right = -1) :
    ¬ FitsWord (left.tdiv right) := by
  have hmin : left = -2147483648 := ofLiteral_injective hl (by decide) hleft
  have hone : right = -1 := ofLiteral_injective hr (by decide) hright
  subst hmin hone
  decide

/-- The only quotient that no word holds is that of the smallest word and minus one. -/
theorem eq_of_not_fitsWord_tdiv {left right : Int} (hl : FitsWord left)
    (h : ¬ FitsWord (left.tdiv right)) : left = -2147483648 ∧ right = -1 := by
  have hsize : (left.tdiv right).natAbs ≤ left.natAbs := Int.natAbs_tdiv_le_natAbs left right
  have hleft : left = -2147483648 := by
    unfold FitsWord at hl h
    omega
  subst hleft
  refine ⟨rfl, ?_⟩
  have hquotient : ((-2147483648 : Int).tdiv right).natAbs = 2147483648 / right.natAbs :=
    Int.natAbs_tdiv _ _
  have hsame : 2147483648 / right.natAbs = 2147483648 := by
    unfold FitsWord at h
    omega
  have hone : right.natAbs = 1 := by
    have hzero : right.natAbs ≠ 0 := by
      intro hzero
      rw [hzero] at hsame
      exact absurd hsame (by decide)
    have hmul := Nat.div_mul_le_self 2147483648 right.natAbs
    rw [hsame] at hmul
    omega
  rcases Int.natAbs_eq_iff.mp hone with rfl | rfl
  · exact absurd (by decide) h
  · rfl

end Word

namespace Arith

variable {Var : Type} {wraps : Bool}

theorem run_div {left right : Word} (hzero : right ≠ 0)
    (hmin : ¬ ((!wraps) = true ∧ left = BitVec.intMin 32 ∧ right = -1)) :
    Arith.div.run wraps left right = (.ok (left.sdiv right) : Except (Stop Var) Word) := by
  simp only [run]
  rw [if_neg hzero, if_neg hmin]

/-- On literals in range an operation whose exact result is in range finds it, unless it divides by
zero. -/
theorem run_ofLiteral {op : Arith} {left right : Int} (hl : FitsWord left) (hr : FitsWord right)
    (hexact : FitsWord (op.exact left right)) (hdivisor : ¬ (op = .div ∧ right = 0)) :
    op.run wraps (Word.ofLiteral left) (Word.ofLiteral right) =
      (.ok (Word.ofLiteral (op.exact left right)) : Except (Stop Var) Word) := by
  cases op with
  | add => rw [run, exact, Word.ofLiteral_add]
  | sub => rw [run, exact, Word.ofLiteral_sub]
  | mul => rw [run, exact, Word.ofLiteral_mul]
  | div =>
      have hzero : Word.ofLiteral right ≠ 0 := by
        intro hzero
        exact hdivisor ⟨rfl, Word.ofLiteral_eq_zero hr hzero⟩
      have hmin : ¬ ((!wraps) = true ∧ Word.ofLiteral left = BitVec.intMin 32 ∧
          Word.ofLiteral right = -1) := by
        rintro ⟨-, hleft, hright⟩
        exact Word.not_fitsWord_tdiv hl hr hleft hright hexact
      rw [run_div hzero hmin, exact, Word.ofLiteral_tdiv hl hr hexact]

/-- The right operand that changes nothing. -/
def unit : Arith → Int
  | .add => 0
  | .sub => 0
  | .mul => 1
  | .div => 1

theorem run_unit_right (op : Arith) (word : Word) :
    op.run wraps word (Word.ofLiteral op.unit) = (.ok word : Except (Stop Var) Word) := by
  cases op with
  | add => exact congrArg Except.ok (BitVec.add_zero word)
  | sub => exact congrArg Except.ok (BitVec.sub_zero word)
  | mul => exact congrArg Except.ok (BitVec.mul_one word)
  | div =>
      have hone : ¬ ((!wraps) = true ∧ word = BitVec.intMin 32 ∧ (1 : Word) = -1) := by
        rintro ⟨-, -, hone⟩
        exact absurd hone (by decide)
      exact (run_div (by decide) hone).trans (congrArg Except.ok BitVec.sdiv_one)

/-- Of the operations that have one on the right, sums and products have it on the left too. -/
theorem run_unit_left {op : Arith} (hop : op = .add ∨ op = .mul) (word : Word) :
    op.run wraps (Word.ofLiteral op.unit) word = (.ok word : Except (Stop Var) Word) := by
  rcases hop with rfl | rfl
  · exact congrArg Except.ok (BitVec.zero_add word)
  · exact congrArg Except.ok (BitVec.one_mul word)

theorem exact_unit_right (op : Arith) (value : Int) : op.exact value op.unit = value := by
  cases op with
  | add => exact Int.add_zero value
  | sub => exact Int.sub_zero value
  | mul => exact Int.mul_one value
  | div => exact Int.tdiv_one value

theorem exact_unit_left {op : Arith} (hop : op = .add ∨ op = .mul) (value : Int) :
    op.exact op.unit value = value := by
  rcases hop with rfl | rfl
  · exact Int.zero_add value
  · exact Int.one_mul value

/-- An operation stops for a reason that lies in the values. -/
theorem run_eq_error {op : Arith} {left right : Word} {stop : Stop Var}
    (h : op.run wraps left right = .error stop) : stop.IsArithmetic wraps := by
  cases op with
  | add => cases h
  | sub => cases h
  | mul => cases h
  | div =>
      simp only [run] at h
      split at h
      · cases h
        exact Or.inl rfl
      · split at h
        · rename_i hoverflow
          cases h
          exact Or.inr ⟨by simpa using hoverflow.1, rfl⟩
        · cases h

theorem mapError_run {Var' : Type} (rename : Var → Var') (op : Arith) (left right : Word) :
    (op.run wraps left right : Except (Stop Var) Word).mapError (Stop.map rename) =
      op.run wraps left right := by
  cases op with
  | add => rfl
  | sub => rfl
  | mul => rfl
  | div =>
      simp only [run]
      split
      · rfl
      · split
        · rfl
        · rfl

end Arith

end StraightLine
