/-! Decimal text with an optional sign, and that the text of a number is read back as the number. -/

namespace StraightLine.Text

/-- The number that a nonempty run of ASCII digits stands for. -/
def unsignedDecimal? (digits : List Char) : Option Nat :=
  if digits.isEmpty || !digits.all Char.isDigit then none
  else some (Nat.ofDigitChars 10 digits 0)

/-- The integer that a text stands for: a plus, a minus or no sign, then ASCII digits. -/
def signedDecimal? : List Char → Option Int
  | '+' :: digits => (unsignedDecimal? digits).map Int.ofNat
  | '-' :: digits => (unsignedDecimal? digits).map fun magnitude => -Int.ofNat magnitude
  | digits => (unsignedDecimal? digits).map Int.ofNat

theorem unsignedDecimal?_eq_some {digits : List Char} {value : Nat} :
    unsignedDecimal? digits = some value ↔
      digits ≠ [] ∧ (∀ c ∈ digits, c.isDigit) ∧ value = Nat.ofDigitChars 10 digits 0 := by
  unfold unsignedDecimal?
  split
  · rename_i hnone
    simp only [Bool.or_eq_true, List.isEmpty_iff, Bool.not_eq_true', List.all_eq_false] at hnone
    constructor
    · intro h
      cases h
    · rintro ⟨hne, hdigits, -⟩
      rcases hnone with hempty | ⟨c, hc, hdigit⟩
      · exact absurd hempty hne
      · exact absurd (hdigits c hc) hdigit
  · rename_i hsome
    simp only [Bool.or_eq_true, List.isEmpty_iff, Bool.not_eq_true', not_or,
      Bool.not_eq_false, List.all_eq_true] at hsome
    simp only [Option.some.injEq]
    constructor
    · rintro rfl
      exact ⟨hsome.1, hsome.2, rfl⟩
    · rintro ⟨-, -, rfl⟩
      rfl

/-- Without a sign the text is read as it stands. -/
theorem signedDecimal?_of_unsigned {digits : List Char} (hplus : digits.head? ≠ some '+')
    (hminus : digits.head? ≠ some '-') :
    signedDecimal? digits = (unsignedDecimal? digits).map Int.ofNat := by
  unfold signedDecimal?
  split
  · exact absurd rfl hplus
  · exact absurd rfl hminus
  · rfl

/-- A text with a value is a text of digits alone, or a sign with such a text after it. -/
theorem signedDecimal?_eq_some {chars : List Char} {value : Int} :
    signedDecimal? chars = some value ↔
      ∃ magnitude : Nat,
        (unsignedDecimal? chars = some magnitude ∧ value = magnitude) ∨
        (∃ digits, chars = '+' :: digits ∧ unsignedDecimal? digits = some magnitude ∧
          value = magnitude) ∨
        ∃ digits, chars = '-' :: digits ∧ unsignedDecimal? digits = some magnitude ∧
          value = -magnitude := by
  constructor
  · intro h
    unfold signedDecimal? at h
    split at h
    · obtain ⟨magnitude, hdigits, rfl⟩ := Option.map_eq_some_iff.mp h
      exact ⟨magnitude, Or.inr (Or.inl ⟨_, rfl, hdigits, rfl⟩)⟩
    · obtain ⟨magnitude, hdigits, rfl⟩ := Option.map_eq_some_iff.mp h
      exact ⟨magnitude, Or.inr (Or.inr ⟨_, rfl, hdigits, rfl⟩)⟩
    · obtain ⟨magnitude, hdigits, rfl⟩ := Option.map_eq_some_iff.mp h
      exact ⟨magnitude, Or.inl ⟨hdigits, rfl⟩⟩
  · rintro ⟨magnitude, ⟨hdigits, rfl⟩ | ⟨digits, rfl, hdigits, rfl⟩ | ⟨digits, rfl, hdigits, rfl⟩⟩
    · have hhead : ∀ c, chars.head? = some c → c.isDigit := by
        intro c hc
        exact (unsignedDecimal?_eq_some.mp hdigits).2.1 c (List.mem_of_mem_head? hc)
      rw [signedDecimal?_of_unsigned, hdigits]
      · rfl
      · intro hplus
        exact absurd (hhead _ hplus) (by decide)
      · intro hminus
        exact absurd (hhead _ hminus) (by decide)
    · rw [signedDecimal?, hdigits]
      rfl
    · rw [signedDecimal?, hdigits]
      rfl

theorem unsignedDecimal?_toString (value : Nat) :
    unsignedDecimal? (toString value).toList = some value := by
  rw [unsignedDecimal?_eq_some, Nat.toString_eq_repr, Nat.toList_repr]
  refine ⟨?_, ?_, ?_⟩
  · exact Nat.toDigits_ne_nil
  · intro c hc
    exact Nat.isDigit_of_mem_toDigits (by decide) (by decide) hc
  · exact Nat.ofDigitChars_ten_toDigits.symm

theorem isDigit_of_mem_toString {value : Nat} {c : Char} (h : c ∈ (toString value).toList) :
    c.isDigit := by
  have hdigits := unsignedDecimal?_eq_some.mp (unsignedDecimal?_toString value)
  exact hdigits.2.1 c h

theorem toString_natCast (value : Nat) : toString (value : Int) = toString value := by
  rw [Int.toString_eq_repr, Int.repr_eq_if, if_pos (Int.natCast_nonneg value), Int.toNat_natCast,
    Nat.toString_eq_repr]

theorem toString_negSucc (value : Nat) :
    toString (Int.negSucc value) = "-" ++ toString (value + 1) := rfl

theorem signedDecimal?_toString (value : Int) :
    signedDecimal? (toString value).toList = some value := by
  rw [signedDecimal?_eq_some]
  cases value with
  | ofNat magnitude =>
      rw [Int.ofNat_eq_natCast, toString_natCast]
      exact ⟨magnitude, Or.inl ⟨unsignedDecimal?_toString magnitude, rfl⟩⟩
  | negSucc magnitude =>
      rw [toString_negSucc, String.toList_append]
      exact ⟨magnitude + 1, Or.inr (Or.inr
        ⟨_, rfl, unsignedDecimal?_toString (magnitude + 1), rfl⟩)⟩

theorem isDigit_or_sign_of_mem_toString {value : Int} {c : Char}
    (h : c ∈ (toString value).toList) : c.isDigit ∨ c = '-' := by
  cases value with
  | ofNat magnitude =>
      rw [Int.ofNat_eq_natCast, toString_natCast] at h
      exact Or.inl (isDigit_of_mem_toString h)
  | negSucc magnitude =>
      rw [toString_negSucc, String.toList_append, List.mem_append] at h
      rcases h with hsign | hdigit
      · exact Or.inr (by simpa using hsign)
      · exact Or.inl (isDigit_of_mem_toString hdigit)

end StraightLine.Text
