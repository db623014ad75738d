import StraightLine.Token.Scan

/-! Tokens without their offsets, and texts that differ in nothing but the blanks between their
tokens. -/

namespace StraightLine

/-- What a token is and how it is spelled, wherever it stands. -/
abbrev Lexeme := TokenKind × String

/-- A token without its offset. -/
def Token.lexeme (token : Token) : Lexeme :=
  (token.kind, token.text)

/-- Whether a token of the first kind and one of the second kind after it would become one token
without a gap between them. -/
def TokenKind.runsInto (first second : TokenKind) : Bool :=
  match first with
  | .number => second == .number
  | .identifier | .print => second == .number || second == .identifier || second == .print
  | _ => false

/-- The texts of tokens one after another. The gap with number `i` stands in front of the token with
number `i`, and one more gap stands after the last token. -/
def spaced (gaps : Nat → String) : List Token → String
  | [] => gaps 0
  | token :: rest => gaps 0 ++ token.text ++ spaced (fun i => gaps (i + 1)) rest

/-- Gaps that may stand around tokens: they are made of blanks, and none is empty between two tokens
that would become one. -/
structure FitsAround (gaps : Nat → String) (tokens : List Token) : Prop where
  blank : ∀ i ≤ tokens.length, ∀ c ∈ (gaps i).toList, isBlank c
  apart : ∀ i first second, tokens[i]? = some first → tokens[i + 1]? = some second →
    first.kind.runsInto second.kind → gaps (i + 1) ≠ ""

/-- Whether gaps may stand around tokens can be computed. -/
theorem fitsAround_iff {gaps : Nat → String} {tokens : List Token} :
    ((∀ i < tokens.length + 1, (gaps i).toList.all isBlank = true) ∧
      ∀ i < tokens.length,
        (tokens[i]?.any fun first => tokens[i + 1]?.any fun second =>
          first.kind.runsInto second.kind) = true → gaps (i + 1) ≠ "") ↔
      FitsAround gaps tokens := by
  constructor
  · rintro ⟨hblank, hapart⟩
    refine ⟨?_, ?_⟩
    · intro i hi
      exact List.all_eq_true.mp (hblank i (Nat.lt_succ_of_le hi))
    · intro i first second hfirst hsecond hruns
      obtain ⟨hi, -⟩ := List.getElem?_eq_some_iff.mp hfirst
      exact hapart i hi (by simp [hfirst, hsecond, hruns])
  · rintro ⟨hblank, hapart⟩
    refine ⟨?_, ?_⟩
    · intro i hi
      exact List.all_eq_true.mpr (hblank i (Nat.le_of_lt_succ hi))
    · intro i _ hruns
      obtain ⟨first, hfirst, hany⟩ := (Option.any_eq_true _ _).mp hruns
      obtain ⟨second, hsecond, hkinds⟩ := (Option.any_eq_true _ _).mp hany
      exact hapart i first second hfirst hsecond hkinds

instance (gaps : Nat → String) (tokens : List Token) : Decidable (FitsAround gaps tokens) :=
  decidable_of_decidable_of_iff fitsAround_iff

/-- The characters of a text with a carriage return in front of every newline. -/
def returned (chars : List Char) : List Char :=
  chars.flatMap fun c => if c = '\n' then ['\r', '\n'] else [c]

end StraightLine
