import StraightLine.Source.Grammar
import StraightLine.Text.Decimal

/-! Small facts of the grammar: which texts are numerals, how a phrase is extended at its end, how
newlines and statements are put in front of a program, and where input ends. -/

namespace StraightLine.Source

theorem literal?_eq_some {text : String} {value : Int} :
    literal? text = some value ↔ Numeral text value := by
  have hliteral : literal? text = some value ↔
      Text.signedDecimal? text.toList = some value ∧ FitsLiteral value := by
    unfold literal?
    cases hdecimal : Text.signedDecimal? text.toList with
    | none => simp
    | some decimal =>
        by_cases hfits : FitsLiteral decimal
        · simp only [if_pos hfits, Option.some.injEq]
          constructor
          · rintro rfl
            exact ⟨rfl, hfits⟩
          · exact And.left
        · simp only [if_neg hfits, Option.some.injEq]
          constructor
          · intro h
            cases h
          · rintro ⟨rfl, h⟩
            exact absurd h hfits
  rw [hliteral, Text.signedDecimal?_eq_some]
  constructor
  · rintro ⟨⟨magnitude, hplain | ⟨digits, htext, hplus⟩ | ⟨digits, htext, hminus⟩⟩, hfits⟩
    · obtain ⟨hdigits, rfl⟩ := hplain
      obtain ⟨hne, hall, rfl⟩ := Text.unsignedDecimal?_eq_some.mp hdigits
      exact .plain rfl hne hall hfits
    · obtain ⟨hdigits, rfl⟩ := hplus
      obtain ⟨hne, hall, rfl⟩ := Text.unsignedDecimal?_eq_some.mp hdigits
      exact .plus htext hne hall hfits
    · obtain ⟨hdigits, rfl⟩ := hminus
      obtain ⟨hne, hall, rfl⟩ := Text.unsignedDecimal?_eq_some.mp hdigits
      exact .minus htext hne hall hfits
  · intro h
    cases h with
    | plain htext hne hdigits hfits =>
        exact ⟨⟨_, Or.inl ⟨Text.unsignedDecimal?_eq_some.mpr
          ⟨htext ▸ hne, htext ▸ hdigits, by rw [htext]⟩, rfl⟩⟩, hfits⟩
    | plus htext hne hdigits hfits =>
        exact ⟨⟨_, Or.inr (Or.inl ⟨_, htext, Text.unsignedDecimal?_eq_some.mpr
          ⟨hne, hdigits, rfl⟩, rfl⟩)⟩, hfits⟩
    | minus htext hne hdigits hfits =>
        exact ⟨⟨_, Or.inr (Or.inr ⟨_, htext, Text.unsignedDecimal?_eq_some.mpr
          ⟨hne, hdigits, rfl⟩, rfl⟩)⟩, hfits⟩

namespace Derives

/-- One more term at the end of a repetition takes all before it as its left operand. -/
theorem moreTerms_snoc {token : Token} {op : Operator} {tokens next : List Token}
    {start left right : Expr} (h : Derives (.moreTerms start) tokens left)
    (hop : token.kind.sum? = some op) (hnext : Derives .term next right) :
    Derives (.moreTerms start) (tokens ++ token :: next) (.binary op left right) := by
  generalize hphrase : Phrase.moreTerms start = phrase at h
  induction h generalizing start with
  | noMoreTerms left =>
      cases hphrase
      have hlast : Derives (.moreTerms left) (token :: next ++ []) (.binary op left right) :=
        .nextTerm hop hnext (.noMoreTerms _)
      simpa using hlast
  | nextTerm hfirst hterm _ _ ih =>
      cases hphrase
      have hrest := nextTerm hfirst hterm (ih rfl)
      simpa using hrest
  | _ => cases hphrase

theorem moreFactors_snoc {token : Token} {op : Operator} {tokens next : List Token}
    {start left right : Expr} (h : Derives (.moreFactors start) tokens left)
    (hop : token.kind.product? = some op) (hnext : Derives .factor next right) :
    Derives (.moreFactors start) (tokens ++ token :: next) (.binary op left right) := by
  generalize hphrase : Phrase.moreFactors start = phrase at h
  induction h generalizing start with
  | noMoreFactors left =>
      cases hphrase
      have hlast : Derives (.moreFactors left) (token :: next ++ []) (.binary op left right) :=
        .nextFactor hop hnext (.noMoreFactors _)
      simpa using hlast
  | nextFactor hfirst hfactor _ _ ih =>
      cases hphrase
      have hrest := nextFactor hfirst hfactor (ih rfl)
      simpa using hrest
  | _ => cases hphrase

theorem expr_snoc {token : Token} {op : Operator} {tokens next : List Token} {left right : Expr}
    (h : Derives .expr tokens left) (hop : token.kind.sum? = some op)
    (hnext : Derives .term next right) :
    Derives .expr (tokens ++ token :: next) (.binary op left right) := by
  cases h with
  | expr hfirst hmore =>
      rw [List.append_assoc]
      exact .expr hfirst (hmore.moreTerms_snoc hop hnext)

theorem term_snoc {token : Token} {op : Operator} {tokens next : List Token} {left right : Expr}
    (h : Derives .term tokens left) (hop : token.kind.product? = some op)
    (hnext : Derives .factor next right) :
    Derives .term (tokens ++ token :: next) (.binary op left right) := by
  cases h with
  | term hfirst hmore =>
      rw [List.append_assoc]
      exact .term hfirst (hmore.moreFactors_snoc hop hnext)

theorem term_of_factor {tokens : List Token} {tree : Expr} (h : Derives .factor tokens tree) :
    Derives .term tokens tree := by
  have hterm := term h (.noMoreFactors tree)
  rwa [List.append_nil] at hterm

theorem expr_of_term {tokens : List Token} {tree : Expr} (h : Derives .term tokens tree) :
    Derives .expr tokens tree := by
  have hexpr := expr h (.noMoreTerms tree)
  rwa [List.append_nil] at hexpr

end Derives

theorem DerivesProgram.newline {token : Token} {tokens : List Token} {program : Program}
    (hkind : token.kind = .newline) (h : DerivesProgram tokens program) :
    DerivesProgram (token :: tokens) program := by
  cases h with
  | intro hnewlines hrest =>
      rw [← List.cons_append]
      exact .intro (List.forall_mem_cons.mpr ⟨hkind, hnewlines⟩) hrest

/-- A statement with a newline after it, in front of a program. -/
theorem DerivesProgram.line {token : Token} {first tokens : List Token} {stmt : Stmt}
    {program : Program} (hfirst : DerivesStmt first stmt) (hkind : token.kind = .newline)
    (h : DerivesProgram tokens program) :
    DerivesProgram (first ++ token :: tokens) (stmt :: program) := by
  cases h with
  | @intro newlines rest _ hnewlines hrest =>
      have hline : DerivesLines (first ++ (token :: newlines) ++ rest) (stmt :: program) :=
        .line hfirst (List.cons_ne_nil _ _) (List.forall_mem_cons.mpr ⟨hkind, hnewlines⟩) hrest
      have hnone : Newlines [] := by simp [Newlines]
      have hprogram := DerivesProgram.intro hnone hline
      simpa using hprogram

theorem untilEof_eof {token : Token} {rest : List Token} (h : token.kind = .eof) :
    untilEof (token :: rest) = [] := by
  simp [untilEof, h]

theorem untilEof_cons {token : Token} {rest : List Token} (h : token.kind ≠ .eof) :
    untilEof (token :: rest) = token :: untilEof rest := by
  simp [untilEof, h]

/-- Tokens without an end of input stand before the first one that follows them. -/
theorem untilEof_append {tokens : List Token} (h : ∀ token ∈ tokens, token.kind ≠ .eof)
    (rest : List Token) : untilEof (tokens ++ rest) = tokens ++ untilEof rest :=
  List.takeWhile_append_of_pos fun token htoken => decide_eq_true (h token htoken)

theorem untilEof_eq_self {tokens : List Token} (h : ∀ token ∈ tokens, token.kind ≠ .eof) :
    untilEof tokens = tokens := by
  simpa [untilEof] using untilEof_append h []

/-- Tokens are those before the first end of input and others that start with it, if at all. -/
theorem exists_untilEof_append (tokens : List Token) :
    ∃ rest, untilEof tokens ++ rest = tokens ∧ untilEof rest = [] := by
  induction tokens with
  | nil => exact ⟨[], rfl, rfl⟩
  | cons token tokens ih =>
      by_cases heof : token.kind = .eof
      · exact ⟨token :: tokens, by rw [untilEof_eof heof, List.nil_append], untilEof_eof heof⟩
      · obtain ⟨rest, htokens, hrest⟩ := ih
        exact ⟨rest, by rw [untilEof_cons heof, List.cons_append, htokens], hrest⟩

end StraightLine.Source
