import Mathlib.Data.List.Basic
import StraightLine.Source.Grammar
import StraightLine.Proofs.ScanSteps
import StraightLine.Proofs.ParseComplete

/-! Programs written out and read back. An expression is written so that it is an operand wherever it
stands: in parentheses, or as a number or a name that ends where the expression ends. This is kept by
every node of the tree, whatever follows, as long as what follows cannot extend a word. In the other
direction, whatever is read consists of words spelled as their kinds are, and so can be written. -/

namespace StraightLine

/-- Whether a word ends in front of these characters. -/
def EndsWord (rest : List Char) : Prop :=
  ∀ c, rest.head? = some c → continuesName c = false

theorem endsWord_nil : EndsWord [] := by
  intro c hc
  cases hc

theorem endsWord_cons {c : Char} (h : continuesName c = false) (rest : List Char) :
    EndsWord (c :: rest) := by
  intro d hd
  cases hd
  exact h

theorem continuesName_of_isDigit {c : Char} (h : c.isDigit = true) : continuesName c = true := by
  obtain ⟨hlow, hhigh⟩ := isDigit_iff_toNat.mp h
  have hnumeric : Text.isNumeric c = true := by
    unfold Text.isNumeric Text.numeric
    rw [Text.Ranges.covers, Bool.and_eq_true, Bool.or_eq_true]
    exact ⟨decide_eq_true hlow, Or.inl (decide_eq_true hhigh)⟩
  simp [continuesName, hnumeric]

/-- A number cannot go on where a name cannot. -/
theorem EndsWord.not_isDigit {rest : List Char} (h : EndsWord rest) {c : Char}
    (hc : rest.head? = some c) : c.isDigit = false := by
  cases hdigit : c.isDigit with
  | false => rfl
  | true =>
      have hends := h c hc
      rw [continuesName_of_isDigit hdigit] at hends
      cases hends

namespace Source

/-- Whether a text is an operand that spells the expression, wherever it stands. -/
def Expr.SpelledBy (expr : Expr) (text : List Char) : Prop :=
  ∀ pos rest, EndsWord rest →
    ∃ tokens stop, Scans pos (text ++ rest) tokens stop rest ∧ Derives .primary tokens expr

theorem numeral_toString {value : Int} (hfits : FitsLiteral value) :
    Numeral (toString value) value := by
  rw [← literal?_eq_some, literal?, Text.signedDecimal?_toString]
  exact if_pos hfits

theorem spells_toString {value : Int} (hvalue : 0 ≤ value) :
    TokenKind.number.Spells (toString value).toList := by
  obtain ⟨magnitude, rfl⟩ := Int.eq_ofNat_of_zero_le hvalue
  rw [Text.toString_natCast]
  obtain ⟨hne, hdigits, -⟩ :=
    Text.unsignedDecimal?_eq_some.mp (Text.unsignedDecimal?_toString magnitude)
  exact ⟨hne, hdigits⟩

theorem isVariable_iff {name : String} :
    IsVariable name ↔ TokenKind.identifier.Spells name.toList :=
  and_congr_right fun _ => not_congr String.toList_inj.symm

theorem spelledBy_int {value : Int} (hvalue : 0 ≤ value) (hfits : FitsLiteral value) :
    (Expr.int value).SpelledBy (toString value).toList := by
  intro pos rest hrest
  have hspells := spells_toString hvalue
  have hne : toString value ≠ "" := fun hempty => hspells.1 (by rw [hempty]; rfl)
  exact ⟨_, _, Scans.word hne hspells fun d hd => hrest.not_isDigit hd,
    .number rfl (numeral_toString hfits)⟩

theorem IsVariable.scans {name : String} (h : IsVariable name) (pos : Nat) {rest : List Char}
    (hrest : EndsWord rest) :
    Scans pos (name.toList ++ rest) [⟨.identifier, name, pos⟩] (pos + byteLength name.toList)
      rest := by
  have hne : name ≠ "" := by
    rintro rfl
    exact h.1
  exact Scans.word hne (isVariable_iff.mp h) hrest

theorem spelledBy_var {name : String} (h : IsVariable name) :
    (Expr.var name).SpelledBy name.toList := by
  intro pos rest hrest
  exact ⟨_, _, h.scans pos hrest, .name rfl⟩

/-- A sign is written as the mark that is read as the sign. -/
theorem exists_sign_mark (sign : Sign) :
    ∃ (kind : TokenKind) (c : Char),
      kind.mark? = some c ∧ kind.sign? = some sign ∧ sign.symbol.toList = [c] := by
  cases sign with
  | plus => exact ⟨.plus, '+', rfl, rfl, rfl⟩
  | minus => exact ⟨.minus, '-', rfl, rfl, rfl⟩

/-- An operator of the grammar is written as the mark that is read as the operator. -/
theorem exists_operator_mark {op : Operator} (hop : op ≠ .rem) :
    ∃ (kind : TokenKind) (c : Char), kind.mark? = some c ∧
      (kind.sum? = some op ∨ kind.product? = some op) ∧ op.symbol.toList = [c] := by
  cases op with
  | add => exact ⟨.plus, '+', rfl, Or.inl rfl, rfl⟩
  | sub => exact ⟨.minus, '-', rfl, Or.inl rfl, rfl⟩
  | mul => exact ⟨.star, '*', rfl, Or.inr rfl, rfl⟩
  | div => exact ⟨.slash, '/', rfl, Or.inr rfl, rfl⟩
  | rem => exact absurd rfl hop

theorem Derives.expr_of_primary {tokens : List Token} {tree : Expr}
    (h : Derives .primary tokens tree) : Derives .expr tokens tree :=
  (Derives.primary h).term_of_factor.expr_of_term

/-- Two operands with an operator between them, whichever level the operator belongs to. -/
theorem Derives.binary {token : Token} {op : Operator} {first second : List Token}
    {left right : Expr} (hleft : Derives .primary first left)
    (hop : token.kind.sum? = some op ∨ token.kind.product? = some op)
    (hright : Derives .primary second right) :
    Derives .expr (first ++ token :: second) (.binary op left right) := by
  rcases hop with hsum | hproduct
  · exact hleft.expr_of_primary.expr_snoc hsum (Derives.primary hright).term_of_factor
  · exact ((Derives.primary hleft).term_of_factor.term_snoc hproduct (.primary hright)).expr_of_term

theorem Expr.SpelledBy.unary {operand : Expr} {text : List Char} (h : operand.SpelledBy text)
    (sign : Sign) :
    (Expr.unary sign operand).SpelledBy ('(' :: sign.symbol.toList ++ text ++ [')']) := by
  intro pos rest _
  obtain ⟨kind, c, hmark, hsign, hsymbol⟩ := exists_sign_mark sign
  obtain ⟨tokens, stop, hscans, hderives⟩ :=
    h (pos + byteLength ['('] + byteLength [c]) (')' :: rest) (endsWord_cons (by decide) rest)
  have hclosing : TokenKind.rightParen.mark? = some ')' := rfl
  have hopening : TokenKind.leftParen.mark? = some '(' := rfl
  have hall := Scans.mark hopening (.mark hmark (hscans.trans (.mark hclosing (.done _ rest))))
  have hsigned : Derives .factor (⟨kind, String.ofList [c], pos + byteLength ['(']⟩ :: tokens)
      (.unary sign operand) := .signed hsign (.primary hderives)
  have htext : '(' :: sign.symbol.toList ++ text ++ [')'] ++ rest =
      '(' :: c :: (text ++ ')' :: rest) := by simp [hsymbol]
  rw [htext]
  exact ⟨_, _, hall, .parens rfl rfl hsigned.term_of_factor.expr_of_term⟩

theorem Expr.SpelledBy.binary {op : Operator} {left right : Expr} {first second : List Char}
    (hop : op ≠ .rem) (hleft : left.SpelledBy first) (hright : right.SpelledBy second) :
    (Expr.binary op left right).SpelledBy
      ('(' :: first ++ ' ' :: op.symbol.toList ++ ' ' :: second ++ [')']) := by
  intro pos rest _
  obtain ⟨kind, c, hmark, hkind, hsymbol⟩ := exists_operator_mark hop
  obtain ⟨leftTokens, middle, hleftScans, hleftDerives⟩ :=
    hleft (pos + byteLength ['(']) (' ' :: c :: ' ' :: (second ++ ')' :: rest))
      (endsWord_cons (by decide) _)
  obtain ⟨rightTokens, stop, hrightScans, hrightDerives⟩ :=
    hright (middle + ' '.utf8Size + byteLength [c] + ' '.utf8Size) (')' :: rest)
      (endsWord_cons (by decide) rest)
  have hclosing : TokenKind.rightParen.mark? = some ')' := rfl
  have hopening : TokenKind.leftParen.mark? = some '(' := rfl
  have hinside := hleftScans.trans
    (.blank (by decide) (.mark hmark (.blank (by decide) hrightScans)))
  have hall := Scans.mark hopening (hinside.trans (.mark hclosing (.done _ rest)))
  have hinner : Derives .expr
      (leftTokens ++ ⟨kind, String.ofList [c], middle + ' '.utf8Size⟩ :: rightTokens)
      (.binary op left right) := hleftDerives.binary hkind hrightDerives
  have htext : '(' :: first ++ ' ' :: op.symbol.toList ++ ' ' :: second ++ [')'] ++ rest =
      '(' :: (first ++ ' ' :: c :: ' ' :: (second ++ ')' :: rest)) := by simp [hsymbol]
  rw [htext]
  exact ⟨_, _, hall, .parens rfl rfl hinner⟩

/-- Every node of the tree is written as an operand. -/
theorem Expr.spelledBy_render {expr : Expr} (h : expr.Writable) :
    expr.SpelledBy expr.render.toList := by
  induction expr with
  | int value => exact spelledBy_int h.1 h.2
  | var name => exact spelledBy_var h
  | unary sign operand ih =>
      have hunary := (ih h).unary sign
      simpa [Expr.render] using hunary
  | binary op left right ihLeft ihRight =>
      obtain ⟨hop, hleft, hright⟩ := h
      have hbinary := (ihLeft hleft).binary hop (ihRight hright)
      simpa [Expr.render] using hbinary

theorem Stmt.scans_render {stmt : Stmt} (h : stmt.Writable) (pos : Nat) {rest : List Char}
    (hrest : EndsWord rest) :
    ∃ tokens stop, Scans pos (stmt.render.toList ++ rest) tokens stop rest ∧
      DerivesStmt tokens stmt := by
  cases stmt with
  | assign name value =>
      obtain ⟨hname, hvalue⟩ := h
      have hends : EndsWord (' ' :: '=' :: ' ' :: (value.render.toList ++ rest)) :=
        endsWord_cons (by decide) _
      have hequals : TokenKind.equals.mark? = some '=' := rfl
      obtain ⟨tokens, stop, hscans, hderives⟩ := Expr.spelledBy_render hvalue
        (pos + byteLength name.toList + ' '.utf8Size + byteLength ['='] + ' '.utf8Size) rest hrest
      have hall := (hname.scans pos hends).trans
        (.blank (by decide) (.mark hequals (.blank (by decide) hscans)))
      have htext : (Stmt.assign name value).render.toList ++ rest =
          name.toList ++ ' ' :: '=' :: ' ' :: (value.render.toList ++ rest) := by
        simp [Stmt.render]
      rw [htext]
      exact ⟨_, _, hall, .assign rfl rfl hderives.expr_of_primary⟩
  | print value =>
      have hfirst : Scans pos ("print".toList ++ ' ' :: (value.render.toList ++ rest))
          [⟨.print, "print", pos⟩] (pos + byteLength "print".toList)
          (' ' :: (value.render.toList ++ rest)) :=
        Scans.word (by decide) ⟨⟨by decide, List.all_eq_true.mp (by decide)⟩, rfl⟩
          (endsWord_cons (by decide) _)
      obtain ⟨tokens, stop, hscans, hderives⟩ := Expr.spelledBy_render h
        (pos + byteLength "print".toList + ' '.utf8Size) rest hrest
      have hall := hfirst.trans (.blank (by decide) hscans)
      have htext : (Stmt.print value).render.toList ++ rest =
          "print".toList ++ ' ' :: (value.render.toList ++ rest) := by
        simp [Stmt.render]
      rw [htext]
      exact ⟨_, _, hall, .print rfl hderives.expr_of_primary⟩

theorem newlines_nil : Newlines [] :=
  fun _ h => absurd h List.not_mem_nil

theorem Program.scans_render {program : Program} (h : program.Writable) (pos : Nat) :
    ∃ tokens stop, Scans pos program.render.toList tokens stop [] ∧
      DerivesProgram tokens program := by
  induction program generalizing pos with
  | nil => exact ⟨[], pos, .done pos [], .intro newlines_nil .done⟩
  | cons stmt rest ih =>
      obtain ⟨hstmt, hrest⟩ := List.forall_mem_cons.mp h
      cases rest with
      | nil =>
          obtain ⟨tokens, stop, hscans, hderives⟩ := Stmt.scans_render hstmt pos endsWord_nil
          rw [List.append_nil] at hscans
          exact ⟨tokens, stop, hscans, .intro newlines_nil (.last hderives)⟩
      | cons next rest =>
          have hends : EndsWord ('\n' :: (Program.render (next :: rest)).toList) :=
            endsWord_cons (by decide) _
          obtain ⟨tokens, middle, hscans, hderives⟩ := Stmt.scans_render hstmt pos hends
          obtain ⟨others, stop, hothers, hprogram⟩ := ih hrest (middle + byteLength ['\n'])
          have hnewline : TokenKind.newline.mark? = some '\n' := rfl
          have htext : (Program.render (stmt :: next :: rest)).toList =
              stmt.render.toList ++ '\n' :: (Program.render (next :: rest)).toList := by
            simp [Program.render, String.intercalate_cons_cons]
          rw [htext]
          exact ⟨_, _, hscans.trans (.mark hnewline hothers), .line hderives rfl hprogram⟩

/-- The end of input is the first after what is scanned. -/
theorem untilEof_of_scans {pos stop : Nat} {chars rest : List Char} {words : List Token}
    (h : Scans pos chars words stop rest) :
    untilEof (words ++ [⟨.eof, "", stop⟩]) = words := by
  rw [untilEof_append fun token htoken => (h.spells token htoken).1, untilEof_eof rfl,
    List.append_nil]

theorem Program.parse_of_writable {program : Program} (h : program.Writable) :
    ∃ tokens, scan program.render = .ok tokens ∧ parse tokens = .ok program := by
  obtain ⟨words, stop, hscans, hderives⟩ := Program.scans_render h 0
  refine ⟨_, scan_eq_ok.mpr ⟨words, stop, hscans, rfl⟩, ?_⟩
  rw [parse_eq_ok, untilEof_of_scans hscans]
  exact hderives

theorem Numeral.fits {text : String} {value : Int} (h : Numeral text value) :
    FitsLiteral value := by
  cases h with
  | plain _ _ _ hfits => exact hfits
  | plus _ _ _ hfits => exact hfits
  | minus _ _ _ hfits => exact hfits

theorem Numeral.nonneg {text : String} {value : Int} (h : Numeral text value)
    (hdigits : ∀ c ∈ text.toList, c.isDigit) : 0 ≤ value := by
  cases h with
  | plain _ _ _ _ => exact Int.natCast_nonneg _
  | plus _ _ _ _ => exact Int.natCast_nonneg _
  | minus htext _ _ _ =>
      rw [htext] at hdigits
      exact absurd (hdigits '-' List.mem_cons_self) (by decide)

/-- Whether there is a text for what a phrase goes on from. -/
def Phrase.Writable : Phrase → Prop
  | .moreTerms left | .moreFactors left => left.Writable
  | _ => True

/-- Tokens that are spelled as their kinds are derive nothing that cannot be written. -/
theorem Derives.writable {phrase : Phrase} {tokens : List Token} {tree : Expr}
    (h : Derives phrase tokens tree)
    (hspells : ∀ token ∈ tokens, token.kind.Spells token.text.toList)
    (hphrase : phrase.Writable) : tree.Writable := by
  induction h with
  | expr _ _ ihFirst ihMore =>
      obtain ⟨hfirst, hmore⟩ := List.forall_mem_append.mp hspells
      exact ihMore hmore (ihFirst hfirst trivial)
  | noMoreTerms left => exact hphrase
  | nextTerm hop _ _ ihNext ihMore =>
      obtain ⟨hnext, hmore⟩ := List.forall_mem_append.mp hspells
      have hright := ihNext (List.forall_mem_cons.mp hnext).2 trivial
      refine ihMore hmore ⟨?_, hphrase, hright⟩
      rintro rfl
      rcases sum?_eq_some.mp hop with ⟨-, hrem⟩ | ⟨-, hrem⟩ <;> cases hrem
  | term _ _ ihFirst ihMore =>
      obtain ⟨hfirst, hmore⟩ := List.forall_mem_append.mp hspells
      exact ihMore hmore (ihFirst hfirst trivial)
  | noMoreFactors left => exact hphrase
  | nextFactor hop _ _ ihNext ihMore =>
      obtain ⟨hnext, hmore⟩ := List.forall_mem_append.mp hspells
      have hright := ihNext (List.forall_mem_cons.mp hnext).2 trivial
      refine ihMore hmore ⟨?_, hphrase, hright⟩
      rintro rfl
      rcases product?_eq_some.mp hop with ⟨-, hrem⟩ | ⟨-, hrem⟩ <;> cases hrem
  | signed _ _ ih => exact ih (List.forall_mem_cons.mp hspells).2 trivial
  | primary _ ih => exact ih hspells trivial
  | number hkind hvalue =>
      have hnumber := List.forall_mem_singleton.mp hspells
      rw [hkind] at hnumber
      exact ⟨hvalue.nonneg hnumber.2, hvalue.fits⟩
  | name hkind =>
      have hname := List.forall_mem_singleton.mp hspells
      rw [hkind] at hname
      exact isVariable_iff.mpr hname
  | parens _ _ _ ih =>
      obtain ⟨hinner, -⟩ := List.forall_mem_append.mp hspells
      exact ih (List.forall_mem_cons.mp hinner).2 trivial

theorem DerivesStmt.writable {tokens : List Token} {stmt : Stmt} (h : DerivesStmt tokens stmt)
    (hspells : ∀ token ∈ tokens, token.kind.Spells token.text.toList) : stmt.Writable := by
  cases h with
  | print _ hderives => exact hderives.writable (List.forall_mem_cons.mp hspells).2 trivial
  | assign hkind _ hderives =>
      obtain ⟨hname, hmore⟩ := List.forall_mem_cons.mp hspells
      rw [hkind] at hname
      exact ⟨isVariable_iff.mpr hname,
        hderives.writable (List.forall_mem_cons.mp hmore).2 trivial⟩

theorem DerivesLines.writable {tokens : List Token} {program : Program}
    (h : DerivesLines tokens program)
    (hspells : ∀ token ∈ tokens, token.kind.Spells token.text.toList) : program.Writable := by
  induction h with
  | done => exact fun _ h => absurd h List.not_mem_nil
  | last hstmt => exact List.forall_mem_singleton.mpr (hstmt.writable hspells)
  | line hstmt _ _ _ ih =>
      obtain ⟨hline, hrest⟩ := List.forall_mem_append.mp hspells
      obtain ⟨hfirst, -⟩ := List.forall_mem_append.mp hline
      exact List.forall_mem_cons.mpr ⟨hstmt.writable hfirst, ih hrest⟩

theorem writable_of_parse {text : String} {tokens : List Token} {program : Program}
    (hscan : scan text = .ok tokens) (hparse : parse tokens = .ok program) :
    program.Writable := by
  obtain ⟨words, stop, hscans, rfl⟩ := scan_eq_ok.mp hscan
  rw [parse_eq_ok, untilEof_of_scans hscans] at hparse
  have hspells := fun token htoken => (hscans.spells token htoken).2
  cases hparse with
  | intro _ hlines => exact hlines.writable (List.forall_mem_append.mp hspells).2

/-- Parsing undoes printing: a program that can be written is read back from its text. The programs
that are read from texts are those that can be written, so each of them is read back from what it is
printed as. -/
theorem parse_render :
    (∀ program : Program, program.Writable →
      ∃ tokens, scan program.render = .ok tokens ∧ parse tokens = .ok program) ∧
    ∀ (text : String) (tokens : List Token) (program : Program),
      scan text = .ok tokens → parse tokens = .ok program →
        program.Writable ∧
          ∃ again, scan program.render = .ok again ∧ parse again = .ok program := by
  refine ⟨fun program h => Program.parse_of_writable h, fun text tokens program hscan hparse => ?_⟩
  have hwritable := writable_of_parse hscan hparse
  exact ⟨hwritable, Program.parse_of_writable hwritable⟩

/-- A program with the largest literal and every kind of node, and a text that is written otherwise
than the program that it is read as. -/
theorem parse_render_nested :
    let program : Program :=
      [.assign "λ2" (.unary .minus (.binary .mul (.int 9223372036854775807) (.int 0))),
        .print (.binary .sub (.int 1) (.binary .sub (.int 2) (.var "λ2")))]
    let subtractions : Program :=
      [.print (.binary .sub (.binary .sub (.int 1) (.int 2)) (.unary .minus (.int 3)))]
    (program.Writable ∧
      ∃ tokens, scan "λ2 = (-(9223372036854775807 * 0))\nprint (1 - (2 - λ2))" = .ok tokens ∧
        parse tokens = .ok program) ∧
    ∃ tokens, scan "\nprint 1-2--03\n" = .ok tokens ∧ parse tokens = .ok subtractions ∧
      subtractions.Writable ∧
      ∃ again, scan "print ((1 - 2) - (-3))" = .ok again ∧ parse again = .ok subtractions := by
  intro program subtractions
  have hvariable : IsVariable "λ2" :=
    ⟨⟨by decide, List.all_eq_true.mp (by decide)⟩, by decide⟩
  have hwritable : program.Writable := by
    refine List.forall_mem_cons.mpr ⟨⟨hvariable, ?_⟩, List.forall_mem_singleton.mpr ?_⟩
    · exact ⟨by decide, ⟨by decide, by decide⟩, by decide, by decide⟩
    · exact ⟨by decide, ⟨by decide, by decide⟩, by decide, ⟨by decide, by decide⟩, hvariable⟩
  have hscan : scan "\nprint 1-2--03\n" =
      .ok [⟨.newline, "\n", 0⟩, ⟨.print, "print", 1⟩, ⟨.number, "1", 7⟩, ⟨.minus, "-", 8⟩,
        ⟨.number, "2", 9⟩, ⟨.minus, "-", 10⟩, ⟨.minus, "-", 11⟩, ⟨.number, "03", 12⟩,
        ⟨.newline, "\n", 14⟩, ⟨.eof, "", 15⟩] := by
    decide +kernel
  have hparse := (parse_eq_read [⟨.newline, "\n", 0⟩, ⟨.print, "print", 1⟩, ⟨.number, "1", 7⟩,
    ⟨.minus, "-", 8⟩, ⟨.number, "2", 9⟩, ⟨.minus, "-", 10⟩, ⟨.minus, "-", 11⟩, ⟨.number, "03", 12⟩,
    ⟨.newline, "\n", 14⟩, ⟨.eof, "", 15⟩]).trans (rfl : _ = Except.ok subtractions)
  obtain ⟨hsubtractions, again⟩ := parse_render.2 _ _ subtractions hscan hparse
  exact ⟨⟨hwritable, parse_render.1 program hwritable⟩, _, hscan, hparse, hsubtractions, again⟩

end Source

end StraightLine
