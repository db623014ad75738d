import StraightLine.Source.Viable
import StraightLine.Proofs.Descent

/-! Errors point at the first token that no program can go on with. What the reader holds after some
tokens can always be completed, by an operand if one is missing and by closing parentheses; and a
token that the reader refuses is refused whatever follows. The one token that the reader takes in
before it knows whether it can stand there is a name at the start of a statement, and if the token
after it is refused, the error is about the name. -/

namespace StraightLine

theorem SyntaxError.PointsAt.pos_eq {error : SyntaxError} {token : Token} (h : error.PointsAt token) :
    token.pos = error.pos := by
  rcases h with ⟨expected, rfl⟩ | ⟨-, rfl⟩
  · rfl
  · rfl

namespace Source

open Outcome

theorem endToken_cons {stop : Nat} {token : Token} {tokens : List Token} (h : token.kind ≠ .eof) :
    endToken stop (token :: tokens) = endToken stop tokens := by
  simp [endToken, h]

namespace Reading

/-- The tokens lead the reader from the start of a program to a state, and complete statements on the
way. -/
inductive Reaches : List Token → List Stmt → Reading → Prop where
  | start : Reaches [] [] .nothing
  | next {tokens : List Token} {stmts : List Stmt} {reading after : Reading} {token : Token}
      {done : Option Stmt} (h : Reaches tokens stmts reading) (hstep : Step token reading after done) :
      Reaches (tokens ++ [token]) (stmts ++ done.toList) after

/-- Tokens that complete what has been read. -/
def completion : Reading → List Token
  | .nothing => []
  | .name _ => [⟨.equals, "=", 0⟩, ⟨.number, "0", 0⟩]
  | .operand _ _ outer => ⟨.number, "0", 0⟩ :: outer.map fun _ => ⟨.rightParen, ")", 0⟩
  | .operator _ _ outer _ => outer.map fun _ => ⟨.rightParen, ")", 0⟩

variable {tokens : List Token} {stmts : List Stmt} {reading after : Reading} {token : Token}
  {error : SyntaxError} {stop : Nat}

theorem Step.statements_eq_error {done : Option Stmt} {rest : List Token}
    (h : Step token reading after done)
    (herror : reading.statements stop (token :: rest) = .error error) :
    after.statements stop rest = .error error := by
  rw [h.statements_append] at herror
  cases hrest : after.statements stop rest with
  | ok others =>
      rw [hrest] at herror
      cases herror
  | error fault =>
      rw [hrest] at herror
      exact herror

/-- What is completed on the way stands in front of what the rest completes. -/
theorem Reaches.statements_append (h : Reaches tokens stmts reading) (rest : List Token) :
    Reading.nothing.statements stop (tokens ++ rest) =
      (stmts ++ ·) <$> reading.statements stop rest := by
  induction h generalizing rest with
  | start =>
      rw [List.nil_append]
      cases Reading.nothing.statements stop rest <;> rfl
  | @next tokens stmts reading after token done _ hstep ih =>
      rw [List.append_assoc, List.singleton_append, ih, hstep.statements_append]
      cases after.statements stop rest with
      | ok others => simp
      | error error => rfl

theorem statements_closing (stop : Nat) (head : Head) (level : Pending) (outer : List Pending)
    (last : Expr) :
    ∃ program, (Reading.operator head level outer last).statements stop
      (outer.map fun _ => ⟨.rightParen, ")", 0⟩) = .ok program := by
  induction outer generalizing level last with
  | nil => exact ⟨_, rfl⟩
  | cons around outer ih =>
      obtain ⟨program, hprogram⟩ := ih around (level.expr last)
      refine ⟨program, ?_⟩
      rw [List.map_cons, (Step.closing rfl).statements, hprogram]

theorem statements_completion (stop : Nat) (reading : Reading) :
    ∃ program, reading.statements stop reading.completion = .ok program := by
  have hzero : Numeral "0" 0 :=
    literal?_eq_some.mp (by decide)
  cases reading with
  | nothing => exact ⟨[], rfl⟩
  | name token =>
      refine ⟨[.assign token.text (.int 0)], ?_⟩
      rw [completion, (Step.equals rfl).statements, (Step.number rfl hzero).statements]
      rfl
  | operand head level outer =>
      obtain ⟨program, hprogram⟩ := statements_closing stop head level outer (.int 0)
      refine ⟨program, ?_⟩
      rw [completion, (Step.number rfl hzero).statements, hprogram]
  | operator head level outer last => exact statements_closing stop head level outer last

/-- What the reader has taken in can be the start of a program. -/
theorem Reaches.viable (h : Reaches tokens stmts reading) : Viable tokens := by
  obtain ⟨program, hprogram⟩ :=
    statements_completion (endOf (tokens ++ reading.completion)) reading
  refine ⟨reading.completion, stmts ++ program, ?_⟩
  rw [parse_eq_read, read, h.statements_append, hprogram]
  rfl

/-- With the token after them on which the reader fails, they cannot. -/
theorem Reaches.not_viable (h : Reaches tokens stmts reading)
    (hfails : reading.FailsOn token error) : ¬ Viable (tokens ++ [token]) := by
  rintro ⟨rest, program, hparse⟩
  rw [parse_eq_read, read, List.append_assoc, List.singleton_append, h.statements_append,
    hfails.statements] at hparse
  cases hparse

/-- Between statements the reader has just passed a newline, if anything. -/
theorem Reaches.newline_before (h : Reaches tokens stmts .nothing) :
    tokens = [] ∨ ∃ before newline, tokens = before ++ [newline] ∧ newline.kind = .newline := by
  cases h with
  | start => exact Or.inl rfl
  | next _ hstep =>
      cases hstep with
      | skip hkind => exact Or.inr ⟨_, _, rfl, hkind⟩
      | complete hkind => exact Or.inr ⟨_, _, rfl, hkind⟩

/-- A name waits for its equals sign right after it has been read between statements. -/
theorem Reaches.name_before {start : Token} (h : Reaches tokens stmts (.name start)) :
    start.kind = .identifier ∧ ∃ before stmts, tokens = before ++ [start] ∧
      Reaches before stmts .nothing := by
  cases h with
  | next hbefore hstep =>
      cases hstep with
      | name hkind => exact ⟨hkind, _, _, rfl, hbefore⟩

/-- An error of a step is about the token, or about the name in front of it. -/
theorem pointsAt_of_step (h : reading.step token = .error error) :
    error.PointsAt token ∨
      ∃ start, reading = .name start ∧ error.PointsAt start ∧ token.kind ≠ .equals := by
  cases reading with
  | nothing =>
      simp only [step] at h
      split at h
      all_goals cases h
      exact Or.inl (Or.inl ⟨_, rfl⟩)
  | name start =>
      simp only [step] at h
      split at h
      · cases h
      · cases h
        exact Or.inr ⟨start, rfl, Or.inl ⟨_, rfl⟩, ‹_›⟩
  | operand head level outer =>
      simp only [step] at h
      split at h
      · split at h
        · cases h
        · cases h
          exact Or.inl (Or.inr ⟨‹_›, rfl⟩)
      all_goals cases h
      exact Or.inl (Or.inl ⟨_, rfl⟩)
  | operator head level outer last =>
      simp only [step] at h
      split at h
      · cases h
      · cases h
      · cases h
      · cases h
      · split at h
        · cases h
        · cases h
          exact Or.inl (Or.inl ⟨_, by rw [‹token.kind = _›]⟩)
      · split at h
        · cases h
        · cases h
          exact Or.inl (Or.inl ⟨_, by rw [‹token.kind = _›]⟩)
      · cases h
        exact Or.inl (Or.inl ⟨_, rfl⟩)

theorem pointsAt_of_finish (hkind : token.kind = .eof)
    (h : reading.finish token.pos = .error error) :
    error.PointsAt token ∨ ∃ start, reading = .name start ∧ error.PointsAt start := by
  cases reading with
  | nothing => cases h
  | name start =>
      cases h
      exact Or.inr ⟨start, rfl, Or.inl ⟨_, rfl⟩⟩
  | operand head level outer =>
      cases h
      exact Or.inl (Or.inl ⟨_, by rw [hkind]⟩)
  | operator head level outer last =>
      cases outer with
      | nil => cases h
      | cons around outer =>
          cases h
          exact Or.inl (Or.inl ⟨_, by rw [hkind]⟩)

theorem FailsOn.pointsAt (h : reading.FailsOn token error) :
    error.PointsAt token ∨
      ∃ start, reading = .name start ∧ error.PointsAt start ∧ token.kind ≠ .equals := by
  unfold FailsOn at h
  split at h
  · rename_i hkind
    rcases pointsAt_of_finish hkind h with hpoints | ⟨start, hname, hpoints⟩
    · exact Or.inl hpoints
    · exact Or.inr ⟨start, hname, hpoints, by simp [hkind]⟩
  · exact pointsAt_of_step h

/-- Reading fails after some tokens, on the token after them. -/
theorem Reaches.exists_failsOn {before : List Token} (hbefore : Reaches before stmts reading)
    (h : reading.statements stop tokens = .error error) :
    ∃ passed token rest stmts reading,
      before ++ untilEof tokens ++ [endToken stop tokens] = passed ++ token :: rest ∧
      Reaches passed stmts reading ∧ reading.FailsOn token error := by
  induction tokens generalizing before stmts reading with
  | nil =>
      refine ⟨before, ⟨.eof, "", stop⟩, [], stmts, reading, by simp [untilEof, endToken], hbefore, ?_⟩
      exact h
  | cons token tokens ih =>
      by_cases hkind : token.kind = .eof
      · rw [statements_eof hkind] at h
        refine ⟨before, token, [], stmts, reading, ?_, hbefore, ?_⟩
        · simp [untilEof, endToken, hkind]
        · rw [FailsOn, if_pos hkind, h]
      · rw [untilEof_cons hkind, endToken_cons hkind]
        cases hstep : reading.step token with
        | error fault =>
            have hfails : reading.FailsOn token fault := by rwa [FailsOn, if_neg hkind]
            rw [hfails.statements] at h
            cases h
            exact ⟨before, token, untilEof tokens ++ [endToken stop tokens], stmts, reading,
              by simp, hbefore, hfails⟩
        | ok result =>
            obtain ⟨after, done⟩ := result
            have hread := step_of_eq_ok hstep
            obtain ⟨passed, failed, rest, others, state, hsplit, hpassed, hfails⟩ :=
              ih (hbefore.next hread) (hread.statements_eq_error h)
            refine ⟨passed, failed, rest, others, state, ?_, hpassed, hfails⟩
            rw [← hsplit]
            simp

end Reading

/-- An error points at a token of the input such that the tokens before it can be the start of a
program and with it they cannot. The exception is a name at the start of a statement that has no
equals sign after it: it could stand there, but not with the token after it. -/
theorem parse_error_first (tokens : List Token) (error : SyntaxError)
    (h : parse tokens = .error error) :
    ∃ i token, (throughEof tokens)[i]? = some token ∧ error.PointsAt token ∧
      Viable ((throughEof tokens).take i) ∧
      (¬ Viable ((throughEof tokens).take (i + 1)) ∨
        LoneName (throughEof tokens) i ∧ Viable ((throughEof tokens).take (i + 1)) ∧
          ¬ Viable ((throughEof tokens).take (i + 2))) := by
  obtain ⟨passed, token, rest, stmts, reading, hsplit, hpassed, hfails⟩ :=
    Reading.Reaches.start.exists_failsOn ((parse_eq_read tokens).symm.trans h)
  rw [List.nil_append] at hsplit
  have hnot := hpassed.not_viable hfails
  rcases hfails.pointsAt with hpoints | ⟨start, rfl, hpoints, hequals⟩
  · refine ⟨passed.length, token, ?_, hpoints, ?_, Or.inl ?_⟩
    · rw [throughEof, hsplit]
      simp
    · rw [throughEof, hsplit, List.take_left]
      exact hpassed.viable
    · rw [throughEof, hsplit, List.take_length_add_append]
      exact hnot
  · obtain ⟨hkind, before, done, rfl, hbefore⟩ := hpassed.name_before
    have hinput : throughEof tokens = before ++ start :: token :: rest := by
      rw [throughEof, hsplit]
      simp
    rw [hinput]
    refine ⟨before.length, start, by simp, hpoints, ?_, Or.inr ⟨⟨⟨start, by simp, hkind⟩, ?_,
      ⟨token, by simp, hequals⟩⟩, ?_, ?_⟩⟩
    · rw [List.take_left]
      exact hbefore.viable
    · rcases hbefore.newline_before with rfl | ⟨earlier, newline, rfl, hnewline⟩
      · exact Or.inl rfl
      · exact Or.inr ⟨newline, by simp, hnewline⟩
    · rw [List.take_length_add_append]
      exact hpassed.viable
    · rw [List.append_assoc] at hnot
      rw [List.take_length_add_append]
      exact hnot

/-- The tokens of `print (1` with a newline in the parentheses, and of a name on a second line that is
followed by another name. -/
theorem parse_error_first_cases :
    let unclosed : List Token :=
      [⟨.print, "print", 0⟩, ⟨.leftParen, "(", 6⟩, ⟨.number, "1", 7⟩, ⟨.newline, "\n", 8⟩]
    let named : List Token :=
      [⟨.print, "print", 0⟩, ⟨.number, "1", 6⟩, ⟨.newline, "\n", 7⟩, ⟨.identifier, "x", 8⟩,
        ⟨.identifier, "y", 10⟩, ⟨.eof, "", 11⟩, ⟨.equals, "=", 11⟩]
    (parse unclosed = .error (.unexpectedToken 8 .closingParen .newline) ∧
      Viable (unclosed.take 3) ∧ ¬ Viable unclosed) ∧
    parse named = .error (.unexpectedToken 8 .statement .identifier) ∧
      LoneName (throughEof named) 3 ∧ Viable (named.take 4) ∧ ¬ Viable (named.take 5) := by
  intro unclosed named
  have hunclosed : parse unclosed = .error (.unexpectedToken 8 .closingParen .newline) :=
    (parse_eq_read unclosed).trans rfl
  have hnamed : parse named = .error (.unexpectedToken 8 .statement .identifier) :=
    (parse_eq_read named).trans rfl
  refine ⟨⟨hunclosed, ?_⟩, hnamed, ?_⟩
  · obtain ⟨i, token, htoken, hpoints, hviable, hcase⟩ := parse_error_first unclosed _ hunclosed
    have hindex : ∀ i < 5, (throughEof unclosed)[i]?.map Token.pos = some 8 → i = 3 := by decide
    obtain ⟨hi, -⟩ := List.getElem?_eq_some_iff.mp htoken
    obtain rfl := hindex i hi (by rw [htoken, Option.map_some, hpoints.pos_eq]; rfl)
    rcases hcase with hnot | ⟨⟨⟨name, hname, hkind⟩, -, -⟩, -⟩
    · exact ⟨hviable, hnot⟩
    · cases hname
      cases hkind
  · obtain ⟨i, token, htoken, hpoints, hviable, hcase⟩ := parse_error_first named _ hnamed
    have hindex : ∀ i < 6, (throughEof named)[i]?.map Token.pos = some 8 → i = 3 := by decide
    obtain ⟨hi, -⟩ := List.getElem?_eq_some_iff.mp htoken
    obtain rfl := hindex i hi (by rw [htoken, Option.map_some, hpoints.pos_eq]; rfl)
    rcases hcase with hnot | hlone
    · exact absurd ⟨[⟨.equals, "=", 10⟩, ⟨.number, "1", 12⟩], _, (parse_eq_read _).trans rfl⟩ hnot
    · exact hlone

end Source

end StraightLine
