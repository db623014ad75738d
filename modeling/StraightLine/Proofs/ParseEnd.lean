import StraightLine.Proofs.ParseFaults

/-! Parsing ends at the first end of input. The parser could go on to the last token, and looks one
token ahead of a name; but it leaves no token that it has not found to be something else than an end
of input, so it never stands behind the first one. What comes after that makes no difference, since
the reader, which makes the same of any tokens, has no use for it, and where there is no end of
input, the parser puts one after the last token. -/

namespace StraightLine.Source

open Outcome

namespace Cursor

variable {cursor after : Cursor}

theorem tokens_advance (cursor : Cursor) : cursor.advance.tokens = cursor.tokens := by
  unfold advance
  split <;> rfl

theorem Ahead.tokens_eq (h : cursor.Ahead after) : after.tokens = cursor.tokens := by
  induction h with
  | next _ => exact tokens_advance _
  | trans _ _ ih ih' => exact ih'.trans ih

/-- Wherever the tokens have an end of input, the parser does not get past it. -/
theorem Ahead.pos_le (h : cursor.Ahead after) {i : Nat} {token : Token}
    (htoken : cursor.tokens[i]? = some token) (hkind : token.kind = .eof) (hpos : cursor.pos ≤ i) :
    after.pos ≤ i := by
  induction h with
  | @next cursor hne =>
      have hother : cursor.pos ≠ i := by
        rintro rfl
        rw [peek_eq] at htoken
        cases htoken
        exact hne hkind
      rw [advance, dif_pos (pos_lt_last hne)]
      exact Nat.lt_of_le_of_ne hpos hother
  | trans hfirst _ ih ih' => exact ih' (hfirst.tokens_eq ▸ htoken) (ih htoken hpos)

/-- The statements of a program end at an end of input, which is not behind another. -/
theorem stop_of_statements {program : Program} {stop : Cursor}
    (h : cursor.statements = .ok (program, stop)) :
    stop.peek.kind = .eof ∧ (stop = cursor ∨ cursor.Ahead stop) := by
  induction cursor using induction_left generalizing program with
  | ind cursor ih =>
      rw [statements] at h
      split at h
      · rename_i heof
        cases h
        exact ⟨heof, Or.inl rfl⟩
      · obtain ⟨first, -, h⟩ := bind_eq_ok.mp h
        obtain ⟨⟨others, last⟩, hothers, h⟩ := bind_eq_ok.mp h
        cases h
        obtain ⟨heof, hahead⟩ := ih _ first.ahead.left_lt hothers
        refine ⟨heof, Or.inr ?_⟩
        rcases hahead with rfl | hahead
        · exact first.ahead
        · exact first.ahead.trans hahead

theorem stop_of_program {program : Program} {stop : Cursor}
    (h : cursor.program = .ok (program, stop)) :
    stop.peek.kind = .eof ∧ (stop = cursor ∨ cursor.Ahead stop) := by
  obtain ⟨heof, hstop⟩ := stop_of_statements h
  refine ⟨heof, ?_⟩
  rcases skipNewlines_eq_or_ahead cursor with hsame | hskipped
  · rwa [hsame] at hstop
  · rcases hstop with rfl | hahead
    · exact Or.inr hskipped
    · exact Or.inr (hskipped.trans hahead)

end Cursor

namespace Reading

/-- The reader looks at the tokens up to the end of input and at nothing else. -/
theorem statements_throughEof (reading : Reading) (stop stop' : Nat) (tokens : List Token) :
    reading.statements stop' (untilEof tokens ++ [endToken stop tokens]) =
      reading.statements stop tokens := by
  induction tokens generalizing reading with
  | nil => rfl
  | cons token tokens ih =>
      by_cases hkind : token.kind = .eof
      · rw [statements_eof hkind]
        simp [untilEof, endToken, hkind, statements_eof]
      · rw [untilEof_cons hkind, endToken_cons hkind, List.cons_append, statements, statements,
          if_neg hkind, if_neg hkind]
        simp only [ih]

end Reading

theorem parse_throughEof (tokens : List Token) : parse (throughEof tokens) = parse tokens := by
  rw [parse_eq_read, parse_eq_read, read, read, throughEof, Reading.statements_throughEof]

theorem find?_eof_eq_none {tokens : List Token} (h : ∀ token ∈ tokens, token.kind ≠ .eof) :
    tokens.find? (·.kind = .eof) = none := by
  simpa using h

theorem throughEof_append {tokens rest : List Token} {last : Token}
    (htokens : ∀ token ∈ tokens, token.kind ≠ .eof) (hlast : last.kind = .eof) :
    throughEof (tokens ++ last :: rest) = tokens ++ [last] := by
  rw [throughEof, untilEof_append htokens, untilEof_eof hlast, List.append_nil, endToken,
    List.find?_append, find?_eof_eq_none htokens]
  simp [hlast]

/-- Tokens without an end of input are given one behind the last of them. -/
theorem Cursor.start_append_eof {tokens : List Token}
    (htokens : ∀ token ∈ tokens, token.kind ≠ .eof) :
    Cursor.start (tokens ++ [⟨.eof, "", endOf tokens⟩]) = Cursor.start tokens := by
  have hlast : tokens.getLast?.map Token.kind ≠ some .eof := by
    intro h
    obtain ⟨token, htoken, hkind⟩ := Option.map_eq_some_iff.mp h
    exact htokens token (List.mem_of_getLast? htoken) hkind
  simp [Cursor.start, Cursor.terminated, hlast]

theorem Cursor.getElem?_start {tokens : List Token} {i : Nat} (h : i < tokens.length) :
    (Cursor.start tokens).tokens[i]? = tokens[i]? := by
  simp only [Cursor.start, List.getElem?_toArray, Cursor.terminated]
  split
  · rfl
  · exact List.getElem?_append_left h

/-- The parser never gets past the first end of input. What stands behind it makes no difference to
the program or the error; tokens without one are parsed as if it followed the last of them; whatever
is parsed from a place before it, the cursor does not come out behind it, and behind a whole program
it stands there. -/
theorem parse_firstEof (tokens : List Token) (last : Token) (rest : List Token)
    (htokens : ∀ token ∈ tokens, token.kind ≠ .eof) (hlast : last.kind = .eof) :
    parse (tokens ++ last :: rest) = parse (tokens ++ [last]) ∧
      parse tokens = parse (tokens ++ [⟨.eof, "", endOf tokens⟩]) ∧
      (∀ (cursor : Cursor) (α : Type) (parsed : cursor.Parsed α),
        cursor.tokens = (Cursor.start (tokens ++ last :: rest)).tokens →
        cursor.pos ≤ tokens.length → parsed.cursor.pos ≤ tokens.length) ∧
      ∀ program stop, (Cursor.start (tokens ++ last :: rest)).program = .ok (program, stop) →
        stop.pos = tokens.length := by
  have hfirst : (Cursor.start (tokens ++ last :: rest)).tokens[tokens.length]? = some last := by
    rw [Cursor.getElem?_start (by simp)]
    simp
  refine ⟨?_, ?_, ?_, ?_⟩
  · rw [← parse_throughEof, throughEof_append htokens hlast]
  · rw [parse, parse, Cursor.start_append_eof htokens]
  · intro cursor α parsed hsame hpos
    exact parsed.ahead.pos_le (hsame ▸ hfirst) hlast hpos
  · intro program stop h
    obtain ⟨heof, hstop⟩ := Cursor.stop_of_program h
    have hreached : stop.tokens = (Cursor.start (tokens ++ last :: rest)).tokens ∧
        stop.pos ≤ tokens.length := by
      rcases hstop with rfl | hahead
      · exact ⟨rfl, Nat.zero_le _⟩
      · exact ⟨hahead.tokens_eq, hahead.pos_le hfirst hlast (Nat.zero_le _)⟩
    obtain ⟨hsame, hpos⟩ := hreached
    -- before the first end of input the cursor cannot stand at one
    refine Nat.le_antisymm hpos (Nat.le_of_not_lt fun hbefore => ?_)
    have hpeek := stop.peek_eq
    rw [hsame, Cursor.getElem?_start (by simp; omega), List.getElem?_append_left hbefore] at hpeek
    exact htokens _ (List.mem_of_getElem? hpeek) heof

/-- A parenthesis that is closed behind the end of input only, with and without one, and a name whose
equals sign comes too late. -/
theorem parse_firstEof_unclosed :
    let unclosed : List Token := [⟨.print, "print", 0⟩, ⟨.leftParen, "(", 6⟩, ⟨.number, "1", 7⟩]
    let named : List Token := [⟨.identifier, "x", 3⟩]
    parse (unclosed ++ [⟨.eof, "", 9⟩, ⟨.rightParen, ")", 9⟩]) =
        .error (.unexpectedToken 9 .closingParen .eof) ∧
      parse unclosed = .error (.unexpectedToken 8 .closingParen .eof) ∧
      parse (named ++ [⟨.eof, "end", 4⟩, ⟨.equals, "=", 5⟩, ⟨.number, "1", 6⟩]) =
        .error (.unexpectedToken 3 .statement .identifier) := by
  intro unclosed named
  obtain ⟨hunclosed, hmissing, -⟩ := parse_firstEof unclosed ⟨.eof, "", 9⟩ [⟨.rightParen, ")", 9⟩]
    (by decide) rfl
  obtain ⟨hnamed, -⟩ := parse_firstEof named ⟨.eof, "end", 4⟩
    [⟨.equals, "=", 5⟩, ⟨.number, "1", 6⟩] (by decide) rfl
  simp only [hunclosed, hmissing, hnamed, parse_eq_read]
  exact ⟨rfl, rfl, rfl⟩

end StraightLine.Source
