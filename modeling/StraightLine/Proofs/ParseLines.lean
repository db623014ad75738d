import Mathlib.Data.List.Forall2
import StraightLine.Proofs.ScanWords

/-! Programs are read line by line. Offsets do not matter where nothing goes wrong: the reader's
state holds none but that of a name that waits for its equals sign, and only the text of the name is
used. A newline takes the reader back to where it started exactly when the end of input would be
accepted in its place, so what stands behind a newline is read as if nothing stood before it. -/

namespace StraightLine.Source

open Outcome

/-- The program that a text spells, or the first fault. -/
def ofText (text : String) : Except SyntaxError Program := do
  parse (← scan text)

/-- What stands between the newlines of a text. -/
def linesOf (text : String) : List String :=
  (text.toList.splitOn '\n').map String.ofList

namespace Reading

/-- The two states differ in nothing but an offset. -/
inductive Alike : Reading → Reading → Prop where
  | refl (reading : Reading) : Alike reading reading
  | name {start start' : Token} (h : start.lexeme = start'.lexeme) :
      Alike (.name start) (.name start')

variable {token token' : Token} {tokens tokens' : List Token} {reading reading' after : Reading}
  {done : Option Stmt} {program : Program}

/-- A token at another offset is read as the token is. -/
theorem Step.alike (h : Step token reading after done) (hreading : Alike reading reading')
    (htoken : token.lexeme = token'.lexeme) :
    ∃ after', Alike after after' ∧ Step token' reading' after' done := by
  obtain ⟨hkind, htext⟩ : token.kind = token'.kind ∧ token.text = token'.text :=
    Prod.mk.inj htoken
  cases hreading with
  | refl _ =>
      cases h with
      | skip h => exact ⟨_, .refl _, .skip (hkind ▸ h)⟩
      | print h => exact ⟨_, .refl _, .print (hkind ▸ h)⟩
      | name h => exact ⟨_, .name htoken, .name (hkind ▸ h)⟩
      | equals h => exact ⟨_, .refl _, .equals (hkind ▸ h)⟩
      | number h hvalue => exact ⟨_, .refl _, .number (hkind ▸ h) (htext ▸ hvalue)⟩
      | identifier h =>
          rw [htext]
          exact ⟨_, .refl _, .identifier (hkind ▸ h)⟩
      | sign h => exact ⟨_, .refl _, .sign (hkind ▸ h)⟩
      | opening h => exact ⟨_, .refl _, .opening (hkind ▸ h)⟩
      | sum h => exact ⟨_, .refl _, .sum (hkind ▸ h)⟩
      | product h => exact ⟨_, .refl _, .product (hkind ▸ h)⟩
      | closing h => exact ⟨_, .refl _, .closing (hkind ▸ h)⟩
      | complete h => exact ⟨_, .refl _, .complete (hkind ▸ h)⟩
  | @name start start' hstart =>
      cases h with
      | equals h =>
          have hname : start.text = start'.text := congrArg Prod.snd hstart
          rw [hname]
          exact ⟨_, .refl _, .equals (hkind ▸ h)⟩

theorem Alike.finish_eq_ok {pos pos' : Nat} (h : Alike reading reading')
    (hfinish : reading.finish pos = .ok program) : reading'.finish pos' = .ok program := by
  cases h with
  | name _ => cases hfinish
  | refl _ =>
      cases reading with
      | nothing => exact hfinish
      | name start => cases hfinish
      | operand head level outer => cases hfinish
      | operator head level outer last =>
          cases outer with
          | nil => exact hfinish
          | cons around outer => cases hfinish

/-- Accepted tokens are accepted at other offsets. -/
theorem Alike.statements_eq_ok {stop stop' : Nat} (hreading : Alike reading reading')
    (htokens : tokens.map Token.lexeme = tokens'.map Token.lexeme)
    (h : reading.statements stop tokens = .ok program) :
    reading'.statements stop' tokens' = .ok program := by
  induction tokens generalizing reading reading' tokens' program with
  | nil =>
      obtain rfl := List.map_eq_nil_iff.mp htokens.symm
      exact hreading.finish_eq_ok h
  | cons token tokens ih =>
      obtain ⟨token', rest', rfl, htoken, hrest⟩ := List.map_eq_cons_iff.mp htokens.symm
      have hkind : token'.kind = token.kind := congrArg Prod.fst htoken
      by_cases heof : token.kind = .eof
      · rw [statements_eof heof] at h
        rw [statements_eof (hkind.trans heof)]
        exact hreading.finish_eq_ok h
      · obtain ⟨after, done, others, hstep, hothers, rfl⟩ := (statements_cons heof).mp h
        obtain ⟨after', hafter, hstep'⟩ := hstep.alike hreading htoken.symm
        exact (statements_cons hstep'.kind_ne.1).mpr
          ⟨after', done, others, hstep', ih hafter hrest.symm hothers, rfl⟩

/-- A newline completes what the end of input would complete. -/
theorem Step.of_newline (h : Step token reading after done) (hkind : token.kind = .newline)
    (pos : Nat) : after = .nothing ∧ reading.finish pos = .ok done.toList := by
  cases h with
  | skip _ => exact ⟨rfl, rfl⟩
  | complete _ => exact ⟨rfl, rfl⟩
  | sign h => simp [hkind, TokenKind.sign?] at h
  | sum h => simp [hkind, TokenKind.sum?] at h
  | product h => simp [hkind, TokenKind.product?] at h
  | print h | name h | equals h | number h | identifier h | opening h | closing h =>
      rw [hkind] at h
      cases h

/-- Where the end of input is accepted, a newline is. -/
theorem exists_step_newline {pos : Nat} (h : reading.finish pos = .ok program)
    (hkind : token.kind = .newline) :
    ∃ done, program = done.toList ∧ Step token reading .nothing done := by
  cases reading with
  | nothing =>
      cases h
      exact ⟨none, rfl, .skip hkind⟩
  | name start => cases h
  | operand head level outer => cases h
  | operator head level outer last =>
      cases outer with
      | nil =>
          cases h
          exact ⟨some _, rfl, .complete hkind⟩
      | cons around outer => cases h

/-- What stands behind a newline is read as if nothing stood before it. -/
theorem statements_newline {stop stop' : Nat} {first second : List Token} {newline : Token}
    (hfirst : ∀ token ∈ first, token.kind ≠ .eof) (hkind : newline.kind = .newline) :
    reading.statements stop (first ++ newline :: second) = .ok program ↔
      ∃ left right, reading.statements stop' first = .ok left ∧
        Reading.nothing.statements stop second = .ok right ∧ program = left ++ right := by
  induction first generalizing reading program with
  | nil =>
      have hne : newline.kind ≠ .eof := by simp [hkind]
      rw [List.nil_append, statements_cons hne]
      constructor
      · rintro ⟨after, done, others, hstep, hothers, rfl⟩
        obtain ⟨rfl, hfinish⟩ := hstep.of_newline hkind stop'
        exact ⟨done.toList, others, hfinish, hothers, rfl⟩
      · rintro ⟨left, right, hfinish, hright, rfl⟩
        obtain ⟨done, rfl, hstep⟩ := exists_step_newline hfinish hkind
        exact ⟨.nothing, done, right, hstep, hright, rfl⟩
  | cons token first ih =>
      obtain ⟨hne, hrest⟩ := List.forall_mem_cons.mp hfirst
      rw [List.cons_append, statements_cons hne]
      simp only [ih hrest, statements_cons hne]
      constructor
      · rintro ⟨after, done, others, hstep, ⟨left, right, hleft, hright, rfl⟩, rfl⟩
        exact ⟨done.toList ++ left, right, ⟨after, done, left, hstep, hleft, rfl⟩, hright,
          (List.append_assoc _ _ _).symm⟩
      · rintro ⟨_, right, ⟨after, done, left, hstep, hleft, rfl⟩, hright, rfl⟩
        exact ⟨after, done, left ++ right, hstep, ⟨left, right, hleft, hright, rfl⟩,
          List.append_assoc _ _ _⟩

end Reading

/-- Tokens spelled so are accepted as a program, at whatever offsets they stand. -/
def Accepts (words : List Lexeme) (program : Program) : Prop :=
  ∃ tokens, tokens.map Token.lexeme = words ∧ parse tokens = .ok program

theorem Accepts.parse_eq_ok {tokens : List Token} {program : Program}
    (h : Accepts (tokens.map Token.lexeme) program) : parse tokens = .ok program := by
  obtain ⟨others, hlexemes, hparse⟩ := h
  rw [parse_eq_read] at hparse ⊢
  exact (Reading.Alike.refl _).statements_eq_ok hlexemes hparse

theorem Accepts.newline_iff {left right : List Lexeme} {text : String} {program : Program}
    (hleft : ∀ word ∈ left, word.1 ≠ .eof) :
    Accepts (left ++ (.newline, text) :: right) program ↔
      ∃ first second, Accepts left first ∧ Accepts right second ∧ program = first ++ second := by
  constructor
  · rintro ⟨tokens, hlexemes, hparse⟩
    obtain ⟨before, rest, rfl, rfl, hrest⟩ := List.map_eq_append_iff.mp hlexemes
    obtain ⟨newline, after, rfl, hnewline, rfl⟩ := List.map_eq_cons_iff.mp hrest
    have hbefore : ∀ token ∈ before, token.kind ≠ .eof :=
      fun token htoken => hleft _ (List.mem_map_of_mem htoken)
    rw [parse_eq_read] at hparse
    obtain ⟨first, second, hfirst, hsecond, rfl⟩ :=
      (Reading.statements_newline hbefore (congrArg Prod.fst hnewline)).mp hparse
    refine ⟨first, second, ⟨before, rfl, (parse_eq_read before).trans hfirst⟩, ⟨after, rfl, ?_⟩, rfl⟩
    exact (parse_eq_read after).trans ((Reading.Alike.refl _).statements_eq_ok rfl hsecond)
  · rintro ⟨first, second, ⟨before, rfl, hfirst⟩, ⟨after, rfl, hsecond⟩, rfl⟩
    have hbefore : ∀ token ∈ before, token.kind ≠ .eof :=
      fun token htoken => hleft _ (List.mem_map_of_mem htoken)
    refine ⟨before ++ ⟨.newline, text, 0⟩ :: after, by simp [Token.lexeme], ?_⟩
    rw [parse_eq_read] at hfirst hsecond ⊢
    refine (Reading.statements_newline hbefore rfl).mpr ⟨first, second, hfirst, ?_, rfl⟩
    exact (Reading.Alike.refl _).statements_eq_ok rfl hsecond

theorem Accepts.length_le_one {words : List Lexeme} {program : Program} (h : Accepts words program)
    (hwords : ∀ word ∈ words, word.1 ≠ .newline) : program.length ≤ 1 := by
  obtain ⟨tokens, rfl, hparse⟩ := h
  have hnone : ∀ token ∈ untilEof tokens, token.kind ≠ .newline := by
    intro token htoken
    exact hwords _ (List.mem_map_of_mem ((List.takeWhile_sublist _).mem htoken))
  have hderives := Source.parse_eq_ok.mp hparse
  generalize untilEof tokens = derived at hnone hderives
  cases hderives with
  | intro _ hlines =>
      cases hlines with
      | done => exact Nat.zero_le 1
      | last _ => exact Nat.le_refl 1
      | @line _ newlines _ _ _ _ hne hnewlines _ =>
          -- a second line would need a newline in front of it
          obtain ⟨newline, hnewline⟩ := List.exists_mem_of_ne_nil newlines hne
          exact absurd (hnewlines newline hnewline) (hnone newline (by simp [hnewline]))

/-- The characters spell the program. -/
def Reads (chars : List Char) (program : Program) : Prop :=
  ∃ words, Yields chars words ∧ Accepts words program

theorem parse_append_eof {pos stop : Nat} {chars : List Char} {words : List Token}
    {program : Program} (h : Scans pos chars words stop []) :
    parse (words ++ [⟨.eof, "", stop⟩]) = .ok program ↔ parse words = .ok program := by
  have hwords : untilEof words = words :=
    untilEof_eq_self fun token htoken => (h.spells token htoken).1
  rw [parse_eq_ok, parse_eq_ok, untilEof_of_scans h, hwords]

theorem ofText_eq_ok {text : String} {program : Program} :
    ofText text = .ok program ↔ Reads text.toList program := by
  rw [ofText, bind_eq_ok]
  constructor
  · rintro ⟨tokens, hscan, hparse⟩
    obtain ⟨words, stop, hscans, rfl⟩ := scan_eq_ok.mp hscan
    exact ⟨_, hscans.yields, words, rfl, (parse_append_eof hscans).mp hparse⟩
  · rintro ⟨words, hyields, haccepts⟩
    obtain ⟨tokens, stop, hscans, rfl⟩ := hyields.scans 0
    exact ⟨_, scan_eq_ok.mpr ⟨tokens, stop, hscans, rfl⟩,
      (parse_append_eof hscans).mpr haccepts.parse_eq_ok⟩

namespace Reads

variable {first second line : List Char} {program : Program}

theorem newline_iff :
    Reads (first ++ '\n' :: second) program ↔
      ∃ left right, Reads first left ∧ Reads second right ∧ program = left ++ right := by
  constructor
  · rintro ⟨words, hyields, haccepts⟩
    obtain ⟨left, right, hleft, hright, rfl⟩ := Yields.append_newline_iff.mp hyields
    obtain ⟨firstPart, secondPart, hfirst, hsecond, rfl⟩ :=
      (Accepts.newline_iff hleft.kind_ne_eof).mp haccepts
    exact ⟨firstPart, secondPart, ⟨left, hleft, hfirst⟩, ⟨right, hright, hsecond⟩, rfl⟩
  · rintro ⟨firstPart, secondPart, ⟨left, hleft, hfirst⟩, ⟨right, hright, hsecond⟩, rfl⟩
    exact ⟨_, Yields.append_newline_iff.mpr ⟨left, right, hleft, hright, rfl⟩,
      (Accepts.newline_iff hleft.kind_ne_eof).mpr ⟨firstPart, secondPart, hfirst, hsecond, rfl⟩⟩

theorem length_le_one (h : Reads line program) (hline : '\n' ∉ line) : program.length ≤ 1 := by
  obtain ⟨words, hyields, haccepts⟩ := h
  exact haccepts.length_le_one (hyields.kind_ne_newline hline)

/-- Lines with newlines between them spell what the lines spell, one after another. -/
theorem intercalate_iff {lines : List (List Char)} (hne : lines ≠ []) :
    Reads (['\n'].intercalate lines) program ↔
      ∃ parts, List.Forall₂ Reads lines parts ∧ program = parts.flatten := by
  induction lines generalizing program with
  | nil => exact absurd rfl hne
  | cons line rest ih =>
      by_cases hrest : rest = []
      · subst hrest
        rw [List.intercalate_singleton]
        constructor
        · intro h
          exact ⟨[program], .cons h .nil, by simp⟩
        · rintro ⟨parts, hparts, rfl⟩
          cases hparts with
          | cons hpart hnone =>
              cases hnone
              simpa using hpart
      · have hlines : ['\n'].intercalate (line :: rest) =
            line ++ '\n' :: ['\n'].intercalate rest := by
          rw [List.intercalate_cons_of_ne_nil hrest]
          simp
        rw [hlines, newline_iff]
        constructor
        · rintro ⟨left, right, hleft, hright, rfl⟩
          obtain ⟨parts, hparts, rfl⟩ := (ih hrest).mp hright
          exact ⟨left :: parts, .cons hleft hparts, rfl⟩
        · rintro ⟨parts, hparts, rfl⟩
          cases hparts with
          | cons hpart hothers => exact ⟨_, _, hpart, (ih hrest).mpr ⟨_, hothers, rfl⟩, rfl⟩

end Reads

theorem newline_notMem_of_mem_splitOn {chars line : List Char} (h : line ∈ chars.splitOn '\n') :
    '\n' ∉ line := by
  induction chars generalizing line with
  | nil =>
      rw [List.splitOn_nil, List.mem_singleton] at h
      rw [h]
      exact List.not_mem_nil
  | cons c rest ih =>
      obtain ⟨head, tail, hsplit⟩ := List.exists_cons_of_ne_nil (List.splitOn_ne_nil '\n' rest)
      rw [List.splitOn_cons_eq_if_modifyHead, hsplit, List.modifyHead_cons] at h
      rw [hsplit] at ih
      split at h
      · rcases List.mem_cons.mp h with rfl | hline
        · exact List.not_mem_nil
        · exact ih hline
      · rename_i hc
        rcases List.mem_cons.mp h with rfl | hline
        · have hhead : '\n' ∉ head := ih List.mem_cons_self
          intro hmem
          rcases List.mem_cons.mp hmem with rfl | hmem
          · exact hc rfl
          · exact hhead hmem
        · exact ih (List.mem_cons_of_mem head hline)

theorem forall₂_linesOf {text : String} {parts : List Program} :
    List.Forall₂ (fun line part => ofText line = .ok part ∧ part.length ≤ 1) (linesOf text) parts ↔
      List.Forall₂ Reads (text.toList.splitOn '\n') parts := by
  rw [linesOf, List.forall₂_map_left_iff]
  simp only [ofText_eq_ok, String.toList_ofList]
  constructor
  · intro h
    exact h.imp fun line part hpart => hpart.1
  · intro h
    have hlines : ∀ line ∈ text.toList.splitOn '\n', '\n' ∉ line :=
      fun line hline => newline_notMem_of_mem_splitOn hline
    have hboth := (List.forall₂_and_left _ _).mpr ⟨hlines, h⟩
    exact hboth.imp fun line part ⟨hline, hpart⟩ => ⟨hpart, hpart.length_le_one hline⟩

/-- A text with a newline in it is a program if and only if what stands on either side of the newline
is one, and then it has the statements of the one and after them those of the other. So the program
of a text consists of what its lines spell, which is at most one statement each. -/
theorem ofText_lines :
    (∀ (first second : String) (program : Program),
      ofText (first ++ "\n" ++ second) = .ok program ↔
        ∃ left right, ofText first = .ok left ∧ ofText second = .ok right ∧
          program = left ++ right) ∧
    ∀ (text : String) (program : Program),
      ofText text = .ok program ↔
        ∃ parts, List.Forall₂ (fun line part => ofText line = .ok part ∧ part.length ≤ 1)
            (linesOf text) parts ∧
          program = parts.flatten := by
  constructor
  · intro first second program
    have hchars : (first ++ "\n" ++ second).toList = first.toList ++ '\n' :: second.toList := by
      simp
    simp only [ofText_eq_ok, hchars]
    exact Reads.newline_iff
  · intro text program
    have hlines : ['\n'].intercalate (text.toList.splitOn '\n') = text.toList :=
      List.intercalate_splitOn '\n'
    rw [ofText_eq_ok, ← hlines, Reads.intercalate_iff (List.splitOn_ne_nil _ _)]
    simp only [forall₂_linesOf]

end StraightLine.Source
