import StraightLine.Proofs.Compilation
import StraightLine.Proofs.ParseLines

/-! Blanks only separate. What a text consists of decides everything that is made of it but offsets,
and the blanks between tokens change it only where they keep apart what would be one token. -/

namespace StraightLine

open Outcome

/-- Either text can stand for the other: they have the same tokens up to offsets, or none of them
can be scanned; they have the same bound program, or none has one; and if they have one, they are
compiled with the same outcome. -/
structure Interchangeable (text again : String) : Prop where
  words : ∀ lexemes, (∃ tokens, scan text = .ok tokens ∧ tokens.map Token.lexeme = lexemes) ↔
    ∃ tokens, scan again = .ok tokens ∧ tokens.map Token.lexeme = lexemes
  bound : ∀ program, (analyze text).outcome = .ok program ↔ (analyze again).outcome = .ok program
  compiled : ∀ program options, (analyze text).outcome = .ok program →
    (compile options text).outcome = (compile options again).outcome

theorem analyze_eq_ok_ofText {text : String} {bound : Bound.Program} :
    (analyze text).outcome = .ok bound ↔
      ∃ program, Source.ofText text = .ok program ∧ bound = Source.bind program := by
  rw [analyze_eq_ok]
  simp only [Source.ofText, bind_eq_ok]
  constructor
  · rintro ⟨tokens, program, hscan, hparse, rfl⟩
    exact ⟨program, ⟨tokens, hscan, hparse⟩, rfl⟩
  · rintro ⟨program, ⟨tokens, hscan, hparse⟩, rfl⟩
    exact ⟨tokens, program, hscan, hparse, rfl⟩

theorem Interchangeable.of_yields {text again : String}
    (h : ∀ words, Yields text.toList words ↔ Yields again.toList words) :
    Interchangeable text again := by
  have hbound : ∀ program,
      (analyze text).outcome = .ok program ↔ (analyze again).outcome = .ok program := by
    intro program
    simp only [analyze_eq_ok_ofText, Source.ofText_eq_ok, Source.Reads, h]
  refine ⟨?_, hbound, ?_⟩
  · intro lexemes
    simp only [scan_lexemes, h]
  · intro program options hprogram
    rw [outcome_compile_of_bound _ hprogram,
      outcome_compile_of_bound _ ((hbound program).mp hprogram)]

/-- What begins with a character that a name goes on with is a number, or it is a name or `print`
and does not begin with a digit. -/
theorem TokenKind.Spells.kind_of_continuesName {kind : TokenKind} {d : Char} {word : List Char}
    (h : kind.Spells (d :: word)) (hd : continuesName d = true) :
    kind = .number ∨ d.isDigit = false ∧ (kind = .identifier ∨ kind = .print) := by
  have hname (hname : IsName (d :: word)) : d.isDigit = false := by
    by_contra hdigit
    have hstart := startsName_eq_false_of_isDigit (by simpa using hdigit)
    rw [hname.1] at hstart
    cases hstart
  cases kind with
  | eof => cases h
  | number => exact .inl rfl
  | identifier => exact .inr ⟨hname h.1, .inl rfl⟩
  | print => exact .inr ⟨hname h.1, .inr rfl⟩
  | _ =>
      obtain ⟨mark, hmark, hword⟩ := h
      cases hword
      cases hmark
      exact absurd hd (by decide)

/-- A token takes in the start of the next one only if the two kinds are to be kept apart. -/
theorem TokenKind.runsInto_of_extendedBy {first second : TokenKind} {d : Char} {word : List Char}
    (hspells : second.Spells (d :: word)) (hd : first.extendedBy d = true) :
    first.runsInto second = true := by
  have hcontinues : continuesName d = true := by
    by_contra hends
    rw [first.extendedBy_eq_false (by simpa using hends)] at hd
    cases hd
  have hsecond := hspells.kind_of_continuesName hcontinues
  cases first with
  | number =>
      rcases hsecond with rfl | ⟨hdigit, -⟩
      · rfl
      · exact absurd (hdigit.symm.trans hd) (by decide)
  | identifier | print => rcases hsecond with rfl | ⟨-, rfl | rfl⟩ <;> rfl
  | _ => cases hd

namespace Yields

variable {chars gap : List Char} {words others : List Lexeme}

theorem append_left_iff (hgap : ∀ c ∈ gap, isBlank c = true) :
    Yields (gap ++ chars) words ↔ Yields chars words := by
  induction gap with
  | nil => rfl
  | cons c gap ih =>
      obtain ⟨hc, hrest⟩ := List.forall_mem_cons.mp hgap
      rw [List.cons_append, blank_iff hc, ih hrest]

theorem unique (h : Yields chars words) (hothers : Yields chars others) : words = others := by
  have hchars : (String.ofList chars).toList = chars := String.toList_ofList
  rw [← hchars] at h hothers
  obtain ⟨tokens, hscan, htokens⟩ := scan_lexemes.mpr ⟨words, h, rfl⟩
  obtain ⟨tokens', hscan', htokens'⟩ := scan_lexemes.mpr ⟨others, hothers, rfl⟩
  rw [hscan] at hscan'
  cases hscan'
  exact List.append_cancel_right (htokens.symm.trans htokens')

/-- A carriage return in front of a newline does not count. -/
theorem append_returned_iff {before : List Char} :
    Yields (before ++ returned chars) words ↔ Yields (before ++ chars) words := by
  induction chars generalizing before words with
  | nil => rfl
  | cons c chars ih =>
      by_cases hc : c = '\n'
      · subst hc
        have hchars : before ++ returned ('\n' :: chars) =
            (before ++ ['\r']) ++ '\n' :: returned chars := by
          simp [returned]
        have hrest : ∀ right, Yields (returned chars) right ↔ Yields chars right := by
          intro right
          rw [← List.nil_append (returned chars), ih, List.nil_append]
        rw [hchars, append_newline_iff, append_newline_iff]
        simp only [append_blank_iff (c := '\r') rfl, hrest]
      · -- a token may reach over the character, so it joins what stands before
        have hchars : before ++ returned (c :: chars) = (before ++ [c]) ++ returned chars := by
          simp [returned, hc]
        rw [hchars, ih, List.append_assoc, List.singleton_append]

end Yields

theorem TokenKind.Spells.exists_cons {kind : TokenKind} {word : List Char} (h : kind.Spells word)
    (hkind : kind ≠ .eof) : ∃ c rest, word = c :: rest := by
  apply List.exists_cons_of_ne_nil
  rintro rfl
  cases kind with
  | eof => exact hkind rfl
  | number => exact h.1 rfl
  | identifier | print => exact h.1
  | _ =>
      obtain ⟨mark, -, hword⟩ := h
      cases hword

theorem toList_spaced_cons (gaps : Nat → String) (token : Token) (rest : List Token) :
    (spaced gaps (token :: rest)).toList =
      (gaps 0).toList ++ (token.text.toList ++ (spaced (fun i => gaps (i + 1)) rest).toList) := by
  simp [spaced]

namespace FitsAround

variable {gaps : Nat → String} {token : Token} {tokens words : List Token} {stop : Nat}

theorem tail (h : FitsAround gaps (token :: tokens)) :
    FitsAround (fun i => gaps (i + 1)) tokens where
  blank i hi := h.blank (i + 1) (Nat.succ_le_succ hi)
  apart i first second hfirst hsecond := h.apart (i + 1) first second hfirst hsecond

theorem blank_zero (h : FitsAround gaps tokens) : ∀ c ∈ (gaps 0).toList, isBlank c = true :=
  h.blank 0 (Nat.zero_le _)

/-- A token does not take in the character after it, which is a blank or belongs to a token that it
need not be kept apart from. -/
theorem extendedBy_eq_false {d : Char}
    (h : FitsAround gaps (token :: (words ++ [⟨.eof, "", stop⟩])))
    (hwords : ∀ word ∈ words, word.kind ≠ .eof ∧ word.kind.Spells word.text.toList)
    (hd : (spaced (fun i => gaps (i + 1)) (words ++ [⟨.eof, "", stop⟩])).toList.head? = some d) :
    token.kind.extendedBy d = false := by
  have hblank : isBlank d = true → token.kind.extendedBy d = false :=
    fun hblank => token.kind.extendedBy_eq_false (continuesName_eq_false_of_isBlank hblank)
  by_cases hgap : gaps 1 = ""
  · cases words with
    | nil =>
        rw [List.nil_append, toList_spaced_cons] at hd
        have hmem : d ∈ (gaps 2).toList := List.mem_of_head? (by simpa [hgap, spaced] using hd)
        exact hblank (h.tail.tail.blank_zero d hmem)
    | cons next words =>
        obtain ⟨hkind, hspells⟩ := hwords next List.mem_cons_self
        obtain ⟨c, word, hnext⟩ := hspells.exists_cons hkind
        rw [List.cons_append, toList_spaced_cons, hgap, hnext] at hd
        cases hd
        rw [hnext] at hspells
        by_contra hextended
        have hruns := TokenKind.runsInto_of_extendedBy hspells (by simpa using hextended)
        exact h.apart 0 token next rfl rfl hruns hgap
  · obtain ⟨c, gap, hchars⟩ := exists_toList_eq_cons hgap
    have hhead : (spaced (fun i => gaps (i + 1)) (words ++ [⟨.eof, "", stop⟩])).toList.head? =
        some c := by
      cases words <;> simp [toList_spaced_cons, hchars]
    cases hhead.symm.trans hd
    exact hblank (h.tail.blank_zero d (by simp [hchars]))

theorem yields (h : FitsAround gaps (words ++ [⟨.eof, "", stop⟩]))
    (hwords : ∀ word ∈ words, word.kind ≠ .eof ∧ word.kind.Spells word.text.toList) :
    Yields (spaced gaps (words ++ [⟨.eof, "", stop⟩])).toList (words.map Token.lexeme) := by
  induction words generalizing gaps with
  | nil =>
      rw [List.nil_append, toList_spaced_cons, Yields.append_left_iff h.blank_zero]
      have hlast : Yields ((gaps 1).toList ++ []) [] :=
        (Yields.append_left_iff h.tail.blank_zero).mpr .done
      rwa [List.append_nil] at hlast
  | cons word words ih =>
      obtain ⟨⟨hkind, hspells⟩, hrest⟩ := List.forall_mem_cons.mp hwords
      rw [List.cons_append] at h ⊢
      rw [toList_spaced_cons, Yields.append_left_iff h.blank_zero]
      have hafter := fun d hd => h.extendedBy_eq_false (d := d) hrest hd
      obtain ⟨c, chars, htext⟩ := hspells.exists_cons hkind
      have hlexeme : word.lexeme = (word.kind, String.ofList (c :: chars)) := by
        rw [← htext, String.ofList_toList]
        rfl
      rw [List.map_cons, hlexeme, htext]
      rw [htext] at hspells
      exact .word hspells hafter (ih h.tail hrest)

end FitsAround

/-- Blanks only separate. The texts of a text's tokens can be put together again with any blanks
before, between and after them, and with none except between two tokens that would become one: the
new text has the same tokens up to offsets and can stand for the old one. So can a text with a
carriage return in front of every newline. -/
theorem spaced_interchangeable :
    (∀ (text : String) (tokens : List Token) (gaps : Nat → String),
      scan text = .ok tokens → FitsAround gaps tokens →
      (∃ again, scan (spaced gaps tokens) = .ok again ∧
        again.map Token.lexeme = tokens.map Token.lexeme) ∧
      Interchangeable text (spaced gaps tokens)) ∧
    ∀ text : String, Interchangeable text (String.ofList (returned text.toList)) := by
  constructor
  · intro text tokens gaps hscan hfits
    obtain ⟨words, stop, hscans, rfl⟩ := scan_eq_ok.mp hscan
    have hspaced := hfits.yields hscans.spells
    have hsame : Interchangeable text (spaced gaps (words ++ [⟨.eof, "", stop⟩])) := by
      apply Interchangeable.of_yields
      intro others
      constructor
      · intro h
        rwa [h.unique hscans.yields]
      · intro h
        rw [h.unique hspaced]
        exact hscans.yields
    exact ⟨(hsame.words _).mp ⟨_, hscan, rfl⟩, hsame⟩
  · intro text
    apply Interchangeable.of_yields
    intro words
    rw [String.toList_ofList, ← List.nil_append (returned _), Yields.append_returned_iff,
      List.nil_append]

theorem spaced_interchangeable_division :
    (∃ again, scan "\tz= 0\n\rprint\t\t7\nprint 1/z\r" = .ok again ∧
      again.map Token.lexeme =
        [(.identifier, "z"), (.equals, "="), (.number, "0"), (.newline, "\n"), (.print, "print"),
          (.number, "7"), (.newline, "\n"), (.print, "print"), (.number, "1"), (.slash, "/"),
          (.identifier, "z"), (.eof, "")]) ∧
    Interchangeable "z=0\nprint 7\nprint 1/z" "\tz= 0\n\rprint\t\t7\nprint 1/z\r" ∧
    Interchangeable "z=0\nprint 7\nprint 1/z" "z=0\r\nprint 7\r\nprint 1/z" := by
  let gaps : Nat → String :=
    fun i => ["\t", "", " ", "", "\r", "\t\t", "", "", " ", "", "", "\r"].getD i ""
  obtain ⟨hscan, hsame⟩ := spaced_interchangeable.1 _ _ gaps scan_division (by decide +kernel)
  exact ⟨hscan, hsame, spaced_interchangeable.2 "z=0\nprint 7\nprint 1/z"⟩

end StraightLine
