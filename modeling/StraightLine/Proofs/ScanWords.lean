import StraightLine.Token.Spacing
import StraightLine.Proofs.RenderParse

/-! What a text holds, whatever the offsets. A text can be cut wherever no name goes on: its tokens
are then those of the one part and those of the other. So a newline parts a text in two, and blanks
at an end do not count. -/

namespace StraightLine

open Outcome

/-- The characters consist of these tokens, and of blanks. -/
inductive Yields : List Char → List Lexeme → Prop where
  | done : Yields [] []
  | blank {c : Char} {chars : List Char} {words : List Lexeme} (hblank : isBlank c = true)
      (h : Yields chars words) : Yields (c :: chars) words
  | word {c : Char} {word chars : List Char} {kind : TokenKind} {words : List Lexeme}
      (hspells : kind.Spells (c :: word))
      (hafter : ∀ d, chars.head? = some d → kind.extendedBy d = false) (h : Yields chars words) :
      Yields (c :: word ++ chars) ((kind, String.ofList (c :: word)) :: words)

theorem Scans.yields {pos stop : Nat} {chars : List Char} {tokens : List Token}
    (h : Scans pos chars tokens stop []) : Yields chars (tokens.map Token.lexeme) := by
  generalize hrest : ([] : List Char) = rest at h
  induction h with
  | done pos rest =>
      subst hrest
      exact .done
  | blank hblank _ ih => exact .blank hblank (ih hrest)
  | token hspells hafter _ ih => exact .word hspells hafter (ih hrest)

/-- Offsets can be counted from anywhere. -/
theorem Yields.scans {chars : List Char} {words : List Lexeme} (h : Yields chars words) (pos : Nat) :
    ∃ tokens stop, Scans pos chars tokens stop [] ∧ tokens.map Token.lexeme = words := by
  induction h generalizing pos with
  | done => exact ⟨[], pos, .done pos [], rfl⟩
  | blank hblank _ ih =>
      obtain ⟨tokens, stop, hscans, hwords⟩ := ih (pos + _)
      exact ⟨tokens, stop, .blank hblank hscans, hwords⟩
  | word hspells hafter _ ih =>
      obtain ⟨tokens, stop, hscans, rfl⟩ := ih (pos + _)
      exact ⟨_, stop, .token hspells hafter hscans, rfl⟩

/-- The scanner finds what the characters consist of, and the end of input. -/
theorem scan_lexemes {text : String} {lexemes : List Lexeme} :
    (∃ tokens, scan text = .ok tokens ∧ tokens.map Token.lexeme = lexemes) ↔
      ∃ words, Yields text.toList words ∧ lexemes = words ++ [(.eof, "")] := by
  constructor
  · rintro ⟨tokens, hscan, rfl⟩
    obtain ⟨words, stop, hscans, rfl⟩ := scan_eq_ok.mp hscan
    exact ⟨_, hscans.yields, List.map_append⟩
  · rintro ⟨words, hyields, rfl⟩
    obtain ⟨tokens, stop, hscans, rfl⟩ := hyields.scans 0
    exact ⟨_, scan_eq_ok.mpr ⟨tokens, stop, hscans, rfl⟩, List.map_append⟩

theorem continuesName_eq_false_of_isBlank {c : Char} (hblank : isBlank c = true) :
    continuesName c = false := by
  rcases isBlank_iff.mp hblank with rfl | rfl | rfl
  · decide
  · decide
  · decide

/-- No token takes in a character that no name takes in. -/
theorem TokenKind.extendedBy_eq_false {d : Char} (h : continuesName d = false) (kind : TokenKind) :
    kind.extendedBy d = false := by
  have hdigit : d.isDigit = false := by
    by_contra hdigit
    rw [continuesName_of_isDigit (by simpa using hdigit)] at h
    cases h
  cases kind with
  | number => exact hdigit
  | identifier => exact h
  | print => exact h
  | _ => rfl

/-- Behind its first character a token has only such as a name goes on with. -/
theorem TokenKind.Spells.continuesName_of_mem {kind : TokenKind} {c d : Char} {word : List Char}
    (h : kind.Spells (c :: word)) (hd : d ∈ word) : continuesName d = true := by
  cases kind with
  | eof => cases h
  | number => exact continuesName_of_isDigit (h.2 d (List.mem_cons_of_mem c hd))
  | identifier => exact h.1.2 d hd
  | print => exact h.1.2 d hd
  | _ =>
      obtain ⟨mark, -, hword⟩ := h
      cases hword
      exact absurd hd List.not_mem_nil

/-- A token has no end in the middle of it. -/
theorem TokenKind.Spells.eq_nil_of_endsWord {kind : TokenKind} {c : Char}
    {word middle chars : List Char} (h : kind.Spells (c :: (word ++ middle)))
    (hends : EndsWord (middle ++ chars)) : middle = [] := by
  cases middle with
  | nil => rfl
  | cons d middle =>
      have hd := h.continuesName_of_mem (List.mem_append_right word List.mem_cons_self)
      rw [hends d rfl] at hd
      cases hd

theorem TokenKind.Spells.kind_ne {kind : TokenKind} {c : Char} {word : List Char}
    (h : kind.Spells (c :: word)) : kind ≠ .eof ∧ (kind = .newline → c = '\n') := by
  constructor
  · rintro rfl
    cases h
  · rintro rfl
    obtain ⟨mark, hmark, hword⟩ := h
    cases hmark
    exact (List.cons.inj hword).1

namespace Yields

variable {c : Char} {chars first second : List Char} {words more : List Lexeme}

theorem kind_ne_eof (h : Yields chars words) : ∀ word ∈ words, word.1 ≠ .eof := by
  induction h with
  | done => exact fun _ h => absurd h List.not_mem_nil
  | blank _ _ ih => exact ih
  | word hspells _ _ ih => exact List.forall_mem_cons.mpr ⟨hspells.kind_ne.1, ih⟩

theorem kind_ne_newline (h : Yields chars words) (hchars : '\n' ∉ chars) :
    ∀ word ∈ words, word.1 ≠ .newline := by
  induction h with
  | done => exact fun _ h => absurd h List.not_mem_nil
  | blank _ _ ih => exact ih fun hmem => hchars (List.mem_cons_of_mem _ hmem)
  | @word c word chars kind words hspells _ _ ih =>
      refine List.forall_mem_cons.mpr ⟨?_, ih fun hmem => hchars (List.mem_append_right _ hmem)⟩
      intro hkind
      rw [hspells.kind_ne.2 hkind] at hchars
      exact hchars List.mem_cons_self

theorem of_spells {word : List Char} {kind : TokenKind} (hspells : kind.Spells (c :: word)) :
    Yields (c :: word) [(kind, String.ofList (c :: word))] := by
  have hnone : ∀ d, ([] : List Char).head? = some d → kind.extendedBy d = false := by
    simp
  have halone := Yields.word hspells hnone .done
  rwa [List.append_nil] at halone

theorem append (hfirst : Yields first words) (hsecond : Yields second more)
    (hends : EndsWord second) : Yields (first ++ second) (words ++ more) := by
  induction hfirst with
  | done => exact hsecond
  | blank hblank _ ih => exact .blank hblank ih
  | @word c word chars kind words hspells hafter _ ih =>
      rw [List.append_assoc]
      refine .word hspells ?_ ih
      intro d hd
      cases chars with
      | nil => exact kind.extendedBy_eq_false (hends d hd)
      | cons next chars => exact hafter d hd

/-- A text can be cut where no name goes on. -/
theorem cut (h : Yields (first ++ second) words) (hends : EndsWord second) :
    ∃ left right, Yields first left ∧ Yields second right ∧ words = left ++ right := by
  generalize hchars : first ++ second = chars at h
  induction h generalizing first with
  | done =>
      obtain ⟨rfl, rfl⟩ := List.append_eq_nil_iff.mp hchars
      exact ⟨[], [], .done, .done, rfl⟩
  | @blank c chars words hblank h ih =>
      cases first with
      | nil =>
          rw [List.nil_append] at hchars
          subst hchars
          exact ⟨[], words, .done, .blank hblank h, rfl⟩
      | cons head first =>
          cases hchars
          obtain ⟨left, right, hleft, hright, rfl⟩ := ih rfl
          exact ⟨left, right, .blank hblank hleft, hright, rfl⟩
  | @word c word chars kind words hspells hafter h ih =>
      rcases List.append_eq_append_iff.mp hchars with ⟨middle, hword, rfl⟩ | ⟨middle, rfl, hrest⟩
      · cases first with
        | nil =>
            rw [List.nil_append] at hword
            subst hword
            exact ⟨[], _, .done, .word hspells hafter h, rfl⟩
        | cons head first =>
            rw [List.cons_append] at hword
            obtain ⟨rfl, rfl⟩ := List.cons.inj hword
            obtain rfl := hspells.eq_nil_of_endsWord hends
            rw [List.append_nil] at hspells ⊢
            exact ⟨_, words, of_spells hspells, h, rfl⟩
      · obtain ⟨left, right, hleft, hright, rfl⟩ := ih hrest.symm
        refine ⟨_, right, .word hspells ?_ hleft, hright, rfl⟩
        intro d hd
        cases middle with
        | nil => cases hd
        | cons next middle =>
            apply hafter d
            rw [hrest]
            exact hd

theorem append_iff (hends : EndsWord second) :
    Yields (first ++ second) words ↔
      ∃ left right, Yields first left ∧ Yields second right ∧ words = left ++ right := by
  constructor
  · intro h
    exact h.cut hends
  · rintro ⟨left, right, hleft, hright, rfl⟩
    exact hleft.append hright hends

theorem nil_iff : Yields [] words ↔ words = [] := by
  constructor
  · intro h
    generalize hchars : ([] : List Char) = chars at h
    cases h with
    | done => rfl
    | blank _ _ => cases hchars
    | word _ _ _ => cases hchars
  · rintro rfl
    exact .done

theorem blank_iff (hblank : isBlank c = true) : Yields (c :: chars) words ↔ Yields chars words := by
  constructor
  · intro h
    generalize hall : c :: chars = all at h
    cases h with
    | done => cases hall
    | blank _ h =>
        cases hall
        exact h
    | word hspells _ _ =>
        cases hall
        rw [hspells.isBlank_eq_false] at hblank
        cases hblank
  · exact .blank hblank

theorem append_blank_iff (hblank : isBlank c = true) :
    Yields (chars ++ [c]) words ↔ Yields chars words := by
  rw [append_iff (endsWord_cons (continuesName_eq_false_of_isBlank hblank) [])]
  simp only [blank_iff hblank, nil_iff]
  constructor
  · rintro ⟨left, right, hleft, rfl, rfl⟩
    rwa [List.append_nil]
  · intro h
    exact ⟨words, [], h, rfl, (List.append_nil words).symm⟩

theorem newline_iff :
    Yields ('\n' :: chars) words ↔
      ∃ rest, Yields chars rest ∧ words = (.newline, "\n") :: rest := by
  have hmark : TokenKind.newline.mark? = some '\n' := rfl
  constructor
  · intro h
    generalize hall : '\n' :: chars = all at h
    cases h with
    | done => cases hall
    | blank hblank _ =>
        cases hall
        cases hblank
    | @word c word rest kind words hspells hafter h =>
        -- only one token can start with a newline
        obtain ⟨rfl, rfl⟩ := List.cons.inj hall
        have hlongest := munch?_of_spells hspells hafter
        rw [munch?_mark hmark] at hlongest
        cases hlongest
        exact ⟨words, h, rfl⟩
  · rintro ⟨rest, h, rfl⟩
    obtain ⟨hspells, hafter⟩ := TokenKind.spells_mark hmark
    exact .word hspells (fun d _ => hafter d) h

/-- A newline parts a text in two. -/
theorem append_newline_iff :
    Yields (first ++ '\n' :: second) words ↔
      ∃ left right, Yields first left ∧ Yields second right ∧
        words = left ++ (.newline, "\n") :: right := by
  have hends : EndsWord ('\n' :: second) := endsWord_cons (by decide) second
  rw [append_iff hends]
  simp only [newline_iff]
  constructor
  · rintro ⟨left, right, hleft, ⟨rest, hrest, rfl⟩, rfl⟩
    exact ⟨left, rest, hleft, hrest, rfl⟩
  · rintro ⟨left, right, hleft, hright, rfl⟩
    exact ⟨left, _, hleft, ⟨right, hright, rfl⟩, rfl⟩

end Yields

end StraightLine
