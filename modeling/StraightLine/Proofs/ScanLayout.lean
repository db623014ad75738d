import Mathlib.Data.List.Basic
import StraightLine.Proofs.ScanSteps

/-! The tokens of a text are the only ones that can be laid out in it. A layout is taken apart from
the left: its first character is a blank that lies in no token, or the first token begins there and
is the longest one. These are the two steps of the scanner, so a text has at most one layout, and
the scanner finds it if there is one. -/

namespace StraightLine

namespace Token

variable {pos : Nat} {c : Char} {chars word : List Char} {token : Token}

theorem stop_eq (token : Token) : token.stop = token.pos + byteLength token.text.toList := by
  rw [byteLength_toList]
  rfl

theorem Placed.le_pos (h : token.Placed pos chars) : pos ≤ token.pos := by
  obtain ⟨before, after, -, hpos, -⟩ := h
  omega

theorem Placed.pos_lt_stop (h : token.Placed pos chars) : token.pos < token.stop := by
  obtain ⟨before, after, -, -, htext, -⟩ := h
  obtain ⟨c, word, hword⟩ := exists_toList_eq_cons htext
  have hpositive := byteLength_pos (List.cons_ne_nil c word)
  rw [stop_eq, hword]
  omega

theorem not_placed_nil : ¬ token.Placed pos [] := by
  rintro ⟨before, after, hchars, -, htext, -⟩
  obtain ⟨c, word, hword⟩ := exists_toList_eq_cons htext
  rw [hword] at hchars
  simp at hchars

/-- A token stays in place when characters are put in front. -/
theorem Placed.prepend (h : token.Placed (pos + byteLength word) chars) :
    token.Placed pos (word ++ chars) := by
  obtain ⟨before, after, rfl, hpos, hrest⟩ := h
  refine ⟨word ++ before, after, by simp, ?_, hrest⟩
  rw [byteLength_append]
  omega

/-- A token stays in place when characters in front of it are taken away. -/
theorem Placed.drop (h : token.Placed pos (word ++ chars))
    (hpos : pos + byteLength word ≤ token.pos) : token.Placed (pos + byteLength word) chars := by
  obtain ⟨before, after, hchars, hbefore, hrest⟩ := h
  rw [List.append_assoc] at hchars
  rcases List.append_eq_append_iff.mp hchars with ⟨middle, rfl, hmiddle⟩ | ⟨middle, rfl, hmiddle⟩
  · rw [byteLength_append] at hbefore
    exact ⟨middle, after, by rw [hmiddle, List.append_assoc], by omega, hrest⟩
  · -- the token begins where the characters taken away end
    have hnil : middle = [] := by
      by_contra hne
      have hpositive := byteLength_pos hne
      rw [byteLength_append] at hpos
      omega
    subst hnil
    rw [List.append_nil]
    exact ⟨[], after, by simpa using hmiddle.symm, by simpa [byteLength_nil] using hbefore, hrest⟩

/-- A token at the start is cut out of the start. -/
theorem Placed.split (h : token.Placed pos (c :: chars)) (hpos : token.pos = pos) :
    ∃ word after, chars = word ++ after ∧ token.text = String.ofList (c :: word) ∧
      token.kind.Spells (c :: word) ∧
      ∀ d, after.head? = some d → token.kind.extendedBy d = false := by
  obtain ⟨before, after, hchars, hbefore, htext, hspells, hafter⟩ := h
  have hnil : before = [] := by
    by_contra hne
    have hpositive := byteLength_pos hne
    omega
  obtain ⟨first, word, hword⟩ := exists_toList_eq_cons htext
  rw [hnil, hword] at hchars
  rw [hword] at hspells
  cases hchars
  refine ⟨word, after, rfl, ?_, hspells, hafter⟩
  rw [← hword, String.ofList_toList]

end Token

namespace Layout

variable {pos : Nat} {c : Char} {word chars : List Char} {kind : TokenKind} {tokens : List Token}

theorem nil (pos : Nat) : Layout pos [] [] where
  kinds _ h := absurd h List.not_mem_nil
  placed _ h := absurd h List.not_mem_nil
  ordered := .nil
  blanks before c after h := by simp at h

theorem eq_nil (h : Layout pos [] tokens) : tokens = [] := by
  cases tokens with
  | nil => rfl
  | cons token rest => exact absurd (h.placed token List.mem_cons_self) Token.not_placed_nil

theorem blank (hblank : isBlank c = true) (h : Layout (pos + c.utf8Size) chars tokens) :
    Layout pos (c :: chars) tokens where
  kinds := h.kinds
  placed token htoken := by
    have hplaced := h.placed token htoken
    have hsize : c.utf8Size = byteLength [c] := by rw [byteLength_cons, byteLength_nil]; rfl
    rw [hsize] at hplaced
    exact hplaced.prepend
  ordered := h.ordered
  blanks before d after hsplit hcovers := by
    cases before with
    | nil =>
        cases hsplit
        exact hblank
    | cons first before =>
        cases hsplit
        rw [byteLength_cons, ← Nat.add_assoc] at hcovers
        exact h.blanks before d after rfl hcovers

/-- A blank at the start lies in no token. -/
theorem of_blank (hblank : isBlank c = true) (h : Layout pos (c :: chars) tokens) :
    Layout (pos + c.utf8Size) chars tokens where
  kinds := h.kinds
  placed token htoken := by
    obtain ⟨before, after, hchars, hpos, htext, hspells, hafter⟩ := h.placed token htoken
    cases before with
    | nil =>
        obtain ⟨first, more, hword⟩ := exists_toList_eq_cons htext
        rw [hword] at hchars hspells
        cases hchars
        rw [hspells.isBlank_eq_false] at hblank
        cases hblank
    | cons first before =>
        cases hchars
        rw [byteLength_cons] at hpos
        exact ⟨before, after, rfl, by omega, htext, hspells, hafter⟩
  ordered := h.ordered
  blanks before d after hsplit hcovers := by
    refine h.blanks (c :: before) d after (by rw [hsplit, List.cons_append]) ?_
    rw [byteLength_cons, ← Nat.add_assoc]
    exact hcovers

theorem token (hspells : kind.Spells (c :: word))
    (hafter : ∀ d, chars.head? = some d → kind.extendedBy d = false)
    (h : Layout (pos + byteLength (c :: word)) chars tokens) :
    Layout pos (c :: word ++ chars) (⟨kind, String.ofList (c :: word), pos⟩ :: tokens) where
  kinds := by
    refine List.forall_mem_cons.mpr ⟨?_, h.kinds⟩
    rintro rfl
    cases hspells
  placed := by
    refine List.forall_mem_cons.mpr ⟨?_, fun token htoken => (h.placed token htoken).prepend⟩
    refine ⟨[], chars, by simp, by simp [byteLength_nil], ?_, by simpa using hspells, hafter⟩
    intro hempty
    have hnil := congrArg String.toList hempty
    simp at hnil
  ordered := by
    refine List.pairwise_cons.mpr ⟨fun token htoken => ?_, h.ordered⟩
    have hle := (h.placed token htoken).le_pos
    have hpositive : 0 < byteLength (c :: word) := byteLength_pos (List.cons_ne_nil _ _)
    have hstop : Token.stop ⟨kind, String.ofList (c :: word), pos⟩ =
        pos + byteLength (c :: word) := rfl
    rw [hstop]
    exact ⟨by simp only; omega, hle⟩
  blanks before d after hsplit hcovers := by
    obtain ⟨hfirst, hothers⟩ := List.forall_mem_cons.mp hcovers
    have hbehind : ¬ byteLength before < byteLength (c :: word) := by
      intro hless
      exact hfirst ⟨Nat.le_add_right _ _, Nat.add_lt_add_left hless pos⟩
    rcases List.append_eq_append_iff.mp hsplit with ⟨middle, rfl, hmiddle⟩ | ⟨middle, hword, hmiddle⟩
    · rw [byteLength_append, ← Nat.add_assoc] at hothers
      exact h.blanks middle d after hmiddle hothers
    · cases middle with
      | nil =>
          rw [List.append_nil] at hword
          rw [← hword] at hothers
          exact h.blanks [] d after hmiddle.symm hothers
      | cons first middle =>
          -- the character would lie inside the first token
          rw [hword, byteLength_append] at hbehind
          have hpositive : 0 < byteLength (first :: middle) := byteLength_pos (List.cons_ne_nil _ _)
          omega

/-- A character at the start that is no blank begins the first token. -/
theorem exists_first (hblank : isBlank c = false) (h : Layout pos (c :: chars) tokens) :
    ∃ first others, tokens = first :: others ∧ first.pos = pos := by
  have hcovered : ∃ token ∈ tokens, token.Covers pos := by
    by_contra hnone
    have hc := h.blanks [] c chars rfl fun token htoken hcovers => hnone ⟨token, htoken, hcovers⟩
    rw [hblank] at hc
    cases hc
  obtain ⟨token, htoken, hle, -⟩ := hcovered
  cases tokens with
  | nil => cases htoken
  | cons first others =>
      have hfirst := h.placed first List.mem_cons_self
      refine ⟨first, others, rfl, ?_⟩
      rcases List.mem_cons.mp htoken with rfl | hothers
      · exact Nat.le_antisymm hle hfirst.le_pos
      · -- a token behind the first one begins behind the first character
        have hbehind := ((List.pairwise_cons.mp h.ordered).1 token hothers).2
        have hstart := hfirst.le_pos
        have hstop := hfirst.pos_lt_stop
        omega

/-- The tokens behind the first one are laid out in the characters behind it. -/
theorem tail (h : Layout pos (word ++ chars) (⟨kind, String.ofList word, pos⟩ :: tokens)) :
    Layout (pos + byteLength word) chars tokens where
  kinds := (List.forall_mem_cons.mp h.kinds).2
  placed token htoken :=
    (h.placed token (List.mem_cons_of_mem _ htoken)).drop
      ((List.pairwise_cons.mp h.ordered).1 token htoken).2
  ordered := (List.pairwise_cons.mp h.ordered).2
  blanks before d after hsplit hcovers := by
    refine h.blanks (word ++ before) d after (by rw [hsplit, List.append_assoc]) ?_
    rw [byteLength_append, ← Nat.add_assoc]
    refine List.forall_mem_cons.mpr ⟨fun hfirst => ?_, hcovers⟩
    have hstop : pos + byteLength word + byteLength before < pos + byteLength word := hfirst.2
    omega

/-- The tokens of a layout are what the scanner finds. -/
theorem scans (h : Layout pos chars tokens) : ∃ stop, Scans pos chars tokens stop [] := by
  induction hlength : chars.length using Nat.strongRecOn generalizing pos chars tokens with
  | ind length ih =>
      subst hlength
      cases chars with
      | nil =>
          rw [h.eq_nil]
          exact ⟨pos, .done pos []⟩
      | cons c chars =>
          cases hblank : isBlank c with
          | true =>
              obtain ⟨stop, hscans⟩ := ih _ (Nat.lt_succ_self _) (h.of_blank hblank) rfl
              exact ⟨stop, .blank hblank hscans⟩
          | false =>
              obtain ⟨⟨kind, text, start⟩, others, rfl, rfl⟩ := h.exists_first hblank
              obtain ⟨word, after, rfl, rfl, hspells, hafter⟩ :=
                (h.placed _ List.mem_cons_self).split rfl
              have hshorter : after.length < (c :: (word ++ after)).length := by
                rw [List.length_cons, List.length_append]
                omega
              have hrest : Layout (start + byteLength (c :: word)) after others := Layout.tail h
              obtain ⟨stop, hscans⟩ := ih _ hshorter hrest rfl
              exact ⟨stop, .token hspells hafter hscans⟩

end Layout

/-- What the scanner finds up to the end of a text is laid out in it. -/
theorem Scans.layout {pos stop : Nat} {chars : List Char} {tokens : List Token}
    (h : Scans pos chars tokens stop []) :
    Layout pos chars tokens ∧ stop = pos + byteLength chars := by
  generalize hrest : ([] : List Char) = rest at h
  induction h with
  | done pos rest =>
      subst hrest
      exact ⟨Layout.nil pos, rfl⟩
  | blank hblank _ ih =>
      obtain ⟨hlayout, hstop⟩ := ih hrest
      rw [byteLength_cons, ← Nat.add_assoc]
      exact ⟨hlayout.blank hblank, hstop⟩
  | token hspells hafter _ ih =>
      obtain ⟨hlayout, hstop⟩ := ih hrest
      rw [byteLength_append, ← Nat.add_assoc]
      exact ⟨hlayout.token hspells hafter, hstop⟩

/-- Scanning finds the layout of a text if there is one, and nothing else: it succeeds with the
tokens of the layout and one end of input after the last byte. -/
theorem scan_eq_ok_iff_layout (text : String) (tokens : List Token) :
    scan text = .ok tokens ↔
      ∃ words, tokens = words ++ [⟨.eof, "", text.utf8ByteSize⟩] ∧ Layout 0 text.toList words := by
  constructor
  · intro h
    obtain ⟨words, stop, hscans, rfl⟩ := scan_eq_ok.mp h
    obtain ⟨hlayout, hstop⟩ := hscans.layout
    rw [Nat.zero_add, byteLength_toList] at hstop
    exact ⟨words, by rw [hstop], hlayout⟩
  · rintro ⟨words, rfl, hlayout⟩
    obtain ⟨stop, hscans⟩ := hlayout.scans
    obtain ⟨-, hstop⟩ := hscans.layout
    rw [Nat.zero_add, byteLength_toList] at hstop
    exact scan_eq_ok.mpr ⟨words, stop, hscans, by rw [hstop]⟩

end StraightLine
