import StraightLine.Token.Layout
import StraightLine.Proofs.ScanLayout

/-! Where scanning fails. Up to the character that it fails on, the scanner does what it does with the
text before that character alone; the one thing that the text alone does not decide is whether its
last token goes on, and that depends on the character only if nothing stands between the two. -/

namespace StraightLine

open Outcome

/-- A token that ends where the rest begins does not take in the first character of the rest. -/
def Apart (tokens : List Token) (stop : Nat) (rest : List Char) : Prop :=
  ∀ last, tokens.getLast? = some last → last.stop = stop →
    ∀ d, rest.head? = some d → last.kind.extendedBy d = false

theorem Apart.cons_iff {token next : Token} {tokens : List Token} {stop : Nat} {rest : List Char} :
    Apart (token :: next :: tokens) stop rest ↔ Apart (next :: tokens) stop rest := by
  simp only [Apart, List.getLast?_cons_cons]

theorem Apart.singleton_iff {token : Token} {stop : Nat} {rest : List Char} :
    Apart [token] stop rest ↔
      (token.stop = stop → ∀ d, rest.head? = some d → token.kind.extendedBy d = false) := by
  simp [Apart]

namespace Scans

variable {pos stop : Nat} {chars before rest : List Char} {tokens : List Token}

theorem stop_eq (h : Scans pos chars tokens stop []) : stop = pos + byteLength chars :=
  h.layout.2

theorem of_nil (h : Scans pos [] tokens stop []) : tokens = [] ∧ stop = pos :=
  ⟨h.layout.1.eq_nil, h.stop_eq⟩

/-- What has been scanned stands in front of the rest. On its own it is scanned in the same way, and
its last token does not go on in the rest. -/
theorem cut (h : Scans pos chars tokens stop rest) :
    ∃ before, chars = before ++ rest ∧ Scans pos before tokens stop [] ∧ Apart tokens stop rest := by
  induction h with
  | done pos rest => exact ⟨[], rfl, .done pos [], by simp [Apart]⟩
  | blank hblank _ ih =>
      obtain ⟨before, rfl, hscans, hapart⟩ := ih
      exact ⟨_ :: before, rfl, .blank hblank hscans, hapart⟩
  | @token pos stop c word chars rest kind tokens hspells hafter _ ih =>
      obtain ⟨before, rfl, hscans, hapart⟩ := ih
      refine ⟨c :: word ++ before, (List.append_assoc _ _ _).symm, .token hspells ?_ hscans, ?_⟩
      · intro d hd
        exact hafter d (by rw [List.head?_append, hd]; rfl)
      · cases tokens with
        | cons next tokens => exact Apart.cons_iff.mpr hapart
        | nil =>
            rw [Apart.singleton_iff]
            intro hstop
            -- the token ends where the rest begins, so nothing stands between them
            have hnil : before = [] := by
              by_contra hne
              have hpositive := byteLength_pos hne
              have hend := hscans.stop_eq
              have hsize : Token.stop ⟨kind, String.ofList (c :: word), pos⟩ =
                  pos + byteLength (c :: word) := rfl
              omega
            subst hnil
            exact hafter

/-- What is scanned to its end is scanned in the same way in front of a rest in which its last token
does not go on. -/
theorem append (h : Scans pos before tokens stop []) (hapart : Apart tokens stop rest) :
    Scans pos (before ++ rest) tokens stop rest := by
  generalize hnone : ([] : List Char) = none at h
  induction h with
  | done pos none =>
      subst hnone
      exact .done pos rest
  | blank hblank _ ih => exact .blank hblank (ih hapart hnone)
  | @token pos stop c word chars none kind tokens hspells hafter h ih =>
      subst hnone
      rw [List.append_assoc]
      cases chars with
      | nil =>
          -- only a token at the very end can meet the rest
          obtain ⟨rfl, rfl⟩ := h.of_nil
          exact .token hspells (Apart.singleton_iff.mp hapart rfl) (.done _ rest)
      | cons next chars =>
          refine .token hspells hafter (ih ?_ rfl)
          cases tokens with
          | nil => simp [Apart]
          | cons following tokens => exact Apart.cons_iff.mp hapart

end Scans

theorem munch?_eq_none {c : Char} {rest : List Char} : munch? c rest = none ↔ ¬ StartsToken c := by
  simp only [munch?, StartsToken, ← TokenKind.ofChar?_eq_some]
  cases hmark : TokenKind.ofChar? c with
  | some kind => simp
  | none => by_cases hdigit : c.isDigit = true <;> by_cases hstart : startsName c = true <;> simp [*]

/-- The scanner fails on a character that is no blank and that no token starts with. -/
theorem scanFrom_eq_error {pos : Nat} {chars : List Char} {error : SyntaxError} :
    scanFrom pos chars = .error error ↔
      ∃ tokens stop c rest, Scans pos chars tokens stop (c :: rest) ∧ isBlank c = false ∧
        ¬ StartsToken c ∧ error = .unexpectedCharacter stop c := by
  constructor
  · intro h
    fun_induction scanFrom pos chars generalizing error with
    | case1 pos => cases h
    | case2 pos c rest hblank ih =>
        obtain ⟨tokens, stop, d, more, hscans, hfails⟩ := ih h
        exact ⟨tokens, stop, d, more, .blank hblank hscans, hfails⟩
    | case3 pos c rest hblank hmunch =>
        cases h
        exact ⟨[], pos, c, rest, .done pos _, by simpa using hblank, munch?_eq_none.mp hmunch, rfl⟩
    | case4 pos c rest hblank kind word after hmunch _ token =>
        rename_i ih
        obtain herror | ⟨others, -, hnone⟩ := bind_eq_error.mp h
        · obtain ⟨tokens, stop, d, more, hscans, hfails⟩ := ih herror
          obtain ⟨hsplit, hne, hspells, hafter⟩ := munch?_spells hmunch
          obtain ⟨first, others, rfl⟩ := List.exists_cons_of_ne_nil hne
          rw [hsplit]
          exact ⟨token :: tokens, stop, d, more, .token hspells hafter hscans, hfails⟩
        · cases hnone
  · rintro ⟨tokens, stop, c, rest, hscans, hblank, hstart, rfl⟩
    have hmunch : munch? c rest = none := munch?_eq_none.mpr hstart
    rw [hscans.scanFrom_eq, scanFrom, if_neg (by simp [hblank])]
    split
    · rfl
    · rename_i hsome
      rw [hmunch] at hsome
      cases hsome

/-- Of the characters that no token starts with, a token takes in letters and numbers if it is a name,
and none if it is not. -/
theorem TokenKind.extendedBy_iff {c : Char} (hstart : ¬ StartsToken c) (kind : TokenKind) :
    kind.extendedBy c = true ↔ isAlphanumeric c = true ∧ (kind = .identifier ∨ kind = .print) := by
  have hdigit : c.isDigit = false := by
    by_contra hdigit
    exact hstart (Or.inr (Or.inl (by simpa using hdigit)))
  have hunderscore : c ≠ '_' := by
    rintro rfl
    exact hstart (Or.inr (Or.inr (by decide)))
  have hname : continuesName c = isAlphanumeric c := by
    simp [continuesName, isAlphanumeric, hunderscore]
  cases kind with
  | number => simp [extendedBy, hdigit]
  | identifier => simp [extendedBy, hname]
  | print => simp [extendedBy, hname]
  | _ => simp [extendedBy]

section Before

variable {before : String} {tokens : List Token} {stop : Nat}

theorem Scans.stop_eq_utf8ByteSize (h : Scans 0 before.toList tokens stop []) :
    stop = before.utf8ByteSize := by
  rw [h.stop_eq, byteLength_toList, Nat.zero_add]

theorem endsInName_iff (h : Scans 0 before.toList tokens stop []) :
    EndsInName before ↔ ∃ last, tokens.getLast? = some last ∧ last.stop = stop ∧
      (last.kind = .identifier ∨ last.kind = .print) := by
  have hscan : scan before = .ok (tokens ++ [⟨.eof, "", stop⟩]) := scan_eq_ok.mpr ⟨_, _, h, rfl⟩
  have hstop := h.stop_eq_utf8ByteSize
  constructor
  · rintro ⟨words, last, _, hwords, hkind, hlast⟩
    rw [hscan, List.append_cons words] at hwords
    obtain ⟨rfl, -⟩ := List.append_inj' (Except.ok.inj hwords) rfl
    exact ⟨last, by simp, hlast.trans hstop.symm, hkind⟩
  · rintro ⟨last, hlast, hend, hkind⟩
    obtain ⟨words, rfl⟩ := List.getLast?_eq_some_iff.mp hlast
    exact ⟨words, last, stop, by rw [hscan, ← List.append_cons], hkind, hend.trans hstop⟩

/-- The last token of a text does not take in a character that no token starts with, unless the text
ends in a name that the character goes on with. -/
theorem apart_iff {c : Char} (h : Scans 0 before.toList tokens stop []) (hstart : ¬ StartsToken c)
    (rest : List Char) :
    Apart tokens stop (c :: rest) ↔ ¬ (isAlphanumeric c = true ∧ EndsInName before) := by
  rw [endsInName_iff h]
  constructor
  · rintro hapart ⟨hc, last, hlast, hend, hkind⟩
    have hextended := (last.kind.extendedBy_iff hstart).mpr ⟨hc, hkind⟩
    rw [hapart last hlast hend c rfl] at hextended
    cases hextended
  · intro hnot last hlast hend d hd
    cases hd
    by_contra hextended
    obtain ⟨hc, hkind⟩ := (last.kind.extendedBy_iff hstart).mp (by simpa using hextended)
    exact hnot ⟨hc, last, hlast, hend, hkind⟩

end Before

theorem toList_middle (before : String) (c : Char) (after : String) :
    (before ++ String.singleton c ++ after).toList = before.toList ++ c :: after.toList := by
  simp

/-- Scanning fails exactly on a character that belongs nowhere after a text that can be scanned. -/
theorem scan_eq_error {text : String} {error : SyntaxError} :
    scan text = .error error ↔
      ∃ before c after, text = before ++ String.singleton c ++ after ∧
        error = .unexpectedCharacter before.utf8ByteSize c ∧
        (∃ tokens, scan before = .ok tokens) ∧ Stray before c := by
  rw [scan, scanFrom_eq_error]
  constructor
  · rintro ⟨tokens, stop, c, rest, hscans, hblank, hstart, rfl⟩
    obtain ⟨chars, htext, hbefore, hapart⟩ := hscans.cut
    obtain ⟨before, rfl⟩ : ∃ before : String, chars = before.toList :=
      ⟨String.ofList chars, String.toList_ofList.symm⟩
    refine ⟨before, c, String.ofList rest, ?_, ?_, ⟨_, scan_eq_ok.mpr ⟨_, _, hbefore, rfl⟩⟩,
      hblank, hstart, (apart_iff hbefore hstart rest).mp hapart⟩
    · rw [← String.toList_inj, toList_middle, htext, String.toList_ofList]
    · rw [hbefore.stop_eq_utf8ByteSize]
  · rintro ⟨before, c, after, rfl, rfl, ⟨_, hscan⟩, hblank, hstart, hcontinues⟩
    obtain ⟨tokens, stop, hbefore, rfl⟩ := scan_eq_ok.mp hscan
    have hapart := (apart_iff hbefore hstart after.toList).mpr hcontinues
    refine ⟨tokens, stop, c, after.toList, ?_, hblank, hstart, ?_⟩
    · rw [toList_middle]
      exact hbefore.append hapart
    · rw [hbefore.stop_eq_utf8ByteSize]

/-- What comes after the character that scanning fails on is not looked at. -/
theorem scan_append_of_error {text : String} {error : SyntaxError} (h : scan text = .error error)
    (more : String) : scan (text ++ more) = .error error := by
  obtain ⟨before, c, after, rfl, rfl, hbefore, hstray⟩ := scan_eq_error.mp h
  refine scan_eq_error.mpr ⟨before, c, after ++ more, ?_, rfl, hbefore, hstray⟩
  simp only [String.append_assoc]

theorem utf8ByteSize_lt_middle (before : String) (c : Char) (after : String) :
    before.utf8ByteSize < (before ++ String.singleton c ++ after).utf8ByteSize := by
  have hpositive := c.utf8Size_pos
  rw [String.utf8ByteSize_append, String.utf8ByteSize_append, String.utf8ByteSize_singleton]
  omega

theorem pos_lt_of_scan_eq_error {text : String} {error : SyntaxError} (h : scan text = .error error) :
    error.pos < text.utf8ByteSize := by
  obtain ⟨before, c, after, rfl, rfl, -, -⟩ := scan_eq_error.mp h
  exact utf8ByteSize_lt_middle before c after

/-- Scanning does not get past a character that belongs nowhere. -/
theorem Stray.exists_error {before : String} {c : Char} (h : Stray before c) (after : String) :
    ∃ error, scan (before ++ String.singleton c ++ after) = .error error ∧
      error.pos ≤ before.utf8ByteSize := by
  cases hbefore : scan before with
  | ok tokens =>
      refine ⟨.unexpectedCharacter before.utf8ByteSize c, ?_, Nat.le_refl _⟩
      exact scan_eq_error.mpr ⟨before, c, after, rfl, rfl, ⟨tokens, hbefore⟩, h⟩
  | error error =>
      refine ⟨error, ?_, Nat.le_of_lt (pos_lt_of_scan_eq_error hbefore)⟩
      rw [String.append_assoc]
      exact scan_append_of_error hbefore _

/-- No character before the one that scanning fails on belongs nowhere. -/
theorem not_stray_of_lt {text earlier later : String} {d : Char} {error : SyntaxError}
    (h : scan text = .error error) (hsplit : text = earlier ++ String.singleton d ++ later)
    (hless : earlier.utf8ByteSize < error.pos) : ¬ Stray earlier d := by
  intro hstray
  obtain ⟨found, hfound, hle⟩ := hstray.exists_error later
  rw [← hsplit, h] at hfound
  cases hfound
  exact absurd hle (Nat.not_le_of_lt hless)

/-- A text without such a character can be scanned. -/
theorem exists_scan_of_not_stray {text : String}
    (h : ∀ earlier d later, text = earlier ++ String.singleton d ++ later → ¬ Stray earlier d) :
    ∃ tokens, scan text = .ok tokens := by
  cases hscan : scan text with
  | ok tokens => exact ⟨tokens, rfl⟩
  | error error =>
      obtain ⟨earlier, d, later, hsplit, -, -, hstray⟩ := scan_eq_error.mp hscan
      exact absurd hstray (h earlier d later hsplit)

/-- Errors of scanning are located exactly. Scanning fails at an offset on a character if and only if
the text before it can be scanned and the character belongs nowhere after that text; and if and only
if it is the earliest character of the text that belongs nowhere after the text before it. -/
theorem scan_eq_error_iff_stray (text : String) (pos : Nat) (c : Char) :
    (scan text = .error (.unexpectedCharacter pos c) ↔
      ∃ before after, text = before ++ String.singleton c ++ after ∧ before.utf8ByteSize = pos ∧
        (∃ tokens, scan before = .ok tokens) ∧ Stray before c) ∧
    (scan text = .error (.unexpectedCharacter pos c) ↔
      ∃ before after, text = before ++ String.singleton c ++ after ∧ before.utf8ByteSize = pos ∧
        Stray before c ∧
        ∀ earlier d later, text = earlier ++ String.singleton d ++ later →
          earlier.utf8ByteSize < pos → ¬ Stray earlier d) := by
  have hlocated : scan text = .error (.unexpectedCharacter pos c) ↔
      ∃ before after, text = before ++ String.singleton c ++ after ∧ before.utf8ByteSize = pos ∧
        (∃ tokens, scan before = .ok tokens) ∧ Stray before c := by
    rw [scan_eq_error]
    constructor
    · rintro ⟨before, d, after, htext, herror, hbefore⟩
      cases herror
      exact ⟨before, after, htext, rfl, hbefore⟩
    · rintro ⟨before, after, htext, rfl, hbefore⟩
      exact ⟨before, c, after, htext, rfl, hbefore⟩
  refine ⟨hlocated, ?_⟩
  constructor
  · intro h
    obtain ⟨before, after, htext, hpos, -, hstray⟩ := hlocated.mp h
    refine ⟨before, after, htext, hpos, hstray, ?_⟩
    intro earlier d later hsplit hless
    exact not_stray_of_lt h hsplit hless
  · rintro ⟨before, after, rfl, rfl, hstray, hearliest⟩
    refine hlocated.mpr ⟨before, after, rfl, rfl, exists_scan_of_not_stray ?_, hstray⟩
    rintro earlier d later rfl
    apply hearliest earlier d (later ++ String.singleton c ++ after)
    · simp only [String.append_assoc]
    · exact utf8ByteSize_lt_middle earlier d later

-- a number that is no digit goes on with a name, but not with the digit before it
example : scan "a² 1²" = .error (.unexpectedCharacter 5 '²') := by decide +kernel

end StraightLine
