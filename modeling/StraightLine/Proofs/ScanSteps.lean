import StraightLine.Token.Layout
import StraightLine.Proofs.Outcome

/-! What the scanner does in one step, and what follows for one step after another. The longest token
at the start of a text is the only one that is spelled as its kind is and does not go on after it;
this rests on no more of the character classes than that letters are neither digits nor marks nor
blanks. -/

namespace StraightLine

open Outcome

theorem byteLength_nil : byteLength [] = 0 := rfl

theorem byteLength_append (first second : List Char) :
    byteLength (first ++ second) = byteLength first + byteLength second := by
  rw [byteLength, String.ofList_append, String.utf8ByteSize_append]
  rfl

theorem byteLength_cons (c : Char) (rest : List Char) :
    byteLength (c :: rest) = c.utf8Size + byteLength rest := by
  have hsingle : byteLength [c] = c.utf8Size := by
    rw [byteLength, ← String.singleton_eq_ofList, String.utf8ByteSize_singleton]
  rw [← List.singleton_append, byteLength_append, hsingle]

theorem byteLength_pos {chars : List Char} (h : chars ≠ []) : 0 < byteLength chars := by
  obtain ⟨c, rest, rfl⟩ := List.exists_cons_of_ne_nil h
  rw [byteLength_cons]
  exact Nat.add_pos_left c.utf8Size_pos _

theorem byteLength_toList (text : String) : byteLength text.toList = text.utf8ByteSize := by
  rw [byteLength, String.ofList_toList]

theorem exists_toList_eq_cons {text : String} (h : text ≠ "") :
    ∃ c rest, text.toList = c :: rest :=
  List.exists_cons_of_ne_nil fun hnil => h (String.toList_eq_nil_iff.mp hnil)

theorem isBlank_iff {c : Char} : isBlank c = true ↔ c = ' ' ∨ c = '\t' ∨ c = '\r' := by
  simp [isBlank, or_assoc]

theorem TokenKind.ofChar?_eq_some {c : Char} {kind : TokenKind} :
    ofChar? c = some kind ↔ kind.mark? = some c := by
  constructor
  · intro h
    unfold ofChar? at h
    split at h <;> cases h <;> rfl
  · intro h
    cases kind <;> cases h <;> rfl

/-- Marks are neither digits nor letters nor blanks. -/
theorem TokenKind.mark_class {c : Char} {kind : TokenKind} (h : kind.mark? = some c) :
    c.isDigit = false ∧ startsName c = false ∧ isBlank c = false := by
  cases kind <;> cases h <;> decide

theorem isDigit_iff_toNat {c : Char} : c.isDigit = true ↔ 48 ≤ c.toNat ∧ c.toNat ≤ 57 := by
  simp only [Char.isDigit, Bool.and_eq_true, decide_eq_true_eq, UInt32.le_iff_toNat_le]
  rfl

/-- Ranges begin with their first range. -/
theorem Text.Ranges.covers_eq_false_of_lt {first last point : Nat} {rest : Ranges}
    (h : point < first) : Ranges.covers ((first, last) :: rest) point = false := by
  have hfirst : ¬ first ≤ point := by omega
  simp [Ranges.covers, hfirst]

/-- The letters begin after the digits. -/
theorem startsName_eq_false_of_isDigit {c : Char} (h : c.isDigit = true) :
    startsName c = false := by
  obtain ⟨-, hhigh⟩ := isDigit_iff_toNat.mp h
  have hbelow : c.toNat < 65 := by omega
  have hletter : Text.isAlphabetic c = false := Text.Ranges.covers_eq_false_of_lt hbelow
  have hunderscore : c ≠ '_' := by
    rintro rfl
    exact absurd hhigh (by decide)
  simp [startsName, hletter, hunderscore]

theorem TokenKind.Spells.isBlank_eq_false {kind : TokenKind} {c : Char} {word : List Char}
    (h : kind.Spells (c :: word)) : isBlank c = false := by
  have hstart : c.isDigit = true ∨ startsName c = true → isBlank c = false := by
    intro hclass
    cases hblank : isBlank c with
    | false => rfl
    | true =>
        rcases isBlank_iff.mp hblank with rfl | rfl | rfl
        · exact absurd hclass (by decide)
        · exact absurd hclass (by decide)
        · exact absurd hclass (by decide)
  cases kind with
  | eof => cases h
  | number => exact hstart (Or.inl (h.2 c List.mem_cons_self))
  | identifier => exact hstart (Or.inr h.1.1)
  | print => exact hstart (Or.inr h.1.1)
  | _ =>
      obtain ⟨mark, hmark, hword⟩ := h
      cases hword
      exact (TokenKind.mark_class hmark).2.2

theorem TokenKind.spells_mark {kind : TokenKind} {c : Char} (h : kind.mark? = some c) :
    kind.Spells [c] ∧ ∀ d, kind.extendedBy d = false := by
  cases kind with
  | eof => cases h
  | number => cases h
  | identifier => cases h
  | print => cases h
  | _ => exact ⟨⟨c, h, rfl⟩, fun _ => rfl⟩

theorem TokenKind.spells_ofWord {word : List Char} (h : IsName word) :
    (TokenKind.ofWord word).Spells word ∧
      ∀ d, (TokenKind.ofWord word).extendedBy d = continuesName d := by
  unfold TokenKind.ofWord
  split
  · rename_i hprint
    exact ⟨⟨h, hprint⟩, fun _ => rfl⟩
  · rename_i hprint
    exact ⟨⟨h, hprint⟩, fun _ => rfl⟩

/-- Characters of a class with none of the class after them are what the class takes. -/
theorem span_of_head {p : Char → Bool} {word after : List Char} (hword : ∀ c ∈ word, p c = true)
    (hafter : ∀ c, after.head? = some c → p c = false) :
    (word ++ after).takeWhile p = word ∧ (word ++ after).dropWhile p = after := by
  rw [List.takeWhile_append_of_pos hword, List.dropWhile_append_of_pos hword]
  cases after with
  | nil => simp
  | cons c rest => simp [hafter c rfl]

theorem head_dropWhile {p : Char → Bool} {chars : List Char} {c : Char}
    (h : (chars.dropWhile p).head? = some c) : p c = false := by
  have hnot := List.head?_dropWhile_not p chars
  rw [h] at hnot
  exact hnot

/-- The longest token at the start of a text is spelled as its kind is and does not go on. -/
theorem munch?_spells {c : Char} {rest : List Char} {kind : TokenKind} {word after : List Char}
    (h : munch? c rest = some (kind, word, after)) :
    c :: rest = word ++ after ∧ word ≠ [] ∧ kind.Spells word ∧
      ∀ d, after.head? = some d → kind.extendedBy d = false := by
  unfold munch? at h
  split at h
  · rename_i mark hmark
    cases h
    obtain ⟨hspells, hafter⟩ := TokenKind.spells_mark (TokenKind.ofChar?_eq_some.mp hmark)
    exact ⟨rfl, List.cons_ne_nil _ _, hspells, fun d _ => hafter d⟩
  · split at h
    · rename_i hdigit
      cases h
      refine ⟨by rw [List.cons_append, List.takeWhile_append_dropWhile], List.cons_ne_nil _ _,
        ⟨List.cons_ne_nil _ _, List.forall_mem_cons.mpr ⟨hdigit, ?_⟩⟩, fun d => head_dropWhile⟩
      exact fun d hd => List.all_eq_true.mp List.all_takeWhile d hd
    · split at h
      · rename_i hstart
        cases h
        have hname : IsName (c :: rest.takeWhile continuesName) :=
          ⟨hstart, fun d hd => List.all_eq_true.mp List.all_takeWhile d hd⟩
        obtain ⟨hspells, hafter⟩ := TokenKind.spells_ofWord hname
        refine ⟨by rw [List.cons_append, List.takeWhile_append_dropWhile], List.cons_ne_nil _ _,
          hspells, fun d hd => ?_⟩
        rw [hafter]
        exact head_dropWhile hd
      · cases h

theorem munch?_mark {c : Char} {kind : TokenKind} (h : kind.mark? = some c) (rest : List Char) :
    munch? c rest = some (kind, [c], rest) := by
  rw [munch?, TokenKind.ofChar?_eq_some.mpr h]

theorem ofChar?_eq_none {c : Char} (h : c.isDigit = true ∨ startsName c = true) :
    TokenKind.ofChar? c = none := by
  cases hkind : TokenKind.ofChar? c with
  | none => rfl
  | some kind =>
      obtain ⟨hdigit, hstart, -⟩ := TokenKind.mark_class (TokenKind.ofChar?_eq_some.mp hkind)
      rcases h with h | h
      · exact absurd h (by simp [hdigit])
      · exact absurd h (by simp [hstart])

theorem munch?_number {c : Char} {word after : List Char} (hdigits : ∀ d ∈ c :: word, d.isDigit)
    (hafter : ∀ d, after.head? = some d → d.isDigit = false) :
    munch? c (word ++ after) = some (.number, c :: word, after) := by
  obtain ⟨hc, hword⟩ := List.forall_mem_cons.mp hdigits
  obtain ⟨htake, hdrop⟩ := span_of_head hword hafter
  rw [munch?, ofChar?_eq_none (Or.inl hc)]
  simp only [if_pos hc, htake, hdrop]

theorem munch?_name {c : Char} {word after : List Char} (hname : IsName (c :: word))
    (hafter : ∀ d, after.head? = some d → continuesName d = false) :
    munch? c (word ++ after) = some (TokenKind.ofWord (c :: word), c :: word, after) := by
  obtain ⟨hstart, hword⟩ := hname
  have hdigit : ¬ c.isDigit = true := by
    intro hdigit
    rw [startsName_eq_false_of_isDigit hdigit] at hstart
    cases hstart
  obtain ⟨htake, hdrop⟩ := span_of_head hword hafter
  rw [munch?, ofChar?_eq_none (Or.inr hstart)]
  simp only [if_neg hdigit, if_pos hstart, htake, hdrop]

/-- A word that is spelled as a kind is and does not go on is the longest token. -/
theorem munch?_of_spells {c : Char} {word after : List Char} {kind : TokenKind}
    (hspells : kind.Spells (c :: word))
    (hafter : ∀ d, after.head? = some d → kind.extendedBy d = false) :
    munch? c (word ++ after) = some (kind, c :: word, after) := by
  cases kind with
  | eof => cases hspells
  | number => exact munch?_number hspells.2 hafter
  | identifier =>
      rw [munch?_name hspells.1 hafter, TokenKind.ofWord, if_neg hspells.2]
  | print =>
      rw [munch?_name hspells.1 hafter, TokenKind.ofWord, if_pos hspells.2]
  | _ =>
      obtain ⟨mark, hmark, hword⟩ := hspells
      cases hword
      exact munch?_mark hmark after

/-- The scanner gets from the characters `chars` at the byte offset `pos` to `rest` at the byte
offset `stop` and finds `tokens` on the way. -/
inductive Scans : Nat → List Char → List Token → Nat → List Char → Prop where
  | done (pos : Nat) (rest : List Char) : Scans pos rest [] pos rest
  | blank {pos stop : Nat} {c : Char} {chars rest : List Char} {tokens : List Token}
      (hblank : isBlank c = true) (h : Scans (pos + c.utf8Size) chars tokens stop rest) :
      Scans pos (c :: chars) tokens stop rest
  | token {pos stop : Nat} {c : Char} {word chars rest : List Char} {kind : TokenKind}
      {tokens : List Token} (hspells : kind.Spells (c :: word))
      (hafter : ∀ d, chars.head? = some d → kind.extendedBy d = false)
      (h : Scans (pos + byteLength (c :: word)) chars tokens stop rest) :
      Scans pos (c :: word ++ chars) (⟨kind, String.ofList (c :: word), pos⟩ :: tokens) stop rest

theorem scanFrom_blank {pos : Nat} {c : Char} (h : isBlank c = true) (rest : List Char) :
    scanFrom pos (c :: rest) = scanFrom (pos + c.utf8Size) rest := by
  rw [scanFrom, if_pos h]

theorem scanFrom_token {pos : Nat} {c : Char} {rest word after : List Char} {kind : TokenKind}
    (hblank : isBlank c = false) (h : munch? c rest = some (kind, word, after)) :
    scanFrom pos (c :: rest) = (⟨kind, String.ofList word, pos⟩ :: ·) <$>
      scanFrom (pos + byteLength word) after := by
  rw [scanFrom, if_neg (by simp [hblank])]
  split
  · rename_i hnone
    rw [h] at hnone
    cases hnone
  · rename_i hsome
    rw [h] at hsome
    cases hsome
    rfl

/-- What the scanner finds on the way stands in front of what it finds in the rest. -/
theorem Scans.scanFrom_eq {pos stop : Nat} {chars rest : List Char} {tokens : List Token}
    (h : Scans pos chars tokens stop rest) :
    scanFrom pos chars = (tokens ++ ·) <$> scanFrom stop rest := by
  induction h with
  | done pos rest =>
      cases scanFrom pos rest <;> rfl
  | blank hblank _ ih => rw [scanFrom_blank hblank, ih]
  | @token _ stop _ _ _ rest _ _ hspells hafter _ ih =>
      rw [List.cons_append, scanFrom_token hspells.isBlank_eq_false
        (munch?_of_spells hspells hafter), ih]
      cases scanFrom stop rest <;> rfl

theorem scans_of_scanFrom {pos : Nat} {chars : List Char} {tokens : List Token}
    (h : scanFrom pos chars = .ok tokens) :
    ∃ words stop, Scans pos chars words stop [] ∧ tokens = words ++ [⟨.eof, "", stop⟩] := by
  fun_induction scanFrom pos chars generalizing tokens with
  | case1 pos =>
      cases h
      exact ⟨[], pos, .done pos [], rfl⟩
  | case2 pos c rest hblank ih =>
      obtain ⟨words, stop, hscans, rfl⟩ := ih h
      exact ⟨words, stop, .blank hblank hscans, rfl⟩
  | case3 pos c rest hblank hmunch => cases h
  | case4 pos c rest hblank kind word after hmunch _ token =>
      rename_i ih
      obtain ⟨others, hothers, htokens⟩ := bind_eq_ok.mp h
      cases htokens
      obtain ⟨words, stop, hscans, rfl⟩ := ih hothers
      obtain ⟨hsplit, hne, hspells, hafter⟩ := munch?_spells hmunch
      obtain ⟨first, more, rfl⟩ := List.exists_cons_of_ne_nil hne
      rw [hsplit]
      exact ⟨token :: words, stop, .token hspells hafter hscans, rfl⟩

theorem scan_eq_ok {text : String} {tokens : List Token} :
    scan text = .ok tokens ↔
      ∃ words stop, Scans 0 text.toList words stop [] ∧ tokens = words ++ [⟨.eof, "", stop⟩] := by
  constructor
  · exact scans_of_scanFrom
  · rintro ⟨words, stop, hscans, rfl⟩
    rw [scan, hscans.scanFrom_eq, scanFrom]
    rfl

namespace Scans

variable {pos middle stop : Nat} {chars between rest : List Char} {tokens : List Token}

theorem trans {more : List Token} (h : Scans pos chars tokens middle between)
    (hmore : Scans middle between more stop rest) : Scans pos chars (tokens ++ more) stop rest := by
  induction h with
  | done _ _ => exact hmore
  | blank hblank _ ih => exact .blank hblank (ih hmore)
  | token hspells hafter _ ih => exact .token hspells hafter (ih hmore)

/-- Every token found is spelled as its kind is, and none is an end of input. -/
theorem spells (h : Scans pos chars tokens stop rest) :
    ∀ token ∈ tokens, token.kind ≠ .eof ∧ token.kind.Spells token.text.toList := by
  induction h with
  | done _ _ => exact fun _ h => absurd h List.not_mem_nil
  | blank _ _ ih => exact ih
  | token hspells _ _ ih =>
      refine List.forall_mem_cons.mpr ⟨⟨?_, by rwa [String.toList_ofList]⟩, ih⟩
      rintro rfl
      cases hspells

theorem mark {kind : TokenKind} {c : Char} (hmark : kind.mark? = some c)
    (h : Scans (pos + byteLength [c]) chars tokens stop rest) :
    Scans pos (c :: chars) (⟨kind, String.ofList [c], pos⟩ :: tokens) stop rest := by
  obtain ⟨hspells, hafter⟩ := TokenKind.spells_mark hmark
  exact .token hspells (fun d _ => hafter d) h

theorem word {kind : TokenKind} {text : String} (hne : text ≠ "")
    (hspells : kind.Spells text.toList)
    (hafter : ∀ d, rest.head? = some d → kind.extendedBy d = false) :
    Scans pos (text.toList ++ rest) [⟨kind, text, pos⟩] (pos + byteLength text.toList) rest := by
  obtain ⟨c, word, hword⟩ := exists_toList_eq_cons hne
  have htext : text = String.ofList (c :: word) := by rw [← hword, String.ofList_toList]
  rw [hword] at hspells ⊢
  rw [htext]
  exact .token hspells hafter (.done _ rest)

end Scans

end StraightLine
