import StraightLine.Code.Read
import StraightLine.Text.Decimal

/-! The text of code read back. An instruction is written as words with single blanks between them
and a program as lines that end in newlines; no word holds a blank and no line a newline, so
splitting the text undoes writing it, and every name, number and mnemonic reads as what it was
written for. -/

namespace StraightLine

/-- Text that neither a line nor a word ends in the middle of. -/
def Plain (text : String) : Prop :=
  ∀ c ∈ text.toList, c ≠ ' ' ∧ c ≠ '\n'

instance (text : String) : Decidable (Plain text) :=
  List.decidableBAll (fun c => c ≠ ' ' ∧ c ≠ '\n') text.toList

theorem Plain.append {first second : String} (hfirst : Plain first) (hsecond : Plain second) :
    Plain (first ++ second) := by
  intro c hc
  rw [String.toList_append, List.mem_append] at hc
  rcases hc with hc | hc
  · exact hfirst c hc
  · exact hsecond c hc

theorem ne_blank_of_isDigit {c : Char} (h : c.isDigit) : c ≠ ' ' ∧ c ≠ '\n' := by
  constructor
  · rintro rfl
    exact absurd h (by decide)
  · rintro rfl
    exact absurd h (by decide)

theorem plain_natural (value : Nat) : Plain (toString value) :=
  fun _ hc => ne_blank_of_isDigit (Text.isDigit_of_mem_toString hc)

theorem plain_integer (value : Int) : Plain (toString value) := by
  intro c hc
  rcases Text.isDigit_or_sign_of_mem_toString hc with hdigit | rfl
  · exact ne_blank_of_isDigit hdigit
  · decide

theorem plain_slotName (slot : Nat) : Plain (slotName slot) :=
  Plain.append (by decide) (plain_natural slot)

theorem plain_tempName (temp : Nat) : Plain (tempName temp) :=
  Plain.append (by decide) (plain_natural temp)

theorem plain_mnemonic (op : Arith) : Plain op.mnemonic := by
  cases op <;> decide

theorem slot?_slotName (slot : Nat) : slot? (slotName slot).toList = some slot := by
  rw [slotName, String.toList_append]
  exact Text.unsignedDecimal?_toString slot

theorem temp?_tempName (temp : Nat) : temp? (tempName temp).toList = some temp := by
  rw [tempName, String.toList_append]
  exact Text.unsignedDecimal?_toString temp

theorem ofMnemonic?_mnemonic (op : Arith) : Arith.ofMnemonic? op.mnemonic.toList = some op := by
  cases op <;> decide

theorem endedBy?_append (c : Char) (word : List Char) : endedBy? c (word ++ [c]) = some word := by
  simp [endedBy?]

theorem mem_intercalate {separator c : Char} {words : List (List Char)}
    (h : c ∈ [separator].intercalate words) : c = separator ∨ ∃ word ∈ words, c ∈ word := by
  induction words with
  | nil => simp at h
  | cons word rest ih =>
      by_cases hrest : rest = []
      · subst hrest
        exact Or.inr ⟨word, by simp, by simpa using h⟩
      · rw [List.intercalate_cons_of_ne_nil hrest, List.mem_append, List.mem_append,
          List.mem_singleton] at h
        rcases h with (hword | hseparator) | hothers
        · exact Or.inr ⟨word, by simp, hword⟩
        · exact Or.inl hseparator
        · rcases ih hothers with hseparator | ⟨other, hother, hc⟩
          · exact Or.inl hseparator
          · exact Or.inr ⟨other, List.mem_cons_of_mem word hother, hc⟩

namespace Instr

theorem toList_render (instr : Instr) :
    instr.render.toList = [' '].intercalate (instr.words.map String.toList) :=
  String.toList_intercalate

theorem plain_words (instr : Instr) : ∀ word ∈ instr.words, Plain word := by
  have hcomma : Plain "," := by decide
  have hparen : Plain ")" := by decide
  cases instr with
  | alloc slot =>
      simp only [words, List.forall_mem_cons]
      exact ⟨plain_slotName slot, by decide⟩
  | copy target value =>
      simp only [words, List.forall_mem_cons]
      exact ⟨plain_tempName target, by decide, by decide, plain_integer value, by simp⟩
  | load target slot =>
      simp only [words, List.forall_mem_cons]
      exact ⟨plain_tempName target, by decide, by decide, plain_slotName slot, by simp⟩
  | arith op target left right =>
      simp only [words, List.forall_mem_cons]
      exact ⟨plain_tempName target, by decide, plain_mnemonic op,
        (plain_tempName left).append hcomma, plain_tempName right, by simp⟩
  | store temp slot =>
      simp only [words, List.forall_mem_cons]
      exact ⟨by decide, (plain_tempName temp).append hcomma, plain_slotName slot, by simp⟩
  | print temp =>
      simp only [words, List.forall_mem_cons]
      exact ⟨by decide, by decide, by decide, by decide, by decide,
        (plain_tempName temp).append hparen, by simp⟩
  | ret => decide

theorem ofWords?_words (instr : Instr) :
    ofWords? (instr.words.map String.toList) = some instr := by
  cases instr with
  | alloc slot => simp [words, ofWords?, slot?_slotName]
  | copy target value =>
      have hvalue : Text.signedDecimal? value.repr.toList = some value :=
        Text.signedDecimal?_toString value
      simp [words, ofWords?, temp?_tempName, hvalue]
  | load target slot => simp [words, ofWords?, temp?_tempName, slot?_slotName]
  | arith op target left right =>
      simp [words, ofWords?, ofMnemonic?_mnemonic, temp?_tempName, endedBy?_append]
  | store temp slot => simp [words, ofWords?, temp?_tempName, endedBy?_append, slot?_slotName]
  | print temp => simp [words, ofWords?, temp?_tempName, endedBy?_append]
  | ret => rfl

theorem read?_render (instr : Instr) : read? instr.render.toList = some instr := by
  have hplain : ∀ word ∈ instr.words.map String.toList, ' ' ∉ word := by
    intro word hword hblank
    obtain ⟨text, htext, rfl⟩ := List.mem_map.mp hword
    exact (instr.plain_words text htext ' ' hblank).1 rfl
  have hne : instr.words.map String.toList ≠ [] := by
    cases instr <;> simp [words]
  rw [read?, toList_render, List.splitOn_intercalate ' ' hplain hne, ofWords?_words]

theorem newline_notMem_render (instr : Instr) : '\n' ∉ instr.render.toList := by
  rw [toList_render]
  intro hmem
  rcases mem_intercalate hmem with hblank | ⟨word, hword, hnewline⟩
  · exact absurd hblank (by decide)
  · obtain ⟨text, htext, rfl⟩ := List.mem_map.mp hword
    exact (instr.plain_words text htext '\n' hnewline).2 rfl

end Instr

/-- Lines that each end in a newline are what stands between the newlines, with nothing after the
last one. -/
theorem flatMap_newline (lines : List (List Char)) :
    lines.flatMap (· ++ ['\n']) = ['\n'].intercalate (lines ++ [[]]) := by
  induction lines with
  | nil => rfl
  | cons line rest ih =>
      have hne : rest ++ [[]] ≠ [] := by simp
      rw [List.flatMap_cons, ih, List.cons_append, List.intercalate_cons_of_ne_nil hne]

namespace Code

theorem toList_lines (code : Code) :
    code.lines.map String.toList =
      codeHeader.map String.toList ++
        (code.map (fun instr => '\t' :: instr.render.toList) ++ [['\x7d']]) := by
  rw [lines, List.map_append, List.map_append, List.append_assoc, List.map_map]
  congr 2
  apply List.map_congr_left
  intro instr _
  simp

theorem newline_notMem_lines {code : Code} {line : List Char}
    (h : line ∈ code.lines.map String.toList) : '\n' ∉ line := by
  rw [toList_lines, List.mem_append, List.mem_append] at h
  rcases h with hheader | hinstr | hend
  · have hclosed : ∀ line ∈ codeHeader.map String.toList, '\n' ∉ line := by decide
    exact hclosed line hheader
  · obtain ⟨instr, -, rfl⟩ := List.mem_map.mp hinstr
    intro hnewline
    rcases List.mem_cons.mp hnewline with htab | hrender
    · exact absurd htab (by decide)
    · exact instr.newline_notMem_render hrender
  · rw [List.mem_singleton.mp hend]
    decide

theorem splitOn_render (code : Code) :
    code.render.toList.splitOn '\n' = code.lines.map String.toList ++ [[]] := by
  have hlines : ∀ line ∈ code.lines.map String.toList ++ [[]], '\n' ∉ line := by
    intro line hline
    rcases List.mem_append.mp hline with hline | hlast
    · exact newline_notMem_lines hline
    · rw [List.mem_singleton.mp hlast]
      exact List.not_mem_nil
  have htext : code.render.toList = ['\n'].intercalate (code.lines.map String.toList ++ [[]]) := by
    rw [← flatMap_newline, render, String.toList_join]
    simp [List.flatMap_map]
  rw [htext, List.splitOn_intercalate '\n' hlines (by simp)]

theorem ofLines?_lines (code : Code) :
    ofLines? (code.map (fun instr => '\t' :: instr.render.toList) ++ [['\x7d'], []]) = some code := by
  induction code with
  | nil => rfl
  | cons instr rest ih =>
      rw [List.map_cons, List.cons_append, ofLines?, Instr.read?_render, ih]
      rfl

/-- Reading the text of code gives the code back: every line that holds an instruction is read, and
as the instruction that it was written for. -/
theorem read?_render (code : Code) : read? code.render = some code := by
  have hlength : (codeHeader.map String.toList).length = codeHeader.length := List.length_map _
  simp only [read?]
  rw [splitOn_render, toList_lines, List.append_assoc, List.take_left' hlength,
    List.drop_left' hlength, if_pos rfl, List.append_assoc]
  exact ofLines?_lines code

end Code

end StraightLine
