import StraightLine.Proofs.ParseSound
import StraightLine.Proofs.Descent

/-! What the grammar derives the reader accepts, and so the two are the same relation. Each phrase
leads the reader from the state that waits for it to a state that holds its tree. A complete operand
is held together with what waits for it, and the reader looks at no more of the two than the sum that
waits and the term that the operand completes. -/

namespace StraightLine.Source

namespace Reading

/-- The reader passes the tokens and completes no statement on the way. -/
def Leads (reading : Reading) (tokens : List Token) (after : Reading) : Prop :=
  ∀ (stop : Nat) (rest : List Token),
    reading.statements stop (tokens ++ rest) = after.statements stop rest

theorem Leads.refl (reading : Reading) : reading.Leads [] reading :=
  fun _ _ => rfl

theorem Leads.trans {first second third : Reading} {tokens more : List Token}
    (h : first.Leads tokens second) (hmore : second.Leads more third) :
    first.Leads (tokens ++ more) third := by
  intro stop rest
  rw [List.append_assoc, h, hmore]

theorem Step.leads {token : Token} {tokens : List Token} {first second third : Reading}
    (h : Step token first second none) (hmore : second.Leads tokens third) :
    first.Leads (token :: tokens) third := by
  intro stop rest
  rw [List.cons_append, h.statements, hmore]

/-- The product and the signs in front of an operand are as good as applied to it. -/
theorem leads_term (head : Head) (level : Pending) (outer : List Pending) (last : Expr) :
    (Reading.operator head level outer last).Leads []
      (.operator head { sum := level.sum } outer (level.term last)) := by
  intro stop rest
  cases rest with
  | nil => cases outer <;> rfl
  | cons token rest =>
      have hstep : (Reading.operator head level outer last).step token =
          (Reading.operator head { sum := level.sum } outer (level.term last)).step token := rfl
      have hfinish : (Reading.operator head level outer last).finish token.pos =
          (Reading.operator head { sum := level.sum } outer (level.term last)).finish
            token.pos := by
        cases outer <;> rfl
      rw [List.nil_append, statements, statements, hstep, hfinish]

theorem leads_newlines {newlines : List Token} (h : Newlines newlines) :
    Reading.nothing.Leads newlines .nothing := by
  induction newlines with
  | nil => exact .refl _
  | cons token newlines ih =>
      obtain ⟨hkind, hrest⟩ := List.forall_mem_cons.mp h
      exact (Step.skip hkind).leads (ih hrest)

end Reading

/-- What the tokens of a phrase do to the reader that waits for it. An expression may end in a sum
whose last term is still held apart. -/
def Phrase.Reads (tokens : List Token) (tree : Expr) : Phrase → Prop
  | .expr =>
      ∃ sum last, attach sum last = tree ∧ ∀ head outer,
        (Reading.operand head {} outer).Leads tokens (.operator head { sum } outer last)
  | .moreTerms left =>
      ∀ sum last, attach sum last = left → ∃ sum' last', attach sum' last' = tree ∧
        ∀ head outer, (Reading.operator head { sum } outer last).Leads tokens
          (.operator head { sum := sum' } outer last')
  | .term =>
      ∀ head sum outer,
        (Reading.operand head { sum } outer).Leads tokens (.operator head { sum } outer tree)
  | .moreFactors left =>
      ∀ head sum outer,
        (Reading.operator head { sum } outer left).Leads tokens (.operator head { sum } outer tree)
  | .factor =>
      ∀ head level outer, (Reading.operand head level outer).Leads tokens
        (.operator head { sum := level.sum } outer (level.term tree))
  | .primary =>
      ∀ head level outer,
        (Reading.operand head level outer).Leads tokens (.operator head level outer tree)

theorem Derives.reads {phrase : Phrase} {tokens : List Token} {tree : Expr}
    (h : Derives phrase tokens tree) : phrase.Reads tokens tree := by
  induction h with
  | expr _ _ ihfirst ihmore =>
      obtain ⟨sum, last, htree, hmore⟩ := ihmore none _ rfl
      exact ⟨sum, last, htree, fun head outer => (ihfirst head none outer).trans (hmore head outer)⟩
  | noMoreTerms left => exact fun sum last hleft => ⟨sum, last, hleft, fun _ _ => .refl _⟩
  | nextTerm hop _ _ ihnext ihmore =>
      rintro sum last rfl
      obtain ⟨sum', last', htree, hmore⟩ := ihmore (some (attach sum last, _)) _ rfl
      refine ⟨sum', last', htree, fun head outer => ?_⟩
      exact ((Reading.Step.sum hop).leads (ihnext head _ outer)).trans (hmore head outer)
  | term _ _ ihfirst ihmore =>
      exact fun head sum outer => (ihfirst head { sum } outer).trans (ihmore head sum outer)
  | noMoreFactors left => exact fun head sum outer => .refl _
  | @nextFactor _ op _ _ left _ _ hop _ _ ihnext ihmore =>
      intro head sum outer
      have hnext := ihnext head { sum, product := some (left, op) } outer
      exact ((Reading.Step.product hop).leads hnext).trans (ihmore head sum outer)
  | signed hsign _ ih =>
      intro head level outer
      exact (Reading.Step.sign hsign).leads (ih head { level with signs := _ :: level.signs } outer)
  | primary _ ih =>
      intro head level outer
      have hfactor := (ih head level outer).trans (Reading.leads_term head level outer _)
      rwa [List.append_nil] at hfactor
  | number hkind hvalue =>
      exact fun head level outer => (Reading.Step.number hkind hvalue).leads (.refl _)
  | name hkind => exact fun head level outer => (Reading.Step.identifier hkind).leads (.refl _)
  | parens hopen hclose _ ih =>
      intro head level outer
      obtain ⟨sum, last, rfl, hinside⟩ := ih
      exact ((Reading.Step.opening hopen).leads (hinside head (level :: outer))).trans
        ((Reading.Step.closing hclose).leads (.refl _))

theorem DerivesStmt.leads {tokens : List Token} {stmt : Stmt} (h : DerivesStmt tokens stmt) :
    ∃ head level last, head.stmt (level.expr last) = stmt ∧
      Reading.nothing.Leads tokens (.operator head level [] last) := by
  cases h with
  | print hkind h =>
      obtain ⟨sum, last, rfl, hexpr⟩ := h.reads
      exact ⟨.print, { sum }, last, rfl, (Reading.Step.print hkind).leads (hexpr .print [])⟩
  | @assign name _ _ _ hname hequals h =>
      obtain ⟨sum, last, rfl, hexpr⟩ := h.reads
      exact ⟨.assign name.text, { sum }, last, rfl, (Reading.Step.name hname).leads
        ((Reading.Step.equals hequals).leads (hexpr (.assign name.text) []))⟩

/-- Input ends where no token stands before the end of input. -/
theorem Reading.statements_of_untilEof_eq_nil {tokens : List Token} (h : untilEof tokens = [])
    (stop : Nat) : ∃ pos, ∀ reading : Reading, reading.statements stop tokens = reading.finish pos := by
  cases tokens with
  | nil => exact ⟨stop, fun _ => rfl⟩
  | cons token rest =>
      by_cases hkind : token.kind = .eof
      · exact ⟨token.pos, fun _ => Reading.statements_eof hkind⟩
      · rw [untilEof_cons hkind] at h
        cases h

theorem DerivesLines.statements {tokens rest : List Token} {program : Program}
    (h : DerivesLines tokens program) (hrest : untilEof rest = []) (stop : Nat) :
    Reading.nothing.statements stop (tokens ++ rest) = .ok program := by
  obtain ⟨pos, hfinish⟩ := Reading.statements_of_untilEof_eq_nil hrest stop
  induction h with
  | done => exact hfinish .nothing
  | last h =>
      obtain ⟨head, level, last, rfl, hleads⟩ := h.leads
      rw [hleads, hfinish]
      rfl
  | @line _ newlines others _ _ h hne hnewlines _ ih =>
      obtain ⟨head, level, last, rfl, hleads⟩ := h.leads
      obtain ⟨newline, newlines, rfl⟩ := List.exists_cons_of_ne_nil hne
      obtain ⟨hkind, hmore⟩ := List.forall_mem_cons.mp hnewlines
      have hstep : Reading.Step newline (.operator head level [] last) .nothing _ := .complete hkind
      rw [List.append_assoc, List.append_assoc, hleads]
      refine (Reading.statements_cons hstep.kind_ne.1).mpr ⟨_, _, _, hstep, ?_, rfl⟩
      exact (Reading.leads_newlines hmore stop (others ++ rest)).trans ih

theorem parse_eq_ok {tokens : List Token} {program : Program} :
    parse tokens = .ok program ↔ DerivesProgram (untilEof tokens) program := by
  rw [parse_eq_read]
  constructor
  · intro h
    have hnothing : Reading.nothing.Spells [] := rfl
    exact Reading.statements_derives hnothing h
  · intro h
    obtain ⟨rest, hsplit, hrest⟩ := exists_untilEof_append tokens
    unfold read
    generalize endOf tokens = stop
    generalize untilEof tokens = derived at h hsplit
    cases h with
    | intro hnewlines hlines =>
        rw [← hsplit, List.append_assoc, Reading.leads_newlines hnewlines]
        exact hlines.statements hrest stop

theorem Reading.kind_ne_percent {stop : Nat} {reading : Reading} {tokens : List Token}
    {program : Program} (h : reading.statements stop tokens = .ok program) :
    ∀ token ∈ untilEof tokens, token.kind ≠ .percent := by
  induction tokens generalizing reading program with
  | nil => simp [untilEof]
  | cons token rest ih =>
      by_cases heof : token.kind = .eof
      · simp [untilEof_eof heof]
      · obtain ⟨after, done, others, hstep, hothers, -⟩ := (statements_cons heof).mp h
        rw [untilEof_cons heof]
        exact List.forall_mem_cons.mpr ⟨hstep.kind_ne.2, ih hothers⟩

/-- Tokens are accepted as a program exactly when those before the first end of input derive it. So
they derive at most one, and no remainder stands among them. -/
theorem parse_grammar (tokens : List Token) :
    (∀ program, parse tokens = .ok program ↔ DerivesProgram (untilEof tokens) program) ∧
      (∀ program program', DerivesProgram (untilEof tokens) program →
        DerivesProgram (untilEof tokens) program' → program = program') ∧
      ∀ program, parse tokens = .ok program →
        ∀ token ∈ untilEof tokens, token.kind ≠ .percent := by
  refine ⟨fun program => parse_eq_ok, fun program program' h h' => ?_, fun program h => ?_⟩
  · have hsame : (Except.ok program : Except SyntaxError Program) = .ok program' :=
      (parse_eq_ok.mpr h).symm.trans (parse_eq_ok.mpr h')
    exact Except.ok.inj hsame
  · rw [parse_eq_read] at h
    exact Reading.kind_ne_percent h

/-- The tokens of `print x - 7 - y`, and a remainder after the end of input. -/
theorem parse_grammar_subtractions :
    let tokens : List Token :=
      [⟨.print, "print", 0⟩, ⟨.identifier, "x", 6⟩, ⟨.minus, "-", 8⟩, ⟨.number, "7", 10⟩,
        ⟨.minus, "-", 12⟩, ⟨.identifier, "y", 14⟩, ⟨.eof, "", 15⟩, ⟨.percent, "%", 15⟩]
    let program : Program := [.print (.binary .sub (.binary .sub (.var "x") (.int 7)) (.var "y"))]
    DerivesProgram (untilEof tokens) program ∧
      ∀ token ∈ untilEof tokens, token.kind ≠ .percent := by
  intro tokens program
  have hparse : parse tokens = .ok program := (parse_eq_read tokens).trans rfl
  obtain ⟨hgrammar, -, hkinds⟩ := parse_grammar tokens
  exact ⟨(hgrammar program).mp hparse, hkinds program hparse⟩

end StraightLine.Source
