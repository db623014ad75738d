import Mathlib.Data.List.Basic
import StraightLine.Code.Temps
import StraightLine.Compile
import StraightLine.Proofs.CodeText

/-! Code is in single-assignment form. The code of an expression defines the temporaries that follow
those in use, one after another, and the last of them last; so whatever an instruction uses is
defined a few lines before it, by code of the same expression. Statements go on counting where the
statement before them stopped, so the temporaries of a program are counted from one without a gap. -/

namespace StraightLine

theorem slotName_ne_tempName (slot temp : Nat) : slotName slot ≠ tempName temp := by
  intro hsame
  have hchars := congrArg String.toList hsame
  simp [slotName, tempName] at hchars

/-- What defines a temporary ends no statement. -/
theorem Instr.endsStatement_eq_false (instr : Instr) (h : instr.target?.isSome = true) :
    instr.endsStatement = false := by
  cases instr with
  | store temp slot => cases h
  | print temp => cases h
  | _ => rfl

namespace Code

variable {first second : Code} {instr : Instr} {temp : Nat}

theorem targets_append (first second : Code) :
    (first ++ second).targets = first.targets ++ second.targets :=
  List.filterMap_append

theorem mem_targets {code : Code} :
    temp ∈ code.targets ↔ ∃ instr ∈ code, instr.target? = some temp :=
  List.mem_filterMap

/-- Where no temporary is defined twice, each is defined on one line only. -/
theorem definesOnce_of_nodup {code : Code} (hnodup : code.targets.Nodup)
    (htemp : temp ∈ code.targets) : code.DefinesOnce temp := by
  obtain ⟨definition, hmem, htarget⟩ := mem_targets.mp htemp
  obtain ⟨before, after, rfl⟩ := List.append_of_mem hmem
  refine ⟨before, definition, after, rfl, htarget, ?_⟩
  have hsplit : targets (before ++ definition :: after) =
      targets before ++ temp :: targets after := by
    rw [targets_append, targets, targets, List.filterMap_cons_some htarget]
    rfl
  rw [hsplit] at hnodup
  have hothers : temp ∉ targets before ++ targets after :=
    (List.nodup_cons.mp (List.perm_middle.nodup_iff.mp hnodup)).1
  intro other hother hsame
  apply hothers
  rw [← targets_append]
  exact mem_targets.mpr ⟨other, hother, hsame⟩

namespace DefinedFirst

theorem of_noOperands {code : Code} (h : ∀ instr ∈ code, instr.operands = []) :
    code.DefinedFirst := by
  rintro before instr after rfl temp htemp
  rw [h instr (by simp)] at htemp
  exact absurd htemp List.not_mem_nil

theorem append (hfirst : first.DefinedFirst) (hsecond : second.DefinedFirst) :
    (first ++ second).DefinedFirst := by
  intro before instr after hsplit temp htemp
  rcases List.append_eq_append_iff.mp hsplit with ⟨middle, rfl, hmiddle⟩ | ⟨middle, hleft, hright⟩
  · obtain ⟨start, definition, between, rfl, htarget, hbetween⟩ :=
      hsecond middle instr after hmiddle temp htemp
    exact ⟨first ++ start, definition, between, by rw [List.append_assoc], htarget, hbetween⟩
  · cases middle with
    | nil =>
        rw [List.append_nil] at hleft
        subst hleft
        obtain ⟨start, definition, between, hnil, -⟩ :=
          hsecond [] instr after hright.symm temp htemp
        simp at hnil
    | cons head middle =>
        cases hright
        exact hfirst before instr middle hleft temp htemp

/-- An instruction after code of one statement uses what the code defines. -/
theorem snoc (hfirst : first.DefinedFirst)
    (hinner : ∀ other ∈ first, other.endsStatement = false)
    (huses : ∀ temp ∈ instr.operands, temp ∈ first.targets) :
    (first ++ [instr]).DefinedFirst := by
  intro before used after hsplit temp htemp
  rcases List.eq_nil_or_concat after with rfl | ⟨rest, last, rfl⟩
  · obtain ⟨rfl, hinstr⟩ := List.append_inj' hsplit rfl
    cases hinstr
    obtain ⟨definition, hmem, htarget⟩ := mem_targets.mp (huses temp htemp)
    obtain ⟨start, between, rfl⟩ := List.append_of_mem hmem
    refine ⟨start, definition, between, rfl, htarget, ?_⟩
    intro other hother
    exact hinner other (by simp [hother])
  · -- the line lies in the code before the instruction
    have hshift : before ++ used :: rest.concat last = (before ++ used :: rest) ++ [last] := by
      simp
    rw [hshift] at hsplit
    obtain ⟨hbefore, -⟩ := List.append_inj' hsplit rfl
    exact hfirst before used rest hbefore temp htemp

end DefinedFirst

end Code

namespace Bound

theorem Expr.temps_pos (expr : Expr) : 0 < expr.temps := by
  induction expr with
  | int value => exact Nat.one_pos
  | var id => exact Nat.one_pos
  | unary sign operand ih =>
      cases sign with
      | plus => exact ih
      | minus =>
          rw [Expr.temps]
          omega
  | binary op left right _ _ =>
      rw [Expr.temps]
      omega

/-- The code of an expression defines the temporaries after those in use, in order. -/
theorem Expr.targets_code (expr : Expr) (used : Nat) :
    (expr.code used).targets = List.range' (used + 1) expr.temps := by
  induction expr generalizing used with
  | int value => rfl
  | var id => rfl
  | unary sign operand ih =>
      cases sign with
      | plus => exact ih used
      | minus =>
          have hlast : used + operand.temps + 1 = used + 1 + operand.temps := by omega
          calc
            _ = (operand.code used).targets ++
                List.range' (used + operand.temps + 1) 2 := by
              rw [Expr.code, Code.targets_append]
              rfl
            _ = List.range' (used + 1) (operand.temps + 2) := by
              rw [ih, hlast, List.range'_append_1]
  | binary op left right ihl ihr =>
      have hright : used + left.temps + 1 = used + 1 + left.temps := by omega
      have hlast : used + left.temps + right.temps + 1 =
          used + 1 + (left.temps + right.temps) := by omega
      calc
        _ = (left.code used).targets ++ (right.code (used + left.temps)).targets ++
            List.range' (used + left.temps + right.temps + 1) 1 := by
          rw [Expr.code, Code.targets_append, Code.targets_append]
          rfl
        _ = List.range' (used + 1) (left.temps + right.temps + 1) := by
          rw [ihl, ihr, hright, List.range'_append_1, hlast, List.range'_append_1]

theorem Expr.last_mem_targets (expr : Expr) (used : Nat) :
    used + expr.temps ∈ (expr.code used).targets := by
  have hpos := expr.temps_pos
  rw [Expr.targets_code, List.mem_range'_1]
  omega

theorem Expr.defines_code (expr : Expr) (used : Nat) :
    ∀ instr ∈ expr.code used, instr.target?.isSome = true := by
  induction expr generalizing used with
  | int value => simp [Expr.code, Instr.target?]
  | var id => simp [Expr.code, Instr.target?]
  | unary sign operand ih =>
      cases sign with
      | plus => exact ih used
      | minus =>
          simp only [Expr.code, List.forall_mem_append, List.forall_mem_cons]
          exact ⟨ih used, rfl, rfl, fun _ h => absurd h List.not_mem_nil⟩
  | binary op left right ihl ihr =>
      simp only [Expr.code, List.forall_mem_append, List.forall_mem_cons]
      exact ⟨⟨ihl used, ihr _⟩, rfl, fun _ h => absurd h List.not_mem_nil⟩

theorem Expr.inner_code (expr : Expr) (used : Nat) :
    ∀ instr ∈ expr.code used, instr.endsStatement = false :=
  fun instr hinstr => instr.endsStatement_eq_false (expr.defines_code used instr hinstr)

/-- Whatever an instruction of an expression uses, the code of the expression has defined. -/
theorem Expr.definedFirst_code (expr : Expr) (used : Nat) : (expr.code used).DefinedFirst := by
  induction expr generalizing used with
  | int value => exact .of_noOperands (by simp [Expr.code, Instr.operands])
  | var id => exact .of_noOperands (by simp [Expr.code, Instr.operands])
  | unary sign operand ih =>
      cases sign with
      | plus => exact ih used
      | minus =>
          have hzero : Code.DefinedFirst [.copy (used + operand.temps + 1) 0] :=
            .of_noOperands (by simp [Instr.operands])
          have hoperand := (ih used).append hzero
          have hvalue := operand.last_mem_targets used
          have hcode : (Expr.unary .minus operand).code used =
              operand.code used ++ [.copy (used + operand.temps + 1) 0] ++
                [.arith .sub (used + operand.temps + 2) (used + operand.temps + 1)
                  (used + operand.temps)] := by
            rw [Expr.code, List.append_assoc]
            rfl
          rw [hcode]
          apply hoperand.snoc
          · simp only [List.forall_mem_append, List.forall_mem_singleton]
            exact ⟨operand.inner_code used, rfl⟩
          · simp only [Instr.operands, List.forall_mem_cons, Code.targets_append, List.mem_append]
            refine ⟨Or.inr ?_, Or.inl hvalue, fun _ h => absurd h List.not_mem_nil⟩
            exact List.mem_singleton.mpr rfl
  | binary op left right ihl ihr =>
      have hboth := (ihl used).append (ihr (used + left.temps))
      have hleft := left.last_mem_targets used
      have hright := right.last_mem_targets (used + left.temps)
      rw [Expr.code]
      apply hboth.snoc
      · exact List.forall_mem_append.mpr ⟨left.inner_code used, right.inner_code _⟩
      · simp only [Instr.operands, List.forall_mem_cons, Code.targets_append, List.mem_append]
        exact ⟨Or.inl hleft, Or.inr hright, fun _ h => absurd h List.not_mem_nil⟩

theorem Stmt.targets_code (stmt : Stmt) (used : Nat) :
    (stmt.code used).targets = List.range' (used + 1) stmt.value.temps := by
  have heffect : Code.targets [stmt.effect (used + stmt.value.temps)] = [] := by
    cases stmt <;> rfl
  rw [Stmt.code, Code.targets_append, heffect, List.append_nil, Expr.targets_code]

theorem Stmt.definedFirst_code (stmt : Stmt) (used : Nat) : (stmt.code used).DefinedFirst := by
  apply (stmt.value.definedFirst_code used).snoc (stmt.value.inner_code used)
  have hlast := stmt.value.last_mem_targets used
  cases stmt with
  | assign id value => exact List.forall_mem_singleton.mpr hlast
  | print value => exact List.forall_mem_singleton.mpr hlast

theorem Stmt.filter_code (stmt : Stmt) (used : Nat) :
    (stmt.code used).filter Instr.endsStatement = [stmt.effect (used + stmt.value.temps)] := by
  have hinner : (stmt.value.code used).filter Instr.endsStatement = [] := by
    rw [List.filter_eq_nil_iff]
    intro instr hinstr
    simp [stmt.value.inner_code used instr hinstr]
  rw [Stmt.code, List.filter_append, hinner]
  cases stmt <;> rfl

theorem targets_codeFrom (stmts : List Stmt) (used : Nat) :
    (codeFrom used stmts).targets = List.range' (used + 1) (tempsOf stmts) := by
  induction stmts generalizing used with
  | nil => rfl
  | cons stmt rest ih =>
      have hrest : used + stmt.value.temps + 1 = used + 1 + stmt.value.temps := by omega
      rw [codeFrom, Code.targets_append, Stmt.targets_code, ih, hrest, List.range'_append_1]
      rfl

theorem definedFirst_codeFrom (stmts : List Stmt) (used : Nat) :
    (codeFrom used stmts).DefinedFirst := by
  induction stmts generalizing used with
  | nil => exact .of_noOperands fun _ h => absurd h List.not_mem_nil
  | cons stmt rest ih => exact (stmt.definedFirst_code used).append (ih _)

/-- The lines that end statements do what the statements do, in order. -/
theorem filter_codeFrom (stmts : List Stmt) (used : Nat) :
    List.Forall₂ (fun stmt instr => ∃ temp, instr = stmt.effect temp) stmts
      ((codeFrom used stmts).filter Instr.endsStatement) := by
  induction stmts generalizing used with
  | nil => exact .nil
  | cons stmt rest ih =>
      rw [codeFrom, List.filter_append, Stmt.filter_code, List.singleton_append]
      exact .cons ⟨_, rfl⟩ (ih _)

namespace Program

/-- Allocations define no temporary, use none and end no statement. -/
theorem allocations_idle (count : Nat) :
    ∀ instr ∈ (List.range count).map Instr.alloc,
      instr.target? = none ∧ instr.operands = [] ∧ instr.endsStatement = false := by
  intro instr hinstr
  obtain ⟨slot, -, rfl⟩ := List.mem_map.mp hinstr
  exact ⟨rfl, rfl, rfl⟩

theorem targets_code (program : Program) :
    program.code.targets = List.range' 1 program.temps := by
  have hslots : Code.targets ((List.range program.names.length).map Instr.alloc) = [] := by
    rw [Code.targets, List.filterMap_eq_nil_iff]
    exact fun instr hinstr => (allocations_idle _ instr hinstr).1
  have hret : Code.targets [.ret] = [] := rfl
  rw [Program.code, Code.targets_append, Code.targets_append, hslots, hret, List.nil_append,
    List.append_nil, targets_codeFrom]
  rfl

theorem definedFirst_code (program : Program) : program.code.DefinedFirst := by
  have hslots : Code.DefinedFirst ((List.range program.names.length).map Instr.alloc) :=
    .of_noOperands fun instr hinstr => (allocations_idle _ instr hinstr).2.1
  have hret : Code.DefinedFirst [.ret] := .of_noOperands (List.forall_mem_singleton.mpr rfl)
  exact (hslots.append (definedFirst_codeFrom _ 0)).append hret

theorem filter_code (program : Program) :
    program.code.filter Instr.endsStatement =
      (codeFrom 0 program.stmts).filter Instr.endsStatement := by
  have hslots : ((List.range program.names.length).map Instr.alloc).filter
      Instr.endsStatement = [] := by
    rw [List.filter_eq_nil_iff]
    intro instr hinstr
    simp [(allocations_idle _ instr hinstr).2.2]
  rw [Program.code, List.filter_append, List.filter_append, hslots]
  simp [Instr.endsStatement]

/-- The text of a program's code, read back line by line, is in single-assignment form: it defines
the temporaries from one up to the reported number, in this order and each on one line; what a line
uses is defined on a line before it, in the same statement; and the names of slots are no names of
temporaries. Statements end where the program's statements take effect. -/
theorem singleAssignment_text (program : Program) (h : program.hasErrors = false) :
    ∃ code count, program.code? = .ok code ∧
      (writeCode program).outcome = .ok code.render ∧
      (writeCode program).events =
        program.names.mapIdx Event.slot ++ [.coded count code.render.utf8ByteSize] ∧
      Code.read? code.render = some code ∧
      code.targets = List.range' 1 count ∧
      (∀ temp ∈ List.range' 1 count, code.DefinesOnce temp) ∧
      code.DefinedFirst ∧
      List.Forall₂ (fun stmt instr => ∃ temp, instr = stmt.effect temp) program.stmts
        (code.filter Instr.endsStatement) ∧
      ∀ slot temp, slotName slot ≠ tempName temp := by
  have hcode : program.code? = .ok program.code := by
    rw [Program.code?, h]
    rfl
  refine ⟨program.code, program.temps, hcode, rfl, rfl, Code.read?_render _, program.targets_code,
    ?_, program.definedFirst_code, ?_, slotName_ne_tempName⟩
  · intro temp htemp
    rw [← program.targets_code] at htemp
    apply Code.definesOnce_of_nodup _ htemp
    rw [program.targets_code]
    exact List.nodup_range'
  · rw [program.filter_code]
    exact filter_codeFrom _ 0

/-- A program with a warning that assigns to a variable without a slot and has a literal that no word
holds. -/
theorem singleAssignment_text_noSlot :
    let program : Program :=
      ⟨[.assign 7 (.unary .minus (.int 5)),
          .print (.binary .add (.var 0) (.unary .plus (.int 9000000000)))],
        ["a"], [⟨.warning, "never read"⟩]⟩
    program.hasErrors = false ∧
      ∃ code, program.code? = .ok code ∧ Code.read? code.render = some code ∧
        code.targets = [1, 2, 3, 4, 5, 6] ∧ code.DefinesOnce 2 ∧ code.DefinedFirst ∧
        Event.coded 6 code.render.utf8ByteSize ∈ (writeCode program).events := by
  intro program
  have hclean : program.hasErrors = false := rfl
  obtain ⟨code, count, hcode, -, hevents, hread, htargets, honce, hfirst, -⟩ :=
    singleAssignment_text program hclean
  cases hcode
  have hcount : count = 6 := by
    have hlength := congrArg List.length htargets
    rw [List.length_range'] at hlength
    exact hlength.symm
  subst hcount
  refine ⟨hclean, _, rfl, hread, htargets, honce 2 (by decide), hfirst, ?_⟩
  rw [hevents]
  exact List.mem_append_right _ List.mem_cons_self

end Program

end Bound

end StraightLine
