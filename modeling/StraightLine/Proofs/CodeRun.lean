import StraightLine.Bound.Code
import StraightLine.Bound.Run
import StraightLine.Code.Run
import StraightLine.Proofs.CodeText
import StraightLine.Proofs.Outcome

/-! Code does what the program it was made from does. The code of an expression writes temporaries
past those in use and nothing else, and leaves the value in the last of them; so the value of a left
operand is still there when the right one has been computed. Where an expression has no value, its
code stops for the same reason with the slots as they were. -/

namespace StraightLine

open Outcome

variable {wraps : Bool}

namespace Machine

/-- No temporary past `used` has been written. -/
def Fresh (machine : Machine) (used : Nat) : Prop :=
  ∀ temp, used < temp → machine.temps temp = none

/-- What code for an expression does to a machine: it leaves `word` in the temporary `last`, and
changes neither the slots nor the temporaries up to `used` nor those past `last`. -/
structure Computes (before after : Machine) (used last : Nat) (word : Word) : Prop where
  slots : after.slots = before.slots
  value : after.temps last = some word
  kept : ∀ temp ≤ used, after.temps temp = before.temps temp
  fresh : after.Fresh last

variable {before between after : Machine} {used last temp target : Nat} {word : Word}

theorem read_of_eq_some {machine : Machine} (h : machine.temps temp = some word) :
    machine.read temp = .ok word := by
  rw [read, h]

theorem write_of_eq_none {machine : Machine} (h : machine.temps temp = none) (word : Word) :
    machine.write temp word = .ok (machine.put temp word) := by
  rw [write, h]

theorem Fresh.put {machine : Machine} (hfresh : machine.Fresh used) (htarget : used < target)
    (word : Word) : (machine.put target word).Fresh target := by
  intro temp htemp
  have hne : temp ≠ target := by omega
  simp only [Machine.put]
  rw [if_neg hne]
  exact hfresh temp (by omega)

theorem Fresh.computes {machine : Machine} (hfresh : machine.Fresh used) (htarget : used < target)
    (word : Word) : machine.Computes (machine.put target word) used target word where
  slots := rfl
  value := if_pos rfl
  kept temp htemp := if_neg (by omega)
  fresh := hfresh.put htarget word

/-- What two pieces of code do one after the other. -/
theorem Computes.trans {middle : Nat} {first : Word}
    (hfirst : before.Computes between used middle first)
    (hsecond : between.Computes after middle last word) (hused : used ≤ middle) :
    before.Computes after used last word where
  slots := hsecond.slots.trans hfirst.slots
  value := hsecond.value
  kept temp htemp := (hsecond.kept temp (by omega)).trans (hfirst.kept temp htemp)
  fresh := hsecond.fresh

end Machine

namespace Code

variable {machine after : Machine} {instr : Instr} {rest : Code} {printed : Option Word}

theorem runFrom_inner (hret : instr ≠ .ret) (hinner : instr.endsStatement = false)
    (h : instr.run wraps machine = .ok (after, printed)) :
    runFrom wraps machine (instr :: rest) = runFrom wraps after rest := by
  rw [runFrom, h]
  · simp [hinner]
  · exact hret

theorem runFrom_last (hlast : instr.endsStatement = true)
    (h : instr.run wraps machine = .ok (after, printed)) :
    runFrom wraps machine (instr :: rest) = (runFrom wraps after rest).after printed := by
  rw [runFrom, h]
  · simp [hlast]
  · rintro rfl
    cases hlast

theorem runFrom_stop {stop : Stop Nat} (h : instr.run wraps machine = .error stop) :
    runFrom wraps machine (instr :: rest) = .halt machine.slots (some stop) := by
  rw [runFrom, h]
  rintro rfl
  cases h

theorem runFrom_copy {target : Nat} (value : Int) (hfresh : machine.temps target = none) :
    runFrom wraps machine (.copy target value :: rest) =
      runFrom wraps (machine.put target (Word.ofLiteral value)) rest := by
  have hrun : (Instr.copy target value).run wraps machine =
      .ok (machine.put target (Word.ofLiteral value), none) := by
    rw [Instr.run, Machine.write_of_eq_none hfresh]
    rfl
  exact runFrom_inner (by simp) rfl hrun

theorem runFrom_load {target slot : Nat} {word : Word} (hfresh : machine.temps target = none)
    (hload : machine.slots.load slot = .ok word) :
    runFrom wraps machine (.load target slot :: rest) =
      runFrom wraps (machine.put target word) rest := by
  have hrun : (Instr.load target slot).run wraps machine =
      .ok (machine.put target word, none) := by
    rw [Instr.run, hload, ok_bind, Machine.write_of_eq_none hfresh]
    rfl
  exact runFrom_inner (by simp) rfl hrun

theorem runFrom_arith {op : Arith} {target left right : Nat} {l r word : Word}
    (hleft : machine.temps left = some l) (hright : machine.temps right = some r)
    (hfresh : machine.temps target = none)
    (hop : op.run wraps l r = (.ok word : Except (Stop Nat) Word)) :
    runFrom wraps machine (.arith op target left right :: rest) =
      runFrom wraps (machine.put target word) rest := by
  have hrun : (Instr.arith op target left right).run wraps machine =
      .ok (machine.put target word, none) := by
    rw [Instr.run, Machine.read_of_eq_some hleft, ok_bind, Machine.read_of_eq_some hright, ok_bind,
      hop, ok_bind, Machine.write_of_eq_none hfresh]
    rfl
  exact runFrom_inner (by simp) rfl hrun

theorem runFrom_arith_stop {op : Arith} {target left right : Nat} {l r : Word} {stop : Stop Nat}
    (hleft : machine.temps left = some l) (hright : machine.temps right = some r)
    (hop : op.run wraps l r = .error stop) :
    runFrom wraps machine (.arith op target left right :: rest) =
      .halt machine.slots (some stop) := by
  apply runFrom_stop
  rw [Instr.run, Machine.read_of_eq_some hleft, ok_bind, Machine.read_of_eq_some hright, ok_bind,
    hop, error_bind]

end Code

namespace Bound

open Machine

/-- The code of an expression that has a value leaves the value in its last temporary. -/
theorem Expr.runFrom_code {expr : Expr} {machine : Machine} {used : Nat} {word : Word}
    (hfresh : machine.Fresh used) (heval : expr.eval wraps machine.slots = .ok word) :
    ∃ after, machine.Computes after used (used + expr.temps) word ∧
      ∀ rest, Code.runFrom wraps machine (expr.code used ++ rest) =
        Code.runFrom wraps after rest := by
  induction expr generalizing machine used word with
  | int value =>
      cases heval
      exact ⟨_, hfresh.computes (Nat.lt_succ_self used) _, fun rest =>
        Code.runFrom_copy value (hfresh _ (Nat.lt_succ_self used))⟩
  | var id =>
      exact ⟨_, hfresh.computes (Nat.lt_succ_self used) _, fun rest =>
        Code.runFrom_load (hfresh _ (Nat.lt_succ_self used)) heval⟩
  | unary sign operand ih =>
      simp only [Expr.eval, bind_eq_ok] at heval
      obtain ⟨value, hvalue, heval⟩ := heval
      cases heval
      obtain ⟨after, hcomputes, hcode⟩ := ih hfresh hvalue
      cases sign with
      | plus => exact ⟨after, hcomputes, hcode⟩
      | minus =>
          -- the zero is written after the operand, which is still there for the subtraction
          have hzero := hcomputes.fresh.computes (Nat.lt_succ_self _) (Word.ofLiteral 0)
          have hkept := (hzero.kept _ (Nat.le_refl _)).trans hcomputes.value
          have hdone := hzero.fresh.computes (Nat.lt_succ_self _) (Sign.minus.run value)
          have hlast := (hcomputes.trans hzero (Nat.le_add_right used _)).trans hdone (by omega)
          refine ⟨_, hlast, fun rest => ?_⟩
          rw [Expr.code, List.append_assoc, hcode, List.cons_append,
            Code.runFrom_copy 0 (hcomputes.fresh _ (Nat.lt_succ_self _)), List.cons_append]
          exact Code.runFrom_arith hzero.value hkept (hzero.fresh _ (Nat.lt_succ_self _)) rfl
  | binary op left right ihl ihr =>
      simp only [Expr.eval, bind_eq_ok] at heval
      obtain ⟨l, hl, r, hr, hop⟩ := heval
      obtain ⟨between, hleft, hlcode⟩ := ihl hfresh hl
      rw [← hleft.slots] at hr
      obtain ⟨after, hright, hrcode⟩ := ihr hleft.fresh hr
      have hkept := (hright.kept _ (Nat.le_refl _)).trans hleft.value
      have hdone := hright.fresh.computes (Nat.lt_succ_self _) word
      have hboth := hleft.trans hright (Nat.le_add_right used _)
      have hlast := hboth.trans hdone (by omega)
      have htemps : used + (Expr.binary op left right).temps =
          used + left.temps + right.temps + 1 := by
        rw [Expr.temps]
        omega
      rw [htemps]
      refine ⟨_, hlast, fun rest => ?_⟩
      rw [Expr.code, List.append_assoc, List.append_assoc, hlcode, hrcode, List.cons_append]
      exact Code.runFrom_arith hkept hright.value (hright.fresh _ (Nat.lt_succ_self _)) hop

/-- The code of an expression that has no value stops for the same reason. -/
theorem Expr.runFrom_code_stop {expr : Expr} {machine : Machine} {used : Nat} {stop : Stop Nat}
    (hfresh : machine.Fresh used) (heval : expr.eval wraps machine.slots = .error stop)
    (rest : Code) :
    Code.runFrom wraps machine (expr.code used ++ rest) = .halt machine.slots (some stop) := by
  induction expr generalizing machine used rest with
  | int value => cases heval
  | var id =>
      apply Code.runFrom_stop
      rw [Instr.run, show machine.slots.load id = .error stop from heval, error_bind]
  | unary sign operand ih =>
      simp only [Expr.eval, bind_eq_error] at heval
      rcases heval with hoperand | ⟨value, -, hvalue⟩
      · cases sign with
        | plus => exact ih hfresh hoperand rest
        | minus =>
            rw [Expr.code, List.append_assoc]
            exact ih hfresh hoperand _
      · cases hvalue
  | binary op left right ihl ihr =>
      simp only [Expr.eval, bind_eq_error] at heval
      rw [Expr.code, List.append_assoc, List.append_assoc]
      rcases heval with hl | ⟨l, hl, hr | ⟨r, hr, hop⟩⟩
      · exact ihl hfresh hl _
      · obtain ⟨between, hleft, hlcode⟩ := Expr.runFrom_code hfresh hl
        rw [← hleft.slots] at hr
        rw [hlcode, ihr hleft.fresh hr, hleft.slots]
      · obtain ⟨between, hleft, hlcode⟩ := Expr.runFrom_code hfresh hl
        rw [← hleft.slots] at hr
        obtain ⟨after, hright, hrcode⟩ := Expr.runFrom_code hleft.fresh hr
        have hkept := (hright.kept _ (Nat.le_refl _)).trans hleft.value
        rw [hlcode, hrcode, List.cons_append, Code.runFrom_arith_stop hkept hright.value hop,
          hright.slots, hleft.slots]

/-- The code of a statement does what the statement does, and leaves the temporaries past its own
unwritten. -/
theorem Stmt.runFrom_code {stmt : Stmt} {machine : Machine} {used : Nat} {slots : Slots}
    {printed : Option Word} (hfresh : machine.Fresh used)
    (hrun : stmt.run wraps machine.slots = .ok (slots, printed)) :
    ∃ after, after.slots = slots ∧ after.Fresh (used + stmt.value.temps) ∧
      ∀ rest, Code.runFrom wraps machine (stmt.code used ++ rest) =
        (Code.runFrom wraps after rest).after printed := by
  cases stmt with
  | assign id value =>
      simp only [Stmt.run, bind_eq_ok] at hrun
      obtain ⟨word, hword, stored, hstored, hrun⟩ := hrun
      cases hrun
      obtain ⟨after, hcomputes, hcode⟩ := Expr.runFrom_code hfresh hword
      refine ⟨{ after with slots }, rfl, hcomputes.fresh, fun rest => ?_⟩
      rw [Stmt.code, List.append_assoc]
      refine (hcode _).trans (Code.runFrom_last rfl ?_)
      rw [Stmt.effect, Instr.run, Stmt.value, read_of_eq_some hcomputes.value, ok_bind,
        hcomputes.slots, hstored]
      rfl
  | print value =>
      simp only [Stmt.run, bind_eq_ok] at hrun
      obtain ⟨word, hword, hrun⟩ := hrun
      cases hrun
      obtain ⟨after, hcomputes, hcode⟩ := Expr.runFrom_code hfresh hword
      refine ⟨after, hcomputes.slots, hcomputes.fresh, fun rest => ?_⟩
      rw [Stmt.code, List.append_assoc]
      refine (hcode _).trans (Code.runFrom_last rfl ?_)
      rw [Stmt.effect, Instr.run, Stmt.value, read_of_eq_some hcomputes.value]
      rfl

theorem Stmt.runFrom_code_stop {stmt : Stmt} {machine : Machine} {used : Nat} {stop : Stop Nat}
    (hfresh : machine.Fresh used) (hrun : stmt.run wraps machine.slots = .error stop)
    (rest : Code) :
    Code.runFrom wraps machine (stmt.code used ++ rest) = .halt machine.slots (some stop) := by
  rw [Stmt.code, List.append_assoc]
  cases stmt with
  | assign id value =>
      simp only [Stmt.run, bind_eq_error] at hrun
      rcases hrun with hvalue | ⟨word, hword, hstore | ⟨stored, -, hnone⟩⟩
      · exact Expr.runFrom_code_stop hfresh hvalue _
      · obtain ⟨after, hcomputes, hcode⟩ := Expr.runFrom_code hfresh hword
        refine (hcode _).trans ?_
        rw [← hcomputes.slots]
        apply Code.runFrom_stop
        rw [Stmt.effect, Instr.run, Stmt.value, read_of_eq_some hcomputes.value, ok_bind,
          hcomputes.slots, hstore, error_bind]
      · cases hnone
  | print value =>
      simp only [Stmt.run, bind_eq_error] at hrun
      rcases hrun with hvalue | ⟨word, -, hnone⟩
      · exact Expr.runFrom_code_stop hfresh hvalue _
      · cases hnone

/-- The code of statements, and then a return, runs as the statements do. -/
theorem runFrom_codeFrom {stmts : List Stmt} {machine : Machine} {used : Nat}
    (hfresh : machine.Fresh used) :
    Code.runFrom wraps machine (codeFrom used stmts ++ [.ret]) =
      runFrom wraps machine.slots stmts := by
  induction stmts generalizing machine used with
  | nil => rfl
  | cons stmt rest ih =>
      rw [codeFrom, List.append_assoc, runFrom]
      cases hrun : stmt.run wraps machine.slots with
      | error stop => exact Stmt.runFrom_code_stop hfresh hrun _
      | ok result =>
          obtain ⟨slots, printed⟩ := result
          obtain ⟨after, hslots, hafter, hcode⟩ := Stmt.runFrom_code hfresh hrun
          rw [hcode, ih hafter, hslots]

/-- The slots of a program stand ready before its first statement. -/
theorem runFrom_alloc (count : Nat) (rest : Code) :
    Code.runFrom wraps Machine.initial ((List.range count).map .alloc ++ rest) =
      Code.runFrom wraps { Machine.initial with slots := Slots.empty count } rest := by
  induction count generalizing rest with
  | zero =>
      have hempty : Slots.empty 0 = Slots.absent := by
        funext id
        rfl
      rw [hempty]
      rfl
  | succ count ih =>
      rw [List.range_succ, List.map_append, List.append_assoc, ih, Slots.empty_succ]
      rfl

theorem Program.run_code (program : Program) :
    program.code.run wraps = program.run wraps := by
  have hfresh : Machine.Fresh { Machine.initial with slots := Slots.empty program.names.length } 0 :=
    fun _ _ => rfl
  rw [Code.run, Program.code, List.append_assoc, runFrom_alloc, runFrom_codeFrom hfresh]
  rfl

/-- The text of a program's code is read back line by line, and what was read runs as the program:
it prints the same values, completes as many statements, leaves the same words in the same slots,
and stops early for the same reason if it does. -/
theorem Program.run_text (program : Program) (wraps : Bool) (h : program.hasErrors = false) :
    ∃ code, program.code? = .ok code ∧ Code.read? code.render = some code ∧
      code.run wraps = program.run wraps := by
  refine ⟨program.code, ?_, Code.read?_render _, program.run_code⟩
  rw [Program.code?, h]
  rfl

/-- A program with a warning that negates twice and then reads an empty slot. -/
theorem Program.run_text_unassigned :
    ∃ code, Program.code? ⟨[.assign 0 (.unary .minus (.int 5)), .print (.unary .minus (.var 0)),
        .print (.var 1)], ["a", "b"], [⟨.warning, "never read"⟩]⟩ = .ok code ∧
      Code.read? code.render = some code ∧ (code.run true).printed = [5] ∧
      (code.run true).completed = 2 ∧ (code.run true).stop = some (.unassigned 1) := by
  obtain ⟨code, hcode, hread, hrun⟩ := Program.run_text
    ⟨[.assign 0 (.unary .minus (.int 5)), .print (.unary .minus (.var 0)), .print (.var 1)],
      ["a", "b"], [⟨.warning, "never read"⟩]⟩ true rfl
  exact ⟨code, hcode, hread, by rw [hrun]; rfl, by rw [hrun]; rfl, by rw [hrun]; rfl⟩

end Bound

end StraightLine
