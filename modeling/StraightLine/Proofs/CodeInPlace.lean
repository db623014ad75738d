import StraightLine.Proofs.AssignedFirst
import StraightLine.Proofs.Compilation
import StraightLine.Proofs.FoldRange

/-! Compiled code can be executed. Its slots are allocated before all else, it loads from a slot only
after a store to it, and its literals fit a word. All this is read off the text of the code, so
nothing but a zero divisor is left that could stop a run of it.

Only the last part of `compile_inPlace`, about runs, depends on the numbers of temporaries, and so on
there being fewer than `2 ^ 32` where they are counted in 32 bits. -/

namespace StraightLine

open Outcome

/-- An instruction in place after slots for the first `count` numbers have been allocated: it
allocates none, the slot it names is one of these, and its literal fits a word. -/
def Instr.InPlace (count : Nat) : Instr → Prop
  | .alloc _ => False
  | .copy _ value => FitsWord value
  | .load _ slot => slot < count
  | .arith _ _ _ _ => True
  | .store _ slot => slot < count
  | .print _ => True
  | .ret => True

/-- A load from a slot that is not in `held` comes after a store to the slot. -/
def Code.StoredFirst (held : List Nat) (code : Code) : Prop :=
  ∀ before target slot after, code = before ++ .load target slot :: after →
    slot ∈ held ∨ ∃ temp, .store temp slot ∈ before

namespace Code.StoredFirst

variable {held held' : List Nat} {first second : Code}

theorem of_loads (h : ∀ target slot, .load target slot ∈ first → slot ∈ held) :
    StoredFirst held first := by
  rintro before target slot after rfl
  exact Or.inl (h target slot (by simp))

/-- Code after code that stores to the slots it takes for granted. -/
theorem append (hfirst : StoredFirst held first) (hsecond : StoredFirst held' second)
    (hheld : ∀ slot ∈ held', slot ∈ held ∨ ∃ temp, .store temp slot ∈ first) :
    StoredFirst held (first ++ second) := by
  intro before target slot after hsplit
  rcases List.append_eq_append_iff.mp hsplit with ⟨middle, rfl, hmiddle⟩ | ⟨middle, rfl, hmiddle⟩
  · rcases hsecond middle target slot after hmiddle with hslot | ⟨temp, htemp⟩
    · rcases hheld slot hslot with hslot | ⟨temp, htemp⟩
      · exact Or.inl hslot
      · exact Or.inr ⟨temp, List.mem_append_left _ htemp⟩
    · exact Or.inr ⟨temp, List.mem_append_right _ htemp⟩
  · cases middle with
    | nil =>
        rcases hsecond [] target slot after hmiddle.symm with hslot | ⟨temp, htemp⟩
        · have hnone := hheld slot hslot
          rwa [List.append_nil] at hnone
        · exact absurd htemp List.not_mem_nil
    | cons instr middle =>
        cases hmiddle
        exact hfirst before target slot middle rfl

end Code.StoredFirst

namespace Bound

variable {count : Nat}

theorem Expr.code_inPlace {expr : Expr} (hfits : expr.Fits) (hvars : ∀ id ∈ expr.vars, id < count)
    (used : Nat) : ∀ instr ∈ expr.code used, instr.InPlace count := by
  induction expr generalizing used with
  | int value =>
      intro instr hinstr
      rw [List.mem_singleton.mp hinstr]
      exact hfits
  | var id =>
      intro instr hinstr
      rw [List.mem_singleton.mp hinstr]
      exact hvars id List.mem_cons_self
  | unary sign operand ih =>
      cases sign with
      | plus => exact ih hfits hvars used
      | minus =>
          have hzero : FitsWord 0 := by decide
          simp only [Expr.code, List.forall_mem_append, List.forall_mem_cons]
          exact ⟨ih hfits hvars used, hzero, trivial, fun _ h => absurd h List.not_mem_nil⟩
  | binary op left right ihl ihr =>
      simp only [Expr.vars, List.forall_mem_append] at hvars
      simp only [Expr.code, List.forall_mem_append, List.forall_mem_cons]
      exact ⟨⟨ihl hfits.1 hvars.1 used, ihr hfits.2 hvars.2 _⟩, trivial,
        fun _ h => absurd h List.not_mem_nil⟩

theorem Expr.mem_vars_of_load {expr : Expr} {used target slot : Nat}
    (h : .load target slot ∈ expr.code used) : slot ∈ expr.vars := by
  induction expr generalizing used with
  | int value => simp [Expr.code] at h
  | var id => simp_all [Expr.code, Expr.vars]
  | unary sign operand ih =>
      cases sign with
      | plus => exact ih h
      | minus =>
          simp only [Expr.code, List.mem_append] at h
          rcases h with hoperand | hlast
          · exact ih hoperand
          · simp at hlast
  | binary op left right ihl ihr =>
      simp only [Expr.code, List.mem_append] at h
      rcases h with (hleft | hright) | hlast
      · exact List.mem_append_left _ (ihl hleft)
      · exact List.mem_append_right _ (ihr hright)
      · simp at hlast

theorem Stmt.code_inPlace {stmt : Stmt} (hfits : stmt.value.Fits)
    (hvars : ∀ id ∈ stmt.value.vars, id < count)
    (htarget : ∀ id value, stmt = .assign id value → id < count) (used : Nat) :
    ∀ instr ∈ stmt.code used, instr.InPlace count := by
  simp only [Stmt.code, List.forall_mem_append, List.forall_mem_cons]
  refine ⟨Expr.code_inPlace hfits hvars used, ?_, fun _ h => absurd h List.not_mem_nil⟩
  cases stmt with
  | assign id value => exact htarget id value rfl
  | print value => trivial

theorem Stmt.storedFirst_code {stmt : Stmt} {held : List Nat} (h : stmt.value.vars ⊆ held)
    (used : Nat) : Code.StoredFirst held (stmt.code used) := by
  refine .of_loads fun target slot hload => ?_
  simp only [Stmt.code, List.mem_append, List.mem_singleton] at hload
  rcases hload with hexpr | heffect
  · exact h (Expr.mem_vars_of_load hexpr)
  · cases stmt <;> cases heffect

theorem codeFrom_inPlace {held : List Nat} {stmts : List Stmt}
    (h : AssignedFirst count held stmts) (hheld : ∀ id ∈ held, id < count)
    (hfits : ∀ stmt ∈ stmts, stmt.value.Fits) (used : Nat) :
    ∀ instr ∈ codeFrom used stmts, instr.InPlace count := by
  induction h generalizing used with
  | done held => exact fun _ hinstr => absurd hinstr List.not_mem_nil
  | assign hvalue hid _ ih =>
      obtain ⟨hstmt, hrest⟩ := List.forall_mem_cons.mp hfits
      refine List.forall_mem_append.mpr ⟨Stmt.code_inPlace hstmt ?_ ?_ used,
        ih (List.forall_mem_cons.mpr ⟨hid, hheld⟩) hrest _⟩
      · exact fun id hmem => hheld id (hvalue hmem)
      · rintro _ _ ⟨⟩
        exact hid
  | print hvalue _ ih =>
      obtain ⟨hstmt, hrest⟩ := List.forall_mem_cons.mp hfits
      refine List.forall_mem_append.mpr ⟨Stmt.code_inPlace hstmt ?_ ?_ used, ih hheld hrest _⟩
      · exact fun id hmem => hheld id (hvalue hmem)
      · rintro _ _ ⟨⟩

/-- Where variables are assigned to before they are read, slots are stored to before they are loaded
from. -/
theorem AssignedFirst.storedFirst {held : List Nat} {stmts : List Stmt}
    (h : AssignedFirst count held stmts) (used : Nat) :
    Code.StoredFirst held (codeFrom used stmts) := by
  induction h generalizing used with
  | done held => exact .of_loads fun _ _ hload => absurd hload List.not_mem_nil
  | assign hvalue hid _ ih =>
      refine (Stmt.storedFirst_code hvalue used).append (ih _) ?_
      intro slot hslot
      rcases List.mem_cons.mp hslot with rfl | hslot
      · exact Or.inr ⟨_, List.mem_append_right _ (List.mem_singleton.mpr rfl)⟩
      · exact Or.inl hslot
  | print hvalue _ ih =>
      exact (Stmt.storedFirst_code hvalue used).append (ih _) fun _ hslot => Or.inl hslot

end Bound

/-- The program that code is written for has literals in range and assigns to every variable before
it reads it, if the program it was made from has no faults. -/
theorem Prepared.inPlace {options : Options} {program : Source.Program} {final : Bound.Program}
    (h : Prepared options (Source.bind program) final)
    (herrors : (Source.bind program).hasErrors = false) :
    (∀ stmt ∈ final.stmts, stmt.value.Fits) ∧
      Bound.AssignedFirst final.names.length [] final.stmts := by
  have hbound := Source.assignedFirst_bind program
  cases h with
  | @folded folded _ hfold =>
      have hsettles := Source.fold_bind_settles herrors
      rw [hfold] at hsettles
      obtain ⟨stmts, hstmts, hprogram⟩ := Bound.Program.fold_eq_ok hfold
      refine ⟨hsettles, ?_⟩
      rw [hprogram]
      exact hbound.fold hstmts
  | plain _ => exact ⟨Source.fits_bindFrom herrors, hbound⟩

/-- Whatever text is compiled, folded or not, the code text lists allocations of the slots from zero
up, each once, and then instructions in place, of which a load from a slot comes after a store to it,
and is read back as these. A run of it stops early only at a zero divisor; where the quotient of the
smallest word and minus one does not wrap around, that quotient is the one reason more. -/
theorem compile_inPlace (options : Options) (text ir : String)
    (h : (compile options text).outcome = .ok ir) :
    ∃ code count body, ir = code.render ∧ Code.read? ir = some code ∧
      code = (List.range count).map .alloc ++ body ∧
      (∀ instr ∈ body, instr.InPlace count) ∧
      (∀ before target slot after, body = before ++ .load target slot :: after →
        ∃ temp, .store temp slot ∈ before) ∧
      (∀ stop, (code.run true).stop = some stop → stop = .zeroDivisor) ∧
      ∀ stop, (code.run false).stop = some stop → stop = .zeroDivisor ∨ stop = .quotientOverflow := by
  obtain ⟨tokens, program, final, hscan, hparse, herrors, hfinal, rfl⟩ := compile_eq_ok.mp h
  obtain ⟨hfits, hassigned⟩ := hfinal.inPlace herrors
  have hstop : ∀ wraps stop, (final.code.run wraps).stop = some stop → stop.IsArithmetic wraps := by
    intro wraps stop hstop
    rw [final.run_code, hfinal.run] at hstop
    exact Source.stop_run_bind herrors hstop
  refine ⟨final.code, final.names.length, Bound.codeFrom 0 final.stmts ++ [.ret], rfl,
    Code.read?_render _, List.append_assoc _ _ _, ?_, ?_, ?_, ?_⟩
  · refine List.forall_mem_append.mpr ⟨?_, List.forall_mem_singleton.mpr trivial⟩
    exact Bound.codeFrom_inPlace hassigned (fun _ hid => absurd hid List.not_mem_nil) hfits 0
  · intro before target slot after hsplit
    have hret : Code.StoredFirst [] [.ret] := .of_loads fun _ _ hload => by simp at hload
    have hbody := (hassigned.storedFirst 0).append hret fun _ hslot => absurd hslot List.not_mem_nil
    rcases hbody before target slot after hsplit with hnone | hstore
    · exact absurd hnone List.not_mem_nil
    · exact hstore
  · intro stop hrun
    rcases hstop true stop hrun with hzero | ⟨hwraps, -⟩
    · exact hzero
    · cases hwraps
  · intro stop hrun
    rcases hstop false stop hrun with hzero | ⟨-, hquotient⟩
    · exact Or.inl hzero
    · exact Or.inr hquotient

/-- A text that prints a value and then divides by zero, compiled without folding, so that the code
loads the divisor. -/
theorem compile_inPlace_division :
    ∃ ir code count body, (compile { fold := false } "z=0\nprint 7\nprint 1/z").outcome = .ok ir ∧
      ir = code.render ∧ Code.read? ir = some code ∧
      code = (List.range count).map .alloc ++ body ∧
      (∀ instr ∈ body, instr.InPlace count) ∧
      (∀ before target slot after, body = before ++ .load target slot :: after →
        ∃ temp, .store temp slot ∈ before) ∧
      ∀ stop, (code.run true).stop = some stop → stop = .zeroDivisor := by
  obtain ⟨ir, hir⟩ := compile_division { fold := false }
  obtain ⟨code, count, body, hrender, hread, hslots, hplace, hstored, hstop, -⟩ :=
    compile_inPlace { fold := false } _ ir hir
  exact ⟨ir, code, count, body, hir, hrender, hread, hslots, hplace, hstored, hstop⟩

end StraightLine
