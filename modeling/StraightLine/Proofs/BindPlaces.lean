import Mathlib.Data.List.Forall2
import Mathlib.Data.List.Induction
import Mathlib.Data.List.Nodup
import StraightLine.Source.Place
import StraightLine.Proofs.AssignedFirst

/-! Binding, statement by statement. The variables in scope at a statement are the names assigned to
before it, each once and in the order of the first assignments, so a bound program can be written
down without going through it: every statement is bound in its own place. Numbers are positions in
that order, which later assignments only extend; a name keeps its number to the end. -/

namespace StraightLine.Source

/-- One more statement adds its target to the variables as binding adds it to the scope. -/
theorem variables_concat (before : Program) (stmt : Stmt) :
    Program.variables (before ++ [stmt]) = stmt.scopeAfter before.variables := by
  rw [Program.variables, List.filterMap_append, List.eraseDups_append]
  cases stmt with
  | print value => exact List.append_nil _
  | assign name value =>
      have htarget : [Stmt.assign name value].filterMap Stmt.target? = [name] := rfl
      rw [htarget, Stmt.scopeAfter, declare, Program.variables]
      generalize before.filterMap Stmt.target? = names
      by_cases hname : name ∈ names
      · rw [if_pos (List.mem_eraseDups.mpr hname)]
        simp [List.removeAll, hname]
      · rw [if_neg (mt List.mem_eraseDups.mp hname)]
        simp [List.removeAll, hname, List.eraseDups_cons]

theorem nodup_declare {scope : List String} (h : scope.Nodup) (name : String) :
    (declare scope name).Nodup := by
  unfold declare
  split
  · exact h
  · rename_i hname
    exact List.nodup_append_comm.mp (List.nodup_cons.mpr ⟨hname, h⟩)

theorem nodup_variables (program : Program) : program.variables.Nodup := by
  induction program using List.reverseRecOn with
  | nil => exact List.nodup_nil
  | append_singleton before stmt ih =>
      rw [variables_concat]
      cases stmt with
      | assign name value => exact nodup_declare ih name
      | print value => exact ih

theorem variables_initial {before program : Program} (h : before <+: program) :
    before.variables <+: program.variables := by
  obtain ⟨rest, rfl⟩ := h
  rw [Program.variables, Program.variables, List.filterMap_append, List.eraseDups_append]
  exact List.prefix_append _ _

/-- The places of statements that follow other statements. -/
def placesAfter (before stmts : Program) : List Place :=
  stmts.mapIdx fun position stmt => ⟨Program.variables (before ++ stmts.take position), stmt⟩

theorem placesAfter_cons (before : Program) (stmt : Stmt) (rest : Program) :
    placesAfter before (stmt :: rest) =
      ⟨before.variables, stmt⟩ :: placesAfter (before ++ [stmt]) rest := by
  simp [placesAfter, List.mapIdx_cons]

/-- Statements are bound, and their faults are found, each in its own place. -/
theorem bindFrom_variables (before stmts : Program) :
    (bindFrom before.variables stmts).stmts =
        (placesAfter before stmts).map (fun place => place.stmt.bind place.assigned) ∧
      (bindFrom before.variables stmts).names = Program.variables (before ++ stmts) ∧
      faultsFrom before.variables stmts =
        (placesAfter before stmts).flatMap (fun place => place.stmt.value.faults place.assigned) := by
  -- The scope is never anything but the variables of the statements before, so the induction is for
  -- every list of these, and one statement moves from the second list to the first.
  induction stmts generalizing before with
  | nil =>
      refine ⟨rfl, ?_, rfl⟩
      rw [List.append_nil]
      rfl
  | cons stmt rest ih =>
      obtain ⟨hstmts, hnames, hfaults⟩ := ih (before ++ [stmt])
      rw [variables_concat] at hstmts hnames hfaults
      rw [placesAfter_cons, List.map_cons, List.flatMap_cons]
      refine ⟨congrArg _ hstmts, ?_, congrArg _ hfaults⟩
      rw [← List.append_cons] at hnames
      exact hnames

theorem stmts_bind (program : Program) :
    (bind program).stmts = program.places.map fun place => place.stmt.bind place.assigned :=
  (bindFrom_variables [] program).1

theorem names_bind (program : Program) : (bind program).names = program.variables :=
  (bindFrom_variables [] program).2.1

theorem faults_places (program : Program) :
    program.faults = program.places.flatMap fun place => place.stmt.value.faults place.assigned :=
  (bindFrom_variables [] program).2.2

theorem map_stmt_places (program : Program) : program.places.map Place.stmt = program := by
  refine List.ext_getElem? fun position => ?_
  simp [Program.places, Function.comp_def]

/-- The names in scope after a statement stand at the same positions in the whole table of names. -/
theorem scopeAfter_prefix_names {program : Program} {place : Place} (h : place ∈ program.places) :
    place.stmt.scopeAfter place.assigned <+: (bind program).names := by
  obtain ⟨position, hposition, rfl⟩ := List.mem_mapIdx.mp h
  have hcut : program.take position ++ [program[position]] <+: program := by
    rw [List.take_append_getElem]
    exact List.take_prefix _ _
  rw [names_bind, ← variables_concat]
  exact variables_initial hcut

theorem getElem?_idxOf_extended {scope names : List String} (h : scope <+: names) {name : String}
    (hname : name ∈ scope) : names[scope.idxOf name]? = some name := by
  obtain ⟨rest, rfl⟩ := h
  rw [List.getElem?_append_left (List.idxOf_lt_length_of_mem hname), List.getElem?_idxOf hname]

/-- The bound form of a statement is of its kind, and a target's number stands for its name. -/
inductive Stmt.NumberedBy (names : List String) : Stmt → Bound.Stmt → Prop where
  | assign {name : String} {id : Nat} (hname : names[id]? = some name) (value : Expr)
      (bound : Bound.Expr) : NumberedBy names (.assign name value) (.assign id bound)
  | print (value : Expr) (bound : Bound.Expr) : NumberedBy names (.print value) (.print bound)

theorem Stmt.numberedBy_bind {scope names : List String} {stmt : Stmt}
    (h : stmt.scopeAfter scope <+: names) : stmt.NumberedBy names (stmt.bind scope) := by
  cases stmt with
  | assign name value =>
      exact .assign (getElem?_idxOf_extended h (mem_declare.mpr (Or.inr rfl))) value _
  | print value => exact .print value _

/-- Every program is bound, whether it has faults or not, to as many statements of the same kinds;
its table has the names that are assigned to, each once, in the order of the first assignments; the
number of a target is the position of its name in the table; and a variable that a statement reads
is the target of a statement before it. -/
theorem bind_numbered (program : Program) :
    List.Forall₂ (Stmt.NumberedBy (bind program).names) program (bind program).stmts ∧
      (bind program).names = (program.filterMap Stmt.target?).eraseDups ∧
      (bind program).names.Nodup ∧
      ∀ (position : Nat) (stmt : Bound.Stmt), (bind program).stmts[position]? = some stmt →
        ∀ id ∈ stmt.value.vars, ∃ value, .assign id value ∈ (bind program).stmts.take position := by
  refine ⟨?_, names_bind program, ?_, ?_⟩
  · have hplaces : List.Forall₂ (Stmt.NumberedBy (bind program).names)
        (program.places.map Place.stmt) (bind program).stmts := by
      rw [stmts_bind, List.forall₂_map_left_iff, List.forall₂_map_right_iff, List.forall₂_same]
      exact fun place hplace => Stmt.numberedBy_bind (scopeAfter_prefix_names hplace)
    rwa [map_stmt_places] at hplaces
  · rw [names_bind]
    exact nodup_variables program
  · intro position stmt hstmt id hid
    rcases (assignedFirst_bind program).exists_assign hstmt hid with hnone | hassign
    · exact absurd hnone List.not_mem_nil
    · exact hassign

/-- A program whose first statement reads the variable that it assigns to, and which assigns to it
again. -/
theorem bind_numbered_reassigned :
    (bind [.assign "x" (.var "x"), .assign "y" (.binary .mul (.var "x") (.int 2)),
        .assign "x" (.binary .rem (.var "y") (.var "z")), .print (.var "x")]).names = ["x", "y"] ∧
      (bind [.assign "x" (.var "x"), .assign "y" (.binary .mul (.var "x") (.int 2)),
        .assign "x" (.binary .rem (.var "y") (.var "z")), .print (.var "x")]).stmts[1]? =
        some (.assign 1 (.binary .mul (.var 0) (.int 2))) ∧
      ∃ value, .assign 0 value ∈
        (bind [.assign "x" (.var "x"), .assign "y" (.binary .mul (.var "x") (.int 2)),
          .assign "x" (.binary .rem (.var "y") (.var "z")), .print (.var "x")]).stmts.take 1 := by
  obtain ⟨-, -, -, hearlier⟩ := bind_numbered [.assign "x" (.var "x"),
    .assign "y" (.binary .mul (.var "x") (.int 2)),
    .assign "x" (.binary .rem (.var "y") (.var "z")), .print (.var "x")]
  exact ⟨rfl, rfl, hearlier 1 _ rfl 0 (by decide)⟩

end StraightLine.Source
