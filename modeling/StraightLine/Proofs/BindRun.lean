import StraightLine.Bound.Run
import StraightLine.Source.Run
import StraightLine.Proofs.Scope
import StraightLine.Proofs.WordArithmetic

/-! Binding keeps what a program does. While a program without faults runs, every variable in scope
holds under its name the word that its slot holds, so both forms print the same values and stop at
the same statement for the same reason. That reason lies in the values: no name in such a program is
used before it is assigned to. -/

namespace StraightLine.Source

open Outcome

variable {wraps : Bool}

/-- Every variable in scope holds one word under its name and in its slot, and there is a slot for
each of the first `count` numbers. -/
structure Agree (scope : List String) (count : Nat) (values : Values) (slots : Slots) : Prop where
  held : ∀ name ∈ scope, ∃ word,
    values name = some word ∧ slots (scope.idxOf name) = some (some word)
  room : ∀ id < count, (slots id).isSome

variable {scope : List String} {count : Nat} {values : Values} {slots : Slots}

theorem Agree.empty (count : Nat) : Agree [] count (fun _ => none) (Slots.empty count) where
  held name hname := absurd hname List.not_mem_nil
  room id hid := by simp [Slots.empty, hid]

/-- An assignment changes the word under the name and the word in the slot alike. -/
theorem Agree.assign (hagree : Agree scope count values slots) (name : String) (word : Word) :
    Agree (declare scope name) count (values.set name word)
      (slots.set ((declare scope name).idxOf name) (some word)) where
  held other hother := by
    by_cases hname : other = name
    · subst hname
      exact ⟨word, if_pos rfl, if_pos rfl⟩
    · have hscope : other ∈ scope := (mem_declare.mp hother).resolve_right hname
      have hid : (declare scope name).idxOf other ≠ (declare scope name).idxOf name :=
        fun hid => hname ((List.idxOf_inj hother).mp hid)
      obtain ⟨held, hvalue, hslot⟩ := hagree.held other hscope
      refine ⟨held, (if_neg hname).trans hvalue, (if_neg hid).trans ?_⟩
      rw [idxOf_declare hscope, hslot]
  room id hid := by
    simp only [Slots.set]
    split
    · rfl
    · exact hagree.room id hid

theorem Operator.run_arith {Var : Type} {op : Operator} {arith : Arith}
    (h : op.arith? = some arith) (left right : Word) :
    (op.run wraps left right : Except (Stop Var) Word) = arith.run wraps left right := by
  cases op <;> cases h <;> rfl

/-- An expression without faults has the same value under names and under numbers, or stops for the
same reason. No such reason holds a name, so any renaming in it will do. -/
theorem Expr.eval_bind {expr : Expr} (hagree : Agree scope count values slots)
    (hfaults : expr.faults scope = []) (rename : String → Nat) :
    (expr.bind scope).eval wraps slots = (expr.eval wraps values).mapError (Stop.map rename) := by
  induction expr with
  | int value => rfl
  | var name =>
      have hname := mem_of_faults_var hfaults
      obtain ⟨word, hvalue, hslot⟩ := hagree.held name hname
      simp [Expr.bind, idxOf?_of_mem hname, Bound.Expr.eval, Slots.load, hslot, Expr.eval, hvalue]
  | unary sign operand ih =>
      simp only [Expr.bind, Bound.Expr.eval, Expr.eval, mapError_bind, ih hfaults]
      rfl
  | binary op left right ihl ihr =>
      obtain ⟨hop, hleft, hright⟩ := faults_binary hfaults
      obtain ⟨arith, harith⟩ := Operator.exists_arith hop
      simp only [Expr.bind, harith, Bound.Expr.eval, Expr.eval, mapError_bind, ihl hleft,
        ihr hright, Operator.run_arith harith, Arith.mapError_run]

/-- An expression without faults stops for reasons that lie in the values. -/
theorem Expr.stop_eval {expr : Expr} {stop : Stop String} (hagree : Agree scope count values slots)
    (hfaults : expr.faults scope = []) (h : expr.eval wraps values = .error stop) :
    stop.IsArithmetic wraps := by
  induction expr with
  | int value => cases h
  | var name =>
      obtain ⟨word, hvalue, -⟩ := hagree.held name (mem_of_faults_var hfaults)
      rw [Expr.eval, hvalue] at h
      cases h
  | unary sign operand ih =>
      simp only [Expr.eval, bind_eq_error] at h
      rcases h with hoperand | ⟨word, -, hnone⟩
      · exact ih hfaults hoperand
      · cases hnone
  | binary op left right ihl ihr =>
      obtain ⟨hop, hleft, hright⟩ := faults_binary hfaults
      obtain ⟨arith, harith⟩ := Operator.exists_arith hop
      simp only [Expr.eval, bind_eq_error] at h
      rcases h with hl | ⟨l, -, hr | ⟨r, -, hrun⟩⟩
      · exact ihl hleft hl
      · exact ihr hright hr
      · rw [Operator.run_arith harith] at hrun
        exact Arith.run_eq_error hrun

theorem Stmt.run_bind {stmt : Stmt} {after : Values} {printed : Option Word}
    (hagree : Agree scope count values slots) (hfaults : stmt.value.faults scope = [])
    (hcount : (stmt.scopeAfter scope).length ≤ count)
    (hrun : stmt.run wraps values = .ok (after, printed)) :
    ∃ slots', (stmt.bind scope).run wraps slots = .ok (slots', printed) ∧
      Agree (stmt.scopeAfter scope) count after slots' := by
  cases stmt with
  | assign name value =>
      simp only [Stmt.run, bind_eq_ok] at hrun
      obtain ⟨word, hword, hrun⟩ := hrun
      cases hrun
      rw [Stmt.value] at hfaults
      have hroom := hagree.room _ (Nat.lt_of_lt_of_le (idxOf_declare_lt scope name) hcount)
      refine ⟨_, ?_, hagree.assign name word⟩
      rw [Stmt.bind, Bound.Stmt.run, Expr.eval_bind hagree hfaults (fun _ => 0), hword,
        mapError_ok, ok_bind, Slots.store_of_isSome hroom]
      rfl
  | print value =>
      simp only [Stmt.run, bind_eq_ok] at hrun
      obtain ⟨word, hword, hrun⟩ := hrun
      cases hrun
      rw [Stmt.value] at hfaults
      refine ⟨slots, ?_, hagree⟩
      rw [Stmt.bind, Bound.Stmt.run, Expr.eval_bind hagree hfaults (fun _ => 0), hword]
      rfl

theorem Stmt.run_bind_stop {stmt : Stmt} {stop : Stop String}
    (hagree : Agree scope count values slots) (hfaults : stmt.value.faults scope = [])
    (hrun : stmt.run wraps values = .error stop) (rename : String → Nat) :
    (stmt.bind scope).run wraps slots = .error (stop.map rename) ∧ stop.IsArithmetic wraps := by
  have hvalue : stmt.value.eval wraps values = .error stop := by
    cases stmt with
    | assign name value =>
        simp only [Stmt.run, bind_eq_error] at hrun
        rcases hrun with hvalue | ⟨word, -, hnone⟩
        · exact hvalue
        · cases hnone
    | print value =>
        simp only [Stmt.run, bind_eq_error] at hrun
        rcases hrun with hvalue | ⟨word, -, hnone⟩
        · exact hvalue
        · cases hnone
  have hbound : (stmt.value.bind scope).eval wraps slots = .error (stop.map rename) := by
    rw [Expr.eval_bind hagree hfaults rename, hvalue, mapError_error]
  refine ⟨?_, Expr.stop_eval hagree hfaults hvalue⟩
  cases stmt with
  | assign name value => exact congrArg (· >>= _) hbound
  | print value => exact congrArg (· >>= _) hbound

/-- A program without faults looks from outside as its bound form does, and stops early only for a
reason that lies in the values. -/
theorem visible_runFrom_bindFrom {stmts : List Stmt}
    (hagree : Agree scope (bindFrom scope stmts).names.length values slots)
    (herrors : (bindFrom scope stmts).hasErrors = false) :
    (Bound.runFrom wraps slots (bindFrom scope stmts).stmts).visible =
        (runFrom wraps values stmts).visible ∧
      ∀ stop, (runFrom wraps values stmts).stop = some stop → stop.IsArithmetic wraps := by
  induction stmts generalizing scope values slots with
  | nil =>
      refine ⟨rfl, ?_⟩
      intro stop hstop
      cases hstop
  | cons stmt rest ih =>
      obtain ⟨hfaults, hrest⟩ := hasErrors_bindFrom_cons.mp herrors
      have hcount := length_le_names (stmt.scopeAfter scope) rest
      simp only [bindFrom, Bound.runFrom, runFrom]
      cases hrun : stmt.run wraps values with
      | error stop =>
          obtain ⟨hbound, harith⟩ := Stmt.run_bind_stop hagree hfaults hrun (fun _ => 0)
          rw [hbound]
          refine ⟨?_, ?_⟩
          · simp [Stop.map_map, Function.comp_def]
          · intro other hother
            cases hother
            exact harith
      | ok result =>
          obtain ⟨after, printed⟩ := result
          obtain ⟨slots', hbound, hafter⟩ := Stmt.run_bind hagree hfaults hcount hrun
          obtain ⟨hvisible, hstop⟩ := ih hafter hrest
          rw [hbound]
          refine ⟨?_, hstop⟩
          simp [hvisible]

end StraightLine.Source
