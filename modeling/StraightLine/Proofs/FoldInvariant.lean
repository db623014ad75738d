import Mathlib.Data.Finset.Card
import StraightLine.Compile
import StraightLine.Proofs.FoldKnown
import StraightLine.Proofs.FoldRange

/-! The invariant of folding. Wherever folding stands in a program, its constants are the literals
that the statements folded so far assign last: no constant outlives a later assignment to its
variable, and no literal is forgotten. Each of them fits a word, whatever literals the program has,
so the number of constants that folding reports can be counted in the program that it returns. -/

namespace StraightLine

open Outcome

namespace Bound

/-- The variables whose last assignment has a literal on its right-hand side. -/
def literalTargets (stmts : List Stmt) : Finset Nat :=
  (stmts.filterMap Stmt.target?).toFinset.filter fun id =>
    ((lastAssigned? stmts id).bind Expr.literal?).isSome

theorem Expr.literal?_eq_some {expr : Expr} {value : Int} :
    expr.literal? = some value ↔ expr = .int value := by
  cases expr with
  | int word => simp [Expr.literal?]
  | _ => simp [Expr.literal?]

theorem Stmt.target?_of_assigned? {stmt : Stmt} {id : Nat} {value : Expr}
    (h : stmt.assigned? id = some value) : stmt.target? = some id := by
  cases stmt with
  | assign target expr =>
      rw [Stmt.assigned?] at h
      split at h
      · rename_i htarget
        rw [Stmt.target?, htarget]
      · cases h
  | print expr => cases h

theorem mem_targets_of_lastAssigned? {stmts : List Stmt} {id : Nat} {value : Expr}
    (h : lastAssigned? stmts id = some value) : id ∈ stmts.filterMap Stmt.target? := by
  obtain ⟨stmt, hstmt, hassigned⟩ := List.exists_of_findSome?_eq_some h
  exact List.mem_filterMap.mpr
    ⟨stmt, List.mem_reverse.mp hstmt, Stmt.target?_of_assigned? hassigned⟩

theorem mem_literalTargets {stmts : List Stmt} {id : Nat} :
    id ∈ literalTargets stmts ↔ ∃ value, lastAssigned? stmts id = some (.int value) := by
  simp only [literalTargets, Finset.mem_filter, List.mem_toFinset, Option.isSome_iff_exists,
    Option.bind_eq_some_iff, Expr.literal?_eq_some]
  constructor
  · rintro ⟨-, value, -, hlast, rfl⟩
    exact ⟨value, hlast⟩
  · rintro ⟨value, hlast⟩
    exact ⟨mem_targets_of_lastAssigned? hlast, value, _, hlast, rfl⟩

/-- A statement adds no constant out of range, whatever literals it has: a literal is checked before
it becomes known. -/
theorem StmtStep.fits {known after : Constants} {stmt folded : Stmt}
    (h : StmtStep known stmt folded after) (hknown : known.Fits) : after.Fits := by
  cases h with
  | literal hvalue hfits => exact hknown.insert _ hfits
  | assign hvalue hliteral => exact hknown.erase _
  | print hvalue => exact hknown

theorem fits_foldFrom {known after : Constants} {stmts folded : List Stmt}
    (h : foldFrom known stmts = .ok (folded, after)) (hknown : known.Fits) : after.Fits := by
  induction stmts generalizing known folded with
  | nil =>
      cases h
      exact hknown
  | cons stmt rest ih =>
      obtain ⟨first, between, others, hstep, hothers, -⟩ := foldFrom_cons h
      exact ih hothers (hstep.fits hknown)

section Start

variable {stmts folded : List Stmt} {known : Constants}

/-- Folding that starts with nothing known ends with the literals that were assigned last. -/
theorem known_iff_lastAssigned? (h : foldFrom ∅ stmts = .ok (folded, known)) (id : Nat)
    (value : Int) : known[id]? = some value ↔ lastAssigned? folded id = some (.int value) := by
  rw [known_foldFrom h]
  cases lastAssigned? folded id with
  | none => simp
  | some expr => simp [Expr.literal?_eq_some]

theorem size_known (h : foldFrom ∅ stmts = .ok (folded, known)) :
    known.size = (literalTargets folded).card := by
  -- A variable is a key at most once, so the keys can be compared as a set.
  have hkeys : known.keys.toFinset = literalTargets folded := by
    ext id
    rw [List.mem_toFinset, Std.TreeMap.mem_keys, Std.TreeMap.mem_iff_isSome_getElem?,
      Option.isSome_iff_exists, mem_literalTargets]
    exact exists_congr fun value => known_iff_lastAssigned? h id value
  rw [← hkeys, List.toFinset_card_of_nodup Std.TreeMap.nodup_keys, Std.TreeMap.length_keys]

end Start

end Bound

/-- Folding that succeeds is reported once, with the number of its constants. -/
theorem events_foldIf {options : Options} {program : Bound.Program} {folded : Bound.Folded}
    (hon : options.fold = true) (h : program.fold = .ok folded) :
    (foldIf options program).events =
      [.folded folded.program.stmts.length folded.known.size] := by
  rw [foldIf, if_pos hon, h]
  rfl

/-- Invariant of folding. After any first statements of a program that can be folded, folding goes on
with the rest from constants that are exactly the literals assigned last in the folded statements,
all of them in the range of a word. So the number of known constants that is reported for a program
is the number of variables whose last assignment in the folded program is a literal. -/
theorem Bound.Program.fold_invariant (program : Bound.Program) :
    (∀ earlier later folded known, program.stmts = earlier ++ later →
      foldFrom ∅ earlier = .ok (folded, known) →
      (foldFrom ∅ program.stmts = do
        let (rest, after) ← foldFrom known later
        return (folded ++ rest, after)) ∧
      (∀ (id : Nat) (value : Int),
        known[id]? = some value ↔ lastAssigned? folded id = some (.int value)) ∧
      ∀ (id : Nat) (value : Int), known[id]? = some value → FitsWord value) ∧
    ∀ options folded, options.fold = true → program.fold = .ok folded →
      (foldIf options program).events =
        [.folded folded.program.stmts.length (literalTargets folded.program.stmts).card] := by
  constructor
  · intro earlier later folded known hstmts hearlier
    refine ⟨?_, known_iff_lastAssigned? hearlier, fits_foldFrom hearlier Constants.Fits.empty⟩
    rw [hstmts, foldFrom_append, hearlier, ok_bind]
  · intro options folded hon hfold
    obtain ⟨stmts, hstmts, hprogram⟩ := program.fold_eq_ok hfold
    rw [events_foldIf hon hfold, size_known hstmts, hprogram]

/-- A constant that is taken back by a quotient without a value, the smallest word, handed on to a
variable without a name, and a statement after them that cannot be folded. -/
theorem Bound.Program.fold_invariant_takenBack :
    let earlier : List Stmt :=
      [.assign 0 (.int 0), .assign 2 (.int 1),
        .assign 1 (.binary .sub (.unary .minus (.int 2147483647)) (.var 2)),
        .assign 2 (.binary .div (.var 2) (.var 0)), .assign 9 (.unary .plus (.var 1))]
    let folded : List Stmt :=
      [.assign 0 (.int 0), .assign 2 (.int 1), .assign 1 (.int (-2147483648)),
        .assign 2 (.binary .div (.int 1) (.int 0)), .assign 9 (.int (-2147483648))]
    let later : List Stmt := [.print (.unary .minus (.var 9))]
    (∃ known, foldFrom ∅ earlier = .ok (folded, known) ∧
      known[9]? = some (-2147483648) ∧ FitsWord (-2147483648) ∧ (∀ value, known[2]? ≠ some value) ∧
      foldFrom ∅ (earlier ++ later) = .error (.negationOverflow (-2147483648))) ∧
    (foldIf ⟨true⟩ ⟨earlier, ["z", "m", "a"], []⟩).events.map Event.render =
      ["DEBUG folded constants statements=5 known_constants=3"] := by
  intro earlier folded later
  obtain ⟨known, hearlier, hlater⟩ : ∃ known, foldFrom ∅ earlier = .ok (folded, known) ∧
      foldFrom known later = .error (.negationOverflow (-2147483648)) := ⟨_, rfl, rfl⟩
  obtain ⟨hgoesOn, hknown, hfits⟩ :=
    (fold_invariant ⟨earlier ++ later, [], []⟩).1 earlier later folded known rfl hearlier
  have hsmallest : known[9]? = some (-2147483648) := (hknown 9 (-2147483648)).mpr rfl
  refine ⟨⟨known, hearlier, hsmallest, hfits 9 _ hsmallest, ?_, ?_⟩, ?_⟩
  · intro value hvalue
    cases (hknown 2 value).mp hvalue
  · exact hgoesOn.trans (congrArg (· >>= _) hlater)
  · have hevents : (foldIf ⟨true⟩ ⟨earlier, ["z", "m", "a"], []⟩).events = [.folded 5 3] :=
      (fold_invariant ⟨earlier, ["z", "m", "a"], []⟩).2 ⟨true⟩ _ rfl (fold_of_ok hearlier)
    rw [hevents]
    decide

end StraightLine
