import StraightLine.Source.Walk
import StraightLine.Proofs.BindPlaces

/-! The messages about a program are what a walk through it finds. A divisor is bound to the literal
zero exactly if it is zero on sight, so every fault can be told from the part of the expression where
it is found; and there is none exactly if every variable has been assigned to, every literal fits a
word, and no remainder and no division by the literal zero is written. -/

namespace StraightLine.Source

variable {assigned : List String}

/-- What is bound to the literal zero is that literal, a variable without value, or a remainder. -/
theorem Expr.bind_eq_zero_iff {expr : Expr} : expr.bind assigned = .int 0 ↔ expr.IsZero assigned := by
  cases expr with
  | int value => simp [Expr.bind, Expr.IsZero]
  | var name =>
      by_cases hname : name ∈ assigned
      · simp [Expr.bind, Expr.IsZero, idxOf?_of_mem hname, hname]
      · simp [Expr.bind, Expr.IsZero, List.idxOf?_eq_none_iff.mpr hname, hname]
  | unary sign operand => simp [Expr.bind, Expr.IsZero]
  | binary op left right =>
      cases op <;> simp [Expr.bind, Expr.IsZero, Operator.arith?]

theorem filterMap_fault?_singleton (visit : Visit) :
    [visit].filterMap (Visit.fault? assigned) = (visit.fault? assigned).toList := by
  cases hfault : visit.fault? assigned <;> simp [hfault]

/-- The faults of an expression are those found on the walk through it. -/
theorem Expr.faults_eq_filterMap (expr : Expr) :
    expr.faults assigned = expr.walk.filterMap (Visit.fault? assigned) := by
  induction expr with
  | int value =>
      by_cases hfits : FitsWord value
      · simp [Expr.faults, Expr.walk, Visit.fault?, hfits]
      · simp [Expr.faults, Expr.walk, Visit.fault?, hfits]
  | var name =>
      by_cases hname : name ∈ assigned
      · simp [Expr.faults, Expr.walk, Visit.fault?, hname]
      · simp [Expr.faults, Expr.walk, Visit.fault?, hname]
  | unary sign operand ih =>
      rw [Expr.faults, Expr.walk, List.filterMap_append, List.filterMap_append,
        filterMap_fault?_singleton, filterMap_fault?_singleton, ← ih]
      exact (List.append_nil _).symm
  | binary op left right ihl ihr =>
      rw [Expr.faults, Expr.walk, List.filterMap_append, List.filterMap_append,
        List.filterMap_append, filterMap_fault?_singleton, filterMap_fault?_singleton, ← ihl, ← ihr]
      simp only [Visit.fault?, Expr.bind_eq_zero_iff, apply_ite Option.toList, Option.toList_some,
        Option.toList_none]

theorem Expr.mem_parts_self (expr : Expr) : expr ∈ expr.parts := by
  cases expr <;> exact List.mem_cons_self

theorem Expr.parts_subset {expr part : Expr} (h : part ∈ expr.parts) : part.parts ⊆ expr.parts := by
  induction expr with
  | int value =>
      rw [List.mem_singleton.mp h]
      exact List.Subset.refl _
  | var name =>
      rw [List.mem_singleton.mp h]
      exact List.Subset.refl _
  | unary sign operand ih =>
      rcases List.mem_cons.mp h with rfl | h
      · exact List.Subset.refl _
      · exact List.subset_cons_of_subset _ (ih h)
  | binary op left right ihl ihr =>
      rcases List.mem_cons.mp h with rfl | h
      · exact List.Subset.refl _
      · refine List.subset_cons_of_subset _ ?_
        rcases List.mem_append.mp h with h | h
        · exact List.subset_append_of_subset_left _ (ihl h)
        · exact List.subset_append_of_subset_right _ (ihr h)

theorem Expr.right_mem_parts {expr left right : Expr} {op : Operator}
    (h : .binary op left right ∈ expr.parts) : right ∈ expr.parts :=
  Expr.parts_subset h
    (List.mem_cons_of_mem _ (List.mem_append_right _ right.mem_parts_self))

/-- A walk comes to the parts of an expression and leaves them, and is nowhere else. -/
theorem Expr.forall_mem_walk {expr : Expr} {property : Visit → Prop} :
    (∀ visit ∈ expr.walk, property visit) ↔
      ∀ part ∈ expr.parts, property (.enter part) ∧ property (.leave part) := by
  induction expr with
  | int value => simp [Expr.walk, Expr.parts]
  | var name => simp [Expr.walk, Expr.parts]
  | unary sign operand ih =>
      rw [Expr.parts, List.forall_mem_cons]
      simp only [Expr.walk, List.forall_mem_append, List.forall_mem_singleton, ih]
      constructor
      · rintro ⟨⟨henter, hoperand⟩, hleave⟩
        exact ⟨⟨henter, hleave⟩, hoperand⟩
      · rintro ⟨⟨henter, hleave⟩, hoperand⟩
        exact ⟨⟨henter, hoperand⟩, hleave⟩
  | binary op left right ihl ihr =>
      rw [Expr.parts, List.forall_mem_cons]
      simp only [Expr.walk, List.forall_mem_append, List.forall_mem_singleton, ihl, ihr]
      constructor
      · rintro ⟨⟨⟨henter, hleft⟩, hright⟩, hleave⟩
        exact ⟨⟨henter, hleave⟩, hleft, hright⟩
      · rintro ⟨⟨henter, hleave⟩, hleft, hright⟩
        exact ⟨⟨⟨henter, hleft⟩, hright⟩, hleave⟩

theorem Expr.faults_eq_nil_iff {expr : Expr} :
    expr.faults assigned = [] ↔ ∀ part ∈ expr.parts,
      (Visit.enter part).fault? assigned = none ∧ (Visit.leave part).fault? assigned = none := by
  rw [Expr.faults_eq_filterMap, List.filterMap_eq_nil_iff, Expr.forall_mem_walk]

theorem Expr.faultless_of_faults {expr : Expr} (h : expr.faults assigned = []) :
    expr.Faultless assigned := by
  rw [Expr.faults_eq_nil_iff] at h
  refine { names := fun name hname => ?_, literals := fun value hvalue => ?_,
           operators := fun left right hpart => ?_, divisors := fun left hpart => ?_ }
  · by_contra hassigned
    have hfault := (h _ hname).1
    rw [Visit.fault?, if_neg hassigned] at hfault
    cases hfault
  · by_contra hfits
    have hfault := (h _ hvalue).1
    rw [Visit.fault?, if_neg hfits] at hfault
    cases hfault
  · cases (h _ hpart).1
  · cases (h _ hpart).2

theorem Expr.Faultless.op_ne_rem {expr left right : Expr} {op : Operator}
    (h : expr.Faultless assigned) (hpart : .binary op left right ∈ expr.parts) : op ≠ .rem := by
  rintro rfl
  exact h.operators left right hpart

/-- In an expression in which nothing is wrong only the literal is zero on sight. -/
theorem Expr.Faultless.isZero_iff {expr part : Expr} (h : expr.Faultless assigned)
    (hpart : part ∈ expr.parts) : part.IsZero assigned ↔ part = .int 0 := by
  cases part with
  | int value => simp [Expr.IsZero]
  | var name => simp [Expr.IsZero, h.names name hpart]
  | unary sign operand => simp [Expr.IsZero]
  | binary op left right =>
      simp [Expr.IsZero, h.op_ne_rem hpart]

theorem Expr.Faultless.faults_eq {expr : Expr} (h : expr.Faultless assigned) :
    expr.faults assigned = [] := by
  rw [Expr.faults_eq_nil_iff]
  intro part hpart
  cases part with
  | int value => exact ⟨if_pos (h.literals value hpart), rfl⟩
  | var name => exact ⟨if_pos (h.names name hpart), rfl⟩
  | unary sign operand => exact ⟨rfl, rfl⟩
  | binary op left right =>
      have hop := h.op_ne_rem hpart
      refine ⟨if_neg hop, if_neg ?_⟩
      rintro ⟨hdiv, hzero⟩
      obtain rfl := hdiv.resolve_right hop
      obtain rfl := (h.isZero_iff (Expr.right_mem_parts hpart)).mp hzero
      exact h.divisors left hpart

theorem faults_eq_flatMap (program : Program) :
    program.faults = program.places.flatMap Place.faults := by
  rw [faults_places]
  exact List.flatMap_congr fun place _ => place.stmt.value.faults_eq_filterMap

theorem faults_eq_nil_iff {program : Program} :
    program.faults = [] ↔ ∀ place ∈ program.places, place.stmt.value.Faultless place.assigned := by
  rw [faults_places, List.flatMap_eq_nil_iff]
  exact forall₂_congr fun place _ =>
    ⟨Expr.faultless_of_faults, fun hfaultless => hfaultless.faults_eq⟩

/-- The messages about a program are all errors: one for every fault that is found on a walk through
its statements in order, and no others. There is none exactly if every variable that is read has been
assigned to by a statement before, every literal fits a word, and there is no remainder and no
division by the literal zero. -/
theorem diagnostics_bind_exact (program : Program) :
    (bind program).diagnostics = (program.places.flatMap Place.faults).map Fault.diagnostic ∧
      (∀ diagnostic ∈ (bind program).diagnostics, diagnostic.severity = .error) ∧
      ((bind program).hasErrors = false ↔
        ∀ place ∈ program.places, place.stmt.value.Faultless place.assigned) := by
  refine ⟨?_, ?_, ?_⟩
  · rw [diagnostics_bind, faults_eq_flatMap]
  · intro diagnostic hdiagnostic
    rw [diagnostics_bind] at hdiagnostic
    obtain ⟨fault, -, rfl⟩ := List.mem_map.mp hdiagnostic
    rfl
  · rw [hasErrors_bind, Bool.not_eq_false', List.isEmpty_iff, faults_eq_nil_iff]

/-- A program with every kind of fault, some found on the way in and some on the way out, and a
program without faults. -/
theorem diagnostics_bind_exact_remainder :
    (bind [.assign "x" (.binary .rem (.var "x") (.int 0)),
        .print (.binary .div (.int 2147483648) (.binary .rem (.var "x") (.var "y"))),
        .print (.binary .div (.var "x") (.unary .minus (.int 0)))]).diagnostics =
        [Fault.unsupportedOperator .rem, .undefinedVariable "x", .divisionByZero,
          .literalOutOfRange 2147483648, .unsupportedOperator .rem, .undefinedVariable "y",
          .divisionByZero, .divisionByZero].map Fault.diagnostic ∧
      (bind [.assign "x" (.int 0), .print (.binary .div (.int 1) (.var "x"))]).hasErrors = false ∧
      ∀ place ∈ Program.places [.assign "x" (.int 0), .print (.binary .div (.int 1) (.var "x"))],
        place.stmt.value.Faultless place.assigned :=
  ⟨(diagnostics_bind_exact _).1, rfl, (diagnostics_bind_exact _).2.2.mp rfl⟩

end StraightLine.Source
