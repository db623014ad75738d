import StraightLine.Run

/-! The places where numbered variables are kept. -/

namespace StraightLine

/-- What there is for every number: no slot, a slot that nothing has been stored in, or a word. -/
abbrev Slots := Nat → Option (Option Word)

namespace Slots

/-- No slots at all. -/
def absent : Slots :=
  fun _ => none

/-- Empty slots for the first `count` numbers. -/
def empty (count : Nat) : Slots :=
  fun id => if id < count then some none else none

def set (slots : Slots) (id : Nat) (content : Option Word) : Slots :=
  fun other => if other = id then some content else slots other

/-- The word in a slot, or why there is none. -/
def load (slots : Slots) (id : Nat) : Except (Stop Nat) Word :=
  match slots id with
  | some (some word) => .ok word
  | some none => .error (.unassigned id)
  | none => .error (.noSlot id)

/-- Stores a word in a slot, if there is one. -/
def store (slots : Slots) (id : Nat) (word : Word) : Except (Stop Nat) Slots :=
  match slots id with
  | some _ => .ok (slots.set id (some word))
  | none => .error (.noSlot id)

theorem empty_succ (count : Nat) :
    empty (count + 1) = (empty count).set count none := by
  funext id
  simp only [empty, set]
  by_cases hid : id = count
  · rw [if_pos (by omega), if_pos hid]
  · rw [if_neg hid]
    by_cases hlt : id < count
    · rw [if_pos (by omega), if_pos hlt]
    · rw [if_neg (by omega), if_neg hlt]

theorem store_eq_ok {slots slots' : Slots} {id : Nat} {word : Word}
    (h : slots.store id word = .ok slots') : slots' = slots.set id (some word) := by
  unfold store at h
  split at h
  · cases h
    rfl
  · cases h

theorem store_of_isSome {slots : Slots} {id : Nat} (h : (slots id).isSome) (word : Word) :
    slots.store id word = .ok (slots.set id (some word)) := by
  obtain ⟨content, hcontent⟩ := Option.isSome_iff_exists.mp h
  rw [store, hcontent]

end Slots

end StraightLine
