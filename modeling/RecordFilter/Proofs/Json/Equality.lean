import RecordFilter.Proofs.Number.Comparison

set_option autoImplicit false

/-!
# Equality of documents

Every document equals itself (`equals_self`): its doubles are finite, so none of them is the one
double that differs from itself.
-/

namespace RecordFilter

theorem Binary64.equals_self {x : Binary64} (finite : x.isFinite = true) : x.equals x = true := by
  rw [equals, compare?_self (isNaN_of_isFinite finite)]
  rfl

@[simp]
theorem JsonNumber.equals_self (n : JsonNumber) : n.equals n = true := by
  cases n with
  | integer i => exact beq_self_eq_true i.value
  | real x finite => exact Binary64.equals_self finite

namespace Json

mutual

/-- Every document equals itself. -/
@[simp]
theorem equals_self : ∀ doc : Json, doc.equals doc = true
  | .null => by rw [equals]
  | .bool b => by rw [equals, beq_self_eq_true]
  | .number n => by rw [equals, JsonNumber.equals_self]
  | .string s => by rw [equals, beq_self_eq_true]
  | .array items => by rw [equals, equalsItems_self items]
  | .object members => by rw [equals, equalsMembers_self members]

theorem equalsItems_self : ∀ items : List Json, equalsItems items items = true
  | [] => by rw [equalsItems]
  | x :: xs => by rw [equalsItems, equals_self x, equalsItems_self xs, Bool.and_self]

theorem equalsMembers_self : ∀ members : List (String × Json), equalsMembers members members = true
  | [] => by rw [equalsMembers]
  | (key, x) :: xs => by
    rw [equalsMembers, beq_self_eq_true, equals_self x, equalsMembers_self xs, Bool.and_self,
      Bool.and_self]

end

end Json

end RecordFilter
