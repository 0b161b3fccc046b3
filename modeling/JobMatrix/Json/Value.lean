import JobMatrix.Decimal.Binary64
import JobMatrix.Table

/-!
JSON values. An object keeps its members in the order of their first appearance, each key once.
-/
namespace JobMatrix

inductive Json where
  | null
  | bool (value : Bool)
  | integer (value : Int)
  | real (value : Binary64)
  | string (value : String)
  | array (items : List Json)
  | object (members : List (String × Json))

namespace Json

def IsIntegral (n : Int) : Prop := -0x8000000000000000 ≤ n ∧ n < 0x10000000000000000

instance (n : Int) : Decidable (IsIntegral n) :=
  inferInstanceAs (Decidable (_ ∧ _))

def kind : Json → String
  | .null => "null"
  | .bool _ => "a boolean"
  | .integer _ => "a number"
  | .real _ => "a number"
  | .string _ => "a string"
  | .array _ => "an array"
  | .object _ => "an object"

def isBlank : Json → Bool
  | .null => true
  | .bool value => !value
  | .integer value => value == 0
  | .real value => value.isZero
  | .string value => value.isEmpty
  | .array items => items.isEmpty
  | .object members => members.isEmpty

/-! Whether values are equal can be computed; members count in their order. -/

mutual
def same : Json → Json → Bool
  | .null, .null => true
  | .bool a, .bool b => a == b
  | .integer a, .integer b => a == b
  | .real a, .real b => a == b
  | .string a, .string b => a == b
  | .array a, .array b => sameItems a b
  | .object a, .object b => sameMembers a b
  | _, _ => false

def sameItems : List Json → List Json → Bool
  | [], [] => true
  | a :: as, b :: bs => same a b && sameItems as bs
  | _, _ => false

def sameMembers : List (String × Json) → List (String × Json) → Bool
  | [], [] => true
  | (name, a) :: as, (other, b) :: bs => name == other && same a b && sameMembers as bs
  | _, _ => false
end

mutual
theorem same_iff : (a b : Json) → (same a b = true ↔ a = b)
  | .array items, b => by
    cases b with
    | array others => rw [same, sameItems_iff items others, array.injEq]
    | _ => simp [same]
  | .object members, b => by
    cases b with
    | object others => rw [same, sameMembers_iff members others, object.injEq]
    | _ => simp [same]
  | .null, b | .bool _, b | .integer _, b | .real _, b | .string _, b => by
    cases b <;> simp [same]

theorem sameItems_iff : (a b : List Json) → (sameItems a b = true ↔ a = b)
  | [], b => by cases b <;> simp [sameItems]
  | item :: items, [] => by simp [sameItems]
  | item :: items, other :: others => by
    rw [sameItems, Bool.and_eq_true, same_iff item other, sameItems_iff items others,
      List.cons.injEq]

theorem sameMembers_iff : (a b : List (String × Json)) → (sameMembers a b = true ↔ a = b)
  | [], b => by cases b <;> simp [sameMembers]
  | _ :: _, [] => by simp [sameMembers]
  | (name, value) :: members, (other, held) :: others => by
    rw [sameMembers, Bool.and_eq_true, Bool.and_eq_true, beq_iff_eq, same_iff value held,
      sameMembers_iff members others, List.cons.injEq, Prod.mk.injEq]
end

instance : DecidableEq Json := fun a b => decidable_of_iff (same a b = true) (same_iff a b)

end Json
end JobMatrix
