import Tabular.Json.Reading

/-!
# Decoding values and records

Readers for the values that documents are made of, over anything that is read level by level. **A
record is written as an object or as an array**: an object names its fields in any order, may have
further members, and must not repeat a field; an array lists the fields in their declared order and
has no further items.
-/

namespace Tabular

namespace Layered

variable {δ : Type} [Layered δ] {α : Type}

/-- The text that `d` is. -/
def text? (d : δ) : Option String :=
  match layer d with
  | some (.text s) => some s
  | _ => none

/-- The integer of 64 bits with sign that `d` is. -/
def int64? (d : δ) : Option Int64 :=
  match layer d with
  | some (.int n) => Number.toInt64? n
  | _ => none

/-- The integer of 64 bits without sign that `d` is. -/
def nat64? (d : δ) : Option Nat :=
  match layer d with
  | some (.int n) => if 0 ≤ n ∧ n < 2 ^ 64 then some n.toNat else none
  | _ => none

/-- The items of the array that `d` is. -/
def items? (d : δ) : Option (List δ) :=
  match layer d with
  | some (.array xs) => some xs
  | _ => none

/-- The members of the object that `d` is. -/
def members? (d : δ) : Option (List (String × δ)) :=
  match layer d with
  | some (.object ms) => some ms
  | _ => none

/-- Whether `d` is null. -/
def isNull (d : δ) : Bool :=
  match layer d with
  | some .null => true
  | _ => false

/-- The list that `d` is, with each item read by `f`. -/
def list? (f : δ → Option α) (d : δ) : Option (List α) := (items? d).bind (·.mapM f)

/-- Whether `d` is null or an object without members. -/
def isVoid (d : δ) : Bool :=
  match layer d with
  | some .null | some (.object []) => true
  | _ => false

/-- The name of a case without contents: a text, or the name of the only member of an object if
its value counts as `nothing`. -/
def caseNameBy? (nothing : δ → Bool) (d : δ) : Option String :=
  match layer d with
  | some (.text s) => some s
  | some (.object [(k, x)]) => if nothing x then some k else none
  | _ => none

/-- The name of a case without contents: a text, or an object whose only member is null. -/
def caseName? (d : δ) : Option String := caseNameBy? isNull d

/-- The value of the member `k`, which is `none` inside if there is no such member. Two members of
that name are refused. -/
def member? (k : String) (ms : List (String × δ)) : Option (Option δ) :=
  match ms.filter (·.1 == k) with
  | [] => some none
  | [m] => some (some m.2)
  | _ => none

/-- The values of the fields `names` among members; a missing one is `none` inside. -/
def fieldsOfMembers? (names : List String) (ms : List (String × δ)) :
    Option (List (Option δ)) :=
  names.mapM (member? · ms)

/-- The values of the fields `names` as listed by items; a missing one is `none` inside. -/
def fieldsOfItems? (names : List String) (xs : List δ) : Option (List (Option δ)) :=
  if xs.length ≤ names.length then
    some (xs.map some ++ List.replicate (names.length - xs.length) none)
  else none

/-- The values of the fields `names` of the record that `d` is. -/
def fields? (names : List String) (d : δ) : Option (List (Option δ)) :=
  match layer d with
  | some (.object ms) => fieldsOfMembers? names ms
  | some (.array xs) => fieldsOfItems? names xs
  | _ => none

end Layered

end Tabular
