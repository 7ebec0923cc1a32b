import Tabular.Proofs.Json.Names
import Tabular.Proofs.Json.Numeral

/-!
# Which texts stand for a document

A well-formed text need not stand for a document. It does if nothing in it, in whatever place, is
beyond what a document holds: each number is read without overflow, each string spells out characters,
and no more arrays and objects are open at once than the reader allows. **Nothing else is asked of it**
(`Source.isSome_json?_iff`).
-/

namespace Tabular

namespace Source

/-- A text whose numbers are read without overflow, whose strings spell out characters, and which is
nested to at most so many levels. -/
inductive Readable : (levels : Nat) → Source → Prop where
  | null {levels : Nat} : Readable levels null
  | bool {levels : Nat} {b : Bool} : Readable levels (bool b)
  | number {levels : Nat} {n : Numeral} (h : n.float?.isSome) : Readable levels (number n)
  | string {levels : Nat} {ps : List Piece} (h : (text? ps).isSome) : Readable levels (string ps)
  | array {levels : Nat} {items : List Source} (h : ∀ x ∈ items, Readable levels x) :
    Readable (levels + 1) (array items)
  | object {levels : Nat} {members : List (List Piece × Source)}
    (hnames : ∀ m ∈ members, (text? m.1).isSome) (h : ∀ m ∈ members, Readable levels m.2) :
    Readable (levels + 1) (object members)

variable {levels : Nat} {s : Source}

/-- What stands for an array is written as one, where a level is left. -/
theorem json?_eq_array_iff {js : List Json} : json? levels s = some (.array js) ↔
    ∃ items, s = .array items ∧ levels ≠ 0 ∧ jsonItems? (levels - 1) items = some js := by
  cases s with
  | array items => simp [json?]
  | number n => simpa [json?] using (json?_number_ne n).1 js
  | _ => simp [json?, Json.ofMembers]

/-- What stands for an object is written as one, where a level is left. -/
theorem json?_eq_object_iff {ms : List (String × Json)} : json? levels s = some (.object ms) ↔
    ∃ members, s = .object members ∧ levels ≠ 0 ∧
      ∃ js, jsonMembers? (levels - 1) members = some js ∧
        js.foldl (fun ms m => Json.setMember ms m.1 m.2) [] = ms := by
  cases s with
  | object members => simp [json?, Json.ofMembers]
  | number n => simpa [json?] using (json?_number_ne n).2 ms
  | _ => simp [json?]

/-- The members of an object are named and given their documents one by one. -/
theorem jsonMembers?_eq_some_iff : ∀ {members : List (List Piece × Source)}
    {ms : List (String × Json)}, jsonMembers? levels members = some ms ↔
      List.Forall₂ (fun m m' => text? m.1 = some m'.1 ∧ json? levels m.2 = some m'.2) members ms
  | [], ms => by
    rw [jsonMembers?, List.forall₂_nil_left_iff, Option.some_inj, eq_comm]
  | (k, x) :: members, ms => by
    simp only [jsonMembers?, Option.bind_eq_bind, Option.bind_eq_some_iff, Option.pure_def,
      Option.some_inj, jsonMembers?_eq_some_iff, List.forall₂_cons_left_iff]
    constructor
    · rintro ⟨name, hname, j, hj, ms, hms, rfl⟩
      exact ⟨(name, j), ms, ⟨hname, hj⟩, hms, rfl⟩
    · rintro ⟨⟨name, j⟩, ms, ⟨hname, hj⟩, hms, rfl⟩
      exact ⟨name, hname, j, hj, ms, hms, rfl⟩

theorem isSome_jsonItems?_iff : ∀ {items : List Source},
    (jsonItems? levels items).isSome ↔ ∀ x ∈ items, (json? levels x).isSome
  | [] => by simp [jsonItems?]
  | x :: xs => by
    rw [jsonItems?, List.forall_mem_cons, ← isSome_jsonItems?_iff]
    cases json? levels x <;> cases jsonItems? levels xs <;> simp

theorem isSome_jsonMembers?_iff : ∀ {members : List (List Piece × Source)},
    (jsonMembers? levels members).isSome ↔
      ∀ m ∈ members, (text? m.1).isSome ∧ (json? levels m.2).isSome
  | [] => by simp [jsonMembers?]
  | (k, x) :: ms => by
    rw [jsonMembers?, List.forall_mem_cons, ← isSome_jsonMembers?_iff]
    cases text? k <;> cases json? levels x <;> cases jsonMembers? levels ms <;> simp

/-- **Which texts stand for a document.** -/
theorem isSome_json?_iff : (json? levels s).isSome ↔ Readable levels s := by
  -- what is inside an array or an object has a level less
  induction levels using Nat.strongRecOn generalizing s with
  | ind levels ih =>
    cases s with
    | null => exact iff_of_true rfl .null
    | bool => exact iff_of_true rfl .bool
    | number n =>
      rw [json?, Numeral.isSome_json?_iff]
      refine ⟨.number, fun h => ?_⟩
      cases h with
      | number h => exact h
    | string ps =>
      rw [json?, Option.isSome_map]
      refine ⟨.string, fun h => ?_⟩
      cases h with
      | string h => exact h
    | array items =>
      cases levels with
      | zero =>
        refine iff_of_false Bool.false_ne_true fun h => ?_
        cases h
      | succ levels =>
        have hitems : (jsonItems? levels items).isSome ↔ ∀ x ∈ items, Readable levels x := by
          simp only [isSome_jsonItems?_iff, ih levels (Nat.lt_succ_self levels)]
        rw [json?, if_neg (Nat.succ_ne_zero levels), Option.isSome_map, Nat.add_sub_cancel, hitems]
        refine ⟨.array, fun h => ?_⟩
        cases h with
        | array h => exact h
    | object members =>
      cases levels with
      | zero =>
        refine iff_of_false Bool.false_ne_true fun h => ?_
        cases h
      | succ levels =>
        have hmembers : (jsonMembers? levels members).isSome ↔
            ∀ m ∈ members, (text? m.1).isSome ∧ Readable levels m.2 := by
          simp only [isSome_jsonMembers?_iff, ih levels (Nat.lt_succ_self levels)]
        rw [json?, if_neg (Nat.succ_ne_zero levels), Option.isSome_map, Nat.add_sub_cancel,
          hmembers]
        refine ⟨fun h => .object (fun m hm => (h m hm).1) fun m hm => (h m hm).2, fun h => ?_⟩
        cases h with
        | object hnames h => exact fun m hm => ⟨hnames m hm, h m hm⟩

end Source

end Tabular
