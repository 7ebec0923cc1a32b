import Mathlib.Data.List.Forall2
import Mathlib.Data.List.Induction
import Tabular.Json.Reading

/-!
# The names in a JSON text

A text may write a name twice in one object, and the document it stands for has it once: **each name
keeps its first place** (`Json.names_foldl_setMember`). So the names in the document of an object are
those in the text, in their order and without repetition (`Source.names_of_json?`).
-/

namespace Tabular

namespace Json

/-- A member that is set has its name last, unless the name was there. -/
theorem names_setMember (k : String) (x : Json) : ∀ ms : List (String × Json),
    (setMember ms k x).map (·.1) =
      if k ∈ ms.map (·.1) then ms.map (·.1) else ms.map (·.1) ++ [k]
  | [] => rfl
  | m :: ms => by
    rw [setMember]
    by_cases h : m.1 = k
    · rw [if_pos h, if_pos (by simp [h]), List.map_cons, List.map_cons, h]
    · have hk : k ∈ (m :: ms).map (·.1) ↔ k ∈ ms.map (·.1) := by simp [Ne.symm h]
      rw [if_neg h, List.map_cons, names_setMember k x ms]
      by_cases hms : k ∈ ms.map (·.1)
      · rw [if_pos hms, if_pos (hk.mpr hms), List.map_cons]
      · rw [if_neg hms, if_neg (mt hk.mp hms), List.map_cons, List.cons_append]

theorem setMember_of_notMem {k : String} (x : Json) : ∀ {ms : List (String × Json)},
    k ∉ ms.map (·.1) → setMember ms k x = ms ++ [(k, x)]
  | [], _ => rfl
  | m :: ms, h => by
    rw [List.map_cons, List.mem_cons, not_or] at h
    rw [setMember, if_neg (Ne.symm h.1), setMember_of_notMem x h.2, List.cons_append]

/-- Members that are set one after the other keep the first place of each name. -/
theorem names_foldl_setMember (ms : List (String × Json)) :
    (ms.foldl (fun ms m => setMember ms m.1 m.2) []).map (·.1) = (ms.map (·.1)).eraseDups := by
  induction ms using List.reverseRecOn with
  | nil => rfl
  | append_singleton ms m ih =>
    rw [List.foldl_append, List.foldl_cons, List.foldl_nil, names_setMember, ih, List.map_append,
      List.map_singleton, List.eraseDups_append]
    by_cases hm : m.1 ∈ ms.map (·.1)
    · rw [if_pos (List.mem_eraseDups.mpr hm)]
      simp [List.removeAll, hm]
    · rw [if_neg (mt List.mem_eraseDups.mp hm)]
      simp [List.removeAll, List.eraseDups_cons, hm]

/-- Members with distinct names are all kept. -/
theorem ofMembers_of_nodup {ms : List (String × Json)} (h : (ms.map (·.1)).Nodup) :
    ofMembers ms = object ms := by
  refine congrArg object ?_
  induction ms using List.reverseRecOn with
  | nil => rfl
  | append_singleton ms m ih =>
    rw [List.map_append, List.nodup_append] at h
    have hm : m.1 ∉ ms.map (·.1) := fun hm => h.2.2 m.1 hm m.1 List.mem_cons_self rfl
    rw [List.foldl_append, ih h.1]
    exact setMember_of_notMem m.2 hm

end Json

namespace Source

variable {levels : Nat} {s : Source}

/-- The names of the members that an object is written with, in order. -/
def memberNames? : Source → Option (List String)
  | object members => members.mapM fun m => text? m.1
  | _ => none

/-- A number stands for a number. -/
theorem json?_number_ne (n : Numeral) :
    (∀ items, n.json? ≠ some (.array items)) ∧ ∀ members, n.json? ≠ some (.object members) := by
  rw [Numeral.json?]
  split <;> simp

theorem jsonItems?_eq_some_iff : ∀ {xs : List Source} {js : List Json},
    jsonItems? levels xs = some js ↔ List.Forall₂ (fun x j => json? levels x = some j) xs js
  | [], js => by
    rw [jsonItems?, List.forall₂_nil_left_iff, Option.some_inj, eq_comm]
  | x :: xs, js => by
    simp only [jsonItems?, Option.bind_eq_bind, Option.bind_eq_some_iff, Option.pure_def,
      Option.some_inj, jsonItems?_eq_some_iff, List.forall₂_cons_left_iff]
    constructor
    · rintro ⟨j, hj, js', hjs, rfl⟩
      exact ⟨j, js', hj, hjs, rfl⟩
    · rintro ⟨j, js', hj, hjs, rfl⟩
      exact ⟨j, hj, js', hjs, rfl⟩

/-- What stands for an array is written as one. -/
theorem items_of_json? {js : List Json} (h : json? levels s = some (.array js)) :
    ∃ items, s = .array items ∧ List.Forall₂ (fun x j => json? (levels - 1) x = some j) items js := by
  cases s with
  | array items =>
    rw [json?] at h
    split at h
    · exact nomatch h
    · obtain ⟨js', hjs, hj⟩ := Option.map_eq_some_iff.mp h
      exact ⟨items, rfl, jsonItems?_eq_some_iff.mp (Json.array.inj hj ▸ hjs)⟩
  | number n => exact absurd h ((json?_number_ne n).1 js)
  | string ps => simp [json?] at h
  | object members => simp [json?, Json.ofMembers] at h
  | null | bool => simp [json?] at h

theorem names_of_jsonMembers? : ∀ {members : List (List Piece × Source)}
    {ms : List (String × Json)}, jsonMembers? levels members = some ms →
      members.mapM (fun m => text? m.1) = some (ms.map (·.1))
  | [], ms, h => by
    rw [← Option.some_inj.mp h]
    rfl
  | (k, x) :: members, ms, h => by
    simp only [jsonMembers?, Option.bind_eq_bind, Option.bind_eq_some_iff, Option.pure_def,
      Option.some_inj] at h
    obtain ⟨name, hname, j, -, ms', hms, rfl⟩ := h
    simp only [List.mapM_cons, hname, names_of_jsonMembers? hms, Option.bind_eq_bind,
      Option.bind_some, Option.pure_def, List.map_cons]

/-- **The names of an object** are the written ones, each at its first place. -/
theorem names_of_json? {ms : List (String × Json)} (h : json? levels s = some (.object ms)) :
    ∃ names, s.memberNames? = some names ∧ ms.map (·.1) = names.eraseDups := by
  cases s with
  | object members =>
    rw [json?] at h
    split at h
    · exact nomatch h
    · obtain ⟨ms', hms, hj⟩ := Option.map_eq_some_iff.mp h
      have hnames := names_of_jsonMembers? hms
      refine ⟨_, hnames, ?_⟩
      rw [← Json.object.inj hj, Json.names_foldl_setMember]
  | number n => exact absurd h ((json?_number_ne n).2 ms)
  | null | bool | string | array => simp [json?] at h

end Source

end Tabular
