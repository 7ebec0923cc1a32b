import Tabular.Proofs.Dataset.Decoded
import Tabular.Proofs.Workspace.Accounting

/-!
# Data sets hold finite numbers

A cell of delimited text is a text, and a number of a JSON text is read as an integer or as a finite
double. So **no table that is loaded has a double that is infinite or undefined**
(`Dataset.finite_of_load`), and whatever is done to the workspace of a data set, bins and gaps account
for all of its rows (`Dataset.accounted_of_load`). Tables that are put together in other ways may hold
such doubles.
-/

namespace Tabular

/-! ### Cells -/

namespace Cell

theorem finite_ofInt {i : Int} (h : i.natAbs < 2 ^ 64) : (ofInt i).Finite := by
  rw [ofInt]
  split
  · trivial
  · exact Binary.isFinite_nearest _ (Binary.nearestBits_lt h)

/-- What a number stands for is finite. -/
theorem finite_ofJson_of_json? {n : Numeral} {j : Json} (h : n.json? = some j) :
    (ofJson j).Finite := by
  rw [Numeral.json?] at h
  split at h
  next i hlayer =>
    obtain rfl := Option.some.inj h
    exact finite_ofInt (Numeral.natAbs_lt_of_layer? hlayer)
  next x hlayer =>
    obtain rfl := Option.some.inj h
    obtain ⟨i, -, hint⟩ | hfloat := n.layer?_cases
    · rw [hint] at hlayer
      cases hlayer
    · rw [hfloat] at hlayer
      obtain ⟨y, hy, hxy⟩ := Option.map_eq_some_iff.mp hlayer
      obtain rfl := Layer.float.inj hxy
      exact Numeral.isFinite_of_float? hy
  next => cases h

/-- **The cell of a part of a text is finite**: arrays and objects become texts. -/
theorem finite_ofJson {levels : Nat} {s : Source} {j : Json} (h : s.json? levels = some j) :
    (ofJson j).Finite := by
  cases s with
  | number n => exact finite_ofJson_of_json? h
  | null | bool =>
    obtain rfl := Option.some.inj h
    trivial
  | string ps =>
    obtain ⟨s, -, rfl⟩ := Option.map_eq_some_iff.mp h
    trivial
  | array items =>
    obtain ⟨-, hitems⟩ := Option.ite_none_left_eq_some.mp h
    obtain ⟨js, -, rfl⟩ := Option.map_eq_some_iff.mp hitems
    trivial
  | object members =>
    obtain ⟨-, hmembers⟩ := Option.ite_none_left_eq_some.mp h
    obtain ⟨js, -, rfl⟩ := Option.map_eq_some_iff.mp hmembers
    trivial

end Cell

namespace Dataset

variable {o : SourceOptions} {bytes : List UInt8} {d : Dataset}

/-! ### Tables -/

theorem finite_of_readDelimited {delimiter : UInt8} (h : readDelimited delimiter o bytes = .ok d) :
    d.table.Finite := by
  cases hrecords : Delimited.records delimiter bytes with
  | nil =>
    rw [readDelimited, hrecords] at h
    obtain rfl := Except.ok.inj h
    exact List.forall_mem_nil _
  | cons header records =>
    obtain ⟨-, texts, -, htable⟩ := (readDelimited_eq_ok_iff hrecords).mp h
    rw [htable]
    intro row hrow e he
    obtain ⟨record, hrecord, rfl⟩ := List.mem_map.mp hrow
    obtain ⟨ss, -, rfl⟩ := List.mem_map.mp hrecord
    have hcell := (List.of_mem_zip (Keyed.mem_of_mem_entries_ofList he)).2
    obtain ⟨s, -, hs⟩ := List.mem_map.mp hcell
    rw [← hs]
    trivial

theorem finite_of_readJson (h : readJson o bytes = .ok d) : d.table.Finite := by
  obtain ⟨text, js, objects, -, hjs, hobjects, rfl⟩ := readJson_eq_ok_iff.mp h
  obtain ⟨source, -, hdocument⟩ := Option.bind_eq_some_iff.mp hjs
  obtain ⟨items, rfl, hitems⟩ := Source.items_of_json? hdocument
  intro row hrow e he
  obtain ⟨ms, hms, rfl⟩ := List.mem_map.mp hrow
  have hobject : Json.object ms ∈ js :=
    mem_of_mem_limited (hobjects ▸ List.mem_map_of_mem hms)
  obtain ⟨item, -, hitem⟩ := exists_mem_of_forall₂ hitems hobject
  obtain ⟨members, -, -, js', hjs', rfl⟩ := Source.json?_eq_object_iff.mp hitem
  rw [rowOfMembers_foldl_setMember] at he
  obtain ⟨m, hm, rfl⟩ := List.mem_map.mp (Keyed.mem_of_mem_entries_ofList he)
  obtain ⟨m', -, -, hvalue⟩ := exists_mem_of_forall₂ (Source.jsonMembers?_eq_some_iff.mp hjs') hm
  exact Cell.finite_ofJson hvalue

/-- **Loaded tables hold finite numbers only.** -/
theorem finite_of_load {path : String} {contents : Option (List UInt8)}
    (h : load path o contents = .ok d) : d.table.Finite := by
  cases contents with
  | none => cases h
  | some bytes =>
    simp only [load] at h
    split at h
    next => cases h
    next d' hd' =>
      split at h
      next => cases h
      next =>
        obtain rfl := Except.ok.inj h
        split at hd'
        · exact finite_of_readJson hd'
        · exact finite_of_readDelimited hd'

/-- **Bins and gaps account for all rows of a data set**, whatever is done to its workspace. -/
theorem accounted_of_load {path : String} {contents : Option (List UInt8)}
    (h : load path o contents = .ok d) (ops : List (Stamp × Operation)) :
    (Workspace.run .standard (Workspace.load .standard d.table (some d.headers)).value
      ops).value.Accounted :=
  (Workspace.run_induction (I := fun w => w.Aligned ∧ w.Accounted)
    (fun _ _ _ hw => ⟨hw.1.apply, hw.2.apply hw.1⟩) ops
    ⟨Workspace.load_aligned, Workspace.load_accounted (finite_of_load h)⟩).2

end Dataset

end Tabular
