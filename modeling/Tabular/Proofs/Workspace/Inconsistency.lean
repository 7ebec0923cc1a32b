import Tabular.Proofs.Encoding
import Tabular.Proofs.Number.Digits
import Tabular.Proofs.Text.Quoted
import Tabular.Proofs.Workspace.Consistency

/-!
# What the check for consistency reports

An inconsistent workspace may fail in several places at once, and only one failure is reported. The
check compares the names found in one place after the other with those of the order
(`Workspace.check_eq`), and such a walk ends at the first place that fails (`forM_eq_error_iff`). Hence
**the report is about the first failure and lists exactly the names that differ there**
(`Workspace.first_failure_reported`). Nothing of it is lost in its message, from which the place and
both lists can be read off (`Inconsistency.message_injective`).
-/

namespace Tabular

open Encoding (utf8Bytes utf8Bytes_lt_iff eq_of_sorted_utf8Bytes)

/-! ### Messages -/

/-- What a place is called ends where the message goes on. -/
theorem NameSet.label_append_inj {p q : NameSet} {r s : List Char}
    (h : p.label.toList ++ ' ' :: r = q.label.toList ++ ' ' :: s) : p = q ∧ r = s := by
  cases p <;> cases q
  case types.types => exact ⟨rfl, by simpa using h⟩
  case distributions.distributions => exact ⟨rfl, by simpa using h⟩
  case gaps.gaps => exact ⟨rfl, by simpa using h⟩
  case row.row i j =>
    have hspace (n : Nat) : ' ' ∉ Nat.toDigits 10 n := fun hn =>
      absurd (Number.isDigit_of_mem_toDigits hn) (by decide)
    have hrow : Nat.toDigits 10 i ++ ' ' :: r = Nat.toDigits 10 j ++ ' ' :: s := by
      simpa [label] using h
    obtain ⟨hdigits, hr⟩ := Text.append_stop_inj (hspace i) (hspace j) hrow
    have hij := congrArg Number.ofDigits hdigits
    rw [Number.ofDigits_toDigits, Number.ofDigits_toDigits] at hij
    exact ⟨congrArg row hij, hr⟩
  -- places of different kinds differ in their first character
  all_goals exact absurd h (by simp [label])

namespace Inconsistency

variable {order missing orphaned : List String} {place : NameSet}

theorem toList_message (i : Inconsistency) :
    i.message.toList = "wrangler state is inconsistent: ".toList ++ i.detail.toList :=
  String.toList_append

theorem toList_detail_duplicateColumns : (duplicateColumns order).detail.toList =
    "column order contains duplicates: ".toList ++ (Text.quotedList order).toList :=
  String.toList_append

theorem toList_detail_differingNames : (differingNames place missing orphaned).detail.toList =
    place.label.toList ++ ' ' :: ("keys differ from column order (missing: ".toList ++
      ((Text.quotedList missing).toList ++ (", orphaned: ".toList ++
        ((Text.quotedList orphaned).toList ++ [')'])))) := by
  unfold detail
  simp only [String.toList_append, List.append_assoc]
  rfl

private theorem detail_duplicateColumns_ne :
    (duplicateColumns order).detail ≠ (differingNames place missing orphaned).detail := by
  intro h
  rw [← String.toList_inj, toList_detail_duplicateColumns, toList_detail_differingNames] at h
  cases place <;> simp [NameSet.label] at h

/-- **The message tells inconsistencies apart**: two with the same message are about the same place and
list the same names. -/
theorem message_injective : Function.Injective message := by
  intro i j h
  rw [← String.toList_inj, toList_message, toList_message, List.append_right_inj,
    String.toList_inj] at h
  cases i with
  | duplicateColumns order =>
    cases j with
    | duplicateColumns order' =>
      rw [← String.toList_inj, toList_detail_duplicateColumns, toList_detail_duplicateColumns,
        List.append_right_inj, String.toList_inj] at h
      rw [Text.quotedList_injective h]
    | differingNames => exact absurd h detail_duplicateColumns_ne
  | differingNames place missing orphaned =>
    cases j with
    | duplicateColumns => exact absurd h.symm detail_duplicateColumns_ne
    | differingNames place' missing' orphaned' =>
      rw [← String.toList_inj, toList_detail_differingNames, toList_detail_differingNames] at h
      obtain ⟨rfl, hlists⟩ := NameSet.label_append_inj h
      rw [List.append_right_inj] at hlists
      obtain ⟨rfl, hrest⟩ := Text.quotedList_append_inj hlists
      rw [List.append_right_inj] at hrest
      obtain ⟨rfl, -⟩ := Text.quotedList_append_inj hrest
      rfl

end Inconsistency

namespace Workspace

variable {order found missing orphaned : List String} {place : NameSet} {cause : Inconsistency}
  {w : Workspace}

/-! ### Names that differ -/

/-- The names by which those found in a place differ from the expected ones: `missing` lists the names
that are expected and not found, `orphaned` those that are found and not expected, both in the order of
their bytes. -/
structure Differences (order found missing orphaned : List String) : Prop where
  mem_missing : ∀ c, c ∈ missing ↔ c ∈ order ∧ c ∉ found
  missing_sorted : missing.Pairwise fun a b => utf8Bytes a < utf8Bytes b
  mem_orphaned : ∀ c, c ∈ orphaned ↔ c ∈ found ∧ c ∉ order
  orphaned_sorted : orphaned.Pairwise fun a b => utf8Bytes a < utf8Bytes b

/-- Names differ in one way only. -/
theorem Differences.unique {missing' orphaned' : List String}
    (h : Differences order found missing orphaned)
    (h' : Differences order found missing' orphaned') :
    missing = missing' ∧ orphaned = orphaned' := by
  constructor
  · exact eq_of_sorted_utf8Bytes h.missing_sorted h'.missing_sorted fun c =>
      (h.mem_missing c).trans (h'.mem_missing c).symm
  · exact eq_of_sorted_utf8Bytes h.orphaned_sorted h'.orphaned_sorted fun c =>
      (h.mem_orphaned c).trans (h'.mem_orphaned c).symm

/-- Names that occur once each are strictly sorted. -/
theorem sortedNames_sorted (h : order.Nodup) : (sortedNames order).Pairwise (· < ·) := by
  have hle : (sortedNames order).Pairwise fun a b => decide (a ≤ b) := by
    refine List.pairwise_mergeSort (fun a b c hab hbc => ?_) (fun a b => ?_) order
    · exact decide_eq_true (String.le_trans (of_decide_eq_true hab) (of_decide_eq_true hbc))
    · simpa only [Bool.or_eq_true, decide_eq_true_eq] using String.le_total a b
  have hnodup : (sortedNames order).Nodup := (List.mergeSort_perm order _).nodup_iff.mpr h
  refine (hle.and hnodup).imp fun {a b} ⟨hab, hne⟩ => String.not_le.mp fun hba => hne ?_
  exact String.le_antisymm (of_decide_eq_true hab) hba

/-- The lists of names that a check compares are the differences. -/
theorem differences_filter (horder : order.Nodup) (hfound : found.Pairwise (· < ·)) :
    Differences order found ((sortedNames order).filter (!found.contains ·))
      (found.filter (!order.contains ·)) where
  mem_missing c := by simp [mem_sortedNames]
  missing_sorted := ((sortedNames_sorted horder).filter _).imp utf8Bytes_lt_iff.mpr
  mem_orphaned c := by simp
  orphaned_sorted := (hfound.filter _).imp utf8Bytes_lt_iff.mpr

/-- **A place fails if its names are not those of the order**, and the failure lists how they
differ. -/
theorem checkNames_eq_error_iff (horder : order.Nodup) (hfound : found.Pairwise (· < ·)) :
    checkNames order place found = .error cause ↔ (¬ ∀ c, c ∈ found ↔ c ∈ order) ∧
      ∃ missing orphaned, Differences order found missing orphaned ∧
        cause = .differingNames place missing orphaned := by
  have hcause : ∀ cause, checkNames order place found = .error cause →
      cause = .differingNames place ((sortedNames order).filter (!found.contains ·))
        (found.filter (!order.contains ·)) := by
    intro cause h
    rw [checkNames] at h
    split at h
    · cases h
    · exact (Except.error.inj h).symm
  constructor
  · intro h
    refine ⟨fun hsame => ?_, _, _, differences_filter horder hfound, hcause cause h⟩
    rw [checkNames_eq_ok_iff.mpr hsame] at h
    cases h
  · rintro ⟨hdiffer, missing, orphaned, hd, rfl⟩
    obtain ⟨rfl, rfl⟩ := hd.unique (differences_filter horder hfound)
    rcases hcheck : checkNames order place found with cause | u
    · rw [hcause cause hcheck]
    · exact absurd (checkNames_eq_ok_iff.mp hcheck) hdiffer

/-! ### One place after the other -/

/-- A walk fails at the first item that fails. -/
private theorem forM_eq_error_iff {α ε : Type} {f : α → Except ε Unit} {y : ε} {xs : List α} :
    xs.forM f = .error y ↔ ∃ before x after, xs = before ++ x :: after ∧
      (∀ a ∈ before, f a = .ok ()) ∧ f x = .error y := by
  induction xs with
  | nil => simp [pure, Except.pure]
  | cons a xs ih =>
    have hwalk : (a :: xs).forM f = (f a >>= fun _ => xs.forM f) := rfl
    rw [hwalk]
    rcases ha : f a with cause | u
    · -- the walk ends here, and no item before it could be passed
      constructor
      · intro h
        exact ⟨[], a, xs, rfl, nofun, ha.trans h⟩
      · rintro ⟨before, x, after, hxs, hbefore, hx⟩
        rcases List.cons_eq_append_iff.mp hxs with ⟨rfl, hcons⟩ | ⟨before', rfl, -⟩
        · obtain ⟨rfl, -⟩ := List.cons.inj hcons
          exact ha.symm.trans hx
        · exact absurd (ha.symm.trans (hbefore a List.mem_cons_self)) nofun
    · -- the first item that fails is behind this one
      refine ih.trans ⟨?_, ?_⟩
      · rintro ⟨before, x, after, rfl, hbefore, hx⟩
        exact ⟨a :: before, x, after, rfl, List.forall_mem_cons.mpr ⟨ha, hbefore⟩, hx⟩
      · rintro ⟨before, x, after, hxs, hbefore, hx⟩
        rcases List.cons_eq_append_iff.mp hxs with ⟨rfl, hcons⟩ | ⟨before', rfl, hxs'⟩
        · obtain ⟨rfl, -⟩ := List.cons.inj hcons
          exact absurd (ha.symm.trans hx) nofun
        · exact ⟨before', x, after, hxs', (List.forall_mem_cons.mp hbefore).2, hx⟩

/-- The places in which names are compared with those of the order, as they come in turn, each with the
names found there. -/
def places (w : Workspace) : List (NameSet × List String) :=
  (.types, w.types.keys) :: (.distributions, w.distributions.keys) :: (.gaps, w.gaps.keys) ::
    w.table.rows.zipIdx.map fun e => (.row e.2, e.1.keys)

/-- The names found in a place are sorted. -/
theorem sorted_of_mem_places {e : NameSet × List String} (h : e ∈ w.places) :
    e.2.Pairwise (· < ·) := by
  simp only [places, List.mem_cons, List.mem_map] at h
  rcases h with rfl | rfl | rfl | ⟨row, -, rfl⟩
  all_goals exact Keyed.keys_sorted _

/-- Rows are compared one after the other. -/
theorem checkRows_eq_forM : ∀ (rows : List Row) (start : Nat), checkRows order start rows =
    ((rows.zipIdx start).map fun e => (NameSet.row e.2, e.1.keys)).forM fun e =>
      checkNames order e.1 e.2
  | [], _ => rfl
  | row :: rows, start => by
    rw [checkRows, checkRows_eq_forM rows (start + 1)]
    rfl

/-- The check walks through the places if no column is shown twice. -/
theorem check_eq (w : Workspace) : w.check =
    if w.order.Nodup then w.places.forM fun e => checkNames w.order e.1 e.2
    else .error (.duplicateColumns w.order) := by
  unfold check
  by_cases h : w.order.Nodup
  · rw [if_pos h, distinct_iff_nodup.mpr h, checkRows_eq_forM]
    rfl
  · have hd : distinct w.order = false := by simpa using mt distinct_iff_nodup.mp h
    rw [if_neg h, hd]
    rfl

/-! ### The first failure -/

/-- The first condition of consistency that fails in a workspace, with what there is to report about
it: a column that is shown twice comes first, then each place in turn. -/
inductive FirstFailure (w : Workspace) : Inconsistency → Prop where
  | duplicates (h : ¬ w.order.Nodup) : FirstFailure w (.duplicateColumns w.order)
  | names {before after : List (NameSet × List String)} {place : NameSet}
      {found missing orphaned : List String} (horder : w.order.Nodup)
      (hplaces : w.places = before ++ (place, found) :: after)
      (hbefore : ∀ e ∈ before, ∀ c, c ∈ e.2 ↔ c ∈ w.order)
      (hfound : ¬ ∀ c, c ∈ found ↔ c ∈ w.order)
      (hdifferences : Differences w.order found missing orphaned) :
    FirstFailure w (.differingNames place missing orphaned)

/-- The check fails with the first failure. -/
theorem check_eq_error_iff : w.check = .error cause ↔ w.FirstFailure cause := by
  rw [check_eq]
  split
  next horder =>
    rw [forM_eq_error_iff]
    constructor
    · rintro ⟨before, ⟨place, found⟩, after, hplaces, hbefore, hfails⟩
      have hmem : (place, found) ∈ w.places := hplaces ▸ List.mem_append_cons_self
      obtain ⟨hfound, missing, orphaned, hd, rfl⟩ :=
        (checkNames_eq_error_iff horder (sorted_of_mem_places hmem)).mp hfails
      exact .names horder hplaces (fun e he => checkNames_eq_ok_iff.mp (hbefore e he)) hfound hd
    · intro h
      cases h with
      | duplicates hdup => exact absurd horder hdup
      | @names before after place found missing orphaned _ hplaces hbefore hfound hd =>
        have hmem : (place, found) ∈ w.places := hplaces ▸ List.mem_append_cons_self
        have hfails : checkNames w.order place found =
            .error (.differingNames place missing orphaned) :=
          (checkNames_eq_error_iff horder (sorted_of_mem_places hmem)).mpr
            ⟨hfound, missing, orphaned, hd, rfl⟩
        exact ⟨before, (place, found), after, hplaces,
          fun e he => checkNames_eq_ok_iff.mpr (hbefore e he), hfails⟩
  next hdup =>
    constructor
    · intro h
      obtain rfl := Except.error.inj h
      exact .duplicates hdup
    · intro h
      cases h with
      | duplicates => rfl
      | names horder => exact absurd horder hdup

/-- **The first failure is reported.** A workspace passes the check if no column is shown twice and the
names in each of the metadata maps and in every row are those of the order. Any other workspace fails
with exactly one report, on the first of these conditions that fails: the columns of the order come
first, then the types, the histograms, the gaps, and the rows from the first one on. If names differ,
the report lists those that are missing and those that should not be there, each in the order of bytes.
All of it can be read off the message. -/
theorem first_failure_reported (w : Workspace) :
    (w.check = .ok () ↔ w.order.Nodup ∧ (∀ c, c ∈ w.types.keys ↔ c ∈ w.order) ∧
      (∀ c, c ∈ w.distributions.keys ↔ c ∈ w.order) ∧ (∀ c, c ∈ w.gaps.keys ↔ c ∈ w.order) ∧
        ∀ row ∈ w.table.rows, ∀ c, c ∈ row.keys ↔ c ∈ w.order) ∧
      (∀ cause, w.check = .error cause ↔ w.FirstFailure cause) ∧
        Function.Injective Inconsistency.message :=
  ⟨check_eq_ok_iff, fun _ => check_eq_error_iff, Inconsistency.message_injective⟩

/-- Of the failures in the histograms, the gaps and the row, the one in the histograms is reported. -/
theorem missing_and_orphaned_histograms :
    let order := ["b", "é", "a"]
    let types := Keyed.ofList [("é", ColumnType.text), ("b", .text), ("a", .text)]
    let distributions := Keyed.ofList [("z", default), ("c", default), ("a", default)]
    let w : Workspace := ⟨⟨[∅]⟩, order, types, distributions, ∅, []⟩
    let cause := Inconsistency.differingNames .distributions ["b", "é"] ["c", "z"]
    w.check = .error cause ∧ w.FirstFailure cause ∧
      cause.message = "wrangler state is inconsistent: histograms keys differ from column order " ++
        "(missing: [\"b\", \"é\"], orphaned: [\"c\", \"z\"])" := by
  intro order types distributions w cause
  have hdifferences : Differences order distributions.keys ["b", "é"] ["c", "z"] := by
    have hkeys : distributions.keys = ["a", "c", "z"] := by decide
    rw [hkeys]
    exact ⟨by grind, by decide, by grind, by decide⟩
  have hfirst : w.FirstFailure cause := by
    have hplaces : w.places =
        [(.types, types.keys)] ++ (.distributions, distributions.keys) :: [(.gaps, []), (.row 0, [])] :=
      rfl
    refine .names (by decide) hplaces ?_ ?_ hdifferences
    · have hkeys : types.keys = ["a", "b", "é"] := by decide
      rw [List.forall_mem_singleton, hkeys]
      grind
    · exact fun hsame => absurd ((hsame "c").mp (by decide)) (by decide)
  exact ⟨((first_failure_reported w).2.1 cause).mpr hfirst, hfirst, by decide +kernel⟩

end Workspace

end Tabular
