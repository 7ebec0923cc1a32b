import Tabular.CommandLine.Run
import Tabular.Proofs.Workspace.Alignment

/-!
# Scripts at the command line

The command that applies a script runs its operations **like any list of operations**, each under the
stamp of its number; the notes it takes between them do not matter for the workspace
(`CommandLine.applyAll_value`). It begins with the workspace of the data set in its input
(`CommandLine.loadInput_value`), so what holds of all such runs holds of what it reports: if the rows
of the input share their columns, it never finds the workspace inconsistent.
-/

namespace Tabular

namespace CommandLine

variable {s : Surroundings} {o : InputOptions}

/-- A script is run under the stamps of the numbers of its operations. -/
theorem applyAll_value (stamp : Nat → Stamp) : ∀ (ops : List Operation) (number : Nat)
    (w : Workspace), (applyAll stamp number w ops).value =
      (Workspace.run .standard w ((ops.zipIdx number).map fun e => (stamp e.2, e.1))).value
  | [], _, _ => rfl
  | op :: ops, number, w => by
    rw [applyAll, List.zipIdx_cons, List.map_cons, Workspace.run_cons, Traced.value_bind,
      ← applyAll_value stamp ops (number + 1)]
    split <;> rfl

/-- The workspace of an input is that of the data set in it. -/
theorem loadInput_value {x : Traced Workspace} (h : loadInput s o = .ok x) :
    ∃ encoding d,
      Dataset.load o.input ⟨o.delimiter, encoding, o.limit⟩ (contentsOf s o.input) = .ok d ∧
        x.value = (Workspace.load .standard d.table (some d.headers)).value := by
  unfold loadInput at h
  cases he : Dataset.encodingFor s.libraries.decoders o.encoding with
  | error cause => exact nomatch (he ▸ h)
  | ok encoding =>
    rw [he] at h
    cases hd : Dataset.load o.input ⟨o.delimiter, encoding, o.limit⟩ (contentsOf s o.input) with
    | error cause => simp [bind, Except.bind, hd] at h
    | ok d =>
      simp only [bind, Except.bind, hd] at h
      exact ⟨encoding, d, hd, by rw [← Except.ok.inj h]⟩

/-- An input whose rows share their columns is never left inconsistent. -/
theorem runApply_ne_inconsistent
    (h : ∀ encoding d, Dataset.load o.input ⟨o.delimiter, encoding, o.limit⟩
      (contentsOf s o.input) = .ok d → d.table.Uniform)
    (script : String) (preview : Nat) (json : Bool) (cause : Inconsistency) :
    (runApply s o script preview json).result ≠ .error (.inconsistent cause) := by
  unfold runApply
  split
  next => nofun
  next ops _ =>
    split
    next => nofun
    next w calls loaded hload =>
      obtain ⟨encoding, d, hd, hw⟩ := loadInput_value hload
      have hu := h encoding d hd
      have hcheck : (applyAll s.stamp 1 w ops).value.check = .ok () := by
        rw [show w = _ from hw, applyAll_value]
        exact (Workspace.run_load_aligned _ _ _ _ _).check (Workspace.run_load_uniform _ _ _ _ hu)
      simp only [hcheck]
      nofun

end CommandLine

end Tabular
