import Tabular.Json.Decoding
import Tabular.Proofs.Json.Written

/-!
# Views of a document

Values are decoded level by level, from a document or from a text that is still to be read, and the
decoders do not tell which. A `Layered.View` is a way to see documents that shows **at every level what
the document has there**. A document is a view of itself (`Json.view`), and so is the excerpt of a text
that was written for it (`Excerpt.view`); so what is proved of a decoder on any view holds of both.
-/

namespace Tabular

namespace Layered

open Json (Plain)

variable {δ : Type} [Layered δ] {levels : Nat}

/-- A way to see documents, of which so many levels can be looked into. -/
structure View (see : (levels : Nat) → Json → δ) : Prop where
  null : ∀ levels, layer (see levels .null) = some .null
  bool : ∀ levels b, layer (see levels (.bool b)) = some (.bool b)
  int : ∀ levels n, -2 ^ 63 ≤ n → n < 2 ^ 64 → layer (see levels (.int n)) = some (.int n)
  text : ∀ levels s, layer (see levels (.text s)) = some (.text s)
  array : ∀ levels items,
    layer (see (levels + 1) (.array items)) = some (.array (items.map (see levels)))
  object : ∀ levels members, layer (see (levels + 1) (.object members)) =
    some (.object (members.map fun m => (m.1, see levels m.2)))
  whole : ∀ levels j, Plain levels j → json? (see levels j) = some j

namespace View

variable {see : Nat → Json → δ} (h : View see)

include h

theorem text?_see (s : String) : text? (see levels (.text s)) = some s := by
  rw [text?, h.text]

/-- An integer of 64 bits is seen as itself. -/
theorem int64?_see (n : Int64) : int64? (see levels (.int n.toInt)) = some n := by
  have hlow : -2 ^ 63 ≤ n.toInt := n.le_toInt
  have hhigh : n.toInt < 2 ^ 63 := n.toInt_lt
  rw [int64?, h.int levels n.toInt hlow (by omega)]
  exact (if_pos ⟨hlow, hhigh⟩).trans (congrArg some (Int64.ofInt_toInt n))

/-- The items of an array are decoded as they are seen. -/
theorem list?_see {α : Type} (f : δ → Option α) (items : List Json) :
    list? f (see (levels + 1) (.array items)) = items.mapM fun x => f (see levels x) := by
  rw [list?, items?, h.array]
  exact List.mapM_map

end View

end Layered

/-- A document is a view of itself. -/
theorem Json.view : Layered.View fun _ (j : Json) => j where
  null _ := rfl
  bool _ _ := rfl
  int _ _ _ _ := rfl
  text _ _ := rfl
  array _ items := by rw [List.map_id']; rfl
  object _ members := by rw [List.map_id']; rfl
  whole _ _ _ := rfl

/-- The excerpt of a written text is a view of the document. -/
theorem Excerpt.view : Layered.View fun levels (j : Json) => (⟨levels, j.source⟩ : Excerpt) where
  null _ := rfl
  bool _ _ := rfl
  int _ _ hlow hhigh := Source.layer?_ofInt hlow hhigh
  text _ s := congrArg (Option.map Layer.text) (Source.text?_pieces s)
  array levels items := by
    rw [Json.source, Json.itemSources_eq]
    exact congrArg (fun xs => some (Layer.array xs)) (List.map_map (f := Json.source))
  object levels members := by
    have hmembers : Excerpt.members? levels (members.map fun m => (Source.pieces m.1, m.2.source)) =
        some (members.map fun m => (m.1, ⟨levels, m.2.source⟩)) := by
      simp only [Excerpt.members?, List.mapM_map, Function.comp_def, Source.text?_pieces,
        Option.map_some]
      exact List.mapM_pure (m := Option)
    rw [Json.source, Json.memberSources_eq]
    exact congrArg (Option.map Layer.object) hmembers
  whole _ _ h := Json.json?_source h

end Tabular
