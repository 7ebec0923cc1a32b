import Tabular.Delimited

/-!
# Quoted fields are read back

`write` puts every field between quotes and doubles the quotes inside. **Whatever bytes the fields
hold, reading gives the same records** (`Delimited.records_write`): quotes, delimiters, line ends,
and nothing at all.

The proof follows the machine through what was written. Inside quotes every byte is kept, a doubled
quote as one; the closing quote leaves the machine at a place where a delimiter ends the field and a
line feed ends the record. A record that consists of one empty field is no empty line, as its quotes
have been seen. The delimiter must be none of the bytes that mean something else.
-/

namespace Tabular

namespace Delimited

namespace Scan

variable {d : UInt8} {s : Scan}

/-! ### Fields -/

/-- Inside quotes the machine collects the bytes of the field. -/
theorem foldl_doubled : ∀ (f : Field) {s : Scan}, s.place = .quoted →
    (doubled f).foldl (step d) s = { s with field := f.reverse ++ s.field }
  | [], _, _ => rfl
  | b :: f, s, hs => by
    have hdoubled : doubled (b :: f) = (if b = quote then [quote, quote] else [b]) ++ doubled f :=
      List.flatMap_cons
    -- one byte of the field, written as one or two, leaves the machine inside the quotes
    have hbyte : (if b = quote then [quote, quote] else [b]).foldl (step d) s =
        { s with field := b :: s.field } := by
      by_cases hb : b = quote
      · simp [hb, step, hs, keep]
      · simp [hb, step, hs, keep]
    have hrest := foldl_doubled f (s := { s with field := b :: s.field }) hs
    rw [hdoubled, List.foldl_append, hbyte, hrest, List.reverse_cons, List.append_assoc,
      List.singleton_append]

/-- A field in quotes is read from the opening quote to the closing one. -/
theorem foldl_writeField (f : Field) (hs : s.place = .recordStart ∨ s.place = .fieldStart)
    (hf : s.field = []) :
    (writeField f).foldl (step d) s = { s with place := .quoteSeen, field := f.reverse } := by
  have hopen : step d s quote = { s with place := .quoted } := by
    rcases hs with hs | hs <;> simp [step, hs, opening, isTerminator, quote]
  have hclose : ∀ t : Scan, t.place = .quoted → step d t quote = { t with place := .quoteSeen } := by
    intro t ht
    simp [step, ht]
  rw [writeField, List.cons_append, List.foldl_cons, hopen, List.foldl_append,
    foldl_doubled f rfl, List.foldl_cons, List.foldl_nil, hclose _ rfl, hf, List.append_nil]

/-- Behind a closing quote a delimiter ends the field. -/
theorem step_delimiter (hs : s.place = .quoteSeen) (hd : d ≠ quote) : step d s d = s.closeField := by
  simp [step, hs, hd, outside]

/-- Behind a closing quote a line feed ends the record. -/
theorem step_lineFeed (hs : s.place = .quoteSeen) (hd : d ≠ 0x0A) :
    step d s 0x0A = s.closeRecord := by
  simp [step, hs, hd.symm, outside, isTerminator, quote]

/-! ### Records -/

/-- The fields of a record and the line feed behind it add one record. -/
theorem foldl_writeFields (hquote : d ≠ quote) (hline : d ≠ 0x0A) :
    ∀ {fs : List Field} {s : Scan}, fs ≠ [] → (s.place = .recordStart ∨ s.place = .fieldStart) →
      s.field = [] → (writeFields d fs ++ [0x0A]).foldl (step d) s =
        ⟨.recordStart, [], [], (s.fields.reverse ++ fs) :: s.records⟩
  | [f], s, _, hs, hf => by
    rw [writeFields, List.foldl_append, foldl_writeField f hs hf, List.foldl_cons, List.foldl_nil,
      step_lineFeed rfl hline]
    simp [closeRecord]
  | f :: g :: fs, s, _, hs, hf => by
    rw [writeFields, List.append_assoc, List.foldl_append, foldl_writeField f hs hf,
      List.cons_append, List.foldl_cons, step_delimiter rfl hquote,
      foldl_writeFields hquote hline (List.cons_ne_nil g fs) (.inr rfl) rfl]
    simp [closeField]

/-- Written records are added one after the other. -/
theorem foldl_write (hquote : d ≠ quote) (hline : d ≠ 0x0A) :
    ∀ {written read : List (List Field)}, (∀ fs ∈ written, fs ≠ []) →
      (write d written).foldl (step d) ⟨.recordStart, [], [], read⟩ =
        ⟨.recordStart, [], [], written.reverse ++ read⟩
  | [], _, _ => rfl
  | fs :: written, read, h => by
    have ⟨hfs, hwritten⟩ := List.forall_mem_cons.mp h
    rw [write, List.flatMap_cons, List.foldl_append,
      foldl_writeFields hquote hline hfs (.inl rfl) rfl, ← write, foldl_write hquote hline hwritten]
    simp

end Scan

variable {d : UInt8}

/-- What is written begins with a quote and not with a byte order mark. -/
theorem skipMark_write : ∀ {rs : List (List Field)}, (∀ fs ∈ rs, fs ≠ []) →
    skipMark (write d rs) = write d rs
  | [], _ => rfl
  | [] :: _, h => absurd rfl (h [] List.mem_cons_self)
  | [_] :: _, _ => rfl
  | (_ :: _ :: _) :: _, _ => rfl

/-- **Records are read back as they were written.** -/
theorem records_write (hquote : d ≠ quote) (hline : d ≠ 0x0A) {rs : List (List Field)}
    (h : ∀ fs ∈ rs, fs ≠ []) : records d (write d rs) = rs := by
  rw [records, skipMark_write h, Scan.start, Scan.foldl_write hquote hline h, List.append_nil,
    Scan.finish, List.reverse_reverse]

end Delimited

end Tabular
