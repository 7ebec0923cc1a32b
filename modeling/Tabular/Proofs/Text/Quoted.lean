import Mathlib.Data.List.Basic
import Tabular.Text.Quoted

/-!
# Quoted names are told apart

Names are quoted in messages, where they stand between other words. **A quoted name ends at its closing
quote and stands for one name only** (`Text.quoted_append_inj`), since no escape is the beginning of
another (`Text.Escape.append_inj`). Hence a list of quoted names can be read in one way only, whatever
quotes, commas and brackets the names themselves contain (`Text.quotedList_append_inj`).
-/

namespace Tabular

namespace Text

variable {c d : Char} {r r' s t : List Char}

/-- Runs of pieces can be read in one way only if no piece is the beginning of another and none begins
with the character that ends the run. -/
theorem flatMap_stop_inj {α : Type} {f : α → List Char} {stop : Char} {l l' : List α}
    (hf : ∀ a b r r', f a ++ r = f b ++ r' → a = b ∧ r = r')
    (hl : ∀ a ∈ l, ∀ r r', f a ++ r ≠ stop :: r') (hl' : ∀ a ∈ l', ∀ r r', f a ++ r ≠ stop :: r')
    (h : l.flatMap f ++ stop :: r = l'.flatMap f ++ stop :: r') : l = l' ∧ r = r' := by
  induction l generalizing l' with
  | nil =>
    rcases l' with _ | ⟨b, l'⟩
    · exact ⟨rfl, (List.cons.inj h).2⟩
    · rw [List.flatMap_cons, List.append_assoc] at h
      exact absurd h.symm (hl' b List.mem_cons_self _ _)
  | cons a l ih =>
    have ⟨ha, hl⟩ := List.forall_mem_cons.mp hl
    rw [List.flatMap_cons, List.append_assoc] at h
    rcases l' with _ | ⟨b, l'⟩
    · exact absurd h (ha _ _)
    · rw [List.flatMap_cons, List.append_assoc] at h
      obtain ⟨rfl, hrest⟩ := hf a b _ _ h
      obtain ⟨rfl, hr⟩ := ih hl (List.forall_mem_cons.mp hl').2 hrest
      exact ⟨rfl, hr⟩

/-- Texts that are ended by a character they do not contain end at the same place. -/
theorem append_stop_inj {stop : Char} (hs : stop ∉ s) (ht : stop ∉ t)
    (h : s ++ stop :: r = t ++ stop :: r') : s = t ∧ r = r' := by
  have hne {l : List Char} (hl : stop ∉ l) : ∀ c ∈ l, ∀ r r', [c] ++ r ≠ stop :: r' :=
    fun c hc _ _ heq => hl ((List.cons.inj heq).1 ▸ hc)
  refine flatMap_stop_inj (fun _ _ _ _ => List.cons.inj) (hne hs) (hne ht) ?_
  rw [List.flatMap_singleton', List.flatMap_singleton']
  exact h

/-! ### Numbers of characters -/

private theorem digitChar_inj : ∀ i < 16, ∀ j < 16, Nat.digitChar i = Nat.digitChar j → i = j := by
  decide

theorem hexDigits_of_lt {n : Nat} (h : n < 16) : hexDigits n = [Nat.digitChar n] :=
  Nat.toDigits_of_lt_base h

theorem hexDigits_of_le {n : Nat} (h : 16 ≤ n) :
    hexDigits n = hexDigits (n / 16) ++ [Nat.digitChar (n % 16)] :=
  Nat.toDigits_of_base_le (by decide) h

/-- Different numbers have different digits in base sixteen. -/
theorem hexDigits_inj {m n : Nat} (h : hexDigits m = hexDigits n) : m = n := by
  -- one digit is not several digits
  have hshort {k l : Nat} (hl : 16 ≤ l) : [Nat.digitChar k] ≠ hexDigits l := fun heq => by
    have hlength : (hexDigits (l / 16)).length ≠ 0 :=
      mt List.length_eq_zero_iff.mp Nat.toDigits_ne_nil
    rw [hexDigits_of_le hl] at heq
    simpa [hlength] using congrArg List.length heq
  induction m using Nat.strongRecOn generalizing n with
  | ind m ih =>
    rcases Nat.lt_or_ge m 16 with hm | hm <;> rcases Nat.lt_or_ge n 16 with hn | hn
    · rw [hexDigits_of_lt hm, hexDigits_of_lt hn] at h
      exact digitChar_inj m hm n hn (List.singleton_inj.mp h)
    · exact absurd (hexDigits_of_lt hm ▸ h) (hshort hn)
    · exact absurd (hexDigits_of_lt hn ▸ h).symm (hshort hm)
    · rw [hexDigits_of_le hm, hexDigits_of_le hn] at h
      obtain ⟨hfront, hlast⟩ := List.append_inj' h rfl
      have hdiv : m / 16 = n / 16 := ih (m / 16) (by omega) hfront
      have hmod : m % 16 = n % 16 :=
        digitChar_inj _ (Nat.mod_lt m (by decide)) _ (Nat.mod_lt n (by decide))
          (List.singleton_inj.mp hlast)
      omega

/-- The number of a character ends before its closing brace. -/
theorem brace_notMem_hexDigits (n : Nat) : '\x7d' ∉ hexDigits n := by
  have hdigit (k : Nat) : '\x7d' ≠ Nat.digitChar k := (Nat.digitChar_ne '\x7d' rfl).symm
  induction n using Nat.strongRecOn with
  | ind n ih =>
    rcases Nat.lt_or_ge n 16 with hn | hn
    · rw [hexDigits_of_lt hn, List.mem_singleton]
      exact hdigit n
    · rw [hexDigits_of_le hn, List.mem_append, List.mem_singleton, not_or]
      exact ⟨ih (n / 16) (by omega), hdigit (n % 16)⟩

/-! ### Escapes -/

/-- The characters that have an escape of two characters, each with the second of these. -/
def shortEscapes : List (Char × Char) :=
  [('\x00', '0'), ('\t', 't'), ('\n', 'n'), ('\r', 'r'), ('\\', '\\'), ('"', '"')]

/-- The ways in which a character is written between double quotes. -/
inductive Escape : Char → List Char → Prop where
  | short {c k : Char} (h : (c, k) ∈ shortEscapes) : Escape c ['\\', k]
  | number (c : Char) : Escape c ('\\' :: 'u' :: '\x7b' :: (hexDigits c.toNat ++ ['\x7d']))
  | itself {c : Char} (hc : c ≠ '\\') (hquote : c ≠ '"') : Escape c [c]

/-- A character is written in one of these ways. -/
theorem escape_escaped (c : Char) : Escape c (escaped (· == '"') c) := by
  fun_cases escaped (· == '"') c with
  | case1 h => exact .short (h ▸ by decide)
  | case2 _ h => exact .short (h ▸ by decide)
  | case3 _ _ h => exact .short (h ▸ by decide)
  | case4 _ _ _ h => exact .short (h ▸ by decide)
  | case5 _ _ _ _ h =>
    have hc : c = '\\' ∨ c = '"' := by simpa using h
    rcases hc with rfl | rfl <;> exact .short (by decide)
  | case6 => exact .number c
  | case7 _ _ _ _ h =>
    have ⟨hc, hquote⟩ : c ≠ '\\' ∧ c ≠ '"' := by simpa using h
    exact .itself hc hquote

/-- **No escape is the beginning of another**, and none stands for two characters. -/
theorem Escape.append_inj (h : Escape c s) (h' : Escape d t) (heq : s ++ r = t ++ r') :
    c = d ∧ r = r' := by
  -- behind a backslash, the second character tells which escape it is
  have hshort : ∀ a ∈ shortEscapes, ∀ b ∈ shortEscapes, a.2 = b.2 → a.1 = b.1 := by decide
  have hnumber : ∀ a ∈ shortEscapes, a.2 ≠ 'u' := by decide
  cases h with
  | short hc =>
    cases h' with
    | short hd =>
      obtain ⟨hk, hr⟩ := List.cons.inj (List.cons.inj heq).2
      exact ⟨hshort _ hc _ hd hk, hr⟩
    | number => exact absurd (List.cons.inj (List.cons.inj heq).2).1 (hnumber _ hc)
    | itself hd => exact absurd (List.cons.inj heq).1.symm hd
  | number =>
    cases h' with
    | short hd => exact absurd (List.cons.inj (List.cons.inj heq).2).1.symm (hnumber _ hd)
    | number =>
      have hdigits : hexDigits c.toNat ++ '\x7d' :: r = hexDigits d.toNat ++ '\x7d' :: r' := by
        simpa using heq
      obtain ⟨hn, hr⟩ :=
        append_stop_inj (brace_notMem_hexDigits _) (brace_notMem_hexDigits _) hdigits
      exact ⟨Char.toNat_inj.mp (hexDigits_inj hn), hr⟩
    | itself hd => exact absurd (List.cons.inj heq).1.symm hd
  | itself hc =>
    cases h' with
    | short => exact absurd (List.cons.inj heq).1 hc
    | number => exact absurd (List.cons.inj heq).1 hc
    | itself => exact List.cons.inj heq

/-- No escape begins with the closing quote. -/
theorem Escape.ne_quote (h : Escape c s) : s ++ r ≠ '"' :: r' := by
  intro heq
  cases h with
  | short => exact absurd (List.cons.inj heq).1 (by decide)
  | number => exact absurd (List.cons.inj heq).1 (by decide)
  | itself _ hquote => exact hquote (List.cons.inj heq).1

/-! ### Quoted texts -/

/-- **A quoted text ends at its closing quote** and stands for one text only. -/
theorem quoted_append_inj {a b : String} (h : (quoted a).toList ++ r = (quoted b).toList ++ r') :
    a = b ∧ r = r' := by
  have hbody : a.toList.flatMap (escaped (· == '"')) ++ '"' :: r =
      b.toList.flatMap (escaped (· == '"')) ++ '"' :: r' := by
    simpa [quoted] using h
  have hquote (l : List Char) : ∀ c ∈ l, ∀ r r', escaped (· == '"') c ++ r ≠ '"' :: r' :=
    fun c _ _ _ => (escape_escaped c).ne_quote
  obtain ⟨hab, hr⟩ := flatMap_stop_inj
    (fun c d _ _ => (escape_escaped c).append_inj (escape_escaped d)) (hquote _) (hquote _) hbody
  exact ⟨String.toList_inj.mp hab, hr⟩

/-! ### Lists of quoted texts -/

/-- The quoted texts of a list behind its first one, each after a comma. -/
def furtherQuoted (names : List String) : List Char :=
  names.flatMap fun name => ',' :: ' ' :: (quoted name).toList

private theorem intercalate_cons {sep x : List Char} : ∀ {xs : List (List Char)},
    sep.intercalate (x :: xs) = x ++ xs.flatMap (sep ++ ·)
  | [] => by rw [List.intercalate_singleton, List.flatMap_nil, List.append_nil]
  | y :: xs => by
    rw [List.intercalate_cons_cons, intercalate_cons, List.flatMap_cons, List.append_assoc,
      List.append_assoc]

theorem toList_quotedList_nil : (quotedList []).toList = ['[', ']'] := by decide

theorem toList_quotedList_cons (name : String) (names : List String) :
    (quotedList (name :: names)).toList =
      '[' :: ((quoted name).toList ++ (furtherQuoted names ++ [']'])) := by
  simp [quotedList, furtherQuoted, intercalate_cons, List.flatMap_map]

private theorem furtherQuoted_inj {names names' : List String}
    (h : furtherQuoted names ++ ']' :: r = furtherQuoted names' ++ ']' :: r') :
    names = names' ∧ r = r' := by
  have hbracket (l : List String) :
      ∀ name ∈ l, ∀ r r', (',' :: ' ' :: (quoted name).toList) ++ r ≠ ']' :: r' :=
    fun _ _ _ _ heq => absurd (List.cons.inj heq).1 (by decide)
  refine flatMap_stop_inj (fun _ _ _ _ heq => ?_) (hbracket names) (hbracket names') h
  exact quoted_append_inj (List.cons.inj (List.cons.inj heq).2).2

/-- **A list of quoted texts can be read in one way only**, whatever the texts contain. -/
theorem quotedList_append_inj {names names' : List String}
    (h : (quotedList names).toList ++ r = (quotedList names').toList ++ r') :
    names = names' ∧ r = r' := by
  rcases names with _ | ⟨name, names⟩ <;> rcases names' with _ | ⟨name', names'⟩ <;>
    simp only [toList_quotedList_nil, toList_quotedList_cons, List.cons_append, List.append_assoc,
      List.nil_append, List.cons_inj_right] at h
  · exact ⟨rfl, h⟩
  · exact absurd h (by simp [quoted])
  · exact absurd h (by simp [quoted])
  · obtain ⟨rfl, hrest⟩ := quoted_append_inj h
    obtain ⟨rfl, hr⟩ := furtherQuoted_inj hrest
    exact ⟨rfl, hr⟩

theorem quotedList_injective : Function.Injective quotedList := fun _ _ h =>
  (quotedList_append_inj (congrArg (String.toList · ++ []) h)).1

end Text

end Tabular
