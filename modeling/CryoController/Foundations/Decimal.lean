import Mathlib.Data.List.TakeWhile
import Mathlib.Tactic.FinCases
import CryoController.Foundations.Numeral

/-!
# Decimal numbers and their texts

A decimal number has a sign, digits before and after an optional point, and an
optional exponent. Its text is read as its value, whatever follows from the first white
space on.
-/

namespace Numeral

def digitChar (d : Fin 10) : Char := Char.ofNat (48 + d)

inductive Sign
  | unsigned
  | plus
  | minus
  deriving DecidableEq, Repr, Inhabited

namespace Sign

def text : Sign → List Char
  | unsigned => []
  | plus => ['+']
  | minus => ['-']

def factor : Sign → ℤ
  | unsigned => 1
  | plus => 1
  | minus => -1

end Sign

structure Exponent where
  capital : Bool
  sign : Sign
  digits : List (Fin 10)
  digits_ne : digits ≠ []
  deriving DecidableEq, Repr

structure Decimal where
  sign : Sign
  whole : List (Fin 10)
  part : Option (List (Fin 10))
  exponent : Option Exponent
  digits_ne : whole ++ part.getD [] ≠ []
  deriving DecidableEq, Repr

namespace Decimal

def pointText : Option (List (Fin 10)) → List Char
  | none => []
  | some ds => '.' :: ds.map digitChar

def exponentText : Option Exponent → List Char
  | none => []
  | some e => (if e.capital then 'E' else 'e') :: (e.sign.text ++ e.digits.map digitChar)

def unsignedText (d : Decimal) : List Char :=
  d.whole.map digitChar ++ (pointText d.part ++ exponentText d.exponent)

def text (d : Decimal) : List Char := d.sign.text ++ d.unsignedText

def exponentValue : Option Exponent → ℤ
  | none => 0
  | some e => e.sign.factor * ofDigits 10 (e.digits.map Fin.val)

def value (d : Decimal) : ℚ :=
  d.sign.factor * ((ofDigits 10 (d.whole.map Fin.val ++ (d.part.getD []).map Fin.val) : ℚ) /
    10 ^ (d.part.getD []).length * 10 ^ exponentValue d.exponent)

end Decimal

def NoDigit (cs : List Char) : Prop := ∀ c ∈ cs.head?, (digitValue c).filter (· < 10) = none

def Ends (cs : List Char) : Prop := ∀ c ∈ cs.head?, isSpace c = true

theorem digitValue_digitChar (d : Fin 10) :
    (digitValue (digitChar d)).filter (· < 10) = some d.val := by
  revert d
  decide

theorem digits_append {ds : List (Fin 10)} {cs : List Char} (h : NoDigit cs) :
    digits 10 (ds.map digitChar ++ cs) = (ds.map Fin.val, cs) := by
  induction ds with
  | nil =>
    cases cs with
    | nil => rfl
    | cons c cs =>
      have hc := h c rfl
      simp only [List.map_nil, List.nil_append, digits, hc]
  | cons d ds ih =>
    simp only [List.map_cons, List.cons_append, digits, digitValue_digitChar, ih]

theorem isSpace_iff {c : Char} :
    isSpace c = true ↔
      c = ' ' ∨ c = '\t' ∨ c = '\n' ∨ c = '\x0b' ∨ c = '\x0c' ∨ c = '\r' := by
  simp [isSpace]

theorem noDigit_of_space {c : Char} (h : isSpace c = true) :
    (digitValue c).filter (· < 10) = none := by
  rcases isSpace_iff.mp h with rfl | rfl | rfl | rfl | rfl | rfl <;> rfl

theorem notMem_of_space {c : Char} (h : isSpace c = true) :
    c ∉ ['-', '+', '.', 'x', 'X', 'e', 'E'] := by
  rcases isSpace_iff.mp h with rfl | rfl | rfl | rfl | rfl | rfl <;> decide

theorem Ends.noDigit {cs : List Char} (h : Ends cs) : NoDigit cs :=
  fun c hc => noDigit_of_space (h c hc)

theorem digitChar_notMem (d : Fin 10) :
    digitChar d ∉ ['-', '+', '.', 'x', 'X', ' ', '\t', '\n', '\x0b', '\x0c', '\r'] := by
  revert d
  decide

theorem head?_digits {ds : List (Fin 10)} (h : ds ≠ []) (cs : List Char) :
    ∃ d, (ds.map digitChar ++ cs).head? = some (digitChar d) := by
  cases ds with
  | nil => exact absurd rfl h
  | cons d ds => exact ⟨d, rfl⟩

theorem sign_text (s : Sign) {cs : List Char} (h : ∀ c ∈ cs.head?, c ≠ '-' ∧ c ≠ '+') :
    sign (s.text ++ cs) = (s.factor, cs) := by
  cases s with
  | plus => rfl
  | minus => rfl
  | unsigned =>
    change sign cs = (1, cs)
    unfold sign
    split
    · exact absurd rfl (h '-' rfl).1
    · exact absurd rfl (h '+' rfl).2
    · rfl

namespace Decimal
variable {cs : List Char}

theorem exponentText_head (e : Option Exponent) (h : Ends cs) :
    ∀ c ∈ (exponentText e ++ cs).head?, c = 'e' ∨ c = 'E' ∨ isSpace c = true := by
  intro c hc
  cases e with
  | none => exact Or.inr (Or.inr (h c hc))
  | some e =>
    have hmark : (if e.capital then 'E' else 'e') = c := Option.some.inj hc
    rw [← hmark]
    split_ifs
    · exact Or.inr (Or.inl rfl)
    · exact Or.inl rfl

theorem exponentText_noDigit (e : Option Exponent) (h : Ends cs) :
    NoDigit (exponentText e ++ cs) := by
  intro c hc
  rcases exponentText_head e h c hc with rfl | rfl | hspace
  · rfl
  · rfl
  · exact noDigit_of_space hspace

theorem exponent_text (e : Option Exponent) (h : Ends cs) :
    Numeral.exponent ['e', 'E'] (exponentText e ++ cs) = exponentValue e := by
  cases e with
  | none =>
    cases cs with
    | nil => rfl
    | cons c cs =>
      have hmark : c ∉ ['e', 'E'] := by
        have hspace := notMem_of_space (h c rfl)
        simp only [List.mem_cons, not_or] at hspace
        simp only [List.mem_cons, not_or]
        exact hspace.2.2.2.2.2
      exact if_neg hmark
  | some e =>
    have hsign : ∀ c ∈ (e.digits.map digitChar ++ cs).head?, c ≠ '-' ∧ c ≠ '+' := by
      obtain ⟨d, hd⟩ := head?_digits e.digits_ne cs
      intro c hc
      rw [hd] at hc
      cases hc
      have hnot := digitChar_notMem d
      simp only [List.mem_cons, not_or] at hnot
      exact ⟨hnot.1, hnot.2.1⟩
    have hmark : (if e.capital then 'E' else 'e') ∈ ['e', 'E'] := by split_ifs <;> decide
    simp only [exponentText, exponentValue, List.cons_append, List.append_assoc,
      Numeral.exponent, if_pos hmark, sign_text e.sign hsign, digits_append h.noDigit]

theorem fraction_text (part : Option (List (Fin 10))) (hdigit : NoDigit cs)
    (hpoint : ∀ c ∈ cs.head?, c ≠ '.') :
    fraction 10 (pointText part ++ cs) = ((part.getD []).map Fin.val, cs) := by
  cases part with
  | some ds => exact digits_append hdigit
  | none =>
    change fraction 10 cs = ([], cs)
    unfold fraction
    split
    · exact absurd rfl (hpoint '.' rfl)
    · rfl

theorem pointText_noDigit (part : Option (List (Fin 10))) (h : NoDigit cs) :
    NoDigit (pointText part ++ cs) := by
  cases part with
  | none => exact h
  | some ds =>
    intro c hc
    cases hc
    rfl

theorem decimal_text (d : Decimal) (h : Ends cs) :
    decimal (d.unsignedText ++ cs) =
      some ((ofDigits 10 (d.whole.map Fin.val ++ (d.part.getD []).map Fin.val) : ℚ) /
        10 ^ (d.part.getD []).length * 10 ^ exponentValue d.exponent) := by
  have hexponent := exponentText_noDigit d.exponent h
  have hpoint : ∀ c ∈ (exponentText d.exponent ++ cs).head?, c ≠ '.' := by
    intro c hc
    rcases exponentText_head d.exponent h c hc with rfl | rfl | hspace
    · decide
    · decide
    · rintro rfl
      exact absurd hspace (by decide)
  have hdigits : ¬ (d.whole.map Fin.val = [] ∧ (d.part.getD []).map Fin.val = []) := by
    intro hnil
    apply d.digits_ne
    rw [List.map_eq_nil_iff.mp hnil.1, List.map_eq_nil_iff.mp hnil.2, List.append_nil]
  simp only [decimal, mantissa, unsignedText, List.append_assoc,
    digits_append (pointText_noDigit d.part hexponent), fraction_text d.part hexponent hpoint,
    if_neg hdigits, Option.map_some, exponent_text d.exponent h, List.length_map, Nat.cast_ofNat]

theorem mem_text {d : Decimal} {c : Char} (h : c ∈ d.text) :
    (∃ k, c = digitChar k) ∨ c ∈ ['-', '+', '.', 'e', 'E'] := by
  have hsign {s : Sign} (hc : c ∈ s.text) : c ∈ ['-', '+', '.', 'e', 'E'] := by
    cases s with
    | unsigned => cases hc
    | plus => rw [List.mem_singleton.mp hc]; decide
    | minus => rw [List.mem_singleton.mp hc]; decide
  have hdigit {ds : List (Fin 10)} (hc : c ∈ ds.map digitChar) : ∃ k, c = digitChar k := by
    obtain ⟨k, -, rfl⟩ := List.mem_map.mp hc
    exact ⟨k, rfl⟩
  rw [text, unsignedText, List.mem_append, List.mem_append, List.mem_append] at h
  rcases h with h | h | h | h
  · exact Or.inr (hsign h)
  · exact Or.inl (hdigit h)
  · cases hpart : d.part with
    | none =>
      rw [hpart] at h
      cases h
    | some ds =>
      rw [hpart, pointText, List.mem_cons] at h
      rcases h with rfl | h
      · exact Or.inr (by decide)
      · exact Or.inl (hdigit h)
  · cases hexponent : d.exponent with
    | none =>
      rw [hexponent] at h
      cases h
    | some e =>
      rw [hexponent, exponentText, List.mem_cons, List.mem_append] at h
      rcases h with rfl | h | h
      · exact Or.inr (by split_ifs <;> decide)
      · exact Or.inr (hsign h)
      · exact Or.inl (hdigit h)

theorem notMem_text (d : Decimal) {c : Char} (h : c ∈ ['x', 'X', '\n', '\r', '\x00']) :
    c ∉ d.text := by
  intro hmem
  simp only [List.mem_cons, List.not_mem_nil, or_false] at h
  rcases mem_text hmem with ⟨k, rfl⟩ | hother
  · clear hmem
    revert k
    decide
  · rcases h with rfl | rfl | rfl | rfl | rfl <;> exact absurd hother (by decide)

theorem unsignedText_head (d : Decimal) (cs : List Char) :
    ∃ c, (d.unsignedText ++ cs).head? = some c ∧ c ≠ '-' ∧ c ≠ '+' ∧ isSpace c = false ∧
      c ∉ ['i', 'I', 'n', 'N'] := by
  obtain ⟨sign, whole, part, exponent, hne⟩ := d
  cases whole with
  | cons k ks =>
    refine ⟨digitChar k, rfl, ?_⟩
    clear hne
    revert k
    decide
  | nil =>
    cases part with
    | none => exact absurd rfl hne
    | some ks => exact ⟨'.', rfl, by decide, by decide, by decide, by decide⟩

theorem text_head (d : Decimal) (cs : List Char) :
    ∃ c, (d.text ++ cs).head? = some c ∧ isSpace c = false := by
  rw [text]
  cases d.sign with
  | plus => exact ⟨'+', rfl, by decide⟩
  | minus => exact ⟨'-', rfl, by decide⟩
  | unsigned =>
    obtain ⟨c, hc, -, -, hspace, -⟩ := d.unsignedText_head cs
    exact ⟨c, hc, hspace⟩

theorem magnitude_eq_decimal {c : Char} {cs : List Char}
    (h : ∀ c ∈ cs.head?, c ≠ 'x' ∧ c ≠ 'X') : magnitude (c :: cs) = decimal (c :: cs) := by
  unfold magnitude
  split
  · rename_i heq
    cases heq
    exact absurd rfl (h 'x' rfl).1
  · rename_i heq
    cases heq
    exact absurd rfl (h 'X' rfl).2
  · rfl

theorem magnitude_text (d : Decimal) {cs : List Char} (h : Ends cs) :
    magnitude (d.unsignedText ++ cs) = decimal (d.unsignedText ++ cs) := by
  cases htext : d.unsignedText with
  | nil =>
    obtain ⟨c, hc, -⟩ := d.unsignedText_head []
    rw [htext] at hc
    cases hc
  | cons c tail =>
    apply magnitude_eq_decimal
    intro x hx
    cases tail with
    | nil =>
      have hspace := notMem_of_space (h x hx)
      simp only [List.mem_cons, not_or] at hspace
      exact ⟨hspace.2.2.2.1, hspace.2.2.2.2.1⟩
    | cons y tail =>
      cases hx
      have hmem : x ∈ d.text := by
        rw [text, htext]
        simp
      constructor
      · rintro rfl
        exact d.notMem_text (by decide) hmem
      · rintro rfl
        exact d.notMem_text (by decide) hmem

theorem sign_dropWhile_text (d : Decimal) (cs : List Char) :
    Numeral.sign ((d.text ++ cs).dropWhile isSpace) = (d.sign.factor, d.unsignedText ++ cs) := by
  have hskip : (d.text ++ cs).dropWhile isSpace = d.text ++ cs := by
    obtain ⟨c, hc, hspace⟩ := d.text_head cs
    obtain ⟨tail, htail⟩ := List.head?_eq_some_iff.mp hc
    rw [htail, List.dropWhile_cons_of_neg (by rw [hspace]; exact Bool.false_ne_true)]
  have hsign : ∀ c ∈ (d.unsignedText ++ cs).head?, c ≠ '-' ∧ c ≠ '+' := by
    obtain ⟨c, hc, hminus, hplus, -⟩ := d.unsignedText_head cs
    intro x hx
    rw [hc] at hx
    cases hx
    exact ⟨hminus, hplus⟩
  rw [hskip, text, List.append_assoc, sign_text d.sign hsign]

theorem numeral_text (d : Decimal) {cs : List Char} (h : Ends cs) :
    numeral (d.text ++ cs) = some d.value := by
  simp only [numeral, sign_dropWhile_text, magnitude_text d h, decimal_text d h, Option.map_some]
  rfl

theorem word_unsignedText (d : Decimal) (cs : List Char) : word (d.unsignedText ++ cs) = none := by
  obtain ⟨c, hc, -, -, -, hletter⟩ := d.unsignedText_head cs
  obtain ⟨tail, htail⟩ := List.head?_eq_some_iff.mp hc
  simp only [List.mem_cons, List.not_mem_nil, or_false, not_or] at hletter
  rw [htail]
  unfold word
  split
  · rename_i heq
    cases heq
    simp [hletter]
  · rfl

theorem strtod_text (f : Format) (d : Decimal) {cs : List Char} (h : Ends cs) :
    strtod f (d.text ++ cs) = (some d.value).filter f.holds := by
  simp only [strtod, sign_dropWhile_text, word_unsignedText, numeral_text d h]

end Decimal

end Numeral
