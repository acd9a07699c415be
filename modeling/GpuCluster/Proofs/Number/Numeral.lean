import Mathlib
import GpuCluster.Number.Numeral

/-!
# Numerals of integers

The decimal digits of an integer make a numeral, which is read as the same integer as long as a machine
word holds it. Whatever is read as a numeral begins with a minus sign or a digit and contains only the
characters of numbers.
-/

namespace GpuCluster.Number

/-- The decimal digits of a number. -/
def decimal (n : Nat) : List Nat :=
  (Nat.toDigits 10 n).map fun c => c.toNat - '0'.toNat

theorem ofDigits_decimal (n : Nat) : ofDigits (decimal n) = n := by
  rw [ofDigits, decimal, List.foldl_map]
  exact Nat.ofDigitChars_ten_toDigits

theorem decimal_of_lt {n : Nat} (h : n < 10) : decimal n = [n] := by
  rw [decimal, Nat.toDigits_of_lt_base h]
  exact congrArg (fun d => [d]) (Nat.toNat_digitChar_sub_48_of_lt_ten h)

theorem decimal_of_le {n : Nat} (h : 10 ≤ n) : decimal n = decimal (n / 10) ++ [n % 10] := by
  have hlast : n % 10 < 10 := Nat.mod_lt n (by decide)
  rw [decimal, Nat.toDigits_of_base_le (by decide) h, List.map_append]
  exact congrArg (fun d => decimal (n / 10) ++ [d]) (Nat.toNat_digitChar_sub_48_of_lt_ten hlast)

/-- The decimal digits of a number other than zero do not begin with a zero. -/
theorem exists_decimal_eq_cons {n : Nat} (h : n ≠ 0) : ∃ d rest, decimal n = d :: rest ∧ d ≠ 0 := by
  induction n using Nat.strongRecOn with
  | ind n ih =>
    by_cases hlt : n < 10
    · exact ⟨n, [], decimal_of_lt hlt, h⟩
    · obtain ⟨d, rest, heq, hd⟩ := ih (n / 10) (by omega) (by omega)
      exact ⟨d, rest ++ [n % 10], by rw [decimal_of_le (by omega), heq, List.cons_append], hd⟩

theorem noLeadingZero_decimal (n : Nat) : Numeral.noLeadingZero (decimal n) = true := by
  by_cases h : n = 0
  · rw [h, decimal_of_lt (by decide)]
    rfl
  · obtain ⟨d, rest, heq, hd⟩ := exists_decimal_eq_cons h
    rw [heq, Numeral.noLeadingZero]
    · exact fun heq' => by cases heq'
    · rintro _ _ ⟨⟩
      exact hd rfl

theorem spanDigits_of_forall_isDigit {text : List Char} (h : ∀ c ∈ text, c.isDigit = true) :
    spanDigits text = (text.map fun c => c.toNat - '0'.toNat, []) := by
  induction text with
  | nil => rfl
  | cons c rest ih =>
    rw [spanDigits, digit?, if_pos (h c List.mem_cons_self),
      ih fun c' hc' => h c' (List.mem_cons_of_mem c hc')]
    rfl

theorem spanDigits_toDigits (n : Nat) : spanDigits (Nat.toDigits 10 n) = (decimal n, []) :=
  spanDigits_of_forall_isDigit fun _ hc => Nat.isDigit_of_mem_toDigits (by decide) (by decide) hc

namespace Numeral

theorem ofChars?_toDigits (n : Nat) :
    ofChars? (Nat.toDigits 10 n) = some ⟨false, decimal n, none, none⟩ := by
  have hsign : ∀ rest, Nat.toDigits 10 n ≠ '-' :: rest := by
    intro rest heq
    have hdigit : ('-').isDigit = true :=
      Nat.isDigit_of_mem_toDigits (b := 10) (n := n) (by decide) (by decide)
        (heq ▸ List.mem_cons_self)
    exact absurd hdigit (by decide)
  rw [ofChars?]
  · simp [spanDigits_toDigits, noLeadingZero_decimal, readFraction, readPower]
  · exact hsign

theorem ofChars?_minus (n : Nat) :
    ofChars? ('-' :: Nat.toDigits 10 n) = some ⟨true, decimal n, none, none⟩ := by
  simp [ofChars?, spanDigits_toDigits, noLeadingZero_decimal, readFraction, readPower]

theorem toInt?_decimal {n : Nat} (h : n < wordBound) :
    toInt? ⟨false, decimal n, none, none⟩ = some (n : Int) := by
  simp [toInt?, isWhole, ofDigits_decimal, h]

theorem toInt?_minus_decimal {n : Nat} (hzero : n ≠ 0) (h : n ≤ signedBound) :
    toInt? ⟨true, decimal n, none, none⟩ = some (-n : Int) := by
  simp [toInt?, isWhole, ofDigits_decimal, hzero, Nat.not_lt_of_le h]

end Numeral

/-! ## The characters of numerals -/

/-- The characters that occur in numerals. -/
def IsNumeralChar (c : Char) : Prop :=
  c.isDigit = true ∨ c ∈ ['-', '+', '.', 'e', 'E']

theorem exists_spanDigits (text : List Char) :
    ∃ front, text = front ++ (spanDigits text).2 ∧ (∀ c ∈ front, c.isDigit = true) ∧
      front.length = (spanDigits text).1.length := by
  induction text with
  | nil => exact ⟨[], rfl, nofun, rfl⟩
  | cons c rest ih =>
    obtain ⟨front, heq, hdigits, hlength⟩ := ih
    rw [spanDigits, digit?]
    split
    · rename_i hsome
      split at hsome
      · rename_i hc
        refine ⟨c :: front, ?_, ?_, ?_⟩
        · rw [List.cons_append, ← heq]
        · exact List.forall_mem_cons.mpr ⟨hc, hdigits⟩
        · rw [List.length_cons, List.length_cons, hlength]
      · cases hsome
    · exact ⟨[], rfl, nofun, rfl⟩

namespace Numeral

/-- Digits that are spelled at the front of a text, in a reader that keeps them. -/
theorem exists_of_spanDigits {α : Type} {text rest : List Char} {keep : List Nat → α} {a : α}
    (h : (match spanDigits text with
      | ([], _) => none
      | (digits, rest) => some (keep digits, rest)) = some (a, rest)) :
    ∃ front, text = front ++ rest ∧ ∀ c ∈ front, IsNumeralChar c := by
  obtain ⟨front, heq, hdigits, -⟩ := exists_spanDigits text
  split at h
  · cases h
  · rename_i hspan
    cases h
    rw [hspan] at heq
    exact ⟨front, heq, fun c hc => Or.inl (hdigits c hc)⟩

theorem exists_of_readFraction {text rest : List Char} {fraction : Option (List Nat)}
    (h : readFraction text = some (fraction, rest)) :
    ∃ front, text = front ++ rest ∧ ∀ c ∈ front, IsNumeralChar c := by
  rw [readFraction.eq_def] at h
  split at h
  · obtain ⟨front, rfl, hfront⟩ := exists_of_spanDigits h
    exact ⟨'.' :: front, rfl, List.forall_mem_cons.mpr ⟨Or.inr (by decide), hfront⟩⟩
  · cases h
    exact ⟨[], rfl, nofun⟩

theorem exists_of_readPower {text rest : List Char} {power : Option (Bool × List Nat)}
    (h : readPower text = some (power, rest)) :
    ∃ front, text = front ++ rest ∧ ∀ c ∈ front, IsNumeralChar c := by
  cases text with
  | nil =>
    cases h
    exact ⟨[], rfl, nofun⟩
  | cons c text =>
    simp only [readPower] at h
    split at h
    · rename_i hletter
      have hc : IsNumeralChar c := by
        rcases hletter with rfl | rfl <;> exact Or.inr (by decide)
      split at h
      · obtain ⟨front, rfl, hfront⟩ := exists_of_spanDigits h
        refine ⟨c :: '+' :: front, rfl, ?_⟩
        simp only [List.forall_mem_cons]
        exact ⟨hc, Or.inr (by decide), hfront⟩
      · obtain ⟨front, rfl, hfront⟩ := exists_of_spanDigits h
        refine ⟨c :: '-' :: front, rfl, ?_⟩
        simp only [List.forall_mem_cons]
        exact ⟨hc, Or.inr (by decide), hfront⟩
      · obtain ⟨front, rfl, hfront⟩ := exists_of_spanDigits h
        exact ⟨c :: front, rfl, List.forall_mem_cons.mpr ⟨hc, hfront⟩⟩
    · cases h
      exact ⟨[], rfl, nofun⟩

/-- A numeral without its sign begins with a digit. -/
theorem exists_of_unsigned {text : List Char} {fraction : Option (List Nat) × List Char}
    {power : Option (Bool × List Nat) × List Char}
    (hwhole : noLeadingZero (spanDigits text).1 = true)
    (hfraction : readFraction (spanDigits text).2 = some fraction)
    (hpower : readPower fraction.2 = some power) (hend : power.2 = []) :
    ∃ d rest, text = d :: rest ∧ d.isDigit = true ∧ ∀ c ∈ rest, IsNumeralChar c := by
  obtain ⟨digits, heq, hdigits, hlength⟩ := exists_spanDigits text
  obtain ⟨places, hplaces, hplacesChar⟩ := exists_of_readFraction hfraction
  obtain ⟨exponent, hexponent, hexponentChar⟩ := exists_of_readPower hpower
  rw [hend, List.append_nil] at hexponent
  cases digits with
  | nil =>
    rw [List.eq_nil_of_length_eq_zero hlength.symm] at hwhole
    cases hwhole
  | cons d digits =>
    obtain ⟨hd, hdigits⟩ := List.forall_mem_cons.mp hdigits
    refine ⟨d, digits ++ (places ++ exponent), ?_, hd, fun c hc => ?_⟩
    · rw [heq, hplaces, hexponent, List.cons_append]
    · rcases List.mem_append.mp hc with hc | hc
      · exact Or.inl (hdigits c hc)
      · exact (List.mem_append.mp hc).elim (hplacesChar c) (hexponentChar c)

/-- What is read as a numeral is a minus sign or a digit, followed by characters of numerals. -/
theorem exists_of_ofChars? {text : List Char} {n : Numeral} (h : ofChars? text = some n) :
    ∃ c rest, text = c :: rest ∧ (c = '-' ∨ c.isDigit = true) ∧ ∀ c' ∈ rest, IsNumeralChar c' := by
  unfold ofChars? at h
  simp only [Option.bind_eq_bind, Option.bind_eq_some_iff, Option.guard_eq_some'] at h
  obtain ⟨-, hwhole, fraction, hfraction, power, hpower, -, hend, -⟩ := h
  have hunsigned := exists_of_unsigned hwhole hfraction hpower hend
  split at hunsigned
  · obtain ⟨d, rest, rfl, hd, hrest⟩ := hunsigned
    exact ⟨'-', d :: rest, rfl, Or.inl rfl, List.forall_mem_cons.mpr ⟨Or.inl hd, hrest⟩⟩
  · obtain ⟨d, rest, rfl, hd, hrest⟩ := hunsigned
    exact ⟨d, rest, rfl, Or.inr hd, hrest⟩

end Numeral

end GpuCluster.Number
