import Mathlib
import GpuCluster.Json.Text

/-!
# Text that is written reads back

A character is written in one of three forms: as itself, with a letter after a reverse solidus, or with
four hexadecimal digits. Each form is well escaped and stands for the character, whatever follows it.
-/

namespace GpuCluster.Json

/-- The three forms in which a character is written. -/
inductive Escaped (c : Char) : List Char → Prop
  | bare (hcontrol : 0x20 ≤ c.toNat) (hsolidus : c ≠ '\\') (hquote : c ≠ '"') : Escaped c [c]
  | letter {l : Char} (hl : simpleEscape? l = some c) (hu : l ≠ 'u') : Escaped c ['\\', l]
  | digits (hcontrol : c.toNat < 0x20) :
      Escaped c ['\\', 'u', '0', '0', hexDigit (c.toNat / 16), hexDigit (c.toNat % 16)]

theorem escaped_escapeChar (c : Char) : Escaped c (escapeChar c) := by
  unfold escapeChar
  split
  case h_8 hquote hsolidus _ _ _ _ _ =>
    split
    · rename_i hcontrol
      exact .digits hcontrol
    · rename_i hcontrol
      exact .bare (Nat.le_of_not_lt hcontrol) hsolidus hquote
  all_goals exact .letter rfl (by decide)

theorem hexValue?_control {n : Nat} (h : n < 0x20) :
    hexValue? ['0', '0', hexDigit (n / 16), hexDigit (n % 16)] = some n := by
  revert n
  decide

namespace Escaped

variable {c : Char} {spelling : List Char}

theorem isWellEscaped_append (h : Escaped c spelling) (rest : List Char) :
    isWellEscaped (spelling ++ rest) = isWellEscaped rest := by
  cases h with
  | bare hcontrol hsolidus =>
    rw [List.singleton_append, isWellEscaped]
    · simp [hcontrol]
    all_goals simp [hsolidus]
  | letter hl hu =>
    rw [List.cons_append, List.singleton_append, isWellEscaped]
    · simp [hl]
    all_goals simp [hu]
  | digits hcontrol =>
    simp only [List.cons_append, List.nil_append, isWellEscaped, hexValue?_control hcontrol,
      Option.isSome_some, Bool.true_and]

theorem unescape?_append (h : Escaped c spelling) (rest : List Char) :
    unescape? (spelling ++ rest) = (unescape? rest).map (c :: ·) := by
  cases h with
  | bare hcontrol hsolidus =>
    rw [List.singleton_append, unescape?]
    · cases unescape? rest <;> rfl
    all_goals simp [hsolidus]
  | letter hl hu =>
    rw [List.cons_append, List.singleton_append, unescape?]
    · rw [hl]
      cases unescape? rest <;> rfl
    all_goals simp [hu]
  | digits hcontrol =>
    have hhigh : isHighSurrogate c.toNat = false := by
      simp only [isHighSurrogate, Bool.and_eq_false_iff, decide_eq_false_iff_not]
      omega
    have hlow : isLowSurrogate c.toNat = false := by
      simp only [isLowSurrogate, Bool.and_eq_false_iff, decide_eq_false_iff_not]
      omega
    simp only [List.cons_append, List.nil_append]
    -- Four digits are read in two ways, according to whether four more follow.
    by_cases hpair : ∃ e f g h rest', rest = '\\' :: 'u' :: e :: f :: g :: h :: rest'
    · obtain ⟨e, f, g, h, rest', rfl⟩ := hpair
      rw [unescape?, hexValue?_control hcontrol]
      simp only [Option.bind_eq_bind, Option.bind_some, hhigh, hlow, Bool.false_eq_true, if_false,
        Char.ofNat_toNat]
      cases unescape? ('\\' :: 'u' :: e :: f :: g :: h :: rest') <;> rfl
    · rw [unescape?, hexValue?_control hcontrol]
      · simp only [Option.bind_eq_bind, Option.bind_some, hhigh, hlow, Bool.false_eq_true,
          not_false_eq_true, and_self, guard_true, Char.ofNat_toNat]
        cases unescape? rest <;> rfl
      · exact fun e f g h rest' heq => hpair ⟨e, f, g, h, rest', heq⟩

end Escaped

theorem isWellEscaped_escape (text : List Char) : isWellEscaped (escape text) = true := by
  induction text with
  | nil => rfl
  | cons c text ih =>
    rw [escape, List.flatMap_cons, (escaped_escapeChar c).isWellEscaped_append]
    exact ih

theorem unescape?_escape (text : List Char) : unescape? (escape text) = some text := by
  induction text with
  | nil => rfl
  | cons c text ih =>
    rw [escape, List.flatMap_cons, (escaped_escapeChar c).unescape?_append, ← escape, ih]
    rfl

/-- A text that is written as a JSON string reads back. -/
theorem text?_ofText (text : String) : text? (ofText text) = some text := by
  rw [ofText, text?, String.toList_ofList, unescape?_escape, Option.map_some, String.ofList_toList]

end GpuCluster.Json
