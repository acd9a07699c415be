import Mathlib
import GpuCluster.Json.Record
import GpuCluster.Proofs.Json.Scan

/-!
# Records that are written read back

An integer that fits its width reads back, a name of a constant reads back as the constant, and an
object whose members are the fields of a record reads back as the record. Different readers of one
object find the same value under the same name.
-/

namespace GpuCluster.Json

open Number

/-! ## Integers -/

variable {n : Nat} {i : Int} {j : Json} {α : Type}

theorem numeral?_ofNat (n : Nat) : (ofNat n).numeral? = some ⟨false, decimal n, none, none⟩ := by
  rw [ofNat, numeral?, Nat.toList_repr, Numeral.ofChars?_toDigits]

theorem int?_ofNat (h : n < Numeral.wordBound) : (ofNat n).int? = some (n : Int) := by
  rw [int?, numeral?_ofNat, Option.bind_some, Numeral.toInt?_decimal h]

/-- A natural number reads back at a width that it fits. -/
theorem natOfWidth?_ofNat {bits : Nat} (hbits : bits ≤ 64) (h : n < Nat.pow 2 bits) :
    (ofNat n).natOfWidth? bits = some n := by
  have hword : n < Numeral.wordBound :=
    Nat.lt_of_lt_of_le h (Nat.pow_le_pow_right (by decide) hbits)
  have hbetween : (0 : Int) ≤ n ∧ (n : Int) ≤ (Nat.pow 2 bits - 1 : Nat) :=
    ⟨Int.natCast_nonneg n, Int.ofNat_le.mpr (Nat.le_sub_one_of_lt h)⟩
  rw [natOfWidth?, intBetween?, int?_ofNat hword]
  simp only [Option.bind_eq_bind, Option.bind_some, if_pos hbetween, Option.map_some, Int.toNat_natCast]

theorem numeral?_ofInt_neg (n : Nat) :
    (ofInt (-(n + 1 : Nat))).numeral? = some ⟨true, decimal (n + 1), none, none⟩ := by
  have htext : toString (-(n + 1 : Nat) : Int) = "-" ++ (n + 1).repr := rfl
  rw [ofInt, numeral?, htext, String.toList_append, Nat.toList_repr]
  exact Numeral.ofChars?_minus (n + 1)

theorem int?_ofInt (hlow : -(Numeral.signedBound : Int) ≤ i) (hhigh : i < Numeral.signedBound) :
    (ofInt i).int? = some i := by
  obtain ⟨n, rfl | rfl⟩ := i.eq_nat_or_neg
  · exact int?_ofNat ((Int.ofNat_lt.mp hhigh).trans (by decide))
  · cases n with
    | zero => exact int?_ofNat (n := 0) (by decide)
    | succ n =>
      have hbound : n + 1 ≤ Numeral.signedBound := by omega
      rw [int?, numeral?_ofInt_neg, Option.bind_some,
        Numeral.toInt?_minus_decimal (Nat.succ_ne_zero n) hbound]

/-- An integer of sixty-four bits reads back. -/
theorem int64?_ofInt (hlow : -(Numeral.signedBound : Int) ≤ i) (hhigh : i < Numeral.signedBound) :
    (ofInt i).int64? = some i := by
  have hpositive : 0 < Numeral.signedBound := by decide
  have hbetween : -(Numeral.signedBound : Int) ≤ i ∧ i ≤ (Numeral.signedBound - 1 : Nat) := by
    omega
  rw [int64?, intBetween?, int?_ofInt hlow hhigh]
  simp only [Option.bind_eq_bind, Option.bind_some, if_pos hbetween]

theorem le_of_intBetween? {low high : Int} (h : j.intBetween? low high = some i) :
    low ≤ i ∧ i ≤ high := by
  rw [intBetween?, Option.bind_eq_bind, Option.bind_eq_some_iff] at h
  obtain ⟨i', -, h⟩ := h
  split at h
  · rename_i hbetween
    exact Option.some.inj h ▸ hbetween
  · cases h

theorem lt_of_natOfWidth? {bits : Nat} (h : j.natOfWidth? bits = some n) : n < Nat.pow 2 bits := by
  obtain ⟨i, hi, rfl⟩ := Option.map_eq_some_iff.mp h
  have hbetween := le_of_intBetween? hi
  have hpositive : 0 < Nat.pow 2 bits := Nat.pow_pos (by decide)
  omega

theorem between_of_int64? (h : j.int64? = some i) :
    -(Numeral.signedBound : Int) ≤ i ∧ i < Numeral.signedBound := by
  have hbetween := le_of_intBetween? h
  have hpositive : 0 < Numeral.signedBound := by decide
  omega

theorem isWritten_of_numeral? (h : j.numeral?.isSome = true) : j.IsWritten := by
  cases j with
  | number spelling => exact isWritten_number h
  | _ => cases h

theorem isWritten_ofNat (n : Nat) : (ofNat n).IsWritten :=
  isWritten_of_numeral? (by rw [numeral?_ofNat]; rfl)

theorem isWritten_ofInt (i : Int) : (ofInt i).IsWritten := by
  obtain ⟨n, rfl | rfl⟩ := i.eq_nat_or_neg
  · exact isWritten_ofNat n
  · cases n with
    | zero => exact isWritten_ofNat 0
    | succ n => exact isWritten_of_numeral? (by rw [numeral?_ofInt_neg]; rfl)

/-- A double that reads back is written as a numeral. -/
theorem isWritten_ofFloat {x : Float} (h : (ofFloat x).float? = some x) : (ofFloat x).IsWritten := by
  refine isWritten_of_numeral? ?_
  obtain ⟨numeral, hnumeral, -⟩ := Option.bind_eq_some_iff.mp h
  rw [hnumeral]
  rfl

/-! ## Lists, options and constants -/

theorem list?_map {item? : Json → Option α} {f : α → Json} (h : ∀ a, item? (f a) = some a)
    (items : List α) : list? item? (.array (items.map f)) = some items := by
  rw [list?]
  induction items with
  | nil => rfl
  | cons a items ih => rw [List.map_cons, List.mapM_cons, h, ih]; rfl

theorem nullable?_ofOption (text : Option String) :
    nullable? text? (ofOption ofText text) = some text := by
  cases text with
  | none => rfl
  | some text =>
    have htext : nullable? text? (ofText text) = (text? (ofText text)).map some := rfl
    rw [ofOption, htext, text?_ofText, Option.map_some]

theorem isWritten_ofOption (text : Option String) : (ofOption ofText text).IsWritten := by
  cases text with
  | none => exact isWritten_null
  | some text => exact isWritten_ofText text

theorem constant?_ofText (name : String) : (ofText name).constant? = some name := by
  have hconstant : (ofText name).constant? = text? (ofText name) := rfl
  rw [hconstant, text?_ofText]

theorem oneOf?_ofText (table : List (String × α)) (name : String) :
    oneOf? table (ofText name) = table.lookup name := by
  rw [oneOf?, constant?_ofText, Option.bind_some]

/-! ## Records -/

/-- A name that is written as it is. -/
def IsPlain (name : String) : Prop := String.ofList (escape name.toList) = name

instance (name : String) : Decidable (IsPlain name) :=
  inferInstanceAs (Decidable (String.ofList (escape name.toList) = name))

theorem IsPlain.text? {name : String} (h : IsPlain name) : Json.text? (.string name) = some name := by
  have hname : ofText name = .string name := congrArg Json.string h
  rw [← hname, text?_ofText]

theorem IsPlain.isWritten {name : String} (h : IsPlain name) : (Token.string name).IsWritten :=
  ⟨name.toList, h.symm⟩

namespace Record

theorem known?_of_plain {names : List String} {members : List (String × Json)}
    (hplain : ∀ m ∈ members, IsPlain m.1) (hnames : ∀ m ∈ members, m.1 ∈ names)
    (hnodup : (members.map Prod.fst).Nodup) : known? names members = some members := by
  induction members with
  | nil => rfl
  | cons member members ih =>
    obtain ⟨key, value⟩ := member
    obtain ⟨hkey, hplain⟩ := List.forall_mem_cons.mp hplain
    obtain ⟨hname, hnames⟩ := List.forall_mem_cons.mp hnames
    rw [List.map_cons, List.nodup_cons] at hnodup
    have hfresh : members.any (fun m => decide (m.1 = key)) = false := by
      rw [List.any_eq_false]
      rintro m hm heq
      exact hnodup.1 (List.mem_map.mpr ⟨m, hm, of_decide_eq_true heq⟩)
    rw [known?, hkey.text?, ih hplain hnames hnodup.2]
    simp only [Option.bind_eq_bind, Option.bind_some, if_pos hname, hfresh, Bool.false_eq_true, if_false]

/-- An object with the fields of a record, under plain names, reads back as the record. -/
theorem read?_object {names : List String} {members : List (String × Json)}
    (hnames : members.map Prod.fst = names) (hplain : ∀ name ∈ names, IsPlain name)
    (hnodup : names.Nodup) : read? names (.object members) = some ⟨members, false⟩ := by
  have hmem : ∀ m ∈ members, m.1 ∈ names := fun m hm => hnames ▸ List.mem_map_of_mem hm
  rw [read?, known?_of_plain (fun m hm => hplain m.1 (hmem m hm)) hmem (hnames ▸ hnodup),
    Option.map_some]

theorem isWritten_object {names : List String} {members : List (String × Json)}
    (hnames : members.map Prod.fst = names) (hplain : ∀ name ∈ names, IsPlain name)
    (hvalues : ∀ value ∈ members.map Prod.snd, value.IsWritten) : (Json.object members).IsWritten :=
  Json.isWritten_object fun m hm =>
    ⟨(hplain m.1 (hnames ▸ List.mem_map_of_mem hm)).isWritten, hvalues m.2 (List.mem_map_of_mem hm)⟩

theorem exists_of_known?_cons {names : List String} {key : String} {value : Json}
    {members given : List (String × Json)} (h : known? names ((key, value) :: members) = some given) :
    ∃ name rest, text? (.string key) = some name ∧ known? names members = some rest ∧
      given = if name ∈ names then (name, value) :: rest else rest := by
  rw [known?] at h
  simp only [Option.bind_eq_bind, Option.bind_eq_some_iff] at h
  obtain ⟨name, hname, rest, hrest, hgiven⟩ := h
  refine ⟨name, rest, hname, hrest, ?_⟩
  split at hgiven
  · rename_i hmem
    rw [if_pos hmem]
    split at hgiven
    · cases hgiven
    · exact (Option.some.inj hgiven).symm
  · rename_i hmem
    rw [if_neg hmem]
    exact (Option.some.inj hgiven).symm

/-- Readers of different fields find the same value under a name that both know. -/
theorem lookup_known?_congr {names names' : List String} {members given given' : List (String × Json)}
    (h : known? names members = some given) (h' : known? names' members = some given') {name : String}
    (hname : name ∈ names) (hname' : name ∈ names') : given.lookup name = given'.lookup name := by
  induction members generalizing given given' with
  | nil =>
    cases h
    cases h'
    rfl
  | cons member members ih =>
    obtain ⟨key, value⟩ := member
    obtain ⟨found, rest, hfound, hrest, rfl⟩ := exists_of_known?_cons h
    obtain ⟨found', rest', hfound', hrest', rfl⟩ := exists_of_known?_cons h'
    obtain rfl := Option.some.inj (hfound.symm.trans hfound')
    by_cases heq : name = found
    · subst heq
      rw [if_pos hname, if_pos hname', List.lookup_cons_self, List.lookup_cons_self]
    -- A member of another name is in the way of neither lookup, whether it is known or skipped.
    · have hskip : ∀ (names : List String) (rest : List (String × Json)),
          (if found ∈ names then (found, value) :: rest else rest).lookup name = rest.lookup name := by
        intro names rest
        split
        · rw [List.lookup_cons, beq_false_of_ne heq]
        · rfl
      rw [hskip, hskip, ih hrest hrest']

/-- Members that bear other names are skipped. -/
theorem known?_append_of_skipped {names : List String} {skipped : List (String × Json)}
    (h : ∀ m ∈ skipped, ∃ name, text? (.string m.1) = some name ∧ name ∉ names)
    (members : List (String × Json)) : known? names (skipped ++ members) = known? names members := by
  induction skipped with
  | nil => rfl
  | cons member skipped ih =>
    obtain ⟨⟨name, hname, hmem⟩, hskipped⟩ := List.forall_mem_cons.mp h
    rw [List.cons_append, known?, hname, ih hskipped]
    simp only [Option.bind_eq_bind, Option.bind_some, if_neg hmem, Option.bind_fun_some]

/-- The one member that bears the one name that is asked for. -/
theorem known?_of_single {before after : List (String × Json)} {key name : String} {value : Json}
    (hkey : text? (.string key) = some name)
    (hothers : ∀ m ∈ before ++ after, ∃ other, text? (.string m.1) = some other ∧ other ≠ name) :
    known? [name] (before ++ (key, value) :: after) = some [(name, value)] := by
  have hskipped : ∀ m ∈ before ++ after,
      ∃ other, text? (.string m.1) = some other ∧ other ∉ [name] := fun m hm =>
    (hothers m hm).imp fun _ hother => ⟨hother.1, List.mem_singleton.not.mpr hother.2⟩
  obtain ⟨hbefore, hafter⟩ := List.forall_mem_append.mp hskipped
  have hrest := known?_append_of_skipped hafter []
  rw [List.append_nil] at hrest
  rw [known?_append_of_skipped hbefore, known?, hkey, hrest]
  simp only [Option.bind_eq_bind, Option.bind_some, known?, List.mem_singleton, if_true, List.any_nil,
    Bool.false_eq_true, if_false]

end Record

end GpuCluster.Json
