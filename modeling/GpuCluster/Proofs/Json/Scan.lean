import Mathlib
import GpuCluster.Json.Scan
import GpuCluster.Proofs.Json.Text
import GpuCluster.Proofs.Number.Numeral

/-!
# Values that are written read back

A token is scanned back from its text, if nothing follows that a number or a word could go on with. In
the text of a value the marks between the tokens see to that. So a value is parsed back from its compact
text, as long as its strings are escaped texts and its numbers are numerals.
-/

namespace GpuCluster.Json

open Number

/-- A token as it is written: a string is an escaped text, and a number is a numeral. -/
def Token.IsWritten : Token → Prop
  | .number s => (Numeral.ofChars? s.toList).isSome = true
  | .string s => ∃ text, s = String.ofList (escape text)
  | _ => True

/-- The characters of tokens, with nothing between them. -/
def spell (tokens : List Token) : List Char := tokens.flatMap fun t => t.text.toList

theorem spell_cons (t : Token) (tokens : List Token) :
    spell (t :: tokens) = t.text.toList ++ spell tokens :=
  List.flatMap_cons

theorem spell_append (tokens tokens' : List Token) :
    spell (tokens ++ tokens') = spell tokens ++ spell tokens' :=
  List.flatMap_append

/-- No number and no word goes on into the text. -/
def Delimited (rest : List Char) : Prop :=
  ∀ c ∈ rest.head?, inNumber c = false ∧ c.isLower = false

variable {c : Char} {rest collected : List Char} {scanning scanning' : Scanning}

theorem scan_cons_of_eq (h : scanChar c scanning = some ([], scanning')) (rest : List Char) :
    scan (c :: rest) scanning = scan rest scanning' := by
  rw [scan, h]
  exact Option.map_id' ..

/-- Characters that are only collected. -/
theorem scan_collect (wrap : List Char → Scanning) {text : List Char}
    (h : ∀ c ∈ text, ∀ collected, scanChar c (wrap collected) = some ([], wrap (c :: collected)))
    (rest collected : List Char) :
    scan (text ++ rest) (wrap collected) = scan rest (wrap (text.reverse ++ collected)) := by
  induction text generalizing collected with
  | nil => rfl
  | cons c text ih =>
    obtain ⟨hc, htext⟩ := List.forall_mem_cons.mp h
    rw [List.cons_append, scan_cons_of_eq (hc collected), ih htext, List.reverse_cons, List.append_assoc]
    rfl

/-! ## Strings -/

theorem scan_bare {text : List Char} (h : ∀ c ∈ text, c ≠ '"' ∧ c ≠ '\\') (rest collected : List Char) :
    scan (text ++ rest) (.string collected) = scan rest (.string (text.reverse ++ collected)) :=
  scan_collect .string
    (fun c hc _ => by rw [scanChar, if_neg (h c hc).1, if_neg (h c hc).2]) rest collected

/-- The character after a reverse solidus is collected, whatever it is. -/
theorem scan_solidus (c : Char) (rest collected : List Char) :
    scan ('\\' :: c :: rest) (.string collected) = scan rest (.string (c :: '\\' :: collected)) := by
  rw [scan_cons_of_eq (show _ = some ([], .escape collected) from rfl),
    scan_cons_of_eq (show _ = some ([], .string (c :: '\\' :: collected)) from rfl)]

theorem hexDigit_ne {n : Nat} (h : n < 16) : hexDigit n ≠ '"' ∧ hexDigit n ≠ '\\' := by
  revert n
  decide

theorem Escaped.scan_append {spelling : List Char} (h : Escaped c spelling)
    (rest collected : List Char) :
    scan (spelling ++ rest) (.string collected) =
      scan rest (.string (spelling.reverse ++ collected)) := by
  cases h with
  | bare _ hsolidus hquote =>
    exact scan_bare (List.forall_mem_singleton.mpr ⟨hquote, hsolidus⟩) rest collected
  | letter => exact scan_solidus _ rest collected
  | digits hcontrol =>
    have hdigits : ∀ d ∈ ['0', '0', hexDigit (c.toNat / 16), hexDigit (c.toNat % 16)],
        d ≠ '"' ∧ d ≠ '\\' := by
      simp only [List.forall_mem_cons]
      exact ⟨by decide, by decide, hexDigit_ne (by omega), hexDigit_ne (by omega), nofun⟩
    exact (scan_solidus 'u' _ collected).trans (scan_bare hdigits rest _)

theorem scan_escape (text rest collected : List Char) :
    scan (escape text ++ rest) (.string collected) =
      scan rest (.string ((escape text).reverse ++ collected)) := by
  induction text generalizing collected with
  | nil => rfl
  | cons c text ih =>
    rw [escape, List.flatMap_cons, List.append_assoc, (escaped_escapeChar c).scan_append, ← escape, ih,
      List.reverse_append, List.append_assoc]

theorem scan_quoted (text rest : List Char) :
    scan ('"' :: (escape text ++ '"' :: rest)) .nothing =
      (scan rest .nothing).map (.string (String.ofList (escape text)) :: ·) := by
  have hclose : scanChar '"' (.string ((escape text).reverse ++ [])) =
      some ([.string (String.ofList (escape text))], .nothing) := by
    rw [scanChar, if_pos rfl, List.append_nil, List.reverse_reverse,
      if_pos (isWellEscaped_escape text)]
  rw [scan_cons_of_eq (show _ = some ([], .string []) from rfl), scan_escape, scan, hclose]
  rfl

/-! ## Numbers and words -/

theorem scan_numeral {text : List Char} (h : ∀ c ∈ text, IsNumeralChar c) (rest collected : List Char) :
    scan (text ++ rest) (.number collected) = scan rest (.number (text.reverse ++ collected)) := by
  refine scan_collect .number (fun c hc _ => ?_) rest collected
  have hin : inNumber c = true := by
    simpa [IsNumeralChar, inNumber, or_assoc] using h c hc
  rw [scanChar, if_pos hin]

theorem scan_word {text : List Char} (h : ∀ c ∈ text, c.isLower = true) (rest collected : List Char) :
    scan (text ++ rest) (.word collected) = scan rest (.word (text.reverse ++ collected)) :=
  scan_collect .word (fun c hc _ => by rw [scanChar, if_pos (h c hc)]) rest collected

/-- What is collected is finished where a delimited text begins. -/
theorem scan_of_delimited (hrest : Delimited rest) {tokens : List Token}
    (hscanning : scanning = .number collected ∨ scanning = .word collected)
    (hfinish : finishToken? scanning = some tokens) :
    scan rest scanning = (scan rest .nothing).map (tokens ++ ·) := by
  cases rest with
  | nil =>
    rw [scan, hfinish]
    exact congrArg some (List.append_nil tokens).symm
  | cons c rest =>
    obtain ⟨hnumber, hlower⟩ := hrest c rfl
    have hstep : scanChar c scanning =
        (beginToken? c).map fun begun => (tokens ++ begun.1, begun.2) := by
      rcases hscanning with rfl | rfl
      · rw [scanChar, if_neg (Bool.eq_false_iff.mp hnumber), hfinish]
        cases beginToken? c <;> rfl
      · rw [scanChar, if_neg (Bool.eq_false_iff.mp hlower), hfinish]
        cases beginToken? c <;> rfl
    rw [scan, hstep, scan, scanChar]
    cases beginToken? c with
    | none => rfl
    | some begun =>
      simp only [Option.map_some, Option.map_map, Function.comp_def, List.append_assoc]

/-! ## Tokens -/

theorem beginToken?_of_number (h : c = '-' ∨ c.isDigit = true) :
    beginToken? c = some ([], .number [c]) := by
  have hspace : isSpace c = false ∧ c ≠ '"' := by
    rcases h with rfl | h
    · decide
    · refine ⟨?_, ?_⟩
      · rw [Bool.eq_false_iff]
        intro hspace
        simp only [isSpace, Bool.or_eq_true, decide_eq_true_eq] at hspace
        rcases hspace with ((rfl | rfl) | rfl) | rfl <;> revert h <;> decide
      · rintro rfl
        revert h
        decide
  rw [beginToken?, if_neg (Bool.eq_false_iff.mp hspace.1), if_neg hspace.2, if_pos (by simpa using h)]

theorem scan_number {spelling : String} (h : (Numeral.ofChars? spelling.toList).isSome = true)
    (hrest : Delimited rest) :
    scan (spelling.toList ++ rest) .nothing =
      (scan rest .nothing).map ([.number spelling] ++ ·) := by
  obtain ⟨n, hn⟩ := Option.isSome_iff_exists.mp h
  obtain ⟨c, text, heq, hc, htext⟩ := Numeral.exists_of_ofChars? hn
  have hfinish : finishToken? (.number (text.reverse ++ [c])) = some [.number spelling] := by
    rw [finishToken?, List.reverse_append, List.reverse_reverse, List.reverse_singleton,
      List.singleton_append, ← heq, hn, Option.map_some, String.ofList_toList]
  have hbegin : scanChar c .nothing = some ([], .number [c]) := beginToken?_of_number hc
  rw [heq, List.cons_append, scan_cons_of_eq hbegin, scan_numeral htext,
    scan_of_delimited hrest (Or.inl rfl) hfinish]

theorem scan_keyword {text : List Char} {t : Token} (hbegin : beginToken? c = some ([], .word [c]))
    (htext : ∀ c ∈ text, c.isLower = true)
    (hfinish : finishToken? (.word (text.reverse ++ [c])) = some [t]) (hrest : Delimited rest) :
    scan (c :: (text ++ rest)) .nothing = (scan rest .nothing).map ([t] ++ ·) := by
  have hbegin' : scanChar c .nothing = some ([], .word [c]) := hbegin
  rw [scan_cons_of_eq hbegin', scan_word htext, scan_of_delimited hrest (Or.inr rfl) hfinish]

/-- A token is scanned back from its text, if the text ends where the token ends. -/
theorem scan_token {t : Token} (ht : t.IsWritten) (hrest : Delimited rest) :
    scan (t.text.toList ++ rest) .nothing = (scan rest .nothing).map ([t] ++ ·) := by
  cases t with
  | null =>
    have htext : Token.null.text.toList = 'n' :: ['u', 'l', 'l'] := by decide
    rw [htext]
    exact @scan_keyword 'n' rest ['u', 'l', 'l'] .null rfl (by simp) rfl hrest
  | bool b =>
    cases b with
    | true =>
      have htext : (Token.bool true).text.toList = 't' :: ['r', 'u', 'e'] := by decide
      rw [htext]
      exact @scan_keyword 't' rest ['r', 'u', 'e'] (.bool true) rfl (by simp) rfl hrest
    | false =>
      have htext : (Token.bool false).text.toList = 'f' :: ['a', 'l', 's', 'e'] := by decide
      rw [htext]
      exact @scan_keyword 'f' rest ['a', 'l', 's', 'e'] (.bool false) rfl (by simp) rfl hrest
  | number s => exact scan_number ht hrest
  | string s =>
    obtain ⟨text, rfl⟩ := ht
    have htext : (Token.string (String.ofList (escape text))).text.toList =
        '"' :: (escape text ++ ['"']) := by
      simp [Token.text]
    rw [htext, List.cons_append, List.append_assoc]
    exact scan_quoted text rest
  | _ => rfl

/-- The tokens are scanned back from their text in front of another text. -/
def Scans (tokens : List Token) (rest : List Char) : Prop :=
  scan (spell tokens ++ rest) .nothing = (scan rest .nothing).map (tokens ++ ·)

theorem Scans.append {tokens tokens' : List Token} (h : Scans tokens (spell tokens' ++ rest))
    (h' : Scans tokens' rest) : Scans (tokens ++ tokens') rest := by
  rw [Scans, spell_append, List.append_assoc, h, h', Option.map_map]
  simp only [Function.comp_def, List.append_assoc]

theorem Scans.token {t : Token} (ht : t.IsWritten) (hrest : Delimited rest) : Scans [t] rest := by
  rw [Scans, spell_cons, List.append_assoc]
  exact scan_token ht hrest

/-- The tokens that stand between others. -/
def Token.isMark : Token → Bool
  | .openArray | .closeArray | .openObject | .closeObject | .comma | .colon => true
  | _ => false

/-- A mark is scanned back, whatever follows it. -/
theorem Scans.mark {t : Token} (ht : t.isMark = true) (rest : List Char) : Scans [t] rest := by
  cases t with
  | openArray | closeArray | openObject | closeObject | comma | colon => rfl
  | _ => cases ht

theorem Scans.cons_mark {t : Token} (ht : t.isMark = true) {tokens : List Token}
    (h : Scans tokens rest) : Scans (t :: tokens) rest :=
  (Scans.mark ht _).append h

theorem delimited_mark {t : Token} (ht : t.isMark = true) (tokens : List Token) (rest : List Char) :
    Delimited (spell (t :: tokens) ++ rest) := by
  cases t with
  | openArray | closeArray | openObject | closeObject | comma | colon =>
    rintro c ⟨⟩
    decide
  | _ => cases ht

theorem Scans.cons_key {key : String} (hkey : (Token.string key).IsWritten) {tokens : List Token}
    (h : Scans tokens rest) : Scans (.string key :: .colon :: tokens) rest :=
  (Scans.token hkey (delimited_mark rfl tokens rest)).append (.cons_mark rfl h)

/-! ## Values -/

theorem delimited_itemTokens (items : List Json) (rest : List Char) :
    Delimited (spell (itemTokens items) ++ rest) := by
  cases items with
  | nil => exact delimited_mark rfl _ rest
  | cons item items => exact delimited_mark rfl _ rest

theorem delimited_memberTokens (members : List (String × Json)) (rest : List Char) :
    Delimited (spell (memberTokens members) ++ rest) := by
  cases members with
  | nil => exact delimited_mark rfl _ rest
  | cons member members => exact delimited_mark rfl _ rest

mutual

-- What follows an item or a member is a mark, so it delimits the last token of the value before it.
theorem scans_tokens (j : Json) (h : ∀ t ∈ j.tokens, t.IsWritten) (rest : List Char)
    (hrest : Delimited rest) : Scans j.tokens rest := by
  match j with
  | .null => exact .token trivial hrest
  | .bool b => exact .token trivial hrest
  | .number s => exact .token (h _ (by simp [tokens])) hrest
  | .string s => exact .token (h _ (by simp [tokens])) hrest
  | .array [] => exact .cons_mark rfl (.mark rfl rest)
  | .array (item :: items) =>
    simp only [tokens, List.forall_mem_cons, List.forall_mem_append] at h
    obtain ⟨-, hitem, hitems⟩ := h
    have hfirst := scans_tokens item hitem _ (delimited_itemTokens items rest)
    exact .cons_mark rfl (hfirst.append (scans_itemTokens items hitems rest))
  | .object [] => exact .cons_mark rfl (.mark rfl rest)
  | .object ((key, value) :: members) =>
    simp only [tokens, List.forall_mem_cons, List.forall_mem_append] at h
    obtain ⟨-, hkey, -, hvalue, hmembers⟩ := h
    have hfirst := scans_tokens value hvalue _ (delimited_memberTokens members rest)
    exact .cons_mark rfl (.cons_key hkey (hfirst.append (scans_memberTokens members hmembers rest)))

theorem scans_itemTokens (items : List Json) (h : ∀ t ∈ itemTokens items, t.IsWritten)
    (rest : List Char) : Scans (itemTokens items) rest := by
  match items with
  | [] => exact .mark rfl rest
  | item :: items =>
    simp only [itemTokens, List.forall_mem_cons, List.forall_mem_append] at h
    obtain ⟨-, hitem, hitems⟩ := h
    have hfirst := scans_tokens item hitem _ (delimited_itemTokens items rest)
    exact .cons_mark rfl (hfirst.append (scans_itemTokens items hitems rest))

theorem scans_memberTokens (members : List (String × Json))
    (h : ∀ t ∈ memberTokens members, t.IsWritten) (rest : List Char) :
    Scans (memberTokens members) rest := by
  match members with
  | [] => exact .mark rfl rest
  | (key, value) :: members =>
    simp only [memberTokens, List.forall_mem_cons, List.forall_mem_append] at h
    obtain ⟨-, hkey, -, hvalue, hmembers⟩ := h
    have hfirst := scans_tokens value hvalue _ (delimited_memberTokens members rest)
    exact .cons_mark rfl (.cons_key hkey (hfirst.append (scans_memberTokens members hmembers rest)))

end

/-- A value is as it is written when its tokens are. -/
def IsWritten (j : Json) : Prop := ∀ t ∈ j.tokens, t.IsWritten

/-- A value is parsed back from its compact text. -/
theorem parse?_compact {j : Json} (h : j.IsWritten) : parse? j.compact = some j := by
  have hscans := scans_tokens j h [] nofun
  rw [Scans, List.append_nil] at hscans
  have htext : j.compact.toList = spell j.tokens := by
    rw [compact, String.toList_join, List.flatMap_map]
    rfl
  rw [parse?, htext, hscans, scan, finishToken?]
  simp only [Option.map_some, List.append_nil, Option.bind_some, ofTokens?_tokens]

theorem isWritten_of_tokens_eq {j : Json} {t : Token} (htokens : j.tokens = [t]) (ht : t.IsWritten) :
    j.IsWritten := by
  rw [IsWritten, htokens]
  exact List.forall_mem_singleton.mpr ht

theorem isWritten_ofText (text : String) : (ofText text).IsWritten :=
  isWritten_of_tokens_eq rfl ⟨text.toList, rfl⟩

theorem isWritten_null : Json.null.IsWritten :=
  isWritten_of_tokens_eq rfl trivial

theorem isWritten_bool (b : Bool) : (Json.bool b).IsWritten :=
  isWritten_of_tokens_eq rfl trivial

theorem isWritten_number {spelling : String} (h : (Numeral.ofChars? spelling.toList).isSome = true) :
    (Json.number spelling).IsWritten :=
  isWritten_of_tokens_eq rfl h

theorem isWritten_itemTokens {items : List Json} (h : ∀ item ∈ items, item.IsWritten) :
    ∀ t ∈ itemTokens items, t.IsWritten := by
  induction items with
  | nil => simp [itemTokens, Token.IsWritten]
  | cons item items ih =>
    obtain ⟨hitem, hitems⟩ := List.forall_mem_cons.mp h
    simp only [itemTokens, List.forall_mem_cons, List.forall_mem_append]
    exact ⟨trivial, hitem, ih hitems⟩

theorem isWritten_array {items : List Json} (h : ∀ item ∈ items, item.IsWritten) :
    (Json.array items).IsWritten := by
  cases items with
  | nil => simp [IsWritten, tokens, Token.IsWritten]
  | cons item items =>
    obtain ⟨hitem, hitems⟩ := List.forall_mem_cons.mp h
    simp only [IsWritten, tokens, List.forall_mem_cons, List.forall_mem_append]
    exact ⟨trivial, hitem, isWritten_itemTokens hitems⟩

theorem isWritten_memberTokens {members : List (String × Json)}
    (h : ∀ m ∈ members, (Token.string m.1).IsWritten ∧ m.2.IsWritten) :
    ∀ t ∈ memberTokens members, t.IsWritten := by
  induction members with
  | nil => simp [memberTokens, Token.IsWritten]
  | cons member members ih =>
    obtain ⟨⟨hkey, hvalue⟩, hmembers⟩ := List.forall_mem_cons.mp h
    simp only [memberTokens, List.forall_mem_cons, List.forall_mem_append]
    exact ⟨trivial, hkey, trivial, hvalue, ih hmembers⟩

theorem isWritten_object {members : List (String × Json)}
    (h : ∀ m ∈ members, (Token.string m.1).IsWritten ∧ m.2.IsWritten) :
    (Json.object members).IsWritten := by
  cases members with
  | nil => simp [IsWritten, tokens, Token.IsWritten]
  | cons member members =>
    obtain ⟨⟨hkey, hvalue⟩, hmembers⟩ := List.forall_mem_cons.mp h
    simp only [IsWritten, tokens, List.forall_mem_cons, List.forall_mem_append]
    exact ⟨trivial, hkey, trivial, hvalue, isWritten_memberTokens hmembers⟩

end GpuCluster.Json
