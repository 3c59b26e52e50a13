import TableMapping.Document.Printer
import TableMapping.Document.Token
import TableMapping.Proofs.Number.Numerals

/-!
# Tokens of printed documents

The text of a document is scanned as the tokens of the document, as long as its numbers are integers.
Each piece of the text begins between tokens and is followed by a comma, a closing bracket or the end
of the text, which is where the scan knows that a numeral is complete.

## Main definitions

* `Document.FloatFree` : all numbers of a document are integers.
* `Document.tokens` : the tokens of a document.
* `Scan.Rests` : a scan that has found some tokens as soon as the next piece begins.
* `ScansAs` : a text that is scanned as some tokens.

## Main results

* `foldl_step_quote` : a quoted text is scanned as one token.
* `scansAs_intText` : so is a written integer.
* `Document.tokens_render` : the text of a document is scanned as its tokens.
-/

namespace TableMapping

/-! ### Documents and their tokens -/

namespace Document

mutual

/-- All numbers of the document are integers. -/
def FloatFree : Document → Prop
  | .number (.float _ _) => False
  | .list items => FloatFreeItems items
  | .object fields => FloatFreeFields fields
  | _ => True

/-- The same of each item. -/
def FloatFreeItems : List Document → Prop
  | [] => True
  | d :: rest => d.FloatFree ∧ FloatFreeItems rest

/-- The same of each field. -/
def FloatFreeFields : List (String × Document) → Prop
  | [] => True
  | (_, d) :: rest => d.FloatFree ∧ FloatFreeFields rest

end

mutual

/-- The tokens of a document, in the order of its text. -/
def tokens : Document → List Token
  | .null => [.null]
  | .bool b => [.bool b]
  | .number n => [.number (some n)]
  | .text s => [.text (some s)]
  | .list items => .openList :: ([Token.comma].intercalate (itemTokens items) ++ [.closeList])
  | .object fields => .openObject :: ([Token.comma].intercalate (fieldTokens fields) ++ [.closeObject])

/-- The tokens of each item of a list. -/
def itemTokens : List Document → List (List Token)
  | [] => []
  | d :: rest => d.tokens :: itemTokens rest

/-- The tokens of each field of an object: those of its name, a colon and those of its document. -/
def fieldTokens : List (String × Document) → List (List Token)
  | [] => []
  | (name, d) :: rest => (.text (some name) :: .colon :: d.tokens) :: fieldTokens rest

end

end Document

/-! ### Texts -/

section

variable (content taken : List Char) (found : List Token)

/-- A text under way in which no escape is open and no surrogate half is alone. -/
def TextScan.holding : TextScan := ⟨content, none, false, .plain⟩

/-- The same inside the digits of an escape. -/
def TextScan.escaping : TextScan := ⟨content, none, false, .digits taken⟩

theorem step_escaping_of_lt {c : Char} (h : Text.utf8Size (c :: taken) < 4) :
    (⟨.text (.escaping content taken), found⟩ : Scan).step c =
      ⟨.text (.escaping content (c :: taken)), found⟩ :=
  if_pos h

theorem step_escaping_of_le {c : Char} {n : Nat} (h : 4 ≤ Text.utf8Size (c :: taken))
    (hn : Quoted.hexValue? (c :: taken).reverse = some n) :
    (⟨.text (.escaping content taken), found⟩ : Scan).step c =
      ⟨.text ((TextScan.escaping content taken).pushUnit n), found⟩ := by
  simp only [Scan.step, Scan.inText, TextScan.escaping, if_neg (Nat.not_lt.mpr h), hn]

theorem hexValue?_hexDigits {n : Nat} (h : n < 32) :
    Quoted.hexValue? ['0', '0', Quoted.hexDigit (n / 16), Quoted.hexDigit (n % 16)] = some n := by
  revert n
  decide

theorem utf8Size_hexDigit {n : Nat} (h : n < 16) : (Quoted.hexDigit n).utf8Size = 1 := by
  revert n
  decide

/-- A unit below the surrogate halves is the character itself. -/
theorem pushUnit_escaping {c : Char} (hc : c.toNat < 32) :
    (TextScan.escaping content taken).pushUnit c.toNat = .holding (c :: content) := by
  have htrails : ¬ (0xdc00 ≤ c.toNat ∧ c.toNat ≤ 0xdfff) := by omega
  have hleads : ¬ (0xd800 ≤ c.toNat ∧ c.toNat ≤ 0xdbff) := by omega
  simp only [TextScan.pushUnit, TextScan.escaping, htrails, hleads, if_false, Char.ofNat_toNat]
  rfl

/-- A control character is read back from its four hexadecimal digits. -/
theorem foldl_step_hexDigits {c : Char} (hc : c.toNat < 32) :
    ['\\', 'u', '0', '0', Quoted.hexDigit (c.toNat / 16), Quoted.hexDigit (c.toNat % 16)].foldl
        Scan.step ⟨.text (.holding content), found⟩ =
      ⟨.text (.holding (c :: content)), found⟩ := by
  have hhigh := utf8Size_hexDigit (n := c.toNat / 16) (by omega)
  have hlow := utf8Size_hexDigit (n := c.toNat % 16) (by omega)
  have hthree : Text.utf8Size [Quoted.hexDigit (c.toNat / 16), '0', '0'] = 3 := by
    rw [Text.utf8Size, hhigh]
    rfl
  have hfour : Text.utf8Size
      [Quoted.hexDigit (c.toNat % 16), Quoted.hexDigit (c.toNat / 16), '0', '0'] = 4 := by
    rw [Text.utf8Size, hlow, hthree]
  change [Quoted.hexDigit (c.toNat / 16), Quoted.hexDigit (c.toNat % 16)].foldl Scan.step
    ⟨.text (.escaping content ['0', '0']), found⟩ = _
  rw [List.foldl_cons, step_escaping_of_lt _ _ _ (by omega), List.foldl_cons,
    step_escaping_of_le _ _ _ (Nat.le_of_eq hfour.symm) (hexValue?_hexDigits hc), pushUnit_escaping _ _ hc,
    List.foldl_nil]

/-- A character is read back from its written form. -/
theorem foldl_step_escape (c : Char) :
    (Quoted.escape c).foldl Scan.step ⟨.text (.holding content), found⟩ =
      ⟨.text (.holding (c :: content)), found⟩ := by
  have hcontrol : ∀ n, c.toNat = n → c = Char.ofNat n := by
    rintro n rfl
    exact c.ofNat_toNat.symm
  unfold Quoted.escape
  simp only [beq_iff_eq]
  split_ifs with hquote hbackslash hplain h8 h9 h10 h12 h13
  · rw [hquote]
    rfl
  · rw [hbackslash]
    rfl
  · have hstep : (⟨.text (.holding content), found⟩ : Scan).step c =
        ⟨.text ((TextScan.holding content).push c), found⟩ := by
      simp only [Scan.step, Scan.inText, TextScan.holding, hquote, hbackslash, if_false,
        Nat.not_lt.mpr hplain]
    exact hstep
  · rw [hcontrol 8 h8]
    rfl
  · rw [hcontrol 9 h9]
    rfl
  · rw [hcontrol 10 h10]
    rfl
  · rw [hcontrol 12 h12]
    rfl
  · rw [hcontrol 13 h13]
    rfl
  · exact foldl_step_hexDigits content found (Nat.not_le.mp hplain)

theorem foldl_step_flatMap_escape (s : List Char) :
    (s.flatMap Quoted.escape).foldl Scan.step ⟨.text (.holding content), found⟩ =
      ⟨.text (.holding (s.reverse ++ content)), found⟩ := by
  induction s generalizing content with
  | nil => rfl
  | cons c cs ih =>
    rw [List.flatMap_cons, List.foldl_append, foldl_step_escape, ih, List.reverse_cons,
      List.append_assoc, List.singleton_append]

/-- A quoted text is scanned as one token. -/
theorem foldl_step_quote (s : String) :
    (Quoted.quote s.toList).foldl Scan.step ⟨.between, found⟩ =
      ⟨.between, .text (some s) :: found⟩ := by
  have hclose : (⟨.text (.holding s.toList.reverse), found⟩ : Scan).step '\x22' =
      ⟨.between, .text (some (String.ofList s.toList.reverse.reverse)) :: found⟩ := rfl
  have hopen : (⟨.between, found⟩ : Scan).step '\x22' = ⟨.text (.holding []), found⟩ := rfl
  rw [Quoted.quote, List.foldl_cons, List.foldl_append, hopen, foldl_step_flatMap_escape,
    List.append_nil, List.foldl_cons, hclose, List.reverse_reverse, String.ofList_toList,
    List.foldl_nil]

end

/-! ### Integers -/

/-- A written natural number other than zero does not begin with a zero. -/
theorem head?_natText_ne {n : Nat} (h : 0 < n) : (natText n).head? ≠ some '0' := by
  induction n using Nat.strongRecOn with
  | _ n ih =>
    by_cases hn : n < 10
    · rw [natText, Nat.toDigits_of_lt_base hn]
      have hdigit : ∀ n < 10, 0 < n → [n.digitChar].head? ≠ some '0' := by decide
      exact hdigit n hn h
    · have hrest := ih (n / 10) (by omega) (by omega)
      rw [natText] at hrest
      rw [natText, Nat.toDigits_of_base_le (by decide) (by omega), List.head?_append_of_ne_nil]
      · exact hrest
      · exact Nat.toDigits_ne_nil

theorem ofDigitChars_cons (c : Char) (cs : List Char) (n : Nat) :
    Nat.ofDigitChars 10 (c :: cs) n = Nat.ofDigitChars 10 cs (n * 10 + (c.toNat - 48)) := by
  rw [Nat.ofDigitChars_cons, Nat.mul_comm]
  rfl

theorem le_ofDigitChars (cs : List Char) (n : Nat) : n ≤ Nat.ofDigitChars 10 cs n := by
  rw [Nat.ofDigitChars_eq_ofDigitChars_zero]
  exact Nat.le_add_right_of_le (Nat.le_mul_of_pos_left n (Nat.pow_pos (by decide)))

theorem WideInt.ofInt?_val (z : WideInt) : ofInt? z.val = some z :=
  dif_pos ⟨z.lower, z.upper⟩

namespace Lexeme

theorem absorb_cons (n : Nat) (c : Char) (cs : List Char) :
    absorb n (c :: cs) =
      if FitsUInt64 ((n * 10 + (c.toNat - 48) : Nat) : Int) then absorb (n * 10 + (c.toNat - 48)) cs
      else (n, c :: cs) :=
  rfl

/-- All digits are absorbed if their number fits 64 bits. -/
theorem absorb_eq {cs : List Char} {n : Nat}
    (h : Nat.ofDigitChars 10 cs n < 18446744073709551616) :
    absorb n cs = (Nat.ofDigitChars 10 cs n, []) := by
  induction cs generalizing n with
  | nil => rfl
  | cons c cs ih =>
    rw [ofDigitChars_cons] at h
    have hle := le_ofDigitChars cs (n * 10 + (c.toNat - 48))
    have hfits : FitsUInt64 ((n * 10 + (c.toNat - 48) : Nat) : Int) := ⟨by omega, by omega⟩
    rw [ofDigitChars_cons, absorb_cons, if_pos hfits, ih h]

/-- A written integer of 64 bits denotes that integer. -/
theorem value?_natText {negative : Bool} {n : Nat} {z : WideInt}
    (hz : z.val = if negative then -(n : Int) else n) (hsign : negative = true → n ≠ 0) :
    (⟨negative, natText n, none, none⟩ : Lexeme).value? = some (.integer z) := by
  have hvalue : Nat.ofDigitChars 10 (natText n) 0 = n := Nat.ofDigitChars_ten_toDigits
  have hbound : n < 18446744073709551616 := by
    have hlower := z.lower
    have hupper := z.upper
    split at hz <;> omega
  have habsorb : absorb 0 (natText n) = (n, []) := by
    rw [absorb_eq (by rwa [hvalue]), hvalue]
  have hzero : (negative && n == 0) = false := by
    cases negative with
    | false => rfl
    | true => simpa using hsign rfl
  simp only [value?, habsorb, ← hz, WideInt.ofInt?_val, hzero, Bool.false_eq_true, if_false]

end Lexeme

/-! ### Where a token ends -/

/-- The characters that stand behind a value in the text of a document. -/
def separators : List Char := [',', ']', '\x7d']

/-- The scan has found some tokens as soon as the text ends or goes on with a separator. -/
structure Scan.Rests (s : Scan) (found : List Token) : Prop where
  finish : s.finish = found
  step : ∀ c ∈ separators, s.step c = (⟨.between, found⟩ : Scan).step c

theorem Scan.rests_between (found : List Token) : Rests ⟨.between, found⟩ found :=
  ⟨rfl, fun _ _ => rfl⟩

/-- A complete numeral has been found if no separator belongs to it. -/
theorem Scan.rests_numeral {n : NumeralScan} (hcomplete : n.complete = true)
    (hnext : ∀ c ∈ separators, n.next? c = none) (found : List Token) :
    Rests ⟨.numeral n, found⟩ (.number n.lexeme.value? :: found) where
  finish := by simp only [finish, hcomplete, if_true]
  step := by
    intro c hc
    have hdigit : c.isDigit = false := by
      have hall : ∀ c ∈ separators, c.isDigit = false := by decide
      exact hall c hc
    simp only [Scan.step, inNumeral, hnext c hc, hcomplete, hdigit, Bool.and_false, Bool.not_false,
      Bool.and_self, if_true]
    rfl

/-- A text that is scanned as some tokens wherever it begins between tokens. -/
def ScansAs (text : List Char) (tokens : List Token) : Prop :=
  ∀ found, (text.foldl Scan.step ⟨.between, found⟩).Rests (tokens.reverse ++ found)

/-- A numeral under way of which only digits have been read, latest first. -/
def NumeralScan.ofDigits (negative : Bool) (digits : List Char) : NumeralScan :=
  ⟨.whole, negative, digits, [], false, []⟩

theorem foldl_step_digits {cs : List Char} (h : ∀ c ∈ cs, c.isDigit = true) (negative : Bool)
    (digits : List Char) (found : List Token) :
    cs.foldl Scan.step ⟨.numeral (.ofDigits negative digits), found⟩ =
      ⟨.numeral (.ofDigits negative (cs.reverse ++ digits)), found⟩ := by
  induction cs generalizing digits with
  | nil => rfl
  | cons c cs ih =>
    have hstep : (⟨.numeral (.ofDigits negative digits), found⟩ : Scan).step c =
        ⟨.numeral (.ofDigits negative (c :: digits)), found⟩ := by
      simp only [Scan.step, Scan.inNumeral, NumeralScan.next?, NumeralScan.ofDigits,
        h c List.mem_cons_self, if_true]
    rw [List.foldl_cons, hstep, ih fun x hx => h x (List.mem_cons_of_mem c hx), List.reverse_cons,
      List.append_assoc, List.singleton_append]

/-- A written natural number is scanned as a numeral, wherever a digit begins one. -/
theorem foldl_step_natText {s : Scan} {negative : Bool} {found : List Token}
    (hs : ∀ c, c.isDigit = true → s.step c = ⟨.numeral (.digit negative c), found⟩) (n : Nat) :
    ∃ m : NumeralScan, (natText n).foldl Scan.step s = ⟨.numeral m, found⟩ ∧ m.complete = true ∧
      m.lexeme = ⟨negative, natText n, none, none⟩ ∧ ∀ c ∈ separators, m.next? c = none := by
  by_cases hn : n = 0
  · subst hn
    refine ⟨.digit negative '0', hs '0' (by decide), rfl, rfl, ?_⟩
    cases negative <;> decide
  · obtain ⟨c, cs, hcons, hc⟩ := natText_eq_cons n
    have hzero : c ≠ '0' := by
      rintro rfl
      exact head?_natText_ne (Nat.pos_of_ne_zero hn) (by rw [hcons, List.head?_cons])
    have hdigit : NumeralScan.digit negative c = .ofDigits negative [c] := by
      rw [NumeralScan.digit, if_neg hzero]
      rfl
    have hcs : ∀ x ∈ cs, x.isDigit = true := fun x hx =>
      isDigit_of_mem_natText (hcons ▸ List.mem_cons_of_mem c hx)
    refine ⟨.ofDigits negative (cs.reverse ++ [c]), ?_, rfl, ?_, fun x hx => ?_⟩
    · rw [hcons, List.foldl_cons, hs c hc, hdigit, foldl_step_digits hcs]
    · simp [NumeralScan.lexeme, NumeralScan.ofDigits, hcons]
    · have hall : ∀ x ∈ separators, x.isDigit = false ∧ x ≠ '.' ∧ ¬ (x = 'e' ∨ x = 'E') := by decide
      obtain ⟨hx, hpoint, hmark⟩ := hall x hx
      simp only [NumeralScan.next?, NumeralScan.ofDigits, hx, hpoint, hmark, if_false,
        Bool.false_eq_true]

theorem step_between_digit {c : Char} (hc : c.isDigit = true) (found : List Token) :
    (⟨.between, found⟩ : Scan).step c = ⟨.numeral (.digit false c), found⟩ := by
  have hne : ∀ x : Char, x.isDigit = false → c ≠ x := by
    rintro x hx rfl
    exact Bool.false_ne_true (hx.symm.trans hc)
  have hspace : Scan.isSpace c = false := by
    simp [Scan.isSpace, hne]
  simp [Scan.step, Scan.begin, hspace, hne, hc]

/-- A written integer is scanned as one token. -/
theorem scansAs_intText (z : WideInt) : ScansAs (intText z.val) [.number (some (.integer z))] := by
  intro found
  by_cases hz : z.val < 0
  · have hs : ∀ c, c.isDigit = true → (⟨.numeral .minus, found⟩ : Scan).step c =
        ⟨.numeral (.digit true c), found⟩ := by
      intro c hc
      simp only [Scan.step, Scan.inNumeral, NumeralScan.next?, NumeralScan.minus, hc, if_true]
    obtain ⟨m, hm, hcomplete, hlexeme, hnext⟩ := foldl_step_natText hs z.val.natAbs
    have hvalue : m.lexeme.value? = some (.integer z) := by
      rw [hlexeme]
      exact Lexeme.value?_natText (by rw [if_pos rfl]; omega) fun _ => by omega
    rw [intText, if_pos hz, List.foldl_cons]
    change Scan.Rests ((natText z.val.natAbs).foldl Scan.step ⟨.numeral .minus, found⟩) _
    rw [hm, List.reverse_singleton, List.singleton_append, ← hvalue]
    exact Scan.rests_numeral hcomplete hnext found
  · obtain ⟨m, hm, hcomplete, hlexeme, hnext⟩ :=
      foldl_step_natText (fun c hc => step_between_digit hc found) z.val.natAbs
    have hvalue : m.lexeme.value? = some (.integer z) := by
      rw [hlexeme]
      exact Lexeme.value?_natText (by rw [if_neg Bool.false_ne_true]; omega) fun h => by simp at h
    rw [intText, if_neg hz, hm, List.reverse_singleton, List.singleton_append, ← hvalue]
    exact Scan.rests_numeral hcomplete hnext found

/-! ### Pieces -/

namespace ScansAs

variable {text : List Char} {tokens : List Token}

/-- Behind a separator the scan goes on from the tokens found before it. -/
theorem foldl_append_cons (h : ScansAs text tokens) {c : Char} (hc : c ∈ separators)
    (rest : List Char) (found : List Token) :
    (text ++ c :: rest).foldl Scan.step ⟨.between, found⟩ =
      rest.foldl Scan.step ((⟨.between, tokens.reverse ++ found⟩ : Scan).step c) := by
  rw [List.foldl_append, List.foldl_cons, (h found).step c hc]

/-- Pieces with commas between them are scanned as their tokens with commas between them. -/
theorem joinWith {texts : List (List Char)} {pieces : List (List Token)}
    (h : List.Forall₂ ScansAs texts pieces) :
    ScansAs (Text.joinWith [','] texts) ([Token.comma].intercalate pieces) := by
  induction h with
  | nil => exact Scan.rests_between
  | @cons text tokens texts pieces hhead htail ih =>
    cases htail with
    | nil =>
      rw [List.intercalate_singleton]
      exact hhead
    | @cons next nextTokens texts pieces hnext htail =>
      intro found
      rw [Text.joinWith_cons_cons, List.append_assoc, List.singleton_append,
        hhead.foldl_append_cons (by decide), List.intercalate_cons_cons, List.reverse_append,
        List.reverse_append, List.append_assoc, List.append_assoc]
      exact ih (.comma :: (tokens.reverse ++ found))

/-- A piece between brackets is scanned as its tokens between those of the brackets. -/
theorem enclose (h : ScansAs text tokens) {opening closing : Char} {first last : Token}
    (hopening : ∀ found, (⟨.between, found⟩ : Scan).step opening = ⟨.between, first :: found⟩)
    (hclosing : ∀ found, (⟨.between, found⟩ : Scan).step closing = ⟨.between, last :: found⟩)
    (hmem : closing ∈ separators) :
    ScansAs (opening :: (text ++ [closing])) (first :: (tokens ++ [last])) := by
  intro found
  rw [List.foldl_cons, hopening, h.foldl_append_cons hmem, hclosing, List.foldl_nil,
    List.reverse_cons, List.reverse_append, List.append_assoc, List.append_assoc]
  exact Scan.rests_between _

/-- A field is scanned as its name, a colon and the tokens behind it. -/
theorem field (h : ScansAs text tokens) (name : String) :
    ScansAs (Quoted.quote name.toList ++ ':' :: text) (.text (some name) :: .colon :: tokens) := by
  intro found
  rw [List.foldl_append, foldl_step_quote, List.reverse_cons, List.reverse_cons, List.append_assoc,
    List.append_assoc]
  exact h (.colon :: .text (some name) :: found)

end ScansAs

/-! ### Documents -/

namespace Document

mutual

/-- The text of a document without doubles is scanned as its tokens, wherever it stands. -/
theorem scansAs_render : (d : Document) → d.FloatFree → ScansAs d.render d.tokens
  | .null, _ => fun _ => Scan.rests_between _
  | .bool true, _ => fun _ => Scan.rests_between _
  | .bool false, _ => fun _ => Scan.rests_between _
  | .number (.integer z), _ => scansAs_intText z
  | .number (.float _ _), h => h.elim
  | .text s, _ => by
    intro found
    rw [render, foldl_step_quote]
    exact Scan.rests_between _
  | .list items, h =>
    (ScansAs.joinWith (forall₂_renderItems items h)).enclose (fun _ => rfl) (fun _ => rfl) (by decide)
  | .object fields, h =>
    (ScansAs.joinWith (forall₂_renderFields fields h)).enclose (fun _ => rfl) (fun _ => rfl)
      (by decide)

theorem forall₂_renderItems : (items : List Document) → FloatFreeItems items →
    List.Forall₂ ScansAs (renderItems items) (itemTokens items)
  | [], _ => .nil
  | d :: rest, h => .cons (scansAs_render d h.1) (forall₂_renderItems rest h.2)

theorem forall₂_renderFields : (fields : List (String × Document)) → FloatFreeFields fields →
    List.Forall₂ ScansAs (renderFields fields) (fieldTokens fields)
  | [], _ => .nil
  | (name, d) :: rest, h => .cons ((scansAs_render d h.1).field name) (forall₂_renderFields rest h.2)

end

/-- **The text of a document is scanned as its tokens**, if all its numbers are integers. -/
theorem tokens_render {d : Document} (h : d.FloatFree) : TableMapping.tokens d.render = d.tokens := by
  rw [TableMapping.tokens, Scan.start, (scansAs_render d h []).finish, List.append_nil,
    List.reverse_reverse]

end Document

end TableMapping
