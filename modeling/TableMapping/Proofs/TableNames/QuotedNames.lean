import Mathlib.Logic.Function.Defs
import TableMapping.TableName

/-!
# Names between backquotes

A name is quoted by writing each backquote in it twice, so that the first one that stands alone ends
it.  A reader that follows this rule comes to the end of a quoted name where the quoting ended it,
unless the text goes on with a backquote that would pair with the last one, and it has then read the
name.  It reads nothing else: whatever it takes for a name is that name, quoted.

## Main definitions

* `quotedChar` : a character of a name between the quotes.

## Main results

* `readQuotedName?_append` : a quoted name in front of any text is read.
* `eq_append_of_readQuotedName?` : and nothing else is.
* `quoteIdentifier_append_inj` : two quoted names in front of any texts differ if the names do.
* `readIdentifier?_eq_some_iff` : what is read as a name.
-/

namespace TableMapping

variable {s name name' rest rest' : List Char}

/-- A character of a name as it stands between the quotes. -/
def quotedChar (c : Char) : List Char := if c = backquote then [backquote, backquote] else [c]

theorem quoteIdentifier_append (name rest : List Char) :
    quoteIdentifier name ++ rest = backquote :: (name.flatMap quotedChar ++ backquote :: rest) := by
  rw [quoteIdentifier, List.cons_append, List.append_assoc]
  rfl

/-! ### Reading what was quoted -/

/-- A backquote that is not followed by another one ends the name. -/
theorem readQuotedName?_close (h : rest.head? ≠ some backquote) :
    readQuotedName? (backquote :: rest) = some ([], rest) := by
  cases rest with
  | nil => rfl
  | cons c rest =>
    have hc : c ≠ '\x60' := fun hc => h (congrArg some hc)
    simp [backquote, readQuotedName?, hc]

/-- One character is read at a time, if it is a backquote from its two. -/
theorem readQuotedName?_quotedChar_append (c : Char) (s : List Char) :
    readQuotedName? (quotedChar c ++ s) =
      (readQuotedName? s).map fun (name, rest) => (c :: name, rest) := by
  by_cases hc : c = backquote
  · rw [quotedChar, if_pos hc, hc]
    rfl
  · have hc' : c ≠ '\x60' := hc
    rw [quotedChar, if_neg hc, List.singleton_append]
    simp [readQuotedName?, hc']

/-- A quoted name is read to its end. -/
theorem readQuotedName?_append (h : rest.head? ≠ some backquote) (name : List Char) :
    readQuotedName? (name.flatMap quotedChar ++ backquote :: rest) = some (name, rest) := by
  induction name with
  | nil => exact readQuotedName?_close h
  | cons c name ih =>
    rw [List.flatMap_cons, List.append_assoc, readQuotedName?_quotedChar_append, ih, Option.map_some]

/-! ### Reading nothing else -/

/-- What has been read is the name with its backquotes doubled, and one that stands alone behind it. -/
theorem eq_append_of_readQuotedName? (h : readQuotedName? s = some (name, rest)) :
    s = name.flatMap quotedChar ++ backquote :: rest ∧ rest.head? ≠ some backquote := by
  fun_induction readQuotedName? s generalizing name with
  | case1 => cases h
  | case2 s ih =>
    obtain ⟨⟨name', _⟩, hread, heq⟩ := Option.map_eq_some_iff.mp h
    cases heq
    obtain ⟨rfl, hrest⟩ := ih hread
    exact ⟨rfl, hrest⟩
  | case3 s hnext =>
    cases h
    refine ⟨rfl, fun hhead => ?_⟩
    obtain ⟨after, rfl⟩ := List.head?_eq_some_iff.mp hhead
    exact hnext after rfl
  | case4 c s hdouble hclose ih =>
    obtain ⟨⟨name', _⟩, hread, heq⟩ := Option.map_eq_some_iff.mp h
    cases heq
    obtain ⟨rfl, hrest⟩ := ih hread
    have hc : c ≠ backquote := hclose
    refine ⟨?_, hrest⟩
    rw [List.flatMap_cons, quotedChar, if_neg hc, List.append_assoc, List.singleton_append]

/-! ### Quoted names -/

theorem readIdentifier?_quoteIdentifier_append (h : rest.head? ≠ some backquote)
    (name : List Char) : readIdentifier? (quoteIdentifier name ++ rest) = some (name, rest) := by
  rw [quoteIdentifier_append]
  exact readQuotedName?_append h name

/-- Whatever follows two quoted names, they and what follows them are the same together only if each
of the two is. -/
theorem quoteIdentifier_append_inj (h : rest.head? ≠ some backquote)
    (h' : rest'.head? ≠ some backquote)
    (heq : quoteIdentifier name ++ rest = quoteIdentifier name' ++ rest') :
    name = name' ∧ rest = rest' := by
  have hread := readIdentifier?_quoteIdentifier_append h name
  rw [heq, readIdentifier?_quoteIdentifier_append h' name'] at hread
  cases hread
  exact ⟨rfl, rfl⟩

/-- **Nothing breaks out of a quoted name.**  A text is read as a name and what follows it if and only
if it is the quoted name with that behind it, and what follows does not begin with a backquote.  So the
reader takes exactly the quoted part and gives exactly the name, whatever backquotes are in it, and
different names are quoted in different ways. -/
theorem readIdentifier?_eq_some_iff :
    (∀ s name rest : List Char, readIdentifier? s = some (name, rest) ↔
      s = quoteIdentifier name ++ rest ∧ rest.head? ≠ some backquote) ∧
    Function.Injective quoteIdentifier := by
  refine ⟨fun s name rest => ⟨fun h => ?_, ?_⟩, fun name name' h => ?_⟩
  · unfold readIdentifier? at h
    split at h
    case h_1 s =>
      obtain ⟨rfl, hrest⟩ := eq_append_of_readQuotedName? h
      rw [quoteIdentifier_append]
      exact ⟨rfl, hrest⟩
    case h_2 => cases h
  · rintro ⟨rfl, hrest⟩
    exact readIdentifier?_quoteIdentifier_append hrest name
  · have hnil : ([] : List Char).head? ≠ some backquote := nofun
    exact (quoteIdentifier_append_inj hnil hnil (congrArg (· ++ []) h)).1

/-- Backquotes at the start, inside and at the end of a name. -/
example : readIdentifier? (quoteIdentifier "`a``b`".toList ++ ".t".toList) =
    some ("`a``b`".toList, ".t".toList) := by decide

end TableMapping
