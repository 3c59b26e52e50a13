import Mathlib.Algebra.Ring.Parity
import Mathlib.Data.List.Basic
import Mathlib.Data.List.TakeWhile
import TableMapping.Introspection.MemberList

/-!
# Member lists read back

A member list is read back exactly, whatever characters the members have: a quote ends a member only
if no second one follows it.  In a reported type the list stands between the name, which has no
opening parenthesis, and the attributes, which have no closing one.

Nothing is read from a type without parentheses, nor from one whose quotes do not pair up, nor from
one with anything but commas and blanks between the members.  A quote that is written twice ends the
member and begins it again as far as pairs go, so a place is outside members if the number of quotes
before it is even.

## Main definitions

* `MemberList.escape` : a member with its quotes written twice.
* `MemberList.Malformed` : a text between parentheses that is not a list of members.
* `MemberList.Unreadable` : a reported type that no members are read from.

## Main results

* `MemberList.read_intercalate` : the members between the parentheses are read back.
* `MemberList.ofType_write` : so are the members of a reported type.
* `MemberList.read_eq_none_iff` : which texts between parentheses are refused.
* `MemberList.ofType_eq_none_iff` : which types are refused.
-/

namespace TableMapping.MemberList

/-- A member with its quotes written twice. -/
def escape (member : List Char) : List Char :=
  member.flatMap fun c => if c = '\x27' then ['\x27', '\x27'] else [c]

theorem quote_eq (member : List Char) :
    quote member = '\x27' :: (escape member ++ ['\x27']) :=
  rfl

theorem escape_cons_quote (member : List Char) :
    escape ('\x27' :: member) = '\x27' :: '\x27' :: escape member := by
  rw [escape, List.flatMap_cons, if_pos rfl]
  rfl

theorem escape_cons_of_ne {c : Char} (hc : c ≠ '\x27') (member : List Char) :
    escape (c :: member) = c :: escape member := by
  rw [escape, List.flatMap_cons, if_neg hc]
  rfl

/-! ### One member -/

theorem readFrom_none_quote (s : List Char) : readFrom none ('\x27' :: s) = readFrom (some []) s := by
  cases s <;> rfl

theorem readFrom_some_of_ne {c : Char} (hc : c ≠ '\x27') (current s : List Char) :
    readFrom (some current) (c :: s) = readFrom (some (c :: current)) s := by
  rw [readFrom.eq_def]
  simp [hc]

theorem readFrom_some_quotes (current s : List Char) :
    readFrom (some current) ('\x27' :: '\x27' :: s) = readFrom (some ('\x27' :: current)) s := by
  rw [readFrom]

/-- A quote that no other one follows ends the member. -/
theorem readFrom_some_end {rest : List Char} (hrest : rest.head? ≠ some '\x27')
    (current : List Char) :
    readFrom (some current) ('\x27' :: rest) = (readFrom none rest).map (current.reverse :: ·) := by
  cases rest with
  | nil => rfl
  | cons c cs =>
    have hc : c ≠ '\x27' := by simpa using hrest
    rw [readFrom.eq_def]
    simp [hc]

/-- A member is read to its end. -/
theorem readFrom_some_escape {rest : List Char} (hrest : rest.head? ≠ some '\x27')
    (current member : List Char) :
    readFrom (some current) (escape member ++ '\x27' :: rest) =
      (readFrom none rest).map ((current.reverse ++ member) :: ·) := by
  induction member generalizing current with
  | nil =>
    rw [List.append_nil]
    exact readFrom_some_end hrest current
  | cons c cs ih =>
    by_cases hc : c = '\x27'
    · subst hc
      rw [escape_cons_quote, List.cons_append, List.cons_append, readFrom_some_quotes, ih,
        List.reverse_cons, List.append_assoc, List.singleton_append]
    · rw [escape_cons_of_ne hc, List.cons_append, readFrom_some_of_ne hc, ih, List.reverse_cons,
        List.append_assoc, List.singleton_append]

/-! ### The list -/

/-- Outside members, separators are passed over. -/
theorem readFrom_none_separator {c : Char} (hc : c = ',' ∨ c = ' ') (s : List Char) :
    readFrom none (c :: s) = readFrom none s := by
  rcases hc with rfl | rfl <;> cases s <;> rfl

/-- The members between the parentheses are read back. -/
theorem read_intercalate (members : List (List Char)) :
    read ([','].intercalate (members.map quote)) = some members := by
  rw [read]
  induction members with
  | nil => rfl
  | cons member members ih =>
    cases members with
    | nil =>
      rw [List.map_singleton, List.intercalate_singleton, quote_eq, readFrom_none_quote,
        readFrom_some_escape (by simp)]
      rfl
    | cons next members =>
      rw [List.map_cons, List.map_cons, List.intercalate_cons_cons, quote_eq, List.cons_append,
        List.cons_append, readFrom_none_quote, List.append_assoc, List.append_assoc,
        List.singleton_append, List.singleton_append, readFrom_some_escape (by simp),
        readFrom_none_separator (.inl rfl), ← List.map_cons, ih]
      rfl

/-! ### Reported types -/

theorem dropWhile_append_of_not_mem {x : Char} {s : List Char} (h : x ∉ s) (t : List Char) :
    (s ++ x :: t).dropWhile (· != x) = x :: t := by
  have hs : ∀ c ∈ s, (c != x) = true := by
    intro c hc
    rw [bne_iff_ne]
    rintro rfl
    exact h hc
  rw [List.dropWhile_append_of_pos hs, List.dropWhile_cons_of_neg (by simp)]

theorem body?_append {name body suffix : List Char} (hname : '(' ∉ name) (hsuffix : ')' ∉ suffix) :
    body? (name ++ '(' :: (body ++ ')' :: suffix)) = some body := by
  have hreverse : (body ++ ')' :: suffix).reverse = suffix.reverse ++ ')' :: body.reverse := by
    simp
  have hsuffix' : ')' ∉ suffix.reverse := by rwa [List.mem_reverse]
  rw [body?, dropWhile_append_of_not_mem hname]
  simp only [hreverse, dropWhile_append_of_not_mem hsuffix', List.reverse_reverse]

/-- The members of a reported type are read back, also if attributes follow them. -/
theorem ofType_write {name suffix : List Char} (hname : '(' ∉ name) (hsuffix : ')' ∉ suffix)
    (members : List (List Char)) : ofType (name ++ (write members ++ suffix)) = some members := by
  rw [write, List.cons_append, List.append_assoc, List.singleton_append, ofType,
    body?_append hname hsuffix, Option.bind_some, read_intercalate]

/-! ### Bodies that are refused -/

/-- A character that is neither a quote nor a separator of members. -/
def IsStray (c : Char) : Prop := c ≠ '\x27' ∧ c ≠ ',' ∧ c ≠ ' '

theorem isStray_iff {c : Char} (hc : c ≠ '\x27') : IsStray c ↔ ¬ (c = ',' ∨ c = ' ') := by
  rw [IsStray, and_iff_right hc, not_or]

/-- Outside members, nothing else is. -/
theorem readFrom_none_stray {c : Char} (hc : IsStray c) (s : List Char) :
    readFrom none (c :: s) = none := by
  obtain ⟨hquote, hcomma, hblank⟩ := hc
  rw [readFrom.eq_def]
  simp [hcomma, hblank]

/-- Behind a number of quotes, the quotes do not pair up, or a stray character stands outside
members. -/
def MalformedAfter (quotes : ℕ) (s : List Char) : Prop :=
  Odd (quotes + s.count '\x27') ∨
    ∃ before c after, s = before ++ c :: after ∧ Even (quotes + before.count '\x27') ∧ IsStray c

/-- The quotes of a text between parentheses do not pair up, or a stray character stands outside
members, where the number of quotes before it is even. -/
def Malformed (body : List Char) : Prop :=
  Odd (body.count '\x27') ∨
    ∃ before c after, body = before ++ c :: after ∧ Even (before.count '\x27') ∧ IsStray c

theorem malformed_iff {body : List Char} : Malformed body ↔ MalformedAfter 0 body := by
  simp only [Malformed, MalformedAfter, Nat.zero_add]

theorem malformedAfter_nil {quotes : ℕ} : MalformedAfter quotes [] ↔ Odd quotes := by
  simp [MalformedAfter]

/-- The first character is stray outside members, or the rest is malformed behind it. -/
theorem malformedAfter_cons {quotes : ℕ} {c : Char} {s : List Char} :
    MalformedAfter quotes (c :: s) ↔
      (Even quotes ∧ IsStray c) ∨ MalformedAfter (quotes + if c = '\x27' then 1 else 0) s := by
  have hcount : ∀ s : List Char, quotes + (c :: s).count '\x27' =
      (quotes + if c = '\x27' then 1 else 0) + s.count '\x27' := by
    intro s
    simp only [List.count_cons, beq_iff_eq]
    omega
  rw [MalformedAfter, MalformedAfter, hcount]
  constructor
  · rintro (hodd | ⟨before, d, after, heq, heven, hstray⟩)
    · exact .inr (.inl hodd)
    · cases before with
      | nil =>
        obtain ⟨rfl, -⟩ := List.cons.inj heq
        exact .inl ⟨heven, hstray⟩
      | cons b before =>
        obtain ⟨rfl, rfl⟩ := List.cons.inj heq
        exact .inr (.inr ⟨before, d, after, rfl, hcount before ▸ heven, hstray⟩)
  · rintro (⟨heven, hstray⟩ | hodd | ⟨before, d, after, rfl, heven, hstray⟩)
    · exact .inr ⟨[], c, s, rfl, heven, hstray⟩
    · exact .inl hodd
    · exact .inr ⟨c :: before, d, after, rfl, hcount before ▸ heven, hstray⟩

theorem malformedAfter_cons_quote {quotes : ℕ} {s : List Char} :
    MalformedAfter quotes ('\x27' :: s) ↔ MalformedAfter (quotes + 1) s := by
  simp [malformedAfter_cons, IsStray]

theorem malformedAfter_cons_of_ne {quotes : ℕ} {c : Char} (hc : c ≠ '\x27') {s : List Char} :
    MalformedAfter quotes (c :: s) ↔ (Even quotes ∧ IsStray c) ∨ MalformedAfter quotes s := by
  rw [malformedAfter_cons, if_neg hc, Nat.add_zero]

/-- Two quotes, a member or a quote in a member, do not matter to what follows. -/
theorem malformedAfter_add_two {quotes : ℕ} {s : List Char} :
    MalformedAfter (quotes + 2) s ↔ MalformedAfter quotes s := by
  simp only [MalformedAfter, Nat.add_right_comm _ 2, Nat.odd_add, Nat.even_add, even_two, iff_true]

/-- A text is refused if and only if it is malformed behind the quote of the member that it begins in,
if it begins in one. -/
theorem readFrom_eq_none_iff (current : Option (List Char)) (s : List Char) :
    readFrom current s = none ↔ MalformedAfter (if current.isSome then 1 else 0) s := by
  -- In a member an odd number of quotes has been passed, and outside members an even one.
  induction current, s using readFrom.induct with
  | case1 current hcurrent =>
    obtain rfl := Option.isNone_iff_eq_none.mp hcurrent
    simp [readFrom, malformedAfter_nil]
  | case2 current hcurrent =>
    obtain ⟨member, rfl⟩ := Option.ne_none_iff_exists'.mp (mt Option.isNone_iff_eq_none.mpr hcurrent)
    simp [readFrom, malformedAfter_nil]
  | case3 cs ih =>
    rw [readFrom_none_quote, ih]
    exact malformedAfter_cons_quote.symm
  | case4 c cs hquote hsep ih =>
    have hstray : ¬ IsStray c := fun h => (isStray_iff hquote).mp h hsep
    rw [readFrom_none_separator hsep, ih, malformedAfter_cons_of_ne hquote]
    simp [hstray]
  | case5 c cs hquote hsep =>
    have hstray : IsStray c := (isStray_iff hquote).mpr hsep
    rw [readFrom_none_stray hstray, malformedAfter_cons_of_ne hquote]
    simp [hstray]
  | case6 member cs ih =>
    rw [readFrom_some_quotes, ih]
    exact (malformedAfter_cons_quote.trans
      (malformedAfter_cons_quote.trans malformedAfter_add_two)).symm
  | case7 member cs hend ih =>
    have hhead : cs.head? ≠ some '\x27' := by
      intro hhead
      obtain ⟨rest, hrest⟩ := List.head?_eq_some_iff.mp hhead
      exact hend rest hrest
    rw [readFrom_some_end hhead, Option.map_eq_none_iff, ih]
    exact (malformedAfter_cons_quote.trans malformedAfter_add_two).symm
  | case8 member c cs _ hquote ih =>
    rw [readFrom_some_of_ne hquote, ih, malformedAfter_cons_of_ne hquote]
    simp

/-- The texts between parentheses that are refused. -/
theorem read_eq_none_iff {body : List Char} : read body = none ↔ Malformed body := by
  rw [read, readFrom_eq_none_iff, malformed_iff]
  rfl

/-! ### Types that are refused -/

/-- A reported type has no parentheses, or what the outermost ones enclose is not a list of
members. -/
inductive Unreadable (columnType : List Char) : Prop
  | unenclosed (h : ∀ before between after, columnType ≠ before ++ '(' :: (between ++ ')' :: after))
  | malformed (name body suffix : List Char) (hname : '(' ∉ name) (hsuffix : ')' ∉ suffix)
      (heq : columnType = name ++ '(' :: (body ++ ')' :: suffix)) (hbody : Malformed body)

theorem eq_of_dropWhile_eq_cons {x c : Char} {s rest : List Char}
    (h : s.dropWhile (· != x) = c :: rest) : c = x := by
  have hhead := List.head?_dropWhile_not (· != x) s
  rw [h] at hhead
  simpa using hhead

/-- A text is split at the first occurrence of a character. -/
theorem eq_append_of_dropWhile_eq_cons {x c : Char} {s rest : List Char}
    (h : s.dropWhile (· != x) = c :: rest) : ∃ front, s = front ++ x :: rest ∧ x ∉ front := by
  have hc : c = x := eq_of_dropWhile_eq_cons h
  refine ⟨s.takeWhile (· != x), ?_, ?_⟩
  · rw [← hc, ← h, hc, List.takeWhile_append_dropWhile]
  · intro hmem
    simpa using List.mem_takeWhile_imp hmem

/-- The outermost parentheses. -/
theorem eq_append_of_body?_eq_some {columnType body : List Char} (h : body? columnType = some body) :
    ∃ name suffix, columnType = name ++ '(' :: (body ++ ')' :: suffix) ∧ '(' ∉ name ∧
      ')' ∉ suffix := by
  rw [body?] at h
  split at h
  case h_1 => exact absurd h (by simp)
  case h_2 c rest hrest =>
    split at h
    case h_1 => exact absurd h (by simp)
    case h_2 d reversed hreversed =>
      obtain ⟨name, hname, hopen⟩ := eq_append_of_dropWhile_eq_cons hrest
      obtain ⟨suffix, hsuffix, hclose⟩ := eq_append_of_dropWhile_eq_cons hreversed
      have hbody : rest = body ++ ')' :: suffix.reverse := by
        rw [← List.reverse_inj, hsuffix, ← Option.some.inj h]
        simp
      exact ⟨name, suffix.reverse, by rw [hname, hbody], hopen, by rwa [List.mem_reverse]⟩

/-- A body is found if a closing parenthesis follows an opening one. -/
theorem body?_append_ne_none (before between after : List Char) :
    body? (before ++ '(' :: (between ++ ')' :: after)) ≠ none := by
  have hmem : ')' ∈ (before ++ '(' :: (between ++ ')' :: after)).dropWhile (· != '(') := by
    rw [List.dropWhile_append, List.dropWhile_cons_of_neg (by simp)]
    split <;> simp
  intro hnone
  rw [body?] at hnone
  split at hnone
  case h_1 hnil =>
    rw [hnil] at hmem
    exact List.not_mem_nil hmem
  case h_2 c rest hrest =>
    rw [hrest, eq_of_dropWhile_eq_cons hrest, List.mem_cons, or_iff_right (by decide),
      ← List.mem_reverse] at hmem
    split at hnone
    case h_1 hnil => exact absurd (List.dropWhile_eq_nil_iff.mp hnil ')' hmem) (by simp)
    case h_2 => exact absurd hnone (by simp)

/-- The reported types that no members are read from. -/
theorem ofType_eq_none_iff {columnType : List Char} :
    ofType columnType = none ↔ Unreadable columnType := by
  rw [ofType, Option.bind_eq_none_iff]
  constructor
  · intro h
    cases hbody : body? columnType with
    | none =>
      refine .unenclosed fun before between after heq => ?_
      exact body?_append_ne_none before between after (heq ▸ hbody)
    | some body =>
      obtain ⟨name, suffix, heq, hname, hsuffix⟩ := eq_append_of_body?_eq_some hbody
      exact .malformed name body suffix hname hsuffix heq (read_eq_none_iff.mp (h body hbody))
  · rintro (h | ⟨name, _, suffix, hname, hsuffix, rfl, hmalformed⟩) body hbody
    · obtain ⟨name, suffix, heq, -⟩ := eq_append_of_body?_eq_some hbody
      exact absurd heq (h name body suffix)
    · rw [body?_append hname hsuffix, Option.some.injEq] at hbody
      exact hbody ▸ read_eq_none_iff.mpr hmalformed

end TableMapping.MemberList
