import TableMapping.Proofs.Wire.RoundTrip

/-!
# Columns with a domain

A member of a domain is stored as its spelling.  A stored text is read as an integer member if it writes
that integer: leniently, with blanks around it, a sign, or zeros in front.  So a text member that writes
an integer member is read as that one, while every other member comes back.  What is read is always a
member of the domain, and two members are kept apart as long as no text writes an integer of the domain.

## Main definitions

* `EnumMember.toValue` : a member as the application holds it.
* `EnumMember.Writes` : a member whose spelling writes an integer.
* `Column.HoldsMembers` : the columns with a domain.

## Main results

* `Column.HoldsMembers.hydrate_persist_cases` : what comes back for a member.
* `Column.hydrate_persist_member_iff` : which members come back, and when members are kept apart.
-/

namespace TableMapping

namespace EnumMember

/-- A member as the application holds it. -/
def toValue : EnumMember → Value
  | int n => .int n
  | text s => .text s

theorem toValue_injective : Function.Injective toValue := by
  intro m m' h
  cases m <;> cases m' <;> cases h <;> rfl

/-- The spelling of a member writes an integer, perhaps not in the way in which the integer is
written. -/
def Writes (m : EnumMember) (n : Int64) : Prop := WritesInt m.spelling.toList n.toInt

variable {m : EnumMember} {n k : Int64}

theorem writes_iff : m.Writes n ↔ (Value.text m.spelling).memberNumber? = some n :=
  readInt64?_trim_eq_some_iff.symm

instance (m : EnumMember) (n : Int64) : Decidable (m.Writes n) := decidable_of_iff' _ writes_iff

theorem Writes.unique (h : m.Writes n) (h' : m.Writes k) : n = k :=
  Option.some.inj ((writes_iff.mp h).symm.trans (writes_iff.mp h'))

/-- An integer member writes itself. -/
theorem writes_int (n : Int64) : (int n).Writes n := by
  rw [writes_iff]
  exact Conversion.memberNumber?_ofChars_intText n

theorem isNull_toValue (m : EnumMember) : m.toValue.isNull = false := by
  cases m <;> rfl

/-- A member is stored as its spelling. -/
theorem toWire_toValue (m : EnumMember) : Conversion.member.toWire m.toValue = .text m.spelling := by
  cases m with
  | int n => rfl
  | text s => exact congrArg Value.text String.ofList_toList

end EnumMember

namespace Column

/-- The column has a type of members of a domain. -/
def HoldsMembers (c : Column) : Prop :=
  c.columnType = .dialect .enum ∨ c.columnType = .dialect .simpleEnum

variable {c : Column} {ms : List EnumMember} {m : EnumMember} {n : Int64}

namespace HoldsMembers

theorem conversion_eq (h : c.HoldsMembers) : c.columnType.conversion = .member := by
  rcases h with h | h <;> rw [h] <;> rfl

/-- A member that writes an integer of the domain is read as that integer. -/
theorem hydrate_persist_of_writes (h : c.HoldsMembers) (ht : c.transformers = [])
    (hms : c.members = some ms) (hn : .int n ∈ ms) (hwrites : m.Writes n) :
    c.hydrate (c.persist m.toValue) = .int n := by
  have hwire : c.persist m.toValue = .text m.spelling := by
    rw [persist_eq_toWire ht m.isNull_toValue, h.conversion_eq]
    exact m.toWire_toValue
  have hread : (Value.text m.spelling).toMember (some ms) = .int n := by
    simp only [Value.toMember, EnumMember.writes_iff.mp hwrites]
    exact if_pos (List.contains_iff_mem.mpr hn)
  rw [hwire, hydrate_eq_fromWire ht rfl, h.conversion_eq, hms]
  exact hread

/-- Any other member comes back. -/
theorem hydrate_persist_of_not_writes (h : c.HoldsMembers) (ht : c.transformers = [])
    (hms : c.members = some ms) (hm : m ∈ ms) (hwrites : ∀ n, .int n ∈ ms → ¬ m.Writes n) :
    c.hydrate (c.persist m.toValue) = m.toValue := by
  refine hydrate_persist_of_carries ht m.isNull_toValue ?_
  rw [h.conversion_eq, hms]
  cases m with
  | int n => exact absurd (EnumMember.writes_int n) (hwrites n hm)
  | text s =>
    refine Conversion.carries_member_text (some ms) fun n _ hn hsome hmem => ?_
    cases hsome
    exact hwrites n hmem (EnumMember.writes_iff.mpr hn)

/-- What comes back is an integer of the domain that the member writes, or else the member. -/
theorem hydrate_persist_cases (h : c.HoldsMembers) (ht : c.transformers = [])
    (hms : c.members = some ms) (hm : m ∈ ms) :
    (∃ n, .int n ∈ ms ∧ m.Writes n ∧ c.hydrate (c.persist m.toValue) = .int n) ∨
      c.hydrate (c.persist m.toValue) = m.toValue := by
  by_cases hwrites : ∃ n, .int n ∈ ms ∧ m.Writes n
  · obtain ⟨n, hn, hw⟩ := hwrites
    exact .inl ⟨n, hn, hw, h.hydrate_persist_of_writes ht hms hn hw⟩
  · exact .inr (h.hydrate_persist_of_not_writes ht hms hm fun n hn hw => hwrites ⟨n, hn, hw⟩)

theorem hydrate_persist_eq_iff (h : c.HoldsMembers) (ht : c.transformers = [])
    (hms : c.members = some ms) (hm : m ∈ ms) :
    c.hydrate (c.persist m.toValue) = m.toValue ↔ ∀ n, .int n ∈ ms → m.Writes n → m = .int n := by
  constructor
  · intro hback n hn hwrites
    rw [h.hydrate_persist_of_writes ht hms hn hwrites] at hback
    exact EnumMember.toValue_injective hback.symm
  · intro hself
    rcases h.hydrate_persist_cases ht hms hm with ⟨n, hn, hwrites, hback⟩ | hback
    · rw [hback, hself n hn hwrites, EnumMember.toValue]
    · exact hback

end HoldsMembers

/-- **Which members come back.**  A member comes back from a column with a domain if and only if it
writes no integer of the domain but itself, as every integer does.  What comes back is always a member.
So the members are kept apart if and only if no text among them writes an integer among them. -/
theorem hydrate_persist_member_iff (htype : c.HoldsMembers) (ht : c.transformers = [])
    (hms : c.members = some ms) :
    (∀ m ∈ ms, c.hydrate (c.persist m.toValue) = m.toValue ↔
      ∀ n, .int n ∈ ms → m.Writes n → m = .int n) ∧
    (∀ m ∈ ms, ∃ m' ∈ ms, c.hydrate (c.persist m.toValue) = m'.toValue) ∧
    ((∀ m ∈ ms, ∀ m' ∈ ms, c.hydrate (c.persist m.toValue) = c.hydrate (c.persist m'.toValue) →
        m = m') ↔
      ∀ s n, .text s ∈ ms → .int n ∈ ms → ¬ (EnumMember.text s).Writes n) := by
  refine ⟨fun m hm => htype.hydrate_persist_eq_iff ht hms hm, fun m hm => ?_, ?_, ?_⟩
  · rcases htype.hydrate_persist_cases ht hms hm with ⟨n, hn, -, hback⟩ | hback
    · exact ⟨.int n, hn, hback⟩
    · exact ⟨m, hm, hback⟩
  · intro hapart s n hs hn hwrites
    have hsame : c.hydrate (c.persist (EnumMember.text s).toValue) =
        c.hydrate (c.persist (EnumMember.int n).toValue) := by
      rw [htype.hydrate_persist_of_writes ht hms hn (m := .text s) hwrites,
        htype.hydrate_persist_of_writes ht hms hn (EnumMember.writes_int n)]
    cases hapart (.text s) hs (.int n) hn hsame
  · intro hfree m hm m' hm' hsame
    have hself : ∀ m ∈ ms, c.hydrate (c.persist m.toValue) = m.toValue := by
      intro m hm
      refine (htype.hydrate_persist_eq_iff ht hms hm).mpr fun n hn hwrites => ?_
      cases m with
      | int k => rw [(EnumMember.writes_int k).unique hwrites]
      | text s => exact absurd hwrites (hfree s n hm hn)
    rw [hself m hm, hself m' hm'] at hsame
    exact EnumMember.toValue_injective hsame

/-- A text that only begins with an integer of the domain comes back, and one that writes it with a sign
does not. -/
theorem hydrate_persist_member_iff_level :
    let c := { Column.new "level" (.dialect .simpleEnum) with
      members := some [.int 1, .text "1st", .text " +01"] }
    c.hydrate (c.persist (.int 1)) = .int 1 ∧ c.hydrate (c.persist (.text "1st")) = .text "1st" ∧
      c.hydrate (c.persist (.text " +01")) ≠ .text " +01" := by
  intro c
  obtain ⟨hback, -, -⟩ := hydrate_persist_member_iff (c := c) (.inr rfl) rfl rfl
  have hone : ∀ n, EnumMember.int n ∈ [.int 1, .text "1st", .text " +01"] → n = 1 := by simp
  refine ⟨(hback (.int 1) (by simp)).mpr ?_, (hback (.text "1st") (by simp)).mpr ?_, fun h => ?_⟩
  · intro n hn _
    rw [hone n hn]
  · intro n hn hwrites
    rw [hone n hn] at hwrites
    exact absurd hwrites (by decide)
  · cases (hback (.text " +01") (by simp)).mp h 1 (by simp) (by decide)

/-- Two members of different spellings that are read as one. -/
theorem hydrate_persist_member_conflated :
    let ms := [EnumMember.int 1, .text "01"]
    let c := { Column.new "level" (.dialect .enum) with members := some ms }
    (ms.map EnumMember.spelling).Nodup ∧ c.hydrate (c.persist (.int 1)) = .int 1 ∧
      c.hydrate (c.persist (.text "01")) = .int 1 := by
  intro ms c
  have htype : c.HoldsMembers := .inl rfl
  have hone : .int 1 ∈ ms := List.mem_cons_self
  exact ⟨by decide, htype.hydrate_persist_of_writes rfl rfl hone (m := .int 1) (by decide),
    htype.hydrate_persist_of_writes rfl rfl hone (m := .text "01") (by decide)⟩

end Column

end TableMapping
