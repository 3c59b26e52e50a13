import Mathlib.Data.List.Perm.Subperm
import TableMapping.Schema.Drift

/-!
# Exactness of drift

Each attribute is compared for itself: whether a declared column differs from a live one in an
attribute depends on nothing of the live column but its value of that attribute.  Hence a live column
that reports what is declared shows no drift, and with one value replaced by another one it shows drift
in that attribute and in no other one, unless the comparison takes the two values for the same.  Domains
are compared if both sides have one, and then as sets as long as the texts of the declared members are
distinct.

## Main definitions

* `Attribute.Carrier`, `LiveColumn.get`, `LiveColumn.set` : the values of the attributes.
* `Column.reported` : the live column that reports what is declared.
* `Column.HasDistinctMembers` : no two members of the domain have the same text.
* `Column.Equates` : the values that count as what is reported.

## Main results

* `Schema.drift_eq_none_iff`, `Schema.drift_eq_some` : drift by the attributes that differ.
* `Schema.drift_set_reported` : drift in a replaced attribute.
-/

namespace TableMapping

/-! ### The first difference -/

theorem Attribute.mem_all (a : Attribute) : a ∈ all := by
  cases a <;> decide

namespace Schema

variable {flavor : Flavor} {agree : Nullability} {e : Entity} {c : Column} {l : LiveColumn}
  {clause : Option (List Char)} {a : Attribute}

/-- There is no drift if and only if no attribute differs. -/
theorem drift_eq_none_iff (h : c.defaultClause flavor = .ok clause) :
    drift flavor agree e c l = .ok none ↔ ∀ a, differs flavor agree e c l clause a = false := by
  rw [drift, h]
  change Except.ok _ = _ ↔ _
  rw [Except.ok.injEq, List.find?_eq_none]
  simp only [Bool.not_eq_true]
  exact ⟨fun hall a => hall a a.mem_all, fun hall a _ => hall a⟩

/-- Only an attribute that differs is named. -/
theorem exists_differs_of_drift (hdrift : drift flavor agree e c l = .ok (some a)) :
    ∃ clause, differs flavor agree e c l clause a = true := by
  rw [drift] at hdrift
  cases hclause : c.defaultClause flavor with
  | error failure =>
    rw [hclause] at hdrift
    cases hdrift
  | ok clause =>
    rw [hclause] at hdrift
    exact ⟨clause, List.find?_some (Except.ok.inj hdrift)⟩

theorem drift_ne_some (h : ∀ clause, differs flavor agree e c l clause a = false) :
    drift flavor agree e c l ≠ .ok (some a) := by
  intro hdrift
  obtain ⟨clause, ha⟩ := exists_differs_of_drift hdrift
  exact Bool.false_ne_true ((h clause).symm.trans ha)

/-- An attribute is named if it is the only one that differs. -/
theorem drift_eq_some (h : c.defaultClause flavor = .ok clause)
    (ha : differs flavor agree e c l clause a = true)
    (hother : ∀ b, b ≠ a → differs flavor agree e c l clause b = false) :
    drift flavor agree e c l = .ok (some a) := by
  rw [drift, h]
  change Except.ok _ = _
  rw [Except.ok.injEq]
  cases hfind : Attribute.all.find? (differs flavor agree e c l clause) with
  | none => exact absurd ha (List.find?_eq_none.mp hfind a a.mem_all)
  | some b =>
    by_cases hb : b = a
    · rw [hb] at hfind
      exact hfind
    · exact absurd ((hother b hb).symm.trans (List.find?_some hfind)) Bool.false_ne_true

end Schema

/-! ### Values of attributes -/

/-- The type of the values that an attribute has in a live column. -/
def Attribute.Carrier : Attribute → Type
  | name | type | length => String
  | width | precision | scale => Option UInt32
  | zerofill | unsigned | primary | nullable | unique | generated => Bool
  | expression | storage | comment | default | onUpdate => Option String
  | members => Option (List String)

namespace LiveColumn

/-- The value of an attribute. -/
def get (l : LiveColumn) : (a : Attribute) → a.Carrier
  | .name => l.name
  | .type => l.columnType
  | .length => l.length
  | .width => l.width
  | .zerofill => l.zerofill
  | .unsigned => l.unsigned
  | .expression => l.expression
  | .storage => l.storage
  | .precision => l.precision
  | .scale => l.scale
  | .comment => l.comment
  | .default => l.default
  | .members => l.members
  | .onUpdate => l.onUpdate
  | .primary => l.isPrimary
  | .nullable => l.isNullable
  | .unique => l.isUnique
  | .generated => l.isGenerated

/-- The live column with another value of an attribute. -/
def set (l : LiveColumn) : (a : Attribute) → a.Carrier → LiveColumn
  | .name, v => { l with name := v }
  | .type, v => { l with columnType := v }
  | .length, v => { l with length := v }
  | .width, v => { l with width := v }
  | .zerofill, v => { l with zerofill := v }
  | .unsigned, v => { l with unsigned := v }
  | .expression, v => { l with expression := v }
  | .storage, v => { l with storage := v }
  | .precision, v => { l with precision := v }
  | .scale, v => { l with scale := v }
  | .comment, v => { l with comment := v }
  | .default, v => { l with default := v }
  | .members, v => { l with members := v }
  | .onUpdate, v => { l with onUpdate := v }
  | .primary, v => { l with isPrimary := v }
  | .nullable, v => { l with isNullable := v }
  | .unique, v => { l with isUnique := v }
  | .generated, v => { l with isGenerated := v }

theorem get_set_of_ne (l : LiveColumn) {a b : Attribute} (h : b ≠ a) (v : a.Carrier) :
    (l.set a v).get b = l.get b := by
  cases a <;> cases b <;> first | rfl | exact absurd rfl h

end LiveColumn

/-- Whether a column differs in an attribute depends on the value of that attribute alone. -/
theorem Schema.differs_congr {flavor : Flavor} {e : Entity} {c : Column} {l l' : LiveColumn}
    {clause : Option (List Char)} {b : Attribute} (h : l'.get b = l.get b) :
    differs flavor .strict e c l' clause b = differs flavor .strict e c l clause b := by
  cases b <;> simp only [LiveColumn.get] at h <;> simp only [differs, Nullability.strict, h]

/-! ### What is declared as a report -/

namespace Column

/-- The texts of the domain. -/
def memberSpellings? (c : Column) : Option (List String) :=
  c.members.map fun ms => ms.map EnumMember.spelling

/-- No two members of the domain have the same text, not even a number and a text. -/
def HasDistinctMembers (c : Column) : Prop :=
  ∀ ms, c.members = some ms → (ms.map EnumMember.spelling).Nodup

/-- The live column that reports what is declared, with `clause` for the default. -/
def reportedWith (flavor : Flavor) (e : Entity) (c : Column) (clause : Option (List Char)) :
    LiveColumn where
  name := c.databaseName
  columnType := c.typeName flavor
  length := c.lengthText
  width := c.displayWidth
  precision := c.precision
  scale := c.scale
  isNullable := c.isNullable
  isPrimary := c.isPrimary
  isUnique := e.isUnique c
  isGenerated := c.isGenerated
  default := clause.map String.ofList
  members := c.memberSpellings?
  comment := c.comment
  onUpdate := c.onUpdate
  zerofill := c.zerofill
  unsigned := c.unsigned
  expression := c.expression
  storage := c.storage

/-- The live column that reports what is declared, unless the default cannot be written. -/
def reported (flavor : Flavor) (e : Entity) (c : Column) : Except TooManyDecimals LiveColumn :=
  (c.defaultClause flavor).map (c.reportedWith flavor e)

theorem exists_clause_of_reported {flavor : Flavor} {e : Entity} {c : Column} {l : LiveColumn}
    (h : c.reported flavor e = .ok l) :
    ∃ clause, c.defaultClause flavor = .ok clause ∧ c.reportedWith flavor e clause = l := by
  rw [reported] at h
  cases hclause : c.defaultClause flavor with
  | error failure =>
    rw [hclause] at h
    cases h
  | ok clause =>
    rw [hclause] at h
    exact ⟨clause, rfl, Except.ok.inj h⟩

/-- A value of an attribute counts as the one that a live column reports: defaults up to quotes,
comments and updates in the form in which they are stored, domains without repetition as sets, and
everything else as it is.  Nothing is asked of a precision, a scale or a domain that is not declared,
of a domain that is not live, and of whether values are generated if the application makes them. -/
def Equates (flavor : Flavor) (c : Column) (l : LiveColumn) : (a : Attribute) → a.Carrier → Prop
  | .precision, v => c.precision = none ∨ v = l.precision
  | .scale, v => c.scale = none ∨ v = l.scale
  | .comment, v => storedComment? v = storedComment? l.comment
  | .default, v =>
    Option.map (fun s : String => stripQuotes s.toList) v =
      l.default.map fun s => stripQuotes s.toList
  | .members, v =>
    ∀ ds vs, c.memberSpellings? = some ds → v = some vs → vs.Nodup ∧ ∀ s, s ∈ vs ↔ s ∈ ds
  | .onUpdate, v => Schema.updateClause? flavor v = Schema.updateClause? flavor l.onUpdate
  | .generated, v => c.strategy = some .uuid ∨ v = l.isGenerated
  | a, v => v = l.get a

end Column

/-! ### Replaced values -/

theorem isSome_and_bne_eq_false_iff (declared live : Option UInt32) :
    (declared.isSome && live != declared) = false ↔ declared = none ∨ live = declared := by
  cases declared <;> simp

theorem isGenerated_bne_eq_false_iff (c : Column) (live : Bool) :
    (c.strategy != some .uuid && live != c.isGenerated) = false ↔
      c.strategy = some .uuid ∨ live = c.isGenerated := by
  rw [Bool.and_eq_false_iff, bne_eq_false_iff_eq, bne_eq_false_iff_eq]

/-- Defaults are the same if they are up to quotes, and if both are absent. -/
theorem not_sameDefault_eq_false_iff (clause : Option (List Char)) (live : Option String) :
    (!sameDefault clause (live.map String.toList)) = false ↔
      live.map (fun s => stripQuotes s.toList) =
        (clause.map String.ofList).map fun s => stripQuotes s.toList := by
  cases clause with
  | none => cases live <;> simp [sameDefault]
  | some d =>
    cases live with
    | none => simp [sameDefault]
    | some k =>
      rw [Bool.not_eq_false', Option.map_some, sameDefault, beq_iff_eq]
      simp only [Option.map_some, Option.some.injEq, String.toList_ofList]
      exact eq_comm

/-- Without repetition among the declared members, domains are the same if they are so as sets and
there is no repetition among the live ones either. -/
theorem Schema.sameMembers_iff {vs : List String} {ds : List EnumMember}
    (hds : (ds.map EnumMember.spelling).Nodup) :
    sameMembers (some vs) (some ds) = true ↔
      vs.Nodup ∧ ∀ s, s ∈ vs ↔ s ∈ ds.map EnumMember.spelling := by
  rw [sameMembers, Bool.and_eq_true, beq_iff_eq, List.all_eq_true]
  simp only [List.contains_iff_mem]
  constructor
  · rintro ⟨hlength, hall⟩
    have hsubset : ds.map EnumMember.spelling ⊆ vs := by
      intro s hs
      obtain ⟨m, hm, rfl⟩ := List.mem_map.mp hs
      exact hall m hm
    have hperm : (ds.map EnumMember.spelling).Perm vs :=
      (hds.subperm hsubset).perm_of_length_le (by rw [List.length_map]; exact Nat.le_of_eq hlength)
    exact ⟨hperm.nodup_iff.mp hds, fun s => hperm.mem_iff.symm⟩
  · rintro ⟨hvs, hmem⟩
    have hperm : vs.Perm (ds.map EnumMember.spelling) := (List.perm_ext_iff_of_nodup hvs hds).mpr hmem
    exact ⟨by rw [hperm.length_eq, List.length_map],
      fun m hm => (hmem _).mpr (List.mem_map_of_mem hm)⟩

theorem Schema.not_sameMembers_eq_false_iff {c : Column} (hmembers : c.HasDistinctMembers)
    (live : Option (List String)) :
    (!sameMembers live c.members) = false ↔ ∀ ds vs, c.memberSpellings? = some ds → live = some vs →
      vs.Nodup ∧ ∀ s, s ∈ vs ↔ s ∈ ds := by
  rw [Bool.not_eq_false', Column.memberSpellings?]
  cases hdeclared : c.members with
  | none => cases live <;> simp [sameMembers]
  | some ds =>
    cases live with
    | none => simp [sameMembers]
    | some vs => simp [sameMembers_iff (hmembers ds hdeclared)]

/-- A domain is the same as the list of its texts, whether they are distinct or not. -/
theorem Schema.sameMembers_memberSpellings? (c : Column) :
    sameMembers c.memberSpellings? c.members = true := by
  rw [Column.memberSpellings?]
  cases c.members with
  | none => rfl
  | some ds =>
    rw [Option.map_some, sameMembers, List.length_map, beq_self_eq_true, Bool.true_and,
      List.all_eq_true]
    exact fun m hm => List.contains_iff_mem.mpr (List.mem_map_of_mem hm)

namespace Schema

variable {flavor : Flavor} {e : Entity} {c : Column} {l : LiveColumn}

/-- The live column that reports what is declared differs in nothing. -/
theorem differs_reportedWith (clause : Option (List Char)) (a : Attribute) :
    differs flavor .strict e c (c.reportedWith flavor e clause) clause a = false := by
  cases a with
  | name | type | length | width | zerofill | unsigned | expression | storage | primary | unique |
      comment | onUpdate => exact bne_self_eq_false _
  | precision => exact (isSome_and_bne_eq_false_iff c.precision _).mpr (.inr rfl)
  | scale => exact (isSome_and_bne_eq_false_iff c.scale _).mpr (.inr rfl)
  | generated => exact (isGenerated_bne_eq_false_iff c _).mpr (.inr rfl)
  | nullable => exact bne_eq_false_iff_eq.mpr rfl
  | default => exact (not_sameDefault_eq_false_iff clause _).mpr rfl
  | members => exact congrArg not (sameMembers_memberSpellings? c)

/-- In the live column that reports what is declared, a replaced value differs unless it counts as
the one before. -/
theorem differs_set_reportedWith (clause : Option (List Char)) (a : Attribute) (v : a.Carrier)
    (hmembers : a = .members → c.HasDistinctMembers) :
    differs flavor .strict e c ((c.reportedWith flavor e clause).set a v) clause a = false ↔
      c.Equates flavor (c.reportedWith flavor e clause) a v := by
  cases a with
  | name | type | length | width | zerofill | unsigned | expression | storage | primary | unique |
      comment | onUpdate => exact bne_eq_false_iff_eq
  | precision => exact isSome_and_bne_eq_false_iff c.precision v
  | scale => exact isSome_and_bne_eq_false_iff c.scale v
  | generated => exact isGenerated_bne_eq_false_iff c v
  | nullable => exact bne_eq_false_iff_eq.trans eq_comm
  | default => exact not_sameDefault_eq_false_iff clause v
  | members => exact not_sameMembers_eq_false_iff (hmembers rfl) v

/-- **Drift is exact attribute by attribute.**  The live column that reports what is declared shows no
drift.  With one value replaced it shows none either if the new value counts as the one before, and
drift in just that attribute if it does not.  For a replaced domain the texts of the declared members
have to be distinct. -/
theorem drift_set_reported (hl : c.reported flavor e = .ok l) :
    drift flavor .strict e c l = .ok none ∧
      ∀ (a : Attribute) (v : a.Carrier), (a = .members → c.HasDistinctMembers) →
        (c.Equates flavor l a v → drift flavor .strict e c (l.set a v) = .ok none) ∧
        (¬ c.Equates flavor l a v → drift flavor .strict e c (l.set a v) = .ok (some a)) := by
  obtain ⟨clause, hclause, rfl⟩ := Column.exists_clause_of_reported hl
  have hother : ∀ (a : Attribute) (v : a.Carrier) (b : Attribute), b ≠ a →
      differs flavor .strict e c ((c.reportedWith flavor e clause).set a v) clause b = false := by
    intro a v b hb
    rw [differs_congr (LiveColumn.get_set_of_ne _ hb v)]
    exact differs_reportedWith clause b
  refine ⟨(drift_eq_none_iff hclause).mpr (differs_reportedWith clause), fun a v hmembers => ?_⟩
  have hreplaced : differs flavor .strict e c ((c.reportedWith flavor e clause).set a v) clause a =
      false ↔ c.Equates flavor (c.reportedWith flavor e clause) a v :=
    differs_set_reportedWith clause a v hmembers
  refine ⟨fun hv => ?_, fun hv => ?_⟩
  · rw [drift_eq_none_iff hclause]
    intro b
    by_cases hb : b = a
    · rw [hb]
      exact hreplaced.mpr hv
    · exact hother a v b hb
  · refine drift_eq_some hclause ?_ (hother a v)
    rw [← Bool.not_eq_false, hreplaced]
    exact hv

/-- A domain in another order, a default without quotes and another spelling of the current time make
no drift; a member that is repeated in place of another one does. -/
theorem drift_set_reported_switch :
    let c : Column :=
      { Column.new "switch" (.dialect .enum) with
        default := some (.text "on")
        members := some [.int 1, .text "on"]
        comment := some "a\u0000b"
        onUpdate := some "now(3)"
        isGenerated := true
        strategy := some .uuid }
    let e : Entity := { Entity.new "t" with columns := [c], indices := [⟨"uq", ["switch"], true⟩] }
    ∃ l, c.reported .mariadb e = .ok l ∧ drift .mariadb .strict e c l = .ok none ∧
      drift .mariadb .strict e c (l.set .members (some ["on", "1"])) = .ok none ∧
      drift .mariadb .strict e c (l.set .members (some ["on", "on"])) = .ok (some .members) ∧
      drift .mariadb .strict e c (l.set .default (some "on")) = .ok none ∧
      drift .mariadb .strict e c (l.set .onUpdate (some "LOCALTIME(3)")) = .ok none ∧
      drift .mariadb .strict e c (l.set .generated false) = .ok none ∧
      drift .mariadb .strict e c (l.set .unique false) = .ok (some .unique) := by
  intro c e
  have hl : c.reported .mariadb e = .ok (c.reportedWith .mariadb e (some "'on'".toList)) := rfl
  have hmembers : c.HasDistinctMembers := by
    rintro ms hms
    obtain rfl := Option.some.inj hms
    decide
  have hdomain : c.memberSpellings? = some ["1", "on"] := by decide
  obtain ⟨hnone, hset⟩ := drift_set_reported hl
  refine ⟨_, hl, hnone, (hset .members _ fun _ => hmembers).1 ?_,
    (hset .members _ fun _ => hmembers).2 ?_, (hset .default _ nofun).1 rfl,
    (hset .onUpdate _ nofun).1 ?_, (hset .generated _ nofun).1 (.inl rfl), (hset .unique _ nofun).2 ?_⟩
  · rintro ds vs hds ⟨⟩
    obtain rfl := Option.some.inj (hdomain.symm.trans hds)
    exact ⟨by decide, by simp [or_comm]⟩
  · intro hequates
    exact absurd (hequates _ _ hdomain rfl).1 (by decide)
  · exact (by decide : updateClause? .mariadb (some "LOCALTIME(3)") = updateClause? .mariadb c.onUpdate)
  · exact (by decide : ¬ false = e.isUnique c)

/-- A live column that has lost its domain shows no drift, and neither does one with another member in
place of one that is declared twice, as a number and as a text. -/
theorem drift_set_members_missed :
    let c : Column :=
      { Column.new "level" (.dialect .enum) with members := some [.int 1, .text "1"] }
    let e : Entity := { Entity.new "games" with columns := [c] }
    [EnumMember.int 1, .text "1"].Nodup ∧
      ∃ l, c.reported .mysql e = .ok l ∧ l.members = some ["1", "1"] ∧
        drift .mysql .strict e c (l.set .members none) = .ok none ∧
        drift .mysql .strict e c (l.set .members (some ["1", "2"])) = .ok none := by
  intro c e
  have hl : c.reported .mysql e = .ok (c.reportedWith .mysql e none) := rfl
  exact ⟨by decide, _, hl, rfl, rfl, rfl⟩

end Schema

end TableMapping
