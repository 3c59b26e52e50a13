import TableMapping.Proofs.Document.Decoding
import TableMapping.Proofs.Text.Splitting
import TableMapping.TableName

/-!
# Where a table is found

A written name says which table is meant, and perhaps in which database: the database is the text
before the first point, unless that is empty, and the table is the text up to the next point.  A
table, a view and a foreign key that give the same name, database and schema are found in the same
place.

The place of a table is a written name again.  That name says the same as the place if neither the
database nor the table has a point in it and the database is not empty; any other place is lost when
its name is read.

## Main definitions

* `NamesTable` : what a written name says.
* `TablePath.IsPlain` : the places that their written names say.
* `TablePath.reread` : the place that the written name of a place is read as.

## Main results

* `splitTableName_eq_iff` : a written name is read as what it says.
* `TablePath.isPlain_iff_namesTable`, `TablePath.isPlain_iff_reread` : which places are read again.
* `TableTarget.resolve_reread` : where a table is found, and found again.
-/

namespace TableMapping

/-! ### Written names -/

/-- A text with points in it: `before` stands in front of the first one, and `table` between that and
the next one, or the end. -/
structure SplitsAt (s before table : List Char) : Prop where
  not_mem_before : '.' ∉ before
  not_mem_table : '.' ∉ table
  whole : s = before ++ '.' :: table ∨ ∃ rest, s = before ++ '.' :: (table ++ '.' :: rest)

/-- What a written name says of a database and a table. -/
inductive NamesTable (s : String) : Option String → String → Prop
  /-- Without a point it is the name of a table. -/
  | alone (h : '.' ∉ s.toList) : NamesTable s none s
  /-- A point in front of the name of a table says nothing of its database. -/
  | headless {table : String} (h : SplitsAt s.toList [] table.toList) : NamesTable s none table
  | qualified {database table : String} (h : SplitsAt s.toList database.toList table.toList)
    (hne : database ≠ "") : NamesTable s (some database) table

theorem exists_splitsAt {s : List Char} (h : '.' ∈ s) : ∃ before table, SplitsAt s before table := by
  obtain ⟨before, after, rfl, hbefore⟩ := List.eq_append_cons_of_mem h
  by_cases hafter : '.' ∈ after
  · obtain ⟨table, rest, rfl, htable⟩ := List.eq_append_cons_of_mem hafter
    exact ⟨before, table, hbefore, htable, .inr ⟨rest, rfl⟩⟩
  · exact ⟨before, after, hbefore, hafter, .inl rfl⟩

theorem SplitsAt.exists_splitOn_eq {s before table : List Char} (h : SplitsAt s before table) :
    ∃ pieces, Text.splitOn '.' s = before :: table :: pieces := by
  rcases h.whole with rfl | ⟨rest, rfl⟩
  · refine ⟨[], ?_⟩
    rw [Text.splitOn_append_cons h.not_mem_before, Text.splitOn_of_not_mem h.not_mem_table]
  · refine ⟨Text.splitOn '.' rest, ?_⟩
    rw [Text.splitOn_append_cons h.not_mem_before, Text.splitOn_append_cons h.not_mem_table]

theorem SplitsAt.splitTableName_eq {s : String} {before table : List Char}
    (h : SplitsAt s.toList before table) :
    splitTableName s =
      (if before.isEmpty then none else some (String.ofList before), String.ofList table) := by
  obtain ⟨pieces, hpieces⟩ := h.exists_splitOn_eq
  rw [splitTableName, hpieces]

/-- A written name says something. -/
theorem exists_namesTable (s : String) : ∃ database table, NamesTable s database table := by
  by_cases hpoint : '.' ∈ s.toList
  · obtain ⟨before, table, h⟩ := exists_splitsAt hpoint
    rw [← String.toList_ofList (l := before), ← String.toList_ofList (l := table)] at h
    by_cases hempty : String.ofList before = ""
    · rw [hempty] at h
      exact ⟨none, _, .headless h⟩
    · exact ⟨some _, _, .qualified h hempty⟩
  · exact ⟨none, s, .alone hpoint⟩

section

variable {s table : String} {database : Option String}

theorem NamesTable.splitTableName_eq (h : NamesTable s database table) :
    splitTableName s = (database, table) := by
  cases h with
  | alone h => rw [splitTableName, Text.splitOn_of_not_mem h]
  | headless h => rw [h.splitTableName_eq, List.isEmpty_nil, if_pos rfl, String.ofList_toList]
  | @qualified database _ h hne =>
    have hempty : ¬ database.toList.isEmpty = true := by simpa using hne
    rw [h.splitTableName_eq, if_neg hempty, String.ofList_toList, String.ofList_toList]

/-- A written name is read as what it says. -/
theorem splitTableName_eq_iff :
    splitTableName s = (database, table) ↔ NamesTable s database table := by
  refine ⟨fun h => ?_, NamesTable.splitTableName_eq⟩
  obtain ⟨database', table', hnames⟩ := exists_namesTable s
  obtain ⟨rfl, rfl⟩ := Prod.mk.inj (h.symm.trans hnames.splitTableName_eq)
  exact hnames

end

/-! ### Written places -/

namespace TablePath

/-- Neither the table nor the database has a point in it, and the database is not empty. -/
structure IsPlain (p : TablePath) : Prop where
  table : '.' ∉ p.tableName.toList
  database : ∀ d ∈ p.database, d ≠ "" ∧ '.' ∉ d.toList

/-- The place that the written name of a place is read as. -/
def reread (p : TablePath) (defaultDatabase : Option String) : TablePath :=
  (TableTarget.name p.written).resolve defaultDatabase

variable {p : TablePath}

theorem ofName_eq {name table : String} {inName : Option String} (h : NamesTable name inName table)
    (defaultDatabase database schema : Option String) :
    ofName defaultDatabase name database schema =
      ⟨database <|> inName <|> defaultDatabase, schema, table⟩ := by
  rw [ofName, h.splitTableName_eq]

theorem eq_none_of_ofName {name : String} {defaultDatabase database schema : Option String}
    (h : (ofName defaultDatabase name database schema).database = none) : defaultDatabase = none := by
  simp only [ofName, Option.orElse_eq_orElse, Option.orElse_eq_or, Option.or_eq_none_iff] at h
  exact h.2.2

theorem written_toList_some {d : String} (h : p.database = some d) :
    p.written.toList = d.toList ++ '.' :: p.tableName.toList := by
  rw [written, h]
  simp [qualifiedName]

/-- The places that their written names say are the plain ones. -/
theorem isPlain_iff_namesTable : p.IsPlain ↔ NamesTable p.written p.database p.tableName := by
  cases hdatabase : p.database with
  | none =>
    have hwritten : p.written = p.tableName := by rw [written, hdatabase, qualifiedName]
    rw [hwritten]
    constructor
    · exact fun h => .alone h.table
    · intro h
      refine ⟨?_, fun d hd => nomatch hdatabase.symm.trans hd⟩
      cases h with
      | alone h => exact h
      | headless h => exact h.not_mem_table
  | some d =>
    have hwritten := written_toList_some hdatabase
    constructor
    · intro h
      obtain ⟨hne, hd⟩ := h.database d hdatabase
      exact .qualified ⟨hd, h.table, .inl hwritten⟩ hne
    · intro h
      cases h with
      | qualified h hne =>
        refine ⟨h.not_mem_table, fun d' hd' => ?_⟩
        obtain rfl : d = d' := Option.some.inj (hdatabase.symm.trans hd')
        exact ⟨hne, h.not_mem_before⟩

theorem reread_eq {database : Option String} {table : String}
    (h : NamesTable p.written database table) (defaultDatabase : Option String) :
    p.reread defaultDatabase = ⟨database <|> defaultDatabase, none, table⟩ := by
  rw [reread, TableTarget.resolve, ofName_eq h]
  rfl

/-- **Which places are read again.**  The written name of a place is read as its database and its
table, whatever the default database, if and only if the place is plain.  A place without a database
is one only as long as there is no default. -/
theorem isPlain_iff_reread :
    p.IsPlain ↔ ∀ defaultDatabase, (p.database = none → defaultDatabase = none) →
      (p.reread defaultDatabase).database = p.database ∧
        (p.reread defaultDatabase).tableName = p.tableName := by
  constructor
  · intro h defaultDatabase hnone
    rw [reread_eq (isPlain_iff_namesTable.mp h)]
    refine ⟨?_, rfl⟩
    cases hdatabase : p.database with
    | none => exact hnone hdatabase
    | some d => rfl
  · intro h
    obtain ⟨database, table, hnames⟩ := exists_namesTable p.written
    obtain ⟨hdatabase, htable⟩ := h none fun _ => rfl
    rw [reread_eq hnames] at hdatabase htable
    have hsome : database = p.database := by
      rw [← hdatabase]
      cases database <;> rfl
    rw [isPlain_iff_namesTable, ← hsome, ← htable]
    exact hnames

end TablePath

/-! ### Tables, views and foreign keys -/

open Decoder (Decodes Fills)

/-- The document of a table or a view. -/
def TableReference.toDocument (r : TableReference) : Document := .object [
  ("name", .text r.name),
  ("database", .ofOption .text r.database),
  ("schema", .ofOption .text r.schema)]

theorem TableReference.decodes (r : TableReference) : Decodes decoder r.toDocument r := by
  obtain ⟨⟩ := r
  refine Fills.decodes ?_ (by decide)
  exact .cons (.text _) <| .cons (.text? _) <| .cons (.text? _) <| .nil _

/-- The document of a foreign key. -/
def ForeignKey.toDocument (k : ForeignKey) : Document := .object [
  ("name", .ofOption .text k.name),
  ("referenced_table_name", .text k.referencedTable),
  ("referenced_database", .ofOption .text k.referencedDatabase),
  ("referenced_schema", .ofOption .text k.referencedSchema)]

theorem ForeignKey.decodes (k : ForeignKey) : Decodes decoder k.toDocument k := by
  obtain ⟨⟩ := k
  refine Fills.decodes ?_ (by decide)
  exact .cons (.text? _) <| .cons (.text _) <| .cons (.text? _) <|
    .cons (.text? _) <| .nil _

/-! ### Places -/

namespace TableTarget

/-- A place without a database is found only if there is no default. -/
theorem eq_none_of_resolve {t : TableTarget} {defaultDatabase : Option String}
    (h : (t.resolve defaultDatabase).database = none) : defaultDatabase = none := by
  cases t with
  | entity e =>
    simp only [resolve, Option.orElse_eq_orElse, Option.orElse_eq_or, Option.or_eq_none_iff] at h
    exact h.2
  | table | view | foreignKey | name => exact TablePath.eq_none_of_ofName h

/-- **Tables are found, and found again.**  A table, a view and a foreign key that give one name, one
database and one schema are read from their documents with all that they give, and are found in one
place.  It has the database that is given, else the one that the name says, else the default; the schema
that is given; and the table that the name says.  The written name of a place, however that was found, is
read as its database and its table if and only if the place is plain: with a database under any default,
and without one as long as the default stays. -/
theorem resolve_reread (defaultDatabase : Option String) :
    (∀ (name : String) (database schema keyName : Option String),
      let r : TableReference := ⟨name, database, schema⟩
      let k : ForeignKey := ⟨keyName, name, database, schema⟩
      TableReference.decoder.readDocument r.toDocument = .ok r ∧
      ForeignKey.decoder.readDocument k.toDocument = .ok k ∧
      ∃ inName tableName, NamesTable name inName tableName ∧
        let p : TablePath := ⟨database <|> inName <|> defaultDatabase, schema, tableName⟩
        (table r).resolve defaultDatabase = p ∧ (view r).resolve defaultDatabase = p ∧
          (foreignKey k).resolve defaultDatabase = p) ∧
    ∀ t : TableTarget,
      let p := t.resolve defaultDatabase
      p.IsPlain ↔ ∀ laterDefault, (p.database = none → laterDefault = defaultDatabase) →
        (p.reread laterDefault).database = p.database ∧
          (p.reread laterDefault).tableName = p.tableName := by
  constructor
  · intro name database schema keyName r k
    obtain ⟨inName, tableName, hnames⟩ := exists_namesTable name
    have hplace := TablePath.ofName_eq hnames defaultDatabase database schema
    exact ⟨r.decodes.readDocument, k.decodes.readDocument, inName, tableName, hnames, hplace, hplace,
      hplace⟩
  · intro t p
    -- A place without a database has come from no default.
    have hdefault : ∀ laterDefault : Option String,
        (p.database = none → laterDefault = none) ↔
          (p.database = none → laterDefault = defaultDatabase) :=
      fun laterDefault => forall_congr' fun hnone => by rw [eq_none_of_resolve hnone]
    simp only [TablePath.isPlain_iff_reread, hdefault]

/-- A name with two points says a database in spite of the default and is found there under any later
one, and a place without a database is found again as long as there is no default. -/
theorem resolve_reread_events :
    let events : ForeignKey := ⟨some "fk_events", "audit.events.2024", none, some "s"⟩
    let p := (foreignKey events).resolve (some "app")
    let q := (name "users").resolve none
    p = ⟨some "audit", some "s", "events"⟩ ∧
      (∀ laterDefault, (p.reread laterDefault).database = some "audit" ∧
        (p.reread laterDefault).tableName = "events") ∧
      q = ⟨none, none, "users"⟩ ∧ (q.reread none).database = none := by
  intro events p q
  have hp : p = ⟨some "audit", some "s", "events"⟩ := by decide
  have hdatabase : p.database = some "audit" := congrArg TablePath.database hp
  have htable : p.tableName = "events" := congrArg TablePath.tableName hp
  have hq : q = ⟨none, none, "users"⟩ := by decide
  have hplain : p.IsPlain := by
    rw [hp]
    exact ⟨by decide, by decide⟩
  have hbare : q.IsPlain := by
    rw [hq]
    exact ⟨by decide, by decide⟩
  obtain ⟨-, hagain⟩ := resolve_reread (some "app")
  obtain ⟨-, hbareAgain⟩ := resolve_reread none
  refine ⟨hp, fun laterDefault => ?_, hq, ((hbareAgain (name "users")).mp hbare none fun _ => rfl).1⟩
  rw [← hdatabase, ← htable]
  exact (hagain (foreignKey events)).mp hplain laterDefault fun hnone => nomatch hdatabase.symm.trans hnone

end TableTarget

end TableMapping
