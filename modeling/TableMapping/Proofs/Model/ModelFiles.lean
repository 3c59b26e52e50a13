import TableMapping.Model.EntityFile
import TableMapping.Model.LiveFile
import TableMapping.Proofs.Document.Decoding

/-!
# Round trips of model files

What has been written to a model file is read again as it was, but for two things.  The transformers of
a column are not written, and a default that is explicitly the null is read as no default.  A default
that the application computes is an expression in the model and in the file, and so is it when it is
read.

A column can be read again if it has a name in the database, for otherwise the name of its property is
put there, if its type is one of some spelling, and if its default is not an infinite double or a double
that is not a number, which a document cannot hold.

## Main definitions

* `Column.reread`, `Entity.reread` : columns and entities as they are read again.
* `Column.Rereadable` : the columns that can be read again.

## Main results

* `LiveColumn.readDocument_list`, `LiveColumn.readAll_render` : a snapshot is read back as it was.
* `Column.decodes`, `Entity.readDocument_toDocument`, `Entity.read_eq` : an entity is read back.
-/

namespace TableMapping

open Decoder (Decodes Fills)

/-! ### Parts of columns -/

theorem ColumnType.ofSpelling_dialect (t : DialectType) : ofSpelling t.spelling = .dialect t := by
  cases t <;> decide

theorem ColumnType.ofSpelling_application (t : ApplicationType) :
    ofSpelling t.spelling = .application t := by
  cases t <;> rfl

/-- The type of a spelling is the type of its own spelling. -/
theorem ColumnType.ofSpelling_spelling (s : String) :
    ofSpelling (ofSpelling s).spelling = ofSpelling s := by
  cases h : ofSpelling s with
  | dialect t => exact ofSpelling_dialect t
  | application t => exact ofSpelling_application t
  | other name =>
    have hname : name = s := by
      rw [ofSpelling] at h
      split at h
      · cases h
      · dsimp only at h
        split at h <;> cases h
        rfl
    rw [spelling, hname, h, hname]

theorem EnumMember.decodes (m : EnumMember) : Decodes decoder m.toDocument m := by
  intro limit _
  cases m with
  | text s => rfl
  | int n =>
    have hn : (WideInt.ofInt64 n).toInt64? = some n := int64?_toInt n
    simp only [decoder, toDocument, Outline.ofDocument, Outline.document, Outline.required, bind,
      Except.bind, pure, Except.pure, hn]

/-- The numbers of a default are finite. -/
def DefaultValue.IsFinite (d : DefaultValue) : Prop := ∀ x, d = .float x → x.isFinite = true

theorem wellFormedItems_map_text (items : List String) :
    Document.WellFormedItems (items.map .text) := by
  induction items with
  | nil => trivial
  | cons s items ih => exact ⟨trivial, ih⟩

theorem DefaultValue.wellFormed_toDocument (d : DefaultValue) : d.toDocument.WellFormed := by
  cases d with
  | float x =>
    rw [toDocument, Value.toDocument]
    split <;> trivial
  | list items => exact wellFormedItems_map_text items
  | computed sql => exact ⟨by simp [Keyed.Ascending], trivial, trivial⟩
  | _ => trivial

theorem DefaultValue.ofDocument_toDocument {d : DefaultValue} (h : d.IsFinite) :
    ofDocument d.toDocument = .ok d := by
  cases d with
  | float x => rw [toDocument, Value.toDocument, dif_pos (h x rfl), ofDocument]
  | integer n =>
    have hn : (WideInt.ofInt64 n).toInt64? = some n := int64?_toInt n
    simp only [toDocument, ofDocument, hn]
  | list items =>
    have hitem : (fun d => String.ofList (Value.ofDocument d).stringify) ∘ Document.text = id :=
      funext fun s => String.ofList_toList
    rw [toDocument, ofDocument, List.map_map, hitem, List.map_id]
  | _ => rfl

theorem DefaultValue.decodes {d : DefaultValue} (h : d.IsFinite) :
    Decodes decoder d.toDocument d := by
  intro limit hdepth
  have hread : (Outline.ofDocument d.toDocument).document limit = .ok d.toDocument :=
    Decodes.document d.wellFormed_toDocument limit hdepth
  rw [decoder, hread]
  exact ofDocument_toDocument h

theorem GenerationStrategy.decodes (s : GenerationStrategy) :
    Decodes decoder (.text s.name) s := by
  intro limit _
  cases s <;> rfl

theorem ColumnType.decodes {t : ColumnType} (h : ∃ s, t = .ofSpelling s) :
    Decodes decoder (.text t.spelling) t := by
  obtain ⟨s, rfl⟩ := h
  exact fun _ _ => congrArg Except.ok (ofSpelling_spelling s)

theorem decodes_uint32? : (o : Option UInt32) →
    Decodes (.option .uint32) (.ofOption .ofUInt32 o) o :=
  .ofOption (fun _ => nofun) .uint32

theorem decodes_texts : (items : List String) →
    Decodes (.list .text) (.list (items.map .text)) items :=
  .list_self .text

theorem decodes_texts? : (o : Option (List String)) →
    Decodes (.option (.list .text)) (.ofOption (fun items => .list (items.map .text)) o) o :=
  .ofOption (fun _ => nofun) decodes_texts

/-! ### Live columns -/

namespace LiveColumn

/-- **A live column is read back from its document.** -/
theorem decodes (l : LiveColumn) : Decodes decoder l.toDocument l := by
  -- The parts are named first, so that the record that has been filled is compared part by part.
  obtain ⟨⟩ := l
  refine Fills.decodes ?_ (by decide)
  exact .cons (.text _) <| .cons (.text _) <| .cons (.text _) <| .cons (decodes_uint32? _) <|
    .cons (decodes_uint32? _) <| .cons (decodes_uint32? _) <| .cons (.bool _) <| .cons (.bool _) <|
    .cons (.bool _) <| .cons (.bool _) <| .cons (.text? _) <| .cons (decodes_texts? _) <|
    .cons (.text? _) <| .cons (.text? _) <| .cons (.bool _) <| .cons (.bool _) <|
    .cons (.text? _) <| .cons (.text? _) <| .nil _

end LiveColumn

/-! ### Entities -/

/-- A column as it is read again: without transformers, and without a default if that is the null. -/
def Column.reread (c : Column) : Column :=
  { c with
    default := match c.default with
      | some .null => none
      | d => d
    transformers := [] }

/-- What a column must be like to be read again: it has a name in the database and a type of some
spelling, and if its default is a double, then a finite one. -/
structure Column.Rereadable (c : Column) : Prop where
  named : c.databaseName ≠ ""
  spelled : ∃ s, c.columnType = .ofSpelling s
  finite : ∀ x, c.default = some (.float x) → x.isFinite = true

theorem Column.decodes_default? {c : Column} (h : c.Rereadable) :
    Decodes (.option DefaultValue.decoder) (.ofOption DefaultValue.toDocument c.default)
      c.reread.default := by
  rw [reread]
  cases hd : c.default with
  | none => exact .option_null _
  | some d =>
    have hfinite : d.IsFinite := fun x hx => h.finite x (hx ▸ hd)
    have hread := DefaultValue.decodes hfinite
    cases d with
    | null => exact .option_null _
    | float x =>
      have hnumber : (DefaultValue.float x).toDocument = .number (.float x (hfinite x rfl)) :=
        dif_pos (hfinite x rfl)
      exact .option (fun hnull => nomatch hnumber.symm.trans hnull) hread
    | _ => exact .option nofun hread

theorem Column.decodes_members? : (o : Option (List EnumMember)) →
    Decodes (.option (.list EnumMember.decoder))
      (.ofOption (fun ms => .list (ms.map EnumMember.toDocument)) o) o :=
  .ofOption (fun _ => nofun) (.list_self EnumMember.decodes)

theorem Column.decodes_strategy? : (o : Option GenerationStrategy) →
    Decodes (.option GenerationStrategy.decoder) (.ofOption (fun s => .text s.name) o) o :=
  .ofOption (fun _ => nofun) GenerationStrategy.decodes

/-- **A column is read from its document** without its transformers and without an explicit null. -/
theorem Column.decodes {c : Column} (h : c.Rereadable) : Decodes decoder c.toDocument c.reread := by
  have htype := ColumnType.decodes h.spelled
  have hdefault := decodes_default? h
  clear h
  obtain ⟨⟩ := c
  refine Fills.decodes ?_ (by decide)
  exact .cons (.text _) <| .cons (.text _) <| .cons htype <| .cons (decodes_uint32? _) <|
    .cons (decodes_uint32? _) <| .cons (decodes_uint32? _) <| .cons (decodes_uint32? _) <|
    .cons (.bool _) <| .cons (.bool _) <| .cons (.bool _) <| .cons (decodes_strategy? _) <|
    .cons hdefault <| .cons (decodes_members? _) <| .cons (.text? _) <|
    .cons (.text? _) <| .cons (.bool _) <| .cons (.bool _) <| .cons (.text? _) <|
    .cons (.text? _) <| .cons (.bool _) <| .cons (decodes_texts _) <| .nil _

theorem Index.decodes (i : Index) : Decodes decoder i.toDocument i := by
  obtain ⟨⟩ := i
  refine Fills.decodes ?_ (by decide)
  exact .cons (.text _) <| .cons (decodes_texts _) <| .cons (.bool _) <| .nil _

namespace Entity

/-- An entity whose columns are as they are read again. -/
def reread (e : Entity) : Entity := { e with columns := e.columns.map Column.reread }

theorem decodes {e : Entity} (h : ∀ c ∈ e.columns, c.Rereadable) :
    Decodes decoder e.toDocument e.reread := by
  have hcolumns : Decodes (.list Column.decoder) (.list (e.columns.map Column.toDocument))
      e.reread.columns := Decodes.list fun c hc => Column.decodes (h c hc)
  have hindices : Decodes (.list Index.decoder) (.list (e.indices.map Index.toDocument)) e.indices :=
    .list_self Index.decodes e.indices
  clear h
  obtain ⟨⟩ := e
  refine Fills.decodes ?_ (by decide)
  exact .cons (.text _) <| .cons (.text? _) <| .cons (.text? _) <|
    .cons hcolumns <| .cons hindices <| .nil _

/-- No name has to be filled in if each column has one. -/
theorem fillNames_reread {e : Entity} (h : ∀ c ∈ e.columns, c.Rereadable) :
    e.reread.fillNames = e.reread := by
  have hfill : ∀ c ∈ e.reread.columns, (if c.databaseName.isEmpty then
      { c with databaseName := c.name } else c) = c := by
    intro reread hreread
    obtain ⟨c, hc, rfl⟩ := List.mem_map.mp hreread
    have hname : c.reread.databaseName.isEmpty = false := by
      simpa [Column.reread] using (h c hc).named
    rw [hname, if_neg Bool.false_ne_true]
  rw [fillNames, List.map_congr_left hfill, List.map_id']

/-- **An entity is read from its document** with its columns as they are read again. -/
theorem readDocument_toDocument {e : Entity} (h : ∀ c ∈ e.columns, c.Rereadable) :
    readDocument e.toDocument = .ok e.reread := by
  rw [readDocument, (decodes h).readDocument]
  exact congrArg Except.ok (fillNames_reread h)

end Entity

/-! ### Depths -/

open Document

theorem DefaultValue.depth_toDocument_le (d : DefaultValue) : d.toDocument.depth ≤ 1 := by
  cases d with
  | float x =>
    rw [toDocument, Value.toDocument]
    split <;> exact Nat.zero_le 1
  | list items => exact depth_texts_le items
  | computed sql => exact Nat.le_refl 1
  | _ => exact Nat.zero_le 1

theorem Column.depth_toDocument_le (c : Column) : c.toDocument.depth ≤ 2 := by
  have hstrategy : (ofOption (fun s => text (GenerationStrategy.name s)) c.strategy).depth ≤ 1 :=
    depth_ofOption_le (fun _ => Nat.zero_le 1) c.strategy
  have hdefault : (ofOption DefaultValue.toDocument c.default).depth ≤ 1 :=
    depth_ofOption_le DefaultValue.depth_toDocument_le c.default
  have hmember (m : EnumMember) : m.toDocument.depth ≤ 0 := by cases m <;> exact Nat.le_refl 0
  have hmembers : (ofOption (fun ms => list (ms.map EnumMember.toDocument)) c.members).depth ≤ 1 :=
    depth_ofOption_le (depth_list_le hmember) c.members
  refine depth_object_le ?_
  simp [depth_text_le, depth_bool_le, depth_texts_le, depth_text?_le, depth_uint32?_le, hstrategy,
    hdefault, hmembers]

theorem Index.depth_toDocument_le (i : Index) : i.toDocument.depth ≤ 2 := by
  refine depth_object_le ?_
  simp [depth_text_le, depth_bool_le, depth_texts_le]

theorem Entity.depth_toDocument_le (e : Entity) : e.toDocument.depth ≤ 4 := by
  refine depth_object_le ?_
  simp [depth_text_le, depth_text?_le, depth_list_le, Column.depth_toDocument_le,
    Index.depth_toDocument_le]

theorem LiveColumn.depth_toDocument_le (l : LiveColumn) : l.toDocument.depth ≤ 2 := by
  have hmembers : (ofOption (fun ms => list (ms.map text)) l.members).depth ≤ 1 :=
    depth_ofOption_le depth_texts_le l.members
  refine depth_object_le ?_
  simp [depth_text_le, depth_bool_le, depth_text?_le, depth_uint32?_le, hmembers]

/-! ### Texts -/

namespace LiveColumn

theorem floatFree_toDocument (l : LiveColumn) : l.toDocument.FloatFree := by
  have htext (o) : (ofOption .text o).FloatFree := floatFree_ofOption (f := text) (fun _ => trivial) o
  have hnumber (o) : (ofOption .ofUInt32 o).FloatFree :=
    floatFree_ofOption (f := ofUInt32) (fun _ => trivial) o
  have hmembers : (ofOption (fun ms => list (ms.map text)) l.members).FloatFree :=
    floatFree_ofOption (floatFree_list (f := text) fun _ => trivial) l.members
  simp only [toDocument, FloatFree, FloatFreeFields, htext, hnumber, hmembers, and_self]

/-- **A snapshot is read back from its document.** -/
theorem readDocument_list (live : List LiveColumn) :
    (Decoder.list decoder).readDocument (.list (live.map toDocument)) = .ok live :=
  (Decodes.list_self decodes live).readDocument

/-- **A snapshot is read back from its text.** -/
theorem readAll_render (live : List LiveColumn) :
    readAll (Document.list (live.map toDocument)).render = .ok live := by
  have hfree : (Document.list (live.map toDocument)).FloatFree :=
    floatFree_list floatFree_toDocument live
  have hdepth : (Document.list (live.map toDocument)).depth ≤ Decoder.textLimit :=
    Nat.le_trans (depth_list_le depth_toDocument_le live) (by decide)
  refine (Decodes.list_self decodes live).readText hdepth ?_
  rw [Document.tokens_render hfree, Outline.ofTokens_tokens]

end LiveColumn

/-- A text is read as the entity of its document. -/
theorem Entity.read_eq {e : Entity} (h : ∀ c ∈ e.columns, c.Rereadable) {s : List Char}
    (hs : Outline.ofTokens (TableMapping.tokens s) = (.ofDocument e.toDocument, none)) :
    read s = .ok e.reread := by
  have hdepth : e.toDocument.depth ≤ Decoder.textLimit :=
    Nat.le_trans e.depth_toDocument_le (by decide)
  rw [read, (decodes h).readText hdepth hs]
  exact congrArg Except.ok (fillNames_reread h)

end TableMapping
