import TableMapping.Document.Decoder
import TableMapping.Proofs.Document.ReadBack
import TableMapping.Proofs.Number.Numerals

/-!
# Decoding documents

A decoder that is given leave to go as deep as a document does either reads it or refuses it for what
it says.  What the usual decoders read is stated part by part, and a record is read from an object that
binds the fields of the record in the order of their declaration.

## Main definitions

* `Decoder.Decodes` : the value that a decoder reads from a document.
* `Decoder.Fills` : the record that the entries of an object add up to.

## Main results

* `Decoder.Decodes.list`, `Decoder.Decodes.ofOption`, `Decoder.Decodes.document` : what the usual decoders
  read.
* `Decoder.Fills.decodes` : a record is read from an object with its fields.
* `Decoder.Decodes.readDocument`, `Decoder.Decodes.readText` : what is read from a document, and from its
  text.
-/

namespace TableMapping

/-! ### Documents of parts -/

namespace Document

variable {α : Type} {f : α → Document} {n : Nat}

theorem depth_ofOption_le (h : ∀ a, (f a).depth ≤ n) (o : Option α) : (ofOption f o).depth ≤ n := by
  cases o with
  | none => exact Nat.zero_le n
  | some a => exact h a

theorem depth_list_le (h : ∀ a, (f a).depth ≤ n) (as : List α) :
    (list (as.map f)).depth ≤ n + 1 := by
  refine Nat.succ_le_succ ?_
  induction as with
  | nil => exact Nat.zero_le n
  | cons a as ih => exact Nat.max_le.mpr ⟨h a, ih⟩

theorem depth_object_le {fields : List (String × Document)} (h : ∀ pair ∈ fields, pair.2.depth ≤ n) :
    (object fields).depth ≤ n + 1 := by
  refine Nat.succ_le_succ ?_
  induction fields with
  | nil => exact Nat.zero_le n
  | cons pair rest ih =>
    exact Nat.max_le.mpr ⟨h pair List.mem_cons_self, ih fun p hp => h p (List.mem_cons_of_mem pair hp)⟩

theorem depth_text_le (s : String) : (text s).depth ≤ n := Nat.zero_le n

theorem depth_bool_le (b : Bool) : (bool b).depth ≤ n := Nat.zero_le n

theorem depth_texts_le (items : List String) : (list (items.map .text)).depth ≤ n + 1 :=
  depth_list_le (fun _ => Nat.zero_le n) items

theorem depth_text?_le (o : Option String) : (ofOption .text o).depth ≤ n :=
  depth_ofOption_le (fun _ => Nat.zero_le n) o

theorem depth_uint32?_le (o : Option UInt32) : (ofOption .ofUInt32 o).depth ≤ n :=
  depth_ofOption_le (fun _ => Nat.zero_le n) o

theorem floatFree_ofOption (h : ∀ a, (f a).FloatFree) (o : Option α) : (ofOption f o).FloatFree := by
  cases o with
  | none => trivial
  | some a => exact h a

theorem floatFree_list (h : ∀ a, (f a).FloatFree) (as : List α) : (list (as.map f)).FloatFree := by
  induction as with
  | nil => trivial
  | cons a as ih => exact ⟨h a, ih⟩

end Document

namespace Decoder

open Document (depthItems depthFields)

variable {α β σ : Type}

/-- The decoder reads the document as `a` if it may enter all its lists and objects. -/
def Decodes (d : Decoder α) (doc : Document) (a : α) : Prop :=
  ∀ limit, doc.depth ≤ limit → d limit (.ofDocument doc) = .ok a

namespace Decodes

variable {d : Decoder α} {doc : Document} {a : α}

/-! ### Simple values -/

protected theorem text (s : String) : Decodes Decoder.text (.text s) s := fun _ _ => rfl

protected theorem bool (b : Bool) : Decodes Decoder.bool (.bool b) b := fun _ _ => rfl

protected theorem uint32 (n : UInt32) : Decodes Decoder.uint32 (.ofUInt32 n) n := by
  intro limit _
  have hn : uint32? (WideInt.ofUInt64 n.toUInt64).val = some n := by
    simpa only [WideInt.ofUInt64, UInt32.toNat_toUInt64] using uint32?_toNat n
  rw [Document.ofUInt32, Outline.ofDocument, Decoder.uint32, hn]

protected theorem document (h : doc.WellFormed) : Decodes Decoder.document doc doc := by
  intro limit hdepth
  rw [Decoder.document, Outline.document_ofDocument doc h, if_pos hdepth]

/-! ### Optional values -/

theorem option_null (d : Decoder α) : Decodes (.option d) .null none := fun _ _ => rfl

theorem option (hne : doc ≠ .null) (h : Decodes d doc a) : Decodes (.option d) doc (some a) := by
  intro limit hdepth
  have hsome : Decoder.option d limit (.ofDocument doc) = (d limit (.ofDocument doc)).map some := by
    cases doc with
    | null => exact absurd rfl hne
    | _ => rfl
  rw [hsome, h limit hdepth]
  rfl

theorem ofOption {f : α → Document} (hne : ∀ a, f a ≠ .null) (h : ∀ a, Decodes d (f a) a) :
    (o : Option α) → Decodes (.option d) (.ofOption f o) o
  | none => option_null d
  | some a => option (hne a) (h a)

protected theorem text? : (o : Option String) → Decodes (.option .text) (.ofOption .text o) o :=
  .ofOption (fun _ => nofun) .text

/-! ### Lists -/

theorem items {f : β → Document} {g : β → α} {bs : List β} (h : ∀ b ∈ bs, Decodes d (f b) (g b))
    {limit : Nat} (hdepth : depthItems (bs.map f) ≤ limit) :
    Decoder.items d limit (Outline.ofItems (bs.map f)) = .ok (bs.map g) := by
  induction bs with
  | nil => rfl
  | cons b bs ih =>
    obtain ⟨hb, hbs⟩ := Nat.max_le.mp hdepth
    rw [List.map_cons, Outline.ofItems, Decoder.items, h b List.mem_cons_self limit hb,
      ih (fun c hc => h c (List.mem_cons_of_mem b hc)) hbs]
    rfl

/-- A list is read item by item. -/
protected theorem list {f : β → Document} {g : β → α} {bs : List β}
    (h : ∀ b ∈ bs, Decodes d (f b) (g b)) : Decodes (.list d) (.list (bs.map f)) (bs.map g) := by
  intro limit hdepth
  cases limit with
  | zero => exact absurd hdepth (Nat.not_succ_le_zero _)
  | succ limit =>
    rw [Outline.ofDocument, Decoder.list, items h (Nat.le_of_succ_le_succ hdepth)]
    rfl

/-- A list whose items are read as what they were written for. -/
theorem list_self {f : α → Document} (h : ∀ a, Decodes d (f a) a) (as : List α) :
    Decodes (.list d) (.list (as.map f)) as := by
  simpa only [List.map_id] using Decodes.list (g := id) fun a (_ : a ∈ as) => h a

end Decodes

/-! ### Records -/

/-- The entries bind the fields, in order, to documents whose values turn `record` into `final`. -/
inductive Fills : List (RecordField σ) → List (String × Document) → σ → σ → Prop
  | nil (record : σ) : Fills [] [] record record
  | cons {presence : Presence} {name : String} {α : Type} {d : Decoder α} {set : α → σ → σ}
      {doc : Document} {a : α} {fields : List (RecordField σ)} {entries : List (String × Document)}
      {record final : σ} (head : Decodes d doc a) (rest : Fills fields entries (set a record) final) :
      Fills (.of presence name d set :: fields) ((name, doc) :: entries) record final

namespace Fills

variable {fields before after : List (RecordField σ)} {entries : List (String × Document)}
  {record final : σ} {limit : Nat}

theorem find?_eq {f : RecordField σ} (hnames : ((before ++ f :: after).map (·.name)).Nodup) :
    (before ++ f :: after).find? (·.name == f.name) = some f := by
  obtain ⟨-, -, hapart⟩ := List.nodup_append.mp (List.map_append ▸ hnames)
  have hbefore : before.find? (·.name == f.name) = none := by
    refine List.find?_eq_none.mpr fun g hg hname => ?_
    exact hapart _ (List.mem_map_of_mem hg) _ List.mem_cons_self (eq_of_beq hname)
  rw [List.find?_append, hbefore, Option.none_or]
  exact List.find?_cons_of_pos (beq_self_eq_true f.name)

theorem not_contains_name {f : RecordField σ}
    (hnames : ((before ++ f :: after).map (·.name)).Nodup) :
    (before.map (·.name)).reverse.contains f.name = false := by
  obtain ⟨-, -, hapart⟩ := List.nodup_append.mp (List.map_append ▸ hnames)
  rw [List.contains_eq_mem, decide_eq_false_iff_not, List.mem_reverse]
  exact fun hmem => hapart _ hmem _ List.mem_cons_self rfl

/-- An entry of a field that has not occurred yet. -/
theorem namedFields_cons {f : RecordField σ} {name : String} {seen : List String} {o : Outline}
    {update : σ → σ} {rest : List (FieldName × Outline)}
    (hfind : fields.find? (·.name == name) = some f) (hseen : seen.contains name = false)
    (hread : f.read limit o = .ok update) :
    namedFields fields limit seen record ((.text (some name), o) :: rest) =
      namedFields fields limit (name :: seen) (update record) rest := by
  rw [namedFields, Outline.nameText, Outline.required]
  simp only [bind, Except.bind, hfind, hseen, hread, Bool.false_eq_true, if_false]

/-- The entries of the fields behind those that have been read, whose names are held latest first. -/
theorem namedFields_eq (h : Fills after entries record final) (before : List (RecordField σ))
    (hnames : ((before ++ after).map (·.name)).Nodup) (hdepth : depthFields entries ≤ limit) :
    namedFields (before ++ after) limit (before.map (·.name)).reverse record
        (Outline.ofFields entries) =
      .ok (((before ++ after).map (·.name)).reverse, final) := by
  induction h generalizing before with
  | nil record => rw [List.append_nil, Outline.ofFields, namedFields]
  | @cons presence name α d set doc a fields entries record final head rest ih =>
    obtain ⟨hdoc, hentries⟩ := Nat.max_le.mp hdepth
    let f : RecordField σ := .of presence name d set
    have hread : f.read limit (.ofDocument doc) = .ok (set a) :=
      congrArg (Except.map set) (head limit hdoc)
    have hfind : (before ++ f :: fields).find? (·.name == name) = some f := find?_eq hnames
    have hseen : (before.map (·.name)).reverse.contains name = false := not_contains_name hnames
    -- The field now counts among those that have been read.
    have happend : before ++ f :: fields = (before ++ [f]) ++ fields := by simp
    have hrest := ih (before ++ [f]) (happend ▸ hnames) hentries
    have hnext : ((before ++ [f]).map (·.name)).reverse = name :: (before.map (·.name)).reverse := by
      rw [List.map_append, List.reverse_append]
      rfl
    rw [← happend, hnext] at hrest
    rw [Outline.ofFields, namedFields_cons hfind hseen hread]
    exact hrest

/-- **A record is read from an object with its fields.** -/
theorem decodes {blank : σ} (h : Fills fields entries blank final)
    (hnames : (fields.map (·.name)).Nodup) : Decodes (.record fields blank) (.object entries) final := by
  intro limit hdepth
  cases limit with
  | zero => exact absurd hdepth (Nat.not_succ_le_zero _)
  | succ limit =>
    have hread : namedFields fields limit [] blank (Outline.ofFields entries) =
        .ok ((fields.map (·.name)).reverse, final) :=
      h.namedFields_eq [] hnames (Nat.le_of_succ_le_succ hdepth)
    have hall : fields.all (fun f => f.presence != .always ||
        (fields.map (·.name)).reverse.contains f.name) = true := by
      refine List.all_eq_true.mpr fun f hf => Bool.or_eq_true_iff.mpr (.inr ?_)
      rw [List.contains_eq_mem, decide_eq_true_iff, List.mem_reverse]
      exact List.mem_map_of_mem hf
    rw [Outline.ofDocument, record, hread]
    exact if_pos hall

end Fills

/-! ### Whole documents -/

namespace Decodes

variable {d : Decoder α} {doc : Document} {a : α}

theorem readDocument (h : Decodes d doc a) : d.readDocument doc = .ok a := by
  rw [Decoder.readDocument, h doc.depth (Nat.le_refl _)]

/-- A text is read as its document is, if that document nests no deeper than the reader goes. -/
theorem readText (h : Decodes d doc a) (hdepth : doc.depth ≤ textLimit) {s : List Char}
    (hs : Outline.ofTokens (tokens s) = (.ofDocument doc, none)) : d.readText s = .ok a := by
  rw [Decoder.readText, hs]
  change (d textLimit (.ofDocument doc) >>= fun a => .ok a) = .ok a
  rw [h textLimit hdepth]
  rfl

end Decodes

end Decoder

end TableMapping
