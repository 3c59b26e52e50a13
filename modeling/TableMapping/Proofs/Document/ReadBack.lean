import TableMapping.Document.Decoder
import TableMapping.Proofs.Document.PrintedTokens
import TableMapping.Proofs.KeyedLists

/-!
# Reading printed documents

A document whose numbers are integers is read back from its text if its lists and objects nest no
deeper than the reader goes, and is refused otherwise.  The tokens of the text are arranged into the
outline of the document at whatever depth, so it is the way from the outline to the document alone
that the limit cuts short.  On that way an object comes out with its names in order, which is how
every document holds them that has been read.

## Main results

* `Outline.ofTokens_tokens` : the tokens of a document are arranged into its outline.
* `Outline.document_ofDocument` : the document of its outline, up to the limit.
* `Outline.wellFormed_of_document` : the names of the objects that come out are in order.
* `Document.read_render` : the document of its text.
-/

namespace TableMapping

/-! ### Outlines of tokens -/

namespace Outline

namespace Arrangement

/-- A name, a colon and the tokens of a document leave the document behind its name. -/
theorem foldl_step_named {d : Document}
    (h : ∀ frames, d.tokens.foldl step ⟨.value false, frames⟩ = ⟨.separator (ofDocument d), frames⟩)
    (name : String) (done : List (FieldName × Outline)) (opened : Bool) (frames : List Frame) :
    (Token.text (some name) :: .colon :: d.tokens).foldl step ⟨.name done opened, frames⟩ =
      ⟨.separator (ofDocument d), .field done (.text (some name)) :: frames⟩ :=
  h (.field done (.text (some name)) :: frames)

mutual

/-- Where a value may stand, the tokens of a document are arranged into its outline. -/
theorem foldl_step_tokens : (d : Document) → (opened : Bool) → (frames : List Frame) →
    d.tokens.foldl step ⟨.value opened, frames⟩ = ⟨.separator (ofDocument d), frames⟩
  | .null, _, _ | .bool _, _, _ | .number _, _, _ | .text _, _, _ => rfl
  -- The bracket that closes an empty list stands where a value is expected, not behind one.
  | .list [], _, _ | .object [], _, _ => rfl
  | .list (d :: rest), _, frames => foldl_step_items (d :: rest) (List.cons_ne_nil d rest) [] true frames
  | .object (field :: rest), _, frames =>
    foldl_step_fields (field :: rest) (List.cons_ne_nil field rest) [] true frames

/-- Inside a list, the items and the bracket behind them complete the list. -/
theorem foldl_step_items : (items : List Document) → items ≠ [] → (done : List Outline) →
    (opened : Bool) → (frames : List Frame) →
    ([Token.comma].intercalate (Document.itemTokens items) ++ [Token.closeList]).foldl step
        ⟨.value opened, .list done :: frames⟩ =
      ⟨.separator (.list (done.reverse ++ ofItems items) none), frames⟩
  | [], h, _, _, _ => absurd rfl h
  | [d], _, done, opened, frames => by
    have hclose : (⟨.separator (ofDocument d), .list done :: frames⟩ : Arrangement).step .closeList =
        ⟨.separator (.list (ofDocument d :: done).reverse none), frames⟩ := rfl
    rw [Document.itemTokens, Document.itemTokens, List.intercalate_singleton, List.foldl_append,
      foldl_step_tokens d, List.foldl_cons, hclose, List.reverse_cons]
    rfl
  | d :: e :: rest, _, done, opened, frames => by
    have hcomma : (⟨.separator (ofDocument d), .list done :: frames⟩ : Arrangement).step .comma =
        ⟨.value false, .list (ofDocument d :: done) :: frames⟩ := rfl
    have htail := foldl_step_items (e :: rest) (List.cons_ne_nil e rest) (ofDocument d :: done) false
      frames
    rw [Document.itemTokens] at htail
    rw [Document.itemTokens, Document.itemTokens, List.intercalate_cons_cons, List.append_assoc,
      List.append_assoc, List.foldl_append, foldl_step_tokens d, List.singleton_append,
      List.foldl_cons, hcomma, htail, List.reverse_cons, List.append_assoc]
    rfl

/-- Inside an object, the fields and the bracket behind them complete the object. -/
theorem foldl_step_fields : (fields : List (String × Document)) → fields ≠ [] →
    (done : List (FieldName × Outline)) → (opened : Bool) → (frames : List Frame) →
    ([Token.comma].intercalate (Document.fieldTokens fields) ++ [Token.closeObject]).foldl step
        ⟨.name done opened, frames⟩ =
      ⟨.separator (.object (done.reverse ++ ofFields fields) none), frames⟩
  | [], h, _, _, _ => absurd rfl h
  | [(name, d)], _, done, opened, frames => by
    have hclose : (⟨.separator (ofDocument d), .field done (.text (some name)) :: frames⟩ :
        Arrangement).step .closeObject =
        ⟨.separator (.object ((.text (some name), ofDocument d) :: done).reverse none), frames⟩ := rfl
    rw [Document.fieldTokens, Document.fieldTokens, List.intercalate_singleton, List.foldl_append,
      foldl_step_named (foldl_step_tokens d false), List.foldl_cons, hclose, List.reverse_cons]
    rfl
  | (name, d) :: field :: rest, _, done, opened, frames => by
    have hcomma : (⟨.separator (ofDocument d), .field done (.text (some name)) :: frames⟩ :
        Arrangement).step .comma =
        ⟨.name ((.text (some name), ofDocument d) :: done) false, frames⟩ := rfl
    have htail := foldl_step_fields (field :: rest) (List.cons_ne_nil field rest)
      ((.text (some name), ofDocument d) :: done) false frames
    rw [Document.fieldTokens] at htail
    rw [Document.fieldTokens, Document.fieldTokens, List.intercalate_cons_cons, List.append_assoc,
      List.append_assoc, List.foldl_append, foldl_step_named (foldl_step_tokens d false),
      List.singleton_append, List.foldl_cons, hcomma, htail, List.reverse_cons, List.append_assoc]
    rfl

end

end Arrangement

/-- The tokens of a document are arranged into its outline, and nothing is left. -/
theorem ofTokens_tokens (d : Document) : ofTokens d.tokens = (ofDocument d, none) := by
  rw [ofTokens, Arrangement.start, Arrangement.foldl_step_tokens]
  rfl

/-! ### Documents of outlines -/

/-- Two parts that are there up to a limit are there together up to the limit. -/
theorem bind_ite_max {α β γ : Type} {m n limit : Nat} (a : α) (b : β) (f : α → β → γ) :
    (do
      let a ← (if m ≤ limit then .ok a else .error .malformed : Except ReadError α)
      let b ← (if n ≤ limit then .ok b else .error .malformed : Except ReadError β)
      return f a b) = if max m n ≤ limit then .ok (f a b) else .error .malformed := by
  by_cases hm : m ≤ limit
  · by_cases hn : n ≤ limit
    · rw [if_pos hm, if_pos hn, if_pos (Nat.max_le.mpr ⟨hm, hn⟩)]
      rfl
    · rw [if_pos hm, if_neg hn, if_neg fun h => hn (Nat.max_le.mp h).2]
      rfl
  · rw [if_neg hm, if_neg fun h => hm (Nat.max_le.mp h).1]
    rfl

mutual

/-- The document of its outline is the document, up to the limit. -/
theorem document_ofDocument : (d : Document) → d.WellFormed → (limit : Nat) →
    (ofDocument d).document limit = if d.depth ≤ limit then .ok d else .error .malformed
  | .null, _, _ | .bool _, _, _ | .number _, _, _ | .text _, _, _ => rfl
  | .list _, _, 0 | .object _, _, 0 => rfl
  | .list items, h, limit + 1 => by
    rw [ofDocument, document, documentItems_ofItems items h limit, Document.depth]
    by_cases hle : Document.depthItems items ≤ limit
    · rw [if_pos hle, if_pos (Nat.succ_le_succ hle)]
      rfl
    · rw [if_neg hle, if_neg (by omega)]
      rfl
  | .object fields, h, limit + 1 => by
    rw [ofDocument, document, documentFields_ofFields fields h.2 limit, Document.depth]
    by_cases hle : Document.depthFields fields ≤ limit
    · rw [if_pos hle, if_pos (Nat.succ_le_succ hle)]
      -- The fields are put in order once more, in which they are already.
      change Except.ok (Document.object (Keyed.ofList fields)) = _
      rw [Keyed.ofList_eq_self h.1]
    · rw [if_neg hle, if_neg (by omega)]
      rfl

theorem documentItems_ofItems : (items : List Document) → Document.WellFormedItems items →
    (limit : Nat) → documentItems limit (ofItems items) =
      if Document.depthItems items ≤ limit then .ok items else .error .malformed
  | [], _, _ => rfl
  | d :: rest, h, limit => by
    rw [ofItems, documentItems, document_ofDocument d h.1, documentItems_ofItems rest h.2]
    exact bind_ite_max d rest List.cons

theorem documentFields_ofFields : (fields : List (String × Document)) →
    Document.WellFormedFields fields → (limit : Nat) → documentFields limit (ofFields fields) =
      if Document.depthFields fields ≤ limit then .ok fields else .error .malformed
  | [], _, _ => rfl
  | (name, d) :: rest, h, limit => by
    rw [ofFields, documentFields, document_ofDocument d h.1, documentFields_ofFields rest h.2]
    exact bind_ite_max d rest fun d rest => (name, d) :: rest

end

theorem wellFormedFields_of_forall {fields : List (String × Document)}
    (h : ∀ pair ∈ fields, pair.2.WellFormed) : Document.WellFormedFields fields := by
  induction fields with
  | nil => trivial
  | cons pair rest ih =>
    exact ⟨h pair List.mem_cons_self, ih fun p hp => h p (List.mem_cons_of_mem pair hp)⟩

theorem exists_of_bind_eq_ok {α β : Type} {x : Except ReadError α} {f : α → Except ReadError β}
    {b : β} (h : (x >>= f) = .ok b) : ∃ a, x = .ok a ∧ f a = .ok b := by
  cases x with
  | error e => cases h
  | ok a => exact ⟨a, rfl, h⟩

mutual

/-- The names of the objects that come out of an outline are in order. -/
theorem wellFormed_of_document : (o : Outline) → (limit : Nat) → {d : Document} →
    o.document limit = .ok d → d.WellFormed
  | .null, _, _, h | .bool _, _, _, h => by
    cases h
    trivial
  | .number value, _, _, h | .text value, _, _, h => by
    obtain ⟨_, _, h⟩ := exists_of_bind_eq_ok h
    cases h
    trivial
  | .broken _ _, _, _, h => by cases h
  | .list _ _, 0, _, h | .object _ _, 0, _, h => by cases h
  | .list items tail, limit + 1, _, h => by
    obtain ⟨ds, hds, h⟩ := exists_of_bind_eq_ok h
    obtain ⟨_, _, h⟩ := exists_of_bind_eq_ok h
    cases h
    exact wellFormedItems_of_documentItems items limit hds
  | .object fields tail, limit + 1, _, h => by
    obtain ⟨ds, hds, h⟩ := exists_of_bind_eq_ok h
    obtain ⟨_, _, h⟩ := exists_of_bind_eq_ok h
    cases h
    exact ⟨Keyed.ascending_ofList ds, wellFormedFields_of_forall fun pair hpair =>
      wellFormed_of_mem_documentFields fields limit hds pair (Keyed.mem_of_mem_ofList hpair)⟩

theorem wellFormedItems_of_documentItems : (items : List Outline) → (limit : Nat) →
    {ds : List Document} → documentItems limit items = .ok ds → Document.WellFormedItems ds
  | [], _, _, h => by
    cases h
    trivial
  | o :: rest, limit, _, h => by
    obtain ⟨d, hd, h⟩ := exists_of_bind_eq_ok h
    obtain ⟨ds, hds, h⟩ := exists_of_bind_eq_ok h
    cases h
    exact ⟨wellFormed_of_document o limit hd, wellFormedItems_of_documentItems rest limit hds⟩

theorem wellFormed_of_mem_documentFields : (fields : List (FieldName × Outline)) → (limit : Nat) →
    {ds : List (String × Document)} → documentFields limit fields = .ok ds →
    ∀ pair ∈ ds, pair.2.WellFormed
  | [], _, _, h => by
    cases h
    exact fun _ hpair => absurd hpair List.not_mem_nil
  | (name, o) :: rest, limit, _, h => by
    obtain ⟨_, _, h⟩ := exists_of_bind_eq_ok h
    obtain ⟨d, hd, h⟩ := exists_of_bind_eq_ok h
    obtain ⟨ds, hds, h⟩ := exists_of_bind_eq_ok h
    cases h
    intro pair hpair
    rcases List.mem_cons.mp hpair with rfl | hpair
    · exact wellFormed_of_document o limit hd
    · exact wellFormed_of_mem_documentFields rest limit hds pair hpair

end

end Outline

namespace Document

/-- Whatever has been read holds the names of its objects in order. -/
theorem wellFormed_of_read {s : List Char} {d : Document} (h : read s = .ok d) : d.WellFormed := by
  obtain ⟨d', hd, h⟩ := Outline.exists_of_bind_eq_ok h
  split at h <;> cases h
  exact Outline.wellFormed_of_document _ _ hd

/-- **A document is read back from its text** if its numbers are integers and it nests no deeper than
the reader goes; what nests deeper is refused. -/
theorem read_render {d : Document} (hwell : d.WellFormed) (hfree : d.FloatFree) :
    read d.render = if d.depth ≤ Decoder.textLimit then .ok d else .error .malformed := by
  have houtline : Outline.ofTokens (TableMapping.tokens d.render) = (.ofDocument d, none) := by
    rw [tokens_render hfree, Outline.ofTokens_tokens]
  rw [read, Decoder.readText, houtline]
  change (Outline.document Decoder.textLimit (.ofDocument d) >>= fun a => .ok a) = _
  rw [Outline.document_ofDocument d hwell]
  split_ifs <;> rfl

end Document

end TableMapping
