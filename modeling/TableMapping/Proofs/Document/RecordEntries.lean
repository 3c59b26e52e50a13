import TableMapping.Proofs.Document.Decoding

/-!
# Records with one entry more

The entries of an object fill the fields of a record one after the other, in whatever order they
come.  If what an entry puts into the record is apart from what the others put there, it does not
matter where it stands: the record is the one without the entry, with that put into it.

## Main definitions

* `Decoder.UpdatesApart` : an update that is apart from what the fields of other names put there.

## Main results

* `Decoder.namedFields_cons_eq_ok_iff` : what one entry does.
* `Decoder.record_insert` : a record is read from an object with one entry more.
-/

namespace TableMapping.Decoder

open Outline (exists_of_bind_eq_ok)

variable {α σ : Type} {fields : List (RecordField σ)} {f : RecordField σ} {name : String}
  {update : σ → σ} {limit : Nat} {o : Outline} {e : FieldName}
  {entries before after : List (FieldName × Outline)} {start final : σ}
  {seen seen' names : List String}

/-! ### Single entries -/

theorem nameText_eq_ok_iff {m : String} : Outline.nameText e = .ok m ↔ e = .text (some m) := by
  rcases e with ⟨_ | content⟩ | failure <;> simp [Outline.nameText, Outline.required]

/-- What one entry does: it is skipped, or it fills a field that has not occurred yet. -/
theorem namedFields_cons_eq_ok_iff {result : List String × σ} :
    namedFields fields limit seen start ((e, o) :: entries) = .ok result ↔
      ∃ m, e = .text (some m) ∧
        ((fields.find? (·.name == m) = none ∧ o.skip = .ok () ∧
            namedFields fields limit seen start entries = .ok result) ∨
          ∃ f u, fields.find? (·.name == m) = some f ∧ m ∉ seen ∧ f.read limit o = .ok u ∧
            namedFields fields limit (m :: seen) (u start) entries = .ok result) := by
  simp only [← nameText_eq_ok_iff]
  rw [namedFields]
  cases Outline.nameText e with
  | error failure => simp [bind, Except.bind]
  | ok m =>
    cases hfind : fields.find? (·.name == m) with
    | none => cases o.skip <;> simp [bind, Except.bind, hfind, -List.find?_eq_none]
    | some f =>
      by_cases hseen : m ∈ seen
      · simp [bind, Except.bind, hfind, hseen, throw, throwThe, MonadExceptOf.throw,
          -List.find?_eq_none]
      · cases hread : f.read limit o <;>
          simp [bind, Except.bind, hfind, hseen, hread, -List.find?_eq_none]

/-! ### Updates -/

/-- What the fields of other names put into a record is the same before the update and after it. -/
def UpdatesApart (fields : List (RecordField σ)) (name : String) (update : σ → σ) : Prop :=
  ∀ f ∈ fields, f.name ≠ name → ∀ limit o u, f.read limit o = .ok u → ∀ r, u (update r) = update (u r)

theorem UpdatesApart.nil : UpdatesApart [] name update := fun _ hf => absurd hf List.not_mem_nil

theorem UpdatesApart.cons {presence : Presence} {name' : String} {d : Decoder α} {set : α → σ → σ}
    (head : name' ≠ name → ∀ a r, set a (update r) = update (set a r))
    (rest : UpdatesApart fields name update) :
    UpdatesApart (.of presence name' d set :: fields) name update := by
  intro f hf hname limit o u hu r
  rcases List.mem_cons.mp hf with rfl | hf
  · have hread : (d limit o).map set = .ok u := hu
    cases hd : d limit o with
    | error failure =>
      rw [hd] at hread
      cases hread
    | ok a =>
      rw [hd] at hread
      cases hread
      exact head hname a r
  · exact rest f hf hname limit o u hu r

/-- Entries of other names are read into an updated record as into the record itself. -/
theorem namedFields_update (happart : UpdatesApart fields name update)
    (hother : ∀ entry ∈ entries, entry.1 ≠ .text (some name))
    (hseen : ∀ m ≠ name, m ∈ seen' → m ∈ seen)
    (hread : namedFields fields limit seen start entries = .ok (names, final)) :
    ∃ names', namedFields fields limit seen' (update start) entries = .ok (names', update final) := by
  induction entries generalizing seen seen' start with
  | nil =>
    cases hread
    exact ⟨seen', rfl⟩
  | cons entry entries ih =>
    have hrest : ∀ entry ∈ entries, entry.1 ≠ .text (some name) :=
      fun entry h => hother entry (List.mem_cons_of_mem _ h)
    obtain ⟨m, hm, hcase⟩ := namedFields_cons_eq_ok_iff.mp hread
    have hne : m ≠ name := fun h => hother entry List.mem_cons_self (h ▸ hm)
    rcases hcase with ⟨hfind, hskip, hread⟩ | ⟨f, u, hfind, hnew, hu, hread⟩
    · obtain ⟨names', hnames'⟩ := ih hrest hseen hread
      exact ⟨names', namedFields_cons_eq_ok_iff.mpr ⟨m, hm, .inl ⟨hfind, hskip, hnames'⟩⟩⟩
    · have hfound : f.name = m := by simpa using List.find?_some hfind
      have hname : f.name ≠ name := hfound ▸ hne
      have hseen' : ∀ k ≠ name, k ∈ m :: seen' → k ∈ m :: seen := fun k hk hmem =>
        (List.mem_cons.mp hmem).elim (fun h => h ▸ List.mem_cons_self)
          fun h => List.mem_cons_of_mem m (hseen k hk h)
      obtain ⟨names', hnames'⟩ := ih hrest hseen' hread
      rw [← happart f (List.mem_of_find?_eq_some hfind) hname limit entry.2 u hu start] at hnames'
      exact ⟨names', namedFields_cons_eq_ok_iff.mpr
        ⟨m, hm, .inr ⟨f, u, hfind, mt (hseen m hne) hnew, hu, hnames'⟩⟩⟩

/-- The entry of a field among entries of other names updates the record that those fill. -/
theorem namedFields_insert (happart : UpdatesApart fields name update)
    (hother : ∀ entry ∈ before ++ after, entry.1 ≠ .text (some name)) (hseen : name ∉ seen)
    (hfind : fields.find? (·.name == name) = some f) (hupdate : f.read limit o = .ok update)
    (hread : namedFields fields limit seen start (before ++ after) = .ok (names, final)) :
    ∃ names', namedFields fields limit seen start (before ++ (.text (some name), o) :: after) =
      .ok (names', update final) := by
  induction before generalizing seen start with
  | nil =>
    have hlater : ∀ m ≠ name, m ∈ name :: seen → m ∈ seen :=
      fun m hm hmem => (List.mem_cons.mp hmem).resolve_left hm
    obtain ⟨names', hnames'⟩ := namedFields_update happart hother hlater hread
    exact ⟨names', namedFields_cons_eq_ok_iff.mpr
      ⟨name, rfl, .inr ⟨f, update, hfind, hseen, hupdate, hnames'⟩⟩⟩
  | cons entry before ih =>
    have hrest : ∀ entry ∈ before ++ after, entry.1 ≠ .text (some name) :=
      fun entry h => hother entry (List.mem_cons_of_mem _ h)
    obtain ⟨m, hm, hcase⟩ := namedFields_cons_eq_ok_iff.mp hread
    have hne : m ≠ name := fun h => hother entry List.mem_cons_self (h ▸ hm)
    rcases hcase with ⟨hfind, hskip, hread⟩ | ⟨g, u, hfind, hnew, hu, hread⟩
    · obtain ⟨names', hnames'⟩ := ih hrest hseen hread
      exact ⟨names', namedFields_cons_eq_ok_iff.mpr ⟨m, hm, .inl ⟨hfind, hskip, hnames'⟩⟩⟩
    · have hseen' : name ∉ m :: seen := fun h => (List.mem_cons.mp h).elim (fun h => hne h.symm) hseen
      obtain ⟨names', hnames'⟩ := ih hrest hseen' hread
      exact ⟨names', namedFields_cons_eq_ok_iff.mpr
        ⟨m, hm, .inr ⟨g, u, hfind, hnew, hu, hnames'⟩⟩⟩

/-! ### Whole records -/

/-- **One entry more.**  A record whose fields may all be left out is read from an object with one
entry more, of a name that no other entry has, as the record of the other entries with the update of
that one. -/
theorem record_insert {blank : σ} {tail : Option Failure}
    (happart : UpdatesApart fields name update)
    (hoptional : ∀ g ∈ fields, g.presence = .optional)
    (hother : ∀ entry ∈ before ++ after, entry.1 ≠ .text (some name))
    (hfind : fields.find? (·.name == name) = some f) (hupdate : f.read limit o = .ok update)
    (hread : Decoder.record fields blank (limit + 1) (.object (before ++ after) tail) = .ok final) :
    Decoder.record fields blank (limit + 1) (.object (before ++ (.text (some name), o) :: after) tail) =
      .ok (update final) := by
  have hall : ∀ names : List String,
      (fields.all fun f => f.presence != .always || names.contains f.name) = true := by
    intro names
    refine List.all_eq_true.mpr fun g hg => ?_
    rw [hoptional g hg]
    rfl
  simp only [Decoder.record, hall, if_true] at hread ⊢
  obtain ⟨⟨names, filled⟩, hnamed, hread⟩ := exists_of_bind_eq_ok hread
  obtain ⟨⟨⟩, htail, hread⟩ := exists_of_bind_eq_ok hread
  cases hread
  obtain ⟨names', hnames'⟩ :=
    namedFields_insert happart hother List.not_mem_nil hfind hupdate hnamed
  rw [hnames']
  simp only [bind, Except.bind, htail]
  rfl

end TableMapping.Decoder
