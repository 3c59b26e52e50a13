import Mathlib.Data.List.Nodup
import Mathlib.Tactic.SplitIfs
import TableMapping.Keyed

/-!
# Lists ordered by key

Binding a name changes what stands under that name and nothing else.  It keeps a list in order, and
appends the binding if the name is greater than all others.  So the pairs in order of their names
have the same names as the pairs given, come from them, and are the pairs given if those are in
order.

## Main results

* `Keyed.lookup_insert` : what stands under a name after a binding.
* `Keyed.lookup_eq_some_iff_mem`, `Keyed.find?_eq_some_iff_of_nodup` : distinct names.
* `Keyed.mem_keys_ofList` : the names.
* `Keyed.ascending_ofList`, `Keyed.mem_of_mem_ofList` : the pairs are in order, and come from those
  given.
* `Keyed.ofList_eq_self` : what is in order stays as it is.
-/

namespace TableMapping.Keyed

variable {α : Type}

/-! ### What stands under a name -/

theorem lookup_cons (k : String) (pair : String × α) (rest : List (String × α)) :
    (pair :: rest).lookup k = if k = pair.1 then some pair.2 else rest.lookup k := by
  rw [List.lookup_cons]
  by_cases h : k = pair.1
  · rw [beq_iff_eq.mpr h, if_pos h]
  · rw [beq_eq_false_iff_ne.mpr h, if_neg h]

/-- Binding a name changes what stands under that name, and nothing else. -/
theorem lookup_insert (key k : String) (value : α) (map : List (String × α)) :
    (insert key value map).lookup k = if k = key then some value else map.lookup k := by
  induction map with
  | nil => exact lookup_cons k (key, value) []
  | cons pair rest ih =>
    by_cases hlt : key < pair.1
    · rw [insert, if_pos hlt, lookup_cons]
    · by_cases heq : key = pair.1
      · rw [insert, if_neg hlt, if_pos heq, lookup_cons, lookup_cons, ← heq]
        split_ifs <;> rfl
      · rw [insert, if_neg hlt, if_neg heq, lookup_cons, lookup_cons, ih]
        by_cases hk : k = key
        · rw [if_pos hk, if_pos hk, if_neg fun h => heq (hk.symm.trans h)]
        · rw [if_neg hk, if_neg hk]

/-- Among distinct names, a value stands under a name if and only if the two are paired. -/
theorem lookup_eq_some_iff_mem {k : String} {value : α} {map : List (String × α)}
    (h : (map.map Prod.fst).Nodup) : map.lookup k = some value ↔ (k, value) ∈ map := by
  induction map with
  | nil => simp
  | cons pair rest ih =>
    rw [List.map_cons, List.nodup_cons] at h
    rw [lookup_cons, List.mem_cons, ← ih h.2]
    by_cases hk : k = pair.1
    · have hrest : rest.lookup k ≠ some value := by
        rw [ne_eq, ih h.2, hk]
        exact fun hmem => h.1 (List.mem_map.mpr ⟨_, hmem, rfl⟩)
      rw [if_pos hk, or_iff_left hrest, Option.some.injEq, Prod.ext_iff]
      exact ⟨fun heq => ⟨hk, heq.symm⟩, fun heq => heq.2.symm⟩
    · rw [if_neg hk, or_iff_right fun heq => hk (congrArg Prod.fst heq)]

/-! ### What has a name -/

/-- Among items with distinct names, the first one of a name is the one that has it. -/
theorem find?_eq_some_iff_of_nodup {name : α → String} {items : List α}
    (h : (items.map name).Nodup) {k : String} {a : α} :
    items.find? (name · == k) = some a ↔ a ∈ items ∧ name a = k := by
  constructor
  · intro hfound
    exact ⟨List.mem_of_find?_eq_some hfound, by simpa using List.find?_some hfound⟩
  · rintro ⟨hmem, rfl⟩
    obtain ⟨b, hb⟩ : ∃ b, items.find? (name · == name a) = some b :=
      Option.isSome_iff_exists.mp (List.find?_isSome.mpr ⟨a, hmem, beq_self_eq_true _⟩)
    have hname : name b = name a := by simpa using List.find?_some hb
    rw [hb, List.inj_on_of_nodup_map h (List.mem_of_find?_eq_some hb) hmem hname]

/-- The order of items with distinct names does not matter. -/
theorem find?_perm {name : α → String} {items items' : List α} (h : (items.map name).Nodup)
    (hperm : items.Perm items') (k : String) :
    items'.find? (name · == k) = items.find? (name · == k) := by
  have h' : (items'.map name).Nodup := (hperm.map name).nodup_iff.mp h
  refine Option.ext fun a => ?_
  rw [find?_eq_some_iff_of_nodup h, find?_eq_some_iff_of_nodup h', hperm.mem_iff]

/-! ### Names -/

theorem mem_keys_insert {key k : String} {value : α} {map : List (String × α)} :
    k ∈ (insert key value map).map Prod.fst ↔ k = key ∨ k ∈ map.map Prod.fst := by
  induction map with
  | nil => simp [insert]
  | cons pair rest ih =>
    rw [insert]
    split
    case isTrue => simp
    case isFalse =>
      split
      case isTrue h => simp [h]
      case isFalse =>
        rw [List.map_cons, List.mem_cons, ih, List.map_cons, List.mem_cons]
        exact or_left_comm

/-- A list ordered by names has the names that were put into it. -/
theorem mem_keys_ofList {k : String} {pairs : List (String × α)} :
    k ∈ (ofList pairs).map Prod.fst ↔ k ∈ pairs.map Prod.fst := by
  have hfold : ∀ map : List (String × α),
      k ∈ (pairs.foldl (fun map pair => insert pair.1 pair.2 map) map).map Prod.fst ↔
        k ∈ pairs.map Prod.fst ∨ k ∈ map.map Prod.fst := by
    induction pairs with
    | nil => simp
    | cons pair pairs ih =>
      intro map
      rw [List.foldl_cons, ih, mem_keys_insert, List.map_cons, List.mem_cons, or_assoc,
        or_left_comm]
  rw [ofList, hfold, List.map_nil]
  exact or_iff_left List.not_mem_nil

/-! ### Order -/

/-- A name greater than all others is bound at the end. -/
theorem insert_eq_append {key : String} (value : α) {pairs : List (String × α)}
    (h : ∀ pair ∈ pairs, pair.1 < key) : insert key value pairs = pairs ++ [(key, value)] := by
  induction pairs with
  | nil => rfl
  | cons pair rest ih =>
    have hlt := h pair List.mem_cons_self
    have hgt : ¬ key < pair.1 := String.lt_asymm hlt
    have hne : key ≠ pair.1 := by
      rintro rfl
      exact String.lt_irrefl _ hlt
    rw [insert, if_neg hgt, if_neg hne, ih fun p hp => h p (List.mem_cons_of_mem pair hp)]
    rfl

theorem foldl_insert_eq_append {pairs : List (String × α)} (h : Ascending pairs)
    {earlier : List (String × α)} (hlt : ∀ a ∈ earlier, ∀ b ∈ pairs, a.1 < b.1) :
    pairs.foldl (fun map pair => insert pair.1 pair.2 map) earlier = earlier ++ pairs := by
  induction pairs generalizing earlier with
  | nil => exact (List.append_nil earlier).symm
  | cons pair rest ih =>
    have hearlier : ∀ a ∈ earlier ++ [pair], ∀ b ∈ rest, a.1 < b.1 := by
      intro a ha b hb
      rcases List.mem_append.mp ha with ha | ha
      · exact hlt a ha b (List.mem_cons_of_mem pair hb)
      · rw [List.mem_singleton.mp ha]
        exact h.1 b hb
    rw [List.foldl_cons, insert_eq_append _ fun a ha => hlt a ha pair List.mem_cons_self,
      ih h.2 hearlier, List.append_assoc, List.singleton_append]

/-- What is in order stays as it is. -/
theorem ofList_eq_self {pairs : List (String × α)} (h : Ascending pairs) : ofList pairs = pairs :=
  foldl_insert_eq_append h fun _ ha => absurd ha List.not_mem_nil

theorem mem_insert {key : String} {value : α} {pairs : List (String × α)} {pair : String × α}
    (h : pair ∈ insert key value pairs) : pair = (key, value) ∨ pair ∈ pairs := by
  induction pairs with
  | nil => exact .inl (List.mem_singleton.mp h)
  | cons first rest ih =>
    rw [insert] at h
    split_ifs at h with hlt heq
    · exact List.mem_cons.mp h
    · exact (List.mem_cons.mp h).imp_right (List.mem_cons_of_mem first)
    · rcases List.mem_cons.mp h with rfl | h
      · exact .inr List.mem_cons_self
      · exact (ih h).imp_right (List.mem_cons_of_mem first)

/-- Binding a name keeps the order. -/
theorem ascending_insert (key : String) (value : α) {pairs : List (String × α)}
    (h : Ascending pairs) : Ascending (insert key value pairs) := by
  induction pairs with
  | nil => exact ⟨fun _ hp => absurd hp List.not_mem_nil, trivial⟩
  | cons first rest ih =>
    rw [insert]
    split_ifs with hlt heq
    · refine ⟨fun pair hp => ?_, h⟩
      rcases List.mem_cons.mp hp with rfl | hp
      · exact hlt
      · exact String.lt_trans hlt (h.1 pair hp)
    · exact ⟨fun pair hp => heq ▸ h.1 pair hp, h.2⟩
    · refine ⟨fun pair hp => ?_, ih h.2⟩
      rcases mem_insert hp with rfl | hp
      · exact Decidable.byContradiction fun hge =>
          heq (String.le_antisymm (String.not_lt.mp hge) (String.not_lt.mp hlt))
      · exact h.1 pair hp

theorem ascending_ofList (pairs : List (String × α)) : Ascending (ofList pairs) :=
  List.foldlRecOn pairs _ trivial fun _ h pair _ => ascending_insert pair.1 pair.2 h

theorem pairwise_keys {pairs : List (String × α)} (h : Ascending pairs) :
    (pairs.map Prod.fst).Pairwise (· < ·) := by
  induction pairs with
  | nil => exact List.Pairwise.nil
  | cons pair rest ih =>
    refine List.pairwise_cons.mpr ⟨fun key hkey => ?_, ih h.2⟩
    obtain ⟨other, hother, rfl⟩ := List.mem_map.mp hkey
    exact h.1 other hother

theorem mem_of_mem_ofList {pairs : List (String × α)} {pair : String × α}
    (h : pair ∈ ofList pairs) : pair ∈ pairs := by
  have hmem : ∀ p ∈ ofList pairs, p ∈ pairs := by
    refine List.foldlRecOn (motive := fun map => ∀ p ∈ map, p ∈ pairs) pairs _ ?_ ?_
    · intro p hp
      exact absurd hp List.not_mem_nil
    · intro map hmap bound hbound p hp
      rcases mem_insert hp with rfl | hp
      · exact hbound
      · exact hmap p hp
  exact hmem pair h

end TableMapping.Keyed
