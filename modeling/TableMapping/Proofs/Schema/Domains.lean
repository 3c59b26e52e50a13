import Mathlib.Data.Finset.Card
import TableMapping.Proofs.Schema.Exactness

/-!
# Domains as sets

The domain of a live column and that of a declared one agree if both have as many members and every
declared one is live.  As sets they need not be the same then, because a list of members can repeat
one: a declared member that is repeated makes up for a live one that is not declared.  The two readings
come apart just where one side repeats its members more often than the other.

## Main definitions

* `Schema.repetitions` : how many entries of a list repeat another one.
* `Schema.SameDomain` : two lists of members are the same as sets.

## Main results

* `Schema.sameDomain_of_subset` : one inclusion, lengths and repetitions make two lists the same as sets.
* `Schema.members_agree_iff_sameDomain` : when the comparison of domains is that of sets.
-/

namespace TableMapping.Schema

variable {live declared : List String}

/-! ### Lists as sets -/

/-- The number of entries beyond the first of each kind. -/
def repetitions (members : List String) : Nat := members.length - members.dedup.length

/-- Two lists have the same members, in whatever order and however often. -/
def SameDomain (live declared : List String) : Prop := ∀ s, s ∈ live ↔ s ∈ declared

theorem length_eq_card_add_repetitions (members : List String) :
    members.length = members.toFinset.card + repetitions members := by
  have hle : members.dedup.length ≤ members.length := (List.dedup_sublist members).length_le
  rw [List.card_toFinset, repetitions]
  omega

theorem sameDomain_iff_toFinset_eq : SameDomain live declared ↔ live.toFinset = declared.toFinset := by
  simp only [SameDomain, Finset.ext_iff, List.mem_toFinset]

/-- Lists of one length that are the same as sets repeat their members equally often. -/
theorem repetitions_eq_of_sameDomain (h : SameDomain live declared)
    (hlength : live.length = declared.length) : repetitions live = repetitions declared := by
  rw [length_eq_card_add_repetitions live, length_eq_card_add_repetitions declared,
    sameDomain_iff_toFinset_eq.mp h] at hlength
  exact Nat.add_left_cancel hlength

theorem length_eq_of_sameDomain (h : SameDomain live declared)
    (hrepetitions : repetitions live = repetitions declared) : live.length = declared.length := by
  rw [length_eq_card_add_repetitions live, length_eq_card_add_repetitions declared,
    sameDomain_iff_toFinset_eq.mp h, hrepetitions]

/-- Lists of one length that repeat their members equally often are the same as sets if one is a part
of the other. -/
theorem sameDomain_of_subset (hsubset : declared ⊆ live) (hlength : live.length = declared.length)
    (hrepetitions : repetitions live = repetitions declared) : SameDomain live declared := by
  have hincl : declared.toFinset ⊆ live.toFinset := fun s hs =>
    List.mem_toFinset.mpr (hsubset (List.mem_toFinset.mp hs))
  have hcard : live.toFinset.card ≤ declared.toFinset.card := by
    rw [length_eq_card_add_repetitions live, length_eq_card_add_repetitions declared,
      hrepetitions] at hlength
    exact Nat.le_of_eq (Nat.add_right_cancel hlength)
  exact sameDomain_iff_toFinset_eq.mpr (Finset.eq_of_subset_of_card_le hincl hcard).symm

/-! ### The comparison of domains -/

variable {flavor : Flavor} {agree : Nullability} {e : Entity} {c : Column} {l : LiveColumn}
  {clause : Option (List Char)}

/-- What the comparison asks of two domains. -/
theorem differs_members_eq_false_iff (hlive : l.members = some live)
    (hdeclared : c.memberSpellings? = some declared) :
    differs flavor agree e c l clause .members = false ↔
      live.length = declared.length ∧ declared ⊆ live := by
  obtain ⟨members, hmembers, rfl⟩ := Option.map_eq_some_iff.mp hdeclared
  rw [differs, hlive, hmembers, Bool.not_eq_false', sameMembers, Bool.and_eq_true, beq_iff_eq,
    List.all_eq_true, List.length_map]
  simp only [List.contains_iff_mem]
  refine and_congr_right fun _ => ⟨fun hall s hs => ?_, fun hsubset m hm => ?_⟩
  · obtain ⟨m, hm, rfl⟩ := List.mem_map.mp hs
    exact hall m hm
  · exact hsubset (List.mem_map_of_mem hm)

/-- **When domains are compared as sets.**  A live and a declared domain that repeat their members
equally often, such as two without repetition, agree if and only if they are the same as sets.
Otherwise they never agree when they are the same as sets, and when they agree a live member is not
declared. -/
theorem members_agree_iff_sameDomain (flavor : Flavor) (agree : Nullability) (e : Entity)
    (clause : Option (List Char)) (hlive : l.members = some live)
    (hdeclared : c.memberSpellings? = some declared) :
    (repetitions live = repetitions declared →
      (differs flavor agree e c l clause .members = false ↔ SameDomain live declared)) ∧
    (repetitions live ≠ repetitions declared →
      (SameDomain live declared → differs flavor agree e c l clause .members = true) ∧
      (differs flavor agree e c l clause .members = false →
        declared ⊆ live ∧ ∃ s ∈ live, s ∉ declared)) := by
  rw [← Bool.not_eq_false, differs_members_eq_false_iff hlive hdeclared]
  refine ⟨fun hrepetitions => ⟨fun ⟨hlength, hsubset⟩ => ?_, fun hsame => ⟨?_, fun s => (hsame s).mpr⟩⟩,
    fun hrepetitions => ⟨fun hsame ⟨hlength, _⟩ => ?_, fun ⟨hlength, hsubset⟩ => ⟨hsubset, ?_⟩⟩⟩
  · exact sameDomain_of_subset hsubset hlength hrepetitions
  · exact length_eq_of_sameDomain hsame hrepetitions
  · exact hrepetitions (repetitions_eq_of_sameDomain hsame hlength)
  · by_contra hnone
    push Not at hnone
    exact hrepetitions
      (repetitions_eq_of_sameDomain (fun s => ⟨hnone s, fun hs => hsubset hs⟩) hlength)

/-- Two orders of a domain, each with a repeated member, agree. -/
theorem members_agree_iff_sameDomain_level :
    let c : Column :=
      { Column.new "level" (.dialect .enum) with
        members := some [.int 1, .text "high", .text "1"] }
    let l := { LiveColumn.new "level" "enum" with members := some ["high", "1", "high"] }
    let e := { Entity.new "games" with columns := [c] }
    c.memberSpellings? = some ["1", "high", "1"] ∧
      repetitions ["high", "1", "high"] = repetitions ["1", "high", "1"] ∧
      differs .mysql .strict e c l none .members = false := by
  intro c l e
  have hsame : SameDomain ["high", "1", "high"] ["1", "high", "1"] := by simp [SameDomain, or_comm]
  have hdeclared : c.memberSpellings? = some ["1", "high", "1"] := rfl
  have hrepetitions : repetitions ["high", "1", "high"] = repetitions ["1", "high", "1"] := by decide
  exact ⟨hdeclared, hrepetitions,
    ((members_agree_iff_sameDomain .mysql .strict e none rfl hdeclared).1 hrepetitions).mpr hsame⟩

/-- An integer and a text that are spelled alike hide a live member that is not declared, and show
drift where there is none. -/
theorem drift_members_spelled_alike :
    let c : Column :=
      { Column.new "level" (.dialect .enum) with members := some [.int 1, .text "1"] }
    let e := { Entity.new "games" with columns := [c] }
    let wider := { LiveColumn.new "level" "enum" with members := some ["1", "2"] }
    let same := { LiveColumn.new "level" "enum" with members := some ["1"] }
    c.memberSpellings? = some ["1", "1"] ∧
      (drift .mysql .strict e c wider = .ok none ∧ ¬ SameDomain ["1", "2"] ["1", "1"]) ∧
      (drift .mysql .strict e c same = .ok (some .members) ∧ SameDomain ["1"] ["1", "1"]) := by
  intro c e wider same
  refine ⟨rfl, ⟨rfl, fun hsame => ?_⟩, rfl, by simp [SameDomain]⟩
  have htwo : "2" ∈ ["1", "1"] := (hsame "2").mp (by decide)
  exact absurd htwo (by decide)

end TableMapping.Schema
