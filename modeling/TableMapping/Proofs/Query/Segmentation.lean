import Mathlib.Data.List.TakeWhile
import TableMapping.Query.Template

/-!
# Placeholders as leftmost greedy matches

A placeholder matches a text at its start if the text begins with it as it is written, and its name
is a non-empty run of name characters.  Several placeholders can match at one place: of those, the
greedy one takes the mark of a spread if any of them does, and then the longest name.  Going through
a text from the left and taking the greedy match wherever there is one cuts the text into pieces in
exactly one way, and the scan of a template finds that way.

## Main definitions

* `Placeholder.Matches` : a placeholder stands at the start of a text.
* `Placeholder.Greedy` : the match that is taken.
* `Template.Segmented` : a text is cut into pieces by its leftmost greedy matches.

## Main results

* `Placeholder.Greedy.unique` : at most one match is taken at one place.
* `Template.segmented_iff` : the pieces of the scan are the pieces of the leftmost greedy matches.
* `Template.flatMap_text_pieces` : the pieces as they are written are the text.
-/

namespace TableMapping

/-! ### Matches at one place -/

namespace Placeholder

/-- The characters of a placeholder after its colon. -/
def run (p : Placeholder) : List Char := if p.spread then spreadMark ++ p.name else p.name

theorem isNameChar_colon : isNameChar ':' = false := by decide

theorem text_eq (p : Placeholder) : p.text = ':' :: p.run := rfl

/-- The text `s` starts with the placeholder as it is written, and `rest` follows. -/
structure Matches (p : Placeholder) (s rest : List Char) : Prop where
  written : s = p.text ++ rest
  named : p.name ≠ []
  chars : ∀ c ∈ p.name, isNameChar c = true

/-- The match that is taken at the start of `s`: it is a spread if any match is, and among matches
with or without the mark of a spread it leaves the least behind. -/
structure Greedy (p : Placeholder) (s rest : List Char) : Prop extends Matches p s rest where
  spreads : ∀ q rest', Matches q s rest' → q.spread = true → p.spread = true
  longest : ∀ q rest', Matches q s rest' → q.spread = p.spread → rest.length ≤ rest'.length

theorem Matches.isNameChar_of_mem_run {p : Placeholder} {s rest : List Char}
    (h : p.Matches s rest) {c : Char} (hc : c ∈ p.run) : isNameChar c = true := by
  unfold run at hc
  split at hc
  · rcases List.mem_append.mp hc with hc | hc
    · simp only [spreadMark, List.mem_cons, List.not_mem_nil, or_false, or_self] at hc
      rw [hc]
      decide
    · exact h.chars c hc
  · exact h.chars c hc

theorem Matches.run_ne_nil {p : Placeholder} {s rest : List Char} (h : p.Matches s rest) :
    p.run ≠ [] := by
  unfold run
  split
  · exact List.append_ne_nil_of_left_ne_nil (by decide) _
  · exact h.named

/-- A match starts with a colon, and its characters are the first of the name characters after
it. -/
theorem Matches.takeWhile_eq {p : Placeholder} {c : Char} {s rest : List Char}
    (h : p.Matches (c :: s) rest) :
    c = ':' ∧ s = p.run ++ rest ∧ s.takeWhile isNameChar = p.run ++ rest.takeWhile isNameChar := by
  obtain ⟨hc, hs⟩ := List.cons.inj (h.written.trans (by rw [text_eq, List.cons_append]))
  refine ⟨hc, hs, ?_⟩
  rw [hs, List.takeWhile_append_of_pos fun c hc => h.isNameChar_of_mem_run hc]

/-- At most one match is taken at one place. -/
theorem Greedy.unique {p q : Placeholder} {s rest rest' : List Char} (hp : p.Greedy s rest)
    (hq : q.Greedy s rest') : p = q ∧ rest = rest' := by
  have hspread : p.spread = q.spread := by
    rw [Bool.eq_iff_iff]
    exact ⟨hq.spreads p rest hp.toMatches, hp.spreads q rest' hq.toMatches⟩
  have hlength : rest.length = rest'.length :=
    Nat.le_antisymm (hp.longest q rest' hq.toMatches hspread.symm)
      (hq.longest p rest hp.toMatches hspread)
  have hwritten : p.text ++ rest = q.text ++ rest' := hp.written.symm.trans hq.written
  obtain ⟨htext, hrest⟩ := List.append_inj' hwritten hlength
  have hname : p.name = q.name := by
    have hrun : p.run = q.run := List.tail_eq_of_cons_eq htext
    unfold run at hrun
    rw [hspread] at hrun
    split at hrun
    · exact List.append_cancel_left hrun
    · exact hrun
  refine ⟨?_, hrest⟩
  cases p
  cases q
  simp only at hspread hname
  rw [hspread, hname]

/-- A run of name characters reads as a placeholder that is written with just these characters. -/
theorem ofRun_eq_some {c : Char} {cs : List Char} (hall : ∀ d ∈ c :: cs, isNameChar d = true) :
    ∃ p, ofRun (c :: cs) = some p ∧ p.run = c :: cs ∧ p.name ≠ [] ∧
      (∀ d ∈ p.name, isNameChar d = true) ∧
      (p.spread = false → ∀ d ds, c :: cs ≠ spreadMark ++ d :: ds) := by
  unfold ofRun
  split
  case h_1 heq => exact absurd heq (List.cons_ne_nil c cs)
  case h_2 d ds heq =>
    refine ⟨⟨true, d :: ds⟩, rfl, heq.symm, List.cons_ne_nil d ds, ?_, by simp⟩
    intro e he
    exact hall e (heq ▸ List.mem_append_right spreadMark he)
  case h_3 d ds hspread heq =>
    refine ⟨⟨false, d :: ds⟩, rfl, heq.symm, List.cons_ne_nil d ds, ?_, ?_⟩
    · rw [← heq]
      exact hall
    · intro _ e es h
      obtain ⟨hd, hds⟩ := List.cons.inj (heq.symm.trans h)
      exact hspread e es hd hds

/-- Where name characters follow a colon, the placeholder of all of them is the greedy match. -/
theorem greedy_ofRun {s : List Char} (h : s.takeWhile isNameChar ≠ []) :
    ∃ p, ofRun (s.takeWhile isNameChar) = some p ∧
      p.Greedy (':' :: s) (s.dropWhile isNameChar) := by
  obtain ⟨c, cs, hrun⟩ := List.exists_cons_of_ne_nil h
  have hall : ∀ d ∈ c :: cs, isNameChar d = true := by
    rw [← hrun]
    exact fun d hd => List.mem_takeWhile_imp hd
  obtain ⟨p, hp, hprun, hnamed, hchars, hscalar⟩ := ofRun_eq_some hall
  have hsplit : s = p.run ++ s.dropWhile isNameChar := by
    rw [hprun, ← hrun, List.takeWhile_append_dropWhile]
  refine ⟨p, hrun ▸ hp, ⟨?_, hnamed, hchars⟩, ?_, ?_⟩
  · rw [text_eq, List.cons_append, ← hsplit]
  · intro q rest' hq hspread
    -- A spread elsewhere at this place puts its mark and a name character into the run.
    by_contra hp'
    obtain ⟨-, -, htake⟩ := hq.takeWhile_eq
    obtain ⟨d, ds, hname⟩ := List.exists_cons_of_ne_nil hq.named
    rw [hrun, run, if_pos hspread, hname, List.append_assoc, List.cons_append] at htake
    exact hscalar (by simpa using hp') _ _ htake
  · intro q rest' hq _
    obtain ⟨-, hs, htake⟩ := hq.takeWhile_eq
    have hlen := congrArg List.length hs
    have hlen' := congrArg List.length hsplit
    have hle : q.run.length ≤ p.run.length := by
      rw [hprun, ← hrun, htake, List.length_append]
      omega
    rw [List.length_append] at hlen hlen'
    omega

/-- Where no name character follows a colon, nothing matches. -/
theorem not_matches_of_takeWhile_eq_nil {s : List Char} (h : s.takeWhile isNameChar = [])
    (p : Placeholder) (rest : List Char) : ¬ p.Matches (':' :: s) rest := by
  intro hp
  obtain ⟨-, -, htake⟩ := hp.takeWhile_eq
  rw [h] at htake
  exact hp.run_ne_nil (List.append_eq_nil_iff.mp htake.symm).1

end Placeholder

/-! ### Cutting a text into pieces -/

namespace Template

/-- The text is cut into the pieces from the left: a placeholder wherever there is a match, namely
the greedy one, and a character elsewhere. -/
inductive Segmented : List Char → List Piece → Prop
  | nil : Segmented [] []
  | char {c : Char} {s : List Char} {ps : List Piece}
      (hnone : ∀ p rest, ¬ Placeholder.Matches p (c :: s) rest) (hs : Segmented s ps) :
      Segmented (c :: s) (.char c :: ps)
  | placeholder {p : Placeholder} {s rest : List Char} {ps : List Piece} (hp : p.Greedy s rest)
      (hrest : Segmented rest ps) : Segmented s (.placeholder p :: ps)

/-- A text is cut in one way only. -/
theorem Segmented.unique {s : List Char} {ps qs : List Piece} (hp : Segmented s ps)
    (hq : Segmented s qs) : ps = qs := by
  induction hp generalizing qs with
  | nil =>
    cases hq with
    | nil => rfl
    | placeholder hq _ => exact absurd hq.written (by simp [Placeholder.text_eq])
  | char hnone _ ih =>
    cases hq with
    | char _ hs => rw [ih hs]
    | placeholder hq _ => exact absurd hq.toMatches (hnone _ _)
  | placeholder hp _ ih =>
    cases hq with
    | nil => exact absurd hp.written (by simp [Placeholder.text_eq])
    | char hnone _ => exact absurd hp.toMatches (hnone _ _)
    | placeholder hq hrest =>
      obtain ⟨rfl, rfl⟩ := hp.unique hq
      rw [ih hrest]

/-- The pieces as they are written are the text. -/
theorem Segmented.flatMap_text {s : List Char} {ps : List Piece} (h : Segmented s ps) :
    ps.flatMap Piece.text = s := by
  induction h with
  | nil => rfl
  | char _ _ ih => rw [List.flatMap_cons, ih, Piece.text, List.singleton_append]
  | placeholder hp _ ih => rw [List.flatMap_cons, ih, Piece.text, hp.written]

/-! ### The scan -/

/-- The pieces of a text that is scanned after an open colon with some name characters, or after
none. -/
def piecesFrom (run : Option (List Char)) (s : List Char) : List Piece :=
  (s.foldl Scan.step ⟨[], run⟩).closed.reverse

/-- What a step finds comes on top of what was found before, which it does not look at. -/
theorem Scan.step_eq (found : List Piece) (run : Option (List Char)) (c : Char) :
    Scan.step ⟨found, run⟩ c =
      ⟨(Scan.step ⟨[], run⟩ c).found ++ found, (Scan.step ⟨[], run⟩ c).run⟩ := by
  cases run with
  | none => by_cases hc : c = ':' <;> simp [Scan.step, hc]
  | some run =>
    by_cases hname : Placeholder.isNameChar c
    · simp [Scan.step, hname]
    · by_cases hc : c = ':' <;>
        simp [Scan.step, Scan.closed, hname, hc, Placeholder.isNameChar_colon]

theorem foldl_step_eq (s : List Char) (found : List Piece) (run : Option (List Char)) :
    (s.foldl Scan.step ⟨found, run⟩).closed = (s.foldl Scan.step ⟨[], run⟩).closed ++ found := by
  induction s generalizing found run with
  | nil => cases run <;> rfl
  | cons c cs ih =>
    rw [List.foldl_cons, List.foldl_cons, Scan.step_eq, ih, ← List.append_assoc, ← ih]

/-- The pieces of a text are those of its first step and those of the scan after it. -/
theorem piecesFrom_cons (run : Option (List Char)) (c : Char) (s : List Char) :
    piecesFrom run (c :: s) = (Scan.step ⟨[], run⟩ c).found.reverse ++
      piecesFrom (Scan.step ⟨[], run⟩ c).run s := by
  rw [piecesFrom, List.foldl_cons, foldl_step_eq, List.reverse_append, piecesFrom]

theorem pieces_cons_of_ne {c : Char} (hc : c ≠ ':') (s : List Char) :
    pieces (c :: s) = .char c :: pieces s := by
  change piecesFrom none (c :: s) = _
  rw [piecesFrom_cons]
  simp only [Scan.step, hc, if_false]
  rfl

/-- After an open colon the scan takes all name characters that follow, and starts anew. -/
theorem piecesFrom_some (run s : List Char) :
    piecesFrom (some run) s =
      ofRun (run.reverse ++ s.takeWhile Placeholder.isNameChar) ::
        pieces (s.dropWhile Placeholder.isNameChar) := by
  induction s generalizing run with
  | nil => simp [piecesFrom, Scan.closed, pieces]
  | cons c cs ih =>
    rw [piecesFrom_cons]
    by_cases hname : Placeholder.isNameChar c
    · have hstep : Scan.step ⟨[], some run⟩ c = ⟨[], some (c :: run)⟩ := by
        simp [Scan.step, hname]
      rw [hstep, ih, List.takeWhile_cons_of_pos hname, List.dropWhile_cons_of_pos hname]
      simp
    · rw [List.takeWhile_cons_of_neg hname, List.dropWhile_cons_of_neg hname, List.append_nil]
      change _ = _ :: piecesFrom none (c :: cs)
      rw [piecesFrom_cons none]
      by_cases hc : c = ':' <;>
        simp [Scan.step, Scan.closed, hname, hc, Placeholder.isNameChar_colon]

theorem pieces_colon (s : List Char) :
    pieces (':' :: s) = ofRun (s.takeWhile Placeholder.isNameChar) ::
      pieces (s.dropWhile Placeholder.isNameChar) := by
  change piecesFrom none (':' :: s) = _
  rw [piecesFrom_cons]
  exact piecesFrom_some [] s

/-- The scan cuts a text by its leftmost greedy matches. -/
theorem segmented_pieces (s : List Char) : Segmented s (pieces s) := by
  induction hn : s.length using Nat.strong_induction_on generalizing s with
  | _ n ih =>
    subst hn
    cases s with
    | nil => exact .nil
    | cons c s =>
      by_cases hc : c = ':'
      · subst hc
        have hrest := ih (s.dropWhile Placeholder.isNameChar).length
          (Nat.lt_succ_of_le (List.dropWhile_suffix _).length_le) _ rfl
        rw [pieces_colon]
        by_cases hrun : s.takeWhile Placeholder.isNameChar = []
        · have hdrop : s.dropWhile Placeholder.isNameChar = s := by
            have h := List.takeWhile_append_dropWhile (p := Placeholder.isNameChar) (l := s)
            rwa [hrun, List.nil_append] at h
          rw [hdrop] at hrest ⊢
          rw [hrun]
          exact .char (Placeholder.not_matches_of_takeWhile_eq_nil hrun) hrest
        · obtain ⟨p, hp, hgreedy⟩ := Placeholder.greedy_ofRun hrun
          rw [ofRun, hp]
          exact .placeholder hgreedy hrest
      · rw [pieces_cons_of_ne hc]
        refine .char (fun p rest h => hc h.takeWhile_eq.1) (ih s.length ?_ s rfl)
        exact Nat.lt_succ_self _

/-- The pieces of the scan are the pieces of the leftmost greedy matches, and no others are. -/
theorem segmented_iff {s : List Char} {ps : List Piece} : Segmented s ps ↔ ps = pieces s := by
  constructor
  · exact fun h => h.unique (segmented_pieces s)
  · rintro rfl
    exact segmented_pieces s

theorem flatMap_text_pieces (s : List Char) : (pieces s).flatMap Piece.text = s :=
  (segmented_pieces s).flatMap_text

end Template

end TableMapping
