import JsxTemplate.Output.Layout
import JsxTemplate.Proofs.Places
import Mathlib.Data.List.Induction

namespace JsxTemplate.Text

/-!
# Positions along a text

A position can be found in two ways: by looking an offset up in the table of lines, or by reading
the text from its start. Both give the same.

* `p ≤ q`, `p < q` — the order of positions, line by line.
* `Position.after` — the position after reading on: laws for texts in a row, and for a text without
  a line feed.
* `Lines.unitPosition_append` — the table of lines gives the position after the text before an
  offset.
* `Lines.location_append` — counted from one, it gives the number of line feeds before the offset
  and the length of the `lastLine` before it.
-/

/-! ### Reading on -/

namespace Position

/-- The position at the start of a text. -/
def origin : Position := ⟨0, 0⟩

instance : LE Position := ⟨fun p q => p.line < q.line ∨ p.line = q.line ∧ p.column ≤ q.column⟩

instance (p q : Position) : Decidable (p ≤ q) :=
  inferInstanceAs (Decidable (p.line < q.line ∨ p.line = q.line ∧ p.column ≤ q.column))

/-- Positions are ordered by line and then by column. -/
theorem le_iff {p q : Position} :
    p ≤ q ↔ p.line < q.line ∨ p.line = q.line ∧ p.column ≤ q.column := Iff.rfl

instance : LT Position := ⟨fun p q => p.line < q.line ∨ p.line = q.line ∧ p.column < q.column⟩

theorem lt_iff {p q : Position} :
    p < q ↔ p.line < q.line ∨ p.line = q.line ∧ p.column < q.column := Iff.rfl

/-- A position comes not after itself. -/
theorem le_refl (p : Position) : p ≤ p := .inr ⟨rfl, Nat.le_refl _⟩

/-- The order is transitive. -/
theorem le_trans {p q r : Position} (hpq : p ≤ q) (hqr : q ≤ r) : p ≤ r := by
  rw [le_iff] at *
  omega

@[simp] theorem after_nil (p : Position) : p.after [] = p := rfl

/-- Characters are passed one by one. -/
theorem after_cons (p : Position) (c : Char) (cs : List Char) :
    p.after (c :: cs) = (p.after [c]).after cs := rfl

/-- Two texts are passed one after the other. -/
theorem after_append (p : Position) (as bs : List Char) :
    p.after (as ++ bs) = (p.after as).after bs :=
  List.foldl_append

/-- A line feed leads to the start of the next line. -/
theorem after_feed (p : Position) : p.after ['\n'] = ⟨p.line + 1, 0⟩ := rfl

/-- Any other character leads on in the same line, by its number of units. -/
theorem after_singleton {c : Char} (p : Position) (h : c ≠ '\n') :
    p.after [c] = ⟨p.line, p.column + unitSize c⟩ :=
  if_neg h

/-- Within a line, only the column grows. -/
theorem after_of_not_mem {cs : List Char} (p : Position) (h : '\n' ∉ cs) :
    p.after cs = ⟨p.line, p.column + unitLength cs⟩ := by
  induction cs generalizing p with
  | nil => rfl
  | cons c cs ih =>
    have hc : c ≠ '\n' := fun heq => h (by simp [heq])
    have hcs : '\n' ∉ cs := fun hmem => h (by simp [hmem])
    rw [after_cons, after_singleton p hc, ih _ hcs, unitLength, Nat.add_assoc]

/-- Passing a text never leads back. -/
theorem le_after (p : Position) (cs : List Char) : p ≤ p.after cs := by
  induction cs generalizing p with
  | nil => exact le_refl p
  | cons c cs ih =>
    refine le_trans ?_ (ih (p.after [c]))
    -- a line feed leads to the next line, any other character further in this one
    by_cases hc : c = '\n'
    · rw [hc, after_feed]
      exact .inl (Nat.lt_succ_self _)
    · rw [after_singleton p hc]
      exact .inr ⟨rfl, Nat.le_add_right _ _⟩

/-- Each character takes the position further. -/
theorem not_after_singleton_le (p : Position) (c : Char) : ¬ p.after [c] ≤ p := by
  by_cases hc : c = '\n'
  · rw [hc, after_feed, le_iff]
    dsimp only
    omega
  · have hsize : 0 < unitSize c := by
      unfold unitSize
      split <;> omega
    rw [after_singleton p hc, le_iff]
    dsimp only
    omega

end Position

/-! ### The table of lines -/

/-- The units of two texts in a row are those of both. -/
theorem unitLength_append (as bs : List Char) :
    unitLength (as ++ bs) = unitLength as + unitLength bs := by
  induction as with
  | nil => exact (Nat.zero_add _).symm
  | cons c cs ih => rw [List.cons_append, unitLength, unitLength, ih, Nat.add_assoc]

/-- The lines of two texts in a row start where those of either do. -/
theorem startsAfterFeeds_append (base : Nat) (as bs : List Char) :
    startsAfterFeeds base (as ++ bs) =
      startsAfterFeeds base as ++ startsAfterFeeds (base + byteLength as) bs := by
  induction as generalizing base with
  | nil => rfl
  | cons c cs ih =>
    rw [List.cons_append, startsAfterFeeds, startsAfterFeeds, byteLength_cons, ← Nat.add_assoc]
    split
    · rw [ih, List.cons_append]
    · exact ih _

/-- A line that starts in a text starts after its first offset, and not after its end. -/
theorem bounds_of_mem_startsAfterFeeds {base n : Nat} {cs : List Char}
    (h : n ∈ startsAfterFeeds base cs) : base < n ∧ n ≤ base + byteLength cs := by
  induction cs generalizing base with
  | nil => simp [startsAfterFeeds] at h
  | cons c cs ih =>
    have hc := c.utf8Size_pos
    rw [byteLength_cons]
    simp only [startsAfterFeeds] at h
    split at h
    · rcases List.mem_cons.1 h with rfl | hmem
      · omega
      · have := ih hmem; omega
    · have := ih h; omega

/-- There is one start after each line feed. -/
theorem length_startsAfterFeeds (base : Nat) (cs : List Char) :
    (startsAfterFeeds base cs).length = cs.count '\n' := by
  induction cs generalizing base with
  | nil => rfl
  | cons c cs ih =>
    rw [startsAfterFeeds, List.count_cons]
    by_cases hc : c = '\n'
    · simp [hc, ih]
    · simp [hc, ih]

/-- The part of a text after its last line feed. -/
def lastLine (cs : List Char) : List Char := (cs.reverse.takeWhile (· != '\n')).reverse

/-- After a line feed, the last line is empty. -/
theorem lastLine_append_feed (cs : List Char) : lastLine (cs ++ ['\n']) = [] := by
  simp [lastLine]

/-- Any other character is added to the last line. -/
theorem lastLine_append_singleton {c : Char} (cs : List Char) (h : c ≠ '\n') :
    lastLine (cs ++ [c]) = lastLine cs ++ [c] := by
  simp [lastLine, h]

/-- So is a text without a line feed. -/
theorem lastLine_append_of_not_mem {as bs : List Char} (h : '\n' ∉ bs) :
    lastLine (as ++ bs) = lastLine as ++ bs := by
  have hall : ∀ c ∈ bs.reverse, (c != '\n') = true := by
    intro c hc
    rw [bne_iff_ne]
    rintro rfl
    exact h (List.mem_reverse.1 hc)
  rw [lastLine, List.reverse_append, List.takeWhile_append_of_pos hall, List.reverse_append,
    List.reverse_reverse, lastLine]

/-- The last line of a text has no line feed, and starts after one or with the text. -/
theorem lastLine_spec (cs : List Char) :
    '\n' ∉ lastLine cs ∧
      ∃ done, cs = done ++ lastLine cs ∧ (done = [] ∨ ∃ lines, done = lines ++ ['\n']) := by
  -- from the end: a line feed ends the last line, any other character prolongs it
  induction cs using List.reverseRecOn with
  | nil => exact ⟨by simp [lastLine], [], rfl, .inl rfl⟩
  | append_singleton cs c ih =>
    by_cases hc : c = '\n'
    · rw [hc, lastLine_append_feed]
      exact ⟨List.not_mem_nil, cs ++ ['\n'], (List.append_nil _).symm, .inr ⟨cs, rfl⟩⟩
    · obtain ⟨hline, done, hcs, hdone⟩ := ih
      rw [lastLine_append_singleton cs hc]
      refine ⟨?_, done, by rw [← List.append_assoc, ← hcs], hdone⟩
      rw [List.mem_append, List.mem_singleton]
      rintro (hmem | hfeed)
      · exact hline hmem
      · exact hc hfeed.symm

/-- A text that can be cut out ends at a place. -/
theorem placeIn_of_slice {cs middle : List Char} {start stop : Nat}
    (h : slice cs start stop = some middle) : PlaceIn 0 cs stop := by
  obtain ⟨_, hguard, h⟩ := Option.bind_eq_some_iff.1 h
  obtain ⟨⟨before, after⟩, hbefore, h⟩ := Option.bind_eq_some_iff.1 h
  obtain ⟨⟨mid, rest⟩, hmid, -⟩ := Option.bind_eq_some_iff.1 h
  obtain ⟨rfl, hstart⟩ := cut_eq_some_iff.1 hbefore
  obtain ⟨rfl, hlength⟩ := cut_eq_some_iff.1 hmid
  -- the guard of the slice holds, else nothing would have been cut
  have hle : start ≤ stop := by
    by_contra hlt
    rw [guard, if_neg hlt] at hguard
    cases hguard
  exact ⟨before ++ mid, rest, (List.append_assoc ..).symm, by rw [byteLength_append]; omega⟩

namespace Lines

/-- The lines that start up to an offset are those that start in the text before it. -/
theorem upTo_append (before after : List Char) :
    (of (before ++ after)).upTo (byteLength before) = 0 :: startsAfterFeeds 0 before := by
  have hbefore : ∀ n ∈ 0 :: startsAfterFeeds 0 before, decide (n ≤ byteLength before) = true := by
    intro n hn
    rcases List.mem_cons.1 hn with rfl | hn
    · simp
    · have := bounds_of_mem_startsAfterFeeds hn
      simp only [decide_eq_true_eq]
      omega
  unfold upTo of
  rw [startsAfterFeeds_append, ← List.cons_append, List.takeWhile_append_of_pos hbefore,
    Nat.zero_add]
  -- the next line starts after the offset, so the search stops
  cases hnext : startsAfterFeeds (byteLength before) after with
  | nil => simp
  | cons n rest =>
    have hn := bounds_of_mem_startsAfterFeeds (hnext ▸ List.mem_cons_self (a := n) (l := rest))
    rw [List.takeWhile_cons_of_neg (by simp; omega), List.append_nil]

/-- The text before an offset is the lines before its own, and the start of that one: the table
    knows where it starts, and reading gives its number and the column. -/
theorem exists_line_start (before : List Char) :
    ∃ done, before = done ++ lastLine before ∧
      (0 :: startsAfterFeeds 0 before).getLast? = some (byteLength done) ∧
      Position.origin.after before = ⟨before.count '\n', unitLength (lastLine before)⟩ := by
  induction before using List.reverseRecOn with
  | nil => exact ⟨[], rfl, rfl, rfl⟩
  | append_singleton cs c ih =>
    obtain ⟨done, hcs, hlast, hposition⟩ := ih
    rw [Position.after_append, hposition, startsAfterFeeds_append, Nat.zero_add]
    by_cases hc : c = '\n'
    · -- a new line starts
      subst hc
      have hstarts : startsAfterFeeds (byteLength cs) ['\n'] = [byteLength (cs ++ ['\n'])] := by
        rw [byteLength_append]
        rfl
      refine ⟨cs ++ ['\n'], by rw [lastLine_append_feed, List.append_nil], ?_, ?_⟩
      · rw [hstarts, ← List.cons_append, List.getLast?_concat]
      · rw [lastLine_append_feed, List.count_append, Position.after_feed]
        rfl
    · -- the line goes on
      have hstarts : startsAfterFeeds (byteLength cs) [c] = [] := if_neg hc
      have hcount : (cs ++ [c]).count '\n' = cs.count '\n' := by
        rw [List.count_append, List.count_singleton, if_neg (by simpa using hc), Nat.add_zero]
      refine ⟨done, ?_, ?_, ?_⟩
      · rw [lastLine_append_singleton cs hc, ← List.append_assoc, ← hcs]
      · rw [hstarts, List.append_nil, hlast]
      · rw [Position.after_singleton _ hc, lastLine_append_singleton cs hc, hcount,
          unitLength_append]
        rfl

/-- The line of a place has as many line feeds before it as the text up to there. -/
theorem lineOf_append (before after : List Char) :
    (of (before ++ after)).lineOf (byteLength before) = before.count '\n' := by
  rw [lineOf, upTo_append, List.length_cons, length_startsAfterFeeds, Nat.add_sub_cancel]

/-- The table of lines gives the part of its line before an offset. -/
theorem slice_startOf_append (before after : List Char) :
    slice (before ++ after) ((of (before ++ after)).startOf (byteLength before))
      (byteLength before) = some (lastLine before) := by
  obtain ⟨done, hbefore, hlast, -⟩ := exists_line_start before
  have hstart : (of (before ++ after)).startOf (byteLength before) = byteLength done := by
    rw [startOf, upTo_append, hlast]
    rfl
  have hslice := slice_append done (lastLine before) after
  rw [← List.append_assoc, ← hbefore, ← byteLength_append, ← hbefore] at hslice
  rw [hstart]
  exact hslice

/-- **Two ways to a position.** What the table of lines gives for an offset is the position after
    reading the text before it. -/
theorem unitPosition_append (before after : List Char) :
    (of (before ++ after)).unitPosition (before ++ after) (byteLength before) =
      some (Position.origin.after before) := by
  obtain ⟨-, -, -, hposition⟩ := exists_line_start before
  rw [unitPosition, slice_startOf_append, lineOf_append, hposition]
  rfl

/-- As people count, an offset is on the line after the line feeds before it, in the column after
    the characters since the last of them. -/
theorem location_append (before after : List Char) :
    (of (before ++ after)).location (before ++ after) (byteLength before) =
      some ⟨before.count '\n' + 1, (lastLine before).length + 1⟩ := by
  rw [location, slice_startOf_append, lineOf_append]
  rfl

/-- Only places of a text have a line and a column. -/
theorem location_eq_some_iff {cs : List Char} {n : Nat} {p : Position} :
    (of cs).location cs n = some p ↔
      ∃ before after, cs = before ++ after ∧ byteLength before = n ∧
        p = ⟨before.count '\n' + 1, (lastLine before).length + 1⟩ := by
  constructor
  · intro h
    -- a position is only given at a place of the text
    have hplace : PlaceIn 0 cs n := by
      obtain ⟨line, hline, -⟩ := Option.bind_eq_some_iff.1 h
      exact placeIn_of_slice hline
    obtain ⟨before, after, rfl, hn⟩ := hplace
    rw [Nat.zero_add] at hn
    subst hn
    rw [location_append, Option.some.injEq] at h
    exact ⟨before, after, rfl, rfl, h.symm⟩
  · rintro ⟨before, after, rfl, rfl, rfl⟩
    exact location_append before after

end Lines

end JsxTemplate.Text
