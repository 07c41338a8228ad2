import JsxTemplate.Text.Offsets

namespace JsxTemplate.Text

/-!
# Places of a text

An offset is a place of a text if it lies between two of its characters or at one of its ends.

* `PlaceIn base cs n` — offset `n` is a place of `cs`, where `cs` starts at offset `base`.
* `cut_eq_some_iff`, `isSome_cut_iff` — cutting succeeds at places only, and gives the two sides.
* `slice_append`, `replace_append` — slicing and replacing between two places.
* `Lines.exists_location` — each place has a line and a column.
-/

variable {cs as bs : List Char} {base n m : Nat}

/-- Only the empty text has no bytes. -/
theorem byteLength_eq_zero : byteLength cs = 0 ↔ cs = [] := by
  cases cs with
  | nil => simp
  | cons c cs =>
    have hc := c.utf8Size_pos
    constructor
    · intro h; rw [byteLength_cons] at h; omega
    · intro h; exact absurd h (by simp)

/-- Offset `n` is a place of `cs`, which starts at offset `base`. -/
def PlaceIn (base : Nat) (cs : List Char) (n : Nat) : Prop :=
  ∃ before after, cs = before ++ after ∧ base + byteLength before = n

/-- The start of a text is a place of it. -/
theorem PlaceIn.start : PlaceIn base cs base := ⟨[], cs, rfl, rfl⟩

/-- A place after the first part of a text is a place of the second. -/
theorem PlaceIn.of_append (h : PlaceIn base (as ++ bs) n) (hle : base + byteLength as ≤ n) :
    PlaceIn (base + byteLength as) bs n := by
  obtain ⟨before, after, heq, hn⟩ := h
  rcases List.append_eq_append_iff.1 heq with ⟨mid, rfl, rfl⟩ | ⟨mid, rfl, rfl⟩
  · refine ⟨mid, after, rfl, ?_⟩
    rw [byteLength_append] at hn
    omega
  · -- the place is not before the cut, so nothing lies between the two
    rw [byteLength_append] at hle
    have hmid : mid = [] := byteLength_eq_zero.1 (by omega)
    subst hmid
    exact ⟨[], bs, by simp, by simpa using hn⟩

/-- A place of a text that is not past its first part is a place of that part. -/
theorem PlaceIn.of_append_left (h : PlaceIn base (as ++ bs) n) (hle : n ≤ base + byteLength as) :
    PlaceIn base as n := by
  obtain ⟨before, after, heq, hn⟩ := h
  rcases List.append_eq_append_iff.1 heq with ⟨mid, rfl, rfl⟩ | ⟨mid, rfl, rfl⟩
  · rw [byteLength_append] at hn
    have hmid : mid = [] := byteLength_eq_zero.1 (by omega)
    subst hmid
    exact ⟨as, [], by simp, by simpa using hn⟩
  · exact ⟨before, mid, rfl, hn⟩

/-- Two places in order cut a text in three. -/
theorem PlaceIn.between (hn : PlaceIn base cs n) (hm : PlaceIn base cs m) (h : n ≤ m) :
    ∃ before middle after, cs = before ++ (middle ++ after) ∧ base + byteLength before = n ∧
      n + byteLength middle = m := by
  obtain ⟨before, rest, rfl, rfl⟩ := hn
  obtain ⟨middle, after, rfl, hmid⟩ := hm.of_append h
  exact ⟨before, middle, after, rfl, rfl, hmid⟩

/-! ### Cutting, slicing and replacing -/

/-- Cutting gives the two sides of a place. -/
theorem cut_eq_some_iff : cut cs n = some (as, bs) ↔ cs = as ++ bs ∧ byteLength as = n := by
  induction cs generalizing n as bs with
  | nil =>
    cases n with
    | zero => simp only [cut, byteLength_eq_zero, Option.some.injEq, Prod.mk.injEq]; grind
    | succ n =>
      simp only [cut, List.nil_eq, List.append_eq_nil_iff]
      grind [byteLength_nil]
  | cons c cs ih =>
    cases n with
    | zero => simp only [cut, byteLength_eq_zero, Option.some.injEq, Prod.mk.injEq]; grind
    | succ n =>
      have hc := c.utf8Size_pos
      rw [cut]
      cases as with
      | nil => split <;> simp
      | cons a as =>
        simp only [List.cons_append, List.cons.injEq, byteLength_cons]
        -- a character either fits into what is left of the offset, or straddles it
        split
        · rw [Option.map_eq_some_iff]
          constructor
          · rintro ⟨⟨as', bs'⟩, hcut, hpair⟩
            obtain ⟨rfl, hlen⟩ := ih.1 hcut
            obtain ⟨hcons, rfl⟩ := Prod.mk.inj hpair
            obtain ⟨rfl, rfl⟩ : c = a ∧ as' = as := List.cons.inj hcons
            exact ⟨⟨rfl, rfl⟩, by omega⟩
          · rintro ⟨⟨rfl, rfl⟩, hlen⟩
            exact ⟨(as, bs), ih.2 ⟨rfl, by omega⟩, rfl⟩
        · constructor
          · intro h; cases h
          · rintro ⟨⟨rfl, rfl⟩, hlen⟩; omega

/-- A text is cut where two parts of it meet. -/
theorem cut_append (as bs : List Char) : cut (as ++ bs) (byteLength as) = some (as, bs) :=
  cut_eq_some_iff.2 ⟨rfl, rfl⟩

/-- Cutting succeeds at the places of a text only. -/
theorem isSome_cut_iff : (cut cs n).isSome ↔ PlaceIn 0 cs n := by
  rw [Option.isSome_iff_exists]
  constructor
  · rintro ⟨⟨as, bs⟩, h⟩
    obtain ⟨rfl, rfl⟩ := cut_eq_some_iff.1 h
    exact ⟨as, bs, rfl, Nat.zero_add _⟩
  · rintro ⟨as, bs, rfl, rfl⟩
    exact ⟨(as, bs), by rw [Nat.zero_add]; exact cut_append as bs⟩

/-- A condition that holds lets the computation go on. -/
theorem guard_eq_some {p : Prop} [Decidable p] (h : p) : (guard p : Option Unit) = some () :=
  if_pos h

/-- The text between two places that are given by the texts around it. -/
theorem slice_append (as ms bs : List Char) :
    slice (as ++ (ms ++ bs)) (byteLength as) (byteLength as + byteLength ms) = some ms := by
  unfold slice
  rw [cut_append, guard_eq_some (Nat.le_add_right _ _)]
  simp [cut_append]

/-- Replacing what stands between two places that are given by the texts around it. -/
theorem replace_append (as ms bs new : List Char) :
    replace (as ++ (ms ++ bs)) (byteLength as) (byteLength as + byteLength ms) new =
      some (as ++ (new ++ bs)) := by
  unfold replace
  rw [cut_append, guard_eq_some (Nat.le_add_right _ _)]
  simp [cut_append]

/-! ### Lines -/

/-- Each line starts at a place. -/
theorem placeIn_of_mem_startsAfterFeeds (h : n ∈ startsAfterFeeds base cs) :
    PlaceIn base cs n := by
  induction cs generalizing base with
  | nil => simp [startsAfterFeeds] at h
  | cons c cs ih =>
    -- all later starts are behind this character
    have later : n ∈ startsAfterFeeds (base + c.utf8Size) cs → PlaceIn base (c :: cs) n := by
      intro hmem
      obtain ⟨before, after, rfl, hn⟩ := ih hmem
      exact ⟨c :: before, after, rfl, by rw [byteLength_cons]; omega⟩
    simp only [startsAfterFeeds] at h
    split at h
    · rcases List.mem_cons.1 h with rfl | hmem
      · exact ⟨[c], cs, rfl, by simp⟩
      · exact later hmem
    · exact later h

namespace Lines

/-- The line of an offset starts at a place that is not past the offset. -/
theorem startOf_spec (cs : List Char) (n : Nat) :
    PlaceIn 0 cs ((of cs).startOf n) ∧ (of cs).startOf n ≤ n := by
  unfold startOf upTo
  -- the first line starts at zero, so the list of candidates is not empty
  cases hlast : ((of cs).starts.takeWhile (· ≤ n)).getLast? with
  | none =>
    rw [List.getLast?_eq_none_iff] at hlast
    simp [of] at hlast
  | some start =>
    have hmem := List.mem_of_getLast? hlast
    have hle : start ≤ n := by
      simpa using List.all_eq_true.1 (List.all_takeWhile (p := (· ≤ n))) start hmem
    refine ⟨?_, hle⟩
    rcases List.mem_cons.1 ((List.takeWhile_sublist _).subset hmem) with rfl | hstart
    · exact PlaceIn.start
    · exact placeIn_of_mem_startsAfterFeeds hstart

/-- The part of its line before a place can be read. -/
theorem exists_slice_startOf (h : PlaceIn 0 cs n) :
    ∃ before, slice cs ((of cs).startOf n) n = some before := by
  obtain ⟨hplace, hle⟩ := startOf_spec cs n
  obtain ⟨as, ms, bs, rfl, has, hms⟩ := hplace.between h hle
  have hslice := slice_append as ms bs
  rw [Nat.zero_add] at has
  rw [has, hms] at hslice
  exact ⟨ms, hslice⟩

/-- Each place has a line and a column as people count them. -/
theorem exists_location (h : PlaceIn 0 cs n) :
    ∃ position, (of cs).location cs n = some position := by
  obtain ⟨before, hb⟩ := exists_slice_startOf h
  exact ⟨_, by rw [location, hb]; rfl⟩

end Lines

end JsxTemplate.Text
