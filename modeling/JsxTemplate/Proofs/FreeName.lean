import JsxTemplate.Helper
import Mathlib.Order.Bounds.Basic
import Mathlib.Order.Interval.Finset.Nat

namespace JsxTemplate

/-!
# The names of helpers are free, and the first of their kind

The search for a free name looks at the name itself, then at the name with 1, with 2 and so on after
it. The numbered names are all different and none of them is the name itself. So if the name is
taken, one of the first few numbered names is free, as few as there are names taken.

* `numbered_injective`, `numbered_ne` — different numbers make different names, and new ones.
* `exists_isLeast_numbered` — there is a first free number, and it is not larger than the number of
  names taken.
* `freeName_of_mem`, `freeName_not_mem` — the name that is found is the first one, and free.
* `searchFree` — the search as a loop with a counter of 32 bits. It can come to an end, run over the
  last value of its counter, or go on.
* `freeName_exact` — the loop comes to an end, at the first free name.
* `Bindings.mem_pending` — the helpers of the new import are those that are needed and not there.
* `Bindings.statement?_eq_none_iff` — there is a new import unless nothing is missing.
-/

variable {name : String} {taken : List String}

/-! ### Numbered names -/

/-- The number can be read off the end of the name. -/
theorem leftInverse_numbered (name : String) :
    Function.LeftInverse
      (fun text => Nat.ofDigitChars 10 (text.toList.drop name.toList.length) 0)
      (numbered name) := by
  intro k
  show Nat.ofDigitChars 10 ((name ++ toString k).toList.drop name.toList.length) 0 = k
  rw [String.toList_append, List.drop_left, Nat.toString_eq_repr, Nat.toList_repr]
  exact Nat.ofDigitChars_ten_toDigits

/-- Different numbers make different names. -/
theorem numbered_injective (name : String) : Function.Injective (numbered name) :=
  (leftInverse_numbered name).injective

/-- A number has at least one digit, so it changes the name. -/
theorem numbered_ne (name : String) (k : Nat) : numbered name k ≠ name := by
  intro heq
  have hlist : name.toList ++ Nat.toDigits 10 k = name.toList := by
    rw [← Nat.toList_repr, ← Nat.toString_eq_repr, ← String.toList_append]
    exact congrArg String.toList heq
  exact Nat.toDigits_ne_nil (List.append_right_eq_self.1 hlist)

/-- One more numbered name than a set has elements cannot all be in it. -/
theorem exists_numbered_not_mem (name : String) (names : Finset String) (k : Nat) :
    ∃ j, k ≤ j ∧ j ≤ k + names.card ∧ numbered name j ∉ names := by
  by_contra hall
  push Not at hall
  -- otherwise the names with these numbers would all be taken, and they are one too many
  have hsubset : (Finset.Icc k (k + names.card)).image (numbered name) ⊆ names := by
    intro candidate hmem
    obtain ⟨j, hj, rfl⟩ := Finset.mem_image.1 hmem
    rw [Finset.mem_Icc] at hj
    exact hall j hj.1 hj.2
  have hle := Finset.card_le_card hsubset
  rw [Finset.card_image_of_injective _ (numbered_injective name), Nat.card_Icc] at hle
  omega

/-- If the name is taken, there is a first free number. As the name is one of those taken, and no
    numbered one, the number is not larger than there are names taken. -/
theorem exists_isLeast_numbered (h : name ∈ taken) :
    ∃ k, IsLeast {j | 1 ≤ j ∧ numbered name j ∉ taken} k ∧ k ≤ taken.toFinset.card := by
  have hname : name ∈ taken.toFinset := List.mem_toFinset.2 h
  have hpos : 0 < taken.toFinset.card := Finset.card_pos.2 ⟨name, hname⟩
  -- the name itself is no numbered name, so one candidate less is enough
  obtain ⟨j, hlow, hhigh, hfree⟩ := exists_numbered_not_mem name (taken.toFinset.erase name) 1
  rw [Finset.mem_erase, List.mem_toFinset, not_and] at hfree
  rw [Finset.card_erase_of_mem hname] at hhigh
  have hj : 1 ≤ j ∧ numbered name j ∉ taken := ⟨hlow, hfree (numbered_ne name j)⟩
  have hex : ∃ i, 1 ≤ i ∧ numbered name i ∉ taken := ⟨j, hj⟩
  have hle : Nat.find hex ≤ j := Nat.find_min' hex hj
  exact ⟨Nat.find hex, ⟨Nat.find_spec hex, fun i hi => Nat.find_min' hex hi⟩, by omega⟩

/-- All numbers before the first free one are taken. -/
theorem numbered_mem_of_lt {j k : Nat} (h : IsLeast {j | 1 ≤ j ∧ numbered name j ∉ taken} k)
    (hpos : 1 ≤ j) (hlt : j < k) : numbered name j ∈ taken := by
  by_contra hfree
  have hle : k ≤ j := h.2 ⟨hpos, hfree⟩
  omega

/-! ### The first free name -/

/-- The search stops at the first free number, if that is among those that it looks at. -/
theorem firstFree_eq {few i k : Nat} (hlow : i ≤ k) (hhigh : k ≤ i + few)
    (htaken : ∀ j, i ≤ j → j < k → numbered name j ∈ taken) (hfree : numbered name k ∉ taken) :
    firstFree name taken few i = numbered name k := by
  induction few generalizing i with
  | zero =>
    have hk : k = i := by omega
    rw [firstFree, hk]
  | succ few ih =>
    rw [firstFree]
    split
    next hcontains =>
      -- the name at `i` is taken, so the free one comes later
      have hne : k ≠ i := by
        rintro rfl
        exact hfree (List.contains_iff_mem.1 hcontains)
      exact ih (by omega) (by omega) fun j hj => htaken j (by omega)
    next hnot =>
      have hk : k = i := by
        by_contra hne
        exact hnot (List.contains_iff_mem.2 (htaken i (Nat.le_refl i) (by omega)))
      rw [hk]

/-- A name that is not taken stays as it is. -/
theorem freeName_of_not_mem (h : name ∉ taken) : freeName name taken = name :=
  if_neg fun hcontains => h (List.contains_iff_mem.1 hcontains)

/-- A name that is taken gets the first number that makes it free. -/
theorem freeName_of_mem {k : Nat} (h : name ∈ taken)
    (hleast : IsLeast {j | 1 ≤ j ∧ numbered name j ∉ taken} k) (hk : k ≤ taken.toFinset.card) :
    freeName name taken = numbered name k := by
  have hcard : taken.toFinset.card ≤ taken.length := taken.toFinset_card_le
  rw [freeName, if_pos (List.contains_iff_mem.2 h)]
  exact firstFree_eq hleast.1.1 (by omega) (fun _ => numbered_mem_of_lt hleast) hleast.1.2

/-- **A free name is free.** -/
theorem freeName_not_mem (name : String) (taken : List String) : freeName name taken ∉ taken := by
  by_cases h : name ∈ taken
  · obtain ⟨k, hleast, hk⟩ := exists_isLeast_numbered h
    rw [freeName_of_mem h hleast hk]
    exact hleast.1.2
  · rw [freeName_of_not_mem h]
    exact h

/-- A free name is the name itself with digits after it, if with anything. -/
theorem exists_digits_freeName (name : String) (taken : List String) :
    ∃ digits : List Char, (freeName name taken).toList = name.toList ++ digits ∧
      ∀ c ∈ digits, c.isDigit = true := by
  by_cases h : name ∈ taken
  · obtain ⟨k, hleast, hk⟩ := exists_isLeast_numbered h
    refine ⟨Nat.toDigits 10 k, ?_, fun c => Nat.isDigit_of_mem_toDigits (by decide) (by decide)⟩
    rw [freeName_of_mem h hleast hk, numbered, String.toList_append, Nat.toString_eq_repr,
      Nat.toList_repr]
  · exact ⟨[], by rw [freeName_of_not_mem h, List.append_nil], by simp⟩

/-! ### The search as a loop -/

/-- Where a search is after some turns. -/
inductive Progress where
  /-- The name with this number is free. -/
  | found (k : UInt32)
  /-- The counter is at its last value, and the name with that is taken too. -/
  | overflow
  /-- The name with this number has to be looked at next. -/
  | next (k : UInt32)
  deriving DecidableEq, Repr

/-- The search after some turns, if it is at number `k`. A turn looks at one numbered name. -/
def searchFree (name : String) (taken : List String) : Nat → UInt32 → Progress
  | 0, k => .next k
  | turns + 1, k =>
    if taken.contains (numbered name k.toNat) then
      if k.toNat + 1 < 2 ^ 32 then searchFree name taken turns (k + 1) else .overflow
    else .found k

/-- The search comes to the first free number, if its counter can hold that. -/
theorem searchFree_eq_found {turns : Nat} {i k : UInt32} (hlow : i.toNat ≤ k.toNat)
    (hhigh : k.toNat < i.toNat + turns)
    (htaken : ∀ j, i.toNat ≤ j → j < k.toNat → numbered name j ∈ taken)
    (hfree : numbered name k.toNat ∉ taken) : searchFree name taken turns i = .found k := by
  induction turns generalizing i with
  | zero => omega
  | succ turns ih =>
    by_cases hk : i = k
    · -- this is the number
      rw [searchFree, hk]
      exact if_neg fun hcontains => hfree (List.contains_iff_mem.1 hcontains)
    · have hlt : i.toNat < k.toNat := by
        have hne : i.toNat ≠ k.toNat := fun heq => hk (UInt32.toNat_inj.1 heq)
        omega
      have hbound : i.toNat + 1 < 2 ^ 32 := by
        have := k.toNat_lt
        omega
      have hnext : (i + 1).toNat = i.toNat + 1 := by
        rw [UInt32.toNat_add]
        exact Nat.mod_eq_of_lt hbound
      have hmem : numbered name i.toNat ∈ taken := htaken _ (Nat.le_refl _) hlt
      rw [searchFree, if_pos (List.contains_iff_mem.2 hmem), if_pos hbound]
      exact ih (by omega) (by omega) fun j hj => htaken j (by omega)

/-- **The first free name.** The name that is found is not taken. It is the name itself if that is
    free, and else the name with the least number from 1 on that makes it free. A loop with a
    counter of 32 bits finds it, and looks at no more numbers than there are names taken: it neither
    runs over nor goes on. -/
theorem freeName_exact (name : String) (taken : List String)
    (hsize : taken.toFinset.card < 2 ^ 32) :
    freeName name taken ∉ taken ∧
    (name ∉ taken → freeName name taken = name) ∧
    (name ∈ taken → ∃ k : UInt32,
      freeName name taken = name ++ toString k.toNat ∧
      IsLeast {j | 1 ≤ j ∧ name ++ toString j ∉ taken} k.toNat ∧
      k.toNat ≤ taken.toFinset.card ∧
      ∀ turns, taken.toFinset.card ≤ turns → searchFree name taken turns 1 = .found k) := by
  refine ⟨freeName_not_mem name taken, freeName_of_not_mem, fun h => ?_⟩
  obtain ⟨k, hleast, hk⟩ := exists_isLeast_numbered h
  -- the counter is wide enough for the number that is looked for
  have hcounter : (UInt32.ofNat k).toNat = k :=
    UInt32.toNat_ofNat_of_lt' (Nat.lt_of_le_of_lt hk hsize)
  refine ⟨UInt32.ofNat k, ?_⟩
  rw [hcounter]
  refine ⟨freeName_of_mem h hleast hk, hleast, hk, fun turns hturns => ?_⟩
  apply searchFree_eq_found
  all_goals rw [hcounter]
  · exact hleast.1.1
  · show k < 1 + turns
    omega
  · exact fun _ => numbered_mem_of_lt hleast
  · exact hleast.1.2

/-- The first two numbered names are taken, one of them twice, and so is the fourth one. -/
theorem freeName_exact_third :
    ∃ taken, taken = ["html2", "x", "html", "html1", "html4", "html2"] ∧
      taken.toFinset.card = 5 ∧ "html" ∈ taken ∧ freeName "html" taken = "html3" ∧
      searchFree "html" taken 5 1 = .found 3 := by
  obtain ⟨taken, htaken⟩ :
      ∃ names, names = ["html2", "x", "html", "html1", "html4", "html2"] := ⟨_, rfl⟩
  have hcard : taken.toFinset.card = 5 := by rw [htaken]; decide
  have hmem : "html" ∈ taken := by rw [htaken]; decide
  obtain ⟨k, hname, hleast, -, hsearch⟩ :=
    (freeName_exact "html" taken (by rw [hcard]; decide)).2.2 hmem
  have hthird : IsLeast {j | 1 ≤ j ∧ "html" ++ toString j ∉ taken} 3 := by
    rw [htaken]
    refine ⟨⟨by decide, by decide⟩, fun j hj => ?_⟩
    by_contra hlt
    obtain rfl | rfl : j = 1 ∨ j = 2 := by have := hj.1; omega
    · exact hj.2 (by decide)
    · exact hj.2 (by decide)
  have hk : k = 3 := UInt32.toNat_inj.1 (hleast.unique hthird)
  rw [hk] at hname hsearch
  exact ⟨taken, htaken, hcard, hmem, hname, hsearch 5 (by rw [hcard])⟩

/-! ### The import of the helpers -/

/-- The list of all helpers is complete. -/
theorem Helper.mem_all (h : Helper) : h ∈ Helper.all := by
  cases h <;> decide

namespace Bindings

variable {bindings : Bindings} {needs : List Helper}

/-- The helpers of a new import are those that are needed and not imported. -/
theorem mem_pending {h : Helper} :
    h ∈ bindings.pending needs ↔ h ∈ needs ∧ (bindings.get h).isImported = false := by
  unfold pending
  rw [List.mem_filter, Bool.and_eq_true, List.contains_iff_mem, Bool.not_eq_true']
  exact and_iff_right h.mem_all

/-- There are none if all that are needed are imported. -/
theorem pending_eq_nil_iff :
    bindings.pending needs = [] ↔ ∀ h ∈ needs, (bindings.get h).isImported = true := by
  rw [List.eq_nil_iff_forall_not_mem]
  refine forall_congr' fun h => ?_
  rw [mem_pending, not_and, Bool.not_eq_false]

/-- Nothing is imported newly exactly if all needed helpers are there. -/
theorem statement?_eq_none_iff {package : String} :
    bindings.statement? package needs = none ↔
      ∀ h ∈ needs, (bindings.get h).isImported = true := by
  rw [← pending_eq_nil_iff]
  unfold statement?
  split
  next hnil => simp [hnil]
  next missing hne => simpa using hne

end Bindings

end JsxTemplate
