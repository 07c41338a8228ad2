import JsxTemplate.Proofs.Positions
import Mathlib.Data.List.Count

namespace JsxTemplate.Text

/-!
# Lines and columns are exact

The table of lines is made from the characters of a text and looked up for an offset. It is shown to
be the table of the line feeds among the bytes, in which every search finds the line of an offset,
and the positions that come out are told without it.

* `Lines.starts_eq` — the lines start at zero and after each byte that is a line feed.
* `Finds` — what a search in an ascending table may answer. `Lines.finds_starts_iff`: in the table
  of lines there is one answer, and it leads to the line of the offset.
* `feedsBefore`, `LineBefore` — the line feeds among the bytes before an offset, and the text after
  the last of them.
* `IsWidth` — a measure of texts in columns. Characters are such a measure, UTF-16 units another.
* `Locates` — a function gives the line and the column of each offset between characters.
* `Lines.positions_exact` — the positions for people and those for source maps are of this kind.
-/

/-! ### Bytes -/

/-- The bytes of a text are those of its characters in a row. -/
theorem toList_data_toByteArray (source : String) :
    source.toByteArray.data.toList = source.toList.flatMap String.utf8EncodeChar := by
  rw [← String.utf8Encode_toList, List.utf8Encode, List.toList_data_toByteArray]

/-- There are as many bytes as the characters take. -/
theorem length_flatMap_utf8EncodeChar (cs : List Char) :
    (cs.flatMap String.utf8EncodeChar).length = byteLength cs := by
  induction cs with
  | nil => rfl
  | cons c cs ih =>
    rw [List.flatMap_cons, List.length_append, String.length_utf8EncodeChar, ih, byteLength_cons]

/-- The length of a text in bytes. -/
theorem byteLength_toList (source : String) : byteLength source.toList = source.utf8ByteSize := by
  rw [← length_flatMap_utf8EncodeChar, ← toList_data_toByteArray, Array.length_toList]
  exact String.size_toByteArray

/-- The places of a text are the boundaries between its characters in UTF-8. -/
theorem placeIn_toList_iff {source : String} {n : Nat} :
    PlaceIn 0 source.toList n ↔ (String.Pos.Raw.mk n).IsValid source := by
  rw [String.Pos.Raw.isValid_iff_exists_append]
  constructor
  · rintro ⟨before, after, hsource, hn⟩
    refine ⟨String.ofList before, String.ofList after, ?_, ?_⟩
    · rw [← String.ofList_append, ← hsource, String.ofList_toList]
    · rw [String.Pos.Raw.ext_iff, ← hn, Nat.zero_add]
      show byteLength before = (String.ofList before).utf8ByteSize
      rw [← byteLength_toList, String.toList_ofList]
  · rintro ⟨before, after, rfl, hn⟩
    refine ⟨before.toList, after.toList, String.toList_append, ?_⟩
    rw [Nat.zero_add, byteLength_toList]
    exact (String.Pos.Raw.ext_iff.1 hn).symm

/-- The byte of a line feed is in the encoding of no other character: the others of ASCII are other
    bytes, and all bytes of the characters beyond are larger. -/
theorem ne_feed_of_mem_utf8EncodeChar {c : Char} {b : UInt8} (hc : c ≠ '\n')
    (hb : b ∈ String.utf8EncodeChar c) : b ≠ '\n'.toUInt8 := by
  have hval : c.val.toNat ≠ 10 := fun heq => hc (Char.toNat_inj.1 heq)
  suffices hten : b.toNat ≠ 10 from fun heq => hten (congrArg UInt8.toNat heq)
  unfold String.utf8EncodeChar at hb
  dsimp only at hb
  -- one case for each number of bytes; where there are several, all have their highest bit set
  split at hb <;> [skip; split at hb <;> [skip; split at hb]]
  all_goals
    simp only [List.mem_cons, List.not_mem_nil, or_false] at hb
    rcases hb with rfl | rfl | rfl | rfl
  all_goals
    rw [UInt8.toNat_ofNat']
    omega

/-- The lines that start in a text start after the line feeds among its bytes. -/
theorem startsAfterFeeds_eq_idxsOf (base : Nat) (cs : List Char) :
    startsAfterFeeds base cs =
      (cs.flatMap String.utf8EncodeChar).idxsOf '\n'.toUInt8 (base + 1) := by
  induction cs generalizing base with
  | nil => rfl
  | cons c cs ih =>
    rw [startsAfterFeeds, List.flatMap_cons, List.idxsOf_append, String.length_utf8EncodeChar,
      Nat.add_right_comm, ← ih]
    by_cases hc : c = '\n'
    · subst hc
      rfl
    · have hnone : (String.utf8EncodeChar c).idxsOf '\n'.toUInt8 (base + 1) = [] :=
        List.idxsOf_eq_nil_iff.2 fun b hb =>
          beq_eq_false_iff_ne.2 (ne_feed_of_mem_utf8EncodeChar hc hb)
      rw [hnone, List.nil_append]
      exact if_neg hc

/-- Line feeds are counted in bytes as in characters, since no other character has the byte of one.
    -/
theorem count_flatMap_utf8EncodeChar (cs : List Char) :
    (cs.flatMap String.utf8EncodeChar).count '\n'.toUInt8 = cs.count '\n' := by
  rw [← List.length_idxsOf (s := 1), ← startsAfterFeeds_eq_idxsOf 0, length_startsAfterFeeds]

/-- The number of line feeds among the first `n` bytes of a text. -/
def feedsBefore (source : String) (n : Nat) : Nat :=
  (source.toByteArray.data.toList.take n).count '\n'.toUInt8

/-- The line feeds before a place, counted in bytes. -/
theorem feedsBefore_eq {source : String} {before after : List Char}
    (h : source.toList = before ++ after) :
    feedsBefore source (byteLength before) = before.count '\n' := by
  rw [feedsBefore, toList_data_toByteArray, h, List.flatMap_append,
    List.take_left' (length_flatMap_utf8EncodeChar before), count_flatMap_utf8EncodeChar]

/-- `line` is what stands before offset `n` since the last line feed, or since the start. -/
def LineBefore (source : String) (n : Nat) (line : String) : Prop :=
  ∃ done rest, source = done ++ line ++ rest ∧ (done ++ line).utf8ByteSize = n ∧
    (done = "" ∨ ∃ lines, done = lines ++ "\n") ∧ '\n' ∉ line.toList

/-- The line before a place, up to that place. -/
theorem lineBefore_lastLine {source : String} {before after : List Char}
    (h : source.toList = before ++ after) :
    LineBefore source (byteLength before) (String.ofList (lastLine before)) := by
  obtain ⟨hline, done, hbefore, hdone⟩ := lastLine_spec before
  -- the finished lines and the last one are all that stands before the place
  have hjoin : String.ofList done ++ String.ofList (lastLine before) = String.ofList before := by
    rw [← String.ofList_append, ← hbefore]
  refine ⟨String.ofList done, String.ofList after, ?_, ?_, ?_, ?_⟩
  · rw [hjoin, ← String.ofList_append, ← h, String.ofList_toList]
  · rw [hjoin, ← byteLength_toList, String.toList_ofList]
  · refine hdone.imp (fun hnil => ?_) fun ⟨lines, hlines⟩ => ⟨String.ofList lines, ?_⟩
    · rw [hnil, String.ofList_nil]
    · rw [hlines, String.ofList_append]
  · rw [String.toList_ofList]
    exact hline

/-! ### Searching the table -/

/-- What a search for a number in an ascending table may answer: an index at which it stands, or, if
    it is missing, the index at which it could be inserted. -/
def Finds (table : List Nat) (n : Nat) : Except Nat Nat → Prop
  | .ok i => table[i]? = some n
  | .error i => i ≤ table.length ∧
      ∀ j m, table[j]? = some m → (j < i → m < n) ∧ (i ≤ j → n < m)

section

variable {table : List Nat} (h : table.Pairwise (· < ·)) {n : Nat}
include h

/-- The numbers up to `n` of an ascending table come first. -/
theorem le_iff_lt_length_takeWhile {i m : Nat} (hi : table[i]? = some m) :
    m ≤ n ↔ i < (table.takeWhile (· ≤ n)).length := by
  induction h generalizing i with
  | nil => simp at hi
  | @cons a rest hlow _ ih =>
    by_cases ha : a ≤ n
    · rw [List.takeWhile_cons_of_pos (by simpa using ha), List.length_cons]
      cases i with
      | zero =>
        obtain rfl : a = m := by simpa using hi
        omega
      | succ i => rw [ih hi, Nat.succ_lt_succ_iff]
    · -- the first number is too large, and no other is smaller
      have hle : a ≤ m := by
        rcases List.mem_cons.1 (List.mem_of_getElem? hi) with rfl | hmem
        · exact Nat.le_refl m
        · exact Nat.le_of_lt (hlow m hmem)
      rw [List.takeWhile_cons_of_neg (by simpa using ha), List.length_nil]
      omega

/-- If `n` stands in the table, it is the last of the numbers up to `n`. -/
theorem succ_eq_length_takeWhile {i : Nat} (hi : table[i]? = some n) :
    i + 1 = (table.takeWhile (· ≤ n)).length := by
  have hlt := (le_iff_lt_length_takeWhile h hi).1 (Nat.le_refl n)
  have hlength := (table.takeWhile_sublist (· ≤ n)).length_le
  by_contra hne
  -- else the next number would not be larger than `n`
  have hnext : i + 1 < table.length := by omega
  have hle := (le_iff_lt_length_takeWhile (n := n) h (List.getElem?_eq_getElem hnext)).2 (by omega)
  obtain ⟨hbound, hget⟩ := List.getElem?_eq_some_iff.1 hi
  have hlarger := List.pairwise_iff_getElem.1 h i (i + 1) hbound hnext (Nat.lt_succ_self i)
  omega

/-- If `n` is missing, it could be inserted after the numbers up to `n` only. -/
theorem eq_length_takeWhile {i : Nat} (hi : Finds table n (.error i)) :
    i = (table.takeWhile (· ≤ n)).length := by
  obtain ⟨hbound, hsides⟩ := hi
  have hlength := (table.takeWhile_sublist (· ≤ n)).length_le
  by_contra hne
  rcases Nat.lt_or_gt_of_ne hne with hlt | hlt
  · -- too few: the start at this index is still at or before the place
    have hget := List.getElem?_eq_getElem (show i < table.length by omega)
    have hle := (le_iff_lt_length_takeWhile h hget).2 hlt
    have := (hsides _ _ hget).2 (Nat.le_refl i)
    omega
  · -- too many: the start behind those at or before the place is not among them
    have hget := List.getElem?_eq_getElem (Nat.lt_of_lt_of_le hlt hbound)
    have hle := (le_iff_lt_length_takeWhile (n := n) h hget).1
    have := (hsides _ _ hget).1 hlt
    omega

/-- A search in an ascending table has one answer. -/
theorem finds_iff {answer : Except Nat Nat} :
    Finds table n answer ↔ answer = if n ∈ table then
      .ok ((table.takeWhile (· ≤ n)).length - 1) else .error (table.takeWhile (· ≤ n)).length := by
  by_cases hmem : n ∈ table
  · obtain ⟨k, hk⟩ := List.getElem?_of_mem hmem
    rw [if_pos hmem, ← succ_eq_length_takeWhile h hk, Nat.add_sub_cancel]
    constructor
    · cases answer with
      | ok i =>
        intro hi
        have hi := succ_eq_length_takeWhile h hi
        have hk := succ_eq_length_takeWhile h hk
        rw [show i = k by omega]
      | error i =>
        -- `n` itself would be on one of the sides of the index
        rintro ⟨-, hsides⟩
        have := hsides k n hk
        omega
    · rintro rfl
      exact hk
  · rw [if_neg hmem]
    constructor
    · cases answer with
      | ok i => exact fun hi => absurd (List.mem_of_getElem? hi) hmem
      | error i => exact fun hi => congrArg Except.error (eq_length_takeWhile h hi)
    · rintro rfl
      refine ⟨(table.takeWhile_sublist (· ≤ n)).length_le, fun j m hj => ?_⟩
      have hle := le_iff_lt_length_takeWhile (n := n) h hj
      have hne : m ≠ n := fun heq => hmem (heq ▸ List.mem_of_getElem? hj)
      omega

end

namespace Lines

/-- The table has the start of the text and the places after its line feeds. -/
theorem starts_eq (source : String) :
    (of source.toList).starts =
      0 :: source.toByteArray.data.toList.idxsOf '\n'.toUInt8 1 := by
  rw [toList_data_toByteArray, ← startsAfterFeeds_eq_idxsOf 0]
  rfl

/-- The starts of lines ascend. -/
theorem pairwise_starts (cs : List Char) : (of cs).starts.Pairwise (· < ·) := by
  refine .cons (fun _ hn => (bounds_of_mem_startsAfterFeeds hn).1) ?_
  rw [startsAfterFeeds_eq_idxsOf]
  exact List.pairwise_idxsOf

/-- Some line starts up to an offset, as the first one starts at zero. -/
theorem length_upTo (cs : List Char) (n : Nat) :
    ((of cs).upTo n).length = (of cs).lineOf n + 1 := by
  rw [lineOf, upTo, of, List.takeWhile_cons_of_pos (by simp), List.length_cons,
    Nat.add_sub_cancel]

/-- The line of a place starts where the table says. -/
theorem getElem?_lineOf (cs : List Char) (n : Nat) :
    (of cs).starts[(of cs).lineOf n]? = some ((of cs).startOf n) := by
  have hlength := length_upTo cs n
  have hlt : (of cs).lineOf n < ((of cs).upTo n).length := by omega
  -- the starts up to the place come first in the table
  have hsplit : (of cs).upTo n ++ (of cs).starts.dropWhile (· ≤ n) = (of cs).starts :=
    List.takeWhile_append_dropWhile
  have hlast : ((of cs).upTo n).getLast? = ((of cs).upTo n)[(of cs).lineOf n]? :=
    List.getLast?_eq_getElem?
  rw [← hsplit, List.getElem?_append_left hlt, startOf, hlast, List.getElem?_eq_getElem hlt]
  rfl

/-- A search for an offset in the table of lines leads to its line: it is found at the index of the
    line, or missing at the index after that. -/
theorem finds_starts_iff {cs : List Char} {n : Nat} {answer : Except Nat Nat} :
    Finds (of cs).starts n answer ↔ answer = if n ∈ (of cs).starts then
      .ok ((of cs).lineOf n) else .error ((of cs).lineOf n + 1) := by
  rw [finds_iff (pairwise_starts cs), ← length_upTo]
  rfl

end Lines

/-! ### Columns -/

/-- A measure of texts in columns. A character takes up at least one column, and at most as many as
    it has bytes. -/
structure IsWidth (size : List Char → Nat) : Prop where
  append : ∀ as bs, size (as ++ bs) = size as + size bs
  pos : ∀ c, 0 < size [c]
  le : ∀ c, size [c] ≤ c.utf8Size

/-- The UTF-16 units of a character: its number, or a pair of surrogates. -/
def units (c : Char) : List UInt16 :=
  if c.toNat < 0x10000 then [UInt16.ofNat c.toNat]
  else [UInt16.ofNat (0xD800 + (c.toNat - 0x10000) / 0x400),
    UInt16.ofNat (0xDC00 + (c.toNat - 0x10000) % 0x400)]

/-- A character takes as many units as are counted for it. -/
theorem length_units (c : Char) : (units c).length = unitSize c := by
  unfold units unitSize
  split <;> rfl

/-- So does a text. -/
theorem length_flatMap_units (cs : List Char) : (cs.flatMap units).length = unitLength cs := by
  induction cs with
  | nil => rfl
  | cons c cs ih => rw [List.flatMap_cons, List.length_append, length_units, ih, unitLength]

/-- The number of characters is a width. -/
theorem isWidth_length : IsWidth List.length where
  append _ _ := List.length_append
  pos _ := Nat.one_pos
  le c := c.utf8Size_pos

/-- So is the number of units. -/
theorem isWidth_unitLength : IsWidth unitLength where
  append := unitLength_append
  pos c := by
    show 0 < unitSize c + 0
    unfold unitSize
    split <;> omega
  le c := by
    show unitSize c + 0 ≤ c.utf8Size
    have hpos := c.utf8Size_pos
    unfold unitSize
    split
    next => exact hpos
    next hlarge =>
      -- a character with two units has four bytes
      have hfour : c.utf8Size = 4 := Char.utf8Size_eq_four_iff.2 (by
        rw [UInt32.lt_iff_toNat_lt]
        show 65535 < c.toNat
        omega)
      omega

namespace IsWidth

variable {size : List Char → Nat} (hsize : IsWidth size)
include hsize

/-- A text without characters has no width. -/
theorem nil : size [] = 0 := by
  have := hsize.append [] []
  rw [List.append_nil] at this
  omega

/-- The width of a text is that of its characters. -/
theorem cons (c : Char) (cs : List Char) : size (c :: cs) = size [c] + size cs :=
  hsize.append [c] cs

/-- A text with characters has a width. -/
theorem pos_of_ne_nil {cs : List Char} (h : cs ≠ []) : 0 < size cs := by
  cases cs with
  | nil => exact absurd rfl h
  | cons c cs =>
    rw [hsize.cons]
    exact Nat.add_pos_left (hsize.pos c) _

/-- There are at least as many bytes as the text is wide. -/
theorem le_byteLength (cs : List Char) : size cs ≤ byteLength cs := by
  induction cs with
  | nil => exact Nat.le_of_eq hsize.nil
  | cons c cs ih =>
    rw [hsize.cons, byteLength_cons]
    exact Nat.add_le_add (hsize.le c) ih

/-- Further on in a text there is a later line, or a later column of the same line. -/
theorem position_lt_append (base : Nat) (before : List Char) {middle : List Char}
    (h : middle ≠ []) :
    (⟨before.count '\n' + base, size (lastLine before) + base⟩ : Position) <
      ⟨(before ++ middle).count '\n' + base, size (lastLine (before ++ middle)) + base⟩ := by
  rw [Position.lt_iff, List.count_append]
  dsimp only
  by_cases hfeed : '\n' ∈ middle
  · -- with a line feed the line moves on
    have := List.count_pos_iff.2 hfeed
    omega
  · -- without one the column does
    have := hsize.pos_of_ne_nil h
    rw [List.count_eq_zero.2 hfeed, lastLine_append_of_not_mem hfeed, hsize.append]
    omega

/-- The line feeds of a text and the columns of its last line are not more than its bytes. -/
theorem count_add_le_byteLength (cs : List Char) :
    cs.count '\n' + size (lastLine cs) ≤ byteLength cs := by
  obtain ⟨hline, done, hcs, -⟩ := lastLine_spec cs
  have hcount : cs.count '\n' = done.count '\n' := by
    rw [hcs, List.count_append, List.count_eq_zero.2 hline, Nat.add_zero]
  have hbytes : byteLength cs = byteLength done + byteLength (lastLine cs) := by
    rw [← byteLength_append, ← hcs]
  have hdone : done.count '\n' ≤ byteLength done :=
    Nat.le_trans List.count_le_length (isWidth_length.le_byteLength done)
  have hlast := hsize.le_byteLength (lastLine cs)
  omega

end IsWidth

/-! ### Positions -/

/-- `find` gives the line and the column of the offsets of a text. Both are counted from `base` on,
    and columns by `size`. -/
structure Locates (source : String) (base : Nat) (size : List Char → Nat)
    (find : Nat → Option Position) : Prop where
  /-- There is an answer up to the end of the text, at the boundaries of characters. -/
  isSome_iff : ∀ n, (find n).isSome ↔ (String.Pos.Raw.mk n).IsValid source
  /-- The line is told by the line feeds before the offset, the column by the text since the last
      of them. -/
  eq_of_some : ∀ n p, find n = some p → ∃ line, LineBefore source n line ∧
    p = ⟨feedsBefore source n + base, size line.toList + base⟩
  /-- Larger offsets have later positions. -/
  lt_of_lt : ∀ m n p q, find m = some p → find n = some q → m < n → p < q
  /-- The numbers are no larger than the offset, so they fit where it fits. -/
  add_le : ∀ n p, find n = some p → p.line + p.column ≤ n + 2 * base

/-- It suffices to know the positions between two parts of a text, and that there are no others. -/
theorem locates_of_append {source : String} {base : Nat} {size : List Char → Nat}
    {find : Nat → Option Position} (hsize : IsWidth size)
    (hplace : ∀ n, (find n).isSome → PlaceIn 0 source.toList n)
    (hfind : ∀ before after, source.toList = before ++ after → find (byteLength before) =
      some ⟨before.count '\n' + base, size (lastLine before) + base⟩) :
    Locates source base size find := by
  -- an answer is given at a place, so it is the one for the text before that place
  have hsplit : ∀ n p, find n = some p → ∃ before after, source.toList = before ++ after ∧
      byteLength before = n ∧ p = ⟨before.count '\n' + base, size (lastLine before) + base⟩ := by
    intro n p hp
    obtain ⟨before, after, hsource, hn⟩ := hplace n (Option.isSome_of_eq_some hp)
    rw [Nat.zero_add] at hn
    have hq := hfind before after hsource
    rw [hn, hp, Option.some.injEq] at hq
    exact ⟨before, after, hsource, hn, hq⟩
  refine ⟨fun n => ?_, fun n p hp => ?_, fun m n p q hp hq hlt => ?_, fun n p hp => ?_⟩
  · rw [← placeIn_toList_iff]
    refine ⟨hplace n, fun ⟨before, after, hsource, hn⟩ => ?_⟩
    rw [← hn, Nat.zero_add, hfind before after hsource]
    rfl
  · obtain ⟨before, after, hsource, rfl, rfl⟩ := hsplit n p hp
    refine ⟨_, lineBefore_lastLine hsource, ?_⟩
    rw [feedsBefore_eq hsource, String.toList_ofList]
  · -- the later offset has the text before the earlier one before it, and more
    obtain ⟨before, middle, after, hsource, hm, hn⟩ :=
      (hplace m (Option.isSome_of_eq_some hp)).between (hplace n (Option.isSome_of_eq_some hq))
        (Nat.le_of_lt hlt)
    rw [Nat.zero_add] at hm
    have hmiddle : middle ≠ [] := by
      rintro rfl
      rw [byteLength_nil] at hn
      omega
    have hfirst := hfind before (middle ++ after) hsource
    have hsecond := hfind (before ++ middle) after (by rw [hsource, List.append_assoc])
    rw [hm, hp, Option.some.injEq] at hfirst
    rw [byteLength_append, hm, hn, hq, Option.some.injEq] at hsecond
    rw [hfirst, hsecond]
    exact hsize.position_lt_append base before hmiddle
  · obtain ⟨before, -, -, rfl, rfl⟩ := hsplit n p hp
    have := hsize.count_add_le_byteLength before
    dsimp only
    omega

/-- What is made of a text that is cut out is there at a place only. -/
theorem placeIn_of_isSome_bind {cs : List Char} {start stop : Nat}
    {f : List Char → Option Position} (h : (slice cs start stop >>= f).isSome) :
    PlaceIn 0 cs stop := by
  obtain ⟨p, hp⟩ := Option.isSome_iff_exists.1 h
  obtain ⟨line, hline, -⟩ := Option.bind_eq_some_iff.1 hp
  exact placeIn_of_slice hline

namespace Lines

/-- Warnings count lines and characters from one on. -/
theorem locates_location (source : String) :
    Locates source 1 List.length ((of source.toList).location source.toList) := by
  refine locates_of_append isWidth_length (fun n hn => placeIn_of_isSome_bind hn) ?_
  intro before after hsource
  rw [hsource]
  exact location_append before after

/-- Source maps count lines and units from zero on. -/
theorem locates_unitPosition (source : String) :
    Locates source 0 (fun cs => (cs.flatMap units).length)
      ((of source.toList).unitPosition source.toList) := by
  rw [show (fun cs => (cs.flatMap units).length) = unitLength from funext length_flatMap_units]
  refine locates_of_append isWidth_unitLength (fun n hn => placeIn_of_isSome_bind hn) ?_
  intro before after hsource
  obtain ⟨-, -, -, hposition⟩ := exists_line_start before
  rw [hsource, unitPosition_append, hposition]
  rfl

/-- **Lines and columns are exact.** The table of lines has the start of the text and the offsets
    after its line feeds. Every search of it for an offset leads to the same line, and to the start
    of that line. Offsets have a position exactly at the boundaries of
    characters, up to the end of the text. The line counts the line feeds among the bytes before the
    offset; the column counts, since the last of them, characters for people and UTF-16 units for
    source maps. Both kinds of positions ascend with the offset. -/
theorem positions_exact (source : String) :
    (of source.toList).starts = 0 :: source.toByteArray.data.toList.idxsOf '\n'.toUInt8 1 ∧
    (∀ n answer, Finds (of source.toList).starts n answer ↔ answer =
      if n ∈ (of source.toList).starts then .ok ((of source.toList).lineOf n)
      else .error ((of source.toList).lineOf n + 1)) ∧
    (∀ n, (of source.toList).starts[(of source.toList).lineOf n]? =
      some ((of source.toList).startOf n)) ∧
    Locates source 1 List.length ((of source.toList).location source.toList) ∧
    Locates source 0 (fun cs => (cs.flatMap units).length)
      ((of source.toList).unitPosition source.toList) :=
  ⟨starts_eq source, fun _ _ => finds_starts_iff, getElem?_lineOf source.toList,
    locates_location source, locates_unitPosition source⟩

/-- After a character of four bytes and two units, and within it. -/
example :
    let cs := "a\n😀b".toList
    (of cs).location cs 6 = some ⟨2, 2⟩ ∧ (of cs).unitPosition cs 6 = some ⟨1, 2⟩ ∧
      (of cs).location cs 4 = none ∧ (of cs).unitPosition cs 4 = none := by
  decide

end Lines

end JsxTemplate.Text
