import JsxTemplate.Text.Escapes
import Mathlib.Data.List.Forall2
import Mathlib.Data.Nat.Digits.Defs

namespace JsxTemplate.Text

/-!
# What a character reference stands for

The body of a reference, between the ampersand and the semicolon, is a name of the table or a number
after a hash. The rules for it are stated here without the reader, and the reader is compared with
them.

* `Writes base ds n` — the digits `ds` write the number `n`.
* `Numeric sign body text` — a number with `sign` before its digits, which is that of a character.
* `WellFormed body text` — a name of the table, or a number without a sign.
* `isAlphanum_of_entity?` — the names of the table are made of letters and digits.
* `reference?_eq_some_iff` — the reader knows the well-formed references, and numbers with a plus
  sign.
-/

/-! ### Names -/

/-- Digits and letters of ASCII by their numbers. -/
theorem isAlphanum_iff {c : Char} : c.isAlphanum = true ↔
    (48 ≤ c.toNat ∧ c.toNat ≤ 57) ∨ (65 ≤ c.toNat ∧ c.toNat ≤ 90) ∨
      (97 ≤ c.toNat ∧ c.toNat ≤ 122) := by
  show (decide (c.val ≥ 'A'.val ∧ c.val ≤ 'Z'.val) ||
    decide (c.val ≥ 'a'.val) && decide (c.val ≤ 'z'.val) ||
    decide (c.val ≥ '0'.val) && decide (c.val ≤ '9'.val)) = true ↔ _
  simp only [Bool.or_eq_true, Bool.and_eq_true, decide_eq_true_eq, ge_iff_le]
  show (65 ≤ c.toNat ∧ c.toNat ≤ 90 ∨ 97 ≤ c.toNat ∧ c.toNat ≤ 122) ∨
    48 ≤ c.toNat ∧ c.toNat ≤ 57 ↔ _
  omega

/-- The bytes of the letters and digits of ASCII. -/
def isAlphanumByte (b : UInt8) : Bool :=
  let n := b.toNat
  (48 ≤ n && n ≤ 57) || (65 ≤ n && n ≤ 90) || (97 ≤ n && n ≤ 122)

/-- A character is a letter or a digit if all of its bytes are those of letters and digits. -/
theorem isAlphanum_of_bytes {c : Char}
    (h : (String.utf8EncodeChar c).all isAlphanumByte = true) : c.isAlphanum = true := by
  have hval : c.val.toNat = c.toNat := rfl
  rw [isAlphanum_iff]
  unfold String.utf8EncodeChar at h
  rw [hval] at h
  dsimp only at h
  split at h
  next hascii =>
    simp [isAlphanumByte, Nat.mod_eq_of_lt (show c.toNat < 256 by omega)] at h
    omega
  next =>
    -- beyond ASCII the first byte is at least 192
    exfalso
    split at h <;> [skip; split at h]
    all_goals
      simp [isAlphanumByte] at h
      omega

/-- Whether the names in a part of the table are spelled in bytes of letters and digits. -/
def spelledInBytes (names : List (String × List Nat)) : Bool :=
  names.all fun row => row.1.toByteArray.data.toList.all isAlphanumByte

/-- Two tables in a row are spelled in bytes if both are. -/
theorem spelledInBytes_append (names rest : List (String × List Nat)) :
    spelledInBytes (names ++ rest) = (spelledInBytes names && spelledInBytes rest) :=
  List.all_append

/-- The names that start with a capital are spelled so. -/
theorem spelledInBytes_upper : spelledInBytes upperEntities = true := by decide +kernel

/-- So are those that start with a letter from `a` to `l`. -/
theorem spelledInBytes_lower : spelledInBytes lowerEntities = true := by decide +kernel

/-- So are those that start with a letter from `m` to `z`. -/
theorem spelledInBytes_late : spelledInBytes lateEntities = true := by decide +kernel

/-- The names in such a table have digits and letters only. -/
theorem isAlphanum_of_spelledInBytes {names : List (String × List Nat)}
    (h : spelledInBytes names = true) {row : String × List Nat} (hrow : row ∈ names) :
    ∀ c ∈ row.1.toList, c.isAlphanum = true := by
  intro c hc
  have hbytes := List.all_eq_true.1 h row hrow
  rw [← String.ofList_toList (s := row.1), String.toByteArray_ofList, List.utf8Encode,
    List.toList_data_toByteArray, List.all_flatMap, List.all_eq_true] at hbytes
  exact isAlphanum_of_bytes (hbytes c hc)

/-- A name of the table is made of letters and digits. -/
theorem isAlphanum_of_entity? {name text : List Char} (h : entity? name = some text) :
    ∀ c ∈ name, c.isAlphanum = true := by
  obtain ⟨points, hlookup, -⟩ := Option.map_eq_some_iff.1 h
  obtain ⟨before, after, htable, -⟩ := List.lookup_eq_some_iff.1 hlookup
  have hrow : (String.ofList name, points) ∈ upperEntities ++ lowerEntities ++ lateEntities := by
    rw [htable]
    simp
  -- the table is checked in three pieces, each of them by evaluation
  have hspelled : spelledInBytes (upperEntities ++ lowerEntities ++ lateEntities) = true := by
    rw [spelledInBytes_append, spelledInBytes_append, spelledInBytes_upper, spelledInBytes_lower,
      spelledInBytes_late]
    rfl
  have hname := isAlphanum_of_spelledInBytes hspelled hrow
  rwa [String.toList_ofList] at hname

/-- A text with another character in it is no name of the table. -/
theorem entity?_eq_none {name : List Char} {c : Char} (hmem : c ∈ name)
    (hc : c.isAlphanum = false) : entity? name = none := by
  refine Option.eq_none_iff_forall_ne_some.2 fun text h => ?_
  exact Bool.false_ne_true (hc.symm.trans (isAlphanum_of_entity? h c hmem))

/-! ### Digits -/

/-- A digit of a base and its value; letters count in both cases. -/
def IsDigit (base : Nat) (d : Char) (value : Nat) : Prop :=
  value < base ∧ d.toLower = Nat.digitChar value

/-- One or more digits write a number in a base, the first of them counting most. -/
def Writes (base : Nat) (ds : List Char) (n : Nat) : Prop :=
  ds ≠ [] ∧ ∃ values, List.Forall₂ (IsDigit base) ds values ∧ Nat.ofDigits base values.reverse = n

/-- The small letter of a capital is 32 after it. -/
theorem toNat_toLower (c : Char) :
    c.toLower.toNat = if 65 ≤ c.toNat ∧ c.toNat ≤ 90 then c.toNat + 32 else c.toNat := by
  have hupper : (c.val ≥ 'A'.val ∧ c.val ≤ 'Z'.val) ↔ 65 ≤ c.toNat ∧ c.toNat ≤ 90 := Iff.rfl
  unfold Char.toLower
  by_cases h : 65 ≤ c.toNat ∧ c.toNat ≤ 90
  · rw [dif_pos (hupper.2 h), if_pos h]
    have hle : c.val.toNat ≤ 90 := h.2
    -- the sum stays below the bound of 32 bits, so nothing wraps around
    show (c.val + 32).toNat = c.val.toNat + 32
    rw [UInt32.toNat_add]
    exact Nat.mod_eq_of_lt (show c.val.toNat + 32 < 2 ^ 32 by omega)
  · rw [dif_neg (fun hc => h (hupper.1 hc)), if_neg h]

/-- The numbers of the digits up to f. -/
theorem toNat_digitChar {v : Nat} (h : v < 16) :
    (Nat.digitChar v).toNat = if v < 10 then v + 48 else v + 87 := by
  revert v
  decide

/-- The reader of a digit, in terms of code points. -/
theorem digit?_eq_some_iff_toNat {base : Nat} {c : Char} {v : Nat} :
    digit? base c = some v ↔ v < base ∧
      (if 48 ≤ c.toNat ∧ c.toNat ≤ 57 then c.toNat - 48
        else if 97 ≤ c.toNat ∧ c.toNat ≤ 102 then c.toNat - 87
        else if 65 ≤ c.toNat ∧ c.toNat ≤ 70 then c.toNat - 55
        else base) = v := by
  have hle : ∀ {a b : Char}, a ≤ b ↔ a.toNat ≤ b.toNat := Iff.rfl
  unfold digit?
  simp only [Bool.and_eq_true, decide_eq_true_eq, hle, Option.ite_none_right_eq_some,
    Option.some.injEq]
  constructor
  · rintro ⟨hlt, rfl⟩
    exact ⟨hlt, rfl⟩
  · rintro ⟨hlt, rfl⟩
    exact ⟨hlt, rfl⟩

/-- A digit is read for what it is written as. -/
theorem digit?_eq_some_iff {base : Nat} (hbase : base ≤ 16) {c : Char} {v : Nat} :
    digit? base c = some v ↔ IsDigit base c v := by
  rw [digit?_eq_some_iff_toNat, IsDigit]
  refine and_congr_right fun hlt => ?_
  rw [← Char.toNat_inj, toNat_toLower, toNat_digitChar (Nat.lt_of_lt_of_le hlt hbase)]
  grind

/-- The reader of digits adds them to the number before them one by one. -/
theorem digits?_eq_some_iff {base : Nat} (hbase : base ≤ 16) {ds : List Char} {m n : Nat} :
    digits? base m ds = some n ↔ ∃ values, List.Forall₂ (IsDigit base) ds values ∧
      values.foldl (fun m v => m * base + v) m = n := by
  -- the value read so far is generalized: it is what the digits are folded onto
  induction ds generalizing m with
  | nil => simp [digits?, List.forall₂_nil_left_iff]
  | cons d ds ih =>
    have hstep : digits? base m (d :: ds) = some n ↔
        ∃ v, digit? base d = some v ∧ digits? base (m * base + v) ds = some n :=
      Option.bind_eq_some_iff
    rw [hstep]
    constructor
    · rintro ⟨v, hv, hds⟩
      obtain ⟨values, hvalues, hfold⟩ := ih.1 hds
      exact ⟨v :: values, .cons ((digit?_eq_some_iff hbase).1 hv) hvalues, hfold⟩
    · rintro ⟨_, hvalues, hfold⟩
      cases hvalues with
      | cons hv hvalues =>
        exact ⟨_, (digit?_eq_some_iff hbase).2 hv, ih.2 ⟨_, hvalues, hfold⟩⟩

/-- Digits are read from the left. -/
theorem ofDigits_reverse (base : Nat) (values : List Nat) :
    Nat.ofDigits base values.reverse = values.foldl (fun m v => m * base + v) 0 := by
  rw [Nat.ofDigits_eq_foldr, List.foldr_reverse]
  congr 1
  funext m v
  rw [Nat.cast_id, Nat.mul_comm, Nat.add_comm]

/-- A row of digits writes the number that is read from it. -/
theorem writes_iff_digits? {base : Nat} (hbase : base ≤ 16) {ds : List Char} {n : Nat} :
    Writes base ds n ↔ ds ≠ [] ∧ digits? base 0 ds = some n := by
  simp only [Writes, digits?_eq_some_iff hbase, ofDigits_reverse]

/-- A digit in a base up to sixteen is a digit or a letter. -/
theorem IsDigit.isAlphanum {base : Nat} (hbase : base ≤ 16) {d : Char} {v : Nat}
    (h : IsDigit base d v) : d.isAlphanum = true := by
  obtain ⟨hlt, hvalue⟩ := digit?_eq_some_iff_toNat.1 ((digit?_eq_some_iff hbase).2 h)
  rw [isAlphanum_iff]
  grind

/-- So are all digits of a number. -/
theorem Writes.isAlphanum {base : Nat} (hbase : base ≤ 16) {ds : List Char} {n : Nat}
    (h : Writes base ds n) : ∀ d ∈ ds, d.isAlphanum = true := by
  obtain ⟨-, values, hvalues, -⟩ := h
  induction hvalues with
  | nil => simp
  | cons hv _ ih => exact List.forall_mem_cons.2 ⟨hv.isAlphanum hbase, ih⟩

/-! ### Numbers -/

/-- The digits of a number as they are read, after its sign. -/
theorem unsigned_eq_some_iff {base : Nat} (hbase : base ≤ 16) {ds : List Char} {n : Nat} :
    (do
      guard (!ds.isEmpty)
      let value ← digits? base 0 ds
      guard (value < 0x100000000)
      return value) = some n ↔ n < 0x100000000 ∧ Writes base ds n := by
  rw [writes_iff_digits? hbase]
  simp only [Option.bind_eq_bind, Option.bind_eq_some_iff]
  simp
  tauto

/-- The reader of a number takes one plus sign before the digits. -/
theorem number?_eq_some_iff {base : Nat} (hbase : base ≤ 16) {cs : List Char} {n : Nat} :
    number? base cs = some n ↔ n < 0x100000000 ∧
      (Writes base cs n ∨ ∃ ds, cs = '+' :: ds ∧ Writes base ds n) := by
  unfold number?
  split
  next ds =>
    -- a plus sign is no digit, so a text that starts with one is no plain numeral
    have hsign : ¬ Writes base ('+' :: ds) n := fun h =>
      absurd (h.isAlphanum hbase '+' (by simp)) (by decide)
    refine (unsigned_eq_some_iff hbase).trans (and_congr_right fun _ => ?_)
    simp [hsign]
  next hplus =>
    refine (unsigned_eq_some_iff hbase).trans (and_congr_right fun _ => ?_)
    constructor
    · exact .inl
    · rintro (h | ⟨ds, rfl, -⟩)
      · exact h
      · exact (hplus ds rfl).elim

/-- A number is the character with that number if there is one. -/
theorem scalar?_eq_some_iff {n : Nat} {c : Char} :
    scalar? n = some c ↔ n.isValidChar ∧ c = Char.ofNat n := by
  have hvalid : (n < 0xD800 || (0xE000 ≤ n && n < 0x110000)) = true ↔ n.isValidChar := by
    simp only [Bool.or_eq_true, Bool.and_eq_true, decide_eq_true_eq, Nat.isValidChar]
    omega
  rw [scalar?, Option.ite_none_right_eq_some, hvalid, Option.some.injEq, eq_comm (a := c)]

/-- A sign and digits that write the number of a character, and the text of that character. -/
def Numeral (base : Nat) (sign cs text : List Char) : Prop :=
  ∃ ds n, cs = sign ++ ds ∧ Writes base ds n ∧ n.isValidChar ∧ text = [Char.ofNat n]

/-- The character that a number is read as. -/
theorem scalar?_number?_eq_some_iff {base : Nat} (hbase : base ≤ 16) {cs text : List Char} :
    (do return [← scalar? (← number? base cs)]) = some text ↔
      Numeral base [] cs text ∨ Numeral base ['+'] cs text := by
  simp only [Option.bind_eq_bind, Option.bind_eq_some_iff, number?_eq_some_iff hbase,
    scalar?_eq_some_iff]
  constructor
  · rintro ⟨n, ⟨-, hn⟩, c, ⟨hvalid, rfl⟩, htext⟩
    obtain h | ⟨ds, rfl, h⟩ := hn
    · exact .inl ⟨cs, n, rfl, h, hvalid, (Option.some.inj htext).symm⟩
    · exact .inr ⟨ds, n, rfl, h, hvalid, (Option.some.inj htext).symm⟩
  · intro h
    -- every number of a character is below the bound, so the bound excludes none of them
    have hlt : ∀ n : Nat, n.isValidChar → n < 0x100000000 := by
      unfold Nat.isValidChar
      omega
    obtain ⟨ds, n, rfl, h, hvalid, rfl⟩ | ⟨ds, n, rfl, h, hvalid, rfl⟩ := h
    · exact ⟨n, ⟨hlt n hvalid, .inl h⟩, _, ⟨hvalid, rfl⟩, rfl⟩
    · exact ⟨n, ⟨hlt n hvalid, .inr ⟨ds, rfl, h⟩⟩, _, ⟨hvalid, rfl⟩, rfl⟩

/-! ### References -/

/-- The number of a character in a reference, after a hash, and after the mark of hexadecimal
    numbers if it is one. -/
inductive Numeric (sign : List Char) : List Char → List Char → Prop where
  | decimal {cs text : List Char} (h : Numeral 10 sign cs text) : Numeric sign ('#' :: cs) text
  | hexadecimal {x : Char} {cs text : List Char} (hx : x = 'x' ∨ x = 'X')
      (h : Numeral 16 sign cs text) : Numeric sign ('#' :: x :: cs) text

/-- What a reference with the body stands for: a name of the table, or the number of a character. -/
def WellFormed (body text : List Char) : Prop :=
  entity? body = some text ∨ Numeric [] body text

/-- The mark of hexadecimal numbers starts no decimal number. -/
theorem Numeral.ne_mark {sign cs text : List Char} {x : Char} (hsign : sign = [] ∨ sign = ['+'])
    (h : Numeral 10 sign (x :: cs) text) : ¬ (x = 'x' ∨ x = 'X') := by
  have hdigit : digit? 10 'x' = none ∧ digit? 10 'X' = none := by decide
  obtain ⟨ds, n, hds, ⟨-, values, hvalues, -⟩, -⟩ := h
  obtain rfl | rfl := hsign
  · rw [List.nil_append] at hds
    subst hds
    cases hvalues with
    | cons hx _ =>
      have hx := (digit?_eq_some_iff (by decide)).2 hx
      rintro (rfl | rfl)
      · cases hdigit.1.symm.trans hx
      · cases hdigit.2.symm.trans hx
  · cases hds
    decide

/-- After an x, digits up to f are expected. -/
theorem numeric_hexadecimal_iff {sign cs text : List Char} {x : Char}
    (hsign : sign = [] ∨ sign = ['+']) (hx : x = 'x' ∨ x = 'X') :
    Numeric sign ('#' :: x :: cs) text ↔ Numeral 16 sign cs text := by
  refine ⟨?_, .hexadecimal hx⟩
  intro h
  cases h with
  | decimal h => exact absurd hx (h.ne_mark hsign)
  | hexadecimal _ h => exact h

/-- Without it, digits up to nine are. -/
theorem numeric_decimal_iff {sign cs text : List Char}
    (hcs : ∀ x ds, x = 'x' ∨ x = 'X' → cs ≠ x :: ds) :
    Numeric sign ('#' :: cs) text ↔ Numeral 10 sign cs text := by
  refine ⟨?_, .decimal⟩
  intro h
  cases h with
  | decimal h => exact h
  | hexadecimal hx _ => exact absurd rfl (hcs _ _ hx)

/-- After a hash, only numbers are well-formed. -/
theorem wellFormed_hash_iff {cs text : List Char} :
    WellFormed ('#' :: cs) text ↔ Numeric [] ('#' :: cs) text := by
  have hname : entity? ('#' :: cs) = none := entity?_eq_none (List.mem_cons_self ..) (by decide)
  simp [WellFormed, hname]

/-- **The references that are read.** The well-formed ones, and numbers with a plus sign before
    their digits. -/
theorem reference?_eq_some_iff {body text : List Char} :
    reference? body = some text ↔ WellFormed body text ∨ Numeric ['+'] body text := by
  have hsixteen : 16 ≤ 16 := Nat.le_refl 16
  have hten : 10 ≤ 16 := by decide
  unfold reference?
  split
  -- four cases: either mark of base sixteen, a number without one, and a name
  next cs =>
    rw [wellFormed_hash_iff, numeric_hexadecimal_iff (.inl rfl) (.inl rfl),
      numeric_hexadecimal_iff (.inr rfl) (.inl rfl)]
    exact scalar?_number?_eq_some_iff hsixteen
  next cs =>
    rw [wellFormed_hash_iff, numeric_hexadecimal_iff (.inl rfl) (.inr rfl),
      numeric_hexadecimal_iff (.inr rfl) (.inr rfl)]
    exact scalar?_number?_eq_some_iff hsixteen
  next cs hlower hupper =>
    have hcs : ∀ x ds, x = 'x' ∨ x = 'X' → cs ≠ x :: ds := by
      rintro x ds (rfl | rfl) rfl
      · exact hlower _ rfl
      · exact hupper _ rfl
    rw [wellFormed_hash_iff, numeric_decimal_iff hcs, numeric_decimal_iff hcs]
    exact scalar?_number?_eq_some_iff hten
  next hhash =>
    have hnone : ∀ sign, ¬ Numeric sign body text := by
      intro sign h
      cases h with
      | decimal h => exact hhash _ rfl
      | hexadecimal hx h => exact hhash _ rfl
    simp [WellFormed, hnone]

/-! ### The characters of a body -/

/-- A numeral has a sign, digits and letters in it. -/
theorem Numeral.mem_or_isAlphanum {base : Nat} (hbase : base ≤ 16) {sign cs text : List Char}
    (h : Numeral base sign cs text) : ∀ c ∈ cs, c ∈ sign ∨ c.isAlphanum = true := by
  obtain ⟨ds, n, rfl, hds, -⟩ := h
  intro c hc
  exact (List.mem_append.1 hc).imp_right (hds.isAlphanum hbase c)

/-- A reference by number has nothing else in it after its mark. -/
theorem Numeric.mem_or_isAlphanum {sign body text : List Char} (h : Numeric sign body text) :
    ∀ c ∈ body, c = '#' ∨ c ∈ sign ∨ c.isAlphanum = true := by
  intro c hc
  cases h with
  | decimal h =>
    exact (List.mem_cons.1 hc).imp_right (h.mem_or_isAlphanum (by decide) c)
  | hexadecimal hx h =>
    obtain rfl | hc := List.mem_cons.1 hc
    · exact .inl rfl
    obtain rfl | hc := List.mem_cons.1 hc
    · refine .inr (.inr ?_)
      obtain rfl | rfl := hx <;> rfl
    · exact .inr (h.mem_or_isAlphanum (by decide) c hc)

/-- The sign is part of the reference. -/
theorem Numeric.sign_subset {sign body text : List Char} (h : Numeric sign body text) :
    sign ⊆ body := by
  cases h with
  | decimal h =>
    obtain ⟨ds, n, rfl, -⟩ := h
    exact List.subset_cons_of_subset _ (List.subset_append_left sign ds)
  | hexadecimal hx h =>
    obtain ⟨ds, n, rfl, -⟩ := h
    exact List.subset_cons_of_subset _
      (List.subset_cons_of_subset _ (List.subset_append_left sign ds))

/-- A well-formed reference is spelled in letters, digits and the hash. -/
theorem WellFormed.eq_hash_or_isAlphanum {body text : List Char} (h : WellFormed body text) :
    ∀ c ∈ body, c = '#' ∨ c.isAlphanum = true := by
  intro c hc
  obtain h | h := h
  · exact .inr (isAlphanum_of_entity? h c hc)
  · exact (h.mem_or_isAlphanum c hc).imp_right fun hsign => hsign.resolve_left List.not_mem_nil

/-- A number with a plus sign is not well-formed. -/
theorem WellFormed.not_numeric {body text text' : List Char} (h : WellFormed body text) :
    ¬ Numeric ['+'] body text' := by
  intro hsigned
  have hmem : '+' ∈ body := hsigned.sign_subset (List.mem_singleton_self '+')
  exact absurd (h.eq_hash_or_isAlphanum '+' hmem) (by decide)

end JsxTemplate.Text
