import JsxTemplate.Proofs.Places
import JsxTemplate.Syntax.Token
import Mathlib.Data.List.TakeDrop

namespace JsxTemplate

open Text

/-!
# Tokens of a text

A token carries the text from its first character on and the text after it, with the offsets of
both. So where tokens stand can be said without looking at the text again: each place is reached
from the one before by passing over some characters.

* `Place.Reaches` — one place of a text lies after another one, or at it.
* `gapEnd`, `Place.reaches_gapEnd` — where the blanks and comments after a place end.
* `spanName_append`, `suffix_of_skipNumber?`, … — the readers of single tokens only divide a text.
* `Token.IsRead` — what is known of a token that was read: its text is what it covers and what is
  left, a sign covers just its own spelling, and a word is a name.
* `Token.isRead_next` — this holds of the first token after any place.
-/

/-! ### Places -/

/-- The second place is reached from the first one by passing over some characters. -/
def Place.Reaches (p q : Place) : Prop :=
  ∃ passed, p.rest = passed ++ q.rest ∧ p.offset + byteLength passed = q.offset

/-- The place is one of the text. -/
def Place.IsIn (source : List Char) (place : Place) : Prop :=
  Reaches ⟨source, 0⟩ place

namespace Place

/-- No character is passed over. -/
theorem Reaches.refl (p : Place) : p.Reaches p := ⟨[], rfl, rfl⟩

/-- Passing over some characters and then over others. -/
theorem Reaches.trans {p q r : Place} (h : p.Reaches q) (h' : q.Reaches r) : p.Reaches r := by
  obtain ⟨as, hp, hq⟩ := h
  obtain ⟨bs, hq', hr⟩ := h'
  refine ⟨as ++ bs, by rw [hp, hq', List.append_assoc], ?_⟩
  rw [byteLength_append]
  omega

/-- The characters at the front of what is left are passed over. -/
theorem reaches_append (passed rest : List Char) (n : Nat) :
    Reaches ⟨passed ++ rest, n⟩ ⟨rest, n + byteLength passed⟩ :=
  ⟨passed, rfl, rfl⟩

/-- The characters at the front of what is left that are of one kind are passed over. -/
theorem reaches_takeWhile (place : Place) (isOfKind : Char → Bool) :
    place.Reaches ⟨place.rest.drop (place.rest.takeWhile isOfKind).length,
      place.offset + byteLength (place.rest.takeWhile isOfKind)⟩ :=
  ⟨place.rest.takeWhile isOfKind,
    List.prefix_iff_eq_append.1 (List.takeWhile_prefix isOfKind) |>.symm, rfl⟩

/-- Offsets grow from place to place. -/
theorem Reaches.offset_le {p q : Place} (h : p.Reaches q) : p.offset ≤ q.offset := by
  obtain ⟨passed, -, hq⟩ := h
  omega

namespace IsIn

variable {source : List Char} {p q : Place}

/-- A text starts at a place of its own. -/
theorem start (source : List Char) : IsIn source ⟨source, 0⟩ := Reaches.refl _

/-- What is reached from a place of a text is one, too. -/
theorem reaches (h : p.IsIn source) (h' : p.Reaches q) : q.IsIn source := h.trans h'

/-- The offset of a place of a text is an offset of the text. -/
theorem placeIn (h : p.IsIn source) : PlaceIn 0 source p.offset := by
  obtain ⟨passed, hsource, hoffset⟩ := h
  exact ⟨passed, p.rest, hsource, hoffset⟩

/-- Cutting a text at the offset of a place gives what is left there. -/
theorem cut_eq (h : p.IsIn source) : ∃ front, cut source p.offset = some (front, p.rest) := by
  obtain ⟨passed, hsource, hoffset⟩ := h
  refine ⟨passed, cut_eq_some_iff.2 ⟨hsource, ?_⟩⟩
  rw [← hoffset, Nat.zero_add]

end IsIn

end Place

/-! ### Blanks and comments -/

/-- Skipping blanks and comments only passes over characters. -/
theorem Place.reaches_of_skipGap {gap : Gap} {cs : List Char} {n : Nat} {b b' : Bool}
    {place : Place} (h : skipGap gap cs n b = some (place, b')) : Reaches ⟨cs, n⟩ place := by
  -- each step passes one or two characters, and counts their bytes
  have hstep : ∀ (passed : List Char) {rest : List Char} {n m : Nat}, n + byteLength passed = m →
      Reaches ⟨rest, m⟩ place → Reaches ⟨passed ++ rest, n⟩ place := by
    rintro passed rest n m rfl hrest
    exact (reaches_append passed rest n).trans hrest
  fun_induction skipGap gap cs n b with
  -- the cases of the gap in the order of its rules: in the open, in a line, in a block
  | case1 cs n b ih => exact hstep ['/', '/'] rfl (ih h)
  | case2 cs n b ih => exact hstep ['/', '*'] rfl (ih h)
  | case3 c cs n b h1 h2 hend ih => exact hstep [c] (by simp) (ih h)
  | case4 c cs n b h1 h2 hend hspace ih => exact hstep [c] (by simp) (ih h)
  | case5 c cs n b h1 h2 hend hspace =>
    cases h
    exact .refl _
  | case6 c cs n b hend ih => exact hstep [c] (by simp) (ih h)
  | case7 c cs n b hend ih => exact hstep [c] (by simp) (ih h)
  | case8 cs n b ih => exact hstep ['*', '/'] rfl (ih h)
  | case9 c cs n b h1 ih => exact hstep [c] (by simp) (ih h)
  | case10 n b => cases h
  | case11 gap n b h1 =>
    cases h
    exact .refl _

/-- Where the blanks and comments after a place end; the place itself if a comment is not closed. -/
def gapEnd (place : Place) : Place :=
  match skipGap .between place.rest place.offset false with
  | some (start, _) => start
  | none => place

/-- Blanks and comments are passed forwards. -/
theorem Place.reaches_gapEnd (place : Place) : place.Reaches (gapEnd place) := by
  unfold gapEnd
  split
  next h => exact Place.reaches_of_skipGap h
  next => exact .refl place

/-! ### Single tokens divide a text -/

/-- What stands before an end of a text. -/
theorem take_append_of_suffix {cs rest : List Char} (h : rest <:+ cs) :
    cs.take (cs.length - rest.length) ++ rest = cs := by
  obtain ⟨front, rfl⟩ := h
  rw [List.length_append, Nat.add_sub_cancel, List.take_left]

/-- What stands before an end of what is left is passed over. -/
theorem Place.reaches_of_suffix {place : Place} {rest : List Char} (h : rest <:+ place.rest) :
    place.Reaches ⟨rest, place.offset +
      byteLength (place.rest.take (place.rest.length - rest.length))⟩ :=
  ⟨_, (take_append_of_suffix h).symm, rfl⟩

/-- A name and what follows it make up the text. -/
theorem spanName_append (inside : Bool) (cs : List Char) :
    (spanName inside cs).1 ++ (spanName inside cs).2 = cs := by
  fun_induction spanName inside cs with
  | case1 cs name rest h ih => rw [h] at ih; simpa using ih
  | case2 cs name rest h ih => rw [h] at ih; simpa using ih
  | case3 inside c cs h1 h2 hpart name rest h ih => rw [h] at ih; simpa using ih
  | case4 inside c cs h1 h2 hpart => rfl
  | case5 inside => rfl

/-- The body of a string literal, its closing quote and what follows make up the text. -/
theorem eq_of_spanString {quote : Char} {cs body rest : List Char}
    (h : spanString quote cs = some (body, rest)) : cs = body ++ quote :: rest := by
  -- an escape passes two characters, so the rest is what the induction speaks about
  fun_induction spanString quote cs generalizing body with
  | case1 => cases h
  | case2 c cs ih =>
    obtain ⟨⟨body', rest'⟩, hspan, hresult⟩ := Option.bind_eq_some_iff.1 h
    cases hresult
    rw [ih hspan]
    rfl
  | case3 c cs h1 hquote =>
    cases h
    rw [beq_iff_eq.1 hquote]
    rfl
  | case4 c cs h1 hquote hend => cases h
  | case5 c cs h1 hquote hend ih =>
    obtain ⟨⟨body', rest'⟩, hspan, hresult⟩ := Option.bind_eq_some_iff.1 h
    cases hresult
    rw [ih hspan]
    rfl

/-- What is left after digits is the end of the text. -/
theorem suffix_of_digitRun? {base : Nat} {cs run rest : List Char}
    (h : digitRun? base cs = some (run, rest)) : rest <:+ cs := by
  unfold digitRun? spanDigits at h
  rw [List.span_eq_takeWhile_dropWhile] at h
  obtain ⟨-, -, hresult⟩ := Option.bind_eq_some_iff.1 h
  cases hresult
  exact List.dropWhile_suffix _

/-- So is what is left after an exponent. -/
theorem suffix_of_skipExponent? {cs rest : List Char} (h : skipExponent? cs = some rest) :
    rest <:+ cs := by
  unfold skipExponent? at h
  split at h
  next e tail =>
    split at h
    · obtain ⟨⟨run, after⟩, hrun, rfl⟩ := Option.map_eq_some_iff.1 h
      -- a sign may stand before the digits
      have htail : after <:+ tail := by
        have hdigits := suffix_of_digitRun? hrun
        split at hdigits
        · exact hdigits.trans (List.suffix_cons _ _)
        · exact hdigits.trans (List.suffix_cons _ _)
        · exact hdigits
      exact htail.trans (List.suffix_cons _ _)
    · cases h
      exact List.suffix_rfl
  next =>
    cases h
    exact List.suffix_rfl

/-- So is what is left after a fraction. -/
theorem suffix_of_skipFraction? {cs rest : List Char} (h : skipFraction? cs = some rest) :
    rest <:+ cs := by
  unfold skipFraction? spanDigits at h
  rw [List.span_eq_takeWhile_dropWhile] at h
  obtain ⟨-, -, hexponent⟩ := Option.bind_eq_some_iff.1 h
  exact (suffix_of_skipExponent? hexponent).trans (List.dropWhile_suffix _)

/-- So is what is left after digits in another base. -/
theorem suffix_of_skipRadix? {base : Nat} {cs rest : List Char}
    (h : skipRadix? base cs = some rest) : rest <:+ cs := by
  unfold skipRadix? at h
  obtain ⟨⟨run, after⟩, hrun, hresult⟩ := Option.bind_eq_some_iff.1 h
  have hafter := suffix_of_digitRun? hrun
  dsimp only at hresult
  split at hresult
  · cases hresult
    exact (List.suffix_cons _ _).trans hafter
  · cases hresult
    exact hafter

/-- What follows a number is only looked at. -/
theorem eq_of_afterNumber? {cs rest : List Char} (h : afterNumber? cs = some rest) : cs = rest := by
  obtain ⟨-, -, hpure⟩ := Option.bind_eq_some_iff.1 h
  exact Option.some.inj hpure

/-- What follows a number is an end of the text. -/
theorem suffix_of_skipNumber? {cs rest : List Char} (h : skipNumber? cs = some rest) :
    rest <:+ cs := by
  have hafter : ∀ {found : Option (List Char)} {tail : List Char},
      (∀ after, found = some after → after <:+ tail) → found >>= afterNumber? = some rest →
        rest <:+ tail := by
    intro found tail htail hbind
    obtain ⟨after, hfound, hend⟩ := Option.bind_eq_some_iff.1 hbind
    exact eq_of_afterNumber? hend ▸ htail after hfound
  have hradix : ∀ {base : Nat} {c d : Char} {tail : List Char},
      skipRadix? base tail >>= afterNumber? = some rest → rest <:+ c :: d :: tail := by
    intro base c d tail hbind
    have htail := hafter (fun _ => suffix_of_skipRadix?) hbind
    exact (htail.trans (List.suffix_cons d tail)).trans (List.suffix_cons c _)
  have hfraction : ∀ {c : Char} {tail : List Char},
      skipFraction? tail >>= afterNumber? = some rest → rest <:+ c :: tail := by
    intro c tail hbind
    exact (hafter (fun _ => suffix_of_skipFraction?) hbind).trans (List.suffix_cons c tail)
  unfold skipNumber? at h
  split at h
  · exact hradix h
  · exact hradix h
  · exact hradix h
  · exact hradix h
  · exact hradix h
  · exact hradix h
  · exact hfraction h
  · -- digits of base ten, and then one of the letter for large numbers, a fraction, an exponent
    obtain ⟨⟨run, tail⟩, hrun, hmore⟩ := Option.bind_eq_some_iff.1 h
    obtain ⟨-, -, hmore⟩ := Option.bind_eq_some_iff.1 hmore
    refine List.IsSuffix.trans ?_ (suffix_of_digitRun? hrun)
    split at hmore
    · obtain ⟨-, -, hpure⟩ := Option.bind_eq_some_iff.1 hmore
      cases hpure
      exact List.suffix_cons _ _
    · split at hmore
      · cases hmore
        exact List.suffix_rfl
      · exact hfraction hmore
    · exact hafter (fun _ => suffix_of_skipExponent?) hmore

/-! ### Texts that are read in their own way -/

/-- What follows the pattern of a regular expression is an end of the text. -/
theorem suffix_of_regexEnd {inClass : Bool} {cs rest : List Char}
    (h : regexEnd inClass cs = some rest) : rest <:+ cs := by
  fun_induction regexEnd inClass cs with
  | case1 inClass => cases h
  | case2 inClass c cs hend => cases h
  | case3 inClass c cs hend ih =>
    exact ((ih h).trans (List.suffix_cons c cs)).trans (List.suffix_cons _ _)
  | case4 cs =>
    cases h
    exact List.suffix_cons _ _
  | case5 cs ih => exact (ih h).trans (List.suffix_cons _ _)
  | case6 cs ih => exact (ih h).trans (List.suffix_cons _ _)
  | case7 inClass c cs h1 h2 h3 h4 hend => cases h
  | case8 inClass c cs h1 h2 h3 h4 hend ih => exact (ih h).trans (List.suffix_cons _ _)

/-- What ends a piece of a template literal, as it is written. -/
def Chunk.End.text : Chunk.End → List Char
  | .hole => ['$', '{']
  | .literal => ['`']

/-- A piece of a template literal, what ends it and what follows make up the text. -/
theorem Chunk.eq_of_read {cs raw rest : List Char} {stop : Chunk.End}
    (h : Chunk.read cs = some (raw, stop, rest)) : cs = raw ++ (stop.text ++ rest) := by
  fun_induction Chunk.read cs generalizing raw with
  | case1 => cases h
  | case2 c cs ih =>
    obtain ⟨⟨raw', stop', rest'⟩, hread, hresult⟩ := Option.bind_eq_some_iff.1 h
    cases hresult
    rw [ih hread]
    rfl
  | case3 cs =>
    cases h
    rfl
  | case4 cs =>
    cases h
    rfl
  | case5 c cs h1 h2 h3 ih =>
    obtain ⟨⟨raw', stop', rest'⟩, hread, hresult⟩ := Option.bind_eq_some_iff.1 h
    cases hresult
    rw [ih hread]
    rfl

/-- A piece of a template literal is passed over, with what ends it. -/
theorem Place.reaches_of_read {place : Place} {raw rest : List Char} {stop : Chunk.End}
    (h : Chunk.read place.rest = some (raw, stop, rest)) :
    place.Reaches ⟨rest, place.offset + byteLength raw + byteLength stop.text⟩ := by
  refine ⟨raw ++ stop.text, ?_, ?_⟩
  · rw [List.append_assoc]
    exact Chunk.eq_of_read h
  · rw [byteLength_append, Nat.add_assoc]

/-! ### Tokens that were read -/

/-- Where a token starts. -/
def Token.place (t : Token) : Place := ⟨t.text, t.start⟩

/-- What is known of a token that was read. -/
structure Token.IsRead (t : Token) : Prop where
  /-- The text from the token on is what it covers and what is left; a sign covers its spelling. -/
  covers : ∃ used, t.text = used ++ t.rest ∧ t.start + byteLength used = t.stop ∧
    (t.kind = .punctuator → used = t.value.toList)
  /-- The value of a word is a name. -/
  name : t.kind = .word → isIdentifierName t.value.toList = true
  /-- A word without escapes starts like a name. -/
  starts : t.kind = .word → t.escaped = false → t.text.head?.any isIdentifierStart = true

namespace Token

/-- The place after a token is reached from its start. -/
theorem IsRead.reaches_after {t : Token} (h : t.IsRead) : t.place.Reaches t.after := by
  obtain ⟨used, htext, hstop, -⟩ := h.covers
  exact ⟨used, htext, hstop⟩

/-- A sign is spelled at its start. -/
theorem IsRead.text_of_isSign {t : Token} (h : t.IsRead) {sign : String}
    (hsign : t.isSign sign = true) : t.text = sign.toList ++ t.rest := by
  obtain ⟨used, htext, -, hused⟩ := h.covers
  rw [isSign, Bool.and_eq_true, beq_iff_eq, beq_iff_eq] at hsign
  rw [htext, hused hsign.1, hsign.2]

/-- A sign ends after its spelling. -/
theorem IsRead.stop_of_isSign {t : Token} (h : t.IsRead) {sign : String}
    (hsign : t.isSign sign = true) : t.stop = t.start + byteLength sign.toList := by
  obtain ⟨used, -, hstop, hused⟩ := h.covers
  rw [isSign, Bool.and_eq_true, beq_iff_eq, beq_iff_eq] at hsign
  rw [← hstop, hused hsign.1, hsign.2]

/-- A sign among several is one of them. -/
theorem exists_isSign_of_isSignOf {t : Token} {signs : List String}
    (h : t.isSignOf signs = true) : ∃ sign ∈ signs, t.isSign sign = true := by
  rw [isSignOf, Bool.and_eq_true] at h
  refine ⟨t.value, List.contains_iff_mem.1 h.2, ?_⟩
  rw [isSign, h.1, Bool.true_and, beq_self_eq_true]

/-- A token that is not a word covers what lies before the rest. -/
theorem isRead_over {kind : Kind} {value : String} {place : Place} {used rest : List Char}
    (hrest : place.rest = used ++ rest) (hkind : kind ≠ .word)
    (hsign : kind = .punctuator → used = value.toList) (afterLine escaped : Bool) :
    (Token.over kind value place afterLine escaped used rest).IsRead where
  covers := ⟨used, hrest, rfl, hsign⟩
  name hword := absurd hword hkind
  starts hword := absurd hword hkind

/-- A token that could not be read stands where it started. -/
theorem isRead_unreadable (place : Place) (afterLine : Bool) :
    (Token.unreadable place afterLine).IsRead :=
  isRead_over rfl (by decide) (fun h => by cases h) afterLine false

/-- A name at the front of a text starts where the text does. -/
theorem head?_spanName (inside : Bool) (cs : List Char) :
    (spanName inside cs).1 = [] ∨ (spanName inside cs).1.head? = cs.head? := by
  fun_cases spanName inside cs with
  | case1 cs name rest h => exact .inr rfl
  | case2 cs name rest h => exact .inr rfl
  | case3 inside c cs h1 h2 hpart name rest h => exact .inr rfl
  | case4 inside c cs h1 h2 hpart => exact .inl rfl
  | case5 inside => exact .inl rfl

/-- A name starts like one. -/
theorem any_isIdentifierStart_head? {cs : List Char} (h : isIdentifierName cs = true) :
    cs.head?.any isIdentifierStart = true := by
  cases cs with
  | nil => cases h
  | cons c cs =>
    rw [isIdentifierName, Bool.and_eq_true] at h
    exact h.1

/-- A word, after what leads to it, is a name or not read at all. -/
theorem isRead_wordToken {kind : Kind} {lead : List Char} {place : Place}
    (hlead : place.rest = lead ++ place.rest.drop lead.length) (hsign : kind ≠ .punctuator)
    (hword : kind = .word → lead = []) (afterLine : Bool) :
    (wordToken kind place afterLine lead).IsRead := by
  unfold wordToken
  dsimp only
  generalize hspan : spanName false (place.rest.drop lead.length) = pair
  obtain ⟨raw, rest⟩ := pair
  have happend : raw ++ rest = place.rest.drop lead.length := by
    have h := spanName_append false (place.rest.drop lead.length)
    rwa [hspan] at h
  dsimp only
  split
  next name hname =>
    split
    next hidentifier =>
      refine ⟨⟨lead ++ raw, ?_, rfl, fun h => absurd h hsign⟩, fun _ => ?_,
        fun hkind hescaped => ?_⟩
      · show place.rest = lead ++ raw ++ rest
        rw [List.append_assoc, happend]
        exact hlead
      · show isIdentifierName (String.ofList name).toList = true
        rwa [String.toList_ofList]
      · -- without escapes, the value of the word is its text
        change raw.contains '\\' = false at hescaped
        rw [hescaped] at hname
        cases hname
        obtain rfl := hword hkind
        show place.rest.head?.any isIdentifierStart = true
        rcases head?_spanName false place.rest with hempty | hhead
        · rw [show place.rest = place.rest.drop ([] : List Char).length from rfl, hspan] at hempty
          rw [show raw = [] from hempty] at hidentifier
          cases hidentifier
        · rw [show spanName false place.rest = (raw, rest) from hspan] at hhead
          rw [← hhead]
          exact any_isIdentifierStart_head? hidentifier
    next => exact isRead_unreadable place afterLine
  next => exact isRead_unreadable place afterLine

/-- What stands at a place that is neither a blank nor a comment. -/
theorem isRead_read (place : Place) (afterLine : Bool) : (Token.read place afterLine).IsRead := by
  have hunreadable := isRead_unreadable place afterLine
  unfold Token.read
  split
  next hrest => exact isRead_over hrest (by decide) (fun h => by cases h) afterLine false
  next hrest =>
    exact isRead_wordToken (by rw [hrest]; rfl) (by decide) (fun h => by cases h) afterLine
  next rest hrest => exact isRead_over hrest (by decide) (fun h => by cases h) afterLine false
  next c cs _ _ hrest =>
    split
    · exact isRead_wordToken rfl (by decide) (fun _ => rfl) afterLine
    · -- strings, numbers and signs
      split
      · split
        next body rest hspan =>
          split
          · refine isRead_over ?_ (by decide) (fun h => by cases h) afterLine false
            rw [hrest, eq_of_spanString hspan]
            simp
          · exact hunreadable
        next => exact hunreadable
      · split
        · split
          next rest hnumber =>
            refine isRead_over ?_ (by decide) (fun h => by cases h) afterLine false
            exact (take_append_of_suffix (suffix_of_skipNumber? hnumber)).symm
          next => exact hunreadable
        · dsimp only
          split
          · exact hunreadable
          · refine isRead_over ?_ (by decide) (fun _ => ?_) afterLine false
            · exact (List.take_append_drop _ _).symm
            · exact String.toList_ofList.symm

/-- A word is a token at the place where it was read. -/
theorem place_wordToken (kind : Kind) (place : Place) (afterLine : Bool) (lead : List Char) :
    (wordToken kind place afterLine lead).place = place := by
  unfold wordToken
  dsimp only
  split
  · split <;> rfl
  · rfl

/-- A token starts at the place where it is read. -/
theorem place_read (place : Place) (afterLine : Bool) :
    (Token.read place afterLine).place = place := by
  unfold Token.read
  split
  · rfl
  · exact place_wordToken _ _ _ _
  · rfl
  -- past the words each kind of token is a choice by the next character
  · split
    · exact place_wordToken _ _ _ _
    · split
      · split
        · split <;> rfl
        · rfl
      · split
        · split <;> rfl
        · dsimp only
          split <;> rfl

/-- The token after a place starts where the blanks and comments after it end. -/
theorem place_next (place : Place) : (Token.next place).place = gapEnd place := by
  unfold Token.next gapEnd
  cases skipGap .between place.rest place.offset false with
  | none => rfl
  | some found => exact place_read found.1 found.2

/-- **The first token after a place is read** from the text there. -/
theorem isRead_next (place : Place) : (Token.next place).IsRead := by
  unfold Token.next
  split
  · exact isRead_read _ _
  · exact isRead_unreadable place false

end Token

end JsxTemplate
