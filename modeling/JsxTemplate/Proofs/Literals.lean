import JsxTemplate.Proofs.CodeSigns
import JsxTemplate.Proofs.Freshness
import JsxTemplate.Proofs.Parsed

namespace JsxTemplate

/-!
# New text closes what it opens

Compiled code is new text around copied expressions. A scanner that takes the new characters one by
one, and knows of words, brackets, strings and templates only, comes through each output: all that
new text opens it closes, copied characters stand in code, and an angle bracket that is new stands
in a string or in the text of a template.

* `Scan.step` — what the scanner does with one sign, if it can go on.
* `Sign.Closes` — new text closes what it opens, and nothing else.
* `Program.IsRead.isPlainName_nameOf` — the helpers of a module that was read have plain names.
* `Code.closes_signs`, `Program.closes_signs` — compiled code and outputs close what they open.
-/

open Text
open Sign (written named)

/-! ### The scanner -/

/-- The brackets that new text has. -/
inductive Bracket where
  | round
  | square
  | curly
  deriving DecidableEq, Repr

/-- The bracket that a character opens. -/
def Bracket.opened? : Char → Option Bracket
  | '(' => some round
  | '[' => some square
  | '{' => some curly
  | _ => none

/-- The character that closes a bracket. -/
def Bracket.closing : Bracket → Char
  | round => ')'
  | square => ']'
  | curly => '}'

/-- Where the scanner stands. -/
inductive Region where
  /-- In code, inside of a bracket if there is one. -/
  | code (bracket : Option Bracket)
  /-- In the text of a template. -/
  | text
  /-- After a dollar sign in the text of a template. -/
  | dollar
  /-- After a backslash in the text of a template. -/
  | escapedText
  /-- In a string. -/
  | string
  /-- After a backslash in a string. -/
  | escapedString
  deriving DecidableEq, Repr

/-- The state of the scanner: its region, and the regions around it, innermost first. -/
structure Scan where
  region : Region
  outer : List Region
  deriving DecidableEq, Repr

/-- Characters of names, blanks, and punctuation that neither opens nor closes anything. -/
def isPlain (c : Char) : Bool :=
  isIdentifierPart c || [' ', '\n', '-', '.', ',', ':', ';'].contains c

namespace Scan

/-- Before the first sign. -/
def start : Scan := ⟨.code none, []⟩

/-- Goes into a region. -/
def enter (s : Scan) (region : Region) : Scan := ⟨region, s.region :: s.outer⟩

/-- Comes back to the region around, if there is one. -/
def leave (s : Scan) : Option Scan :=
  match s.outer with
  | [] => none
  | region :: outer => some ⟨region, outer⟩

/-- Goes on in the text of a template. -/
def readText (s : Scan) (c : Char) : Option Scan :=
  if c = '`' then s.leave
  else if c = '\\' then some { s with region := .escapedText }
  else if c = '$' then some { s with region := .dollar }
  else some { s with region := .text }

/-- Takes a new character. -/
def read (s : Scan) (c : Char) : Option Scan :=
  match s.region with
  | .code bracket =>
    if isPlain c then some s
    else if c = '`' then some (s.enter .text)
    else if c = '"' then some (s.enter .string)
    else if (Bracket.opened? c).isSome then some (s.enter (.code (Bracket.opened? c)))
    else if bracket.map Bracket.closing = some c then s.leave
    else none
  | .text => s.readText c
  | .dollar =>
    if c = '{' then some (enter { s with region := .text } (.code (some .curly)))
    else s.readText c
  | .escapedText => some { s with region := .text }
  | .string =>
    if c = '"' then s.leave
    else if c = '\\' then some { s with region := .escapedString }
    else some s
  | .escapedString => some { s with region := .string }

/-- Whether the scanner stands in code. -/
def isCode (s : Scan) : Bool :=
  match s.region with
  | .code _ => true
  | _ => false

/-- Takes a sign: a new character anywhere, all others in code. -/
def step (s : Scan) : Sign → Option Scan
  | .made c => s.read c
  | _ => if s.isCode then some s else none

/-- Takes several signs. -/
def run (s : Scan) (signs : List Sign) : Option Scan := signs.foldlM step s

variable {s t u : Scan} {as bs : List Sign} {bracket : Option Bracket} {outer : List Region}

/-- A run goes on from where another one stops. -/
theorem run_append_of_eq (h : run s as = some t) : run s (as ++ bs) = run t bs := by
  rw [run, List.foldlM_append]
  exact (congrArg (· >>= _) h).trans rfl

/-- Where the scanner stands before a sign that it takes. -/
theorem exists_of_run_append {x : Sign} (h : run s (as ++ x :: bs) = some t) :
    ∃ u, run s as = some u ∧ (u.step x).isSome = true := by
  rw [run, List.foldlM_append, Option.bind_eq_bind, Option.bind_eq_some_iff] at h
  obtain ⟨u, hu, hrest⟩ := h
  rw [List.foldlM_cons, Option.bind_eq_bind, Option.bind_eq_some_iff] at hrest
  obtain ⟨v, hv, -⟩ := hrest
  exact ⟨u, hu, by rw [hv]; rfl⟩

/-- No new angle bracket is taken in code. -/
theorem read_angle_of_isCode (h : s.isCode = true) : s.read '<' = none := by
  obtain ⟨region, outer⟩ := s
  -- in code an angle bracket is not plain, whatever bracket is open
  cases region with
  | code bracket =>
    rcases bracket with _ | _ | _ | _ <;> rfl
  | text => cases h
  | dollar => cases h
  | escapedText => cases h
  | string => cases h
  | escapedString => cases h

end Scan

/-! ### Closed text -/

namespace Sign

variable {as bs code : List Sign} {cs : List Char}

/-- Scanned in code, the signs come back to where they started. -/
def Closes (signs : List Sign) : Prop :=
  ∀ bracket outer, Scan.run ⟨.code bracket, outer⟩ signs = some ⟨.code bracket, outer⟩

/-- Two rows that close what they open do so together. -/
theorem Closes.append (has : Closes as) (hbs : Closes bs) : Closes (as ++ bs) := by
  intro bracket outer
  rw [Scan.run_append_of_eq (has bracket outer)]
  exact hbs bracket outer

/-- Copied characters stand in code, and change nothing. -/
theorem joins_closes (source : List Char) : Joins source Closes where
  nil _ _ := rfl
  append := Closes.append
  copied _ _ _ := rfl
  start _ _ _ := rfl
  stop _ _ _ := rfl

/-- Where signs of a closed row stand. -/
theorem Closes.exists_run {x : Sign} (h : Closes (as ++ x :: bs)) :
    ∃ s, Scan.run .start as = some s ∧ (∀ offset c, x = copied offset c → s.isCode = true) ∧
      (x = made '<' → s.isCode = false) := by
  obtain ⟨s, hs, hstep⟩ := Scan.exists_of_run_append (h none [])
  refine ⟨s, hs, ?_, ?_⟩
  · -- a copied character is only read in code
    rintro offset c rfl
    by_contra hcode
    have hnone : s.step (copied offset c) = none := if_neg hcode
    rw [hnone] at hstep
    cases hstep
  · -- an angle bracket that is made is not read there
    rintro rfl
    by_contra hcode
    rw [Scan.step, Scan.read_angle_of_isCode (by simpa using hcode)] at hstep
    cases hstep

/-- Plain characters open and close nothing. -/
theorem closes_plain (h : cs.all isPlain = true) : Closes (written cs) := by
  induction cs with
  | nil => exact fun _ _ => rfl
  | cons c cs ih =>
    intro bracket outer
    rw [List.all_cons, Bool.and_eq_true] at h
    have hc : Scan.read ⟨.code bracket, outer⟩ c = some ⟨.code bracket, outer⟩ := if_pos h.1
    -- a plain character leaves the scan as it is
    have hstep : Scan.run ⟨.code bracket, outer⟩ (written (c :: cs)) =
        Scan.read ⟨.code bracket, outer⟩ c >>= fun s => s.run (written cs) := rfl
    rw [hstep, hc]
    exact ih h.2 bracket outer

/-- Code between a text that opens a bracket and one that closes it. -/
theorem closes_between {opening closing : List Sign} {inner : Bracket}
    (hopening : ∀ bracket outer, Scan.run ⟨.code bracket, outer⟩ opening =
      some ⟨.code (some inner), .code bracket :: outer⟩)
    (hcode : Closes code)
    (hclosing : ∀ region outer, Scan.run ⟨.code (some inner), region :: outer⟩ closing =
      some ⟨region, outer⟩) : Closes (opening ++ (code ++ closing)) := by
  intro bracket outer
  rw [Scan.run_append_of_eq (hopening bracket outer),
    Scan.run_append_of_eq (hcode (some inner) _)]
  exact hclosing (.code bracket) outer

/-- Commas between pieces open and close nothing. -/
theorem closes_separated {pieces : List (List Sign)} (h : ∀ piece ∈ pieces, Closes piece) :
    Closes (separated pieces) :=
  separated_induction Closes.append (fun _ _ => rfl) (closes_plain rfl) h

/-! ### Strings -/

/-- The digits of an escape end no string. -/
theorem hexDigit_ne {n : Nat} (h : n < 16) : hexDigit n ≠ '"' ∧ hexDigit n ≠ '\\' := by
  have hall : ∀ n < 16, hexDigit n ≠ '"' ∧ hexDigit n ≠ '\\' := by decide
  exact hall n h

/-- All characters but two leave the scanner in the string. -/
theorem read_string {c : Char} {outer : List Region} (hquote : c ≠ '"') (hslash : c ≠ '\\') :
    Scan.read ⟨.string, outer⟩ c = some ⟨.string, outer⟩ := by
  rw [Scan.read, if_neg hquote, if_neg hslash]

/-- A character of a string, escaped if need be, does not end it. -/
theorem run_quotedChar (c : Char) (outer : List Region) :
    Scan.run ⟨.string, outer⟩ (written (quotedChar c)) = some ⟨.string, outer⟩ := by
  unfold quotedChar
  split
  · rfl
  · rfl
  · rfl
  · rfl
  · rfl
  · rfl
  · rfl
  next hquote hslash _ _ _ _ _ =>
    split
    next hsmall =>
      -- a code in four digits
      obtain ⟨hq₁, hs₁⟩ := hexDigit_ne (n := c.toNat / 16) (by omega)
      obtain ⟨hq₂, hs₂⟩ := hexDigit_ne (n := c.toNat % 16) (by omega)
      show (Scan.read ⟨.string, outer⟩ (hexDigit (c.toNat / 16)) >>= fun s =>
        s.read (hexDigit (c.toNat % 16)) >>= pure) = _
      rw [read_string hq₁ hs₁, Option.bind_eq_bind, Option.bind_some, read_string hq₂ hs₂]
      rfl
    next =>
      show (Scan.read ⟨.string, outer⟩ c >>= pure) = _
      rw [read_string hquote hslash]
      rfl

/-- **A quoted text is one string.** All that could end it is escaped. -/
theorem closes_quoted (cs : List Char) : Closes (written (quoted cs)) := by
  intro bracket outer
  have hopening : Scan.run ⟨.code bracket, outer⟩ [made '"'] =
      some ⟨.string, .code bracket :: outer⟩ := rfl
  -- inside of the quotes nothing ends the string, since quotes are escaped there
  have hinner : ∀ outer, Scan.run ⟨.string, outer⟩ (written (cs.flatMap quotedChar)) =
      some ⟨.string, outer⟩ := by
    intro outer
    induction cs with
    | nil => rfl
    | cons c cs ih =>
      rw [List.flatMap_cons, written_append, Scan.run_append_of_eq (run_quotedChar c outer)]
      exact ih
  have hsplit : written (quoted cs) =
      [made '"'] ++ (written (cs.flatMap quotedChar) ++ [made '"']) := by
    simp [quoted, written]
  rw [hsplit, Scan.run_append_of_eq hopening, Scan.run_append_of_eq (hinner _)]
  rfl

/-! ### Templates -/

/-- In the text of a template, perhaps after a dollar sign. -/
def InText (outer : List Region) (s : Scan) : Prop :=
  s = ⟨.text, outer⟩ ∨ s = ⟨.dollar, outer⟩

/-- After a dollar sign, the text goes on as usual unless a hole is opened. -/
theorem InText.read_eq {outer : List Region} {s : Scan} {c : Char} (hs : InText outer s)
    (hc : s.region = .dollar → c ≠ '{') : s.read c = Scan.readText ⟨.text, outer⟩ c := by
  rcases hs with rfl | rfl
  · rfl
  · exact (if_neg (hc rfl)).trans rfl

/-- Escaped text does not end a template, and opens no hole in it. -/
theorem run_escapeTemplate (cs : List Char) {outer : List Region} {s : Scan} (hs : InText outer s)
    (hhead : s.region = .dollar → cs.head? ≠ some '{') :
    ∃ t, s.run (written (escapeTemplate cs)) = some t ∧ InText outer t := by
  have htext : InText outer ⟨.text, outer⟩ := .inl rfl
  induction cs using escapeTemplate.induct generalizing s with
  | case1 => exact ⟨s, rfl, hs⟩
  -- what is escaped leads back to plain text, also after a dollar sign
  | case2 cs ih => rcases hs with rfl | rfl <;> exact ih htext Region.noConfusion
  | case3 cs ih => rcases hs with rfl | rfl <;> exact ih htext Region.noConfusion
  | case4 cs ih => rcases hs with rfl | rfl <;> exact ih htext Region.noConfusion
  | case5 c cs hslash htick hhole ih =>
    rw [escapeTemplate.eq_5 c cs hslash htick hhole]
    have hread := hs.read_eq (c := c) fun hdollar hc => hhead hdollar (congrArg some hc)
    have hstep : s.run (written (c :: escapeTemplate cs)) =
        s.read c >>= fun t => t.run (written (escapeTemplate cs)) := rfl
    rw [hstep, hread, Scan.readText, if_neg htick, if_neg hslash]
    split
    next hdollar =>
      -- a brace after this dollar sign would have been escaped with it
      refine ih (.inr rfl) fun _ hbrace => ?_
      obtain ⟨rest, hrest⟩ := List.head?_eq_some_iff.1 hbrace
      exact hhole rest hdollar hrest
    next => exact ih htext Region.noConfusion

/-- Text before a hole, and the start of the hole. -/
theorem run_opening (cs : List Char) (outer : List Region) :
    Scan.run ⟨.text, outer⟩ (written (escapeTemplate cs ++ ['$', '{'])) =
      some ⟨.code (some .curly), .text :: outer⟩ := by
  obtain ⟨s, hs, htext⟩ := run_escapeTemplate cs (.inl rfl : InText outer _) Region.noConfusion
  rw [written_append, Scan.run_append_of_eq hs]
  rcases htext with rfl | rfl <;> rfl

/-- Text at the end of a template, and its end. -/
theorem run_closing (cs : List Char) (region : Region) (outer : List Region) :
    Scan.run ⟨.text, region :: outer⟩ (written (escapeTemplate cs ++ ['`'])) =
      some ⟨region, outer⟩ := by
  obtain ⟨s, hs, htext⟩ :=
    run_escapeTemplate cs (.inl rfl : InText (region :: outer) _) Region.noConfusion
  rw [written_append, Scan.run_append_of_eq hs]
  rcases htext with rfl | rfl <;> rfl

/-- The name of a helper and what is opened after it. -/
theorem run_named {h : Helper} {name : List Char} (hname : name.all isPlain = true)
    (opening : Char) (bracket : Option Bracket) (outer : List Region) :
    Scan.run ⟨.code bracket, outer⟩ (named h name opening) =
      Scan.read ⟨.code bracket, outer⟩ opening := by
  have hhelper : Scan.run ⟨.code bracket, outer⟩ (named h name opening) =
      Scan.run ⟨.code bracket, outer⟩ (written (name ++ [opening])) := rfl
  have hlast : Scan.run ⟨.code bracket, outer⟩ (written [opening]) =
      Scan.read ⟨.code bracket, outer⟩ opening >>= pure := rfl
  rw [hhelper, written_append, Scan.run_append_of_eq (closes_plain hname bracket outer), hlast,
    bind_pure]

end Sign

/-! ### Names -/

/-- Whether a name has characters only that neither open nor close anything. -/
def isPlainName (name : String) : Bool := name.toList.all isPlain

/-- A plain name opens and closes nothing. -/
theorem Sign.closes_name {name : String} (h : isPlainName name = true) :
    Closes (written name.toList) :=
  closes_plain h

/-- The characters of names are plain. -/
theorem isPlainName_of_forall {name : String}
    (h : ∀ c ∈ name.toList, isIdentifierPart c = true) : isPlainName name = true := by
  rw [isPlainName, List.all_eq_true]
  intro c hc
  rw [isPlain, h c hc, Bool.true_or]

/-- Two plain names in a row. -/
theorem isPlainName_append {a b : String} (ha : isPlainName a = true) (hb : isPlainName b = true) :
    isPlainName (a ++ b) = true := by
  rw [isPlainName, String.toList_append, List.all_append, Bool.and_eq_true]
  exact ⟨ha, hb⟩

/-- Plain names with something plain between them. -/
theorem isPlainName_intercalate {between : String} (hbetween : isPlainName between = true)
    {names : List String} (h : ∀ name ∈ names, isPlainName name = true) :
    isPlainName (String.intercalate between names) = true := by
  induction names with
  | nil => rfl
  | cons name rest ih =>
    have hname := h name (by simp)
    cases rest with
    | nil => rwa [String.intercalate_singleton]
    | cons next rest =>
      rw [String.intercalate_cons_cons]
      exact isPlainName_append (isPlainName_append hname hbetween)
        (ih fun x hx => h x (List.mem_cons_of_mem _ hx))

/-- A name in a tag is plain, hyphens and all. -/
theorem isPlainName_of_isTagName {name : String} (h : isTagName name.toList = true) :
    isPlainName name = true := by
  unfold isPlainName
  cases hchars : name.toList with
  | nil => rfl
  | cons c cs =>
    rw [hchars, isTagName, Bool.and_eq_true, List.all_eq_true] at h
    rw [List.all_cons, Bool.and_eq_true, List.all_eq_true]
    refine ⟨by rw [isPlain, isIdentifierPart_of_isIdentifierStart h.1, Bool.true_or], ?_⟩
    intro d hd
    -- after the first character hyphens are allowed as well
    rcases Bool.or_eq_true_iff.1 (h.2 d hd) with hpart | hhyphen
    · rw [isPlain, hpart, Bool.true_or]
    · obtain rfl := beq_iff_eq.1 hhyphen
      decide

/-- What is written for a tag is plain. -/
theorem TagName.isPlainName_text {tag : TagName} (h : tag.IsSpelled) :
    isPlainName tag.text = true := by
  cases tag with
  | plain name => exact isPlainName_of_isTagName h
  | namespaced space name =>
    exact isPlainName_append (isPlainName_append (isPlainName_of_isTagName h.1) (by decide))
      (isPlainName_of_isTagName h.2)
  | member root path =>
    refine isPlainName_intercalate (by decide) fun name hmem => ?_
    -- a tag that starts with `this` has a reserved word for its root
    have hname : name = "this" ∨ isIdentifierName name.toList = true := by
      cases root with
      | none =>
        rcases List.mem_cons.1 hmem with hthis | hmem
        · exact .inl hthis
        · exact .inr (h name hmem)
      | some root => exact .inr (h name hmem)
    rcases hname with rfl | hname
    · decide
    · exact isPlainName_of_forall (forall_isIdentifierPart hname)

/-- The key of a property is a name or a string. -/
theorem Sign.closes_propertyKey (key : List Char) : Closes (written (propertyKey key)) := by
  unfold propertyKey
  split
  next hname =>
    refine closes_plain (List.all_eq_true.2 fun c hc => ?_)
    rw [isPlain, forall_isIdentifierPart hname c hc, Bool.true_or]
  next => exact closes_quoted key

namespace Code

/-! ### Compiled code -/

variable {bindings : Bindings} {source : List Char}

/-- A property closes what it opens. -/
theorem closes_signsOfEntry {e : Entry Code} (h : Sign.Closes (e.value.signs bindings source)) :
    Sign.Closes (signsOfEntry bindings source e) := by
  unfold signsOfEntry
  split
  · -- the body of a getter is between two braces
    have hbody : Sign.Closes (written Entry.bodyOpening ++
        (e.value.signs bindings source ++ written [';', ' ', '}'])) :=
      Sign.closes_between (fun _ _ => rfl) h fun _ _ => rfl
    rw [Sign.written_append, Sign.written_append, List.append_assoc, List.append_assoc]
    exact (Sign.closes_plain rfl).append ((Sign.closes_propertyKey _).append hbody)
  · rw [Sign.written_append]
    exact ((Sign.closes_propertyKey _).append (Sign.closes_plain rfl)).append h

/-- The holes of a template lead back to its text. -/
theorem run_signsOfHoles {holes : List (List Char × Code)}
    (h : ∀ hole ∈ holes, Sign.Closes (hole.2.signs bindings source)) (outer : List Region) :
    Scan.run ⟨.text, outer⟩ (signsOfHoles bindings source holes) = some ⟨.text, outer⟩ := by
  induction holes with
  | nil => rfl
  | cons hole rest ih =>
    rw [signsOfHoles, Scan.run_append_of_eq (Sign.run_opening hole.1 outer),
      Scan.run_append_of_eq (h hole (by simp) _ _)]
    exact ih fun x hx => h x (List.mem_cons_of_mem _ hx)

/-- **Compiled code closes what it opens** if the names in it are plain. -/
theorem closes_signs (hnames : ∀ h, isPlainName (bindings.nameOf h) = true) (source : List Char)
    (options : Options) :
    HereditaryIn source options (fun code => Sign.Closes (code.signs bindings source))
      fun tag => isPlainName tag.text = true where
  string text := Sign.closes_quoted text
  flag := Sign.closes_plain rfl
  name tag htag := Sign.closes_name htag
  paren h := Sign.closes_between (fun _ _ => rfl) h fun _ _ => rfl
  spread h := (Sign.closes_plain rfl).append h
  array := by
    intro items h
    -- brackets open before their content and close after it, so the content starts in code
    rw [signs, signsOf_eq]
    have hitems := Sign.closes_separated (List.forall_mem_map.2 h)
    exact Sign.closes_between (fun _ _ => rfl) hitems fun _ _ => rfl
  object := by
    intro entries h
    rw [signs, signsOfEntries_eq]
    split
    · exact fun _ _ => rfl
    · have hentries := Sign.closes_separated
        (List.forall_mem_map.2 fun e he => closes_signsOfEntry (h e he))
      exact Sign.closes_between (fun _ _ => rfl) hentries fun _ _ => rfl
  call := by
    intro helper arguments h
    rw [signs, signsOf_eq]
    have harguments := Sign.closes_separated (List.forall_mem_map.2 h)
    have hopening : ∀ bracket outer, Scan.run ⟨.code bracket, outer⟩
        (named helper (bindings.nameOf helper).toList '(') =
        some ⟨.code (some .round), .code bracket :: outer⟩ :=
      Sign.run_named (hnames helper) '('
    exact Sign.closes_between hopening harguments fun _ _ => rfl
  template := by
    rintro ⟨holes, tail⟩ h bracket outer
    -- a template is text between its holes, and each hole is code again
    have hopening : Scan.run ⟨.code bracket, outer⟩
        (named .html (bindings.nameOf .html).toList '`') =
        some ⟨.text, .code bracket :: outer⟩ :=
      Sign.run_named (hnames .html) '`' bracket outer
    have hholes := run_signsOfHoles h (.code bracket :: outer)
    rw [signs, Scan.run_append_of_eq hopening, Scan.run_append_of_eq hholes]
    exact Sign.run_closing tail (.code bracket) outer
  copy := by
    -- copied text is read in code only, and holds markup that closes what it opens
    intro e he h
    obtain ⟨before, text, after, hsource, hbefore, -, hslice⟩ := Expr.exists_slice he
    rw [signs, hslice, Option.getD_some, signsOfPatches_eq]
    refine (Sign.joins_closes source).exchangedBy hsource hbefore fun p hp => ?_
    obtain ⟨patch, hpatch, rfl⟩ := List.mem_map.1 hp
    exact (Sign.joins_closes source).enclosed patch.1 (h patch hpatch)

end Code

/-! ### Names of a module that was read -/

/-- A digit may stand in a name. -/
theorem isIdentifierPart_of_isDigit {c : Char} (h : c.isDigit = true) :
    isIdentifierPart c = true := by
  have hascii : c.toNat < 128 := by
    have hle : c.toNat ≤ 57 := (Char.isDigit_iff_toNat.1 h).2
    omega
  rw [isIdentifierPart, if_pos hascii, Char.isAlphanum, h]
  simp

namespace Program.IsRead

variable {program : Program} {source : List Char} (hread : program.IsRead source)

include hread

/-- The names of helpers have characters of names only: they are those of imports, or the helpers'
    own names with digits after them. -/
theorem forall_isIdentifierPart_nameOf (options : Options) (h : Helper) :
    ∀ c ∈ ((Bindings.of program options).nameOf h).toList, isIdentifierPart c = true := by
  show ∀ c ∈ ((Bindings.of program options).get h).name.toList, _
  rcases Bindings.isImported_cases program options h with ⟨himported, -⟩ | ⟨-, -, others, hname⟩
  · -- the module imports it under a name that it spells
    obtain ⟨before, place, after, hsplit, -, -, hname⟩ :=
      Bindings.exists_first_of_isImported himported
    have hplace : place ∈ program.specifiers := hsplit ▸ by simp
    obtain ⟨item, hitem, hplace⟩ := List.mem_flatMap.1 hplace
    rw [hname]
    cases item with
    | code parts => cases hplace
    | imports declaration =>
      obtain ⟨specifier, hspecifier, rfl⟩ := List.mem_map.1 hplace
      exact forall_isIdentifierPart (hread.names declaration hitem specifier hspecifier)
  · -- or the name is new: that of the helper, with digits after it if need be
    obtain ⟨digits, hchars, hdigits⟩ := exists_digits_freeName h.name others
    have hown : h.name.toList.all isIdentifierPart = true := by cases h <;> decide +kernel
    rw [hname, hchars]
    exact List.forall_mem_append.2
      ⟨List.all_eq_true.1 hown, fun c hc => isIdentifierPart_of_isDigit (hdigits c hc)⟩

/-- The names of helpers are plain. -/
theorem isPlainName_nameOf (options : Options) (h : Helper) :
    isPlainName ((Bindings.of program options).nameOf h) = true :=
  isPlainName_of_forall (hread.forall_isIdentifierPart_nameOf options h)

end Program.IsRead

/-! ### Outputs -/

/-- What stands for a helper in the braces of an import is plain. -/
theorem isPlainName_specifier {bindings : Bindings}
    (hnames : ∀ h, isPlainName (bindings.nameOf h) = true) (h : Helper) :
    isPlainName (bindings.specifier h) = true := by
  have hname : isPlainName h.name = true := by cases h <;> decide
  unfold Bindings.specifier
  split
  · exact hname
  · exact isPlainName_append (isPlainName_append hname (by decide)) (hnames h)

namespace Program

variable {program : Program} {source : List Char} {options : Options}

/-- A header closes what it opens. -/
theorem closes_header (hnames : ∀ h, isPlainName ((Bindings.of program options).nameOf h) = true) :
    ∀ h ∈ program.header source options, ∀ after, Sign.Closes (written (h.text after)) := by
  intro h hh after
  have hcomma : isPlainName ", " = true := by decide
  -- what stands between the braces of the import, and what stands after them
  have hspecifiers := Sign.closes_name (isPlainName_intercalate hcomma
    (List.forall_mem_map.2 fun k
      (_ : k ∈ (Bindings.of program options).pending (program.patches options).needs) =>
        isPlainName_specifier hnames k))
  have hlist : Sign.Closes (written ("import ".toList ++ ['{', ' ']) ++
      (_ ++ written [' ', '}'])) :=
    Sign.closes_between (fun _ _ => rfl) hspecifiers fun _ _ => rfl
  have hfrom : Sign.Closes (written " from ".toList ++
      (written (quoted options.packageName.toList) ++ written [';'])) :=
    (Sign.closes_plain rfl).append
      ((Sign.closes_quoted _).append (Sign.closes_plain rfl))
  have hstatement : Sign.Closes (written h.statement) := by
    -- the characters of the statement are those of its two parts
    have hopen : openBrace.toList = ['{'] := by decide
    have hclose : closeBrace.toList = ['}'] := by decide
    have hblank : " ".toList = [' '] := by decide
    have hsemicolon : ";".toList = [';'] := by decide
    rw [statement_of_mem_header h hh]
    simp only [braced, String.toList_append, String.toList_ofList, hopen, hclose, hblank,
      hsemicolon, List.append_assoc]
    have hparts := hlist.append hfrom
    simp only [← Sign.written_append, List.append_assoc] at hparts
    exact hparts
  have hfeed : Sign.Closes (written ['\n']) := Sign.closes_plain rfl
  unfold Header.text
  split
  · rw [Sign.written_append]
    exact hstatement.append hfeed
  · split
    · exact hfeed.append hstatement
    · rw [Sign.written_append]
      exact (hfeed.append hstatement).append hfeed

/-- **New text closes what it opens.** The scanner comes through the output of a module that was
    read, and stands in code at its end as at its start. -/
theorem closes_signs (hread : program.IsRead source) (options : Options) :
    Sign.Closes (program.signs source options) := by
  have hnames := hread.isPlainName_nameOf options
  refine (Sign.joins_closes source).laidOut (closes_header hnames) fun p hp => ?_
  rw [pieces_eq] at hp
  obtain ⟨piece, hmem, rfl⟩ := List.mem_map.1 hp
  refine (Sign.joins_closes source).enclosed piece.1 ?_
  refine holds_outermost_of_hold (Code.closes_signs hnames source options) hread.placed ?_ piece
    hmem
  exact fun tag htag => TagName.isPlainName_text (hread.components tag htag).1

end Program

end JsxTemplate
