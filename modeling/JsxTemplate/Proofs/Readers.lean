import JsxTemplate.Grammar.Module
import JsxTemplate.Proofs.Tokens

namespace JsxTemplate.Grammar

/-!
# What readers give

A reader of a text stands at a token of it, and moves on from token to token. So it has a property
if each value that it gives does, from wherever in the text it starts.

* `Cursor.IsIn` — the current token was read from the text, and only blanks and comments lie between
  it and the token before.
* `Cursor.Leads` — a reader has come from one cursor to another one, and not back.
* `Gives source P p` — whatever the reader `p` gives has the property `P`. The lemmas after it go
  along the ways in which readers are put together.
* `Steady p` — nothing is said about the values of `p`, in any text. It is inferred for all readers
  that only look at tokens or take them.
* `Takes p` — the reader takes the current token. It is inferred as well.
-/

/-! ### Cursors in a text -/

/-- The current token was read from the text, after the blanks and comments that follow the token
    before. -/
structure Cursor.IsIn (source : List Char) (c : Cursor) : Prop where
  token : c.token.IsRead
  gap : ∃ place : Place, place.IsIn source ∧ place.offset = c.before ∧
    gapEnd place = c.token.place

/-- A reader that stands at the first cursor may come to the second one. -/
structure Cursor.Leads (source : List Char) (c c' : Cursor) : Prop where
  isIn : c'.IsIn source
  before_le : c.before ≤ c'.before
  start_le : c.token.start ≤ c'.token.start

namespace Cursor

variable {source : List Char} {c c' c'' : Cursor}

/-- A reader that is set to a place of the text reads the token there. -/
theorem isIn_at {place : Place} (h : place.IsIn source) : (Cursor.at place).IsIn source :=
  ⟨Token.isRead_next place, place, h, rfl, (Token.place_next place).symm⟩

/-- The current token starts at a place of the text. -/
theorem IsIn.place (h : c.IsIn source) : c.token.place.IsIn source := by
  obtain ⟨gap, hgap, -, hend⟩ := h.gap
  rw [← hend]
  exact hgap.reaches gap.reaches_gapEnd

/-- The current token ends at a place of the text. -/
theorem IsIn.after (h : c.IsIn source) : c.token.after.IsIn source :=
  h.place.reaches h.token.reaches_after

/-- The token before ends before the current one starts. -/
theorem IsIn.before_le (h : c.IsIn source) : c.before ≤ c.token.start := by
  obtain ⟨gap, -, hoffset, hend⟩ := h.gap
  have hle := gap.reaches_gapEnd.offset_le
  rw [hend, hoffset] at hle
  exact hle

/-- The token before ends at a place of the text. -/
theorem IsIn.placeIn_before (h : c.IsIn source) : Text.PlaceIn 0 source c.before := by
  obtain ⟨gap, hgap, hoffset, -⟩ := h.gap
  rw [← hoffset]
  exact hgap.placeIn

/-- A token does not end before it starts. -/
theorem IsIn.start_le_stop (h : c.IsIn source) : c.token.start ≤ c.token.stop :=
  h.token.reaches_after.offset_le

/-- A cursor leads to itself. -/
theorem Leads.refl (h : c.IsIn source) : c.Leads source c := ⟨h, Nat.le_refl _, Nat.le_refl _⟩

/-- A cursor leads to where those lead that it leads to. -/
theorem Leads.trans (h : c.Leads source c') (h' : c'.Leads source c'') : c.Leads source c'' where
  isIn := h'.isIn
  before_le := Nat.le_trans h.before_le h'.before_le
  start_le := Nat.le_trans h.start_le h'.start_le

/-- Setting a reader to a place leads on, if the place is not before the current token. -/
theorem leads_at {place : Place} (hc : c.IsIn source) (hplace : place.IsIn source)
    (h : c.token.start ≤ place.offset) : c.Leads source (Cursor.at place) := by
  have hin := isIn_at hplace
  exact ⟨hin, Nat.le_trans hc.before_le h, Nat.le_trans h hin.before_le⟩

/-- Taking the current token leads on. -/
theorem leads_after (hc : c.IsIn source) : c.Leads source (Cursor.at c.token.after) :=
  leads_at hc hc.after hc.start_le_stop

end Cursor

/-! ### Readers and what they give -/

section Steps

variable {α β : Type}

/-- Whatever the reader gives has the property, and it moves on in the text. -/
def Gives (source : List Char) (P : α → Prop) (p : Reader α) : Prop :=
  ∀ c a c', c.IsIn source → p c = some (a, c') → P a ∧ c.Leads source c'

/-- The reader moves on in any text. -/
class Steady (p : Reader α) : Prop where
  gives : ∀ source, Gives source (fun _ => True) p

/-- The reader takes the current token, at least. -/
class Takes (p : Reader α) : Prop where
  takes : ∀ {source c a c'}, c.IsIn source → p c = some (a, c') → c.token.start ≤ c'.before

variable {source : List Char} {P : α → Prop} {Q : β → Prop} {p q : Reader α} {f : α → Reader β}

/-- A steady reader leads on. -/
theorem Steady.leads [hp : Steady p] {c c' : Cursor} {a : α} (hc : c.IsIn source)
    (h : p c = some (a, c')) : c.Leads source c' :=
  (hp.gives source c a c' hc h).2

namespace Gives

/-- A value that is just returned. -/
protected theorem pure {a : α} (h : P a) : Gives source P (pure a) := by
  intro c a' c' hc heq
  cases heq
  exact ⟨h, .refl hc⟩

/-- No value is returned. -/
protected theorem refuse : Gives source P refuse := by
  intro c a c' _ heq
  cases heq

/-- One reader after another one. -/
protected theorem bind (hp : Gives source P p) (hf : ∀ a, P a → Gives source Q (f a)) :
    Gives source Q (p >>= f) := by
  intro c b c' hc heq
  obtain ⟨⟨a, c₁⟩, hfirst, hrest⟩ := Option.bind_eq_some_iff.1 heq
  obtain ⟨ha, hc₁⟩ := hp c a c₁ hc hfirst
  obtain ⟨hb, hc'⟩ := hf a ha c₁ b c' hc₁.isIn hrest
  exact ⟨hb, hc₁.trans hc'⟩

/-- What is read first does not matter. -/
theorem skip [hp : Steady p] (hf : ∀ a, Gives source Q (f a)) : Gives source Q (p >>= f) :=
  (hp.gives source).bind fun a _ => hf a

/-- One of two readers. -/
protected theorem ite {condition : Prop} [Decidable condition] (hthen : Gives source P p)
    (helse : Gives source P q) : Gives source P (if condition then p else q) := by
  split
  · exact hthen
  · exact helse

/-- A weaker property. -/
theorem mono {P' : α → Prop} (hp : Gives source P p) (h : ∀ a, P a → P' a) :
    Gives source P' p := by
  intro c a c' hc heq
  obtain ⟨ha, hc'⟩ := hp c a c' hc heq
  exact ⟨h a ha, hc'⟩

/-- A repetition gives what each round gives. -/
protected theorem repeated {p : Reader (Option α)}
    (hp : Gives source (fun given => ∀ a ∈ given, P a) p) (n : Nat) :
    Gives source (fun as => ∀ a ∈ as, P a) (repeated n p) := by
  induction n with
  | zero => exact .refuse
  | succ n ih =>
    rw [repeated]
    refine hp.bind fun given hgiven => ?_
    cases given with
    | none => exact .pure (by simp)
    | some a => exact ih.bind fun as has => .pure (by simpa using ⟨hgiven a rfl, has⟩)

/-- A value that is there. -/
protected theorem some (hp : Gives source P p) :
    Gives source (fun given => ∀ a ∈ given, P a) (p >>= fun a => pure (some a)) :=
  hp.bind fun a ha => .pure (by simpa using ha)

/-- No value. -/
protected theorem none : Gives source (fun given => ∀ a ∈ given, P a) (pure none) :=
  .pure (by simp)

/-- Something that may be left out, and then the same. -/
theorem optionally {condition : Prop} [Decidable condition] {first : Reader β} [Steady first]
    (hp : Gives source P p) :
    Gives source P (if condition then first >>= fun _ => p else p) :=
  .ite (.skip fun _ => hp) hp

/-- One of two readers, and then the same for both. -/
theorem either {condition : Prop} [Decidable condition] [Steady p] [Steady q]
    (hf : ∀ a, Gives source Q (f a)) :
    Gives source Q (if condition then p >>= f else q >>= f) :=
  .ite (.skip hf) (.skip hf)

end Gives

/-! ### Readers whose values do not matter -/

/-- Returning a value moves nothing. -/
instance (a : α) : Steady (pure a) := ⟨fun _ => .pure trivial⟩

/-- Refusing moves nothing. -/
instance : Steady (refuse : Reader α) := ⟨fun _ => .refuse⟩

/-- One steady reader after another one. -/
instance [hp : Steady p] [hf : ∀ a, Steady (f a)] : Steady (p >>= f) :=
  ⟨fun source => (hp.gives source).bind fun a _ => (hf a).gives source⟩

/-- One of two steady readers. -/
instance {condition : Prop} [Decidable condition] [hp : Steady p] [hq : Steady q] :
    Steady (if condition then p else q) :=
  ⟨fun source => .ite (hp.gives source) (hq.gives source)⟩

/-- A steady reader again and again. -/
instance {p : Reader (Option α)} [hp : Steady p] (n : Nat) : Steady (repeated n p) :=
  ⟨fun source => Gives.mono (Gives.repeated (P := fun _ => True)
    ((hp.gives source).mono fun _ _ _ _ => trivial) n) fun _ _ => trivial⟩

/-- Looking ahead moves nothing. -/
instance (p : Reader Bool) : Steady (ahead p) := by
  refine ⟨fun source c a c' hc heq => ⟨trivial, ?_⟩⟩
  unfold ahead at heq
  cases hstep : p c with
  | none =>
    rw [hstep] at heq
    cases heq
    exact .refl hc
  | some result =>
    rw [hstep] at heq
    cases heq
    exact .refl hc

/-- Looking at the state moves nothing. -/
instance : Steady (get : Reader Cursor) := by
  refine ⟨fun source c a c' hc heq => ⟨trivial, ?_⟩⟩
  cases heq
  exact .refl hc

end Steps

variable {source : List Char}

/-- The current token was read. -/
theorem gives_current : Gives source Token.IsRead current := by
  intro c t c' hc heq
  cases heq
  exact ⟨hc.token, .refl hc⟩

/-- What is required holds from there on. -/
theorem gives_require (condition : Bool) :
    Gives source (fun _ => condition = true) (require condition) := by
  unfold require
  split
  next h => exact .pure h
  next => exact .refuse

/-- A reader goes on with the current token. -/
theorem of_current_bind {β : Type} {f : Token → Reader β} {c : Cursor} {result : β × Cursor}
    (h : (current >>= f) c = some result) : f c.token c = some result := h

/-- A reader goes on after a condition only if it holds. -/
theorem of_require_bind {β : Type} {condition : Bool} {f : Unit → Reader β} {c : Cursor}
    {result : β × Cursor} (h : (require condition >>= f) c = some result) :
    condition = true ∧ f () c = some result := by
  cases condition with
  | true => exact ⟨rfl, h⟩
  | false => cases h

/-- Looking at the current token moves nothing. -/
instance : Steady current := by unfold current; infer_instance

/-- Looking at the next token moves nothing. -/
instance : Steady following := by unfold following; infer_instance

/-- Moving to the next token. -/
instance : Steady advance := by
  refine ⟨fun source c a c' hc heq => ⟨trivial, ?_⟩⟩
  cases heq
  exact Cursor.leads_after hc

/-- Moving to the next token takes the current one. -/
instance : Takes advance where
  takes hc heq := by
    cases heq
    exact hc.start_le_stop

/-- A condition moves nothing. -/
instance (condition : Bool) : Steady (require condition) := by unfold require; infer_instance

/-- Looking for a sign moves nothing. -/
instance (sign : String) : Steady (atSign sign) := by unfold atSign; infer_instance

/-- Looking for a word moves nothing. -/
instance (word : String) : Steady (atWord word) := by unfold atWord; infer_instance

/-- A sign that may stand here. -/
instance (sign : String) : Steady (accept sign) := by unfold accept; infer_instance

/-- A word that may stand here. -/
instance (word : String) : Steady (acceptWord word) := by unfold acceptWord; infer_instance

/-- A sign that must stand here. -/
instance (sign : String) : Steady (expect sign) := by unfold expect; infer_instance

/-- A word that must stand here. -/
instance (word : String) : Steady (expectWord word) := by unfold expectWord; infer_instance

/-- A sign is taken if it is the current token, and else the text is refused. -/
theorem expect_eq (sign : String) (c : Cursor) :
    expect sign c =
      if c.token.isSign sign then some ((), Cursor.at c.token.after) else none := by
  show (if c.token.isSign sign then _ else _ : Reader Bool) c >>= _ = _
  split <;> rfl

/-- A word is taken if it is the current token, and else the text is refused. -/
theorem expectWord_eq (word : String) (c : Cursor) :
    expectWord word c =
      if c.token.isWord word then some ((), Cursor.at c.token.after) else none := by
  show (if c.token.isWord word then _ else _ : Reader Bool) c >>= _ = _
  split <;> rfl

/-- A sign that must stand here is taken. -/
instance (sign : String) : Takes (expect sign) where
  takes hc heq := by
    rw [expect_eq] at heq
    split at heq
    · cases heq
      exact hc.start_le_stop
    · cases heq

/-- A word that must stand here is taken. -/
instance (word : String) : Takes (expectWord word) where
  takes hc heq := by
    rw [expectWord_eq] at heq
    split at heq
    · cases heq
      exact hc.start_le_stop
    · cases heq

/-- Looking for a kind of token moves nothing. -/
instance (kind : Kind) : Steady (atKind kind) := by unfold atKind; infer_instance

/-- Looking for the end of a line moves nothing. -/
instance : Steady afterLine := by unfold afterLine; infer_instance

/-- The end of a statement. -/
instance : Steady endStatement := by unfold endStatement; infer_instance

/-- Looking for an identifier moves nothing. -/
instance (c : Scope) : Steady (atIdentifier c) := by unfold atIdentifier; infer_instance

/-- An identifier. -/
instance (c : Scope) : Steady (identifier c) := by unfold identifier; infer_instance

/-- Any word. -/
instance : Steady anyWord := by unfold anyWord; infer_instance

/-- The values between commas. -/
protected theorem Gives.listed {α : Type} {P : α → Prop} {p : Reader α} (hp : Gives source P p)
    (limit : Nat) (close : String) :
    Gives source (fun as => ∀ a ∈ as, P a) (listed limit close p) := by
  unfold Grammar.listed
  refine .bind (.repeated (P := P) ?_ limit) fun as has => .skip fun _ => .pure has
  refine .skip fun _ => .ite .none (hp.bind fun a ha => .skip fun _ => ?_)
  have hsome : Gives source (fun given => ∀ a ∈ given, P a) (pure (some a)) :=
    .pure (by simpa using ha)
  exact .ite hsome (.skip fun _ => hsome)

/-- Values between commas. -/
instance {α : Type} {p : Reader α} [hp : Steady p] (limit : Nat) (close : String) :
    Steady (listed limit close p) :=
  ⟨fun source => ((hp.gives source).listed limit close).mono fun _ _ => trivial⟩

/-! ### Small readers of the grammar -/

/-- The modifiers of a parameter. -/
instance (c : Scope) : Steady (skipParameterModifiers c) := by
  unfold skipParameterModifiers; infer_instance

/-- Looking at the parameters of an accessor moves nothing. -/
instance (r : Rules) (c : Scope) (writes : Bool) : Steady (suitsAccessor r c writes) := by
  unfold suitsAccessor; infer_instance

/-- A sign that starts with an angle bracket becomes that bracket, at the same place. -/
instance : Steady splitAngle := by
  refine ⟨fun source c a c' hc heq => ⟨trivial, ?_⟩⟩
  change (if c.token.isSignOf ["<<", "<<=", "<="] then _ else _ : Reader Unit) c = _ at heq
  split at heq
  next hsign =>
    cases heq
    refine ⟨⟨Token.isRead_over ?_ (by decide) (fun _ => rfl) _ _, hc.gap⟩, Nat.le_refl _,
      Nat.le_refl _⟩
    -- each of the three signs starts with the bracket
    obtain ⟨sign, hmem, hsign⟩ := Token.exists_isSign_of_isSignOf hsign
    have htext := hc.token.text_of_isSign hsign
    simp only [List.mem_cons, List.not_mem_nil, or_false] at hmem
    show c.token.text = ['<'] ++ c.token.text.drop 1
    rcases hmem with rfl | rfl | rfl <;> rw [htext] <;> rfl
  next =>
    cases heq
    exact .refl hc

/-- Looking for an angle bracket moves nothing. -/
instance : Steady atAngle := by unfold atAngle; infer_instance

/-- Looking for an index signature moves nothing. -/
instance (c : Scope) : Steady (atIndexSignature c) := by unfold atIndexSignature; infer_instance

/-- The words before a member of an object type. -/
instance (c : Scope) (words : List String) : Steady (skipMemberModifiers c words) := by
  unfold skipMemberModifiers; infer_instance

/-- Looking for a mapped type moves nothing. -/
instance (c : Scope) : Steady (atMappedType c) := by unfold atMappedType; infer_instance

/-- Looking for a function type moves nothing. -/
instance (r : Rules) (c : Scope) : Steady (atFunctionType r c) := by
  unfold atFunctionType; infer_instance

/-- A modifier of a member. -/
instance (words : List String) : Steady (takeModifier words) := by
  unfold takeModifier; infer_instance

/-- The modifiers of a member. -/
instance (c : Scope) : Steady (takeModifiers c) := by unfold takeModifiers; infer_instance

/-- An operator that starts with a greater-than sign is spelled at its start. -/
theorem exists_eq_greaterSign_append (cs : List Char) :
    ∃ rest, '>' :: cs = (greaterSign ('>' :: cs)).toList ++ rest ∧
      ('>' :: cs).drop (greaterSign ('>' :: cs)).length = rest ∧
      Text.byteLength (greaterSign ('>' :: cs)).toList = (greaterSign ('>' :: cs)).length := by
  generalize htext : '>' :: cs = text
  -- the longest sign is tried first; a lone bracket is what remains
  fun_cases greaterSign text with
  | case1 rest => exact ⟨rest, rfl, rfl, rfl⟩
  | case2 rest => exact ⟨rest, rfl, rfl, rfl⟩
  | case3 rest => exact ⟨rest, rfl, rfl, rfl⟩
  | case4 rest => exact ⟨rest, rfl, rfl, rfl⟩
  | case5 rest => exact ⟨rest, rfl, rfl, rfl⟩
  | case6 => exact ⟨cs, htext.symm, by rw [← htext]; rfl, rfl⟩

/-- An operator is taken as a whole, even if it is read one character at a time elsewhere. -/
instance : Steady takeOperator := by
  refine ⟨fun source c a c' hc heq => ⟨trivial, ?_⟩⟩
  change (if c.token.isSign ">" then _ else advance : Reader Unit) c = _ at heq
  split at heq
  next hsign =>
    cases heq
    have htext : c.token.text = '>' :: c.token.rest := hc.token.text_of_isSign hsign
    obtain ⟨rest, happend, hdrop, hlength⟩ := exists_eq_greaterSign_append c.token.rest
    refine Cursor.leads_at hc (hc.place.reaches ⟨(greaterSign c.token.text).toList, ?_, ?_⟩)
      (Nat.le_add_right _ _)
    · show c.token.text = _ ++ c.token.text.drop _
      rw [htext, hdrop]
      exact happend
    · show c.token.start + _ = c.token.start + _
      rw [htext, hlength]
  next => exact Steady.leads hc heq

/-- Looking for an operator moves nothing. -/
instance (c : Scope) : Steady (atOperator c) := by unfold atOperator; infer_instance

/-- A guess moves nothing. -/
instance (c : Scope) : Steady (guessArrow c) := by
  refine ⟨fun source cursor guess cursor' hcursor heq => ⟨trivial, ?_⟩⟩
  unfold guessArrow at heq
  dsimp only at heq
  split at heq
  · cases heq
    exact .refl hcursor
  · cases heq
    exact .refl hcursor

/-- Where the characters before a quote end, the quote stands. -/
theorem eq_takeWhile_append_quote {quote : Char} {cs : List Char}
    (h : (cs.takeWhile (· != quote)).length < cs.length) :
    cs = cs.takeWhile (· != quote) ++
      quote :: cs.drop ((cs.takeWhile (· != quote)).length + 1) := by
  induction cs with
  | nil => simp at h
  | cons c cs ih =>
    -- the quote is somewhere in the text, else all of it would have been taken
    by_cases hc : c = quote
    · simp [hc]
    · rw [List.takeWhile_cons_of_pos (by simpa using hc)] at h ⊢
      rw [List.length_cons, List.length_cons] at h
      rw [List.length_cons, List.drop_succ_cons, List.cons_append, ← ih (by omega)]

/-- The text between quotes, from its first quote to its second one. -/
instance : Steady quotedValue := by
  refine ⟨fun source c a c' hc heq => ⟨trivial, ?_⟩⟩
  unfold quotedValue at heq
  replace heq := of_current_bind heq
  dsimp only at heq
  cases htext : c.token.text with
  | nil =>
    rw [htext] at heq
    cases heq
  | cons q rest =>
    rw [htext] at heq
    obtain ⟨hquote, heq⟩ := of_require_bind heq
    obtain ⟨hlength, heq⟩ := of_require_bind heq
    cases heq
    have hsize : q.utf8Size = 1 := by
      rw [Bool.or_eq_true, beq_iff_eq, beq_iff_eq] at hquote
      rcases hquote with rfl | rfl <;> rfl
    have hrest := eq_takeWhile_append_quote (of_decide_eq_true hlength)
    refine Cursor.leads_at hc (hc.place.reaches ⟨q :: (rest.takeWhile (· != q) ++ [q]), ?_, ?_⟩) ?_
    · show c.token.text = _ ++ rest.drop _
      rw [htext, List.cons_append, List.append_assoc, List.singleton_append, ← hrest]
    · show c.token.start + _ = c.token.start + _ + 2
      rw [Text.byteLength_cons, Text.byteLength_append, Text.byteLength_cons, Text.byteLength_nil]
      omega
    · show c.token.start ≤ c.token.start + _ + 2
      omega

/-- A name in a tag. -/
instance : Steady hyphenated := by
  refine ⟨fun source c a c' hc heq => ⟨trivial, ?_⟩⟩
  unfold hyphenated at heq
  obtain ⟨-, heq⟩ := of_require_bind (of_current_bind heq)
  cases heq
  exact Cursor.leads_at hc (hc.place.reaches (Place.reaches_takeWhile _ _)) (Nat.le_add_right _ _)

/-- The start of a closing tag. -/
instance : Steady openClosing := by unfold openClosing; infer_instance

/-- The keyword of a variable declaration. -/
instance (c : Scope) : Steady (variableKeyword? c) := by unfold variableKeyword?; infer_instance

/-- Looking for the word of a loop moves nothing. -/
instance : Steady atLoopWord := by unfold atLoopWord; infer_instance

/-- A name of a module's interface. -/
instance : Steady moduleName := by unfold moduleName; infer_instance

/-- The source of an import or export. -/
instance : Steady moduleSource := by unfold moduleSource; infer_instance

/-- The attributes of an import or export. -/
instance (c : Scope) : Steady (importAttributes c) := by
  unfold importAttributes
  refine ⟨fun source => .skip fun t => .ite (.pure trivial) (.skip fun _ => .skip fun _ => ?_)⟩
  exact .skip fun _ => .pure trivial

/-- Looking for the word before a specifier of types moves nothing. -/
instance (c : Scope) : Steady (typeSpecifier c) := by unfold typeSpecifier; infer_instance

/-- Looking for an import of types moves nothing. -/
instance (c : Scope) : Steady (atTypeImport c) := by unfold atTypeImport; infer_instance

/-- The word that says when a module is evaluated. -/
instance (c : Scope) : Steady (skipPhase c) := by unfold skipPhase; infer_instance

/-- A specifier of an export. -/
instance (c : Scope) : Steady (exportSpecifier c) := by
  unfold exportSpecifier
  refine ⟨fun source => .skip fun _ => .optionally (.skip fun t => .skip fun name => ?_)⟩
  exact .skip fun _ => .ite (.skip fun _ => .pure trivial) (.skip fun _ => .pure trivial)

/-- Looking for an export moves nothing. -/
instance (r : Rules) (c : Scope) : Steady (atExport r c) := by unfold atExport; infer_instance

/-- Looking for an import moves nothing. -/
instance : Steady atImport := by unfold atImport; infer_instance

end JsxTemplate.Grammar
