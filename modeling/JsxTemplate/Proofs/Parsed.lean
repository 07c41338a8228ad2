import JsxTemplate.Proofs.ReadModules
import JsxTemplate.Proofs.TagNames

namespace JsxTemplate

open Text

/-!
# Modules that were read

What the rules of the grammar give is put together to what is known of each module that is read from
a text. The prologue ends where the token before the first statement does, so an import that is put
there comes before all markup.

* `Grammar.moduleItems_read` — the prologue and the statements of a module.
* `Program.IsRead`, `Program.isRead_of_parse?` — what is known of a module that was read.
* `Program.isPlaced_of_parse?` — its spans lie in the text as those of a tree do.
-/

namespace Grammar

/-! ### The prologue -/

variable {source : List Char} {P : TagName → Prop} {r : Rules} (hr : r.Keep source P) {c : Scope}
  {cursor cursor' : Cursor}

include hr

/-- A directive is a stretch of the text that ends where the reader stands then. Where there is
    none, the reader does not move. -/
theorem directive?_read {given : Option Span} (hc : cursor.IsIn source)
    (heq : directive? r c cursor = some (given, cursor')) :
    cursor.Leads source cursor' ∧ (given = none → cursor' = cursor) ∧
      ∀ span ∈ given, span.On source ∧ span.stop = cursor'.before := by
  replace heq : (if (!cursor.token.kind == .string) = true then pure none else attempt _ :
    Reader (Option Span)) cursor = some (given, cursor') := heq
  split at heq
  · cases heq
    exact ⟨.refl hc, fun _ => rfl, by simp⟩
  unfold attempt at heq
  split at heq
  next span cursor₁ hread =>
    cases heq
    -- the directive is an expression and its end, and is attempted as a whole
    obtain ⟨⟨e, cursor₁⟩, hexpr, hread⟩ := Option.bind_eq_some_iff.1 hread
    obtain ⟨-, hread⟩ := of_require_bind hread
    obtain ⟨⟨_, cursor₂⟩, hend, hread⟩ := Option.bind_eq_some_iff.1 hread
    cases hread
    obtain ⟨hlead, hwithin⟩ := hr.expression _ _ cursor e cursor₁ (.start hc) hexpr
    have hlead' := hlead.trans (Steady.leads hlead.isIn hend)
    refine ⟨hlead', fun h => (by cases h), fun span hspan => ?_⟩
    obtain rfl := Option.mem_some_iff.1 hspan
    have hle := Nat.le_trans (hwithin.start_le_stop (by simp))
      (Steady.leads hlead.isIn hend).before_le
    exact ⟨⟨hle, hc.place.placeIn, hlead'.isIn.placeIn_before⟩, rfl⟩
  next =>
    cases heq
    exact ⟨.refl hc, fun _ => rfl, by simp⟩

/-- The last directive ends where the reader stands after the prologue. -/
theorem directives_read (n : Nat) {directives : List Span} (hc : cursor.IsIn source)
    (heq : repeated n (directive? r c) cursor = some (directives, cursor')) :
    cursor.Leads source cursor' ∧ (∀ span ∈ directives, span.On source) ∧
      (directives.getLast?.map Span.stop).getD cursor.before = cursor'.before := by
  induction n generalizing cursor directives with
  | zero => cases heq
  | succ n ih =>
    unfold repeated at heq
    obtain ⟨⟨given, cursor₁⟩, hfirst, heq⟩ := Option.bind_eq_some_iff.1 heq
    obtain ⟨hlead, hstays, hgiven⟩ := directive?_read hr hc hfirst
    -- the last directive decides where the prologue stops
    cases given with
    | none =>
      cases heq
      rw [hstays rfl]
      exact ⟨.refl hc, by simp, rfl⟩
    | some span =>
      obtain ⟨⟨rest, cursor₂⟩, hrest, heq⟩ := Option.bind_eq_some_iff.1 heq
      cases heq
      obtain ⟨hlead', hon, hlast⟩ := ih hlead.isIn hrest
      obtain ⟨hspan, hstop⟩ := hgiven span rfl
      refine ⟨hlead.trans hlead', List.forall_mem_cons.2 ⟨hspan, hon⟩, ?_⟩
      rw [← hlast, ← hstop, List.getLast?_cons]
      cases rest.getLast? with
      | none => rfl
      | some last => rfl

/-- The prologue of a module, and its statements after it. -/
theorem moduleItems_read {directives : List Span} {items : List Item} (hc : cursor.IsIn source)
    (heq : moduleItems r c cursor = some ((directives, items), cursor')) :
    ∃ cursor₁, cursor.Leads source cursor₁ ∧ (∀ span ∈ directives, span.On source) ∧
      (directives.getLast?.map Span.stop).getD cursor.before = cursor₁.before ∧
      Expr.Within source P cursor₁.token.start cursor'.before (exprs items) ∧
      ∀ declaration, .imports declaration ∈ items → BindsNames declaration := by
  unfold moduleItems at heq
  obtain ⟨⟨spans, cursor₁⟩, hdirectives, heq⟩ := Option.bind_eq_some_iff.1 heq
  obtain ⟨⟨given, cursor₂⟩, hitems, heq⟩ := Option.bind_eq_some_iff.1 heq
  obtain ⟨-, heq⟩ := of_require_bind heq
  cases heq
  -- the statements start where the directives left the cursor
  obtain ⟨hlead, hon, hlast⟩ := directives_read hr c.limit hc hdirectives
  refine ⟨cursor₁, hlead, hon, hlast, ?_, ?_⟩
  · rw [exprs_map_fst]
    exact (keeps_items hr _ _ cursor₁ given cursor' (.start hlead.isIn) hitems).2
  · intro declaration hmem
    obtain ⟨pair, hpair, hfirst⟩ := List.mem_map.1 hmem
    exact (gives_items hr cursor₁ given cursor' hlead.isIn hitems).1 pair hpair declaration hfirst

omit hr in
/-- The statements of a module start at a place of the text, where the first line ends if it names
    an interpreter. -/
theorem hashbang_read (source : List Char) :
    (hashbang source).1.IsIn source ∧ (∀ line ∈ (hashbang source).2, line.On source) ∧
      ((hashbang source).2.map Span.stop).getD 0 = (hashbang source).1.offset := by
  fun_cases hashbang source with
  -- the line runs up to its end, which is a place of the text
  | case1 rest =>
    have hreach := Place.reaches_takeWhile ⟨'#' :: '!' :: rest, 0⟩ (!isLineEnd ·)
    have hplace := (Place.IsIn.start _).reaches hreach
    dsimp only at hplace
    rw [Nat.zero_add] at hplace
    refine ⟨hplace, fun line hline => ?_, rfl⟩
    obtain rfl := Option.mem_some_iff.1 hline
    exact ⟨Nat.zero_le _, (Place.IsIn.start _).placeIn, hplace.placeIn⟩
  | case2 => exact ⟨.start source, by simp, rfl⟩

end Grammar

/-! ### The place of an import -/

/-- A semicolon after blanks comes before a tag that comes after them. -/
theorem semicolonLength_le (before after : List Char) :
    semicolonLength (before ++ '<' :: after) ≤ byteLength before := by
  unfold semicolonLength
  dsimp only
  generalize hblanks : (before ++ '<' :: after).takeWhile (fun c => c == ' ' || c == '\t') = blanks
  have hall : ∀ c ∈ blanks, (c == ' ' || c == '\t') = true := by
    rw [← hblanks]
    exact List.all_eq_true.1 List.all_takeWhile
  split
  next rest hdrop =>
    -- the tag cannot stand before the semicolon: there are only blanks
    have hfront : blanks <+: before ++ '<' :: after := hblanks ▸ List.takeWhile_prefix _
    have htext := List.prefix_iff_eq_append.1 hfront
    rw [hdrop] at htext
    rcases List.append_eq_append_iff.1 htext with ⟨more, rfl, hrest⟩ | ⟨more, hmore, hrest⟩
    · cases more with
      | nil => simp at hrest
      | cons c more =>
        have hsize := c.utf8Size_pos
        rw [byteLength_append, byteLength_cons]
        omega
    · cases more with
      | nil => simp at hrest
      | cons c more =>
        obtain rfl : '<' = c := (List.cons.inj hrest).1
        exact absurd (hall '<' (by simp [hmore])) (by decide)
  next => exact Nat.zero_le _

/-- Markup that starts after the prologue starts after the semicolon there. -/
theorem Span.add_semicolonLength_le {source front rest : List Char} {stop : Nat} {span : Span}
    (hcut : cut source stop = some (front, rest)) (hopens : span.opensTag source = true)
    (hle : stop ≤ span.start) : stop + semicolonLength rest ≤ span.start := by
  obtain ⟨rfl, hlen⟩ := cut_eq_some_iff.1 hcut
  obtain ⟨before, after, rfl, hstart⟩ := Span.exists_of_opensTag hopens (by omega)
  have hsemicolon := semicolonLength_le before after
  omega

/-! ### Modules -/

/-- What is known of a module that was read from a text. -/
structure Program.IsRead (source : List Char) (program : Program) : Prop where
  /-- Its spans lie in the text as those of a tree do. -/
  placed : program.isPlaced source = true
  /-- The tags of its components are spelled like tags, and are those of components. -/
  components : ∀ tag ∈ program.components, tag.IsSpelled ∧ tag.isComponent = true
  /-- Its outermost markup is tags and fragments, which open with an angle bracket. -/
  opens : ∀ p ∈ program.outermost, p.1.opensTag source = true ∧ p.2.isTag = true
  /-- What its imports bind are names. -/
  names : ∀ declaration, .imports declaration ∈ program.items → Grammar.BindsNames declaration

namespace Program

variable {source : List Char} {program : Program}

/-- Markup that starts after the prologue starts after the place of an import. -/
theorem le_start_of_importOffset {offset : Nat}
    (hoffset : program.importOffset source = some offset) {span : Span} (hopens : span.opensTag source = true) (hle : program.prologueStop ≤ span.start) :
    offset ≤ span.start := by
  unfold importOffset at hoffset
  dsimp only at hoffset
  split at hoffset
  · cases hoffset
    exact Nat.zero_le _
  · obtain ⟨⟨front, rest⟩, hcut, hoffset⟩ := Option.bind_eq_some_iff.1 hoffset
    cases hoffset
    exact Span.add_semicolonLength_le hcut hopens hle

/-- A module whose statements are sound, one after another, and come after its prologue. -/
theorem isRead_of_within {start stop : Nat}
    (hhashbang : ∀ line ∈ program.hashbang, line.On source)
    (hdirectives : ∀ span ∈ program.directives, span.On source)
    (hitems : Expr.Within source (fun tag => tag.IsSpelled ∧ tag.isComponent = true) start stop
      (exprs program.items))
    (hstart : program.prologueStop ≤ start)
    (hnames : ∀ declaration, .imports declaration ∈ program.items →
      Grammar.BindsNames declaration) : program.IsRead source := by
  have hopens : ∀ p ∈ program.outermost, p.1.opensTag source = true ∧ p.2.isTag = true := by
    intro p hp
    rw [outermost_eq, List.mem_flatMap] at hp
    obtain ⟨e, he, hp⟩ := hp
    exact (hitems.sound e he).opens p hp
  have hafter : ∀ p ∈ program.outermost, program.prologueStop ≤ p.1.start := by
    intro p hp
    rw [outermost_eq, List.mem_flatMap] at hp
    obtain ⟨e, he, hp⟩ := hp
    -- the markup of an expression lies in its span
    obtain ⟨span, hspan, hin⟩ := (e.piecesIn_outermost (hitems.sound e he).placed).within p hp
    rw [List.mem_singleton.1 hspan, Span.isWithin_iff] at hin
    exact Nat.le_trans hstart (Nat.le_trans (hitems.start_le e he) hin.1)
  refine ⟨?_, ?_, hopens, hnames⟩
  · simp only [Program.isPlaced, Bool.and_eq_true, decide_eq_true_eq, List.all_eq_true,
      Option.all_eq_true]
    refine ⟨⟨⟨⟨?_, ?_⟩, ?_⟩, ?_⟩, ?_⟩
    · exact fun line hline => Span.isOn_iff.2 (hhashbang line hline)
    · exact fun span hspan => Span.isOn_iff.2 (hdirectives span hspan)
    · intro item hitem
      refine Item.isPlaced_of_exprs fun e he => ?_
      exact (hitems.sound e (List.mem_flatMap.2 ⟨item, hitem, he⟩)).placed
    · rw [spans_eq, List.pairwise_map]
      exact hitems.ordered.imp Or.inl
    · intro offset hoffset p hp
      exact le_start_of_importOffset hoffset (hopens p hp).1 (hafter p hp)
  · intro tag htag
    rw [components_eq, List.mem_flatMap] at htag
    obtain ⟨e, he, htag⟩ := htag
    exact (hitems.sound e he).hold tag htag

/-- **What is known of a module that was read.** Its spans lie in the text, the tags of its
    components are spelled like tags, its markup opens with an angle bracket, and its imports bind
    names. -/
theorem isRead_of_parse? {dialect : Grammar.Dialect}
    (h : Program.parse? dialect source = some program) : program.IsRead source := by
  unfold Program.parse? at h
  obtain ⟨⟨⟨directives, items⟩, cursor⟩, hread, hprogram⟩ := Option.bind_eq_some_iff.1 h
  cases hprogram
  have hrules : (Grammar.rules (Grammar.depthOf source)).Keep source
      fun tag => tag.IsSpelled ∧ tag.isComponent = true :=
    Grammar.keep_rules (fun c => (Grammar.gives_tagName c).mono fun _ => And.intro) _
  obtain ⟨hplace, hline, hlinestop⟩ := Grammar.hashbang_read source
  obtain ⟨cursor₁, hlead, hdirectives, hstop, hitems, hnames⟩ :=
    Grammar.moduleItems_read hrules (Grammar.Cursor.isIn_at hplace) hread
  refine isRead_of_within hline hdirectives hitems ?_ hnames
  -- the prologue ends where the token before the first statement does
  have hbefore := hlead.isIn.before_le
  refine Nat.max_le.2 ⟨?_, Nat.le_trans ?_ hbefore⟩
  · exact Nat.le_trans (Nat.le_of_eq hlinestop) (Nat.le_trans hlead.before_le hbefore)
  · show (directives.getLast?.map Span.stop).getD 0 ≤ cursor₁.before
    cases hlast : directives.getLast? with
    | none => exact Nat.zero_le _
    | some last =>
      rw [hlast] at hstop
      exact Nat.le_of_eq hstop

/-- The spans of a module that was read lie in the text as those of a tree do. -/
theorem isPlaced_of_parse? {dialect : Grammar.Dialect}
    (h : Program.parse? dialect source = some program) : program.isPlaced source = true :=
  (isRead_of_parse? h).placed

end Program

end JsxTemplate
