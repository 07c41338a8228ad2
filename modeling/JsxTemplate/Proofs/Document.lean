import JsxTemplate.Proofs.Templates

namespace JsxTemplate

/-!
# Reading the markup of a template

A reader that takes the characters and the holes of a template one by one and builds the tree of
elements that they describe. It knows nothing of how templates are made.

* `Node`, `Tag`, `Setting` — the tree: elements with their attributes, and holes between them. The
  content of an element is a template of nodes, so that texts next to each other are one.
* `Reading.step` — what the reader does with one character or hole, if it can go on.
* `Template.read` — the tree of a template, if the reader comes to its end with no tag left open.
* `ReadsSettings`, `ReadsContent` — a word is read as attributes inside a tag, or as content between
  tags, whatever was read before. There is one lemma for each construct.
-/

/-! ### Trees -/

/-- How a renderer takes an attribute, as its name says. -/
inductive Wire where
  /-- A listener, `@name`. -/
  | event
  /-- A property, `.name`. -/
  | property
  /-- An attribute that is present or absent, `?name`. -/
  | boolean
  /-- An attribute in a namespace, `space:name`. -/
  | namespaced
  /-- Any other attribute. -/
  | plain
  deriving DecidableEq, Repr

/-- The wire and the name in what is written before an equals sign. -/
def Wire.split : List Char → Wire × List Char
  | '@' :: name => (.event, name)
  | '.' :: name => (.property, name)
  | '?' :: name => (.boolean, name)
  | name => (if name.contains ':' then .namespaced else .plain, name)

/-- What an attribute is set to. -/
inductive SettingValue (α : Type) where
  /-- The text between quotes. -/
  | text (cs : List Char)
  /-- A hole. -/
  | hole (a : α)
  /-- Nothing, there is only the name. -/
  | absent
  deriving DecidableEq, Repr

/-- An attribute in a tag. -/
inductive Setting (α : Type) where
  /-- A name with what it is set to. -/
  | named (wire : Wire) (name : List Char) (value : SettingValue α)
  /-- A hole that stands by itself. -/
  | directive (a : α)
  deriving DecidableEq, Repr

/-- The attribute with a name as it is written. -/
def Setting.written {α : Type} (name : List Char) (value : SettingValue α) : Setting α :=
  .named (Wire.split name).1 (Wire.split name).2 value

/-- An opening tag. -/
structure Tag (α : Type) where
  name : List Char
  settings : List (Setting α)
  deriving DecidableEq, Repr

/-- What stands between texts: an element or a hole. -/
inductive Node (α : Type) where
  | element (tag : Tag α) (content : Template (Node α))
  | hole (a : α)

/-! ### The reader -/

/-- Where the reader stands. -/
inductive Mode (α : Type) where
  /-- Between tags. -/
  | content
  /-- After the angle bracket of a tag. -/
  | opened
  /-- In the name of a closing tag. -/
  | closing (name : List Char)
  /-- In the name of an opening tag. -/
  | tagName (name : List Char)
  /-- After a blank in a tag. -/
  | gap (tag : Tag α)
  /-- After a blank and a slash in a tag. -/
  | slash (tag : Tag α)
  /-- In the name of an attribute. -/
  | name (tag : Tag α) (name : List Char)
  /-- After the equals sign of an attribute. -/
  | value (tag : Tag α) (name : List Char)
  /-- In the text of an attribute. -/
  | quoted (tag : Tag α) (name text : List Char)
  /-- After an attribute with a value, or after a hole that stands by itself. -/
  | settled (tag : Tag α)

/-- An element that is open: its tag, and what stands before it in the element around it. -/
structure Frame (α : Type) where
  tag : Tag α
  before : Template (Node α)

/-- The state of the reader: the open elements, innermost first, and what is read of the content of
    the innermost one. -/
structure Reading (α : Type) where
  frames : List (Frame α)
  content : Template (Node α)
  mode : Mode α

variable {α : Type}

/-- The tag with more attributes. -/
def Tag.add (tag : Tag α) (settings : List (Setting α)) : Tag α :=
  { tag with settings := tag.settings ++ settings }

namespace Reading

/-- Goes on in another mode. -/
def enter (s : Reading α) (mode : Mode α) : Reading α := { s with mode := mode }

/-- Adds to the content and goes on between tags. -/
def append (s : Reading α) (more : Template (Node α)) : Reading α :=
  { s with content := s.content ++ more, mode := .content }

/-- Goes into an element. -/
def descend (s : Reading α) (tag : Tag α) : Reading α :=
  ⟨⟨tag, s.content⟩ :: s.frames, .empty, .content⟩

/-- Comes back from the innermost element, if it has the name. -/
def ascend (s : Reading α) (name : List Char) : Option (Reading α) :=
  match s.frames with
  | [] => none
  | frame :: frames =>
    if frame.tag.name = name then
      some ⟨frames, frame.before ++ .hole (.element frame.tag s.content), .content⟩
    else none

/-- What may follow the name of a tag or an attribute in it: a blank, or the end of the tag. -/
def follow (s : Reading α) (tag : Tag α) (c : Char) : Option (Reading α) :=
  if c = ' ' then some (s.enter (.gap tag))
  else if c = '>' then some (s.descend tag)
  else none

/-- Takes a character. -/
def stepChar (s : Reading α) (c : Char) : Option (Reading α) :=
  match s.mode with
  | .content => some (if c = '<' then s.enter .opened else s.append (.text [c]))
  | .opened => some (s.enter (if c = '/' then .closing [] else .tagName [c]))
  | .closing name => if c = '>' then s.ascend name else some (s.enter (.closing (name ++ [c])))
  | .tagName name =>
    if c = ' ' ∨ c = '>' then s.follow ⟨name, []⟩ c else some (s.enter (.tagName (name ++ [c])))
  | .gap tag => some (s.enter (if c = '/' then .slash tag else .name tag [c]))
  | .slash tag => if c = '>' then some (s.append (.hole (.element tag .empty))) else none
  | .name tag name =>
    if c = '=' then some (s.enter (.value tag name))
    else if c = ' ' ∨ c = '>' then s.follow (tag.add [.written name .absent]) c
    else some (s.enter (.name tag (name ++ [c])))
  | .value tag name => if c = '"' then some (s.enter (.quoted tag name [])) else none
  | .quoted tag name text =>
    some (s.enter (if c = '"' then .settled (tag.add [.written name (.text text)])
      else .quoted tag name (text ++ [c])))
  | .settled tag => s.follow tag c

/-- Takes a hole, which may stand between tags, as an attribute or as the value of one. -/
def stepHole (s : Reading α) (a : α) : Option (Reading α) :=
  match s.mode with
  | .content => some (s.append (.hole (.hole a)))
  | .gap tag => some (s.enter (.settled (tag.add [.directive a])))
  | .value tag name => some (s.enter (.settled (tag.add [.written name (.hole a)])))
  | _ => none

/-- Takes a character or a hole. -/
def step (s : Reading α) : Char ⊕ α → Option (Reading α)
  | .inl c => s.stepChar c
  | .inr a => s.stepHole a

/-- Takes one after the other. -/
def run (s : Reading α) (word : List (Char ⊕ α)) : Option (Reading α) :=
  word.foldlM step s

end Reading

/-- The tree of a template. -/
def Template.read (t : Template α) : Option (Template (Node α)) :=
  match Reading.run ⟨[], .empty, .content⟩ t.word with
  | some ⟨[], content, .content⟩ => some content
  | _ => none

/-! ### Runs -/

namespace Reading

@[simp] theorem run_nil (s : Reading α) : s.run [] = some s := rfl

/-- A word is read letter by letter. -/
theorem run_cons (s : Reading α) (x : Char ⊕ α) (word : List (Char ⊕ α)) :
    s.run (x :: word) = (s.step x).bind (·.run word) :=
  List.foldlM_cons

/-- Two words are read one after the other. -/
theorem run_append (s : Reading α) (v w : List (Char ⊕ α)) :
    s.run (v ++ w) = (s.run v).bind (·.run w) :=
  List.foldlM_append

/-- A run goes on from where another one stops. -/
theorem run_append_of_eq {s s' : Reading α} {v w : List (Char ⊕ α)} (h : s.run v = some s') :
    s.run (v ++ w) = s'.run w := by
  rw [run_append, h, Option.bind_some]

/-- One letter further, if the step is known. -/
theorem run_cons_of_eq {s s' : Reading α} {x : Char ⊕ α} {w : List (Char ⊕ α)}
    (h : s.step x = some s') : s.run (x :: w) = s'.run w := by
  rw [run_cons, h, Option.bind_some]

/-- **A loop over characters.** If the reader collects each character of a text, it has collected
    the text at its end. -/
theorem run_chars {f : List Char → Reading α} (cs : List Char) {ds : List Char}
    (h : ∀ cs, ∀ d ∈ ds, (f cs).step (.inl d) = some (f (cs ++ [d]))) :
    (f cs).run (Template.chars ds) = some (f (cs ++ ds)) := by
  induction ds generalizing cs with
  | nil => rw [Template.chars_nil, run_nil, List.append_nil]
  | cons d ds ih =>
    rw [Template.chars_cons, run_cons_of_eq (h cs d (by simp)),
      ih (cs ++ [d]) fun cs e he => h cs e (List.mem_cons_of_mem _ he), List.append_assoc,
      List.singleton_append]

end Reading

/-! ### Names -/

/-- Whether a character can stand in a name without ending it. -/
def isNameChar (c : Char) : Bool :=
  c != ' ' && c != '>' && c != '=' && c != '/'

/-- Whether a text can be read as a name. -/
def isName (cs : List Char) : Bool :=
  !cs.isEmpty && cs.all isNameChar

/-- The four characters at which a name ends. -/
theorem isNameChar_iff {c : Char} :
    isNameChar c = true ↔ c ≠ ' ' ∧ c ≠ '>' ∧ c ≠ '=' ∧ c ≠ '/' := by
  simp [isNameChar, and_assoc]

/-- A name has a first character, and all of them are characters of names. -/
theorem exists_of_isName {cs : List Char} (h : isName cs = true) :
    ∃ c ds, cs = c :: ds ∧ isNameChar c = true ∧ ∀ d ∈ ds, isNameChar d = true := by
  rw [isName, Bool.and_eq_true, List.all_eq_true] at h
  cases cs with
  | nil => cases h.1
  | cons c ds => exact ⟨c, ds, rfl, List.forall_mem_cons.1 h.2⟩

/-! ### Attributes -/

/-- The reader stands in an opening tag, at the end of its name or of an attribute. -/
inductive Mode.EndOf : Tag α → Mode α → Prop where
  | tagName (name : List Char) : EndOf ⟨name, []⟩ (.tagName name)
  | name (tag : Tag α) (name : List Char) :
      EndOf (tag.add [.written name .absent]) (.name tag name)
  | settled (tag : Tag α) : EndOf tag (.settled tag)

/-- A word is read as attributes: from the end of the name of a tag, or of an attribute, the reader
    comes to the end of the last one. -/
def ReadsSettings (word : List (Char ⊕ α)) (settings : List (Setting α)) : Prop :=
  ∀ frames content tag mode, Mode.EndOf tag mode →
    ∃ mode', Mode.EndOf (tag.add settings) mode' ∧
      Reading.run ⟨frames, content, mode⟩ word = some ⟨frames, content, mode'⟩

/-- A blank at the end of a setting leads to the gap before the next one. -/
theorem Mode.EndOf.step_blank {tag : Tag α} {mode : Mode α} (h : EndOf tag mode)
    (frames : List (Frame α)) (content : Template (Node α)) :
    Reading.step ⟨frames, content, mode⟩ (.inl ' ') = some ⟨frames, content, .gap tag⟩ := by
  cases h <;> rfl

/-- A closing bracket there leads into the element. -/
theorem Mode.EndOf.step_close {tag : Tag α} {mode : Mode α} (h : EndOf tag mode)
    (frames : List (Frame α)) (content : Template (Node α)) :
    Reading.step ⟨frames, content, mode⟩ (.inl '>') =
      some ⟨⟨tag, content⟩ :: frames, .empty, .content⟩ := by
  cases h <;> rfl

namespace ReadsSettings

/-- Nothing is read as no settings. -/
theorem nil : ReadsSettings ([] : List (Char ⊕ α)) [] := by
  intro frames content tag mode h
  refine ⟨mode, ?_, rfl⟩
  rw [Tag.add, List.append_nil]
  exact h

/-- Settings in a row are read one after the other. -/
theorem append {v w : List (Char ⊕ α)} {as bs : List (Setting α)} (hv : ReadsSettings v as)
    (hw : ReadsSettings w bs) : ReadsSettings (v ++ w) (as ++ bs) := by
  intro frames content tag mode h
  obtain ⟨mode₁, h₁, hrun₁⟩ := hv frames content tag mode h
  obtain ⟨mode₂, h₂, hrun₂⟩ := hw frames content _ mode₁ h₁
  refine ⟨mode₂, ?_, by rw [Reading.run_append_of_eq hrun₁, hrun₂]⟩
  rw [Tag.add, Tag.add, List.append_assoc] at h₂
  exact h₂

/-- A blank and a name. -/
theorem run_name {name : List Char} (hname : isName name = true) {tag : Tag α} {mode : Mode α}
    (h : Mode.EndOf tag mode) (frames : List (Frame α)) (content : Template (Node α)) :
    Reading.run ⟨frames, content, mode⟩ (Template.chars (' ' :: name)) =
      some ⟨frames, content, .name tag name⟩ := by
  obtain ⟨c, ds, rfl, hc, hds⟩ := exists_of_isName hname
  rw [isNameChar_iff] at hc
  -- the first character decides what the blank started; all others only prolong the name
  have hfirst : Reading.step (⟨frames, content, .gap tag⟩ : Reading α) (.inl c) =
      some ⟨frames, content, .name tag [c]⟩ := by
    simp [Reading.step, Reading.stepChar, Reading.enter, hc]
  rw [Template.chars_cons, Template.chars_cons, Reading.run_cons_of_eq (h.step_blank ..),
    Reading.run_cons_of_eq hfirst]
  refine Reading.run_chars (f := fun cs => ⟨frames, content, .name tag cs⟩) [c] fun cs d hd => ?_
  have hd := isNameChar_iff.1 (hds d hd)
  simp [Reading.step, Reading.stepChar, Reading.enter, hd]

/-- An attribute without a value. -/
theorem bare {name : List Char} (hname : isName name = true) :
    ReadsSettings (Template.chars (' ' :: name) : List (Char ⊕ α)) [.written name .absent] := by
  intro frames content tag mode h
  exact ⟨_, .name tag name, run_name hname h frames content⟩

/-- An attribute with a hole for its value. -/
theorem bound {name : List Char} (hname : isName name = true) (a : α) :
    ReadsSettings (Template.chars (' ' :: name ++ ['=']) ++ [.inr a])
      [.written name (.hole a)] := by
  intro frames content tag mode h
  refine ⟨_, .settled _, ?_⟩
  rw [Template.chars_append, List.append_assoc, Reading.run_append_of_eq (run_name hname h ..)]
  rfl

/-- An attribute with a text for its value. -/
theorem text {name value : List Char} (hname : isName name = true) (hvalue : '"' ∉ value) :
    ReadsSettings (Template.chars (' ' :: name ++ '=' :: '"' :: value ++ ['"']) : List (Char ⊕ α))
      [.written name (.text value)] := by
  intro frames content tag mode h
  refine ⟨_, .settled _, ?_⟩
  -- three runs in a row: the name, its equals sign with the quote, and the value
  have hquoted : Reading.run (⟨frames, content, .quoted tag name []⟩ : Reading α)
      (Template.chars value) = some ⟨frames, content, .quoted tag name value⟩ := by
    refine Reading.run_chars (f := fun cs => ⟨frames, content, .quoted tag name cs⟩) []
      fun cs d hd => ?_
    have hne : d ≠ '"' := fun heq => hvalue (heq ▸ hd)
    simp [Reading.step, Reading.stepChar, Reading.enter, hne]
  have hopen : Reading.run (⟨frames, content, .name tag name⟩ : Reading α)
      (Template.chars ['=', '"']) = some ⟨frames, content, .quoted tag name []⟩ := rfl
  have hsplit : ' ' :: name ++ '=' :: '"' :: value ++ ['"'] =
      ' ' :: name ++ (['=', '"'] ++ (value ++ ['"'])) := by simp
  rw [hsplit, Template.chars_append, Template.chars_append, Template.chars_append,
    Reading.run_append_of_eq (run_name hname h ..), Reading.run_append_of_eq hopen,
    Reading.run_append_of_eq hquoted]
  rfl

/-- A hole that stands by itself. -/
theorem directive (a : α) : ReadsSettings [.inl ' ', .inr a] [.directive a] := by
  intro frames content tag mode h
  refine ⟨_, .settled _, ?_⟩
  rw [Reading.run_cons_of_eq (h.step_blank ..)]
  rfl

end ReadsSettings

/-! ### Content -/

/-- A word is read as content: between tags, the reader adds it to what is there. -/
def ReadsContent (word : List (Char ⊕ α)) (more : Template (Node α)) : Prop :=
  ∀ frames content,
    Reading.run ⟨frames, content, .content⟩ word = some ⟨frames, content ++ more, .content⟩

namespace ReadsContent

/-- Nothing is read as no content. -/
theorem nil : ReadsContent ([] : List (Char ⊕ α)) .empty := by
  intro frames content
  rw [Reading.run_nil, Template.append_empty]

/-- Content in a row is read one after the other. -/
theorem append {v w : List (Char ⊕ α)} {t u : Template (Node α)} (hv : ReadsContent v t)
    (hw : ReadsContent w u) : ReadsContent (v ++ w) (t ++ u) := by
  intro frames content
  rw [Reading.run_append_of_eq (hv frames content), hw frames, Template.append_assoc]

/-- Text without an angle bracket is read as it is. -/
theorem text {cs : List Char} (h : '<' ∉ cs) :
    ReadsContent (Template.chars cs : List (Char ⊕ α)) (.text cs) := by
  intro frames content
  -- the text read so far is part of the content, which is what the run is generalized over
  have hstep : ∀ ds, ∀ d ∈ cs,
      Reading.step (⟨frames, content ++ .text ds, .content⟩ : Reading α) (.inl d) =
        some ⟨frames, content ++ .text (ds ++ [d]), .content⟩ := by
    intro ds d hd
    have hne : d ≠ '<' := fun heq => h (heq ▸ hd)
    simp [Reading.step, Reading.stepChar, Reading.append, hne, Template.append_assoc,
      Template.text_append_text]
  have hrun := Reading.run_chars (f := fun ds => ⟨frames, content ++ .text ds, .content⟩) [] hstep
  rw [Template.text_nil, Template.append_empty, List.nil_append] at hrun
  exact hrun

/-- A hole between tags is read as such. -/
theorem hole (a : α) : ReadsContent [.inr a] (.hole (.hole a)) := by
  intro frames content
  rfl

/-- The angle bracket and the name of an opening tag. -/
theorem run_opening {name : List Char} (hname : isName name = true) (frames : List (Frame α))
    (content : Template (Node α)) :
    Reading.run ⟨frames, content, .content⟩ (Template.chars ('<' :: name)) =
      some ⟨frames, content, .tagName name⟩ := by
  obtain ⟨c, ds, rfl, hc, hds⟩ := exists_of_isName hname
  rw [isNameChar_iff] at hc
  have hopen : Reading.step (⟨frames, content, .content⟩ : Reading α) (.inl '<') =
      some ⟨frames, content, .opened⟩ := rfl
  have hfirst : Reading.step (⟨frames, content, .opened⟩ : Reading α) (.inl c) =
      some ⟨frames, content, .tagName [c]⟩ := by
    simp [Reading.step, Reading.stepChar, Reading.enter, hc]
  rw [Template.chars_cons, Template.chars_cons, Reading.run_cons_of_eq hopen,
    Reading.run_cons_of_eq hfirst]
  refine Reading.run_chars (f := fun cs => ⟨frames, content, .tagName cs⟩) [c] fun cs d hd => ?_
  have hd := isNameChar_iff.1 (hds d hd)
  simp [Reading.step, Reading.stepChar, Reading.enter, hd]

/-- A closing tag of the innermost element. -/
theorem run_closing {tag : Tag α} (hname : isName tag.name = true) (frames : List (Frame α))
    (before content : Template (Node α)) :
    Reading.run ⟨⟨tag, before⟩ :: frames, content, .content⟩
        (Template.chars ('<' :: '/' :: tag.name ++ ['>'])) =
      some ⟨frames, before ++ .hole (.element tag content), .content⟩ := by
  -- the closing tag carries the name of the frame on top, so the frame is what is closed
  have hall := List.all_eq_true.1 (Bool.and_eq_true_iff.1 hname).2
  have hopen : Reading.run (⟨⟨tag, before⟩ :: frames, content, .content⟩ : Reading α)
      (Template.chars ['<', '/']) = some ⟨⟨tag, before⟩ :: frames, content, .closing []⟩ := rfl
  have hrun : Reading.run (⟨⟨tag, before⟩ :: frames, content, .closing []⟩ : Reading α)
      (Template.chars tag.name) = some ⟨⟨tag, before⟩ :: frames, content, .closing tag.name⟩ := by
    refine Reading.run_chars (f := fun cs => ⟨⟨tag, before⟩ :: frames, content, .closing cs⟩) []
      fun cs d hd => ?_
    have hd := isNameChar_iff.1 (hall d hd)
    simp [Reading.step, Reading.stepChar, Reading.enter, hd]
  have hchars : '<' :: '/' :: tag.name ++ ['>'] = ['<', '/'] ++ (tag.name ++ ['>']) := rfl
  rw [hchars, Template.chars_append, Template.chars_append, Reading.run_append_of_eq hopen,
    Reading.run_append_of_eq hrun]
  simp [Reading.run_cons, Reading.step, Reading.stepChar, Reading.ascend]

/-- An element with content. -/
theorem element {name : List Char} (hname : isName name = true) {v w : List (Char ⊕ α)}
    {settings : List (Setting α)} {inner : Template (Node α)} (hv : ReadsSettings v settings)
    (hw : ReadsContent w inner) :
    ReadsContent (Template.chars ('<' :: name) ++ v ++ [.inl '>'] ++ w ++
      Template.chars ('<' :: '/' :: name ++ ['>'])) (.hole (.element ⟨name, settings⟩ inner)) := by
  intro frames content
  -- settings leave the tag in some mode that ends one, and all of those go on in the same way
  obtain ⟨mode, hmode, hrun⟩ := hv frames content ⟨name, []⟩ _ (.tagName name)
  rw [List.append_assoc, List.append_assoc, List.append_assoc,
    Reading.run_append_of_eq (run_opening hname ..), Reading.run_append_of_eq hrun,
    List.singleton_append, Reading.run_cons_of_eq (hmode.step_close ..),
    Reading.run_append_of_eq (hw ..), Template.empty_append]
  exact run_closing hname frames content inner

/-- An element that has no content by its tag. -/
theorem void {name : List Char} (hname : isName name = true) {v : List (Char ⊕ α)}
    {settings : List (Setting α)} (hv : ReadsSettings v settings) :
    ReadsContent (Template.chars ('<' :: name) ++ v ++ Template.chars " />".toList)
      (.hole (.element ⟨name, settings⟩ .empty)) := by
  intro frames content
  obtain ⟨mode, hmode, hrun⟩ := hv frames content ⟨name, []⟩ _ (.tagName name)
  have hslash : " />".toList = [' ', '/', '>'] := rfl
  rw [List.append_assoc, Reading.run_append_of_eq (run_opening hname ..),
    Reading.run_append_of_eq hrun, hslash, Template.chars_cons,
    Reading.run_cons_of_eq (hmode.step_blank ..)]
  rfl

/-- A template whose word is content is read as that. -/
theorem read_eq {t : Template α} {tree : Template (Node α)} (h : ReadsContent t.word tree) :
    t.read = some tree := by
  rw [Template.read, h [] .empty, Template.empty_append]

end ReadsContent

end JsxTemplate
