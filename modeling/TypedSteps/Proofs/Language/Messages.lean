import TypedSteps.Language.Error
import TypedSteps.Proofs.Language.Scopes

/-!
# Messages of errors show their fields

The message of an error is the entry of the first selected language. Writing it puts every field
between isolates, and showing it takes all isolates away again, those that a field held of its
own included. No entry has isolates in its own words, so what is left is the entry with the
fields in their places, and of the fields nothing is lost but isolates.

* `plainText` — a text without directional isolates;
* `Shows`, `shows_display` — a message that is an entry with fields in its places;
* `fields_parts` — the places of an entry are the same in all languages;
* `ScopeRun.exists_current` — some language is always selected;
* `messages_show_their_fields` — the messages of all errors.
-/

namespace TypedSteps

-- ---------------------------------------------------------------------------
-- Texts without isolates
-- ---------------------------------------------------------------------------

/-- The characters U+2066 to U+2069, which set apart a text of another direction. -/
def directionalIsolates : List Char :=
  ['\u2066', '\u2067', '\u2068', '\u2069']

/-- A text without directional isolates; all its other characters are kept. -/
def plainText (text : String) : String :=
  String.ofList (text.toList.filter fun c => decide (c ∉ directionalIsolates))

theorem toList_plainText (text : String) :
    (plainText text).toList = text.toList.filter fun c => decide (c ∉ directionalIsolates) :=
  String.toList_ofList

/-- The four isolates are those of a range of code points. -/
theorem isIsolate_iff (c : Char) : isIsolate c = true ↔ c ∈ directionalIsolates := by
  have hCode (d : Char) : c = d ↔ c.toNat = d.toNat := by
    rw [← Char.toNat_inj]
  simp only [isIsolate, Bool.and_eq_true, decide_eq_true_eq, directionalIsolates, List.mem_cons,
    List.not_mem_nil, or_false, hCode]
  show 0x2066 ≤ c.toNat ∧ c.toNat ≤ 0x2069 ↔
    c.toNat = 0x2066 ∨ c.toNat = 0x2067 ∨ c.toNat = 0x2068 ∨ c.toNat = 0x2069
  omega

/-- What is stripped of a text are its isolates. -/
theorem stripIsolates_eq_plainText (text : String) : stripIsolates text = plainText text := by
  rw [stripIsolates, plainText]
  congr 2
  funext c
  rw [Bool.eq_iff_iff, Bool.not_eq_true', Bool.eq_false_iff, decide_eq_true_eq, ne_eq,
    isIsolate_iff]

theorem plainText_append (a b : String) : plainText (a ++ b) = plainText a ++ plainText b := by
  rw [plainText, String.toList_append, List.filter_append, String.ofList_append]
  rfl

theorem plainText_join (texts : List String) :
    plainText (String.join texts) = String.join (texts.map plainText) := by
  induction texts with
  | nil => rfl
  | cons text texts ih =>
    rw [String.join_cons, plainText_append, ih, List.map_cons, String.join_cons]

/-- The isolates around a field are dropped again. -/
theorem plainText_isolated (text : String) : plainText (isolated text) = plainText text := by
  have hOpen : plainText "\u2068" = "" := by decide
  have hClose : plainText "\u2069" = "" := by decide
  rw [isolated, plainText_append, plainText_append, hOpen, hClose, String.empty_append,
    String.append_empty]

/-- What is left of a text holds no isolates. -/
theorem notMem_plainText {text : String} {c : Char} (hc : c ∈ (plainText text).toList) :
    c ∉ directionalIsolates := by
  rw [toList_plainText, List.mem_filter, decide_eq_true_eq] at hc
  exact hc.2

-- ---------------------------------------------------------------------------
-- Entries with fields in their places
-- ---------------------------------------------------------------------------

/-- The field that a part of an entry has a place for. -/
def Part.field? : Part → Option String
  | text _ => none
  | argument name => some name

/-- The words of a part of an entry. -/
def Part.words : Part → String
  | text words => words
  | argument _ => ""

/-- A part of an entry with the field of its place put in, isolates left out. -/
def Part.filled (fields : Arguments) : Part → String
  | text words => words
  | argument name => ((fields.lookup name).map plainText).getD ""

/-- A message is the entry of a language with fields in its places, isolates left out: the entry
has one place for each field and no other, every field is there to be read, and no isolate is
left. -/
structure Shows (id : MessageId) (language : Language) (fields : Arguments) (message : String) :
    Prop where
  places : ((id.parts language).filterMap Part.field?).Perm (fields.map (·.1))
  text : message = String.join ((id.parts language).map (·.filled fields))
  kept : ∀ name value, fields.lookup name = some value →
    (plainText value).toList <:+: message.toList
  plain : ∀ c ∈ message.toList, c ∉ directionalIsolates

section Shown

variable {id : MessageId} {language : Language} {fields : Arguments} {part : Part}

/-- The words of the entries hold no isolates. -/
theorem plainText_words (h : part ∈ id.parts language) : plainText part.words = part.words := by
  have hAll : ∀ part ∈ id.parts language, plainText part.words = part.words := by
    cases language <;> cases id <;> decide +kernel
  exact hAll part h

/-- A field has a value if its name is among the names. -/
theorem exists_lookup_iff {name : String} :
    (∃ value, fields.lookup name = some value) ↔ name ∈ fields.map (·.1) := by
  rw [← Option.isSome_iff_exists, List.lookup_isSome_iff, List.mem_map]
  constructor
  · rintro ⟨field, hField, heq⟩
    exact ⟨field, hField, (beq_iff_eq.mp heq).symm⟩
  · rintro ⟨field, hField, rfl⟩
    exact ⟨field, hField, beq_self_eq_true _⟩

/-- A part with the arguments put in shows the field of its place once the isolates are gone. -/
theorem plainText_render (hPart : part ∈ id.parts language)
    (hField : ∀ name, part = .argument name → ∃ value, fields.lookup name = some value) :
    plainText (part.render fields) = part.filled fields := by
  cases part with
  | text words => exact plainText_words hPart
  | argument name =>
    obtain ⟨value, hValue⟩ := hField name rfl
    rw [Part.render, Part.filled, hValue]
    exact plainText_isolated value

theorem infix_join {text : String} {texts : List String} (h : text ∈ texts) :
    text.toList <:+: (String.join texts).toList := by
  obtain ⟨before, after, rfl⟩ := List.append_of_mem h
  refine ⟨(String.join before).toList, (String.join after).toList, ?_⟩
  rw [String.join_append, String.join_cons, String.toList_append, String.toList_append,
    List.append_assoc]

/-- A message that has a place for each of its arguments, and no other, shows them. -/
theorem shows_display
    (h : ((id.parts language).filterMap Part.field?).Perm (fields.map (·.1))) :
    Shows id language fields (id.display language fields) := by
  -- every place of the message is filled by a field
  have hGiven : ∀ part ∈ id.parts language, ∀ name, part = .argument name →
      ∃ value, fields.lookup name = some value := by
    rintro _ hPart name rfl
    refine exists_lookup_iff.mpr (h.mem_iff.mp ?_)
    exact List.mem_filterMap.mpr ⟨_, hPart, rfl⟩
  have hText : id.display language fields =
      String.join ((id.parts language).map (·.filled fields)) := by
    rw [MessageId.display, stripIsolates_eq_plainText, MessageId.render, plainText_join,
      List.map_map]
    refine congrArg String.join (List.map_congr_left fun part hPart => ?_)
    exact plainText_render hPart (hGiven part hPart)
  refine ⟨h, hText, ?_, ?_⟩
  · intro name value hValue
    have hName : name ∈ fields.map (·.1) := exists_lookup_iff.mp ⟨value, hValue⟩
    -- every field fills some place of the message
    obtain ⟨part, hPart, hField⟩ := List.mem_filterMap.mp (h.mem_iff.mpr hName)
    have hFilled : part.filled fields = plainText value := by
      cases part with
      | text words => cases hField
      | argument place =>
        cases hField
        rw [Part.filled, hValue]
        rfl
    rw [hText, ← hFilled]
    exact infix_join (List.mem_map_of_mem hPart)
  · intro c hc
    rw [MessageId.display, stripIsolates_eq_plainText] at hc
    exact notMem_plainText hc

end Shown

-- ---------------------------------------------------------------------------
-- The messages of errors
-- ---------------------------------------------------------------------------

/-- The fields that a message shows, in whatever order an entry has them. -/
def MessageId.fieldNames : MessageId → List String
  | mismatch => ["step", "expression"]
  | invalidExpression => ["expression", "reason"]
  | conversion => ["step", "placeholder", "text", "reason"]
  | integerOutOfRange => []
  | invalidFloat => []
  | invalidDate => []
  | nonexistentLocalTime => []
  | builtinExists => ["name"]
  | customExists => ["name"]
  | invalidName => ["name"]
  | invalidPattern => ["name", "reason"]
  | unsupportedStepType => ["step_type"]
  | invalidKeyword => ["keyword"]

/-- The entries of a message in all languages have the same places. -/
theorem fields_parts (id : MessageId) (language : Language) :
    ((id.parts language).filterMap Part.field?).Perm id.fieldNames := by
  cases language <;> cases id <;> decide +kernel

/-- A message is written as its entry in a language once each of its fields is given. -/
theorem shows_display_of_names {id : MessageId} {fields : Arguments}
    (h : fields.map (·.1) = id.fieldNames) (language : Language) :
    Shows id language fields (id.display language fields) :=
  shows_display (h ▸ fields_parts id language)

/-- Why a conversion failed is an entry without places, which needs no isolates. -/
theorem ConversionError.display_messageId (e : ConversionError) (language : Language) :
    e.messageId.display language [] = e.message language := by
  cases language <;> cases e <;> decide +kernel

/-- A request selects some language, whatever its tags. -/
theorem Language.select_ne_nil (tags : List String) : Language.select tags ≠ [] := by
  have hMentions : ∀ {languages}, languages ≠ [] → Language.firstMentions languages ≠ []
    | [], h => absurd rfl h
    | _ :: _, _ => List.cons_ne_nil _ _
  exact hMentions (List.append_ne_nil_of_right_ne_nil _ (List.cons_ne_nil _ _))

/-- The languages last selected outside scopes are never none. -/
theorem ScopeRun.lastSelected_ne_nil (run : ScopeRun) : run.lastSelected ≠ [] := by
  induction run with
  | nil => exact List.cons_ne_nil _ _
  | cons event earlier ih =>
    cases event with
    | selected tags => exact Language.select_ne_nil tags
    | opened tags => exact ih
    | closed index => exact ih

/-- Some language is in force at the end of every run; the first one is that of all messages. -/
theorem ScopeRun.exists_current (run : ScopeRun) :
    ∃ others, run.state.current = run.state.language :: others := by
  have hCurrent : run.state.current ≠ [] := by
    rw [Scopes.current]
    cases hOverride : run.state.override with
    | none =>
      rw [Option.getD_none, run.selected_state]
      exact run.lastSelected_ne_nil
    | some languages =>
      obtain ⟨tags, -, rfl⟩ := exists_opened_of_override run hOverride
      exact Language.select_ne_nil tags
  obtain ⟨language, others, hOthers⟩ := List.exists_cons_of_ne_nil hCurrent
  refine ⟨others, ?_⟩
  rw [Scopes.language, hOthers]
  rfl

/-- **Messages of errors show their fields.** After any run of selections and scopes, opened
and closed in any order, and whatever the fields of an error hold, its message is the entry of
the first selected language with each place filled by the field of that name. Just the isolates
of the fields are gone, and the message holds none. Why a conversion failed is told in that same
language; the diagnostic of a pattern is what `describe` says. -/
theorem messages_show_their_fields (run : ScopeRun) (describe : SyntaxError → String) :
    (∃ others, run.state.current = run.state.language :: others) ∧
    (∀ step template, Shows .mismatch run.state.language
      [("step", step), ("expression", template)]
      ((MatchError.mismatch step template).message describe run.state.language)) ∧
    (∀ template reason, Shows .invalidExpression run.state.language
      [("expression", template), ("reason", describe reason)]
      ((MatchError.invalidExpression template reason).message describe run.state.language)) ∧
    (∀ step group text reason, Shows .conversion run.state.language
      [("step", step), ("placeholder", group), ("text", text),
        ("reason", reason.message run.state.language)]
      ((MatchError.conversion step group text reason).message describe run.state.language)) ∧
    (∀ reason : ConversionError, Shows reason.messageId run.state.language []
      (reason.message run.state.language)) ∧
    (∀ name, Shows .builtinExists run.state.language [("name", name)]
      ((RegistrationError.builtinCollision name).message describe run.state.language)) ∧
    (∀ name, Shows .customExists run.state.language [("name", name)]
      ((RegistrationError.customCollision name).message describe run.state.language)) ∧
    (∀ name, Shows .invalidName run.state.language [("name", name)]
      ((RegistrationError.invalidName name).message describe run.state.language)) ∧
    (∀ name reason, Shows .invalidPattern run.state.language
      [("name", name), ("reason", describe reason)]
      ((RegistrationError.invalidPattern name reason).message describe run.state.language)) ∧
    ∀ word, Shows .invalidKeyword run.state.language [("keyword", word)]
      ((KeywordError.mk word).message run.state.language) := by
  -- the run only settles which language is the first; the entries are compared for every language
  generalize hLanguage : run.state.language = language
  refine ⟨hLanguage ▸ run.exists_current, fun _ _ => ?mismatch, fun _ _ => ?invalidExpression,
    fun _ _ _ _ => ?conversion, fun reason => ?reason, fun _ => ?builtin, fun _ => ?custom,
    fun _ => ?name, fun _ _ => ?pattern, fun _ => ?keyword⟩
  case reason =>
    rw [← reason.display_messageId]
    refine shows_display_of_names ?_ language
    cases reason <;> rfl
  all_goals exact shows_display_of_names rfl language

/-- What looks like a place in a field is not filled, and isolates of a field are not shown. -/
example :
    (KeywordError.mk "\x7b $keyword \x7d\u2067!\u2069").message .french =
      "Mot-clé d’étape invalide : \x7b $keyword \x7d!" := by
  decide +kernel

end TypedSteps
