import TypedSteps.Proofs.Template.Closing
import TypedSteps.Proofs.Text.Pieces

/-!
# Lists with commas come back as they were written

A keyword for lists behind literal text takes the whole rest of a step, whatever stands in it, as
long as no two commas are next to each other and none stands at an end: its pattern stops at a
comma only where no further item begins. The text is then split at the commas, and the white space
around the items is left out.

* `PaddedItem` — items without commas, with white space around them;
* `listItemRegex`, `can_round` — the items of the pattern of lists, and its rounds;
* `EndsItems`, `endsItems_of_first` — where the pattern of lists stops;
* `eq_nil_of_endsItems` — it does not stop inside of a list;
* `listItems_joined` — splitting and trimming give the items back;
* `comma_lists_round_trip` — they come back in order.
-/

namespace TypedSteps

-- ---------------------------------------------------------------------------
-- Items
-- ---------------------------------------------------------------------------

/-- An item to be written into a list: a text without commas, and without white space at its ends,
and white space around it. Not both are empty. -/
structure PaddedItem where
  before : String
  text : String
  after : String
  commaFree : ',' ∉ text.toList
  opens : ∀ c, text.toList.head? = some c → Unicode.isWhiteSpace c = false
  closes : ∀ c, text.toList.getLast? = some c → Unicode.isWhiteSpace c = false
  blankBefore : ∀ c ∈ before.toList, Unicode.isWhiteSpace c = true
  blankAfter : ∀ c ∈ after.toList, Unicode.isWhiteSpace c = true
  nonempty : before ++ text ++ after ≠ ""

namespace PaddedItem

/-- The item as it is written. -/
def written (item : PaddedItem) : String :=
  item.before ++ item.text ++ item.after

/-- Items with commas between them. -/
def joined (items : List PaddedItem) : String :=
  ",".intercalate (items.map written)

variable {items : List PaddedItem}

/-- An item is written with the white space around it. -/
theorem toList_written (item : PaddedItem) :
    item.written.toList = item.before.toList ++ item.text.toList ++ item.after.toList := by
  rw [written, String.toList_append, String.toList_append]

/-- What is written of an item is trimmed to its text. -/
theorem trims (item : PaddedItem) : Trims item.written.toList item.text.toList :=
  ⟨item.before.toList, item.after.toList, item.toList_written, item.blankBefore, item.blankAfter,
    item.opens, item.closes⟩

/-- What is written of an item has no comma. -/
theorem comma_notMem (item : PaddedItem) : ',' ∉ item.written.toList := by
  have hComma : Unicode.isWhiteSpace ',' = false := by decide
  rw [toList_written, List.mem_append, List.mem_append]
  rintro ((h | h) | h)
  · exact absurd (item.blankBefore _ h) (Bool.eq_false_iff.mp hComma)
  · exact item.commaFree h
  · exact absurd (item.blankAfter _ h) (Bool.eq_false_iff.mp hComma)

/-- Each item is a run of characters that are no commas. -/
theorem run_written (item : PaddedItem) : Run (· != ',') item.written.toList := by
  refine ⟨fun hNil => item.nonempty (String.toList_eq_nil_iff.mp hNil), fun c hc => ?_⟩
  refine bne_iff_ne.mpr ?_
  rintro rfl
  exact item.comma_notMem hc

theorem toList_joined (items : List PaddedItem) :
    (joined items).toList = [','].intercalate (items.map fun item => item.written.toList) := by
  rw [joined, String.toList_intercalate, List.map_map]
  rfl

/-- The items are what stands between the commas. -/
theorem splitAt_joined (hSome : items ≠ []) :
    Text.splitAt ',' (joined items).toList = items.map fun item => item.written.toList := by
  rw [toList_joined]
  refine splitAt_intercalate (List.map_eq_nil_iff.not.mpr hSome) fun piece hPiece => ?_
  obtain ⟨item, -, rfl⟩ := List.mem_map.mp hPiece
  exact item.comma_notMem

/-- Splitting and trimming give the items back. -/
theorem listItems_joined (hSome : items ≠ []) :
    listItems (joined items) = items.map (·.text) := by
  rw [listItems, splitAt_joined hSome, List.map_map]
  refine List.map_congr_left fun item _ => ?_
  show String.ofList (Text.trimCharacters item.written.toList) = item.text
  rw [item.trims.trimCharacters_eq, String.ofList_toList]

/-- Joined items have the shape of a list. -/
theorem shape_joined (hSome : items ≠ []) : Builtin.list.Shape (joined items).toList := by
  refine ⟨items.map fun item => item.written.toList, toList_joined items, ?_, ?_⟩
  · rw [List.length_map]
    exact List.length_pos_iff.mpr hSome
  · intro v hv
    obtain ⟨item, -, rfl⟩ := List.mem_map.mp hv
    exact item.run_written

end PaddedItem

-- ---------------------------------------------------------------------------
-- Where lists end
-- ---------------------------------------------------------------------------

/-- A list can end before a text: the text is empty, or begins with a comma behind which no item
begins. -/
def EndsItems (after : List Char) : Prop :=
  ∀ c rest, after = c :: rest → c = ',' ∧ ∀ d, rest.head? = some d → d = ','

/-- What the pattern of lists has for an item. -/
def listItemRegex : Regex :=
  .rep (.chars (Unicode.CharSet.ofChar ',').complement false) 1 none true

theorem contains_item : (Unicode.CharSet.ofChar ',').complement.contains = (· != ',') :=
  contains_complement_ofChar ',' (by decide)

/-- Behind an item no further character of the item can be taken. -/
theorem comma_of_first_item {text : Array Char} {K : Nat → Prop} (hK : ∀ k, K k) {i j : Nat}
    {w : Slots} (h : (listItemRegex.choice text).first K i j w) {c : Char}
    (hc : text[j]? = some c) : c = ',' := by
  have hStop := first_repeated_take hK h c hc
  rw [contains_item] at hStop
  exact bne_eq_false_iff_eq.mp hStop

/-- A comma and one character of an item make a round of the pattern of lists. -/
theorem can_round {text : Array Char} {j : Nat} {d : Char} {rest : List Char}
    (h : text.toList.drop j = ',' :: d :: rest) (hne : d ≠ ',') :
    ((Regex.cat (.char ',') listItemRegex).choice text).can j (j + 2) [] := by
  have hSpells : Spells text ((Regex.cat (.char ',') listItemRegex).meaning text) _ :=
    (spells_run contains_item false true).cons ','
  have hStands : Stands text j (j + 2) [',', d] := (stands_of_drop h).1
  rw [Regex.can_choice]
  refine (hSpells j (j + 2) []).mpr ⟨rfl, [',', d], hStands, [d], rfl, List.cons_ne_nil d [], ?_⟩
  rw [List.forall_mem_singleton]
  exact bne_iff_ne.mpr hne

/-- The pattern of lists stops where a list can end, and nowhere else. -/
theorem endsItems_of_first {text : Array Char} {K : Nat → Prop} (hK : ∀ k, K k) {i j : Nat}
    {w : Slots} (h : (Builtin.list.regex.choice text).first K i j w) :
    EndsItems (text.toList.drop j) := by
  obtain ⟨k, u, v, hFirst, ⟨l, _, v', ⟨⟨rfl, rfl⟩, -⟩, hRounds, -⟩, -⟩ := h
  have hEnds : ∀ c, text[j]? = some c → c = ',' := by
    refine Choice.Rounds.invariant (P := fun k => ∀ c, text[k]? = some c → c = ',') hRounds ?_ ?_
    · refine fun _ => comma_of_first_item (fun k => ?_) hFirst
      obtain ⟨l, u, hRounds, hl⟩ := Meaning.reaches_repeats hK k
      exact ⟨l, u ++ [], ⟨k, [], u, ⟨rfl, rfl⟩, hRounds, rfl⟩, hl⟩
    · rintro i k u ⟨l, _, _, -, hRound, -⟩ _
      exact comma_of_first_item (Meaning.reaches_repeats hK) hRound
  have hStops := Choice.Rounds.stops hRounds
  intro c rest hRest
  have hc : text[j]? = some c := by
    rw [← Array.getElem?_toList, ← List.head?_drop, hRest, List.head?_cons]
  obtain rfl := hEnds c hc
  refine ⟨rfl, fun d hd => ?_⟩
  by_contra hne
  -- a further round could have been gone, so the rounds would not have stopped here
  obtain ⟨rest, rfl⟩ := List.head?_eq_some_iff.mp hd
  exact hStops ⟨j + 2, [], can_round hRest hne, Meaning.reaches_repeats hK _⟩

/-- Inside of a list no list ends: where it did there would be an empty item behind the comma. -/
theorem eq_nil_of_endsItems {items : List PaddedItem} (hSome : items ≠ [])
    {v after : List Char} (hv : (PaddedItem.joined items).toList = v ++ after)
    (hEnds : EndsItems after) : after = [] := by
  cases after with
  | nil => rfl
  | cons c rest =>
    obtain ⟨rfl, hRest⟩ := hEnds c rest rfl
    have hEmpty : [] ∈ Text.splitAt ',' rest := by
      cases rest with
      | nil => exact List.mem_singleton_self []
      | cons d rest =>
        rw [hRest d rfl, Text.splitAt, if_pos rfl]
        exact List.mem_cons_self
    have hPieces := PaddedItem.splitAt_joined hSome
    rw [hv, splitAt_append_cons] at hPieces
    have hMem : [] ∈ items.map fun item => item.written.toList := by
      rw [← hPieces]
      exact List.mem_append_right _ hEmpty
    obtain ⟨item, -, hItem⟩ := List.mem_map.mp hMem
    exact absurd hItem item.run_written.1

-- ---------------------------------------------------------------------------
-- Values
-- ---------------------------------------------------------------------------

/-- **Lists with commas come back as they were written.** Take any registry that registering,
clearing and pinning lead to, in the mode that escapes literal text, literal text without keywords,
and items without commas, one at least, each with white space around it so that it is not empty. The
keyword for lists behind the literal text yields one value on the literal text and the items with
commas between them: the list of the items, in order, without the white space around them. -/
theorem comma_lists_round_trip {r : Registry} (hr : r.Reachable) (settings : MatchSettings)
    (hEscape : r.escapes settings.escape = true) {p : String} (hp : ¬ r.HasKeyword p)
    {items : List PaddedItem} (hSome : items ≠ []) (keyword : Keyword) (shared : SharedTypes) :
    matchStep r settings ⟨keyword, p ++ PaddedItem.joined items⟩ (p ++ "{list}") shared =
      (.ok [.list (items.map (·.text))], shared) := by
  have hText : (p ++ PaddedItem.joined items).toList =
      p.toList ++ (PaddedItem.joined items).toList := String.toList_append
  have hAdmits : Builtin.list.Admits p.toList (PaddedItem.joined items).toList [] :=
    ⟨PaddedItem.shape_joined hSome, nofun⟩
  have hCaptures := captures_closing hr.valid hp hText hAdmits
    (fun hK hFirst => endsItems_of_first hK hFirst) (eq_nil_of_endsItems hSome)
  have hValue : Builtin.list.convert settings.zone
      (String.ofList (PaddedItem.joined items).toList) = .ok (.list (items.map (·.text))) := by
    rw [String.ofList_toList, Builtin.convert, PaddedItem.listItems_joined hSome]
  have hTemplate : closing p .list = p ++ "{list}" := by
    have hKeyword : TypedSteps.keyword Builtin.list.name = "{list}" := by decide
    rw [closing, hKeyword]
  rw [← hTemplate, matchStep_closing hr.valid hp hEscape ⟨keyword, _⟩ hCaptures hValue]

/-- Three items: one that spans lines, one that is all white space, and one without any around it. -/
def mixedItems : List PaddedItem :=
  [{ before := " ", text := "a\nb", after := "\u2003"
     commaFree := by decide
     opens := (Option.any_eq_false _ _).mp (by decide)
     closes := (Option.any_eq_false _ _).mp (by decide)
     blankBefore := List.all_eq_true.mp (by decide)
     blankAfter := List.all_eq_true.mp (by decide)
     nonempty := by decide },
   { before := "\u3000", text := "", after := "\t"
     commaFree := by decide
     opens := nofun
     closes := nofun
     blankBefore := List.all_eq_true.mp (by decide)
     blankAfter := List.all_eq_true.mp (by decide)
     nonempty := by decide },
   { before := "", text := "c d", after := ""
     commaFree := by decide
     opens := (Option.any_eq_false _ _).mp (by decide)
     closes := (Option.any_eq_false _ _).mp (by decide)
     blankBefore := nofun
     blankAfter := nofun
     nonempty := by decide }]

/-- Operators and the keyword of an unknown type are literal text. -/
theorem comma_lists_round_trip_mixedItems :
    (Registry.empty.pin true).Reachable ∧ (Registry.empty.pin true).escapes false = true ∧
    ¬ (Registry.empty.pin true).HasKeyword "$5 (cash)* {nobody}" ∧ mixedItems ≠ [] ∧
    ∀ zone shared,
      matchStep (Registry.empty.pin true) ⟨false, zone⟩
          ⟨.when, "$5 (cash)* {nobody} a\nb\u2003,\u3000\t,c d"⟩ "$5 (cash)* {nobody}{list}" shared =
        (.ok [.list ["a\nb", "", "c d"]], shared) := by
  have hReachable : (Registry.empty.pin true).Reachable := .pin .empty true
  have hEscapes : (Registry.empty.pin true).escapes false = true := rfl
  have hPlain : ¬ (Registry.empty.pin true).HasKeyword "$5 (cash)* {nobody}" := by
    rw [← hasPlaceholder_iff]
    decide +kernel
  have hSome : mixedItems ≠ [] := List.cons_ne_nil _ _
  refine ⟨hReachable, hEscapes, hPlain, hSome, fun zone shared => ?_⟩
  have hMatch := comma_lists_round_trip hReachable ⟨false, zone⟩ hEscapes hPlain hSome .when shared
  exact hMatch

end TypedSteps
