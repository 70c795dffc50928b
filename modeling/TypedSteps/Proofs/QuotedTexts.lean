import TypedSteps.Proofs.Builtin.Denotation
import TypedSteps.Proofs.Template.Adjacent

/-!
# Quoted texts come back as they were written

The keyword for quoted text finds every text between two quotes of a kind that does not occur in
it, whatever else stands in it, as long as no stray quotes stand between the texts.

* `QuotedText`, `QuoteFree` — texts between quotes, and what may stand between them;
* `strings_of_scan` — a scan for quoted texts takes them one after the other;
* `quoted_texts_round_trip` — they come back in order and verbatim.
-/

namespace TypedSteps

/-- A text to be written between two quotes of a kind, double or single, that does not occur in
it. -/
structure QuotedText where
  text : String
  quote : Char
  isQuote : quote = '"' ∨ quote = '\''
  free : quote ∉ text.toList

/-- The text between its quotes. -/
def QuotedText.written (q : QuotedText) : String :=
  String.singleton q.quote ++ q.text ++ String.singleton q.quote

/-- No quote of either kind occurs in a text. -/
def QuoteFree (cs : List Char) : Prop :=
  '"' ∉ cs ∧ '\'' ∉ cs

section Quotes

variable {cs : List Char}

/-- A quoted text is written with its quote on both sides. -/
theorem QuotedText.toList_written (q : QuotedText) :
    q.written.toList = q.quote :: q.text.toList ++ [q.quote] := by
  rw [written, String.toList_append, String.toList_append, String.toList_singleton]
  rfl

/-- A quoted text has the shape of quoted texts. -/
theorem QuotedText.shape_written (q : QuotedText) : Builtin.string.Shape q.written.toList := by
  obtain ⟨text, quote, rfl | rfl, free⟩ := q
  · exact .inl ⟨text.toList, toList_written _, free⟩
  · exact .inr ⟨text.toList, toList_written _, free⟩

/-- A quoted text begins and ends with its quote, which is one of the two. -/
theorem exists_quoted_of_shape {v : List Char} (h : Builtin.string.Shape v) :
    ∃ quote, (quote = '"' ∨ quote = '\'') ∧ Quoted quote v := by
  rcases h with h | h
  · exact ⟨'"', .inl rfl, h⟩
  · exact ⟨'\'', .inr rfl, h⟩

theorem QuoteFree.notMem (h : QuoteFree cs) {quote : Char} (hQuote : quote = '"' ∨ quote = '\'') :
    quote ∉ cs := by
  rcases hQuote with rfl | rfl
  · exact h.1
  · exact h.2

/-- What stands before the next quote is the text between the two. -/
theorem takeWhile_ne_quote {quote : Char} {inner : List Char} (h : quote ∉ inner)
    (after : List Char) : (inner ++ quote :: after).takeWhile (· != quote) = inner := by
  have hAll : ∀ c ∈ inner, (· != quote) c = true := by
    intro c hc
    refine bne_iff_ne.mpr ?_
    rintro rfl
    exact h hc
  have hStop : (· != quote) quote = false := bne_self_eq_false quote
  exact takeWhile_append_of_all hAll hStop after

/-- Of two quoted texts that begin at the same place one ends where the other does. -/
theorem eq_of_quoted {quote : Char} {v w after after' : List Char} (hv : Quoted quote v)
    {quote' : Char} (hw : Quoted quote' w) (h : v ++ after = w ++ after') :
    v = w ∧ after = after' := by
  obtain ⟨inner, rfl, hInner⟩ := hv
  obtain ⟨inner', rfl, hInner'⟩ := hw
  simp only [List.cons_append, List.append_assoc, List.nil_append, List.cons.injEq] at h
  obtain ⟨rfl, h⟩ := h
  obtain rfl : inner = inner' := by
    rw [← takeWhile_ne_quote hInner after, h, takeWhile_ne_quote hInner']
  rw [List.append_cancel_left_eq, List.cons.injEq] at h
  exact ⟨rfl, h.2⟩

end Quotes

-- ---------------------------------------------------------------------------
-- Scans
-- ---------------------------------------------------------------------------

section Scans

variable {before first : List Char} {vs : List (List Char)}

/-- The characters of quoted texts, each with what stands behind it. -/
def charactersOf (items : List (QuotedText × String)) : List Char :=
  items.flatMap fun item => item.1.written.toList ++ item.2.toList

/-- In a text without quotes nothing is quoted. -/
theorem not_shape_of_quoteFree {gap v after : List Char} (h : QuoteFree (gap ++ v ++ after)) :
    ¬ Builtin.string.Shape v := by
  intro hShape
  obtain ⟨quote, hQuote, inner, rfl, -⟩ := exists_quoted_of_shape hShape
  exact h.notMem hQuote (by simp)

/-- The first quoted text behind characters without quotes begins right behind them. -/
theorem gap_eq {q : QuotedText} {gap v after rest : List Char} (hFirst : QuoteFree first)
    (hv : Builtin.string.Shape v) (h : first ++ (q.written.toList ++ rest) = gap ++ v ++ after)
    (hLeft : NothingOpens id Builtin.string.Admits before gap (v ++ after)) : gap = first := by
  obtain ⟨quote, hQuote, inner, rfl, hInner⟩ := exists_quoted_of_shape hv
  rw [List.append_assoc] at h
  rcases List.append_eq_append_iff.mp h with ⟨ys, rfl, hys⟩ | ⟨ys, rfl, hys⟩
  · -- the gap does not go on behind them, for the quoted text there would have been found
    by_cases hNil : ys = []
    · rw [hNil, List.append_nil]
    · refine absurd ?_ (hLeft first ys rfl hNil)
      exact ⟨q.written.toList, rest, hys.symm, q.shape_written, nofun⟩
  · -- and it does not end among them, for a quote stands behind it
    cases ys with
    | nil => exact (List.append_nil gap).symm
    | cons c ys =>
      obtain ⟨rfl, -⟩ := List.cons.inj hys
      exact absurd (by simp) (hFirst.notMem hQuote)

/-- A scan for quoted texts takes them one after the other. -/
theorem strings_of_scan {Kept : List Char → Prop} {items : List (QuotedText × String)}
    (hFirst : QuoteFree first) (hItems : ∀ item ∈ items, QuoteFree item.2.toList)
    (h : Scans id Builtin.string.Admits Kept before (first ++ charactersOf items) vs) :
    vs = items.map fun item => item.1.written.toList := by
  induction items generalizing before first vs with
  | nil =>
    cases vs with
    | nil => rfl
    | cons v vs =>
      obtain ⟨gap, after, hRest, ⟨hShape, -⟩, -⟩ := h
      have hFree : first ++ charactersOf [] = first := List.append_nil first
      rw [hFree] at hRest
      rw [hRest] at hFirst
      exact absurd hShape (not_shape_of_quoteFree hFirst)
  | cons item items ih =>
    obtain ⟨hItem, hItems⟩ := List.forall_mem_cons.mp hItems
    have hCharacters : first ++ charactersOf (item :: items) =
        first ++ (item.1.written.toList ++ (item.2.toList ++ charactersOf items)) := by
      rw [charactersOf, List.flatMap_cons, List.append_assoc]
      rfl
    rw [hCharacters] at h
    cases vs with
    | nil =>
      -- the scan may not stop before a quoted text
      refine absurd ?_ (h first _ rfl)
      exact ⟨item.1.written.toList, _, rfl, item.1.shape_written, nofun⟩
    | cons v vs =>
      obtain ⟨gap, after, hRest, ⟨hShape, -⟩, -, hLeft, hScans⟩ := h
      -- what is found begins with the first quote and ends with the next one of its kind
      obtain rfl := gap_eq hFirst hShape hRest hLeft
      rw [List.append_assoc, List.append_cancel_left_eq] at hRest
      obtain ⟨quote, -, hv⟩ := exists_quoted_of_shape hShape
      obtain ⟨quote', -, hw⟩ := exists_quoted_of_shape item.1.shape_written
      obtain ⟨hWritten, hAfter⟩ := eq_of_quoted hw hv hRest
      rw [← hAfter] at hScans
      rw [ih hItem hItems hScans, List.map_cons, hWritten]

end Scans

-- ---------------------------------------------------------------------------
-- Values
-- ---------------------------------------------------------------------------

/-- **Quoted texts come back as they were written.** In every registry and whether literal text is
escaped or not: where a step consists of quoted texts, one at least, with texts without quotes
before, between and after them, the keyword for quoted text yields the texts, in order and
verbatim. -/
theorem quoted_texts_round_trip (r : Registry) (settings : MatchSettings) (keyword : Keyword)
    (shared : SharedTypes) {first : String} {items : List (QuotedText × String)}
    (hSome : items ≠ []) (hFirst : QuoteFree first.toList)
    (hItems : ∀ item ∈ items, QuoteFree item.2.toList) :
    matchStep r settings
        ⟨keyword, first ++ String.join (items.map fun item => item.1.written ++ item.2)⟩
        "{string}" shared =
      (.ok (items.map fun item => .string item.1.text), shared) := by
  generalize hStep : (⟨keyword, first ++ String.join
    (items.map fun item => item.1.written ++ item.2)⟩ : Step) = step
  have hText : step.text.toList = first.toList ++ charactersOf items := by
    rw [← hStep, String.toList_append, String.toList_join, List.flatMap_map, charactersOf]
    simp only [String.toList_append]
  obtain ⟨vs, hScans, hCaptures⟩ :=
    scans_keyword r .string step.text (fun _ => True) fun _ => trivial
  rw [hText] at hScans
  rw [strings_of_scan hFirst hItems hScans] at hCaptures
  have hValue : ∀ v ∈ items.map fun item => item.1.written.toList,
      Builtin.string.convert settings.zone (String.ofList v) =
        .ok (.string (unquote (String.ofList v))) := fun v _ => rfl
  have hValues := matchStep_keyword hCaptures hValue shared
  -- the quotes are taken off each text again
  have hUnquote : (items.map fun item => item.1.written.toList).map
      (fun v => Value.string (unquote (String.ofList v))) =
        items.map fun item => .string item.1.text := by
    rw [List.map_map]
    refine List.map_congr_left fun item _ => ?_
    rw [Function.comp_apply, item.1.toList_written, unquote_quoted item.1.isQuote,
      String.ofList_toList]
  rw [hUnquote] at hValues
  refine hValues.trans ?_
  rw [valuesOrMismatch, if_neg]
  rwa [List.isEmpty_iff, List.map_eq_nil_iff]

/-- An empty text, one that spans lines, and one that begins and ends with the other quote. -/
theorem quoted_texts_round_trip_mixed :
    let items : List (QuotedText × String) :=
      [(⟨"", '"', .inl rfl, by decide⟩, " and "), (⟨"a\nb", '\'', .inr rfl, by decide⟩, ""),
        (⟨"'c'", '"', .inl rfl, by decide⟩, "!")]
    items ≠ [] ∧ QuoteFree "say ".toList ∧ (∀ item ∈ items, QuoteFree item.2.toList) ∧
    ∀ zone shared,
      matchStep colored ⟨false, zone⟩ ⟨.when, "say \"\" and 'a\nb'\"'c'\"!"⟩ "{string}" shared =
        (.ok [.string "", .string "a\nb", .string "'c'"], shared) := by
  intro items
  have hSome : items ≠ [] := List.cons_ne_nil _ _
  have hFirst : QuoteFree "say ".toList := ⟨by decide, by decide⟩
  have hItems : ∀ item ∈ items, QuoteFree item.2.toList := by
    intro item hItem
    simp only [items, List.mem_cons, List.not_mem_nil, or_false] at hItem
    rcases hItem with rfl | rfl | rfl
    · exact ⟨by decide, by decide⟩
    · exact ⟨by decide, by decide⟩
    · exact ⟨by decide, by decide⟩
  refine ⟨hSome, hFirst, hItems, fun zone shared => ?_⟩
  have hMatch := quoted_texts_round_trip colored ⟨false, zone⟩ .when shared hSome hFirst hItems
  exact hMatch

end TypedSteps
