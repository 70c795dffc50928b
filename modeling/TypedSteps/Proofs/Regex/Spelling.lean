import TypedSteps.Proofs.Regex.Meaning

/-!
# Meanings that spell out a language

An expression without assertions and groups asks of a stretch of text that it belongs to a
set of texts, wherever it stands.

* `Stands` — characters stand in a text between two positions;
* `Spells` — a meaning asks just that characters from a language stand there;
* `spells_skip`, `spells_take`, `Spells.seq`, `Spells.or`, `Spells.repeats`, `spells_many` —
  the languages that are spelled;
* `spells_literal` — literal characters spell themselves.
-/

namespace TypedSteps

-- ---------------------------------------------------------------------------
-- Stretches of text
-- ---------------------------------------------------------------------------

/-- The characters `v` stand in the text from position `i` to position `j`. -/
def Stands (text : Array Char) (i j : Nat) (v : List Char) : Prop :=
  text.toList.drop i = v ++ text.toList.drop j ∧ j = i + v.length

variable {text : Array Char} {i j k : Nat}

/-- The empty text stands between a place and itself. -/
theorem stands_nil : Stands text i j [] ↔ j = i := by
  constructor
  · rintro ⟨-, h⟩
    exact h
  · rintro rfl
    exact ⟨rfl, rfl⟩

/-- A stretch in two parts has a position between them. -/
theorem stands_append {u v : List Char} :
    Stands text i k (u ++ v) ↔ ∃ j, Stands text i j u ∧ Stands text j k v := by
  constructor
  · rintro ⟨h, hk⟩
    -- what follows the first part is the second part and the rest
    have hDrop : text.toList.drop (i + u.length) = v ++ text.toList.drop k := by
      rw [← List.drop_drop, h, List.append_assoc, List.drop_left]
    refine ⟨i + u.length, ⟨?_, rfl⟩, hDrop, ?_⟩
    · rw [h, hDrop, List.append_assoc]
    · rw [hk, List.length_append, Nat.add_assoc]
  · rintro ⟨j, ⟨hu, rfl⟩, hv, hk⟩
    refine ⟨?_, ?_⟩
    · rw [hu, hv, List.append_assoc]
    · rw [hk, List.length_append, Nat.add_assoc]

/-- One character stands between its place and the next. -/
theorem stands_singleton {c : Char} : Stands text i j [c] ↔ text[i]? = some c ∧ j = i + 1 := by
  constructor
  · rintro ⟨h, hj⟩
    refine ⟨?_, hj⟩
    rw [← Array.getElem?_toList, ← List.head?_drop, h]
    rfl
  · rintro ⟨hc, rfl⟩
    refine ⟨?_, rfl⟩
    rw [← Array.getElem?_toList] at hc
    obtain ⟨hlt, hGet⟩ := List.getElem?_eq_some_iff.mp hc
    rw [List.drop_eq_getElem_cons hlt, hGet]
    rfl

/-- A stretch is the part of the text between its ends. -/
theorem Stands.extract {v : List Char} (h : Stands text i j v) :
    (text.extract i j).toList = v := by
  obtain ⟨h, rfl⟩ := h
  rw [Array.toList_extract, List.extract_eq_take_drop, h, Nat.add_sub_cancel_left, List.take_left]

/-- A stretch has text before and after it. -/
theorem Stands.split {v : List Char} (h : Stands text i j v) :
    text.toList = text.toList.take i ++ (v ++ text.toList.drop j) := by
  rw [← h.1, List.take_append_drop]

/-- What a text is cut into stands behind what comes before it. -/
theorem stands_of_split {before v after : List Char} (h : text.toList = before ++ v ++ after) :
    Stands text before.length (before.length + v.length) v := by
  refine ⟨?_, rfl⟩
  rw [h, List.append_assoc, List.drop_left, ← List.length_append, ← List.append_assoc,
    List.drop_left]

-- ---------------------------------------------------------------------------
-- Languages
-- ---------------------------------------------------------------------------

/-- What `P` asks is that a text of the language `L` stands there; it saves nothing. -/
def Spells (text : Array Char) (P : Meaning) (L : List Char → Prop) : Prop :=
  ∀ i j w, P i j w ↔ w = [] ∧ ∃ v, Stands text i j v ∧ L v

variable {P Q : Meaning} {L M : List Char → Prop}

/-- Only the texts of a language count. -/
theorem Spells.congr (h : Spells text P L) (hLM : ∀ v, L v ↔ M v) : Spells text P M := by
  intro i j w
  simp only [h i j w, hLM]

/-- To take nothing spells the empty text. -/
theorem spells_skip : Spells text .skip (· = []) := by
  intro i j w
  constructor
  · rintro ⟨hj, hw⟩
    exact ⟨hw, [], stands_nil.mpr hj, rfl⟩
  · rintro ⟨hw, v, hv, rfl⟩
    exact ⟨stands_nil.mp hv, hw⟩

/-- To take a character spells the texts of one such character. -/
theorem spells_take (p : Char → Bool) :
    Spells text (.take text p) fun v => ∃ c, p c = true ∧ v = [c] := by
  intro i j w
  constructor
  · rintro ⟨⟨c, hc, hp⟩, hj, hw⟩
    exact ⟨hw, [c], stands_singleton.mpr ⟨hc, hj⟩, c, hp, rfl⟩
  · rintro ⟨hw, v, hv, c, hp, rfl⟩
    obtain ⟨hc, hj⟩ := stands_singleton.mp hv
    exact ⟨⟨c, hc, hp⟩, hj, hw⟩

/-- One meaning after the other spells texts of the two languages joined. -/
theorem Spells.seq (hP : Spells text P L) (hQ : Spells text Q M) :
    Spells text (P.seq Q) fun v => ∃ x y, v = x ++ y ∧ L x ∧ M y := by
  intro i k w
  constructor
  · rintro ⟨j, u, v, hPij, hQjk, rfl⟩
    obtain ⟨rfl, x, hx, hL⟩ := (hP i j u).mp hPij
    obtain ⟨rfl, y, hy, hM⟩ := (hQ j k v).mp hQjk
    exact ⟨rfl, x ++ y, stands_append.mpr ⟨j, hx, hy⟩, x, y, rfl, hL, hM⟩
  · rintro ⟨rfl, v, hv, x, y, rfl, hL, hM⟩
    obtain ⟨j, hx, hy⟩ := stands_append.mp hv
    exact ⟨j, [], [], (hP i j []).mpr ⟨rfl, x, hx, hL⟩, (hQ j k []).mpr ⟨rfl, y, hy, hM⟩, rfl⟩

/-- A choice spells the texts of both languages. -/
theorem Spells.or (hP : Spells text P L) (hQ : Spells text Q M) :
    Spells text (P.or Q) fun v => L v ∨ M v := by
  intro i j w
  simp only [Meaning.or, hP i j w, hQ i j w, ← and_or_left, ← exists_or]

/-- Rounds spell as many texts of the language joined. -/
theorem Spells.pow (hP : Spells text P L) (n : Nat) :
    Spells text (P.pow n) fun v => ∃ xs : List (List Char),
      v = xs.flatten ∧ (∀ x ∈ xs, L x) ∧ xs.length = n := by
  -- the texts of the rounds are collected in a list, the first round in front
  induction n with
  | zero =>
    refine spells_skip.congr fun v => ?_
    constructor
    · rintro rfl
      exact ⟨[], rfl, by simp, rfl⟩
    · rintro ⟨xs, rfl, -, hLen⟩
      rw [List.eq_nil_of_length_eq_zero hLen]
      rfl
  | succ n ih =>
    refine (hP.seq ih).congr fun v => ?_
    constructor
    · rintro ⟨x, -, rfl, hx, xs, rfl, hxs, hLen⟩
      exact ⟨x :: xs, rfl, List.forall_mem_cons.mpr ⟨hx, hxs⟩, congrArg (· + 1) hLen⟩
    · rintro ⟨xs, rfl, hxs, hLen⟩
      obtain ⟨x, xs, rfl⟩ := List.exists_cons_of_length_eq_add_one hLen
      obtain ⟨hx, hxs⟩ := List.forall_mem_cons.mp hxs
      exact ⟨x, xs.flatten, rfl, hx, xs, rfl, hxs, Nat.succ.inj hLen⟩

/-- A repetition spells texts of the language one after the other. -/
theorem Spells.repeats (hP : Spells text P L) (least : Nat) (most : Option Nat) :
    Spells text (P.repeats least most) fun v => ∃ xs : List (List Char),
      v = xs.flatten ∧ (∀ x ∈ xs, L x) ∧ least ≤ xs.length ∧
        ∀ m, most = some m → xs.length - least ≤ m - least := by
  intro i j w
  constructor
  · rintro ⟨n, hn, hPow⟩
    obtain ⟨rfl, v, hv, xs, rfl, hxs, hLen⟩ := (hP.pow (least + n) i j w).mp hPow
    refine ⟨rfl, _, hv, xs, rfl, hxs, by omega, fun m hm => ?_⟩
    have hle := hn m hm
    omega
  · rintro ⟨rfl, v, hv, xs, rfl, hxs, hLeast, hMost⟩
    -- the rounds beyond the least number are those that may follow
    refine ⟨xs.length - least, hMost, ?_⟩
    rw [Nat.add_sub_cancel' hLeast]
    exact (hP.pow xs.length i j []).mpr ⟨rfl, _, hv, xs, rfl, hxs, rfl⟩

/-- Texts of one character each are as many as the characters of all of them. -/
theorem flatten_of_singletons {p : Char → Bool} {xs : List (List Char)}
    (h : ∀ x ∈ xs, ∃ c, p c = true ∧ x = [c]) :
    xs.flatten.length = xs.length ∧ ∀ c ∈ xs.flatten, p c = true := by
  induction xs with
  | nil => simp
  | cons x xs ih =>
    obtain ⟨⟨c, hc, rfl⟩, hxs⟩ := List.forall_mem_cons.mp h
    obtain ⟨hLen, hAll⟩ := ih hxs
    exact ⟨congrArg (· + 1) hLen, List.forall_mem_cons.mpr ⟨hc, hAll⟩⟩

/-- A repeated class spells the texts of its characters that are not too short or long. -/
theorem spells_many (p : Char → Bool) (least : Nat) (most : Option Nat) :
    Spells text ((Meaning.take text p).repeats least most) fun v =>
      (∀ c ∈ v, p c = true) ∧ least ≤ v.length ∧
        ∀ m, most = some m → v.length - least ≤ m - least := by
  refine ((spells_take p).repeats least most).congr fun v => ?_
  constructor
  · rintro ⟨xs, rfl, hxs, hLen⟩
    obtain ⟨hFlat, hAll⟩ := flatten_of_singletons hxs
    rw [hFlat]
    exact ⟨hAll, hLen⟩
  · rintro ⟨hAll, hLen⟩
    refine ⟨v.map ([·]), ?_, ?_, by rwa [List.length_map]⟩
    · -- each character is a round of its own
      rw [← List.flatMap_def, List.flatMap_singleton']
    · intro x hx
      obtain ⟨c, hc, rfl⟩ := List.mem_map.mp hx
      exact ⟨c, hAll c hc, rfl⟩

/-- A literal character spells itself. -/
theorem spells_char (c : Char) : Spells text ((Regex.char c).meaning text) (· = [c]) := by
  refine (spells_take _).congr fun v => ?_
  simp only [Unicode.CharSet.contains_ofChar, beq_iff_eq, exists_eq_left]

/-- Literal characters spell themselves. -/
theorem spells_literal (cs : List Char) :
    Spells text (Regex.meaningAll text (cs.map Regex.char)) (· = cs) := by
  induction cs with
  | nil => exact spells_skip
  | cons c cs ih =>
    refine ((spells_char c).seq ih).congr fun v => ?_
    constructor
    · rintro ⟨x, y, rfl, rfl, rfl⟩
      rfl
    · rintro rfl
      exact ⟨[c], cs, rfl, rfl, rfl⟩

end TypedSteps
