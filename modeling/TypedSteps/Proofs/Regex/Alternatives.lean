import TypedSteps.Proofs.Regex.Meaning
import TypedSteps.Proofs.Unicode.Sets

/-!
# What alternatives match

Alternatives are rebuilt when they are put together: they are flattened, classes become
one class, and what all of them begin with is taken out in front. None of this changes
what may be matched.

* `Regex.Proper` — no range of a class in the expression is upside down;
* `meaning_ofBranches`, `meaning_branches` — flattening;
* `isPrefix_sharedStart` — what is taken out in front is there in every alternative;
* `meaning_alternate` — a choice means what one of its alternatives means.
-/

namespace TypedSteps.Regex

open Unicode (CharSet)

/-- No range of a class in the expression is upside down. -/
def Proper : Regex → Prop
  | empty | look _ => True
  | chars s _ => s.Proper
  | cat a b | alt a b => a.Proper ∧ b.Proper
  | rep r _ _ _ | group _ r => r.Proper

theorem proper_char (c : Char) : (char c).Proper :=
  CharSet.proper_ofChar c

-- ---------------------------------------------------------------------------
-- Flattening
-- ---------------------------------------------------------------------------

/-- An expression means what one of its branches means. -/
theorem meaning_branches {text : Array Char} (r : Regex) {i j : Nat} {w : Slots} :
    (∃ b ∈ r.branches, b.meaning text i j w) ↔ r.meaning text i j w := by
  induction r with
  | alt a b iha ihb =>
    simp only [branches, List.mem_append, or_and_right, exists_or, iha, ihb]
    rfl
  | empty | chars | look | cat | rep | group =>
    simp only [branches, List.mem_singleton, exists_eq_left]

/-- The branches of some alternatives mean what these do. -/
theorem meaning_flatMap_branches {text : Array Char} {rs : List Regex} {i j : Nat} {w : Slots} :
    (∃ b ∈ rs.flatMap branches, b.meaning text i j w) ↔ ∃ r ∈ rs, r.meaning text i j w := by
  constructor
  · rintro ⟨b, hb, hMeaning⟩
    obtain ⟨r, hr, hb⟩ := List.mem_flatMap.mp hb
    exact ⟨r, hr, (meaning_branches r).mp ⟨b, hb, hMeaning⟩⟩
  · rintro ⟨r, hr, hMeaning⟩
    obtain ⟨b, hb, hMeaning⟩ := (meaning_branches r).mpr hMeaning
    exact ⟨b, List.mem_flatMap.mpr ⟨r, hr, hb⟩, hMeaning⟩

/-- Branches that are put together mean what one of them means, and none of them nothing. -/
theorem meaning_ofBranches {text : Array Char} (rs : List Regex) {i j : Nat} {w : Slots} :
    (ofBranches rs).meaning text i j w ↔ ∃ r ∈ rs, r.meaning text i j w := by
  induction rs with
  | nil =>
    constructor
    · -- no alternative at all is a class without characters
      rintro ⟨⟨c, -, hc⟩, -⟩
      rw [CharSet.contains_empty] at hc
      cases hc
    · rintro ⟨r, hr, -⟩
      cases hr
  | cons r rs ih =>
    cases rs with
    | nil => simp only [ofBranches, List.mem_singleton, exists_eq_left]
    | cons s rs =>
      simp only [List.mem_cons (a := _) (b := r), exists_eq_or_imp, ← ih]
      rfl

/-- The ranges of a branch are ranges of the expression. -/
theorem Proper.branches {r : Regex} (h : r.Proper) : ∀ b ∈ r.branches, b.Proper := by
  induction r with
  | alt a b iha ihb =>
    intro c hc
    rcases List.mem_append.mp hc with hc | hc
    · exact iha h.1 c hc
    · exact ihb h.2 c hc
  | empty | chars | look | cat | rep | group =>
    intro b hb
    rw [List.mem_singleton.mp hb]
    exact h

/-- The ranges of a factor are ranges of the expression. -/
theorem Proper.factors {r : Regex} (h : r.Proper) : ∀ f ∈ r.factors, f.Proper := by
  induction r with
  | cat a b iha ihb =>
    intro c hc
    rcases List.mem_append.mp hc with hc | hc
    · exact iha h.1 c hc
    · exact ihb h.2 c hc
  | empty =>
    intro f hf
    cases hf
  | chars | look | alt | rep | group =>
    intro f hf
    rw [List.mem_singleton.mp hf]
    exact h

/-- Factors that are put together have no other ranges. -/
theorem proper_ofFactors {rs : List Regex} (h : ∀ r ∈ rs, r.Proper) : (ofFactors rs).Proper := by
  induction rs with
  | nil => trivial
  | cons r rs ih =>
    have hr : r.Proper := h r List.mem_cons_self
    have hrs : (ofFactors rs).Proper := ih fun s hs => h s (List.mem_cons_of_mem _ hs)
    cases rs with
    | nil => exact hr
    | cons s rs => exact ⟨hr, hrs⟩

/-- A sequence has the ranges of its parts. -/
theorem proper_concat {rs : List Regex} (h : ∀ r ∈ rs, r.Proper) : (concat rs).Proper := by
  refine proper_ofFactors fun f hf => ?_
  obtain ⟨r, hr, hf⟩ := List.mem_flatMap.mp hf
  exact (h r hr).factors f hf

-- ---------------------------------------------------------------------------
-- Classes
-- ---------------------------------------------------------------------------

/-- Just the classes have a set. -/
theorem charSet?_eq_some_iff {r : Regex} {s : CharSet} :
    r.charSet? = some s ↔ ∃ ascii, r = .chars s ascii := by
  cases r <;> simp [charSet?]

/-- The sets of some expressions stand in the same order as the expressions. -/
theorem mapM_charSet? {rs : List Regex} {sets : List CharSet}
    (h : rs.mapM charSet? = some sets) :
    rs.map charSet? = sets.map some := by
  induction rs generalizing sets with
  | nil =>
    rw [List.mapM_nil, Option.pure_def, Option.some.injEq] at h
    rw [← h]
    rfl
  | cons r rs ih =>
    simp only [List.mapM_cons, Option.bind_eq_bind, Option.bind_eq_some_iff, Option.pure_def,
      Option.some.injEq] at h
    obtain ⟨s, hs, rest, hRest, rfl⟩ := h
    rw [List.map_cons, List.map_cons, hs, ih hRest]

/-- A union that is taken step by step has the characters of all sets. -/
theorem contains_foldl_union {sets : List CharSet} {acc : CharSet} (hAcc : acc.Proper)
    (h : ∀ s ∈ sets, s.Proper) (c : Char) :
    (sets.foldl (fun acc s => s.union acc) acc).contains c = true ↔
      acc.contains c = true ∨ ∃ s ∈ sets, s.contains c = true := by
  -- the union that has been taken so far is left open
  induction sets generalizing acc with
  | nil => simp
  | cons s sets ih =>
    have hs : s.Proper := h s List.mem_cons_self
    rw [List.foldl_cons, ih (hs.union hAcc) fun t ht => h t (List.mem_cons_of_mem _ ht),
      CharSet.contains_union hs hAcc, or_comm (a := s.contains c = true), or_assoc]
    simp only [List.mem_cons, exists_eq_or_imp]

/-- The one class for some alternatives takes the characters that any of them takes. -/
theorem meaning_classOf? {text : Array Char} {bs : List Regex} {s : CharSet}
    (h : classOf? bs = some s) (hbs : ∀ b ∈ bs, b.Proper) {i j : Nat} {w : Slots} :
    (ofSet false s).meaning text i j w ↔ ∃ b ∈ bs, b.meaning text i j w := by
  obtain ⟨sets, hSets, hs⟩ : ∃ sets, bs.mapM charSet? = some sets ∧
      sets.foldl (fun acc s => s.union acc) .empty = s := by
    rw [classOf?] at h
    split at h
    · exact Option.map_eq_some_iff.mp h
    · cases h
  have hMap := mapM_charSet? hSets
  -- the sets are those of the alternatives, which all are classes
  have hMem : ∀ t, t ∈ sets ↔ ∃ ascii, chars t ascii ∈ bs := by
    intro t
    have hSome : some t ∈ bs.map charSet? ↔ ∃ ascii, chars t ascii ∈ bs := by
      simp only [List.mem_map, charSet?_eq_some_iff]
      constructor
      · rintro ⟨b, hb, ascii, rfl⟩
        exact ⟨ascii, hb⟩
      · rintro ⟨ascii, hb⟩
        exact ⟨_, hb, ascii, rfl⟩
    rw [← hSome, hMap]
    simp
  have hProper : ∀ t ∈ sets, t.Proper := by
    intro t ht
    obtain ⟨ascii, hb⟩ := (hMem t).mp ht
    exact hbs _ hb
  have hContains (c : Char) : s.contains c = true ↔ ∃ t ∈ sets, t.contains c = true := by
    rw [← hs, contains_foldl_union CharSet.proper_empty hProper, CharSet.contains_empty]
    simp
  constructor
  · rintro ⟨⟨c, hc, hsc⟩, hj, hw⟩
    obtain ⟨t, ht, htc⟩ := (hContains c).mp hsc
    obtain ⟨ascii, hb⟩ := (hMem t).mp ht
    exact ⟨_, hb, ⟨c, hc, htc⟩, hj, hw⟩
  · rintro ⟨b, hb, hMeaning⟩
    -- every alternative is a class, for each has a set
    have hClass : b.charSet? ∈ sets.map some := hMap ▸ List.mem_map_of_mem hb
    obtain ⟨t, ht, htb⟩ := List.mem_map.mp hClass
    obtain ⟨ascii, rfl⟩ := charSet?_eq_some_iff.mp htb.symm
    obtain ⟨⟨c, hc, htc⟩, hj, hw⟩ := hMeaning
    exact ⟨⟨c, hc, (hContains c).mpr ⟨t, ht, htc⟩⟩, hj, hw⟩

-- ---------------------------------------------------------------------------
-- Shared beginnings
-- ---------------------------------------------------------------------------

/-- The runs of equal parts make up the parts again. -/
theorem flatten_runs (rs : List Regex) : (runs rs).flatten = rs := by
  induction rs with
  | nil => rfl
  | cons r rs ih =>
    rw [runs]
    -- a part joins the run behind it if it is equal to its parts
    split
    next s run rest hRuns =>
      rw [hRuns] at ih
      split <;> rw [← ih] <;> rfl
    next hRuns =>
      rw [List.flatten_cons, ih]
      rfl

/-- What two alternatives begin with is there in both. -/
theorem commonStart_isPrefix (xs ys : List (List Regex)) :
    commonStart xs ys <+: xs ∧ commonStart xs ys <+: ys := by
  induction xs generalizing ys with
  | nil => exact ⟨List.nil_prefix, List.nil_prefix⟩
  | cons x xs ih =>
    cases ys with
    | nil => exact ⟨List.nil_prefix, List.nil_prefix⟩
    | cons y ys =>
      rw [commonStart]
      split
      next hxy =>
        subst hxy
        obtain ⟨hxs, hys⟩ := ih ys
        exact ⟨(List.prefix_cons_inj x).mpr hxs, (List.prefix_cons_inj x).mpr hys⟩
      next => exact ⟨List.nil_prefix, List.nil_prefix⟩

/-- What several alternatives begin with is there in each. -/
theorem foldl_commonStart_isPrefix (p : List (List Regex)) (ps : List (List (List Regex))) :
    ∀ q ∈ p :: ps, ps.foldl commonStart p <+: q := by
  induction ps generalizing p with
  | nil =>
    intro q hq
    rw [List.mem_singleton.mp hq]
    exact List.prefix_rfl
  | cons p' ps ih =>
    intro q hq
    have hAll := ih (commonStart p p')
    -- what is left at the end begins what was left after one step
    have hStart := hAll _ List.mem_cons_self
    obtain ⟨hp, hp'⟩ := commonStart_isPrefix p p'
    rcases List.mem_cons.mp hq with rfl | hq
    · exact hStart.trans hp
    · rcases List.mem_cons.mp hq with rfl | hq
      · exact hStart.trans hp'
      · exact hAll q (List.mem_cons_of_mem _ hq)

/-- What is taken out in front is there in every alternative. -/
theorem isPrefix_sharedStart {bs : List Regex} {b : Regex} (hb : b ∈ bs) :
    (sharedStart bs).flatten <+: b.factors := by
  have hPrefix : sharedStart bs <+: runs b.factors := by
    have hMem : runs b.factors ∈ bs.map fun r => runs r.factors := List.mem_map_of_mem hb
    simp only [sharedStart]
    split
    · exact List.nil_prefix
    · cases hParts : bs.map fun r => runs r.factors with
      | nil => exact List.nil_prefix
      | cons p ps =>
        rw [hParts] at hMem
        exact foldl_commonStart_isPrefix p ps _ hMem
  obtain ⟨rest, hRest⟩ := hPrefix
  refine ⟨rest.flatten, ?_⟩
  rw [← List.flatten_append, hRest, flatten_runs]

/-- An alternative means the shared beginning and then the rest of its parts. -/
theorem meaning_of_mem {text : Array Char} {bs : List Regex} {b : Regex} (hb : b ∈ bs) :
    b.meaning text =
      (meaningAll text (sharedStart bs).flatten).seq
        ((ofFactors (b.factors.drop (sharedStart bs).flatten.length)).meaning text) := by
  obtain ⟨rest, hRest⟩ := isPrefix_sharedStart hb
  rw [meaning_ofFactors, ← meaningAll_append, ← meaningAll_factors, ← hRest, List.drop_left]

-- ---------------------------------------------------------------------------
-- Alternatives
-- ---------------------------------------------------------------------------

/-- Rebuilding alternatives to any depth keeps what one of them means. -/
theorem meaning_alternateWithin {text : Array Char} (fuel : Nat) {rs : List Regex}
    (h : ∀ r ∈ rs, r.Proper) {i j : Nat} {w : Slots} :
    (alternateWithin fuel rs).meaning text i j w ↔ ∃ r ∈ rs, r.meaning text i j w := by
  induction fuel generalizing rs i j w with
  | zero => rw [alternateWithin, meaning_ofBranches, meaning_flatMap_branches]
  | succ fuel ih =>
    have hbs : ∀ b ∈ rs.flatMap branches, b.Proper := by
      intro b hb
      obtain ⟨r, hr, hb⟩ := List.mem_flatMap.mp hb
      exact (h r hr).branches b hb
    rw [← meaning_flatMap_branches, alternateWithin]
    -- from here on only the branches count
    generalize rs.flatMap branches = bs at hbs
    simp only
    split
    · exact meaning_ofBranches bs
    · cases hClass : classOf? bs with
      | some s => exact meaning_classOf? hClass hbs
      | none =>
        simp only
        split
        · exact meaning_ofBranches bs
        · -- the shared beginning stands in front of alternatives that are rebuilt in turn
          generalize hStart : (sharedStart bs).flatten = start
          have hRests : ∀ r ∈ bs.map fun b => ofFactors (b.factors.drop start.length),
              r.Proper := by
            intro r hr
            obtain ⟨b, hb, rfl⟩ := List.mem_map.mp hr
            exact proper_ofFactors fun f hf =>
              (hbs b hb).factors f (List.mem_of_mem_drop hf)
          have hSplit : ∀ b ∈ bs, b.meaning text =
              (meaningAll text start).seq
                ((ofFactors (b.factors.drop start.length)).meaning text) := by
            intro b hb
            rw [← hStart]
            exact meaning_of_mem hb
          rw [meaning_concat, meaningAll_append, meaningAll_singleton]
          constructor
          · rintro ⟨k, u, v, hu, hv, hw⟩
            obtain ⟨r, hr, hr'⟩ := (ih hRests).mp hv
            obtain ⟨b, hb, rfl⟩ := List.mem_map.mp hr
            exact ⟨b, hb, by rw [hSplit b hb]; exact ⟨k, u, v, hu, hr', hw⟩⟩
          · rintro ⟨b, hb, hMeaning⟩
            rw [hSplit b hb] at hMeaning
            obtain ⟨k, u, v, hu, hv, hw⟩ := hMeaning
            exact ⟨k, u, v, hu, (ih hRests).mpr ⟨_, List.mem_map_of_mem hb, hv⟩, hw⟩

/-- A choice means what one of its alternatives means. -/
theorem meaning_alternate {text : Array Char} {rs : List Regex} (h : ∀ r ∈ rs, r.Proper)
    {i j : Nat} {w : Slots} :
    (alternate rs).meaning text i j w ↔ ∃ r ∈ rs, r.meaning text i j w :=
  meaning_alternateWithin _ h

end TypedSteps.Regex
