import Mathlib.Logic.Relation
import TypedSteps.Proofs.Regex.Preference
import TypedSteps.Proofs.Regex.Search

/-!
# A search finds the preferred match

A search tries the threads of its stack from the top, and drops a thread whose place was tried
before. As long as no place leads back to itself, the dropped thread would have failed: what was
tried and may still succeed has its ways on top of the stack, and all of them lie behind it. So
the search ends with the first thread of the stack that can succeed at all, and that thread takes
the first of its ways that can.

* `Place`, `Follows`, `Ends` — where threads go, and places from which every way ends;
* `Alive`, `Prefers` — places from which acceptance can be got to, and the preferred way there;
* `Searching` — what holds while a search goes on;
* `explore_prefers`, `find_prefers` — what a search finds.
-/

namespace TypedSteps

-- ---------------------------------------------------------------------------
-- Places
-- ---------------------------------------------------------------------------

/-- An instruction and a position. -/
abbrev Place := Nat × Nat

/-- Where a thread is. -/
def Thread.place (t : Thread) : Place :=
  (t.pc, t.pos)

/-- A thread at the place `p` may be sent on to the place `q`. -/
def Follows (prog : Program) (text : Array Char) (q p : Place) : Prop :=
  ∃ inst, prog[p.1]? = some inst ∧ ∃ u ∈ inst.next text ⟨p.1, p.2, []⟩, u.place = q

/-- The place `q` lies behind the place `p`, one step at least. -/
abbrev Behind (prog : Program) (text : Array Char) (q p : Place) : Prop :=
  Relation.TransGen (Follows prog text) q p

/-- Every way from a place ends. -/
abbrev Ends (prog : Program) (text : Array Char) (p : Place) : Prop :=
  Acc (Follows prog text) p

/-- A thread at the place `p` can get to acceptance. -/
def Alive (prog : Program) (text : Array Char) (p : Place) : Prop :=
  ∃ n s, Accepts prog text n ⟨p.1, p.2, []⟩ s

section Places

variable {prog : Program} {text : Array Char}

/-- What an instruction sends on follows the thread. -/
theorem follows_of_mem_next {t u : Thread} {inst : Inst} (hInst : prog[t.pc]? = some inst)
    (hu : u ∈ inst.next text t) : Follows prog text u.place t.place := by
  obtain ⟨v, hv, hpc, hPos⟩ := (next_spec hu).1 ⟨t.pc, t.pos, []⟩ ⟨rfl, rfl⟩
  exact ⟨inst, hInst, v, hv, Prod.ext hpc.symm hPos.symm⟩

/-- A place from which every way ends does not lie behind itself. -/
theorem Ends.not_behind {p : Place} (h : Ends prog text p) : ¬ Behind prog text p p := by
  have hBehind : Acc (Behind prog text) p := h.transGen
  induction hBehind with
  | intro p _ ih => exact fun hSelf => ih p hSelf h hSelf

/-- Every way from a place ends if those from the places behind it do. -/
theorem ends_of_next {p : Place} {inst : Inst} (hInst : prog[p.1]? = some inst)
    (h : ∀ u ∈ inst.next text ⟨p.1, p.2, []⟩, Ends prog text u.place) : Ends prog text p := by
  refine .intro p ?_
  rintro q ⟨inst', hInst', u, hu, rfl⟩
  obtain rfl : inst = inst' := Option.some.inj (hInst.symm.trans hInst')
  exact h u hu

/-- Whether a thread gets to acceptance does not depend on its slots. -/
theorem Accepts.congr {n : Nat} {t t' : Thread} {s : Slots} (h : Accepts prog text n t s)
    (hPlace : SamePlace t t') : ∃ s', Accepts prog text n t' s' := by
  induction h generalizing t' with
  | accept here =>
    rw [hPlace.1] at here
    exact ⟨_, .accept here⟩
  | step here next _ ih =>
    obtain ⟨u', hu', hSame⟩ := (next_spec next).1 t' hPlace
    obtain ⟨s', hs'⟩ := ih hSame
    rw [hPlace.1] at here
    exact ⟨s', .step here hu' hs'⟩

/-- The slots of a thread do not matter to whether it gets to acceptance. -/
theorem alive_iff {t : Thread} :
    Alive prog text t.place ↔ ∃ n s, Accepts prog text n t s := by
  constructor
  · rintro ⟨n, s, h⟩
    exact ⟨n, h.congr ⟨rfl, rfl⟩⟩
  · rintro ⟨n, s, h⟩
    have hSame : SamePlace t ⟨t.pc, t.pos, []⟩ := ⟨rfl, rfl⟩
    exact ⟨n, h.congr hSame⟩

/-- A thread that gets to acceptance stands at an instruction. -/
theorem exists_inst_of_alive {t : Thread} (h : Alive prog text t.place) :
    ∃ inst, prog[t.pc]? = some inst := by
  obtain ⟨n, s, hAccepts⟩ := alive_iff.mp h
  cases hAccepts with
  | accept here => exact ⟨_, here⟩
  | step here _ _ => exact ⟨_, here⟩

/-- A thread that is not at acceptance lives on in one of the threads that it is sent on as. -/
theorem exists_alive_of_next {t : Thread} {inst : Inst} (hInst : prog[t.pc]? = some inst)
    (hne : inst ≠ .accept) (h : Alive prog text t.place) :
    ∃ u ∈ inst.next text t, Alive prog text u.place := by
  obtain ⟨n, s, hAccepts⟩ := alive_iff.mp h
  obtain ⟨m, -, u, hu, hRest⟩ := (accepts_iff hInst hne).mp hAccepts
  exact ⟨u, hu, alive_iff.mpr ⟨m, s, hRest⟩⟩

-- ---------------------------------------------------------------------------
-- The preferred way
-- ---------------------------------------------------------------------------

/-- The first thread of a stack that can get to acceptance takes the first of its ways there; it
accepts with the slots `s` after the given number of steps. -/
inductive Prefers (prog : Program) (text : Array Char) : Nat → List Thread → Slots → Prop
  | accept {t : Thread} {below : List Thread} (here : prog[t.pc]? = some .accept) :
      Prefers prog text 0 (t :: below) t.slots
  | step {n : Nat} {t : Thread} {below : List Thread} {inst : Inst} {s : Slots}
      (here : prog[t.pc]? = some inst) (next : Prefers prog text n (inst.next text t) s) :
      Prefers prog text (n + 1) (t :: below) s
  | pass {n : Nat} {t : Thread} {below : List Thread} {s : Slots}
      (dead : ¬ Alive prog text t.place) (rest : Prefers prog text n below s) :
      Prefers prog text n (t :: below) s

theorem not_prefers_nil {n : Nat} {s : Slots} : ¬ Prefers prog text n [] s :=
  fun h => nomatch h

/-- The thread on top is preferred unless it is dead. -/
theorem Prefers.cons {n : Nat} {t : Thread} {rest : List Thread} {s : Slots}
    (h : Prefers prog text n (t :: rest) s) :
    Prefers prog text n [t] s ∨ ¬ Alive prog text t.place ∧ Prefers prog text n rest s := by
  cases h with
  | accept here => exact .inl (.accept here)
  | step here next => exact .inl (.step here next)
  | pass dead rest => exact .inr ⟨dead, rest⟩

/-- The first thread of a stack that lives is among its first threads, or these are all dead. -/
theorem Prefers.append {n : Nat} {xs ys : List Thread} {s : Slots}
    (h : Prefers prog text n (xs ++ ys) s) :
    Prefers prog text n xs s ∨
      (∀ t ∈ xs, ¬ Alive prog text t.place) ∧ Prefers prog text n ys s := by
  induction xs with
  | nil => exact .inr ⟨List.forall_mem_nil _, h⟩
  | cons t xs ih =>
    cases h with
    | accept here => exact .inl (.accept here)
    | step here next => exact .inl (.step here next)
    | pass dead rest =>
      rcases ih rest with hxs | ⟨hDead, hys⟩
      · exact .inl (.pass dead hxs)
      · exact .inr ⟨List.forall_mem_cons.mpr ⟨dead, hDead⟩, hys⟩

/-- A thread takes the preferred way of those that its instruction sends it on. -/
theorem prefers_iff {t : Thread} {inst : Inst} (hInst : prog[t.pc]? = some inst)
    (hne : inst ≠ .accept) {n : Nat} {s : Slots} :
    Prefers prog text n [t] s ↔ ∃ m, n = m + 1 ∧ Prefers prog text m (inst.next text t) s := by
  constructor
  · intro h
    cases h with
    | accept here =>
      rw [hInst, Option.some.injEq] at here
      exact absurd here hne
    | step here next =>
      rw [hInst, Option.some.injEq] at here
      subst here
      exact ⟨_, rfl, next⟩
    | pass _ rest => exact absurd rest not_prefers_nil
  · rintro ⟨m, rfl, next⟩
    exact .step hInst next

/-- A thread at acceptance is preferred with its own slots. -/
theorem slots_of_prefers {t : Thread} (hInst : prog[t.pc]? = some .accept) {n : Nat} {s : Slots}
    (h : Prefers prog text n [t] s) : s = t.slots := by
  cases h with
  | accept here => rfl
  | step here next =>
    rw [hInst, Option.some.injEq] at here
    subst here
    exact absurd next not_prefers_nil
  | pass _ rest => exact absurd rest not_prefers_nil

/-- What is preferred leads to acceptance. -/
theorem Prefers.exists_alive {n : Nat} {stack : List Thread} {s : Slots}
    (h : Prefers prog text n stack s) : ∃ t ∈ stack, Alive prog text t.place := by
  induction h with
  | accept here => exact ⟨_, List.mem_cons_self, alive_iff.mpr ⟨0, _, .accept here⟩⟩
  | step here _ ih =>
    obtain ⟨u, hu, hAlive⟩ := ih
    obtain ⟨n, s, hAccepts⟩ := alive_iff.mp hAlive
    exact ⟨_, List.mem_cons_self, alive_iff.mpr ⟨n + 1, s, .step here hu hAccepts⟩⟩
  | pass _ _ ih =>
    obtain ⟨u, hu, hAlive⟩ := ih
    exact ⟨u, List.mem_cons_of_mem _ hu, hAlive⟩

/-- What is preferred gets to acceptance. -/
theorem Prefers.alive {n : Nat} {t : Thread} {s : Slots} (h : Prefers prog text n [t] s) :
    Alive prog text t.place := by
  obtain ⟨u, hu, hAlive⟩ := h.exists_alive
  rwa [List.mem_singleton.mp hu] at hAlive

-- ---------------------------------------------------------------------------
-- Searching
-- ---------------------------------------------------------------------------

/-- Down to the first thread that lives, the threads on top of a stack lie behind the place `p`,
and there is such a thread. -/
def Pending (prog : Program) (text : Array Char) (p : Place) : List Thread → Prop
  | [] => False
  | t :: rest =>
    Behind prog text t.place p ∧ (Alive prog text t.place ∨ Pending prog text p rest)

/-- Threads that lie behind a place may be put in front. -/
theorem Pending.append {p : Place} {xs ys : List Thread}
    (hBehind : ∀ t ∈ xs, Behind prog text t.place p) (h : Pending prog text p ys) :
    Pending prog text p (xs ++ ys) := by
  induction xs with
  | nil => exact h
  | cons t xs ih =>
    obtain ⟨ht, hxs⟩ := List.forall_mem_cons.mp hBehind
    exact ⟨ht, .inr (ih hxs)⟩

/-- A place is pending if one of the threads behind it gets to acceptance. -/
theorem pending_of_exists {p : Place} {xs : List Thread}
    (hBehind : ∀ t ∈ xs, Behind prog text t.place p)
    (hAlive : ∃ t ∈ xs, Alive prog text t.place) (ys : List Thread) :
    Pending prog text p (xs ++ ys) := by
  induction xs with
  | nil =>
    obtain ⟨t, ht, -⟩ := hAlive
    cases ht
  | cons t xs ih =>
    obtain ⟨ht, hxs⟩ := List.forall_mem_cons.mp hBehind
    refine ⟨ht, ?_⟩
    obtain ⟨u, hu, hLive⟩ := hAlive
    rcases List.mem_cons.mp hu with rfl | hu
    · exact .inl hLive
    · exact .inr (ih hxs ⟨u, hu, hLive⟩)

/-- What is pending stays so when the thread on top is replaced by those that it is sent on as. -/
theorem Pending.next {p : Place} {t : Thread} {rest : List Thread} {inst : Inst}
    (hInst : prog[t.pc]? = some inst) (hne : inst ≠ .accept)
    (h : Pending prog text p (t :: rest)) : Pending prog text p (inst.next text t ++ rest) := by
  have hBehind : ∀ u ∈ inst.next text t, Behind prog text u.place p :=
    fun u hu => .head (follows_of_mem_next hInst hu) h.1
  rcases h.2 with hAlive | hRest
  · exact pending_of_exists hBehind (exists_alive_of_next hInst hne hAlive) rest
  · exact hRest.append hBehind

/-- The thread on top is pending behind its own place once it is sent on. -/
theorem pending_next {t : Thread} (rest : List Thread) {inst : Inst}
    (hInst : prog[t.pc]? = some inst) (hne : inst ≠ .accept) (h : Alive prog text t.place) :
    Pending prog text t.place (inst.next text t ++ rest) :=
  pending_of_exists (fun _ hu => .single (follows_of_mem_next hInst hu))
    (exists_alive_of_next hInst hne h) rest

/-- What holds while a search goes on: its threads are within the text and their ways end, and a
place that was tried and still lives is pending. -/
structure Searching (prog : Program) (text : Array Char) (tried : Array Bool)
    (stack : List Thread) : Prop where
  pos : ∀ t ∈ stack, t.pos ≤ text.size
  ends : ∀ t ∈ stack, Ends prog text t.place
  pending : ∀ t : Thread, t.pos ≤ text.size → Program.Tried text tried t →
    Alive prog text t.place → Pending prog text t.place stack

section Searching

variable {tried : Array Bool} {t : Thread} {rest : List Thread}

/-- A thread whose place was tried does not live: it would lie behind its own place. -/
theorem Searching.not_alive_of_tried (h : Searching prog text tried (t :: rest))
    (hTried : Program.Tried text tried t) : ¬ Alive prog text t.place := by
  intro hAlive
  have hPending := h.pending t (h.pos t List.mem_cons_self) hTried hAlive
  exact (h.ends t List.mem_cons_self).not_behind hPending.1

/-- A thread that does not get to acceptance may be dropped. -/
theorem Searching.drop (h : Searching prog text tried (t :: rest))
    (hDead : ¬ Alive prog text t.place) : Searching prog text tried rest where
  pos u hu := h.pos u (List.mem_cons_of_mem t hu)
  ends u hu := h.ends u (List.mem_cons_of_mem t hu)
  pending u hPos huTried hAlive := (h.pending u hPos huTried hAlive).2.resolve_left hDead

/-- A thread may be replaced by those its instruction sends on, once its place is marked. -/
theorem Searching.push (h : Searching prog text tried (t :: rest)) {inst : Inst}
    (hInst : prog[t.pc]? = some inst) (hne : inst ≠ .accept) :
    Searching prog text (tried.setIfInBounds (Program.cell text t.pc t.pos) true)
      (inst.next text t ++ rest) := by
  have htPos := h.pos t List.mem_cons_self
  refine ⟨?_, ?_, ?_⟩
  · intro u hu
    rcases List.mem_append.mp hu with hu | hu
    · exact (next_spec hu).2 htPos
    · exact h.pos u (List.mem_cons_of_mem t hu)
  · intro u hu
    rcases List.mem_append.mp hu with hu | hu
    · exact (h.ends t List.mem_cons_self).inv (follows_of_mem_next hInst hu)
    · exact h.ends u (List.mem_cons_of_mem t hu)
  · intro u huPos huTried hAlive
    rcases (Program.tried_mark_iff htPos huPos).mp huTried with huTried | hSame
    · exact (h.pending u huPos huTried hAlive).next hInst hne
    · have hPlace : u.place = t.place := Prod.ext hSame.1 hSame.2
      rw [hPlace] at hAlive ⊢
      exact pending_next rest hInst hne hAlive

/-- At the start nothing was tried but what lies outside the program. -/
theorem searching_start (hEnds : ∀ i, i ≤ text.size → Ends prog text (0, i)) (start : Nat) :
    Searching prog text (.replicate (prog.size * (text.size + 1)) false)
      (Program.starts text start) where
  pos t ht := by
    obtain ⟨i, -, hi, rfl⟩ := Program.mem_starts_iff.mp ht
    exact hi
  ends t ht := by
    obtain ⟨i, -, hi, rfl⟩ := Program.mem_starts_iff.mp ht
    exact hEnds i hi
  pending t hPos hTried hAlive := by
    obtain ⟨k, s, hAccepts⟩ := alive_iff.mp hAlive
    exact absurd hAccepts ((Program.closed_replicate prog text []).not_accepts hPos hTried)

end Searching

/-- **A search finds what its stack prefers.** -/
theorem explore_prefers {fuel : Nat} {stack : List Thread} {tried : Array Bool} {m : Match}
    (hSearch : Searching prog text tried stack)
    (h : prog.explore text fuel stack tried = some m) :
    ∃ n, Prefers prog text n stack m.slots := by
  -- each step of the search drops the first thread or sends it on, and the preference follows
  induction fuel generalizing stack tried with
  | zero => cases h
  | succ fuel ih =>
    cases stack with
    | nil => cases h
    | cons t rest =>
      -- a thread that does not get to acceptance is passed over in the preference as well
      have hPass (hDead : ¬ Alive prog text t.place)
          (h : prog.explore text fuel rest tried = some m) :
          ∃ n, Prefers prog text n (t :: rest) m.slots := by
        obtain ⟨n, hn⟩ := ih (hSearch.drop hDead) h
        exact ⟨n, .pass hDead hn⟩
      have hStep := Program.explored_cons prog text fuel t rest tried
      rw [h] at hStep
      generalize hFound : some m = found at hStep
      cases hStep with
      | dropped hTried => exact hPass (hSearch.not_alive_of_tried hTried) hFound.symm
      | outside hTried hInst =>
        refine hPass (fun hAlive => ?_) hFound.symm
        obtain ⟨inst, hSome⟩ := exists_inst_of_alive hAlive
        rw [hInst] at hSome
        cases hSome
      | arrived hInst =>
        obtain rfl : m = ⟨t.slots⟩ := Option.some.inj hFound
        exact ⟨0, .accept hInst⟩
      | sent hTried hInst hne =>
        -- what is preferred comes from the threads sent on, unless none of them gets there
        obtain ⟨n, hn⟩ := ih (hSearch.push hInst hne) hFound.symm
        rcases hn.append with hNext | ⟨hDead, hRest⟩
        · exact ⟨n + 1, .step hInst hNext⟩
        · refine ⟨n, .pass (fun hAlive => ?_) hRest⟩
          obtain ⟨u, hu, hLive⟩ := exists_alive_of_next hInst hne hAlive
          exact hDead u hu hLive

/-- The threads above the first that lives are dead. -/
theorem Prefers.split {n : Nat} {stack : List Thread} {s : Slots}
    (h : Prefers prog text n stack s) :
    ∃ before t after, stack = before ++ t :: after ∧
      (∀ u ∈ before, ¬ Alive prog text u.place) ∧ Prefers prog text n [t] s := by
  induction stack with
  | nil => exact absurd h not_prefers_nil
  | cons t rest ih =>
    rcases h.cons with ht | ⟨hDead, hRest⟩
    · exact ⟨[], t, rest, rfl, List.forall_mem_nil _, ht⟩
    · obtain ⟨before, u, after, rfl, hBefore, hu⟩ := ih hRest
      refine ⟨t :: before, u, after, rfl, List.forall_mem_cons.mpr ⟨?_, hBefore⟩, hu⟩
      exact hDead

/-- A match that is found begins at the leftmost place from which there is one, and is the
preferred one there. -/
theorem find_prefers {start : Nat} {m : Match}
    (hEnds : ∀ i, i ≤ text.size → Ends prog text (0, i)) (h : prog.find text start = some m) :
    ∃ i n, start ≤ i ∧ i ≤ text.size ∧
      (∀ i', start ≤ i' → i' < i → ¬ Alive prog text (0, i')) ∧
      Prefers prog text n [⟨0, i, []⟩] m.slots := by
  obtain ⟨n, hn⟩ := explore_prefers (searching_start hEnds start) h
  obtain ⟨before, t, after, hSplit, hDead, ht⟩ := hn.split
  obtain ⟨xs, ys, hRange, rfl, hys⟩ := List.map_eq_append_iff.mp hSplit
  rw [List.range_eq_range'] at hRange
  obtain ⟨k, hk, rfl, rfl⟩ := List.range'_eq_append_iff.mp hRange
  obtain ⟨d, ds, hd, rfl, -⟩ := List.map_eq_cons_iff.mp hys
  obtain ⟨rfl, hPos, -⟩ := List.range'_eq_cons_iff.mp hd
  rw [Nat.zero_add, Nat.mul_one] at ht
  refine ⟨start + k, n, Nat.le_add_right start k, by omega, ?_, ht⟩
  intro i' hStart hlt
  refine hDead ⟨0, i', []⟩ (List.mem_map.mpr ⟨i' - start, ?_, ?_⟩)
  · rw [List.mem_range'_1]
    omega
  · rw [Nat.add_sub_cancel' hStart]

end Places

end TypedSteps
