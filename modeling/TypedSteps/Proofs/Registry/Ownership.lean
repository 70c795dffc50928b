import TypedSteps.Matching
import TypedSteps.Registry.Transforms
import TypedSteps.Proofs.Template.Slots
import TypedSteps.Proofs.Registry.Reachable

/-!
# The owner of a capture

Which type converts a capture is read off the name of its group, while which pattern the
group holds was settled when the template was compiled. Both choices fall on the same
type: the first table entry with a name is the type that the name resolves to.

* `resolve?_eq_find?` — resolving a name is looking it up in the table;
* `slot_owner` — the type that converts a slot's captures is the one whose keyword stands
  in the template.
-/

namespace TypedSteps

/-- A name resolves to the type of the first table entry with that name. -/
theorem resolve?_eq_find? (r : Registry) (name : String) :
    (r.resolve? name).map ParameterType.parameter = r.table.find? (·.name == name) := by
  have hBuiltin : (Builtin.all.map Builtin.parameter).find? (·.name == name) =
      (Builtin.ofName? name).map Builtin.parameter := by
    rw [List.find?_map]
    rfl
  have hCustom : (r.types.map CustomType.parameter).find? (·.name == name) =
      (r.types.find? (·.name == name)).map CustomType.parameter := by
    rw [List.find?_map]
    rfl
  rw [Registry.table, List.find?_append, hBuiltin, hCustom, Registry.resolve?]
  cases Builtin.ofName? name with
  | some b => rfl
  | none =>
    cases r.types.find? (·.name == name) with
    | none => rfl
    | some t => rfl

theorem name_mem_of_resolve? {r : Registry} {name : String} {type : ParameterType}
    (h : r.resolve? name = some type) : name ∈ r.allNames := by
  rw [Registry.allNames, List.mem_append]
  rw [Registry.resolve?] at h
  cases hb : Builtin.ofName? name with
  | some b =>
    left
    rw [← name_of_ofName? hb]
    exact List.mem_map_of_mem (Builtin.mem_all b)
  | none =>
    rw [hb] at h
    right
    obtain ⟨t, ht, -⟩ := Option.map_eq_some_iff.mp h
    have hName : t.name = name := by simpa using List.find?_some ht
    rw [← hName]
    exact List.mem_map_of_mem (List.mem_of_find?_eq_some ht)

theorem mem_types_of_resolve? {r : Registry} {name : String} {t : CustomType}
    (h : r.resolve? name = some (.custom t)) : t ∈ r.types := by
  rw [Registry.resolve?] at h
  cases hb : Builtin.ofName? name with
  | some b =>
    rw [hb] at h
    cases h
  | none =>
    rw [hb] at h
    obtain ⟨u, hu, hut⟩ := Option.map_eq_some_iff.mp h
    cases hut
    exact List.mem_of_find?_eq_some hu

/-- A custom type is found by its name. -/
theorem resolve?_of_mem_types {r : Registry} (h : r.Valid) {t : CustomType} (ht : t ∈ r.types) :
    r.resolve? t.name = some (.custom t) := by
  have hNodup := h.nodup
  rw [Registry.allNames, List.nodup_append] at hNodup
  obtain ⟨-, hTypes, hApart⟩ := hNodup
  have hBuiltin : Builtin.ofName? t.name = none := by
    rw [ofName?_eq_none_iff]
    intro b
    exact hApart _ (List.mem_map_of_mem (Builtin.mem_all b)) _ (List.mem_map_of_mem ht)
  obtain ⟨before, after, hSplit⟩ := List.append_of_mem ht
  rw [hSplit, List.map_append, List.nodup_append] at hTypes
  have hFirst : before.find? (·.name == t.name) = none := by
    rw [List.find?_eq_none]
    intro u hu hName
    exact hTypes.2.2 _ (List.mem_map_of_mem hu) _ List.mem_cons_self (by simpa using hName)
  have hFind : r.types.find? (·.name == t.name) = some t := by
    rw [hSplit, List.find?_append, hFirst, List.find?_cons_of_pos (by simp)]
    rfl
  rw [Registry.resolve?, hBuiltin, hFind]
  rfl

/-- The pattern of a slot is the one of the type that its name resolves to. -/
theorem resolve?_of_slotAt {r : Registry} {before : List Piece} {s : Slot} {pattern : String}
    (h : SlotAt r.table before s pattern) :
    ∃ type, r.resolve? s.name = some type ∧ type.parameter = ⟨s.name, pattern⟩ := by
  have hEntry := h.entry
  rw [← resolve?_eq_find?] at hEntry
  exact Option.map_eq_some_iff.mp hEntry

/-- The type that a group's name gives back owns the captures of the group. -/
theorem convertCapture_of_resolve? {r : Registry} {name : String} {n : Nat} {type : ParameterType}
    (hName : name ≠ "") (hn : n < occurrenceBound) (hResolve : r.resolve? name = some type)
    (zone : Calendar.Zone) (text : String) (shared : SharedTypes) :
    convertCapture r zone ⟨groupName name n, text⟩ shared = type.convert zone text shared := by
  have hOwner : ownerOf? r (groupName name n) = some type := by
    rw [ownerOf?, splitGroupName?_groupName hName hn]
    exact hResolve
  rw [convertCapture, hOwner, Option.getD_some]

/-- The source around a slot: what comes from the pieces before it, its pattern in its
group, and what comes from the pieces after it. -/
theorem source_of_pieces {table : List Parameter} {escape : Bool} {template : String}
    {before after : List Piece} {s : Slot} {pattern : String}
    (h : pieces table template = before ++ .slot s pattern :: after)
    (hGroup : s.group = groupName s.name s.occurrence) :
    (TemplateSource.ofTemplate table escape template).source.toList =
      before.flatMap (·.text escape) ++
        ("(?P<" ++ s.group ++ ">(?:" ++ pattern ++ "))").toList ++
        after.flatMap (·.text escape) := by
  have hSource : (TemplateSource.ofTemplate table escape template).source.toList =
      (pieces table template).flatMap (·.text escape) := String.toList_ofList
  rw [hSource, h, List.flatMap_append, List.flatMap_cons, List.append_assoc, hGroup]
  rfl

/-- **The type that converts a capture is the type whose keyword produced it.** For every
slot of a template: its group gives back its name and its number; its keyword stands in
the template at the byte that the slot notes; its name resolves to a type, whose pattern
is the one that stands in the slot's group; and that type converts whatever the group
captures. A template has fewer than 2^64 bytes, as all texts in memory do. -/
theorem slot_owner {r : Registry} (hr : r.Reachable) {escape : Bool} {template : String}
    (hSize : template.utf8ByteSize < occurrenceBound) {s : Slot}
    (hs : s ∈ (TemplateSource.ofTemplate r.table escape template).slots) :
    splitGroupName? s.group = some (s.name, s.occurrence) ∧
    ∃ before after type,
      template.toList = before.flatMap Piece.written ++ keywordCharacters s.name.toList ++
        after.flatMap Piece.written ∧
      s.start = byteLength (before.flatMap Piece.written) ∧
      r.resolve? s.name = some type ∧ type.parameter.name = s.name ∧
      pieces r.table template = before ++ .slot s type.parameter.pattern :: after ∧
      (TemplateSource.ofTemplate r.table escape template).source.toList =
        before.flatMap (·.text escape) ++
          ("(?P<" ++ s.group ++ ">(?:" ++ type.parameter.pattern ++ "))").toList ++
          after.flatMap (·.text escape) ∧
      ∀ zone text shared,
        convertCapture r zone ⟨s.group, text⟩ shared = type.convert zone text shared := by
  obtain ⟨before, pattern, after, hPieces⟩ := exists_piece_of_mem_slotsOf hs
  have hSlot := slotAt_of_pieces hPieces
  obtain ⟨type, hResolve, hParameter⟩ := resolve?_of_slotAt hSlot
  have hName : s.name ≠ "" :=
    (hr.valid.identifiers _ (name_mem_of_resolve? hResolve)).ne_empty
  have hBound : s.occurrence < occurrenceBound :=
    Nat.lt_of_le_of_lt (occurrence_le_byteLength hPieces) hSize
  have hPattern : type.parameter.pattern = pattern := by rw [hParameter]
  refine ⟨?_, before, after, type, ?_, hSlot.start, hResolve, by rw [hParameter], ?_, ?_, ?_⟩
  · rw [hSlot.group]
    exact splitGroupName?_groupName hName hBound
  · rw [← written_pieces r.table template, hPieces, List.flatMap_append, List.flatMap_cons,
      List.append_assoc]
    rfl
  · rw [hPattern, hPieces]
  · rw [hPattern]
    exact source_of_pieces hPieces hSlot.group
  · intro zone text shared
    rw [hSlot.group]
    exact convertCapture_of_resolve? hName hBound hResolve zone text shared

/-- A registry with names that look like groups of one another. -/
def underscored : Registry :=
  { types := [⟨"a", "x", .text⟩, ⟨"a_1", "y", .text⟩, ⟨"a_1_1", "z", .text⟩] }

theorem reachable_underscored : underscored.Reachable := by
  let r₁ : Registry := { types := [⟨"a", "x", .text⟩] }
  let r₂ : Registry := { types := [⟨"a", "x", .text⟩, ⟨"a_1", "y", .text⟩] }
  have h₁ : Registry.empty.register "a" "x" .text = .ok r₁ := rfl
  have h₂ : r₁.register "a_1" "y" .text = .ok r₂ := rfl
  have h₃ : r₂.register "a_1_1" "z" .text = .ok underscored := rfl
  exact .register (.register (.register .empty h₁) h₂) h₃

/-- The group `a_1_2` belongs to the second occurrence of `a_1`, and not to `a_1_1` or to
`a`. -/
theorem slot_owner_underscored :
    underscored.Reachable ∧ "{a_1_1}{a}{a_1}{a_1}".utf8ByteSize < occurrenceBound ∧
    ⟨"a_1", 2, "a_1_2", 15⟩ ∈
      (TemplateSource.ofTemplate underscored.table true "{a_1_1}{a}{a_1}{a_1}").slots ∧
    splitGroupName? "a_1_2" = some ("a_1", 2) ∧
    ∀ zone text shared,
      convertCapture underscored zone ⟨"a_1_2", text⟩ shared =
        (ParameterType.custom ⟨"a_1", "y", .text⟩).convert zone text shared := by
  have hSize : "{a_1_1}{a}{a_1}{a_1}".utf8ByteSize < occurrenceBound := by decide +kernel
  have hs : ⟨"a_1", 2, "a_1_2", 15⟩ ∈
      (TemplateSource.ofTemplate underscored.table true "{a_1_1}{a}{a_1}{a_1}").slots := by
    decide +kernel
  obtain ⟨hSplit, before, after, type, -, -, hResolve, -, -, -, hConvert⟩ :=
    slot_owner reachable_underscored hSize hs
  have hType : underscored.resolve? "a_1" = some (.custom ⟨"a_1", "y", .text⟩) := rfl
  rw [hType, Option.some.injEq] at hResolve
  subst hResolve
  exact ⟨reachable_underscored, hSize, hs, hSplit, hConvert⟩

end TypedSteps
