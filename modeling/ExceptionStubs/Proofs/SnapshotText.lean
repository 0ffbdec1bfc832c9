import ExceptionStubs.Proofs.JsonText
import ExceptionStubs.Snapshot.File
/-!
# Written snapshots read back

What is left out when a declaration is written is what is filled in when it is read, and every field
is written once under a name of its own. So a written snapshot, in one line or over several, stands
for the snapshot itself.
-/

namespace ExceptionStubs

namespace Json

theorem mapM_map_eq_some {α β : Type} {write : α → β} {read? : β → Option α} {xs : List α}
    (h : ∀ x ∈ xs, read? (write x) = some x) : (xs.map write).mapM read? = some xs := by
  induction xs with
  | nil => rfl
  | cons x xs ih =>
    have later := ih fun y mem => h y (List.mem_cons_of_mem x mem)
    rw [List.map_cons, List.mapM_cons, h x List.mem_cons_self, later]
    rfl

@[simp] theorem string?_ofString (s : String) : (ofString s).string? = some s := rfl

theorem strings?_ofStrings (ss : List String) : (ofStrings ss).strings? = some ss :=
  mapM_map_eq_some fun _ _ => rfl

theorem fields?_ofFields (fs : List (String × Json)) : (ofFields fs).fields? = some fs :=
  mapM_map_eq_some fun _ _ => rfl

/-- A field that is there once is found. -/
theorem member?_of_nodup {fs : List (String × Json)} (distinct : (fs.map Prod.fst).Nodup)
    (name : String) : member? fs name = some (fs.lookup name) := by
  have others {fs : List (String × Json)} (absent : name ∉ fs.map Prod.fst) :
      fs.filter (·.1 == name) = [] := by
    rw [List.filter_eq_nil_iff]
    intro f mem
    simp only [beq_iff_eq]
    rintro rfl
    exact absent (List.mem_map_of_mem mem)
  induction fs with
  | nil => rfl
  | cons f fs ih =>
    obtain ⟨other, v⟩ := f
    rw [List.map_cons, List.nodup_cons] at distinct
    have rest := ih distinct.2
    by_cases same : other = name
    · subst same
      simp [member?, others distinct.1]
    · unfold member? at rest ⊢
      have apart : (name == other) = false := by simpa using Ne.symm same
      rw [List.filter_cons_of_neg (by simpa using same), rest, List.lookup_cons, apart]

theorem members?_ofFields {fs : List (String × Json)} (distinct : (fs.map Prod.fst).Nodup)
    (names : List String) : (ofFields fs).members? names = some (names.map (List.lookup · fs)) := by
  have found : names.mapM (member? fs) = some (names.map (List.lookup · fs)) := by
    induction names with
    | nil => rfl
    | cons name names ih =>
      rw [List.mapM_cons, member?_of_nodup distinct, ih]
      rfl
  have fields := fields?_ofFields fs
  unfold members? ofFields at *
  simpa [fields] using found

end Json

namespace Parameter

theorem ofJson?_toJson (p : Parameter) : ofJson? p.toJson = some p := by
  unfold ofJson? toJson
  rw [Json.members?_ofFields (by simp)]
  rfl

theorem isReadBack_toJson (p : Parameter) : p.toJson.IsReadBack := by
  apply Json.isReadBack_ofFields
  simp [Json.isReadBack_ofString]

end Parameter

namespace Marker

theorem isRegular_ofFields {depth : Nat} {fs : List (String × Json)}
    (h : ∀ f ∈ fs, Json.isRegular depth f.2 = true) :
    Json.isRegular (depth + 1) (.ofFields fs) = true := by
  simpa [Json.ofFields, Json.isRegular] using fun name v mem => h (name, v) mem

/-- A marker is read from its type and from its other fields. -/
theorem ofJson?_of_tagged {v : Json} {m : Marker} {fs : List (String × Json)}
    (regular : Json.isRegular maximalDepth v = true)
    (tagged : untag? v = some (.ofString m.kind.tag, .ofFields fs))
    (distinct : (fs.map Prod.fst).Nodup)
    (made : ofMembers? m.kind (m.kind.fieldNames.map (List.lookup · fs)) = some m) :
    ofJson? v = some m := by
  have kind : MarkerKind.ofTag? m.kind.tag = some m.kind := by cases m <;> rfl
  rw [ofJson?, if_pos regular, tagged]
  simp only [Option.bind_eq_bind, Option.bind_some, Json.string?_ofString, kind,
    Json.members?_ofFields distinct, made]

theorem ofJson?_toJson (m : Marker) : ofJson? m.toJson = some m := by
  cases m with
  | type marker =>
    have tagged : untag? (toJson (.type marker)) = some (.ofString "exception_maker",
        .ofFields [("exception_names", .ofStrings marker.exceptionNames),
          ("custom_parameter_order", .bool marker.customParameterOrder)]) := rfl
    refine ofJson?_of_tagged ?_ tagged (by simp) ?_
    · apply isRegular_ofFields
      simp [Json.isRegular, Json.ofString, Json.ofStrings]
    · have names := Json.strings?_ofStrings marker.exceptionNames
      simp [ofMembers?, MarkerKind.fieldNames, kind, names, List.lookup_cons, Json.bool?]
  | method marker =>
    have tagged : untag? (toJson (.method marker)) = some (.ofString "exception_runner",
        .ofFields [("exception_type", .ofString marker.exceptionType),
          ("component_model", .ofString marker.componentModel)]) := rfl
    refine ofJson?_of_tagged ?_ tagged (by simp) rfl
    apply isRegular_ofFields
    simp [Json.isRegular, Json.ofString]

theorem isReadBack_toJson (m : Marker) : m.toJson.IsReadBack := by
  apply Json.isReadBack_ofFields
  cases m with
  | type marker =>
    have names : (Json.ofStrings marker.exceptionNames).IsReadBack := by
      apply Json.isReadBack_array
      simp [Json.isReadBack_ofString]
    simp [Json.isReadBack_ofString, Json.isReadBack_bool, names]
  | method marker => simp [Json.isReadBack_ofString]

end Marker

namespace Declaration

theorem optionalText?_map_ofString (text : Option String) :
    optionalText? (text.map Json.ofString) = some text := by
  cases text <;> rfl

/-- Every field is found where it was written; what was left out is not. -/
theorem members?_toJson (d : Declaration) :
    d.toJson.members? fieldNames =
      some [some (.ofString d.element.word), some (.ofString d.package),
        d.enclosing.map Json.ofString, some (.ofString d.name), d.returnType.map Json.ofString,
        if d.parameters.isEmpty then none
        else some (.array (d.parameters.map Parameter.toJson)),
        some d.marker.toJson] := by
  unfold toJson optionalField
  rw [Json.members?_ofFields]
  · cases d.enclosing <;> cases d.returnType <;> cases d.parameters <;> rfl
  · cases d.enclosing <;> cases d.returnType <;> cases d.parameters <;> simp

theorem ofJson?_toJson (d : Declaration) : ofJson? d.toJson = some d := by
  have element : ElementKind.ofJson? (.ofString d.element.word) = some d.element :=
    ElementKind.ofWord?_word d.element
  have parameters : (if d.parameters.isEmpty then none
      else some (Json.array (d.parameters.map Parameter.toJson))).elim (some [])
        (fun v => v.array?.bind (·.mapM Parameter.ofJson?)) = some d.parameters := by
    cases listed : d.parameters with
    | nil => rfl
    | cons p ps => exact Json.mapM_map_eq_some fun q _ => q.ofJson?_toJson
  unfold ofJson?
  rw [members?_toJson]
  simp only [element, parameters, optionalText?_map_ofString, Marker.ofJson?_toJson,
    Json.string?_ofString, Option.elim_some, Option.bind_eq_bind, Option.bind_some,
    Option.pure_def]

theorem isReadBack_toJson (d : Declaration) : d.toJson.IsReadBack := by
  have parameters : (Json.array (d.parameters.map Parameter.toJson)).IsReadBack := by
    apply Json.isReadBack_array
    simp [Parameter.isReadBack_toJson]
  apply Json.isReadBack_ofFields
  unfold optionalField
  cases d.enclosing <;> cases d.returnType <;> by_cases none : d.parameters.isEmpty = true <;>
    simp [none, parameters, Json.isReadBack_ofString, Marker.isReadBack_toJson]

end Declaration

namespace Snapshot

theorem ofJson?_toJson (s : Snapshot) : ofJson? s.toJson = some s := by
  have declarations : (Json.array (s.declarations.map Declaration.toJson)).array?.bind
      (·.mapM Declaration.ofJson?) = some s.declarations :=
    Json.mapM_map_eq_some fun d _ => d.ofJson?_toJson
  unfold ofJson? toJson
  rw [Json.members?_ofFields (by simp)]
  simp [fieldNames, declarations]

theorem isReadBack_toJson (s : Snapshot) : s.toJson.IsReadBack := by
  apply Json.isReadBack_ofFields
  have declarations : (Json.array (s.declarations.map Declaration.toJson)).IsReadBack := by
    apply Json.isReadBack_array
    simp [Declaration.isReadBack_toJson]
  simp [declarations]

end Snapshot

/-- The text of every snapshot, in one line or over several, is read as the snapshot. -/
theorem written_snapshot_is_read_back (s : Snapshot) (origin : String) :
    Snapshot.ofText Snapshot.ofJsonText? origin s.toJson.render = .ok s ∧
      Snapshot.ofText Snapshot.ofJsonText? origin s.toJson.renderIndented = .ok s := by
  obtain ⟨line, lines⟩ := s.isReadBack_toJson.ofText?
  have read {text : String} (h : Json.ofText? text = some s.toJson) :
      Snapshot.ofText Snapshot.ofJsonText? origin text = .ok s := by
    rw [Snapshot.ofText, Snapshot.ofJsonText?, h, Option.bind_some, s.ofJson?_toJson]
  exact ⟨read line, read lines⟩

end ExceptionStubs
