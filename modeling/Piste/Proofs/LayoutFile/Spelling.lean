import Piste.LayoutFile.Read

/-!
# How connections are spelled

A connection is written as a short list or as a mapping. `Spells` says which values write which
connection, without the reader; `connectionOfValue_eq_ok_iff` says that the reader accepts these
values and no others, and `connectionOfValue_eq_error_iff` what it reports of any other.

A mapping is read entry by entry. What this does to one field depends on the values under its key
only (`Gathers`), whatever stands between them (`foldlM_add?_eq_some_iff`).
-/

namespace Piste.LayoutFile

open Diagram Yaml

/-! ## Spellings -/

/-- The values that a mapping has under a key. -/
def valuesOf (key : String) (entries : List (Value × Value)) : List Value :=
  entries.filterMap fun (k, value) =>
    match k with
    | .text name => if name = key then some value else none
    | _ => none

/-- If the value is a mapping, all its keys are texts. -/
def TextKeys : Value → Prop
  | .mapping entries => ∀ entry ∈ entries, ∃ name, entry.1 = .text name
  | _ => True

/-- The value writes the connection. Under other keys a mapping may have what it likes. -/
inductive Spells : Value → Connection → Prop where
  | plain (source target : String) :
    Spells (.sequence [.text source, .text target]) ⟨source, target, false⟩
  | marked (source target : String) :
    Spells (.sequence [.text source, .text target, .text "R"]) ⟨source, target, true⟩
  | fields {entries : List (Value × Value)} {source target : String} {resistor : Bool}
      (hsource : valuesOf "from" entries = [.text source])
      (htarget : valuesOf "to" entries = [.text target])
      (hresistor : valuesOf "resistor" entries = [] ∧ resistor = false ∨
        valuesOf "resistor" entries = [.bool resistor]) :
    Spells (.mapping entries) ⟨source, target, resistor⟩

/-- What is wrong with a value that writes no connection. -/
def rejection : Value → Fault
  | .sequence [.text source, .text target, .text marker] => .unknownMarker marker source target "R"
  | _ => .noConnection

/-! ## Fields of a mapping -/

/-- A field that was `old` is `new` after `values` have been read: it stays, or it was unread and
there is one value, of the right kind. -/
def Gathers {α : Type} (kind : α → Value) (old : Option α) (values : List Value)
    (new : Option α) : Prop :=
  values = [] ∧ new = old ∨ old = none ∧ ∃ a, values = [kind a] ∧ new = some a

section Gathers

variable {α : Type} {kind : α → Value} {old new : Option α} {value : Value} {values : List Value}

theorem gathers_nil : Gathers kind old [] new ↔ new = old := by
  simp [Gathers]

/-- No value comes after the first. -/
theorem gathers_cons :
    Gathers kind old (value :: values) new ↔
      old = none ∧ ∃ a, value = kind a ∧ Gathers kind (some a) values new := by
  simp only [Gathers, reduceCtorEq, false_and, false_or, List.cons.injEq]
  constructor
  · rintro ⟨hold, a, ⟨hvalue, hvalues⟩, hnew⟩
    exact ⟨hold, a, hvalue, Or.inl ⟨hvalues, hnew⟩⟩
  · rintro ⟨hold, a, hvalue, ⟨hvalues, hnew⟩ | ⟨⟨⟩, -⟩⟩
    exact ⟨hold, a, ⟨hvalue, hvalues⟩, hnew⟩

theorem gathers_some {a : α} : Gathers kind none values (some a) ↔ values = [kind a] := by
  simp only [Gathers, reduceCtorEq, and_false, true_and, false_or, Option.some.injEq]
  constructor
  · rintro ⟨b, hvalues, rfl⟩
    exact hvalues
  · intro hvalues
    exact ⟨a, hvalues, rfl⟩

/-- A field that may be left out is the value given, or else the default. -/
theorem exists_gathers_getD {a default : α} :
    (∃ new, Gathers kind none values new ∧ new.getD default = a) ↔
      values = [] ∧ a = default ∨ values = [kind a] := by
  constructor
  · rintro ⟨new, ⟨hvalues, rfl⟩ | ⟨-, b, hvalues, rfl⟩, rfl⟩
    · exact Or.inl ⟨hvalues, rfl⟩
    · exact Or.inr hvalues
  · rintro (⟨hvalues, rfl⟩ | hvalues)
    · exact ⟨none, Or.inl ⟨hvalues, rfl⟩, rfl⟩
    · exact ⟨some a, gathers_some.2 hvalues, rfl⟩

end Gathers

section Drafts

variable {draft draft' : ConnectionDraft} {value : Value}

theorem valuesOf_cons (key name : String) (value : Value) (entries : List (Value × Value)) :
    valuesOf key ((.text name, value) :: entries) =
      if name = key then value :: valuesOf key entries else valuesOf key entries := by
  by_cases hname : name = key
  · simp [valuesOf, hname]
  · simp [valuesOf, hname]

/-- A field that has been read before is refused. -/
theorem once_eq_some_iff {α : Type} {old : Option α} {next : ConnectionDraft} :
    (if old.isSome then none else some next) = some draft' ↔ old = none ∧ draft' = next := by
  cases old <;> simp [eq_comm]

theorem add?_from : draft.add? (.text "from", value) = some draft' ↔
    draft.source = none ∧ ∃ id, value = .text id ∧ draft' = { draft with source := some id } := by
  cases value with
  | text id => exact once_eq_some_iff.trans (by simp)
  | _ => simp [ConnectionDraft.add?, connectionField?]

theorem add?_to : draft.add? (.text "to", value) = some draft' ↔
    draft.target = none ∧ ∃ id, value = .text id ∧ draft' = { draft with target := some id } := by
  cases value with
  | text id => exact once_eq_some_iff.trans (by simp)
  | _ => simp [ConnectionDraft.add?, connectionField?]

theorem add?_resistor : draft.add? (.text "resistor", value) = some draft' ↔
    draft.resistor = none ∧ ∃ b, value = .bool b ∧ draft' = { draft with resistor := some b } := by
  cases value with
  | bool b => exact once_eq_some_iff.trans (by simp)
  | _ => simp [ConnectionDraft.add?, connectionField?]

theorem add?_other {name : String} (hfrom : name ≠ "from") (hto : name ≠ "to")
    (hresistor : name ≠ "resistor") : draft.add? (.text name, value) = some draft := by
  have hfield : connectionField? (.text name) = some .other := by
    unfold connectionField?
    split <;> simp_all
  simp [ConnectionDraft.add?, hfield]

/-- Each field gathers the values under its own key, in whatever order the entries come. -/
theorem foldlM_add?_eq_some_iff {entries : List (Value × Value)}
    (htext : ∀ entry ∈ entries, ∃ name, entry.1 = .text name) :
    entries.foldlM ConnectionDraft.add? draft = some draft' ↔
      Gathers .text draft.source (valuesOf "from" entries) draft'.source ∧
      Gathers .text draft.target (valuesOf "to" entries) draft'.target ∧
      Gathers .bool draft.resistor (valuesOf "resistor" entries) draft'.resistor := by
  induction entries generalizing draft with
  | nil =>
    cases draft
    cases draft'
    simp [valuesOf, gathers_nil, eq_comm]
  | cons entry entries ih =>
    obtain ⟨key, value⟩ := entry
    rw [List.forall_mem_cons] at htext
    obtain ⟨⟨name, rfl⟩, htext⟩ := htext
    have hrun : ((.text name, value) :: entries).foldlM ConnectionDraft.add? draft = some draft' ↔
        ∃ next, draft.add? (.text name, value) = some next ∧
          entries.foldlM ConnectionDraft.add? next = some draft' := by
      rw [List.foldlM_cons]
      exact Option.bind_eq_some_iff
    rw [hrun]
    simp only [ih htext, valuesOf_cons]
    by_cases hfrom : name = "from"
    · subst hfrom
      simp only [add?_from, gathers_cons, String.reduceEq, if_true, if_false]
      constructor
      · rintro ⟨_, ⟨hsource, id, rfl, rfl⟩, hid, hrest⟩
        exact ⟨⟨hsource, id, rfl, hid⟩, hrest⟩
      · rintro ⟨⟨hsource, id, rfl, hid⟩, hrest⟩
        exact ⟨_, ⟨hsource, id, rfl, rfl⟩, hid, hrest⟩
    by_cases hto : name = "to"
    · subst hto
      simp only [add?_to, gathers_cons, String.reduceEq, if_true, if_false]
      constructor
      · rintro ⟨_, ⟨htarget, id, rfl, rfl⟩, hsource, hid, hresistor⟩
        exact ⟨hsource, ⟨htarget, id, rfl, hid⟩, hresistor⟩
      · rintro ⟨hsource, ⟨htarget, id, rfl, hid⟩, hresistor⟩
        exact ⟨_, ⟨htarget, id, rfl, rfl⟩, hsource, hid, hresistor⟩
    by_cases hresistor : name = "resistor"
    · subst hresistor
      simp only [add?_resistor, gathers_cons, String.reduceEq, if_true, if_false]
      constructor
      · rintro ⟨_, ⟨hresistor, b, rfl, rfl⟩, hsource, htarget, hb⟩
        exact ⟨hsource, htarget, hresistor, b, rfl, hb⟩
      · rintro ⟨hsource, htarget, hresistor, b, rfl, hb⟩
        exact ⟨_, ⟨hresistor, b, rfl, rfl⟩, hsource, htarget, hb⟩
    · simp [add?_other hfrom hto hresistor, hfrom, hto, hresistor]

end Drafts

/-! ## Reading a spelling -/

/-- A mapping writes the connection that its fields give. -/
theorem connectionOfEntries?_eq_some_iff {entries : List (Value × Value)}
    (htext : ∀ entry ∈ entries, ∃ name, entry.1 = .text name) {connection : Connection} :
    connectionOfEntries? entries = some connection ↔ Spells (.mapping entries) connection := by
  obtain ⟨source, target, resistor⟩ := connection
  constructor
  · intro h
    obtain ⟨draft, hfold, h⟩ := Option.bind_eq_some_iff.1 h
    obtain ⟨source', hsource', h⟩ := Option.bind_eq_some_iff.1 h
    obtain ⟨target', htarget', h⟩ := Option.bind_eq_some_iff.1 h
    cases h
    obtain ⟨hsource, htarget, hresistor⟩ := (foldlM_add?_eq_some_iff htext).1 hfold
    rw [hsource'] at hsource
    rw [htarget'] at htarget
    exact .fields (gathers_some.1 hsource) (gathers_some.1 htarget)
      (exists_gathers_getD.1 ⟨_, hresistor, rfl⟩)
  · intro h
    cases h with
    | fields hsource htarget hresistor =>
      obtain ⟨new, hnew, hdefault⟩ := exists_gathers_getD.2 hresistor
      have hfold : entries.foldlM ConnectionDraft.add? ⟨none, none, none⟩ =
          some ⟨some source, some target, new⟩ :=
        (foldlM_add?_eq_some_iff htext).2
          ⟨gathers_some.2 hsource, gathers_some.2 htarget, hnew⟩
      simp [connectionOfEntries?, hfold, hdefault]

/-- The values that are read as connections are their spellings. -/
theorem connectionOfValue_eq_ok_iff {value : Value} (hkeys : TextKeys value)
    {connection : Connection} :
    connectionOfValue value = .ok connection ↔ Spells value connection := by
  constructor
  · intro h
    unfold connectionOfValue at h
    split at h
    · cases h
      exact .plain _ _
    · rename_i source target marker
      split at h
      · rename_i hmarker
        cases h
        rw [hmarker]
        exact .marked _ _
      · cases h
    · split at h
      · rename_i hentries
        cases h
        exact (connectionOfEntries?_eq_some_iff hkeys).1 hentries
      · cases h
    · cases h
  · intro h
    cases h with
    | plain source target => rfl
    | marked source target => rfl
    | @fields entries source target resistor hsource htarget hresistor =>
      have hentries := (connectionOfEntries?_eq_some_iff hkeys).2
        (.fields hsource htarget hresistor)
      simp only [connectionOfValue, hentries]

/-- A value that is no spelling is reported as such, and a marker that marks nothing by name. -/
theorem connectionOfValue_eq_error_iff {value : Value} (hkeys : TextKeys value) {fault : Fault} :
    connectionOfValue value = .error fault ↔
      (∀ connection, ¬ Spells value connection) ∧ fault = rejection value := by
  have hfault : ∀ fault, connectionOfValue value = .error fault → fault = rejection value := by
    intro fault h
    unfold connectionOfValue at h
    split at h
    · cases h
    · split at h
      · cases h
      · cases h
        rfl
    · split at h
      · cases h
      · cases h
        rfl
    · rename_i hmarked _
      cases h
      unfold rejection
      split
      · exact absurd rfl (hmarked _ _ _)
      · rfl
  constructor
  · intro h
    refine ⟨fun connection hspells => ?_, hfault fault h⟩
    rw [(connectionOfValue_eq_ok_iff hkeys).2 hspells] at h
    cases h
  · rintro ⟨hnone, rfl⟩
    cases h : connectionOfValue value with
    | ok connection => exact absurd ((connectionOfValue_eq_ok_iff hkeys).1 h) (hnone connection)
    | error fault => rw [hfault fault h]

theorem spells_mapping (source target : String) :
    Spells (.mapping [(.text "from", .text source), (.text "to", .text target)])
      ⟨source, target, false⟩ :=
  .fields rfl rfl (Or.inl ⟨rfl, rfl⟩)

theorem spells_mapping_resistor (source target : String) (resistor : Bool) :
    Spells (.mapping [(.text "from", .text source), (.text "to", .text target),
      (.text "resistor", .bool resistor)]) ⟨source, target, resistor⟩ :=
  .fields rfl rfl (Or.inr rfl)

/-- A value is read as a connection exactly if it spells one, and then as this one. Every connection
can be spelled, as a list or as a mapping. -/
theorem read_connection_iff_spells :
    (∀ value, TextKeys value →
      (∀ connection, connectionOfValue value = .ok connection ↔ Spells value connection) ∧
      ∀ fault, connectionOfValue value = .error fault ↔
        (∀ connection, ¬ Spells value connection) ∧ fault = rejection value) ∧
    (∀ connection, ∃ value, TextKeys value ∧ connectionOfValue value = .ok connection) ∧
    ∀ source target,
      (connectionOfValue (.sequence [.text source, .text target]) =
          .ok ⟨source, target, false⟩ ∧
        connectionOfValue (.mapping [(.text "from", .text source), (.text "to", .text target)]) =
          .ok ⟨source, target, false⟩) ∧
      connectionOfValue (.sequence [.text source, .text target, .text "R"]) =
          .ok ⟨source, target, true⟩ ∧
        connectionOfValue (.mapping [(.text "from", .text source), (.text "to", .text target),
          (.text "resistor", .bool true)]) = .ok ⟨source, target, true⟩ := by
  have hkeys : ∀ source target resistor, TextKeys (.mapping [(.text "from", .text source),
      (.text "to", .text target), (.text "resistor", .bool resistor)]) := by
    intro source target resistor
    simp [TextKeys]
  refine ⟨fun value hvalue => ⟨fun connection => connectionOfValue_eq_ok_iff hvalue,
    fun fault => connectionOfValue_eq_error_iff hvalue⟩, ?_, ?_⟩
  · rintro ⟨source, target, resistor⟩
    exact ⟨_, hkeys source target resistor,
      (connectionOfValue_eq_ok_iff (hkeys source target resistor)).2
        (spells_mapping_resistor source target resistor)⟩
  · intro source target
    refine ⟨⟨rfl, ?_⟩, rfl, ?_⟩
    · exact (connectionOfValue_eq_ok_iff (by simp [TextKeys])).2 (spells_mapping source target)
    · exact (connectionOfValue_eq_ok_iff (hkeys source target true)).2
        (spells_mapping_resistor source target true)

/-- The fields come in any order, with others between them. A marker in lower case marks nothing. -/
theorem read_connection_of_scattered :
    connectionOfValue (.mapping [(.text "to", .text "B"), (.text "note", .null),
      (.text "resistor", .bool true), (.text "from", .text "A")]) = .ok ⟨"A", "B", true⟩ ∧
    connectionOfValue (.sequence [.text "A", .text "B", .text "r"]) =
      .error (.unknownMarker "r" "A" "B" "R") := by
  have hscattered : TextKeys (.mapping [(.text "to", .text "B"), (.text "note", .null),
      (.text "resistor", .bool true), (.text "from", .text "A")]) := by
    simp [TextKeys]
  have hlist : TextKeys (.sequence [.text "A", .text "B", .text "r"]) := trivial
  constructor
  · exact ((read_connection_iff_spells.1 _ hscattered).1 _).2 (.fields rfl rfl (Or.inr rfl))
  · refine ((read_connection_iff_spells.1 _ hlist).2 _).2 ⟨?_, rfl⟩
    intro connection hspells
    generalize hvalue : Value.sequence [.text "A", .text "B", .text "r"] = value at hspells
    cases hspells <;> simp at hvalue

end Piste.LayoutFile
