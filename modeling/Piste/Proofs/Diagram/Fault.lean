import Piste.Proofs.Diagram.BusRows

/-!
# Connections that cannot be drawn

A connection can be drawn if it names two different terminals of the layout. Otherwise
`Layout.Fault` says what is wrong with it: its source is looked up first and its target after that,
and only two terminals that are there are compared (`Layout.resolve_eq_error_iff`).

A list of connections is refused for the first one that cannot be drawn
(`Layout.draw_eq_error_iff`), and a list of sets for the first set (`drawSets_eq_error_iff`). Both
are put together in `Layout.first_fault_of_draw`.
-/

namespace Piste

open Diagram Outcome

/-! ## One connection -/

namespace Diagram.Layout

/-- Whether a terminal of the layout has this id. -/
def Contains (layout : Layout) (id : String) : Prop :=
  id ∈ layout.terminals.map Terminal.id

/-- Whether a connection names two different terminals of the layout. -/
def Connects (layout : Layout) (connection : Connection) : Prop :=
  layout.Contains connection.source ∧ layout.Contains connection.target ∧
    connection.source ≠ connection.target

instance (layout : Layout) (id : String) : Decidable (layout.Contains id) :=
  inferInstanceAs (Decidable (_ ∈ _))

instance (layout : Layout) (connection : Connection) : Decidable (layout.Connects connection) :=
  inferInstanceAs (Decidable (_ ∧ _ ∧ _))

/-- What is wrong with a connection. -/
inductive Fault (layout : Layout) (connection : Connection) : DrawError → Prop where
  | source (hsource : ¬layout.Contains connection.source) :
    Fault layout connection (.unknownTerminal connection.source)
  | target (hsource : layout.Contains connection.source)
      (htarget : ¬layout.Contains connection.target) :
    Fault layout connection (.unknownTerminal connection.target)
  | loop (hsource : layout.Contains connection.source)
      (hloop : connection.source = connection.target) :
    Fault layout connection (.selfConnection connection.source)

section Connections

variable {layout : Layout} {connection : Connection} {e : DrawError}

theorem exists_find_iff {id : String} :
    (∃ found, layout.find id = .ok found) ↔ layout.Contains id := by
  rw [← not_iff_not, Contains, ← get?_eq_none_iff, find]
  cases layout.get? id <;> simp

theorem find_eq_error_iff {id : String} :
    layout.find id = .error e ↔ ¬layout.Contains id ∧ e = .unknownTerminal id := by
  rw [Contains, ← get?_eq_none_iff, find]
  cases layout.get? id <;> simp [eq_comm]

/-- A connection cannot be drawn for one reason, the first of the three. -/
theorem resolve_eq_error_iff :
    layout.resolve connection = .error e ↔ layout.Fault connection e := by
  rw [resolve, bind_eq_error_iff, find_eq_error_iff]
  constructor
  · rintro (⟨hsource, rfl⟩ | ⟨⟨i, a⟩, hfindSource, h⟩)
    · exact .source hsource
    have hsource := exists_find_iff.1 ⟨_, hfindSource⟩
    rcases bind_eq_error_iff.1 h with hfindTarget | ⟨⟨j, b⟩, hfindTarget, h⟩
    · obtain ⟨htarget, rfl⟩ := find_eq_error_iff.1 hfindTarget
      exact .target hsource htarget
    obtain ⟨hi, hidSource⟩ := find_eq_ok_iff.1 hfindSource
    obtain ⟨hj, hidTarget⟩ := find_eq_ok_iff.1 hfindTarget
    dsimp only at h
    split at h
    · rename_i hij
      cases h
      rw [hij, hj] at hi
      cases hi
      exact .loop hsource (hidSource.symm.trans hidTarget)
    · cases h
  · intro hfault
    cases hfault with
    | source hsource => exact Or.inl ⟨hsource, rfl⟩
    | target hsource htarget =>
      obtain ⟨found, hfound⟩ := exists_find_iff.2 hsource
      refine Or.inr ⟨found, hfound, bind_eq_error_iff.2 (Or.inl ?_)⟩
      exact find_eq_error_iff.2 ⟨htarget, rfl⟩
    | loop hsource hloop =>
      obtain ⟨found, hfound⟩ := exists_find_iff.2 hsource
      refine Or.inr ⟨found, hfound, bind_eq_error_iff.2 (Or.inr ⟨found, ?_, ?_⟩)⟩
      · rwa [← hloop]
      · simp

/-- A connection that names two different terminals has no fault, and any other has one. -/
theorem connects_iff_not_fault : layout.Connects connection ↔ ∀ e, ¬layout.Fault connection e := by
  constructor
  · rintro ⟨hsource, htarget, hne⟩ e hfault
    cases hfault with
    | source habsent => exact habsent hsource
    | target _ habsent => exact habsent htarget
    | loop _ hloop => exact hne hloop
  · intro hnone
    have hsource : layout.Contains connection.source := by
      by_contra habsent
      exact hnone _ (.source habsent)
    have htarget : layout.Contains connection.target := by
      by_contra habsent
      exact hnone _ (.target hsource habsent)
    exact ⟨hsource, htarget, fun hloop => hnone _ (.loop hsource hloop)⟩

theorem exists_resolve_iff :
    (∃ wire, layout.resolve connection = .ok wire) ↔ layout.Connects connection := by
  rw [connects_iff_not_fault]
  simp only [← resolve_eq_error_iff]
  cases layout.resolve connection <;> simp

end Connections

/-! ## Lists of connections -/

/-- What is wrong with the first of some connections that cannot be drawn. -/
def FirstFault (layout : Layout) (connections : List Connection) (e : DrawError) : Prop :=
  ∃ before connection after, connections = before ++ connection :: after ∧
    (∀ earlier ∈ before, layout.Connects earlier) ∧ layout.Fault connection e

section Lists

variable {layout : Layout} {connections : List Connection}

theorem exists_draw_iff :
    (∃ lines, layout.draw connections = .ok lines) ↔
      ∀ connection ∈ connections, layout.Connects connection := by
  simp only [← exists_resolve_iff, ← exists_mapM_iff, draw, bind_eq_ok_iff]
  constructor
  · rintro ⟨lines, wires, hwires, -⟩
    exact ⟨wires, hwires⟩
  · rintro ⟨wires, hwires⟩
    exact ⟨_, wires, hwires, rfl⟩

theorem draw_eq_error_iff {e : DrawError} :
    layout.draw connections = .error e ↔ layout.FirstFault connections e := by
  rw [draw, bind_eq_error_iff, mapM_eq_error_iff, FirstFault]
  simp only [exists_resolve_iff, resolve_eq_error_iff]
  constructor
  · rintro (hfirst | ⟨wires, -, h⟩)
    · exact hfirst
    · cases h
  · exact Or.inl

end Lists

end Diagram.Layout

/-! ## Lists of sets -/

/-- `rendered` is the set with the four lines of its diagram. -/
def Draws (layout : Layout) (set : ConnectionSet) (rendered : RenderedSet) : Prop :=
  rendered.name = set.name ∧ layout.draw set.connections = .ok rendered.lines ∧
    rendered.lines.length = rowCount

section Sets

variable {layout : Layout} {sets : List ConnectionSet}

theorem drawSet_eq_ok_iff {set : ConnectionSet} {rendered : RenderedSet} :
    layout.drawSet set = .ok rendered ↔ Draws layout set rendered := by
  obtain ⟨name, lines⟩ := rendered
  rw [Layout.drawSet, Draws]
  cases hdraw : layout.draw set.connections with
  | error e => simp
  | ok drawn =>
    have hlength := Layout.length_of_draw hdraw
    simp only [Except.ok.injEq, RenderedSet.mk.injEq]
    constructor
    · rintro ⟨rfl, rfl⟩
      exact ⟨rfl, rfl, hlength⟩
    · rintro ⟨rfl, rfl, -⟩
      exact ⟨rfl, rfl⟩

theorem drawSet_eq_error_iff {set : ConnectionSet} {e : String × DrawError} :
    layout.drawSet set = .error e ↔ layout.draw set.connections = .error e.2 ∧ e.1 = set.name := by
  obtain ⟨name, e⟩ := e
  rw [Layout.drawSet]
  cases layout.draw set.connections <;> simp [eq_comm, and_comm]

/-- What comes of drawing a list of sets is what comes of drawing each of them. -/
theorem drawSets_eq_ok_iff {rendered : List RenderedSet} :
    layout.drawSets sets = .ok rendered ↔ List.Forall₂ (Draws layout) sets rendered := by
  rw [Layout.drawSets, mapM_eq_ok_iff]
  simp only [drawSet_eq_ok_iff]

theorem exists_drawSet_iff {set : ConnectionSet} :
    (∃ rendered, layout.drawSet set = .ok rendered) ↔
      ∃ lines, layout.draw set.connections = .ok lines := by
  rw [Layout.drawSet]
  cases layout.draw set.connections <;> simp

/-- Sets are drawn exactly if each of them can be drawn. -/
theorem exists_drawSets_iff :
    (∃ rendered, layout.drawSets sets = .ok rendered) ↔
      ∀ set ∈ sets, ∃ lines, layout.draw set.connections = .ok lines := by
  simp only [Layout.drawSets, exists_mapM_iff, exists_drawSet_iff]

/-- The first set that cannot be drawn is reported. -/
theorem drawSets_eq_error_iff {e : String × DrawError} :
    layout.drawSets sets = .error e ↔
      ∃ before set after, sets = before ++ set :: after ∧
        (∀ earlier ∈ before, ∃ lines, layout.draw earlier.connections = .ok lines) ∧
        layout.draw set.connections = .error e.2 ∧ e.1 = set.name := by
  rw [Layout.drawSets, mapM_eq_error_iff]
  simp only [exists_drawSet_iff, drawSet_eq_error_iff]

end Sets

/-! ## First faults -/

namespace Diagram.Layout

/-- Connections are drawn if each of them names two different terminals, and otherwise refused for
the first that does not. An unknown terminal is reported even if it is joined to itself. Sets are
drawn one by one, each as if it were alone, up to the first that is refused. -/
theorem first_fault_of_draw (layout : Layout) :
    (∀ connections, ((∃ lines, layout.draw connections = .ok lines) ↔
        ∀ connection ∈ connections, layout.Connects connection) ∧
      ∀ e, layout.draw connections = .error e ↔ layout.FirstFault connections e) ∧
    (∀ id resistor more, ¬layout.Contains id →
      layout.draw (⟨id, id, resistor⟩ :: more) = .error (.unknownTerminal id)) ∧
    ∀ sets, ((∃ rendered, layout.drawSets sets = .ok rendered) ↔
        ∀ set ∈ sets, ∃ lines, layout.draw set.connections = .ok lines) ∧
      (∀ rendered, layout.drawSets sets = .ok rendered ↔
        List.Forall₂ (Draws layout) sets rendered) ∧
      ∀ e, layout.drawSets sets = .error e ↔
        ∃ before set after, sets = before ++ set :: after ∧
          (∀ earlier ∈ before, ∃ lines, layout.draw earlier.connections = .ok lines) ∧
          layout.draw set.connections = .error e.2 ∧ e.1 = set.name := by
  refine ⟨fun connections => ⟨exists_draw_iff, fun e => draw_eq_error_iff⟩, ?_, fun sets =>
    ⟨exists_drawSets_iff, fun rendered => drawSets_eq_ok_iff, fun e => drawSets_eq_error_iff⟩⟩
  intro id resistor more habsent
  rw [draw_eq_error_iff]
  exact ⟨[], _, more, rfl, by simp, .source habsent⟩

/-- The second connection joins an unknown terminal to itself. Of the sets the second has a loop,
and it does not matter that the third has a fault too. -/
theorem first_fault_of_crowded :
    crowded.draw [⟨"A", "C", false⟩, ⟨"X", "X", true⟩, ⟨"B", "B", false⟩] =
      .error (.unknownTerminal "X") ∧
    crowded.drawSets [⟨"wire", [⟨"A", "B", false⟩]⟩, ⟨"loop", [⟨"B", "B", false⟩]⟩,
      ⟨"stray", [⟨"A", "X", false⟩]⟩] = .error ("loop", .selfConnection "B") := by
  obtain ⟨hdraw, -, hsets⟩ := first_fault_of_draw crowded
  constructor
  · refine ((hdraw _).2 _).2 ⟨[⟨"A", "C", false⟩], _, _, rfl, by decide, .source ?_⟩
    decide
  · have hloop : crowded.draw [⟨"B", "B", false⟩] = .error (.selfConnection "B") :=
      ((hdraw _).2 _).2 ⟨[], _, _, rfl, by decide, .loop (by decide) rfl⟩
    refine ((hsets _).2.2 _).2 ⟨[⟨"wire", [⟨"A", "B", false⟩]⟩], _, _, rfl, ?_, hloop, rfl⟩
    intro earlier hearlier
    rw [List.mem_singleton.1 hearlier]
    exact (hdraw _).1.2 (by decide)

end Diagram.Layout

end Piste
