import Piste.Host.Machine
import Piste.Proofs.Command.Printing
import Piste.Proofs.Diagram.Fault
import Piste.Proofs.LayoutFile.Loading
import Piste.Proofs.Text.Utf8

/-!
# What rendering a layout file prints

The command that renders a layout file goes through four stages, each of which may fail: it loads
the file, solves its layout, selects sets of connections, and draws them. `Renders` says what comes
of it, stage by stage, without the command: the first stage that fails decides, and then nothing is
printed.

* `prepare` is the command up to the printing. `renders_of_prepare_ok`, `renders_of_prepare_error`
  and `Renders.prepare_eq` say that it is what `Renders` says.
* Diagrams are printed in many small writes, which make up their text (`printDiagrams_eq`).
* `render_eq_iff_renders` is the command as a whole. It also says that sets which are not asked for
  do not matter.
-/

namespace Piste

open Diagram Text Outcome

/-! ## The stages of the command -/

/-- What comes of rendering the layout file that the user calls `path` and that is read at `place`,
and what is printed on the way. -/
inductive Renders (path place : String) (names : List String)
    (content : Except Host.IoError (List UInt8)) : Except CommandError Unit → String → Prop where
  | unloaded {e : LayoutFileError} (hload : LoadFails place content e) :
    Renders path place names content (.error (.layoutFile path e)) ""
  | unsolved {file : LayoutFile} {e : LayoutFileError} (hload : Loads content file)
      (hlayout : file.layout = .error e) :
    Renders path place names content (.error (.layoutFile path e)) ""
  | unselected {file : LayoutFile} {layout : Layout} {before after : List String} {name : String}
      (hload : Loads content file) (hlayout : file.layout = .ok layout)
      (hnames : names = before ++ name :: after)
      (hbefore : ∀ earlier ∈ before, ∃ set ∈ file.connectionSets, set.name = earlier)
      (hname : ∀ set ∈ file.connectionSets, set.name ≠ name) :
    Renders path place names content (.error (.layoutFile path (.unknownSet name))) ""
  | undrawn {file : LayoutFile} {layout : Layout} {before after : List ConnectionSet}
      {set : ConnectionSet} {e : DrawError} (hload : Loads content file)
      (hlayout : file.layout = .ok layout) (hsets : Selects file names (before ++ set :: after))
      (hbefore : ∀ earlier ∈ before, ∃ lines, layout.draw earlier.connections = .ok lines)
      (hset : layout.draw set.connections = .error e) :
    Renders path place names content (.error (.draw path set.name e)) ""
  | nothing {file : LayoutFile} {layout : Layout} (hload : Loads content file)
      (hlayout : file.layout = .ok layout) (hnames : names = [])
      (hsets : file.connectionSets = []) :
    Renders path place names content (.ok ()) ("No connection sets in " ++ path ++ "\n")
  | drawn {file : LayoutFile} {layout : Layout} {sets : List ConnectionSet}
      {rendered : List RenderedSet} (hload : Loads content file)
      (hlayout : file.layout = .ok layout) (hsets : Selects file names sets) (hsome : sets ≠ [])
      (hdraw : List.Forall₂ (Draws layout) sets rendered) :
    Renders path place names content (.ok ()) (String.join (rendered.map RenderedSet.text))

/-- The diagrams of a layout file, before any is printed. -/
def prepare (path place : String) (names : List String)
    (content : Except Host.IoError (List UInt8)) : Except CommandError (List RenderedSet) :=
  (Command.parseLayoutFile place content).mapError (.layoutFile path) >>=
    Command.diagrams path names

/-- The text of diagrams, or that there are none. -/
def diagramText (path : String) : List RenderedSet → String
  | [] => "No connection sets in " ++ path ++ "\n"
  | sets => String.join (sets.map RenderedSet.text)

section Stages

variable {path place : String} {names : List String} {content : Except Host.IoError (List UInt8)}

theorem renders_of_prepare_error {e : CommandError}
    (h : prepare path place names content = .error e) :
    Renders path place names content (.error e) "" := by
  rw [prepare, bind_eq_error_iff, mapError_eq_error_iff] at h
  rcases h with ⟨cause, hparse, rfl⟩ | ⟨file, hparse, h⟩
  · exact .unloaded (loadFails_iff.1 hparse)
  have hload := loads_iff.1 (mapError_eq_ok_iff.1 hparse)
  rw [Command.diagrams, bind_eq_error_iff, mapError_eq_error_iff] at h
  rcases h with ⟨cause, hlayout, rfl⟩ | ⟨layout, hlayout, h⟩
  · exact .unsolved hload hlayout
  rw [mapError_eq_ok_iff] at hlayout
  rw [bind_eq_error_iff, mapError_eq_error_iff] at h
  rcases h with ⟨cause, hselect, rfl⟩ | ⟨sets, hselect, h⟩
  · obtain ⟨before, name, after, hnames, hbefore, hname, rfl⟩ := selectSets_eq_error_iff.1 hselect
    exact .unselected hload hlayout hnames hbefore hname
  rw [mapError_eq_ok_iff, selects_iff hload.nodup] at hselect
  obtain ⟨cause, hdraw, rfl⟩ := mapError_eq_error_iff.1 h
  obtain ⟨before, set, after, rfl, hbefore, hset, hname⟩ := drawSets_eq_error_iff.1 hdraw
  obtain ⟨name, e⟩ := cause
  obtain rfl : name = set.name := hname
  exact .undrawn hload hlayout hselect hbefore hset

theorem renders_of_prepare_ok {rendered : List RenderedSet}
    (h : prepare path place names content = .ok rendered) :
    Renders path place names content (.ok ()) (diagramText path rendered) := by
  rw [prepare, bind_eq_ok_iff] at h
  obtain ⟨file, hparse, h⟩ := h
  have hload := loads_iff.1 (mapError_eq_ok_iff.1 hparse)
  rw [Command.diagrams, bind_eq_ok_iff] at h
  obtain ⟨layout, hlayout, h⟩ := h
  rw [mapError_eq_ok_iff] at hlayout
  obtain ⟨sets, hselect, h⟩ := bind_eq_ok_iff.1 h
  rw [mapError_eq_ok_iff, selects_iff hload.nodup] at hselect
  have hdraw := drawSets_eq_ok_iff.1 (mapError_eq_ok_iff.1 h)
  cases hdraw with
  | nil =>
    obtain ⟨hnames, hsets⟩ := Selects.nil_iff.1 hselect
    exact .nothing hload hlayout hnames hsets
  | cons hfirst hmore => exact .drawn hload hlayout hselect (by simp) (.cons hfirst hmore)

theorem prepare_of_loads {file : LayoutFile} (hload : Loads content file) :
    prepare path place names content = Command.diagrams path names file := by
  rw [prepare, loads_iff.2 hload]
  rfl

/-- What is left to do once the sets have been selected. -/
theorem prepare_of_selects {file : LayoutFile} {layout : Layout} {sets : List ConnectionSet}
    (hload : Loads content file) (hlayout : file.layout = .ok layout)
    (hsets : Selects file names sets) :
    prepare path place names content =
      (layout.drawSets sets).mapError fun (set, e) => .draw path set e := by
  rw [prepare_of_loads hload, Command.diagrams, hlayout, (selects_iff hload.nodup).2 hsets]
  rfl

/-- The stages of the command give what `Renders` says. -/
theorem Renders.prepare_eq {outcome : Except CommandError Unit} {text : String}
    (h : Renders path place names content outcome text) :
    (∃ e, prepare path place names content = .error e ∧ outcome = .error e ∧ text = "") ∨
      ∃ rendered, prepare path place names content = .ok rendered ∧ outcome = .ok () ∧
        text = diagramText path rendered := by
  cases h with
  | unloaded hload =>
    refine Or.inl ⟨_, ?_, rfl, rfl⟩
    rw [prepare, loadFails_iff.2 hload]
    rfl
  | unsolved hload hlayout =>
    refine Or.inl ⟨_, ?_, rfl, rfl⟩
    rw [prepare_of_loads hload, Command.diagrams, hlayout]
    rfl
  | unselected hload hlayout hnames hbefore hname =>
    have hselect := selectSets_eq_error_iff.2 ⟨_, _, _, hnames, hbefore, hname, rfl⟩
    refine Or.inl ⟨_, ?_, rfl, rfl⟩
    rw [prepare_of_loads hload, Command.diagrams, hlayout, hselect]
    rfl
  | @undrawn _ _ before after set e hload hlayout hsets hbefore hset =>
    have hdraw := drawSets_eq_error_iff (e := (set.name, e)).2
      ⟨before, set, after, rfl, hbefore, hset, rfl⟩
    refine Or.inl ⟨_, ?_, rfl, rfl⟩
    rw [prepare_of_selects hload hlayout hsets, hdraw]
    rfl
  | nothing hload hlayout hnames hsets =>
    refine Or.inr ⟨[], ?_, rfl, rfl⟩
    rw [prepare_of_selects hload hlayout (Selects.nil_iff.2 ⟨hnames, hsets⟩)]
    rfl
  | @drawn _ _ _ rendered hload hlayout hsets hsome hdraw =>
    refine Or.inr ⟨rendered, ?_, rfl, ?_⟩
    · rw [prepare_of_selects hload hlayout hsets, drawSets_eq_ok_iff.2 hdraw]
      rfl
    · cases hdraw with
      | nil => exact absurd rfl hsome
      | cons hfirst hmore => rfl

end Stages

/-! ## Printing -/

/-- The machine after `text` has been printed. -/
def Machine.printed (machine : Machine) (text : String) : Machine :=
  { machine with output := machine.output ++ text }

@[simp]
theorem Machine.printed_empty (machine : Machine) : machine.printed "" = machine := by
  rw [printed, String.append_empty]

theorem Machine.printed_printed (machine : Machine) (first second : String) :
    (machine.printed first).printed second = machine.printed (first ++ second) := by
  simp only [printed, String.append_assoc]

section Printing

/-- What goes to the output of the machine. -/
def Machine.writer : Host.Writer (StateM Machine) :=
  Host.standardOutput

theorem Machine.seamless_writer : Host.Seamless Machine.writer where
  empty := funext fun machine => congrArg (Prod.mk _) machine.printed_empty
  append s t := funext fun machine => congrArg (Prod.mk _) (machine.printed_printed s t).symm

theorem Machine.run_writeSets (sets : List RenderedSet) (machine : Machine) :
    (writeSets Machine.writer sets).run machine =
      (.ok (), machine.printed (String.join (sets.map RenderedSet.text))) := by
  rw [writeSets_eq_write Machine.seamless_writer]
  rfl

variable {path : String} {names : List String}

theorem printDiagrams_eq (rendered : List RenderedSet) (machine : Machine) :
    (Command.printDiagrams path rendered : StateM Machine _).run machine =
      (.ok (), machine.printed (diagramText path rendered)) := by
  cases rendered with
  | nil => rfl
  | cons set sets =>
    change ((writeSets Machine.writer (set :: sets)).run >>= fun written =>
      pure (written.mapError (CommandError.io "failed to write diagram"))) machine = _
    simp only [bind, StateT.bind, Machine.run_writeSets]
    rfl

end Printing

/-! ## The command -/

/-- What reading the layout file that the user calls `path` gives. -/
def Machine.layoutContent (machine : Machine) (path : String) :
    Except Host.IoError (List UInt8) :=
  machine.tree.read machine.directory (Host.Path.expandHome machine.home path)

/-- What rendering a layout file comes to on a machine. -/
def Machine.render (machine : Machine) (path : String) (names : List String) :
    Except CommandError Unit × Machine :=
  (Command.render path names : StateM Machine _).run machine

/-- `file'` is `file` with other connections in sets that are not named. -/
def DiffersUnnamed (names : List String) (file file' : LayoutFile) : Prop :=
  ∃ sets, file' = { file with connectionSets := sets } ∧
    List.Forall₂ (fun set set' => set'.name = set.name ∧ (set.name ∈ names → set' = set))
      file.connectionSets sets

section Rendering

variable {machine : Machine} {path : String} {names : List String}

/-- Nothing is printed before everything is prepared. -/
theorem render_eq_prepare (machine : Machine) (path : String) (names : List String) :
    machine.render path names =
      match prepare path (Host.Path.expandHome machine.home path) names
          (machine.layoutContent path) with
      | .error e => (.error e, machine)
      | .ok rendered => (.ok (), machine.printed (diagramText path rendered)) := by
  change (match prepare path (Host.Path.expandHome machine.home path) names
      (machine.layoutContent path) with
    | .error e => pure (.error e)
    | .ok rendered => Command.printDiagrams path rendered : StateM Machine _).run machine = _
  cases prepare path (Host.Path.expandHome machine.home path) names
    (machine.layoutContent path) with
  | error e => rfl
  | ok rendered => exact printDiagrams_eq rendered machine

/-- A set that is asked for is the same on both sides. -/
theorem find?_of_unnamed {sets sets' : List ConnectionSet} {name : String}
    (hsets : List.Forall₂ (fun set set' => set'.name = set.name ∧ (set.name ∈ names → set' = set))
      sets sets') (hname : name ∈ names) :
    sets'.find? (·.name = name) = sets.find? (·.name = name) := by
  induction hsets with
  | nil => rfl
  | @cons set set' _ _ hset _ ih =>
    rw [List.find?_cons, List.find?_cons, hset.1, ih]
    by_cases hhit : set.name = name
    · rw [hset.2 (hhit ▸ hname)]
    · simp [hhit]

/-- The connections of a set that is not asked for are never looked at. -/
theorem diagrams_of_differsUnnamed (path : String) {file file' : LayoutFile}
    (hnames : names ≠ []) (h : DiffersUnnamed names file file') :
    Command.diagrams path names file' = Command.diagrams path names file := by
  obtain ⟨sets, rfl, hsets⟩ := h
  have hselect : { file with connectionSets := sets }.selectSets names = file.selectSets names := by
    rw [selectSets_of_ne_nil hnames, selectSets_of_ne_nil hnames]
    refine mapM_congr fun name hname => ?_
    rw [LayoutFile.findSet, LayoutFile.findSet, find?_of_unnamed hsets hname]
  have hlayout : { file with connectionSets := sets }.layout = file.layout := rfl
  rw [Command.diagrams, Command.diagrams, hselect, hlayout]

/-- Rendering a layout file is what `Renders` says: the first stage that fails decides and nothing
is printed, or everything is. With names given, only the sets of these names matter. -/
theorem render_eq_iff_renders (path : String) (names : List String) (machine : Machine) :
    (∀ outcome after, machine.render path names = (outcome, after) ↔
      ∃ text, Renders path (Host.Path.expandHome machine.home path) names
          (machine.layoutContent path) outcome text ∧ after = machine.printed text) ∧
    (∀ e after, machine.render path names = (.error e, after) → after = machine) ∧
    ∀ (machine' : Machine) file file', names ≠ [] → Loads (machine.layoutContent path) file →
      Loads (machine'.layoutContent path) file' → DiffersUnnamed names file file' →
      ∃ outcome text, machine.render path names = (outcome, machine.printed text) ∧
        machine'.render path names = (outcome, machine'.printed text) := by
  have hrun := render_eq_prepare machine path names
  refine ⟨fun outcome after => ⟨fun h => ?_, ?_⟩, fun e after h => ?_, ?_⟩
  · rw [hrun] at h
    split at h
    · rename_i e hprepare
      cases h
      exact ⟨"", renders_of_prepare_error hprepare, machine.printed_empty.symm⟩
    · rename_i rendered hprepare
      cases h
      exact ⟨_, renders_of_prepare_ok hprepare, rfl⟩
  · rintro ⟨text, hrenders, rfl⟩
    rcases hrenders.prepare_eq with ⟨e, hprepare, rfl, rfl⟩ | ⟨rendered, hprepare, rfl, rfl⟩
    · rw [hrun, hprepare, Machine.printed_empty]
    · rw [hrun, hprepare]
  · rw [hrun] at h
    split at h
    · cases h
      rfl
    · cases h
  · intro machine' file file' hnames hload hload' hdiffers
    have hsame := diagrams_of_differsUnnamed path hnames hdiffers
    rw [hrun, render_eq_prepare, prepare_of_loads hload, prepare_of_loads hload', hsame]
    cases Command.diagrams path names file with
    | error e => exact ⟨.error e, "", by simp, by simp⟩
    | ok rendered => exact ⟨.ok (), _, rfl, rfl⟩

/-- The text of a layout file with two sets. The second one has a connection to the given
terminal. -/
def pairText (other : String) : String :=
  "\x7bterminals: [A, B], anchor: A, center: 1, distances: [[A, B, 8]], " ++
    "connection_sets: [\x7bname: main, connections: [[A, B]]\x7d, " ++
    "\x7bname: spare, connections: [[A, " ++ other ++ "]]\x7d]\x7d"

/-- What the text says. -/
def pairFile (other : String) : LayoutFile where
  terminals := ["A", "B"]
  anchor := "A"
  center := 1
  scale := 0.5
  distances := [("A", "B", 8.0)]
  labelWidths := ∅
  connectionSets := [⟨"main", [⟨"A", "B", false⟩]⟩, ⟨"spare", [⟨"A", other, false⟩]⟩]

/-- The terminals of the file at their columns. -/
def pairLayout : Layout :=
  .ofTerminals [⟨"A", 1, 1⟩, ⟨"B", 1, 5⟩] (by decide) (by decide) (by decide) (by decide)

/-- A machine with this layout file. -/
def shelf (other : String) : Machine where
  tree := ⟨.ofList [(["piste.yml"], .file (Utf8.encode (pairText other)) false)]⟩
  directory := []
  home := none
  programs := fun tree _ _ _ => (.error .noEntry, tree)
  stamp := ""
  output := "before"

theorem loads_shelf {other : String}
    (hread : (Yaml.Reader.run LayoutFile.read (pairText other)).toOption = some (pairFile other)) :
    Loads ((shelf other).layoutContent "piste.yml") (pairFile other) := by
  have hcontent : (shelf other).layoutContent "piste.yml" = .ok (Utf8.encode (pairText other)) := by
    show (shelf other).tree.read [] "piste.yml" = _
    rfl
  refine ⟨_, pairText other, hcontent, Utf8.decode?_encode _, ?_, rfl⟩
  cases hrun : Yaml.Reader.run LayoutFile.read (pairText other) with
  | error e =>
    rw [hrun] at hread
    cases hread
  | ok file =>
    rw [hrun] at hread
    rw [Option.some.inj hread]

theorem draws_main : Draws pairLayout ⟨"main", [⟨"A", "B", false⟩]⟩
    ⟨"main", [" A---B", "", "", ""]⟩ :=
  ⟨rfl, by decide +kernel, rfl⟩

theorem draw_spare : pairLayout.draw [⟨"A", "C", false⟩] = .error (.unknownTerminal "C") := by
  decide +kernel

/-- One file is in order, the other has a set with a terminal that it does not list. The first set
is printed alike of both. With the second set asked for as well, nothing is printed of the other
file, though its first set can be drawn. -/
theorem render_shelves :
    ∃ text, (shelf "B").render "piste.yml" ["main"] = (.ok (), (shelf "B").printed text) ∧
      (shelf "C").render "piste.yml" ["main"] = (.ok (), (shelf "C").printed text) ∧
      text = "\x1B[1mmain\x1B[0m:\n A---B\n\n\n\n\n" ∧
      (shelf "C").render "piste.yml" ["main", "spare"] =
        (.error (.draw "piste.yml" "spare" (.unknownTerminal "C")), shelf "C") := by
  have hload : Loads ((shelf "B").layoutContent "piste.yml") (pairFile "B") :=
    loads_shelf (by decide +kernel)
  have hload' : Loads ((shelf "C").layoutContent "piste.yml") (pairFile "C") :=
    loads_shelf (by decide +kernel)
  have hlayout : (pairFile "B").layout = .ok pairLayout := rfl
  have hlayout' : (pairFile "C").layout = .ok pairLayout := rfl
  have hselect : Selects (pairFile "B") ["main"] [⟨"main", [⟨"A", "B", false⟩]⟩] :=
    .cons ⟨List.mem_cons_self, rfl⟩ .nil
  have hselect' : Selects (pairFile "C") ["main", "spare"]
      ([⟨"main", [⟨"A", "B", false⟩]⟩] ++ [⟨"spare", [⟨"A", "C", false⟩]⟩]) :=
    .cons ⟨List.mem_cons_self, rfl⟩ (.cons ⟨List.mem_cons_of_mem _ List.mem_cons_self, rfl⟩ .nil)
  obtain ⟨hrenders, -, hunnamed⟩ := render_eq_iff_renders "piste.yml" ["main"] (shelf "B")
  obtain ⟨hrenders', -, -⟩ := render_eq_iff_renders "piste.yml" ["main", "spare"] (shelf "C")
  have hmain := (hrenders (.ok ()) _).2 ⟨_, .drawn hload hlayout hselect (by simp)
    (.cons draws_main .nil), rfl⟩
  have hspare := (hrenders' _ (shelf "C")).2 ⟨"", .undrawn hload' hlayout' hselect'
    (List.forall_mem_singleton.2 ⟨_, draws_main.2.1⟩) draw_spare, by simp⟩
  have hdiffers : DiffersUnnamed ["main"] (pairFile "B") (pairFile "C") :=
    ⟨_, rfl, .cons ⟨rfl, fun _ => rfl⟩ (.cons ⟨rfl, by decide⟩ .nil)⟩
  obtain ⟨outcome, text, hfirst, hsecond⟩ :=
    hunnamed (shelf "C") _ _ (by simp) hload hload' hdiffers
  obtain ⟨rfl, hprinted⟩ := Prod.mk.inj (hmain.symm.trans hfirst)
  refine ⟨text, hfirst, hsecond, ?_, hspare⟩
  exact (String.append_right_inj _).1 (congrArg Machine.output hprinted).symm

end Rendering

end Piste
