import PluginDescriptor.Proofs.Completion
import PluginDescriptor.Proofs.Warnings

/-!
# What a warning says about the descriptor written over

A warning names two classes for an id. The later one is the class of the descriptor that has just
been put in place. The earlier one is the class that the id was first written for in the pass, while
the file has held the descriptor of the class that the id was last written for. The two are the same
as long as the id has been written once. The main statement is `warning_names_first`.
-/

namespace PluginDescriptor.Plan

open FileTree Descriptor Pass

/-- A pass gets to a state from which it goes on to put a descriptor in place. -/
structure GetsTo (config : Config) (declarations : List Declaration) (session : Session)
    (ready : State) (current : Writing) : Prop where
  planned : ∃ before after,
    ofUnit declarations = before ++ .write current.id current.className :: after ∧
    execute config before (ofSession session []) = (.ok (), ready)
  placed : ∃ later, placed config declarations session = ready.writings ++ current :: later

variable {config : Config} {state : State} {steps : List Step} {declarations : List Declaration}
  {session : Session} {ready : State} {earlier later writings : List Writing}
  {current first replaced : Writing}

/-! ## On the way to a descriptor -/

/-- A pass has got to every descriptor that it has put in place. -/
theorem exists_gets_to (h : placed config declarations session = earlier ++ current :: later) :
    ∃ ready, GetsTo config declarations session ready current ∧ ready.writings = earlier := by
  have hsteps : (execute config (ofUnit declarations) (ofSession session [])).2.writings =
      (ofSession session []).writings ++ (earlier ++ current :: later) := h
  obtain ⟨before, after, ready, _, hplan, hbefore, hready, _⟩ := exists_ready hsteps
  obtain rfl : ready.writings = earlier := hready
  exact ⟨ready, ⟨⟨before, after, hplan, hbefore⟩, later, h⟩, rfl⟩

/-- When a pass gets to a descriptor, the file of an id holds the latest one for it. -/
theorem GetsTo.file (h : GetsTo config declarations session ready current) {id : PluginId}
    (hlatest : latest? id ready.writings = some replaced) :
    ready.tree.entryOf? (config.descriptorDirectory.join ⟨id.fileName⟩) =
      some (.file replaced.bytes) := by
  obtain ⟨before, _, _, hbefore⟩ := h.planned
  obtain ⟨recorded, hrecorded, hleaves⟩ :=
    (execute_in_place config before (ofSession session [])).leaves
  rw [hbefore] at hrecorded hleaves
  obtain rfl : ready.writings = recorded := hrecorded
  obtain ⟨location, hlocation, hfile⟩ := hleaves.latest id replaced hlatest
  rw [entryOf?, hlocation, Option.bind_some, hfile]

/-- What a pass has put in place when all of the first declarations are done comes before what it
puts in place for the others. -/
theorem placed_append {done : List Declaration} {report : Report}
    (h : (Pass.run config done session).1 = .ok report) (rest : List Declaration) :
    ∃ recorded, placed config (done ++ rest) session = placed config done session ++ recorded := by
  have hdone := (run_ok_iff.mp h).1
  rw [placed, placed, of_unit_append, execute_append]
  cases hexecute : execute config (ofUnit done) (ofSession session []) with
  | mk outcome next =>
      rw [hexecute] at hdone
      obtain rfl : outcome = .ok () := hdone
      obtain ⟨recorded, hrecorded, _⟩ := (execute_executed config (ofUnit rest) next).writings
      exact ⟨recorded, hrecorded⟩

/-! ## The class a warning names -/

/-- Where the id has been put in place once only, the first descriptor for it is the latest. -/
theorem first_eq_latest {id : PluginId}
    (hfirst : writings.find? (fun writing => writing.id = id) = some first)
    (hlatest : latest? id writings = some replaced)
    (honce : (writings.filter fun writing => writing.id = id).length = 1) : first = replaced := by
  obtain ⟨only, honly⟩ := List.length_eq_one_iff.mp honce
  rw [← List.head?_filter, honly] at hfirst
  rw [latest?, ← List.head?_filter, List.filter_reverse, honly] at hlatest
  exact Option.some.inj (hfirst.symm.trans hlatest)

/-- A warning about a list of descriptors is one about those that were put in place, and names the
first of them. -/
theorem writing_of_overwrite {directory : Path} {place : Nat} {event : Event}
    (h : overwrite? (writings.map (·.descriptor directory)) place = some event) :
    ∃ earlier current later first, writings = earlier ++ current :: later ∧
      earlier.length = place ∧
      earlier.find? (fun writing => writing.id = current.id) = some first ∧
      event = .overwritten current.id first.className current.className := by
  obtain ⟨listed, listedFirst, hlisted, hlistedFirst, rfl⟩ := overwrite_eq_some h
  rw [List.getElem?_map] at hlisted
  obtain ⟨current, hcurrent, rfl⟩ := Option.map_eq_some_iff.mp hlisted
  rw [← List.map_take, List.find?_map] at hlistedFirst
  obtain ⟨first, hfirst, rfl⟩ := Option.map_eq_some_iff.mp hlistedFirst
  obtain ⟨hplace, hitem⟩ := List.getElem?_eq_some_iff.mp hcurrent
  refine ⟨writings.take place, current, writings.drop (place + 1), first, ?_, ?_, hfirst, rfl⟩
  · rw [← hitem, List.cons_getElem_drop_succ, List.take_append_drop]
  · rw [List.length_take]
    omega

/-- Each warning of a pass, completed or not, is about a descriptor that was put in place after
others for the same id. It names the class of the first of these. The file held the latest of them
when it was written over, and that is the same one if there was no other. -/
theorem warning_names_first (config : Config) (declarations : List Declaration)
    (session : Session) :
    ∃ events done rest, declarations = done ++ rest ∧
      (∀ report, (Pass.run config declarations session).1 = .ok report → rest = []) ∧
      (Pass.run config declarations session).2.log = session.log ++ events ∧
      List.Forall₂ (fun place event => ∃ ready current first replaced,
          GetsTo config declarations session ready current ∧ ready.writings.length = place ∧
          ready.writings.find? (fun writing => writing.id = current.id) = some first ∧
          event = .overwritten current.id first.className current.className ∧
          latest? current.id ready.writings = some replaced ∧
          ready.tree.entryOf? (config.descriptorDirectory.join ⟨current.id.fileName⟩) =
            some (.file replaced.bytes) ∧
          ((ready.writings.filter fun writing => writing.id = current.id).length = 1 →
            first = replaced))
        (repeats ((placed config done session).map (·.id))) (warnings events) := by
  obtain ⟨done, rest, report, rfl, hdone, ⟨events, hlog, hevents⟩, hcomplete⟩ :=
    run_warned config declarations session
  have hwritten := written_of_run hdone
  obtain ⟨recorded, hplaced⟩ := placed_append hdone rest
  refine ⟨events, done, rest, rfl, fun last hlast => (hcomplete last hlast).1, hlog, ?_⟩
  have hpairs := overwrites_pair report.written
  rw [← hevents, hwritten, List.map_map] at hpairs
  refine hpairs.imp ?_
  intro place event hevent
  obtain ⟨earlier, current, later, first, hwritings, rfl, hfirst, rfl⟩ :=
    writing_of_overwrite hevent
  rw [hwritings, List.append_assoc, List.cons_append] at hplaced
  obtain ⟨ready, hready, rfl⟩ := exists_gets_to hplaced
  obtain ⟨replaced, hreplaced⟩ := exists_latest (List.mem_of_find?_eq_some hfirst)
  have hid : first.id = current.id := by simpa using List.find?_some hfirst
  rw [hid] at hreplaced
  exact ⟨ready, current, first, replaced, hready, rfl, hfirst, rfl, hreplaced,
    hready.file hreplaced, first_eq_latest hfirst hreplaced⟩

/-- Of three classes for one id, the third writes over the descriptor of the second, but the warning
about it names the first. -/
theorem first_named_for_third :
    let config : Config := { outputRoot := ⟨"out"⟩ }
    let session : Session := { tree := .empty, clock := .constant ⟨0, 0, 0⟩ }
    let classFor (name : String) : Declaration := {
      name
      visibility := .isPublic
      implements := [Declaration.pluginInterface]
      markers := [{ value := some "same.id" }] }
    let first := classFor "com.example.First"
    let second := classFor "com.example.Second"
    let declarations := [first, second, classFor "com.example.Third"]
    let id : PluginId := ⟨"same.id", by decide +kernel⟩
    let warning : Event := .overwritten id "com.example.First" "com.example.Third"
    warning ∈ warnings (Pass.run config declarations session).2.log ∧
      (Pass.run config [first, second] session).2.tree.entryOf?
        (config.descriptorDirectory.join ⟨id.fileName⟩) = some (.file
          (Charset.utf8.encode (render config.label ⟨0, 0, 0⟩ "com.example.Second"))) ∧
      ¬ ∃ ready current replaced, GetsTo config declarations session ready current ∧
        latest? current.id ready.writings = some replaced ∧
        warning = .overwritten current.id replaced.className current.className := by
  intro config session classFor first second declarations id warning
  refine ⟨by decide +kernel, by decide +kernel, ?_⟩
  rintro ⟨ready, current, replaced, hready, hreplaced, hwarning⟩
  obtain ⟨hid, hprevious, hcurrent⟩ := Event.overwritten.inj hwarning
  obtain ⟨later, hplaced⟩ := hready.placed
  let writing (name : String) : Writing := ⟨id, name, config.label, ⟨0, 0, 0⟩, .utf8⟩
  have hwritings : placed config declarations session =
      [writing "com.example.First", writing "com.example.Second", writing "com.example.Third"] := by
    decide +kernel
  rw [hwritings] at hplaced
  rw [← hid] at hreplaced
  generalize ready.writings = earlier at hplaced hreplaced
  -- Only the third descriptor is for the class that the warning is about.
  match earlier with
  | [] =>
      obtain ⟨rfl, _⟩ := List.cons.inj hplaced
      exact absurd hcurrent (by decide)
  | [_] =>
      obtain ⟨rfl, _⟩ := List.cons.inj (List.cons.inj hplaced).2
      exact absurd hcurrent (by decide)
  | [_, _] =>
      obtain ⟨rfl, hrest⟩ := List.cons.inj hplaced
      obtain ⟨rfl, _⟩ := List.cons.inj hrest
      have hlatest : latest? id [writing "com.example.First", writing "com.example.Second"] =
          some (writing "com.example.Second") := by decide +kernel
      obtain rfl := Option.some.inj (hlatest.symm.trans hreplaced)
      exact absurd hprevious (by decide)
  | _ :: _ :: _ :: others =>
      have hnothing := (List.cons.inj (List.cons.inj (List.cons.inj hplaced).2).2).2
      simp at hnothing

end PluginDescriptor.Plan
