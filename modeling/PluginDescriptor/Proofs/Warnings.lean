import Mathlib.Data.Finset.Card
import Mathlib.Data.List.Forall2
import PluginDescriptor.Proofs.Completion

/-!
# Warnings of a pass

A pass warns of the descriptors that it lists for an id it has listed before, and of nothing else.
`overwrites` reads the warnings off a list of descriptors, one for each place in `repeats`, and
`Warned` says which ones have been logged between two sessions. The invariant of going over
declarations is `run_from_warned`: the warnings logged so far are those about the descriptors listed
so far. The main statement is `overwrite_warnings`.
-/

namespace PluginDescriptor

/-- The places of a list at which something stands that stands at an earlier place too. -/
def repeats {α : Type} [DecidableEq α] (items : List α) : List Nat :=
  (List.range items.length).filter fun place => ∃ earlier < place, items[earlier]? = items[place]?

namespace Pass

/-- The warning about the descriptor at a place of a list, if it takes the place of another one. It
names the class that the id was first written for. -/
def overwrite? (written : List WrittenDescriptor) (place : Nat) : Option Event :=
  written[place]?.bind fun current =>
    ((written.take place).find? fun earlier => earlier.id = current.id).map fun first =>
      .overwritten current.id first.className current.className

/-- The warnings about the descriptors in a list. -/
def overwrites (written : List WrittenDescriptor) : List Event :=
  (List.range written.length).filterMap (overwrite? written)

/-- The events that are warnings. -/
def warnings (events : List Event) : List Event :=
  events.filter fun event => event.level = .warning

/-- Between two sessions, these are the warnings that have been logged. -/
def Warned (before after : Session) (noted : List Event) : Prop :=
  ∃ events, after.log = before.log ++ events ∧ warnings events = noted

end Pass

/-! ## Repetitions -/

section Repetitions

variable {α : Type} [DecidableEq α]

/-- One more item is a repetition if it is in the list already. -/
theorem repeats_concat (items : List α) (item : α) :
    repeats (items ++ [item]) =
      repeats items ++ if item ∈ items then [items.length] else [] := by
  have hbefore : ∀ place ∈ List.range items.length,
      decide (∃ earlier < place, (items ++ [item])[earlier]? = (items ++ [item])[place]?) =
        decide (∃ earlier < place, items[earlier]? = items[place]?) := by
    intro place hplace
    rw [List.mem_range] at hplace
    refine decide_eq_decide.mpr (exists_congr fun earlier => and_congr_right fun hearlier => ?_)
    rw [List.getElem?_append_left hplace, List.getElem?_append_left (by omega)]
  have hlast : (∃ earlier < items.length, (items ++ [item])[earlier]? =
      (items ++ [item])[items.length]?) ↔ item ∈ items := by
    rw [List.mem_iff_getElem?, List.getElem?_concat_length]
    constructor
    · rintro ⟨earlier, hearlier, hsame⟩
      rw [List.getElem?_append_left hearlier] at hsame
      exact ⟨earlier, hsame⟩
    · rintro ⟨earlier, hitem⟩
      have hearlier : earlier < items.length := (List.getElem?_eq_some_iff.mp hitem).1
      exact ⟨earlier, hearlier, by rw [List.getElem?_append_left hearlier, hitem]⟩
  rw [repeats, List.length_append, List.length_singleton, List.range_succ, List.filter_append,
    List.filter_congr hbefore, List.filter_singleton]
  simp only [hlast]
  by_cases hitem : item ∈ items <;> simp [repeats, hitem]

/-- What is in a list at all and what is repeated in it make up its length. -/
theorem length_repeats_add_card (items : List α) :
    (repeats items).length + items.toFinset.card = items.length := by
  induction items using List.reverseRecOn with
  | nil => rfl
  | append_singleton items item ih =>
      have hset : (items ++ [item]).toFinset = insert item items.toFinset := by
        ext other
        simp
      rw [repeats_concat, hset, List.length_append, List.length_append, List.length_singleton]
      by_cases hitem : item ∈ items
      · rw [if_pos hitem, Finset.insert_eq_of_mem (List.mem_toFinset.mpr hitem),
          List.length_singleton]
        omega
      · rw [if_neg hitem, Finset.card_insert_of_notMem (by simpa using hitem), List.length_nil]
        omega

end Repetitions

/-- Items and what they are mapped to pair up, where exactly the items that are kept are mapped to
something. -/
theorem forall₂_filter_filterMap {α β : Type} {keep : α → Bool} {image : α → Option β}
    {items : List α} (h : ∀ item ∈ items, keep item = (image item).isSome) :
    List.Forall₂ (fun item result => image item = some result)
      (items.filter keep) (items.filterMap image) := by
  induction items with
  | nil => exact .nil
  | cons item rest ih =>
      obtain ⟨hitem, hrest⟩ := List.forall_mem_cons.mp h
      cases himage : image item with
      | none =>
          rw [himage] at hitem
          rw [List.filter_cons_of_neg (by simp [hitem]), List.filterMap_cons_none himage]
          exact ih hrest
      | some result =>
          rw [himage] at hitem
          rw [List.filter_cons_of_pos (by simp [hitem]), List.filterMap_cons_some himage]
          exact .cons himage (ih hrest)

namespace Pass

variable {config : Config} {declaration : Declaration} {written : List WrittenDescriptor}
  {before reached after session : Session} {first second : List Event}

/-! ## The warnings about a list of descriptors -/

/-- What comes before a place of a list is at one of its places. -/
theorem mem_take_iff_getElem? {place : Nat} {descriptor : WrittenDescriptor} :
    descriptor ∈ written.take place ↔ ∃ earlier < place, written[earlier]? = some descriptor := by
  rw [List.mem_iff_getElem?]
  refine exists_congr fun earlier => ?_
  rw [List.getElem?_take]
  split <;> simp_all

/-- A warning names the class of the first descriptor with the id. -/
theorem overwrite_eq_some {place : Nat} {event : Event}
    (h : overwrite? written place = some event) :
    ∃ current first, written[place]? = some current ∧
      (written.take place).find? (fun earlier => earlier.id = current.id) = some first ∧
      event = .overwritten current.id first.className current.className := by
  obtain ⟨current, hcurrent, hwarning⟩ := Option.bind_eq_some_iff.mp h
  obtain ⟨first, hfirst, rfl⟩ := Option.map_eq_some_iff.mp hwarning
  exact ⟨current, first, hcurrent, hfirst, rfl⟩

/-- There is a warning about the descriptor at a place if and only if its id stands at an earlier
place too. -/
theorem overwrite_isSome_iff {place : Nat} (h : place < written.length) :
    (overwrite? written place).isSome = true ↔
      ∃ earlier < place, (written.map (·.id))[earlier]? = (written.map (·.id))[place]? := by
  have hcurrent : written[place]? = some written[place] := List.getElem?_eq_getElem h
  rw [overwrite?, hcurrent, Option.bind_some, Option.isSome_map, List.find?_isSome]
  simp only [List.getElem?_map, hcurrent, Option.map_some, decide_eq_true_eq]
  constructor
  · rintro ⟨previous, hprevious, hid⟩
    obtain ⟨earlier, hearlier, hitem⟩ := mem_take_iff_getElem?.mp hprevious
    exact ⟨earlier, hearlier, by rw [hitem, Option.map_some, hid]⟩
  · rintro ⟨earlier, hearlier, hsame⟩
    obtain ⟨previous, hitem, hid⟩ := Option.map_eq_some_iff.mp hsame
    exact ⟨previous, mem_take_iff_getElem?.mpr ⟨earlier, hearlier, hitem⟩, hid⟩

/-- There is one warning for each repetition of an id, in order. -/
theorem overwrites_pair (written : List WrittenDescriptor) :
    List.Forall₂ (fun place event => overwrite? written place = some event)
      (repeats (written.map (·.id))) (overwrites written) := by
  rw [repeats, List.length_map]
  apply forall₂_filter_filterMap
  intro place hplace
  rw [Bool.eq_iff_iff, decide_eq_true_eq]
  exact (overwrite_isSome_iff (List.mem_range.mp hplace)).symm

/-- One more descriptor comes with a warning if its id has been written before. -/
theorem overwrites_concat (written : List WrittenDescriptor) (descriptor : WrittenDescriptor) :
    overwrites (written ++ [descriptor]) = overwrites written ++
      ((written.find? fun earlier => earlier.id = descriptor.id).map fun first =>
        .overwritten descriptor.id first.className descriptor.className).toList := by
  have hbefore : ∀ place ∈ List.range written.length,
      overwrite? (written ++ [descriptor]) place = overwrite? written place := by
    intro place hplace
    rw [List.mem_range] at hplace
    rw [overwrite?, overwrite?, List.getElem?_append_left hplace,
      List.take_append_of_le_length hplace.le]
  have hlast : overwrite? (written ++ [descriptor]) written.length =
      (written.find? fun earlier => earlier.id = descriptor.id).map fun first =>
        .overwritten descriptor.id first.className descriptor.className := by
    rw [overwrite?, List.getElem?_concat_length, Option.bind_some, List.take_left]
  rw [overwrites, List.length_append, List.length_singleton, List.range_succ,
    List.filterMap_append, List.filterMap_congr hbefore, ← hlast]
  cases hwarning : overwrite? (written ++ [descriptor]) written.length with
  | none => rw [List.filterMap_cons_none hwarning]; rfl
  | some warning => rw [List.filterMap_cons_some hwarning]; rfl

/-! ## What a pass logs -/

/-- What has been logged in two stretches has been logged in both together. -/
theorem Warned.trans (hfirst : Warned before reached first)
    (hsecond : Warned reached after second) : Warned before after (first ++ second) := by
  obtain ⟨events, hevents, rfl⟩ := hfirst
  obtain ⟨later, hlater, rfl⟩ := hsecond
  refine ⟨events ++ later, ?_, List.filter_append ..⟩
  rw [hlater, hevents, List.append_assoc]

/-- Where nothing has been logged, there are no warnings. -/
theorem warned_of_log_eq (h : after.log = before.log) : Warned before after [] :=
  ⟨[], by rw [h, List.append_nil], rfl⟩

/-- An event counts if it is a warning. -/
theorem warned_emit (session : Session) (event : Event) :
    Warned session (session.emit event) (warnings [event]) :=
  ⟨[event], rfl, rfl⟩

/-- Writing a descriptor logs nothing by itself. -/
theorem write_descriptor_log (session : Session) (config : Config) (className : String)
    (id : PluginId) : (session.writeDescriptor config className id).2.log = session.log := by
  rcases session.write_descriptor_cases config className id with
    ⟨_, _, hresult⟩ | ⟨_, _, _, _, _, hresult⟩
  · rw [hresult]
  · rw [hresult]

/-- Handling annotations logs no warnings. -/
theorem process_markers_warned (config : Config) (declaration : Declaration)
    (markers : List Marker) (session : Session) :
    Warned session (processMarkers config declaration markers session).2 [] := by
  induction markers generalizing session with
  | nil => exact warned_of_log_eq rfl
  | cons marker rest ih =>
      cases hmarker : marker.pluginId with
      | error problem =>
          rw [process_markers_of_error hmarker]
          exact (warned_of_log_eq rfl).trans
            (ih (session.addError problem.message marker.position))
      | ok id =>
          have haccepted := warned_emit session (.accepted declaration.name id)
          have hlog := write_descriptor_log (session.emit (.accepted declaration.name id)) config
            declaration.name id
          rcases process_markers_of_ok hmarker rest session with
            ⟨error, next, hwrite, hresult⟩ | ⟨descriptor, next, hwrite, hresult⟩
          · rw [hwrite] at hlog
            rw [hresult]
            have hwritten := haccepted.trans (warned_of_log_eq hlog)
            exact (hwritten.trans (warned_emit next (.aborting id error))).trans
              (warned_of_log_eq rfl)
          · rw [hwrite] at hlog
            rw [hresult]
            have hwritten := haccepted.trans (warned_of_log_eq hlog)
            exact (hwritten.trans (warned_emit next (.wrote id descriptor.path))).trans
              (ih (next.emit (.wrote id descriptor.path)))

/-- Reporting what is wrong with a declaration logs nothing. -/
theorem complaints_log (rules : List Rule) (position : Position) (session : Session) :
    (rules.foldl (fun session rule => session.addError rule.message position) session).log =
      session.log := by
  induction rules generalizing session with
  | nil => rfl
  | cons rule rest ih => exact ih (session.addError rule.message position)

/-- Handling a declaration logs no warnings. -/
theorem process_declaration_warned (config : Config) (declaration : Declaration)
    (session : Session) : Warned session (processDeclaration config declaration session).2 [] := by
  rw [processDeclaration]
  split
  · exact process_markers_warned config declaration declaration.markers session
  · exact (warned_of_log_eq (complaints_log _ _ session)).trans
      (warned_emit _ (.skipping declaration.name))

/-- Recording descriptors logs the warnings about them. -/
theorem record_written_warned (written descriptors : List WrittenDescriptor) (session : Session) :
    ∃ noted, Warned session (recordWritten written descriptors session).2 noted ∧
      overwrites (written ++ descriptors) = overwrites written ++ noted := by
  induction descriptors generalizing written session with
  | nil => exact ⟨[], warned_of_log_eq rfl, by simp⟩
  | cons descriptor rest ih =>
      rw [recordWritten, List.append_cons written descriptor rest]
      have hconcat := overwrites_concat written descriptor
      cases hfirst : written.find? fun earlier => earlier.id = descriptor.id with
      | some first =>
          rw [hfirst] at hconcat
          let warning : Event := .overwritten descriptor.id first.className descriptor.className
          obtain ⟨noted, hwarned, hnoted⟩ := ih (written ++ [descriptor]) (session.emit warning)
          refine ⟨warning :: noted, (warned_emit session warning).trans hwarned, ?_⟩
          rw [hnoted, hconcat, List.append_assoc]
          rfl
      | none =>
          rw [hfirst] at hconcat
          obtain ⟨noted, hwarned, hnoted⟩ := ih (written ++ [descriptor]) session
          refine ⟨noted, hwarned, ?_⟩
          rw [hnoted, hconcat, List.append_assoc]
          rfl

/-- Going over declarations logs the warnings about the descriptors that have been recorded. These
are the ones of all declarations that come before the one at which the pass fails, if it does. -/
theorem run_from_warned (config : Config) (report : Report) (declarations : List Declaration)
    (session : Session) :
    ∃ done rest last noted, declarations = done ++ rest ∧
      (runFrom config report done session).1 = .ok last ∧
      Warned session (runFrom config report declarations session).2 noted ∧
      overwrites last.written = overwrites report.written ++ noted ∧
      ∀ complete, (runFrom config report declarations session).1 = .ok complete →
        rest = [] ∧ complete = last := by
  induction declarations generalizing report session with
  | nil =>
      refine ⟨[], [], report, [], rfl, rfl, warned_of_log_eq rfl, by simp, ?_⟩
      intro complete hcomplete
      exact ⟨rfl, (Except.ok.inj hcomplete).symm⟩
  | cons declaration rest ih =>
      by_cases hcandidate : declaration.isCandidate = true
      case neg =>
        obtain ⟨done, left, last, noted, rfl, hdone, hrest⟩ := ih report session
        refine ⟨declaration :: done, left, last, noted, rfl, ?_⟩
        rw [runFrom, if_neg hcandidate, runFrom, if_neg hcandidate]
        exact ⟨hdone, hrest⟩
      let started := session.emit (.processing declaration.name declaration.markers.length)
      have hstarted : Warned session started [] :=
        warned_emit session (.processing declaration.name declaration.markers.length)
      have hdeclaration := hstarted.trans (process_declaration_warned config declaration started)
      cases hresult : processDeclaration config declaration started with
      | mk outcome next =>
          rw [hresult] at hdeclaration
          cases outcome with
          | error error =>
              -- The descriptors of this declaration are not recorded.
              refine ⟨[], declaration :: rest, report, [], rfl, rfl, ?_⟩
              rw [runFrom, if_pos hcandidate, hresult]
              refine ⟨hdeclaration, by simp, ?_⟩
              intro complete hcomplete
              cases hcomplete
          | ok descriptors =>
              obtain ⟨recorded, hrecord, hnoted⟩ :=
                record_written_warned report.written descriptors next
              obtain ⟨hwritten, _⟩ := Plan.record_written_eq report.written descriptors next []
              let grown : Report :=
                { processed := report.processed + 1
                  written := (recordWritten report.written descriptors next).1 }
              have hgrown : grown.written = report.written ++ descriptors := hwritten
              let recordedNext := (recordWritten report.written descriptors next).2
              have hstep (others : List Declaration) :
                  runFrom config report (declaration :: others) session =
                    runFrom config grown others recordedNext := by
                rw [runFrom, if_pos hcandidate, hresult]
              obtain ⟨done, left, last, noted, rfl, hdone, hwarned, hlast, hcomplete⟩ :=
                ih grown recordedNext
              refine ⟨declaration :: done, left, last, recorded ++ noted, rfl, ?_⟩
              rw [hstep, hstep]
              refine ⟨hdone, (hdeclaration.trans hrecord).trans hwarned, ?_, hcomplete⟩
              rw [hlast, hgrown, hnoted, List.append_assoc]

/-- A pass logs the warnings about the descriptors that it has recorded. These are all that it has
put in place if it is completed. -/
theorem run_warned (config : Config) (declarations : List Declaration) (session : Session) :
    ∃ done rest report, declarations = done ++ rest ∧
      (run config done session).1 = .ok report ∧
      Warned session (run config declarations session).2 (overwrites report.written) ∧
      ∀ complete, (run config declarations session).1 = .ok complete →
        rest = [] ∧ complete = report := by
  obtain ⟨done, rest, report, noted, hdeclarations, hdone, hwarned, hnoted, hcomplete⟩ :=
    run_from_warned config {} declarations session
  obtain rfl : overwrites report.written = noted := hnoted
  exact ⟨done, rest, report, hdeclarations, hdone, hwarned, hcomplete⟩

/-- A completed pass warns exactly once, in order, for each descriptor it lists whose id it lists
earlier too. The warning names the id, the class of that descriptor and the class of one of the
earlier ones. What is reported besides is what the declarations call for. It makes no difference
what the pass has found in the file tree, in the diagnostics and in the log. -/
theorem overwrite_warnings {declarations : List Declaration} {session : Session} {report : Report}
    (h : (run config declarations session).1 = .ok report) :
    let ids := report.written.map (·.id)
    ∃ events, (run config declarations session).2.log = session.log ++ events ∧
      List.Forall₂ (fun place event => ∃ earlier previous current, earlier < place ∧
          report.written[earlier]? = some previous ∧ report.written[place]? = some current ∧
          previous.id = current.id ∧
          event = .overwritten current.id previous.className current.className)
        (repeats ids) (warnings events) ∧
      (warnings events).length + ids.toFinset.card = report.written.length ∧
      (run config declarations session).2.diagnostics.entries =
        session.diagnostics.entries ++ Plan.reports (Plan.ofUnit declarations) ∧
      ∀ other otherReport others, (run config declarations other).1 = .ok otherReport →
        (run config declarations other).2.log = other.log ++ others →
        warnings others = warnings events := by
  intro ids
  have hwarned {other : Session} {otherReport : Report}
      (hother : (run config declarations other).1 = .ok otherReport) :
      Warned other (run config declarations other).2 (overwrites otherReport.written) := by
    obtain ⟨_, _, last, _, _, hlast, hcomplete⟩ := run_warned config declarations other
    rw [(hcomplete otherReport hother).2]
    exact hlast
  obtain ⟨hexecute, hreport⟩ := Plan.run_ok_iff.mp h
  obtain ⟨events, hlog, hevents⟩ := hwarned h
  refine ⟨events, hlog, ?_, ?_, Plan.entries_of_completed hexecute, ?_⟩
  · rw [hevents]
    refine (overwrites_pair report.written).imp ?_
    intro place event hevent
    obtain ⟨current, first, hcurrent, hfirst, rfl⟩ := overwrite_eq_some hevent
    obtain ⟨earlier, hearlier, hplace⟩ :=
      mem_take_iff_getElem?.mp (List.mem_of_find?_eq_some hfirst)
    have hid : first.id = current.id := by simpa using List.find?_some hfirst
    exact ⟨earlier, first, current, hearlier, hplace, hcurrent, hid, rfl⟩
  · rw [hevents, ← (overwrites_pair report.written).length_eq, length_repeats_add_card,
      List.length_map]
  · intro other otherReport others hother hothers
    obtain ⟨logged, hlogged, hsame⟩ := hwarned hother
    obtain rfl : others = logged := List.append_cancel_left (hothers.symm.trans hlogged)
    rw [hsame, hevents, hreport, (Plan.run_ok_iff.mp hother).2]

/-- One class has two annotations for the id of another one. -/
theorem overwrite_warnings_of_two_classes :
    let config : Config := { outputRoot := ⟨"out"⟩ }
    let session : Session := { tree := .empty, clock := .constant ⟨0, 0, 0⟩ }
    let first : Declaration := {
      name := "first.Plugin"
      visibility := .isPublic
      implements := [Declaration.pluginInterface]
      markers := [{ value := some "a.b" }, { value := some "c.d" }, { value := some "a.b" }] }
    let second : Declaration :=
      { first with name := "second.Plugin", markers := [{ value := some "a.b" }] }
    let declarations := [first, second]
    let report := Plan.completeReport config declarations
    let id : PluginId := ⟨"a.b", by decide +kernel⟩
    (run config declarations session).1 = .ok report ∧
      repeats (report.written.map (·.id)) = [2, 3] ∧
      ∃ events, (run config declarations session).2.log = session.log ++ events ∧
        (warnings events).length = 2 ∧
        warnings events = [.overwritten id "first.Plugin" "first.Plugin",
          .overwritten id "first.Plugin" "second.Plugin"] := by
  intro config session first second declarations report id
  have hrun : (run config declarations session).1 = .ok report :=
    Plan.run_ok_of_isSome (by decide +kernel)
  obtain ⟨events, hlog, _, hcount, _⟩ := overwrite_warnings hrun
  have hdistinct : (report.written.map (·.id)).toFinset.card = 2 := by decide +kernel
  have hlength : report.written.length = 4 := by decide +kernel
  refine ⟨hrun, by decide +kernel, events, hlog, by omega, ?_⟩
  have hlogged : warnings (run config declarations session).2.log =
      [.overwritten id "first.Plugin" "first.Plugin",
        .overwritten id "first.Plugin" "second.Plugin"] := by decide +kernel
  rw [hlog] at hlogged
  exact hlogged

end Pass

end PluginDescriptor
