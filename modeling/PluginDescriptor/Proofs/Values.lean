import PluginDescriptor.Proofs.Eligibility
import PluginDescriptor.Proofs.PluginId.Grammar
import PluginDescriptor.Proofs.Text.Trim

/-!
# The id in the value of an annotation

A value holds an id if the id stands in it between control characters only. There is one way at most
to take a value apart like this, `Holds.unique`, and an annotation has the id that its value holds,
`plugin_id_ok_iff`. The annotations of an eligible declaration are handled in turn,
`process_markers_append`. The main statement, `value_decides_turn`, says what comes of the turn of
an annotation with a value: the descriptor of the id that the value holds is written, or what is
left of the value without the control characters around it is reported as no id.
-/

namespace PluginDescriptor

/-- An id stands in a value between control characters only. -/
structure Holds (value front : String) (id : PluginId) (back : String) : Prop where
  value_eq : value = front ++ id.text ++ back
  front : ∀ c ∈ front.toList, Text.isControl c = true
  back : ∀ c ∈ back.toList, Text.isControl c = true

namespace Pass

/-- What `next` does where `done` has left off. The descriptors of both are listed, and a failure of
the first leaves nothing to the second. -/
def andThen (done : Except DescriptorError (List WrittenDescriptor) × Session)
    (next : Session → Except DescriptorError (List WrittenDescriptor) × Session) :
    Except DescriptorError (List WrittenDescriptor) × Session :=
  match done with
  | (.error error, last) => (.error error, last)
  | (.ok listed, reached) =>
    match next reached with
    | (.error error, last) => (.error error, last)
    | (.ok more, last) => (.ok (listed ++ more), last)

/-- The handling of a single annotation. -/
def turn (config : Config) (declaration : Declaration) (marker : Marker) (reached : Session) :
    Except DescriptorError (List WrittenDescriptor) × Session :=
  processMarkers config declaration [marker] reached

/-- The failure to write the descriptor of an id has been reported, and nothing else. -/
def Reported (id : PluginId) (error : DescriptorError) (reached next : Session) : Prop :=
  next.diagnostics.entries = reached.diagnostics.entries ++
    [⟨.fatal, s!"failed to write the plugin descriptor for '{id.text}': {error.message}", none⟩]

/-- What can come of the attempt to write the descriptor of an id for a class. -/
inductive Attempted (config : Config) (className : String) (id : PluginId) (reached : Session) :
    Except DescriptorError (List WrittenDescriptor) × Session → Prop where
  /-- The descriptor is in place, in the file of the id, and is listed with the id. -/
  | written (charset target bytes next) :
      Charset.ofName config.encoding = .ok charset →
      target = config.descriptorDirectory.join ⟨id.fileName⟩ →
      bytes = charset.encode (Descriptor.render config.label reached.clock.now className) →
      Descriptor.write reached.tree config.descriptorDirectory id bytes =
        (.ok target, next.tree) →
      next.tree.entryOf? target = some (.file bytes) →
      next.diagnostics = reached.diagnostics →
      Attempted config className id reached (.ok [⟨id, className, target⟩], next)
  /-- There is no such charset. -/
  | unsupported (cause next) :
      Charset.ofName config.encoding = .error cause →
      next.tree = reached.tree →
      Reported id (.unsupportedCharset cause) reached next →
      Attempted config className id reached (.error (.unsupportedCharset cause), next)
  /-- The descriptor cannot be put in place. -/
  | failed (charset bytes error next) :
      Charset.ofName config.encoding = .ok charset →
      bytes = charset.encode (Descriptor.render config.label reached.clock.now className) →
      Descriptor.write reached.tree config.descriptorDirectory id bytes =
        (.error error, next.tree) →
      Reported id error reached next →
      Attempted config className id reached (.error error, next)

end Pass

variable {value front back : String} {id : PluginId} {position : Position}

/-! ## What a value holds -/

/-- A plugin id holds no control character. -/
theorem PluginId.not_control (id : PluginId) {c : Char} (hc : c ∈ id.text.toList) :
    Text.isControl c = false := by
  have hvalid := id.valid
  simp only [isValid, decide_eq_true_eq] at hvalid
  simp only [Text.isControl, decide_eq_false_iff_not]
  rcases accepted_chars hvalid c hc with hsegment | rfl
  · have hlower := (segment_char_bounds hsegment).1
    omega
  · decide

/-- A plugin id is not empty. -/
theorem PluginId.text_ne_empty (id : PluginId) : id.text ≠ "" := by
  intro hempty
  have hvalid := id.valid
  rw [hempty] at hvalid
  exact absurd hvalid (by decide)

/-- An id that a value holds is the core of the value. -/
theorem Holds.wrapped (h : Holds value front id back) :
    Text.Wrapped Text.isControl front id.text back where
  front := h.front
  back := h.back
  starts _ hc := id.not_control (List.mem_of_mem_head? hc)
  ends _ hc := id.not_control (List.mem_of_getLast? hc)

/-- A value holds one id at most, in one place. -/
theorem Holds.unique {otherFront otherBack : String} {other : PluginId}
    (h : Holds value front id back) (hother : Holds value otherFront other otherBack) :
    otherFront = front ∧ other = id ∧ otherBack = back := by
  have hsame : front ++ id.text ++ back = otherFront ++ other.text ++ otherBack := by
    rw [← h.value_eq, hother.value_eq]
  obtain ⟨hfront, htext, hback⟩ :=
    Text.wrapped_unique h.wrapped hother.wrapped hsame id.text_ne_empty
  exact ⟨hfront, PluginId.text_inj.mp htext, hback⟩

/-- A value holds an id exactly if trimming leaves the id. -/
theorem holds_iff_trim :
    (∃ front back, Holds value front id back) ↔ Text.trimControl value = id.text := by
  constructor
  · rintro ⟨front, back, h⟩
    rw [h.value_eq]
    exact Text.trim_of_wrapped h.wrapped
  · intro htrim
    obtain ⟨front, back, hvalue, hwrapped⟩ := Text.exists_wrapped Text.isControl value
    have hcore : Text.trim Text.isControl value = id.text := htrim
    rw [hcore] at hvalue hwrapped
    exact ⟨front, back, hvalue, hwrapped.front, hwrapped.back⟩

/-- An annotation has the id that its value holds. -/
theorem plugin_id_ok_iff :
    Marker.pluginId ⟨some value, position⟩ = .ok id ↔ ∃ front back, Holds value front id back := by
  rw [holds_iff_trim, Marker.pluginId]
  dsimp only
  cases hparse : PluginId.parse (Text.trimControl value) with
  | ok parsed =>
      obtain ⟨_, htext⟩ := PluginId.parse_ok_iff.mp hparse
      rw [← htext]
      constructor
      · intro h
        cases h
        rfl
      · intro h
        rw [PluginId.text_inj.mp h]
  | error invalid =>
      obtain ⟨hinvalid, _⟩ := PluginId.parse_error_iff.mp hparse
      constructor
      · intro h
        cases h
      · intro h
        rw [h] at hinvalid
        exact absurd id.valid hinvalid

/-- A value without an id is refused as what trimming leaves of it. -/
theorem plugin_id_of_nothing (h : ¬ ∃ front id back, Holds value front id back) :
    Marker.pluginId ⟨some value, position⟩ = .error (.invalidId ⟨Text.trimControl value⟩) := by
  rw [Marker.pluginId]
  dsimp only
  cases hparse : PluginId.parse (Text.trimControl value) with
  | ok parsed =>
      obtain ⟨_, htext⟩ := PluginId.parse_ok_iff.mp hparse
      obtain ⟨front, back, hholds⟩ := holds_iff_trim.mpr htext.symm
      exact absurd ⟨front, parsed, back, hholds⟩ h
  | error invalid =>
      obtain ⟨_, htext⟩ := PluginId.parse_error_iff.mp hparse
      rw [← htext]

namespace Pass

variable {config : Config} {declaration : Declaration} {session reached : Session}

/-! ## Annotations in turn -/

/-- The annotations of an eligible declaration are handled. -/
theorem process_declaration_of_eligible (h : declaration.Eligible) (session : Session) :
    processDeclaration config declaration session =
      processMarkers config declaration declaration.markers session := by
  have hcomplaints : Plan.complaints declaration declaration.position = [] :=
    Plan.complaints_eq_nil_iff.mpr h
  rw [Plan.complaints_eq, List.map_eq_nil_iff] at hcomplaints
  rw [processDeclaration, hcomplaints]

/-- Annotations can be handled one part after the other. -/
theorem process_markers_append (first second : List Marker) (session : Session) :
    processMarkers config declaration (first ++ second) session =
      andThen (processMarkers config declaration first session)
        (processMarkers config declaration second) := by
  induction first generalizing session with
  | nil =>
      show processMarkers config declaration second session = _
      rw [processMarkers, andThen]
      cases processMarkers config declaration second session with
      | mk outcome last => cases outcome <;> rfl
  | cons marker rest ih =>
      rw [List.cons_append, processMarkers, processMarkers]
      cases marker.pluginId with
      | error problem => exact ih _
      | ok id =>
          dsimp only
          cases (session.emit (.accepted declaration.name id)).writeDescriptor config
              declaration.name id with
          | mk written next =>
              cases written with
              | error error => rfl
              | ok descriptor =>
                  dsimp only
                  rw [ih]
                  cases processMarkers config declaration rest
                      (next.emit (.wrote id descriptor.path)) with
                  | mk outcome reached =>
                      cases outcome with
                      | error error => rfl
                      | ok listed =>
                          simp only [andThen]
                          cases processMarkers config declaration second reached with
                          | mk outcome last => cases outcome <;> rfl

/-- Once there is a charset, a session ends as the write of the descriptor does, and reads the
clock. -/
theorem write_descriptor_of_write {session : Session} {charset : Charset} {className : String}
    {outcome : Except DescriptorError Path} {tree : FileTree}
    (hcharset : Charset.ofName config.encoding = .ok charset)
    (hwrite : Descriptor.write session.tree config.descriptorDirectory id
      (charset.encode (Descriptor.render config.label session.clock.now className)) =
        (outcome, tree)) :
    session.writeDescriptor config className id =
      (outcome.map fun path => ⟨id, className, path⟩,
        { session with tree, clock := session.clock.later }) := by
  rw [Session.writeDescriptor, hcharset]
  dsimp only
  rw [hwrite]
  cases outcome <;> rfl

/-- The turn of an annotation that has an id is the attempt to write its descriptor. -/
theorem turn_of_id (config : Config) (declaration : Declaration) {marker : Marker}
    (h : marker.pluginId = .ok id) (reached : Session) :
    Attempted config declaration.name id reached (turn config declaration marker reached) := by
  let started := reached.emit (.accepted declaration.name id)
  show Attempted _ _ _ _ (processMarkers config declaration [marker] reached)
  rw [processMarkers, h]
  dsimp only
  cases hcharset : Charset.ofName config.encoding with
  | error cause =>
      have hdescriptor : started.writeDescriptor config declaration.name id =
          (.error (.unsupportedCharset cause), started) := by
        rw [Session.writeDescriptor, hcharset]
      rw [hdescriptor]
      exact .unsupported cause _ hcharset rfl (Plan.refuse_entries (Plan.ofSession started []) id _)
  | ok charset =>
      let bytes := charset.encode
        (Descriptor.render config.label reached.clock.now declaration.name)
      cases hwrite : Descriptor.write reached.tree config.descriptorDirectory id bytes with
      | mk outcome tree =>
          let written : Session := { started with tree, clock := started.clock.later }
          have hdescriptor : started.writeDescriptor config declaration.name id =
              (outcome.map fun path => ⟨id, declaration.name, path⟩, written) :=
            write_descriptor_of_write hcharset hwrite
          rw [hdescriptor]
          cases outcome with
          | error error =>
              exact .failed charset bytes error _ hcharset rfl hwrite
                (Plan.refuse_entries (Plan.ofSession written []) id error)
          | ok path =>
              obtain ⟨rfl, ready, _, hreplaced⟩ := Descriptor.write_ok hwrite
              exact .written charset _ bytes _ hcharset rfl rfl hwrite
                (FileTree.entry_of_replaced hreplaced) rfl

/-- The turn of an annotation whose value holds no id adds one diagnostic. -/
theorem turn_of_nothing (config : Config) (declaration : Declaration) (position : Position)
    (h : ¬ ∃ front id back, Holds value front id back) (reached : Session) :
    turn config declaration ⟨some value, position⟩ reached =
      (.ok [], { reached with
        diagnostics := ⟨reached.diagnostics.entries ++ [⟨.recoverable,
          s!"the plugin id '{Text.trim Text.isControl value}' is not a valid Gradle plugin id",
          some position⟩]⟩ }) := by
  show processMarkers config declaration [⟨some value, position⟩] reached = _
  rw [processMarkers, plugin_id_of_nothing h]
  rfl

end Pass

/-- An annotation of an eligible declaration has its turn after those before it and before those
behind it. If its value is an id between control characters, in one way only, then this id is
accepted and no other, and its descriptor is written and listed, unless the pass ends with the
failure to write it. Otherwise one recoverable diagnostic is added at the position of the annotation
and nothing else is done. It quotes what is left of the value between its longest beginning and its
longest end of control characters, which is nothing if there is no other character. -/
theorem value_decides_turn (config : Config) (declaration : Declaration)
    (heligible : declaration.Eligible) (before rest : List Marker) (value : String)
    (position : Position)
    (hmarkers : declaration.markers = before ++ ⟨some value, position⟩ :: rest) :
    let marker : Marker := ⟨some value, position⟩
    let turn := Pass.turn config declaration marker
    (∀ session, Pass.processDeclaration config declaration session =
      Pass.andThen
        (Pass.andThen (Pass.processMarkers config declaration before session) turn)
        (Pass.processMarkers config declaration rest)) ∧
    (∀ id, marker.pluginId = .ok id ↔ ∃ front back, Holds value front id back) ∧
    ((∃ front id back, Holds value front id back ∧
        (∀ otherFront other otherBack, Holds value otherFront other otherBack →
          otherFront = front ∧ other = id ∧ otherBack = back) ∧
        ∀ reached, Pass.Attempted config declaration.name id reached (turn reached)) ∨
      (¬ ∃ front id back, Holds value front id back) ∧
        ∃ front core back, value = front ++ core ++ back ∧
          Text.Wrapped Text.isControl front core back ∧
          (core = "" ↔ ∀ c ∈ value.toList, Text.isControl c = true) ∧
          ∀ reached, turn reached =
            (.ok [], { reached with
              diagnostics := ⟨reached.diagnostics.entries ++ [⟨.recoverable,
                s!"the plugin id '{core}' is not a valid Gradle plugin id",
                some position⟩]⟩ })) := by
  intro marker turn
  refine ⟨?_, fun id => plugin_id_ok_iff, ?_⟩
  · intro session
    rw [Pass.process_declaration_of_eligible heligible, hmarkers, List.append_cons,
      Pass.process_markers_append, Pass.process_markers_append]
    rfl
  · by_cases hholds : ∃ front id back, Holds value front id back
    · left
      obtain ⟨front, id, back, h⟩ := hholds
      have hid : marker.pluginId = .ok id := plugin_id_ok_iff.mpr ⟨front, back, h⟩
      refine ⟨front, id, back, h, ?_, ?_⟩
      · intro otherFront other otherBack hother
        exact h.unique hother
      · exact Pass.turn_of_id config declaration hid
    · right
      obtain ⟨front, back, hvalue, hwrapped⟩ := Text.exists_wrapped Text.isControl value
      have hturn := Pass.turn_of_nothing config declaration position hholds
      have hempty := hwrapped.core_eq_empty_iff
      rw [← hvalue] at hempty
      exact ⟨hholds, front, _, back, hvalue, hwrapped, hempty, hturn⟩

/-- The second annotation of a class holds `a.b` between control characters. In the first, the space
in front of `a.b` is outside ASCII. -/
theorem value_decides_turn_of_padded_id :
    let config : Config := { outputRoot := ⟨"out"⟩ }
    let spaced : Marker := ⟨some "\u00A0a.b", ⟨1, 1⟩⟩
    let padded : Marker := ⟨some "\t a.b\n", ⟨2, 1⟩⟩
    let declaration : Declaration := {
      name := "good.Plugin"
      visibility := .isPublic
      implements := [Declaration.pluginInterface]
      markers := [spaced, padded] }
    declaration.Eligible ∧
      ∃ id, id.text = "a.b" ∧ Holds "\t a.b\n" "\t " id "\n" ∧ padded.pluginId = .ok id ∧
        ∀ reached, Pass.Attempted config "good.Plugin" id reached
          (Pass.turn config declaration padded reached) := by
  intro config spaced padded declaration
  let id : PluginId := ⟨"a.b", by decide⟩
  have heligible : declaration.Eligible := ⟨rfl, ⟨rfl, rfl⟩, by decide⟩
  have hholds : Holds "\t a.b\n" "\t " id "\n" := ⟨by decide,
    List.all_eq_true.mp (by decide), List.all_eq_true.mp (by decide)⟩
  obtain ⟨_, hid, hturn⟩ :=
    value_decides_turn config declaration heligible [spaced] [] "\t a.b\n" ⟨2, 1⟩ rfl
  refine ⟨heligible, id, rfl, hholds, (hid id).mpr ⟨_, _, hholds⟩, ?_⟩
  rcases hturn with ⟨front, other, back, _, hunique, hattempted⟩ | ⟨hnothing, _⟩
  · obtain ⟨_, rfl, _⟩ := hunique _ _ _ hholds
    exact hattempted
  · exact absurd ⟨_, id, _, hholds⟩ hnothing

end PluginDescriptor
