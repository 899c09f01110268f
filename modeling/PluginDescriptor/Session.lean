import PluginDescriptor.Diagnostic
import PluginDescriptor.Event

/-!
# Sessions

A session is all that a pass reads and changes: the file tree, the clock, the diagnostics reported
so far and the events logged so far.
-/

namespace PluginDescriptor

/-- What a pass works on. -/
structure Session where
  tree : FileTree
  clock : Clock
  diagnostics : Diagnostics := {}
  log : List Event := []

namespace Session

/-- Logs an event. -/
def emit (session : Session) (event : Event) : Session :=
  { session with log := session.log ++ [event] }

/-- Reports a problem at a position. -/
def addError (session : Session) (message : String) (position : Position) : Session :=
  { session with diagnostics := session.diagnostics.addError message position }

/-- Reports the failure that ends the pass. -/
def addFatal (session : Session) (message : String) (cause : DescriptorError) : Session :=
  { session with diagnostics := session.diagnostics.addFatal message cause }

/-- Writes the descriptor of an id. The charset is resolved first, then the clock is read, and only
then is the file tree touched. -/
def writeDescriptor (session : Session) (config : Config) (className : String) (id : PluginId) :
    Except DescriptorError WrittenDescriptor × Session :=
  match Charset.ofName config.encoding with
  | .error cause => (.error (.unsupportedCharset cause), session)
  | .ok charset =>
    let content := Descriptor.render config.label session.clock.now className
    match Descriptor.write session.tree config.descriptorDirectory id (charset.encode content) with
    | (.error error, tree) => (.error error, { session with tree, clock := session.clock.later })
    | (.ok path, tree) =>
      (.ok ⟨id, className, path⟩, { session with tree, clock := session.clock.later })

/-- A session is left as it is for want of a charset. Otherwise the file tree is what the write of
the descriptor leaves, and the clock has been read. -/
theorem write_descriptor_cases (session : Session) (config : Config) (className : String)
    (id : PluginId) :
    (∃ cause, Charset.ofName config.encoding = .error cause ∧
      session.writeDescriptor config className id =
        (.error (.unsupportedCharset cause), session)) ∨
    ∃ charset outcome tree, Charset.ofName config.encoding = .ok charset ∧
      Descriptor.write session.tree config.descriptorDirectory id
        (charset.encode (Descriptor.render config.label session.clock.now className)) =
          (outcome, tree) ∧
      session.writeDescriptor config className id =
        (outcome.map fun path => ⟨id, className, path⟩,
          { session with tree, clock := session.clock.later }) := by
  unfold writeDescriptor
  cases Charset.ofName config.encoding with
  | error cause => exact Or.inl ⟨cause, rfl, rfl⟩
  | ok charset =>
      dsimp only
      cases hwrite : Descriptor.write session.tree config.descriptorDirectory id
          (charset.encode (Descriptor.render config.label session.clock.now className)) with
      | mk outcome tree =>
          refine Or.inr ⟨charset, outcome, tree, rfl, hwrite, ?_⟩
          cases outcome <;> rfl

end Session

end PluginDescriptor
