import Mathlib.Data.List.Chain
import PluginDescriptor.Proofs.Plan

/-!
# Parts of a log

An id that is accepted is answered for at once, by the descriptor that is in place or by the failure
that ends it all. `Recounts` says so of a part of a log, together with the descriptors and the
failure that it tells of. It holds of the few events that belong together and is kept when one part
is put behind another, `Recounts.append`. `Recounts.accepted` and `Recounts.answered` read the order
of the events off it.
-/

namespace PluginDescriptor

/-- `event.Answers id` says that the event tells what has become of an accepted id. -/
inductive Event.Answers (id : PluginId) : Event → Prop where
  | wrote (path : Path) : Answers id (.wrote id path)
  | aborting (error : DescriptorError) : Answers id (.aborting id error)

/-- The events that are about a single id. -/
inductive Event.ConcernsId : Event → Prop where
  | accepted (declaration : String) (id : PluginId) : ConcernsId (.accepted declaration id)
  | wrote (id : PluginId) (path : Path) : ConcernsId (.wrote id path)
  | aborting (id : PluginId) (error : DescriptorError) : ConcernsId (.aborting id error)
  | overwritten (id : PluginId) (previous current : String) :
      ConcernsId (.overwritten id previous current)

/-- The events that neither accept an id nor answer for one. -/
inductive Event.Aside : Event → Prop where
  | processing (declaration : String) (markers : Nat) : Aside (.processing declaration markers)
  | skipping (declaration : String) : Aside (.skipping declaration)
  | overwritten (id : PluginId) (previous current : String) :
      Aside (.overwritten id previous current)

namespace Plan

/-- The event that tells of a descriptor put in place. -/
def Writing.event (writing : Writing) (directory : Path) : Event :=
  .wrote writing.id (directory.join ⟨writing.id.fileName⟩)

/-- `Concludes failure events` says that an error is logged for this failure, as the last event, and
none where there is no failure. -/
inductive Concludes : Option DescriptorError → List Event → Prop where
  | completed (events : List Event) : (∀ event ∈ events, event.level ≠ .error) →
      Concludes none events
  | aborted (events : List Event) (id : PluginId) (error : DescriptorError) :
      (∀ event ∈ events, event.level ≠ .error) →
      Concludes (some error) (events ++ [.aborting id error])

/-- Of two events next to each other, the first accepts an id if and only if the second answers for
it. -/
def Adjoins (first next : Event) : Prop :=
  ∀ id, (∃ name, first = .accepted name id) ↔ next.Answers id

/-- `Recounts directory writings failure events` says of a part of a log what can be said without
the declarations: every accepted id is answered for within it, and it tells of these descriptors and
of this failure. -/
structure Recounts (directory : Path) (writings : List Writing) (failure : Option DescriptorError)
    (events : List Event) : Prop where
  adjoining : events.IsChain Adjoins
  starts : ∀ first ∈ events.head?, ∀ id, ¬ first.Answers id
  ends : ∀ last ∈ events.getLast?, ∀ name id, last ≠ .accepted name id
  written : events.filter (fun event => event.level = .info) = writings.map (·.event directory)
  concluded : Concludes failure events

variable {directory : Path} {first second writings : List Writing}
  {failure : Option DescriptorError} {events earlier later : List Event}

/-! ## One part behind another -/

/-- A log ends as its last part does, if there is no error in front of it. -/
theorem Concludes.append (hearlier : Concludes none earlier) (hlater : Concludes failure later) :
    Concludes failure (earlier ++ later) := by
  obtain ⟨_, hnone⟩ := hearlier
  cases hlater with
  | completed _ hlast =>
      refine .completed _ fun event hevent => ?_
      exact (List.mem_append.mp hevent).elim (hnone event) (hlast event)
  | aborted front id error hfront =>
      rw [← List.append_assoc]
      refine .aborted _ id error fun event hevent => ?_
      exact (List.mem_append.mp hevent).elim (hnone event) (hfront event)

/-- Two parts of a log can be put together. -/
theorem Recounts.append (hfirst : Recounts directory first none earlier)
    (hsecond : Recounts directory second failure later) :
    Recounts directory (first ++ second) failure (earlier ++ later) where
  adjoining := by
    refine List.isChain_append.mpr ⟨hfirst.adjoining, hsecond.adjoining, ?_⟩
    intro last hlast next hnext id
    -- Nothing is left open at the end of the first part, and the second starts with no answer.
    refine iff_of_false ?_ (hsecond.starts next hnext id)
    rintro ⟨name, haccepted⟩
    exact hfirst.ends last hlast name id haccepted
  starts := by
    intro event hevent
    rw [List.head?_append] at hevent
    cases hhead : earlier.head? with
    | none =>
        rw [hhead, Option.none_or] at hevent
        exact hsecond.starts event hevent
    | some head =>
        rw [hhead, Option.some_or] at hevent
        exact hfirst.starts event (hhead ▸ hevent)
  ends := by
    intro event hevent
    rw [List.getLast?_append] at hevent
    cases hlast : later.getLast? with
    | none =>
        rw [hlast, Option.none_or] at hevent
        exact hfirst.ends event hevent
    | some last =>
        rw [hlast, Option.some_or] at hevent
        exact hsecond.ends event (hlast ▸ hevent)
  written := by
    rw [List.filter_append, hfirst.written, hsecond.written, List.map_append]
  concluded := hfirst.concluded.append hsecond.concluded

/-- Nothing has been done where nothing is logged. -/
theorem Recounts.nothing : Recounts directory [] none [] :=
  ⟨.nil, by simp, by simp, rfl, .completed [] (by simp)⟩

/-- An event beside the handling of ids stands for itself. -/
theorem Recounts.aside {event : Event} (h : event.Aside) :
    Recounts directory [] none [event] where
  adjoining := .singleton event
  starts := by
    intro first hfirst id hanswers
    obtain rfl := Option.some.inj hfirst
    cases h <;> cases hanswers
  ends := by
    intro last hlast name id haccepted
    obtain rfl := Option.some.inj hlast
    cases h <;> cases haccepted
  written := by cases h <;> rfl
  concluded := by
    refine .completed [event] fun other hother => ?_
    obtain rfl := List.mem_singleton.mp hother
    cases h <;> simp [Event.level]

/-- An accepted id is followed by its answer. -/
theorem adjoins_answer {name : String} {id : PluginId} {answer : Event} (h : answer.Answers id) :
    [.accepted name id, answer].IsChain Adjoins := by
  refine List.isChain_pair.mpr fun other => ?_
  constructor
  · rintro ⟨_, haccepted⟩
    obtain ⟨_, rfl⟩ := Event.accepted.inj haccepted
    exact h
  · intro hother
    cases h <;> cases hother <;> exact ⟨name, rfl⟩

/-- An id is accepted and its descriptor put in place. -/
theorem Recounts.wrote (name : String) (writing : Writing) :
    Recounts directory [writing] none [.accepted name writing.id, writing.event directory] where
  adjoining := adjoins_answer (.wrote _)
  starts := by
    intro event hevent id hanswers
    obtain rfl := Option.some.inj hevent
    cases hanswers
  ends := by
    intro event hevent name id haccepted
    obtain rfl := Option.some.inj hevent
    cases haccepted
  written := rfl
  concluded := .completed _ (by simp [Writing.event, Event.level])

/-- An id is accepted and the pass fails. -/
theorem Recounts.aborted (name : String) (id : PluginId) (error : DescriptorError) :
    Recounts directory [] (some error) [.accepted name id, .aborting id error] where
  adjoining := adjoins_answer (.aborting error)
  starts := by
    intro event hevent other hanswers
    obtain rfl := Option.some.inj hevent
    cases hanswers
  ends := by
    intro event hevent name other haccepted
    obtain rfl := Option.some.inj hevent
    cases haccepted
  written := rfl
  concluded := .aborted [.accepted name id] id error (by simp [Event.level])

/-- An accepted id is answered for by the next event. -/
theorem Recounts.accepted (h : Recounts directory writings failure events)
    {before after : List Event} {name : String} {id : PluginId}
    (hevents : events = before ++ .accepted name id :: after) :
    ∃ next later, after = next :: later ∧ next.Answers id := by
  cases after with
  | nil =>
      have hlast : .accepted name id ∈ events.getLast? := by simp [hevents]
      exact absurd rfl (h.ends _ hlast name id)
  | cons next later =>
      have hchain := h.adjoining
      rw [hevents, List.isChain_append_cons_cons] at hchain
      exact ⟨next, later, rfl, (hchain.2.1 id).mp ⟨name, rfl⟩⟩

/-- What is answered for has been accepted by the event before. -/
theorem Recounts.answered (h : Recounts directory writings failure events)
    {before after : List Event} {event : Event} {id : PluginId} (hanswers : event.Answers id)
    (hevents : events = before ++ event :: after) :
    ∃ earlier name, before = earlier ++ [.accepted name id] := by
  rcases List.eq_nil_or_concat before with rfl | ⟨earlier, last, rfl⟩
  · have hfirst : event ∈ events.head? := by simp [hevents]
    exact absurd hanswers (h.starts event hfirst id)
  · have hchain := h.adjoining
    rw [hevents, List.concat_eq_append, List.append_assoc, List.singleton_append,
      List.isChain_append_cons_cons] at hchain
    obtain ⟨name, rfl⟩ := (hchain.2.1 id).mpr hanswers
    exact ⟨earlier, name, List.concat_eq_append⟩

end Plan

end PluginDescriptor
