import PluginDescriptor.Toml.Reader

/-!
# White space and comments

What may stand between the parts of a TOML document: `Blanks`, `LineBreak`, `Trailing` and `Gap`.
Each of them relates a text to what is left of it behind the part, and the reader is followed by
`State.outcome`, the statements of a document of which that much is left. A part that defines
nothing does not change the outcome.
-/

namespace PluginDescriptor.Toml

/-! ## The grammar -/

/-- A space or a tab. -/
inductive Blank : Char → Prop where
  | space : Blank ' '
  | tab : Blank '\t'

/-- A character of a comment or a string: a tab, or any character but the control characters of
ASCII. -/
inductive Plain : Char → Prop where
  | tab : Plain '\t'
  | visible {c : Char} : 0x20 ≤ c.toNat → c.toNat ≠ 0x7F → Plain c

/-- `Blanks text rest` says that `text` starts with spaces and tabs, or none, and goes on with
`rest`. -/
inductive Blanks : List Char → List Char → Prop where
  | none (rest) : Blanks rest rest
  | more {c text rest} : Blank c → Blanks text rest → Blanks (c :: text) rest

/-- `LineBreak text rest` says that `text` starts with a line break. -/
inductive LineBreak : List Char → List Char → Prop where
  | lineFeed (rest) : LineBreak ('\n' :: rest) rest
  | carriageReturn (rest) : LineBreak ('\r' :: '\n' :: rest) rest

/-- `Words text rest` says that `text` starts with the characters of a comment behind its `#`. -/
inductive Words : List Char → List Char → Prop where
  | none (rest) : Words rest rest
  | more {c text rest} : Plain c → Words text rest → Words (c :: text) rest

/-- `Trailing text rest` says that `text` starts with what may stand at the end of a line. -/
inductive Trailing : List Char → List Char → Prop where
  | blanks {text rest} : Blanks text rest → Trailing text rest
  | comment {text words rest} : Blanks text ('#' :: words) → Words words rest → Trailing text rest

/-- `Gap text rest` says that `text` starts with white space, line breaks and comments. -/
inductive Gap : List Char → List Char → Prop where
  | none (rest) : Gap rest rest
  | blank {c text rest} : Blank c → Gap text rest → Gap (c :: text) rest
  | lineBreak {text next rest} : LineBreak text next → Gap next rest → Gap text rest
  | comment {words line next rest} : Words words line → LineBreak line next → Gap next rest →
      Gap ('#' :: words) rest

/-- A character that an unquoted value in front of it certainly ends at. -/
inductive Stop : Char → Prop where
  | lineFeed : Stop '\n'
  | carriageReturn : Stop '\r'
  | hash : Stop '#'
  | comma : Stop ','
  | bracket : Stop ']'
  | brace : Stop '\x7d'

/-- What may be left behind a value: blanks, and then the end or something that is no part of it. -/
def Closes (text : List Char) : Prop :=
  ∃ rest, Blanks text rest ∧ ∀ c ∈ rest.head?, Stop c

/-! ## Kinds of characters -/

/-- The reader knows blanks. -/
theorem Blank.is_space {c : Char} (h : Blank c) : isSpace c = true := by
  cases h <;> decide

/-- The reader knows the characters of comments and strings. -/
theorem plain_iff {c : Char} : Plain c ↔ isTextChar c = true := by
  constructor
  · intro h
    cases h with
    | tab => decide
    | visible hlow hdelete => simp [isTextChar, hlow, hdelete]
  · intro h
    simp only [isTextChar, Bool.or_eq_true, Bool.and_eq_true, decide_eq_true_eq] at h
    obtain rfl | ⟨hlow, hdelete⟩ := h
    · exact .tab
    · exact .visible hlow hdelete

/-- A comment does not reach over the end of its line. -/
theorem Plain.not_break {c : Char} (h : Plain c) : c ≠ '\n' ∧ c ≠ '\r' := by
  cases h with
  | tab => decide
  | visible hlow _ =>
      refine ⟨?_, ?_⟩
      · rintro rfl
        exact absurd hlow (by decide)
      · rintro rfl
        exact absurd hlow (by decide)

/-! ## What is left of a text -/

/-- Blanks in front of a given character start with a blank or that character. -/
theorem Blanks.head {text rest : List Char} {c : Char} (h : Blanks text (c :: rest)) :
    ∃ first later, text = first :: later ∧ (Blank first ∨ first = c) := by
  cases h with
  | none => exact ⟨c, rest, rfl, Or.inr rfl⟩
  | more hblank _ => exact ⟨_, _, rfl, Or.inl hblank⟩

/-- A value ends at the end of a document. -/
theorem closes_nil : Closes [] :=
  ⟨[], .none _, nofun⟩

/-- A value ends in front of the character it is followed by. -/
theorem closes_of_stop {c : Char} {rest : List Char} (h : Stop c) : Closes (c :: rest) := by
  refine ⟨c :: rest, .none _, ?_⟩
  rintro _ ⟨⟩
  exact h

/-- A value ends in front of blanks if it ends behind them. -/
theorem Blanks.closes {text rest : List Char} (h : Blanks text rest) (hrest : Closes rest) :
    Closes text := by
  induction h with
  | none => exact hrest
  | more hblank _ ih =>
      obtain ⟨after, hafter, hstop⟩ := ih hrest
      exact ⟨after, .more hblank hafter, hstop⟩

/-- A value ends in front of a line break. -/
theorem LineBreak.closes {text rest : List Char} (h : LineBreak text rest) : Closes text := by
  cases h with
  | lineFeed => exact closes_of_stop .lineFeed
  | carriageReturn => exact closes_of_stop .carriageReturn

/-- A value ends in front of a gap if it ends behind it. -/
theorem Gap.closes {text rest : List Char} (h : Gap text rest) (hrest : Closes rest) :
    Closes text := by
  induction h with
  | none => exact hrest
  | blank hblank _ ih => exact (Blanks.more hblank (.none _)).closes (ih hrest)
  | lineBreak hbreak _ _ => exact hbreak.closes
  | comment _ _ _ _ => exact closes_of_stop .hash

/-- A value ends in front of what trails it on its line. -/
theorem Trailing.closes {text rest : List Char} (h : Trailing text rest) (hrest : Closes rest) :
    Closes text := by
  cases h with
  | blanks hblanks => exact hblanks.closes hrest
  | comment hblanks _ => exact hblanks.closes (closes_of_stop .hash)

/-! ## Reading -/

namespace State

/-- The statements of a document that has been read up to here, and of which `text` is left. -/
def outcome (state : State) (text : List Char) : Option (List Statement) :=
  (state.run text).bind finish

variable {state other : State} {statements : List Statement} {frames : List Frame} {place : Place}
  {text next rest : List Char}

/-- One character is read after the other. -/
theorem outcome_cons (state : State) (c : Char) (text : List Char) :
    state.outcome (c :: text) = (state.next c).bind fun state => state.outcome text := by
  unfold outcome run
  rw [List.foldlM_cons]
  cases state.next c <;> rfl

/-- Reading goes on in the next state. -/
theorem outcome_of_next {c : Char} (h : state.next c = some other) :
    state.outcome (c :: text) = other.outcome text := by
  rw [outcome_cons, h, Option.bind_some]

/-- States that read on in the same way have the same outcome. -/
theorem outcome_of_next_eq {c : Char} (h : state.next c = other.next c) :
    state.outcome (c :: text) = other.outcome (c :: text) := by
  rw [outcome_cons, outcome_cons, h]

/-- Blanks are skipped in a state that does not mind them. -/
theorem outcome_blanks (h : Blanks text rest)
    (hstay : ∀ c, isSpace c = true → state.next c = some state) :
    state.outcome text = state.outcome rest := by
  induction h with
  | none => rfl
  | more hblank _ ih => rw [outcome_of_next (hstay _ hblank.is_space), ih]

/-- A line break leads to the place where the next line goes on. -/
theorem outcome_line_break (h : LineBreak text rest)
    (hlineFeed : state.next '\n' = some { state with control := .resting place })
    (hreturn : state.next '\r' = some { state with control := .carriageReturn place }) :
    state.outcome text = { state with control := .resting place }.outcome rest := by
  cases h with
  | lineFeed => exact outcome_of_next hlineFeed
  | carriageReturn =>
      rw [outcome_of_next hreturn]
      exact outcome_of_next rfl

/-- The characters of a comment are skipped. -/
theorem outcome_words (h : Words text rest) :
    (⟨statements, frames, .comment place⟩ : State).outcome text =
      (⟨statements, frames, .comment place⟩ : State).outcome rest := by
  induction h with
  | none => rfl
  | more hplain _ ih =>
      refine (outcome_of_next ?_).trans ih
      obtain ⟨hlineFeed, hreturn⟩ := hplain.not_break
      simp [State.next, hlineFeed, hreturn, plain_iff.mp hplain]

/-- A gap is skipped. -/
theorem outcome_gap (h : Gap text rest) :
    (⟨statements, frames, .resting place⟩ : State).outcome text =
      (⟨statements, frames, .resting place⟩ : State).outcome rest := by
  induction h with
  | none => rfl
  | blank hblank _ ih =>
      refine (outcome_of_next ?_).trans ih
      simp [State.next, State.rest, hblank.is_space, goto]
  | lineBreak hbreak _ ih => exact (outcome_line_break hbreak rfl rfl).trans ih
  | comment hwords hbreak _ ih =>
      calc (⟨statements, frames, .resting place⟩ : State).outcome ('#' :: _)
          = (⟨statements, frames, .comment place⟩ : State).outcome _ := outcome_of_next rfl
        _ = (⟨statements, frames, .comment place⟩ : State).outcome _ := outcome_words hwords
        _ = (⟨statements, frames, .resting place⟩ : State).outcome _ :=
            outcome_line_break hbreak rfl rfl
        _ = _ := ih

/-- What trails a header or an assignment is skipped, and the next line begins. -/
theorem outcome_trailing (h : Trailing text next) (hbreak : LineBreak next rest) :
    (⟨statements, frames, .lineEnd⟩ : State).outcome text =
      (⟨statements, frames, .resting .line⟩ : State).outcome rest := by
  have hstay : ∀ c, isSpace c = true →
      (⟨statements, frames, .lineEnd⟩ : State).next c = some ⟨statements, frames, .lineEnd⟩ := by
    intro c hc
    simp [State.next, endLine, hc, goto]
  cases h with
  | blanks hblanks => exact (outcome_blanks hblanks hstay).trans (outcome_line_break hbreak rfl rfl)
  | comment hblanks hwords =>
      calc (⟨statements, frames, .lineEnd⟩ : State).outcome text
          = (⟨statements, frames, .lineEnd⟩ : State).outcome ('#' :: _) :=
            outcome_blanks hblanks hstay
        _ = (⟨statements, frames, .comment .line⟩ : State).outcome _ := outcome_of_next rfl
        _ = (⟨statements, frames, .comment .line⟩ : State).outcome _ := outcome_words hwords
        _ = _ := outcome_line_break hbreak rfl rfl

/-- What trails the last line of a document is skipped too. -/
theorem outcome_trailing_nil {control : Control}
    (hcontrol : control = .lineEnd ∨ control = .resting .line) (h : Trailing text []) :
    (⟨statements, [], control⟩ : State).outcome text = some statements := by
  have hstay : ∀ c, isSpace c = true →
      (⟨statements, [], control⟩ : State).next c = some ⟨statements, [], control⟩ := by
    intro c hc
    obtain rfl | rfl := hcontrol
    · simp [State.next, endLine, hc, goto]
    · simp [State.next, State.rest, hc, goto]
  cases h with
  | blanks hblanks =>
      rw [outcome_blanks hblanks hstay]
      obtain rfl | rfl := hcontrol <;> rfl
  | comment hblanks hwords =>
      calc (⟨statements, [], control⟩ : State).outcome text
          = (⟨statements, [], control⟩ : State).outcome ('#' :: _) := outcome_blanks hblanks hstay
        _ = (⟨statements, [], .comment .line⟩ : State).outcome _ := by
            obtain rfl | rfl := hcontrol <;> exact outcome_of_next rfl
        _ = (⟨statements, [], .comment .line⟩ : State).outcome [] := outcome_words hwords
        _ = some statements := rfl

end State

end PluginDescriptor.Toml
