import PluginDescriptor.Proofs.Toml.Values

/-!
# The lines of a document

`DocumentText statements text` says how statements are written in a document, one on a line, with
white space, empty lines and comments wherever TOML allows them. The main statement is
`statements_of_document`: from such a text, exactly the statements are read.
-/

namespace PluginDescriptor.Toml

/-! ## The grammar -/

/-- `StatementText statement text rest` says that `text` starts with an assignment or with the
header of a table in an array of tables. -/
inductive StatementText : Statement → List Char → List Char → Prop where
  | assignment {key value text rest} : key.tables.length < longestKey →
      AssignmentText (ValueText deepestNesting) key value text rest →
      StatementText (.assignment key value) text rest
  | arrayTable {key text start rest} : key.tables.length < longestKey → Blanks text start →
      KeyText key.tables key.name start (']' :: ']' :: rest) →
      StatementText (.arrayTable key) ('[' :: '[' :: text) rest

/-- `DocumentText statements text` says that `text` consists of the statements, each on a line of
its own. The last line need not have a line break. -/
inductive DocumentText : List Statement → List Char → Prop where
  | none {text line} : Gap text line → Trailing line [] → DocumentText [] text
  | last {statement text start line} : Gap text start → StatementText statement start line →
      Trailing line [] → DocumentText [statement] text
  | more {statement statements text start line next later} : Gap text start →
      StatementText statement start line → Trailing line next → LineBreak next later →
      DocumentText statements later → DocumentText (statement :: statements) text

namespace State

variable {before statements : List Statement} {statement : Statement} {text rest : List Char}

/-- A statement is read up to the end of its line. -/
theorem outcome_statement (h : StatementText statement text rest) (hcloses : Closes rest) :
    (⟨before, [], .resting .line⟩ : State).outcome text =
      (⟨before ++ [statement], [], .lineEnd⟩ : State).outcome rest := by
  cases h with
  | @assignment key value _ _ hshort hassignment =>
      cases hassignment with
      | @equals later start _ hkey hblanks hvalue =>
          have hroom : [Frame.assignment key].length + deepestNesting ≤ deepestNesting + 1 :=
            (Nat.add_comm _ _).le
          have hstay : ∀ c, isSpace c = true →
              (⟨before, [.assignment key], .valueStart⟩ : State).next c =
                some ⟨before, [.assignment key], .valueStart⟩ := by
            intro c hc
            simp [State.next, hc]
          calc (⟨before, [], .resting .line⟩ : State).outcome text
              = (⟨before, [], .keyEnd .assignment key⟩ : State).outcome ('=' :: later) :=
                outcome_key hkey (by decide) (by simpa using hshort) (awaits_name_of_line _ _)
            _ = (⟨before, [.assignment key], .valueStart⟩ : State).outcome later :=
                outcome_of_next rfl
            _ = (⟨before, [.assignment key], .valueStart⟩ : State).outcome start :=
                outcome_blanks hblanks hstay
            _ = _ := outcome_value deepestNesting hvalue .line hroom rfl hcloses
  | @arrayTable key inner start _ hshort hblanks hkey =>
      have hstay : ∀ c, isSpace c = true →
          (⟨before, [], .keyStart .arrayHeader []⟩ : State).next c =
            some ⟨before, [], .keyStart .arrayHeader []⟩ := by
        intro c hc
        simp [State.next, hc]
      calc (⟨before, [], .resting .line⟩ : State).outcome ('[' :: '[' :: inner)
          = (⟨before, [], .bracket⟩ : State).outcome ('[' :: inner) := outcome_of_next rfl
        _ = (⟨before, [], .keyStart .arrayHeader []⟩ : State).outcome inner := outcome_of_next rfl
        _ = (⟨before, [], .keyStart .arrayHeader []⟩ : State).outcome start :=
            outcome_blanks hblanks hstay
        _ = (⟨before, [], .keyEnd .arrayHeader key⟩ : State).outcome (']' :: ']' :: rest) :=
            outcome_key hkey (by decide) (by simpa using hshort) (awaits_name_of_key_start _ _ _ _)
        _ = (⟨before, [], .secondBracket key⟩ : State).outcome (']' :: rest) := outcome_of_next rfl
        _ = _ := outcome_of_next rfl

/-- All statements of a document are read. -/
theorem outcome_document (h : DocumentText statements text) :
    (⟨before, [], .resting .line⟩ : State).outcome text = some (before ++ statements) := by
  induction h generalizing before with
  | none hgap htrailing =>
      rw [outcome_gap hgap, outcome_trailing_nil (Or.inr rfl) htrailing, List.append_nil]
  | last hgap hstatement htrailing =>
      rw [outcome_gap hgap, outcome_statement hstatement (htrailing.closes closes_nil),
        outcome_trailing_nil (Or.inl rfl) htrailing]
  | more hgap hstatement htrailing hbreak _ ih =>
      rw [outcome_gap hgap, outcome_statement hstatement (htrailing.closes hbreak.closes),
        outcome_trailing htrailing hbreak, ih, List.append_assoc, List.singleton_append]

end State

/-- The statements that are written in a document are read from it, with a byte-order mark in front
of it or without one. -/
theorem statements_of_document {statements : List Statement} {text : String} {body : List Char}
    (h : DocumentText statements body)
    (htext : text.toList = body ∨ text.toList = '\ufeff' :: body) :
    statements? text = some statements := by
  have hbody : ({} : State).outcome body = some statements := State.outcome_document h
  have hmark : withoutByteOrderMark text.toList = body := by
    obtain hplain | hmarked := htext
    · rw [hplain]
      unfold withoutByteOrderMark
      split
      case h_1 rest =>
        -- A mark that is part of the document would not be read.
        have hnone : ({} : State).outcome ('\ufeff' :: rest) = none := by
          rw [State.outcome_cons]
          rfl
        rw [hnone] at hbody
        cases hbody
      case h_2 => rfl
    · rw [hmarked]
      rfl
  rw [statements?, hmark]
  exact hbody

end PluginDescriptor.Toml
