import PluginDescriptor.Proofs.Toml.Entries
import PluginDescriptor.Proofs.Toml.Keys

/-!
# Values in a document

`ValueText depth value` says how a value is written whose arrays and inline tables lie at most
`depth` deep inside each other. The main statement is `outcome_value`: such a text is read as the
value, and the reader goes on behind it as if the value had been delivered there. An unquoted value
and an empty string are in fact delivered only with the next character that is no part of them
(`Pending`), so a value is always looked at together with what closes it.
-/

namespace PluginDescriptor.Toml

/-! ## The grammar -/

/-- An assignment: a key, an equals sign and a value. -/
inductive AssignmentText (spells : Value → List Char → List Char → Prop) (key : Key)
    (value : Value) : List Char → List Char → Prop where
  | equals {text later start rest} : KeyText key.tables key.name text ('=' :: later) →
      Blanks later start → spells value start rest → AssignmentText spells key value text rest

/-- `Listed close item items text rest` says that `text` starts with the items, separated by commas
and perhaps with one more comma behind the last, and the bracket `close`. -/
inductive Listed {α : Type} (close : Char) (item : α → List Char → List Char → Prop) :
    List α → List Char → List Char → Prop where
  | close {text rest} : Gap text (close :: rest) → Listed close item [] text rest
  | last {first text start next rest} : Gap text start → item first start next →
      Gap next (close :: rest) → Listed close item [first] text rest
  | more {first items text start next later rest} : Gap text start → item first start next →
      Gap next (',' :: later) → Listed close item items later rest →
      Listed close item (first :: items) text rest

/-- `ScalarText value text rest` says that `text` starts with a basic string, an integer or a
boolean. -/
inductive ScalarText : Value → List Char → List Char → Prop where
  | string {string text rest} : BasicText string text rest → ScalarText (.string string) text rest
  | number {number digits rest} : NumberText number digits → number < 2 ^ 63 →
      ScalarText (.integer number) (digits ++ rest) rest
  | yes (rest) : ScalarText (.boolean true) ('t' :: 'r' :: 'u' :: 'e' :: rest) rest
  | no (rest) : ScalarText (.boolean false) ('f' :: 'a' :: 'l' :: 's' :: 'e' :: rest) rest

/-- `NestedText part value text rest` says that `text` starts with a single value, or with an array
or an inline table of parts. The entries of an inline table may be written in any order. -/
inductive NestedText (part : Value → List Char → List Char → Prop) :
    Value → List Char → List Char → Prop where
  | scalar {value text rest} : ScalarText value text rest → NestedText part value text rest
  | array {elements text rest} : Listed ']' part elements text rest →
      NestedText part (.array elements) ('[' :: text) rest
  | table {written entries text rest} :
      Listed '\x7d' (fun entry => AssignmentText part ⟨[], entry.1⟩ entry.2) written text rest →
      written.Perm entries → Ordered entries →
      NestedText part (.table entries) ('\x7b' :: text) rest

/-- `ValueText depth value text rest` says that `text` starts with a value whose arrays and inline
tables lie at most `depth` deep inside each other. -/
def ValueText : Nat → Value → List Char → List Char → Prop
  | 0 => ScalarText
  | depth + 1 => NestedText (ValueText depth)

namespace State

/-- `Pending state delivered` says that in `state` a value has been read, and the reader goes on as
in `delivered` once it comes to something that is no part of the value. -/
inductive Pending : State → State → Prop where
  | done {state delivered : State} {value} : state.deliver value = some delivered →
      Pending delivered delivered
  | bare {statements frames text value delivered} : Scalar.ofText? text = some value →
      (⟨statements, frames, .bare text⟩ : State).deliver value = some delivered →
      Pending ⟨statements, frames, .bare text⟩ delivered
  | bareGap {statements frames text blanks value delivered} : Scalar.ofText? text = some value →
      (⟨statements, frames, .bareGap text blanks⟩ : State).deliver value = some delivered →
      Pending ⟨statements, frames, .bareGap text blanks⟩ delivered
  | emptyString {statements frames delivered} :
      (⟨statements, frames, .emptyQuote .basic⟩ : State).deliver (.string "") = some delivered →
      Pending ⟨statements, frames, .emptyQuote .basic⟩ delivered

variable {statements : List Statement} {frames : List Frame} {control : Control}
  {state delivered : State} {value : Value} {text rest : List Char}

/-! ## Delivered values -/

/-- Where a value goes does not depend on how it was read. -/
theorem deliver_control (statements : List Statement) (frames : List Frame)
    (first second : Control) (value : Value) :
    (⟨statements, frames, first⟩ : State).deliver value =
      (⟨statements, frames, second⟩ : State).deliver value := by
  cases frames with
  | nil => rfl
  | cons frame frames => cases frame <;> rfl

/-- A delivered value is followed by the end of the line, or by more of the array or the inline
table it belongs to. -/
theorem control_of_deliver (h : state.deliver value = some delivered) :
    delivered.control = .lineEnd ∨ ∃ place, delivered.control = .resting place := by
  unfold deliver at h
  split at h
  · cases h
    exact Or.inl rfl
  · cases h
    exact Or.inr ⟨_, rfl⟩
  · split at h
    · cases h
      exact Or.inr ⟨_, rfl⟩
    · cases h
  · cases h

/-- Behind a value, the reader goes on where it was delivered. -/
theorem after_value_of_deliver (h : state.deliver value = some delivered) (c : Char) :
    delivered.afterValue c = delivered.next c := by
  obtain hcontrol | ⟨place, hcontrol⟩ := control_of_deliver h <;>
    simp [afterValue, State.next, hcontrol]

/-- Behind a value, blanks are skipped. -/
theorem next_blank_of_deliver (h : state.deliver value = some delivered) {c : Char} (hc : Blank c) :
    delivered.next c = some delivered := by
  obtain ⟨_, _, _⟩ := delivered
  obtain hcontrol | ⟨place, hcontrol⟩ := control_of_deliver h <;> cases hcontrol <;>
    simp [State.next, endLine, State.rest, hc.is_space, goto]

/-- A document may end behind a value if the line may. -/
theorem finish_of_deliver (h : state.deliver value = some delivered) {other : State}
    (hnext : other.next '\n' = delivered.next '\n')
    (hcontrol : ∀ place, other.control ≠ .carriageReturn place) :
    other.finish = delivered.finish := by
  unfold finish
  rw [hnext]
  have hdelivered := control_of_deliver h
  cases hother : other.control with
  | carriageReturn place => exact absurd hother (hcontrol place)
  | _ =>
      obtain hdelivered | ⟨place, hdelivered⟩ := hdelivered
      · rw [hdelivered]
      · rw [hdelivered]

/-- A pending value is one that can be delivered. -/
theorem Pending.delivers (h : Pending state delivered) :
    ∃ (before : State) (value : Value), before.deliver value = some delivered := by
  cases h with
  | done hdeliver => exact ⟨_, _, hdeliver⟩
  | bare _ hdeliver => exact ⟨_, _, hdeliver⟩
  | bareGap _ hdeliver => exact ⟨_, _, hdeliver⟩
  | emptyString hdeliver => exact ⟨_, _, hdeliver⟩

/-- The value is delivered at a character that certainly is no part of it. -/
theorem Pending.next_stop (h : Pending state delivered) {c : Char} (hc : Stop c) :
    state.next c = delivered.next c := by
  cases h with
  | done => rfl
  | bare hvalue hdeliver =>
      rw [← after_value_of_deliver hdeliver]
      cases hc <;> simp [State.next, isValueChar, valueEnds, isSpace, endBare, deliverThen, hvalue,
        hdeliver]
  | bareGap hvalue hdeliver =>
      rw [← after_value_of_deliver hdeliver]
      cases hc <;> simp [State.next, isValueStart, isValueChar, valueEnds, isSpace, endBare,
        deliverThen, hvalue, hdeliver]
  | emptyString hdeliver =>
      rw [← after_value_of_deliver hdeliver]
      cases hc <;> simp [State.next, Quote.mark, deliverThen, hdeliver]

/-- The value is still pending, or has been delivered, behind a blank. -/
theorem Pending.next_blank (h : Pending state delivered) {c : Char} (hc : Blank c) :
    ∃ next, state.next c = some next ∧ Pending next delivered := by
  cases h with
  | done hdeliver => exact ⟨_, next_blank_of_deliver hdeliver hc, .done hdeliver⟩
  | @bare statements frames text _ _ hvalue hdeliver =>
      refine ⟨⟨statements, frames, .bareGap text (String.singleton c)⟩, ?_, .bareGap hvalue ?_⟩
      · cases hc <;> rfl
      · rw [deliver_control, hdeliver]
  | @bareGap statements frames text blanks _ _ hvalue hdeliver =>
      refine ⟨⟨statements, frames, .bareGap text (blanks.push c)⟩, ?_, .bareGap hvalue ?_⟩
      · cases hc <;> rfl
      · rw [deliver_control, hdeliver]
  | emptyString hdeliver =>
      refine ⟨delivered, ?_, .done hdeliver⟩
      rw [← next_blank_of_deliver hdeliver hc, ← after_value_of_deliver hdeliver]
      cases hc <;> simp [State.next, Quote.mark, deliverThen, hdeliver]

/-- A document may end behind a pending value if it may end where it is delivered. -/
theorem Pending.finish (h : Pending state delivered) : state.finish = delivered.finish := by
  have hnext := h.next_stop .lineFeed
  cases h with
  | done => rfl
  | bare _ hdeliver => exact finish_of_deliver hdeliver hnext nofun
  | bareGap _ hdeliver => exact finish_of_deliver hdeliver hnext nofun
  | emptyString hdeliver => exact finish_of_deliver hdeliver hnext nofun

/-- A pending value is delivered, whatever closes it. -/
theorem Pending.outcome (h : Pending state delivered) (hcloses : Closes rest) :
    state.outcome rest = delivered.outcome rest := by
  obtain ⟨after, hblanks, hstop⟩ := hcloses
  induction hblanks generalizing state with
  | none after =>
      cases after with
      | nil => exact h.finish
      | cons c after => exact outcome_of_next_eq (h.next_stop (hstop c rfl))
  | more hblank _ ih =>
      obtain ⟨next, hnext, hpending⟩ := h.next_blank hblank
      obtain ⟨_, _, hdeliver⟩ := h.delivers
      rw [outcome_of_next hnext, ih hpending hstop,
        outcome_of_next (next_blank_of_deliver hdeliver hblank)]

/-! ## Single values -/

/-- The points where a value starts. -/
inductive AwaitsValue : Control → Prop where
  | line : AwaitsValue .valueStart
  | element : AwaitsValue (.resting .element)
  | entry : AwaitsValue (.resting .entryValue)

/-- An unquoted value is read from its first character on. -/
theorem next_of_value_start (h : AwaitsValue control) {c : Char} (hc : isValueStart c = true) :
    (⟨statements, frames, control⟩ : State).next c =
      some ⟨statements, frames, .bare (String.singleton c)⟩ := by
  simp only [isValueStart, isValueChar, valueEnds, Bool.and_eq_true, Bool.not_eq_true',
    List.contains_eq_mem, decide_eq_false_iff_not, List.mem_cons, not_or, decide_eq_true_eq] at hc
  cases h <;> simp [State.next, State.rest, startValue, isSpace, isValueStart, isValueChar,
    valueEnds, hc, goto]

/-- The characters of an unquoted value are collected. -/
theorem outcome_bare_value {collected : String} {chars : List Char}
    (h : ∀ c ∈ chars, isValueChar c = true) :
    (⟨statements, frames, .bare collected⟩ : State).outcome (chars ++ rest) =
      (⟨statements, frames, .bare (collected ++ String.ofList chars)⟩ : State).outcome rest := by
  induction chars generalizing collected with
  | nil => simp
  | cons c chars ih =>
      obtain ⟨hc, hlater⟩ := List.forall_mem_cons.mp h
      have hnext : (⟨statements, frames, .bare collected⟩ : State).next c =
          some ⟨statements, frames, .bare (collected.push c)⟩ := by
        simp [State.next, hc, goto]
      rw [List.cons_append, outcome_of_next hnext, ih hlater, push_append_of_list]

/-- An unquoted value is delivered. -/
theorem outcome_unquoted {first : Char} {chars : List Char} (hawaits : AwaitsValue control)
    (hfirst : isValueStart first = true) (hchars : ∀ c ∈ chars, isValueChar c = true)
    (hvalue : Scalar.ofText? (String.ofList (first :: chars)) = some value)
    (hdeliver : (⟨statements, frames, control⟩ : State).deliver value = some delivered)
    (hcloses : Closes rest) :
    (⟨statements, frames, control⟩ : State).outcome (first :: chars ++ rest) =
      delivered.outcome rest := by
  have hcollected :
      String.singleton first ++ String.ofList chars = String.ofList (first :: chars) := by
    apply String.toList_inj.mp
    simp
  rw [List.cons_append, outcome_of_next (next_of_value_start hawaits hfirst),
    outcome_bare_value hchars, hcollected]
  exact (Pending.bare hvalue (by rw [deliver_control, hdeliver])).outcome hcloses

/-- A basic string is delivered. -/
theorem outcome_string {string : String} (h : BasicText string text rest)
    (hawaits : AwaitsValue control)
    (hdeliver : (⟨statements, frames, control⟩ : State).deliver (.string string) = some delivered)
    (hcloses : Closes rest) :
    (⟨statements, frames, control⟩ : State).outcome text = delivered.outcome rest := by
  cases h with
  | quoted hchars =>
      have hopen : (⟨statements, frames, control⟩ : State).next '"' =
          some ⟨statements, frames, .openQuote .basic⟩ := by
        cases hawaits <;> rfl
      rw [outcome_of_next hopen]
      generalize hstring : string.toList = chars at hchars
      obtain rfl : string = String.ofList chars := by rw [← hstring, String.ofList_toList]
      cases hchars with
      | close =>
          rw [outcome_of_next rfl]
          exact (Pending.emptyString (by rw [deliver_control]; exact hdeliver)).outcome hcloses
      | more hchar hlater =>
          -- The first character tells the string from an empty one.
          obtain ⟨first, later, rfl, hmark⟩ := hchar.head
          have hfirst : (⟨statements, frames, .openQuote .basic⟩ : State).next first =
              (⟨statements, frames, .quoted .basic .value ""⟩ : State).next first := by
            have hquote : first ≠ Quote.basic.mark := hmark
            simp only [State.next, if_neg hquote]
            rfl
          rw [outcome_of_next_eq hfirst, outcome_characters (.more hchar hlater)]
          refine outcome_of_next ?_
          rw [← hdeliver, String.empty_append]
          exact deliver_control _ _ _ _ _

/-- A single value is delivered. -/
theorem outcome_scalar (h : ScalarText value text rest) (hawaits : AwaitsValue control)
    (hdeliver : (⟨statements, frames, control⟩ : State).deliver value = some delivered)
    (hcloses : Closes rest) :
    (⟨statements, frames, control⟩ : State).outcome text = delivered.outcome rest := by
  cases h with
  | string hstring => exact outcome_string hstring hawaits hdeliver hcloses
  | number hnumber hfits =>
      obtain ⟨first, chars, rfl, hfirst⟩ := hnumber.head
      obtain ⟨hvalue, hchars⟩ := List.forall_mem_cons.mp hnumber.is_value_char
      have hstart : isValueStart first = true := by
        have hne : ∀ mark : Char, ¬ (mark.isDigit = true ∨ mark = '+' ∨ mark = '-') →
            first ≠ mark := by
          rintro mark hmark rfl
          exact hmark hfirst
        simp [isValueStart, hvalue, Quote.mark, hne '"' (by decide), hne '\x27' (by decide)]
      exact outcome_unquoted hawaits hstart hchars (of_text_number hnumber hfits) hdeliver hcloses
  | yes =>
      have hchars : ∀ c ∈ ['r', 'u', 'e'], isValueChar c = true := by
        simp [isValueChar, valueEnds]
      exact outcome_unquoted hawaits rfl hchars rfl hdeliver hcloses
  | no =>
      have hchars : ∀ c ∈ ['a', 'l', 's', 'e'], isValueChar c = true := by
        simp [isValueChar, valueEnds]
      exact outcome_unquoted hawaits rfl hchars rfl hdeliver hcloses

/-! ## Arrays and inline tables -/

/-- Items in brackets are gathered one after the other, up to the closing bracket. Between them the
frames are `opened`, with what has been gathered so far. -/
theorem outcome_listed {α β : Type} {close : Char} {item : α → List Char → List Char → Prop}
    (opened : β → List Frame) {before behind : Place} {add : β → α → Option β} (hclose : Stop close)
    (hitem : ∀ {held next : β} {first : α} {text rest : List Char}, add held first = some next →
      item first text rest → Closes rest →
      (⟨statements, opened held, .resting before⟩ : State).outcome text =
        (⟨statements, opened next, .resting behind⟩ : State).outcome rest)
    (hcomma : ∀ held, (⟨statements, opened held, .resting behind⟩ : State).next ',' =
      some ⟨statements, opened held, .resting before⟩)
    {held final : β} {items : List α} (h : Listed close item items text rest)
    (hfinal : items.foldlM add held = some final)
    (hbefore : (⟨statements, opened final, .resting before⟩ : State).next close = some delivered)
    (hbehind : (⟨statements, opened final, .resting behind⟩ : State).next close = some delivered) :
    (⟨statements, opened held, .resting before⟩ : State).outcome text = delivered.outcome rest := by
  induction h generalizing held with
  | close hgap =>
      cases hfinal
      rw [outcome_gap hgap, outcome_of_next hbefore]
  | last hgap hfirst hafter =>
      rw [List.foldlM_cons] at hfinal
      obtain ⟨next, hadd, hnil⟩ := Option.bind_eq_some_iff.mp hfinal
      cases hnil
      rw [outcome_gap hgap, hitem hadd hfirst (hafter.closes (closes_of_stop hclose)),
        outcome_gap hafter, outcome_of_next hbehind]
  | more hgap hfirst hafter _ ih =>
      rw [List.foldlM_cons] at hfinal
      obtain ⟨next, hadd, hlater⟩ := Option.bind_eq_some_iff.mp hfinal
      rw [outcome_gap hgap, hitem hadd hfirst (hafter.closes (closes_of_stop .comma)),
        outcome_gap hafter, outcome_of_next (hcomma next), ih hlater]

/-- What is read as a value wherever there is room for `depth` more open frames. -/
def ReadsValues (part : Value → List Char → List Char → Prop) (depth : Nat) : Prop :=
  ∀ {statements frames control value text rest delivered}, part value text rest →
    AwaitsValue control → frames.length + depth ≤ deepestNesting + 1 →
    (⟨statements, frames, control⟩ : State).deliver value = some delivered → Closes rest →
    (⟨statements, frames, control⟩ : State).outcome text = delivered.outcome rest

variable {part : Value → List Char → List Char → Prop} {depth : Nat}

/-- The elements of an array are gathered in their order. -/
theorem gathered (held elements : List Value) :
    elements.foldlM (fun held element => some (held ++ [element])) held =
      some (held ++ elements) := by
  induction elements generalizing held with
  | nil => simp
  | cons element elements ih =>
      rw [List.foldlM_cons, Option.bind_eq_bind, Option.bind_some, ih, List.append_assoc,
        List.singleton_append]

/-- An array is delivered if its elements are. -/
theorem outcome_array (hpart : ReadsValues part depth) {elements : List Value}
    (h : Listed ']' part elements text rest) (hawaits : AwaitsValue control)
    (hroom : frames.length + (depth + 1) ≤ deepestNesting + 1)
    (hdeliver : (⟨statements, frames, control⟩ : State).deliver (.array elements) =
      some delivered) :
    (⟨statements, frames, control⟩ : State).outcome ('[' :: text) = delivered.outcome rest := by
  have hopen : (⟨statements, frames, control⟩ : State).next '[' =
      some ⟨statements, .array [] :: frames, .resting .element⟩ := by
    have hlength : frames.length ≤ deepestNesting := by omega
    cases hawaits <;> simp [State.next, State.rest, startValue, isSpace, Quote.mark, openFrame,
      hlength, goto]
  have hclose : ∀ place, place = .element ∨ place = .afterElement →
      (⟨statements, .array ([] ++ elements) :: frames, .resting place⟩ : State).next ']' =
        some delivered := by
    rintro place (rfl | rfl) <;> exact (deliver_control _ _ _ _ _).trans hdeliver
  rw [outcome_of_next hopen]
  refine outcome_listed (fun held => .array held :: frames) .bracket ?_ ?_ h (gathered [] elements)
    (hclose _ (Or.inl rfl)) (hclose _ (Or.inr rfl))
  · intro held next first text rest hadd hfirst hcloses
    cases hadd
    exact hpart hfirst .element (by simp; omega) rfl hcloses
  · intro held
    rfl

/-- An inline table is delivered if the values of its entries are. -/
theorem outcome_table (hpart : ReadsValues part depth) {written entries : List (String × Value)}
    (h : Listed '\x7d' (fun entry => AssignmentText part ⟨[], entry.1⟩ entry.2) written text rest)
    (hperm : written.Perm entries) (hordered : Ordered entries) (hawaits : AwaitsValue control)
    (hroom : frames.length + (depth + 1) ≤ deepestNesting + 1)
    (hdeliver : (⟨statements, frames, control⟩ : State).deliver (.table entries) = some delivered) :
    (⟨statements, frames, control⟩ : State).outcome ('\x7b' :: text) = delivered.outcome rest := by
  obtain ⟨final, hfinal, rfl⟩ := Entries.entries_value_of_assigned hperm hordered
  have hopen : (⟨statements, frames, control⟩ : State).next '\x7b' =
      some ⟨statements, .table [] :: frames, .resting .entry⟩ := by
    have hlength : frames.length ≤ deepestNesting := by omega
    cases hawaits <;> simp [State.next, State.rest, startValue, isSpace, Quote.mark, openFrame,
      hlength, goto]
  have hclose : ∀ place, place = .entry ∨ place = .afterEntry →
      (⟨statements, .table final :: frames, .resting place⟩ : State).next '\x7d' =
        some delivered := by
    rintro place (rfl | rfl) <;> exact (deliver_control _ _ _ _ _).trans hdeliver
  rw [outcome_of_next hopen]
  refine outcome_listed (fun held => .table held :: frames) .brace ?_ ?_ h hfinal
    (hclose _ (Or.inl rfl)) (hclose _ (Or.inr rfl))
  · intro held next entry text rest hadd hentry hcloses
    cases hentry with
    | @equals later start _ hkey hblanks hvalue =>
        have hshort : ([] : List String).length + ([] : List String).length < longestKey := by
          decide
        have hassign : held.assign [] entry.1 entry.2 = some next := hadd
        have hstay : ∀ c, isSpace c = true →
            (⟨statements, .entry held ⟨[], entry.1⟩ :: frames, .resting .entryValue⟩ :
              State).next c =
              some ⟨statements, .entry held ⟨[], entry.1⟩ :: frames, .resting .entryValue⟩ := by
          intro c hc
          simp [State.next, State.rest, hc, goto]
        calc (⟨statements, .table held :: frames, .resting .entry⟩ : State).outcome text
            = (⟨statements, .table held :: frames, .keyEnd .entry ⟨[], entry.1⟩⟩ : State).outcome
                ('=' :: later) :=
              outcome_key hkey (by decide) hshort (awaits_name_of_entry _ _)
          _ = (⟨statements, .entry held ⟨[], entry.1⟩ :: frames, .resting .entryValue⟩ :
                State).outcome later := outcome_of_next rfl
          _ = (⟨statements, .entry held ⟨[], entry.1⟩ :: frames, .resting .entryValue⟩ :
                State).outcome start := outcome_blanks hblanks hstay
          _ = _ := hpart hvalue .entry (by simp; omega) (by simp [deliver, hassign, goto]) hcloses
  · intro held
    rfl

/-- A value is delivered, and the reader goes on behind it. -/
theorem outcome_value (depth : Nat) : ReadsValues (ValueText depth) depth := by
  induction depth with
  | zero =>
      intro statements frames control value text rest delivered h hawaits _ hdeliver hcloses
      exact outcome_scalar h hawaits hdeliver hcloses
  | succ depth ih =>
      intro statements frames control value text rest delivered h hawaits hroom hdeliver hcloses
      cases h with
      | scalar hscalar => exact outcome_scalar hscalar hawaits hdeliver hcloses
      | array hlisted => exact outcome_array ih hlisted hawaits hroom hdeliver
      | table hlisted hperm hordered =>
          exact outcome_table ih hlisted hperm hordered hawaits hroom hdeliver

end State

end PluginDescriptor.Toml
