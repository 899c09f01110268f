import Mathlib.Data.List.Forall2
import Mathlib.Data.List.TakeDrop
import Mathlib.Data.List.TakeWhile
import PluginDescriptor.CommandLine

/-!
# Order and spelling of arguments

A `Request` is what a caller wants of the program, and `Spells` lists the ways to say each part of
it. A command line may put the parts into any order that leaves the manifests in theirs. While it is
read the draft stays behind by what is pending, so the invariant is about the draft once that is
settled: it `Holds` the parts that have been read. `add_all_part` is the step, one case for each
spelling, `add_all_spelled` the whole reading, and `parse_of_spelled` the main statement.
-/

namespace PluginDescriptor.CommandLine

/-! ## What is said and how -/

/-- A value that cannot be mistaken: it is not empty and starts with neither `-` nor `=`. -/
def Plain (value : String) : Prop :=
  ∃ first rest, value.toList = first :: rest ∧ first ≠ '-' ∧ first ≠ '='

/-- One part of what is asked for. -/
inductive Item where
  | manifest (path : String)
  | setting (setting : Setting) (value : String)
  | flag (flag : Flag)
deriving DecidableEq

namespace Item

/-- The manifest that is named, if one is. -/
def manifest? : Item → Option String
  | manifest path => some path
  | _ => none

/-- The option that is given, if one is. -/
def switch? : Item → Option Switch
  | manifest _ => none
  | setting chosen _ => some (.setting chosen)
  | flag raised => some (.flag raised)

/-- What is said by an item cannot be mistaken. -/
def Plain : Item → Prop
  | manifest path => CommandLine.Plain path
  | setting _ value => CommandLine.Plain value
  | flag _ => True

end Item

/-- `Spells item arguments` says that an item can be given by these arguments. -/
inductive Spells : Item → List String → Prop where
  | manifest (path : String) : Spells (.manifest path) [path]
  | longApart (setting : Setting) (value : String) :
      Spells (.setting setting value) ["--" ++ setting.name, value]
  | longJoined (setting : Setting) (value : String) :
      Spells (.setting setting value) ["--" ++ setting.name ++ "=" ++ value]
  | shortApart (setting : Setting) (value : String) (letter : Char) :
      (Switch.setting setting).letter? = some letter →
      Spells (.setting setting value) ["-" ++ String.singleton letter, value]
  | shortJoined (setting : Setting) (value : String) (letter : Char) :
      (Switch.setting setting).letter? = some letter →
      Spells (.setting setting value) ["-" ++ String.singleton letter ++ value]
  | shortEquals (setting : Setting) (value : String) (letter : Char) :
      (Switch.setting setting).letter? = some letter →
      Spells (.setting setting value) ["-" ++ String.singleton letter ++ "=" ++ value]
  | longFlag (flag : Flag) : Spells (.flag flag) ["--" ++ flag.name]
  | shortFlag (flag : Flag) (letter : Char) : (Switch.flag flag).letter? = some letter →
      Spells (.flag flag) ["-" ++ String.singleton letter]

/-- What a caller can ask for: some manifests, an output directory and what else is chosen, in
values that cannot be mistaken. -/
structure Request where
  manifests : List String
  outputDirectory : String
  encoding : Option String
  generator : Option String
  noVersion : Bool
  verbose : Bool
  some_manifest : manifests ≠ []
  plain_manifest : ∀ path ∈ manifests, Plain path
  plain_output_directory : Plain outputDirectory
  plain_encoding : ∀ value ∈ encoding, Plain value
  plain_generator : ∀ value ∈ generator, Plain value

namespace Request

/-- The value that is chosen for an option. -/
def value? (request : Request) : Setting → Option String
  | .outputDirectory => some request.outputDirectory
  | .encoding => request.encoding
  | .generator => request.generator

/-- Whether a flag is chosen. -/
def raised (request : Request) : Flag → Bool
  | .noVersion => request.noVersion
  | .verbose => request.verbose

/-- The options that are chosen. -/
def options (request : Request) : List Item :=
  (Item.setting .outputDirectory request.outputDirectory ::
    (request.encoding.map (Item.setting .encoding)).toList ++
    (request.generator.map (Item.setting .generator)).toList) ++
  ((if request.noVersion then [Item.flag .noVersion] else []) ++
    (if request.verbose then [Item.flag .verbose] else []))

/-- `request.Spelled arguments` says that the arguments name the manifests in their order and give
every chosen option once, anywhere among them and in any spelling. -/
def Spelled (request : Request) (arguments : List String) : Prop :=
  ∃ (items : List Item) (parts : List (List String)),
    items.filterMap Item.manifest? = request.manifests ∧
    (items.filter (·.switch?.isSome)).Perm request.options ∧
    List.Forall₂ Spells items parts ∧ arguments = parts.flatten

end Request

namespace Draft

/-- The value that a draft has for an option. -/
def value? (draft : Draft) : Setting → Option String
  | .outputDirectory => draft.outputDirectory.map Path.text
  | .encoding => draft.encoding
  | .generator => draft.generator

/-- Whether a draft has a flag raised. -/
def raised (draft : Draft) : Flag → Bool
  | .noVersion => draft.noVersion
  | .verbose => draft.verbose

/-- A draft with one more item. -/
def take (draft : Draft) : Item → Draft
  | .manifest path => { draft with manifests := draft.manifests ++ [⟨path⟩] }
  | .setting .outputDirectory value => { draft with outputDirectory := some ⟨value⟩ }
  | .setting .encoding value => { draft with encoding := some value }
  | .setting .generator value => { draft with generator := some value }
  | .flag .noVersion => { draft with noVersion := true }
  | .flag .verbose => { draft with verbose := true }

/-- An item gives no option that a draft has already. -/
def Lacks (draft : Draft) : Item → Prop
  | .manifest _ => True
  | .setting setting _ => draft.value? setting = none
  | .flag flag => draft.raised flag = false

/-- A draft holds what some items say, and nothing else. -/
structure Holds (draft : Draft) (items : List Item) : Prop where
  manifests : draft.manifests = (items.filterMap Item.manifest?).map Path.mk
  value : ∀ setting value, draft.value? setting = some value ↔ .setting setting value ∈ items
  raised : ∀ flag, draft.raised flag = true ↔ .flag flag ∈ items

end Draft

variable {draft ready : Draft} {item : Item} {items : List Item} {setting : Setting} {flag : Flag}
  {switch : Switch} {name value argument : String} {letter : Char} {rest : List String}

/-! ## One argument -/

/-- A plain value is not empty. -/
theorem Plain.ne_empty (h : Plain value) : value ≠ "" := by
  obtain ⟨first, rest, hvalue, _, _⟩ := h
  rintro rfl
  cases hvalue

/-- An argument that can be taken is not `--`, and reading goes on behind it. -/
theorem Draft.add_all_cons {next : Draft} (h : draft.add argument = .ok next) :
    draft.addAll (argument :: rest) = next.addAll rest := by
  have hargument : argument ≠ "--" := by
    rintro rfl
    cases h
  rw [addAll, h]
  exact hargument

/-- A plain argument is a value or a manifest. -/
theorem Draft.add_of_plain (h : Plain value) : draft.add value = draft.addPlain value := by
  obtain ⟨first, rest, hvalue, hhyphen, _⟩ := h
  simp [add, hvalue, hhyphen]

/-- No character of a name without `=` ends it. -/
theorem name_stays (hname : '=' ∉ name.toList) : ∀ c ∈ name.toList, decide (c ≠ '=') = true := by
  intro c hc
  rw [decide_eq_true_eq]
  rintro rfl
  exact hname hc

/-- After two hyphens there is a name. -/
theorem Draft.add_long (hname : '=' ∉ name.toList) :
    draft.add ("--" ++ name) = draft.addLong name none := by
  have hargument : ("--" ++ name).toList = '-' :: '-' :: name.toList := by simp
  rw [add, hargument]
  simp only [List.span_eq_takeWhile_dropWhile]
  rw [List.takeWhile_eq_self_iff.mpr (name_stays hname),
    List.dropWhile_eq_nil_iff.mpr (name_stays hname)]
  simp

/-- The name ends at a `=`, behind which there is a value. -/
theorem Draft.add_long_value (hname : '=' ∉ name.toList) :
    draft.add ("--" ++ name ++ "=" ++ value) = draft.addLong name (some value) := by
  have hargument : ("--" ++ name ++ "=" ++ value).toList =
      '-' :: '-' :: (name.toList ++ '=' :: value.toList) := by simp
  rw [add, hargument]
  simp only [List.span_eq_takeWhile_dropWhile]
  rw [List.takeWhile_append_of_pos (name_stays hname),
    List.dropWhile_append_of_pos (name_stays hname)]
  simp

/-- After one hyphen there are letters. -/
theorem Draft.add_short {tail : List Char} (hletter : letter ≠ '-')
    (hargument : argument.toList = '-' :: letter :: tail) :
    draft.add argument = draft.addLetters (letter :: tail) := by
  simp [add, hargument, hletter]

/-- Every switch is among all. -/
theorem Switch.mem_all (switch : Switch) : switch ∈ Switch.all := by
  cases switch with
  | setting setting => cases setting <;> decide
  | flag flag => cases flag <;> decide
  | inquiry inquiry => cases inquiry <;> decide

/-- A name has no `=` in it and stands for its option. -/
theorem Switch.name_known (switch : Switch) :
    '=' ∉ switch.name.toList ∧ Switch.ofName? switch.name = some switch := by
  have hall : ∀ switch ∈ Switch.all,
      '=' ∉ switch.name.toList ∧ Switch.ofName? switch.name = some switch := by
    decide
  exact hall switch (mem_all switch)

/-- A letter is no hyphen and stands for its option. -/
theorem Switch.letter_known (h : switch.letter? = some letter) :
    letter ≠ '-' ∧ Switch.ofLetter? letter = some switch := by
  cases switch with
  | setting setting => cases setting <;> cases h <;> decide
  | flag flag =>
      cases flag with
      | noVersion => cases h
      | verbose =>
          cases h
          decide
  | inquiry inquiry => cases inquiry <;> cases h <;> decide

/-! ## One option -/

/-- A long name waits for the value of its option. -/
theorem Draft.add_name (draft : Draft) (setting : Setting) :
    draft.add ("--" ++ setting.name) = draft.settle.map fun settled =>
      { settled with pending := .setting setting none } := by
  obtain ⟨hname, hknown⟩ := Switch.name_known (.setting setting)
  show draft.add ("--" ++ (Switch.setting setting).name) = _
  rw [add_long hname]
  unfold addLong
  rw [hknown]

/-- A long name can have its value attached. -/
theorem Draft.add_name_value (draft : Draft) (setting : Setting) (value : String) :
    draft.add ("--" ++ setting.name ++ "=" ++ value) =
      draft.settle.bind (·.store setting value) := by
  obtain ⟨hname, hknown⟩ := Switch.name_known (.setting setting)
  show draft.add ("--" ++ (Switch.setting setting).name ++ "=" ++ value) = _
  rw [add_long_value hname]
  unfold addLong
  rw [hknown]
  rfl

/-- A letter waits for the value of its option. -/
theorem Draft.add_letter (hletter : (Switch.setting setting).letter? = some letter) :
    draft.add ("-" ++ String.singleton letter) = draft.settle.map fun settled =>
      { settled with pending := .setting setting none } := by
  obtain ⟨hhyphen, hknown⟩ := Switch.letter_known hletter
  have hargument : ("-" ++ String.singleton letter).toList = ['-', letter] := by simp
  rw [add_short hhyphen hargument, addLetters, hknown]

/-- A letter can have its value attached, if this does not start with `=`. -/
theorem Draft.add_letter_value (hletter : (Switch.setting setting).letter? = some letter)
    (hvalue : Plain value) :
    draft.add ("-" ++ String.singleton letter ++ value) =
      draft.settle.bind (·.store setting value) := by
  obtain ⟨hhyphen, hknown⟩ := Switch.letter_known hletter
  obtain ⟨first, tail, hchars, _, hequals⟩ := hvalue
  have hargument : ("-" ++ String.singleton letter ++ value).toList =
      '-' :: letter :: first :: tail := by simp [hchars]
  have hback : String.ofList (first :: tail) = value := by rw [← hchars, String.ofList_toList]
  rw [add_short hhyphen hargument, addLetters, hknown]
  simp [hequals, hback, bind]

/-- A letter can have its value attached by `=`. -/
theorem Draft.add_letter_equals (hletter : (Switch.setting setting).letter? = some letter) :
    draft.add ("-" ++ String.singleton letter ++ "=" ++ value) =
      draft.settle.bind (·.store setting value) := by
  obtain ⟨hhyphen, hknown⟩ := Switch.letter_known hletter
  have hargument : ("-" ++ String.singleton letter ++ "=" ++ value).toList =
      '-' :: letter :: '=' :: value.toList := by simp
  rw [add_short hhyphen hargument, addLetters, hknown]
  show draft.settle.bind (·.store setting (String.ofList value.toList)) = _
  rw [String.ofList_toList]

/-- A long name raises its flag. -/
theorem Draft.add_flag_name (draft : Draft) (flag : Flag) :
    draft.add ("--" ++ flag.name) = draft.settle.bind (·.raise flag) := by
  obtain ⟨hname, hknown⟩ := Switch.name_known (.flag flag)
  show draft.add ("--" ++ (Switch.flag flag).name) = _
  rw [add_long hname]
  unfold addLong
  rw [hknown]
  rfl

/-- A letter raises its flag. -/
theorem Draft.add_flag_letter (hletter : (Switch.flag flag).letter? = some letter) :
    draft.add ("-" ++ String.singleton letter) = draft.settle.bind (·.raise flag) := by
  obtain ⟨hhyphen, hknown⟩ := Switch.letter_known hletter
  have hargument : ("-" ++ String.singleton letter).toList = ['-', letter] := by simp
  rw [add_short hhyphen hargument, addLetters, hknown]
  cases draft.settle with
  | error stop => rfl
  | ok settled =>
      dsimp only
      show _ = settled.raise flag
      cases settled.raise flag <;> rfl

/-! ## What is pending -/

/-- Storing a value leaves what is pending alone. -/
theorem Draft.pending_store (h : draft.store setting value = .ok ready) :
    ready.pending = draft.pending := by
  cases setting <;> simp only [store] at h
  case outputDirectory =>
    split at h
    · cases h
    · split at h
      · cases h
      · cases h
        rfl
  all_goals
    split at h
    · cases h
    · cases h
      rfl

/-- Nothing is pending once a draft is settled. -/
theorem Draft.pending_settle (h : draft.settle = .ok ready) : ready.pending = .nothing := by
  unfold settle at h
  dsimp only at h
  split at h
  · cases h
    rfl
  · cases h
  · exact pending_store h
  · split at h
    · cases h
    · cases h
      rfl

/-- A draft is settled if nothing is pending. -/
theorem Draft.settle_of_nothing (h : draft.pending = .nothing) : draft.settle = .ok draft := by
  cases draft
  cases h
  rfl

/-- A value that is pending is stored when the draft is settled. -/
theorem Draft.settle_waiting (h : ready.pending = .nothing) :
    ({ ready with pending := .setting setting (some value) } : Draft).settle =
      ready.store setting value := by
  cases ready
  cases h
  rfl

/-- An item does not touch what is pending. -/
theorem Draft.pending_take (draft : Draft) (item : Item) :
    (draft.take item).pending = draft.pending := by
  cases item with
  | manifest path => rfl
  | setting setting value => cases setting <;> rfl
  | flag flag => cases flag <;> rfl

/-! ## One item -/

/-- A value can be stored for an option that has none. -/
theorem Draft.store_of_lacks (hlacks : draft.Lacks (.setting setting value)) (hvalue : value ≠ "") :
    draft.store setting value = .ok (draft.take (.setting setting value)) := by
  cases setting <;> simp_all [Lacks, value?, store, take]

/-- A flag can be raised that is not. -/
theorem Draft.raise_of_lacks (hlacks : draft.Lacks (.flag flag)) :
    draft.raise flag = .ok (draft.take (.flag flag)) := by
  cases flag <;> simp_all [Lacks, raised, raise, take]

/-- A manifest is put behind the others, also where some are pending. -/
theorem Draft.add_manifest {path : String} (hsettle : draft.settle = .ok ready)
    (hpath : path ≠ "") :
    ∃ next, draft.addManifest path = .ok next ∧
      next.settle = .ok (ready.take (.manifest path)) := by
  have hready := pending_settle hsettle
  -- The manifest is the first of a row, and what was pending before is settled.
  have hfirst (hadd : draft.addManifest path = draft.settle.map fun settled =>
      { settled with pending := .manifests [path] }) :
      ∃ next, draft.addManifest path = .ok next ∧
        next.settle = .ok (ready.take (.manifest path)) := by
    rw [hsettle] at hadd
    refine ⟨_, hadd, ?_⟩
    cases ready
    cases hready
    simp [settle, take, hpath.symm]
  cases hpending : draft.pending with
  | nothing =>
      apply hfirst
      simp [addManifest, hpending]
  | setting setting value =>
      apply hfirst
      simp [addManifest, hpending]
  | manifests paths =>
      refine ⟨{ draft with pending := .manifests (paths ++ [path]) }, ?_, ?_⟩
      · simp [addManifest, hpending]
      · simp only [settle, hpending] at hsettle
        by_cases hempty : paths.contains "" = true
        · rw [if_pos hempty] at hsettle
          cases hsettle
        · rw [if_neg hempty] at hsettle
          cases hsettle
          simp_all [settle, take]

/-- A plain argument names a manifest if no value is waited for. -/
theorem Draft.add_plain_manifest {path : String} (hsettle : draft.settle = .ok ready) :
    draft.addPlain path = draft.addManifest path := by
  unfold addPlain
  match hpending : draft.pending with
  | .nothing => rfl
  | .manifests paths => rfl
  | .setting setting (some value) => rfl
  | .setting setting none => simp [settle, hpending] at hsettle

/-- An option can be given with its value apart. -/
theorem Draft.add_all_apart (hready : ready.pending = .nothing)
    (hlacks : ready.Lacks (.setting setting value)) (hvalue : Plain value)
    (hadd : draft.add argument = .ok { ready with pending := .setting setting none }) :
    ∃ next : Draft, draft.addAll (argument :: value :: rest) = next.addAll rest ∧
      next.settle = .ok (ready.take (.setting setting value)) := by
  refine ⟨{ ready with pending := .setting setting (some value) }, ?_, ?_⟩
  · rw [add_all_cons hadd]
    apply add_all_cons
    rw [add_of_plain hvalue]
    rfl
  · rw [settle_waiting hready]
    exact store_of_lacks hlacks hvalue.ne_empty

/-- An argument that gives a whole item leaves nothing pending. -/
theorem Draft.add_all_whole (hready : ready.pending = .nothing)
    (hadd : draft.add argument = .ok (ready.take item)) :
    ∃ next : Draft, draft.addAll (argument :: rest) = next.addAll rest ∧
      next.settle = .ok (ready.take item) := by
  refine ⟨ready.take item, add_all_cons hadd, settle_of_nothing ?_⟩
  rw [pending_take, hready]

/-- However an item is spelled, it is taken if its option has not been given before. -/
theorem Draft.add_all_part {arguments : List String} (hspells : Spells item arguments)
    (hplain : item.Plain) (hsettle : draft.settle = .ok ready) (hlacks : ready.Lacks item)
    (rest : List String) :
    ∃ next : Draft, draft.addAll (arguments ++ rest) = next.addAll rest ∧
      next.settle = .ok (ready.take item) := by
  have hready := pending_settle hsettle
  cases hspells with
  | manifest path =>
      have hpath : Plain path := hplain
      obtain ⟨next, hadd, hnext⟩ := add_manifest hsettle hpath.ne_empty
      refine ⟨next, add_all_cons ?_, hnext⟩
      rw [add_of_plain hpath, add_plain_manifest hsettle, hadd]
  | longApart setting value =>
      apply add_all_apart hready hlacks hplain
      rw [add_name, hsettle]
      rfl
  | longJoined setting value =>
      apply add_all_whole hready
      rw [add_name_value, hsettle]
      exact store_of_lacks hlacks (Plain.ne_empty hplain)
  | shortApart setting value letter hletter =>
      apply add_all_apart hready hlacks hplain
      rw [add_letter hletter, hsettle]
      rfl
  | shortJoined setting value letter hletter =>
      apply add_all_whole hready
      rw [add_letter_value hletter hplain, hsettle]
      exact store_of_lacks hlacks (Plain.ne_empty hplain)
  | shortEquals setting value letter hletter =>
      apply add_all_whole hready
      rw [add_letter_equals hletter, hsettle]
      exact store_of_lacks hlacks (Plain.ne_empty hplain)
  | longFlag flag =>
      apply add_all_whole hready
      rw [add_flag_name, hsettle]
      exact raise_of_lacks hlacks
  | shortFlag flag letter hletter =>
      apply add_all_whole hready
      rw [add_flag_letter hletter, hsettle]
      exact raise_of_lacks hlacks

/-! ## All items -/

/-- The manifests of a draft that takes an item. -/
theorem Draft.manifests_take (draft : Draft) (item : Item) :
    (draft.take item).manifests = draft.manifests ++ item.manifest?.toList.map Path.mk := by
  cases item with
  | manifest path => rfl
  | setting setting value => cases setting <;> exact (List.append_nil _).symm
  | flag flag => cases flag <;> exact (List.append_nil _).symm

/-- A value comes from the draft or from the item that it takes. -/
theorem Draft.value_take_iff (hlacks : draft.Lacks item) :
    (draft.take item).value? setting = some value ↔
      draft.value? setting = some value ∨ item = .setting setting value := by
  cases item with
  | manifest path => cases setting <;> simp [take, value?]
  | setting chosen given =>
      by_cases hsame : chosen = setting
      · subst hsame
        have hnone : draft.value? chosen = none := hlacks
        rw [hnone]
        cases chosen <;> simp [take, value?]
      · cases chosen <;> cases setting <;> simp_all [take, value?]
  | flag flag => cases flag <;> cases setting <;> simp [take, value?]

/-- A flag is raised by the draft or by the item that it takes. -/
theorem Draft.raised_take_iff :
    (draft.take item).raised flag = true ↔ draft.raised flag = true ∨ item = .flag flag := by
  cases item with
  | manifest path => cases flag <;> simp [take, raised]
  | setting setting value => cases setting <;> cases flag <;> simp [take, raised]
  | flag given => cases given <;> cases flag <;> simp [take, raised]

/-- A draft that holds some items holds one more when it takes one that it lacks. -/
theorem Draft.Holds.take (h : draft.Holds items) (hlacks : draft.Lacks item) :
    (draft.take item).Holds (items ++ [item]) where
  manifests := by
    rw [manifests_take, h.manifests, List.filterMap_append, List.map_append]
    cases hitem : item.manifest? <;> simp [hitem]
  value := by
    intro setting value
    rw [value_take_iff hlacks, h.value, List.mem_append, List.mem_singleton, eq_comm]
  raised := by
    intro flag
    rw [raised_take_iff, h.raised, List.mem_append, List.mem_singleton, eq_comm]

/-- A draft lacks an item whose option is given by none of the items that it holds. -/
theorem Draft.Holds.lacks (h : draft.Holds items)
    (honce : ∀ switch, item.switch? = some switch → switch ∉ items.filterMap Item.switch?) :
    draft.Lacks item := by
  cases item with
  | manifest path => trivial
  | setting setting value =>
      cases hvalue : draft.value? setting with
      | none => exact hvalue
      | some given =>
          have hgiven := (h.value setting given).mp hvalue
          have hswitch : .setting setting ∈ items.filterMap Item.switch? :=
            List.mem_filterMap.mpr ⟨_, hgiven, rfl⟩
          exact absurd hswitch (honce _ rfl)
  | flag flag =>
      cases hraised : draft.raised flag with
      | false => exact hraised
      | true =>
          have hgiven := (h.raised flag).mp hraised
          have hswitch : .flag flag ∈ items.filterMap Item.switch? :=
            List.mem_filterMap.mpr ⟨_, hgiven, rfl⟩
          exact absurd hswitch (honce _ rfl)

/-- Items that give every option once at most are all taken, however they are spelled. -/
theorem Draft.add_all_spelled {items done : List Item} {parts : List (List String)}
    (hspells : List.Forall₂ Spells items parts) (hplain : ∀ item ∈ items, item.Plain)
    (honce : ((done ++ items).filterMap Item.switch?).Nodup)
    (hsettle : draft.settle = .ok ready) (hholds : ready.Holds done) :
    ∃ last final : Draft, draft.addAll parts.flatten = .ok last ∧ last.settle = .ok final ∧
      final.Holds (done ++ items) := by
  induction hspells generalizing draft ready done with
  | nil => exact ⟨draft, ready, by simp [addAll], hsettle, by simpa using hholds⟩
  | @cons item arguments items parts hspell _ ih =>
      obtain ⟨hitem, hitems⟩ := List.forall_mem_cons.mp hplain
      have hlacks : ready.Lacks item := by
        apply hholds.lacks
        intro switch hswitch hgiven
        rw [List.filterMap_append, List.nodup_append] at honce
        have hagain : switch ∈ (item :: items).filterMap Item.switch? :=
          List.mem_filterMap.mpr ⟨item, List.mem_cons_self, hswitch⟩
        exact honce.2.2 switch hgiven switch hagain rfl
      obtain ⟨next, hadd, hnext⟩ := add_all_part hspell hitem hsettle hlacks parts.flatten
      rw [List.append_cons] at honce
      obtain ⟨last, final, hlast, hfinal, hheld⟩ := ih hitems honce hnext (hholds.take hlacks)
      refine ⟨last, final, ?_, hfinal, ?_⟩
      · rw [List.flatten_cons, hadd, hlast]
      · rw [List.append_cons]
        exact hheld

/-! ## The whole command line -/

variable {request : Request} {arguments : List String}

/-- The options of a request give the values that are chosen. -/
theorem Request.setting_mem_options :
    .setting setting value ∈ request.options ↔ request.value? setting = some value := by
  cases setting with
  | outputDirectory => simpa [options, value?] using eq_comm
  | encoding => simp [options, value?]
  | generator => simp [options, value?]

/-- The options of a request give the flags that are chosen. -/
theorem Request.flag_mem_options : .flag flag ∈ request.options ↔ request.raised flag = true := by
  cases flag <;> simp [options, raised]

/-- A request gives every option once at most. -/
theorem Request.options_once (request : Request) :
    (request.options.filterMap Item.switch?).Nodup := by
  unfold options
  cases request.encoding <;> cases request.generator <;> cases request.noVersion <;>
    cases request.verbose <;> simp [Item.switch?]

/-- The items of a command line that spells a request give every option once at most. -/
theorem once_of_perm (h : (items.filter (·.switch?.isSome)).Perm request.options) :
    (items.filterMap Item.switch?).Nodup := by
  have hfilter : (items.filter (·.switch?.isSome)).filterMap Item.switch? =
      items.filterMap Item.switch? := by
    rw [List.filterMap_filter]
    apply List.filterMap_congr
    intro item _
    cases item.switch? <;> rfl
  rw [← hfilter]
  exact (h.filterMap Item.switch?).nodup_iff.mpr request.options_once

/-- The items of a command line that spells a request cannot be mistaken. -/
theorem plain_of_spelled (hmanifests : items.filterMap Item.manifest? = request.manifests)
    (hoptions : (items.filter (·.switch?.isSome)).Perm request.options) :
    ∀ item ∈ items, item.Plain := by
  intro item hitem
  cases item with
  | manifest path =>
      apply request.plain_manifest
      rw [← hmanifests]
      exact List.mem_filterMap.mpr ⟨_, hitem, rfl⟩
  | setting setting value =>
      have hoption : .setting setting value ∈ request.options :=
        hoptions.subset (List.mem_filter.mpr ⟨hitem, rfl⟩)
      have hvalue := Request.setting_mem_options.mp hoption
      cases setting with
      | outputDirectory =>
          cases hvalue
          exact request.plain_output_directory
      | encoding => exact request.plain_encoding value hvalue
      | generator => exact request.plain_generator value hvalue
  | flag flag => trivial

/-- A draft that holds the items of a request has its manifests, values and flags. -/
theorem Draft.Holds.of_request (h : draft.Holds items)
    (hmanifests : items.filterMap Item.manifest? = request.manifests)
    (hoptions : (items.filter (·.switch?.isSome)).Perm request.options) :
    draft.manifests = request.manifests.map Path.mk ∧
      (∀ setting, draft.value? setting = request.value? setting) ∧
      ∀ flag, draft.raised flag = request.raised flag := by
  have hmem (item : Item) (hswitch : item.switch?.isSome = true) :
      item ∈ items ↔ item ∈ request.options := by
    rw [← hoptions.mem_iff, List.mem_filter, and_iff_left hswitch]
  refine ⟨by rw [h.manifests, hmanifests], ?_, ?_⟩
  · intro setting
    apply Option.ext
    intro value
    rw [h.value, hmem _ rfl, Request.setting_mem_options]
  · intro flag
    rw [Bool.eq_iff_iff, h.raised, hmem _ rfl, Request.flag_mem_options]

/-- A draft with an output directory and manifests is complete. -/
theorem Draft.complete_of_settle (hsettle : draft.settle = .ok ready) {directory : Path}
    (hdirectory : ready.outputDirectory = some directory) (hmanifests : ready.manifests ≠ []) :
    draft.complete = .ok
      { manifests := ready.manifests
        outputDirectory := directory
        encoding := ready.encoding.getD "UTF-8"
        generator := ready.generator
        noVersion := ready.noVersion
        verbose := ready.verbose } := by
  have hsome : ready.manifests.isEmpty = false := by simpa using hmanifests
  simp only [complete, hsettle, bind, Except.bind, hdirectory, hsome]
  rfl

/-- A command line that spells a request asks for what the request does, whatever the order and the
spelling of its parts: the manifests in their order, the output directory, and what is chosen, with
UTF-8 as the encoding if none is. The settings have the name of the generator, or `gpdgen` if none
is chosen, and its version if and only if that is not left out. -/
theorem parse_of_spelled (h : request.Spelled arguments) :
    ∃ commandLine, parse arguments = .ok commandLine ∧
      commandLine.manifests = request.manifests.map Path.mk ∧
      commandLine.outputDirectory = ⟨request.outputDirectory⟩ ∧
      commandLine.encoding = request.encoding.getD "UTF-8" ∧
      commandLine.generator = request.generator ∧
      commandLine.noVersion = request.noVersion ∧
      commandLine.verbose = request.verbose ∧
      commandLine.config =
        { outputRoot := ⟨request.outputDirectory⟩
          encoding := request.encoding.getD "UTF-8"
          label :=
            { name := request.generator.getD "gpdgen"
              version := if request.noVersion then none else some "0.1.0" } } := by
  obtain ⟨items, parts, hmanifests, hoptions, hspells, rfl⟩ := h
  have hempty : ({} : Draft).Holds [] := by
    refine ⟨rfl, ?_, ?_⟩
    · intro setting value
      cases setting <;> simp [Draft.value?]
    · intro flag
      cases flag <;> simp [Draft.raised]
  have hstart : ({} : Draft).settle = .ok {} := rfl
  have honce : (([] ++ items).filterMap Item.switch?).Nodup := once_of_perm hoptions
  obtain ⟨last, final, hlast, hfinal, hholds⟩ :=
    Draft.add_all_spelled hspells (plain_of_spelled hmanifests hoptions) honce hstart hempty
  obtain ⟨hnamed, hvalues, hraised⟩ := hholds.of_request hmanifests hoptions
  have hencoding : final.encoding = request.encoding := hvalues .encoding
  have hgenerator : final.generator = request.generator := hvalues .generator
  have hversion : final.noVersion = request.noVersion := hraised .noVersion
  have hverbose : final.verbose = request.verbose := hraised .verbose
  have hdirectory : final.outputDirectory = some ⟨request.outputDirectory⟩ := by
    obtain ⟨path, hpath, htext⟩ := Option.map_eq_some_iff.mp (hvalues .outputDirectory)
    rw [hpath, ← htext]
  have hsome : final.manifests ≠ [] := by
    rw [hnamed]
    simpa using request.some_manifest
  have hcomplete := Draft.complete_of_settle hfinal hdirectory hsome
  rw [hnamed, hencoding, hgenerator, hversion, hverbose] at hcomplete
  have hparse : parse parts.flatten = last.complete := by
    rw [parse, hlast]
    rfl
  refine ⟨_, hparse.trans hcomplete, rfl, rfl, rfl, rfl, rfl, rfl, ?_⟩
  -- The standard label has the name and the version that a chosen name gets by itself.
  cases request.generator <;> cases request.noVersion <;>
    simp [config, GeneratorLabel.standard, GeneratorLabel.withoutVersion, toolName, toolVersion]

/-- Five parts in five spellings, with one manifest in front, one in between and one at the end. -/
theorem parse_of_spelled_mixed :
    let request : Request :=
      { manifests := ["a.toml", "b.toml", "c.toml"]
        outputDirectory := "out"
        encoding := some "latin1"
        generator := some "my=build"
        noVersion := true
        verbose := true
        some_manifest := by decide
        plain_manifest := by simp [Plain]
        plain_output_directory := by simp [Plain]
        plain_encoding := by simp [Plain]
        plain_generator := by simp [Plain] }
    let arguments := ["a.toml", "-v", "--generator=my=build", "b.toml", "-oout", "--no-version",
      "-e", "latin1", "c.toml"]
    request.Spelled arguments ∧ ∃ commandLine, parse arguments = .ok commandLine ∧
      commandLine.manifests = [⟨"a.toml"⟩, ⟨"b.toml"⟩, ⟨"c.toml"⟩] ∧
      commandLine.outputDirectory = ⟨"out"⟩ ∧ commandLine.encoding = "latin1" := by
  intro request arguments
  have hspelled : request.Spelled arguments := by
    refine ⟨[.manifest "a.toml", .flag .verbose, .setting .generator "my=build", .manifest "b.toml",
      .setting .outputDirectory "out", .flag .noVersion, .setting .encoding "latin1",
      .manifest "c.toml"], [["a.toml"], ["-v"], ["--generator=my=build"], ["b.toml"], ["-oout"],
      ["--no-version"], ["-e", "latin1"], ["c.toml"]], rfl, by decide, ?_, rfl⟩
    exact .cons (.manifest _) <| .cons (.shortFlag .verbose 'v' rfl) <|
      .cons (.longJoined .generator _) <| .cons (.manifest _) <|
      .cons (.shortJoined .outputDirectory _ 'o' rfl) <| .cons (.longFlag .noVersion) <|
      .cons (.shortApart .encoding _ 'e' rfl) <| .cons (.manifest _) .nil
  obtain ⟨commandLine, hparse, hmanifests, hdirectory, hencoding, _⟩ := parse_of_spelled hspelled
  exact ⟨hspelled, commandLine, hparse, hmanifests, hdirectory, hencoding⟩

end PluginDescriptor.CommandLine
