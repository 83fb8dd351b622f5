import BeanContainer.Derivation.Expansion
import BeanContainer.Proofs.Derivation.Arguments
import BeanContainer.Proofs.Source.Running
import BeanContainer.Proofs.Source.Stretches
import Mathlib.Data.List.Perm.Basic

/-!
# Entries of the arguments

The arguments of a derivation, told from how they are written. With their invisible brackets open they
are split at their commas, and each stretch has to be an entry. What the entries hold is collected in
their order, kind by kind, so it does not matter how entries of different kinds are mixed.
-/

namespace BeanContainer.Derivation

open Source Source.Parser

namespace Entry

/-- The word that the entry begins with. -/
def word : Entry → String
  | name _ => "name"
  | bean _ => "bean"
  | resources _ => "resource"
  | dependencies _ => "depends_on"

/-- The words that entries begin with. -/
def words : List String :=
  ["name", "bean", "resource", "depends_on"]

/-- The front of the forest is a string literal. -/
def TakesText (content : Forest) (text : String) (rest : Forest) : Prop :=
  Literal.isText text = true ∧ content.bare = .leaf (.literal text) rest

/-- How entries are written. -/
inductive IsWritten (grammar : Grammar) : Forest → Entry → Prop
  | name {text : String} {isJoint : Bool} (isText : Literal.isText text = true) :
      IsWritten grammar (.leaf (.identifier ⟨false, "name"⟩)
        (.leaf (.mark '=' isJoint) (.leaf (.literal text) .nil))) (.name text)
  | bean {content rest : Forest} {text : String} {isJoint : Bool} {kind : StrategyKind}
      (isText : Literal.isText text = true)
      (isContent : content.opened = .leaf (.literal text) (.leaf (.mark ',' isJoint)
        (.leaf (.identifier ⟨false, kindWord kind⟩) rest))) (isEnd : rest.isBlank = true) :
      IsWritten grammar (.leaf (.identifier ⟨false, "bean"⟩)
        (.group .parentheses content .nil)) (.bean ⟨text, kind⟩)
  | resources {content : Forest} {literals : List String}
      (lists : Lists TakesText content literals) :
      IsWritten grammar (.leaf (.identifier ⟨false, "resource"⟩)
        (.group .parentheses content .nil)) (.resources literals)
  | dependencies {content : Forest} {paths : List Forest}
      (lists : Lists (Takes (written (grammar.path false))) content paths) :
      IsWritten grammar (.leaf (.identifier ⟨false, "depends_on"⟩)
        (.group .parentheses content .nil)) (.dependencies paths)

variable {α : Type} {grammar : Grammar} {content forest next rest behind : Forest} {entry : Entry}
  {input : Input} {leftover : Option Delimiter} {identifier first : Identifier} {kind : StrategyKind}
  {element : Parser α} {values : List α} {hasName : Bool}

theorem takes_textLiteral : Takes textLiteral = TakesText := by
  funext content text rest
  simp only [Takes, TakesText, eq_iff_iff]
  constructor
  · rintro ⟨_, written, reads⟩
    have meets : textLiteral.Meets ⟨content, none⟩ fun reading =>
        Literal.isText reading.value = true ∧
          content.bare = .leaf (.literal reading.value) reading.input.rest :=
      meets_textLiteral.mpr fun text rest isNext isText => ⟨isText, isNext⟩
    exact meets _ reads
  · rintro ⟨isText, isNext⟩
    refine ⟨?_, _, run_textLiteral isText isNext⟩
    rintro rfl
    cases isNext

theorem isFree_kindWord : (⟨false, kindWord kind⟩ : Identifier).isFree = true := by
  cases kind <;> rfl

theorem kindOf?_kindWord : kindOf? ⟨false, kindWord kind⟩ = some kind := by
  cases kind <;> rfl

theorem eq_kindWord_of_kindOf? (isKind : kindOf? identifier = some kind) :
    identifier = ⟨false, kindWord kind⟩ := by
  simpa using List.find?_some isKind

/-- A word with nothing of a path behind it is read as a path of one identifier. -/
theorem run_path (isWord : next.bare = .leaf (.identifier first) rest)
    (ends : rest.starts (.marks "::") = false) :
    path ⟨next, leftover⟩ = .ok ⟨some first, .ofIdentifier first, ⟨rest, leftover⟩⟩ := by
  have notRooted : next.starts (.marks "::") = false := by
    simp [Forest.starts, Forest.startsWithMarks, isWord]
  have isIdentifier : next.starts .anyIdentifier = true := by simp [Forest.starts, isWord]
  have isLeft := Forest.isEmpty_of_bare_leaf isWord
  simp [path, optionalMarks, run_loop, iterate, ends, notRooted, isIdentifier, isLeft,
    run_anyIdentifier isWord]

theorem run_path_group {delimiter : Delimiter} (isWord : next.bare = .leaf (.identifier first) rest)
    (isGroup : rest.bare = .group delimiter content behind) :
    path ⟨next, leftover⟩ = .ok ⟨some first, .ofIdentifier first, ⟨rest, leftover⟩⟩ :=
  run_path isWord (by simp [Forest.starts, Forest.startsWithMarks, isGroup])

theorem run_kind (isNext : next.bare = .leaf (.identifier ⟨false, kindWord kind⟩) rest) :
    Entry.kind ⟨next, leftover⟩ =
      .ok ⟨kind, .ofIdentifier ⟨false, kindWord kind⟩, ⟨rest, leftover⟩⟩ := by
  simp [Entry.kind, run_identifier isFree_kindWord isNext, kindOf?_kindWord]

theorem meets_kind {after : Reading StrategyKind → Prop} : Entry.kind.Meets input after ↔
    ∀ kind rest, input.rest.bare = .leaf (.identifier ⟨false, kindWord kind⟩) rest →
      after ⟨kind, .ofIdentifier ⟨false, kindWord kind⟩, { input with rest }⟩ := by
  simp only [Entry.kind, meets_bind, meets_identifier]
  constructor
  · intro meets kind rest isNext
    have reads := meets _ rest isNext isFree_kindWord
    rw [kindOf?_kindWord] at reads
    simpa using reads
  · intro holds name rest isNext _
    split
    · rename_i kind isKind
      rw [eq_kindWord_of_kindOf? isKind] at isNext ⊢
      simpa using holds kind rest isNext
    · exact meets_fail

theorem run_listed (lists : Lists (Takes element) content values)
    (isGroup : next.bare = .group .parentheses content rest) :
    ∃ written, listed element ⟨next, none⟩ = .ok ⟨values, written, ⟨rest, none⟩⟩ := by
  rcases lists.run_iterate (Nat.lt_succ_self _) [] with ⟨written, reads⟩
  have readsContent : loop (elementStep element) [] ⟨content, none⟩ =
      .ok ⟨values, written, ⟨.nil, none⟩⟩ := reads
  exact ⟨_, run_enclosed (by simp) isGroup readsContent rfl⟩

theorem listed_meets : (listed element).Meets input fun reading =>
    reading.input.leftover = none → ∃ content,
      input.rest.bare = .group .parentheses content reading.input.rest ∧
        Lists (Takes element) content reading.value := by
  simp only [listed, meets_enclosed]
  intro content rest isNext
  refine meets_loop.mpr (Meets.imp (iterate_elementStep_lists (Nat.lt_succ_self _) []) ?_)
  intro reading lists isNone
  rcases lists (Input.isEnd_of_remembered isNone).1 with ⟨_, values, isValue, lists⟩
  exact ⟨content, isNext, by simpa [isValue] using lists⟩

/-- A word and the parentheses behind it, with what is in them and behind them. -/
theorem bare_of_opened_word_group (isNext : forest.opened =
      .leaf (.identifier first) (.group .parentheses content behind)) :
    ∃ next rest, forest.bare = .leaf (.identifier first) next ∧
      next.bare = .group .parentheses content rest ∧ rest.opened = behind := by
  rcases Forest.bare_of_opened_leaf isNext with ⟨next, isWord, isGroup⟩
  rcases Forest.bare_of_opened_group (by simp) isGroup with ⟨rest, isGroup, isRest⟩
  exact ⟨next, rest, isWord, isGroup, isRest⟩

/-- An entry is read from the front of what it stands in. A name is read if it is the first one. -/
theorem IsWritten.run (isWritten : IsWritten grammar content entry)
    (isFirst : entry.word = "name" → hasName = false) (isNext : forest.opened = content ++ behind) :
    ∃ written rest, parse grammar hasName ⟨forest, none⟩ = .ok ⟨entry, written, ⟨rest, none⟩⟩ ∧
      rest.opened = behind := by
  cases isWritten with
  | @name text isJoint isText =>
      rcases Forest.bare_of_opened_leaf isNext with ⟨atMark, isWord, isMark⟩
      rcases Forest.bare_of_opened_leaf isMark with ⟨atText, isMark, isLiteral⟩
      rcases Forest.bare_of_opened_leaf isLiteral with ⟨rest, isLiteral, isRest⟩
      have ends : atMark.starts (.marks "::") = false := by
        simp [Forest.starts, Forest.startsWithMarks, isMark]
      have reads : ∃ written, parse grammar hasName ⟨forest, none⟩ =
          .ok ⟨.name text, written, ⟨rest, none⟩⟩ := by
        simp [parse, run_path isWord ends, isFirst rfl, run_marks equals_eq isMark,
          run_textLiteral isText isLiteral]
      rcases reads with ⟨written, reads⟩
      exact ⟨written, rest, reads, isRest⟩
  | @bean inner tail text isJoint kind isText isContent isEnd =>
      rcases bare_of_opened_word_group isNext with ⟨next, rest, isWord, isGroup, isRest⟩
      rcases Forest.bare_of_opened_leaf isContent with ⟨atComma, isLiteral, isOpened⟩
      rcases Forest.bare_of_opened_leaf isOpened with ⟨atKind, isComma, isOpened⟩
      rcases Forest.bare_of_opened_leaf isOpened with ⟨last, isKind, rfl⟩
      rw [Forest.isBlank_opened] at isEnd
      have reads : ∃ written, (do
          let name ← textLiteral
          marks ","
          return .bean ⟨name, ← Entry.kind⟩ : Parser Entry) ⟨inner, none⟩ =
            .ok ⟨.bean ⟨text, kind⟩, written, ⟨last, none⟩⟩ := by
        simp [run_textLiteral isText isLiteral, run_marks comma_eq isComma, run_kind isKind]
      rcases reads with ⟨written, reads⟩
      have readsEntry := run_enclosed (by simp) isGroup reads isEnd
      have reads : ∃ written, parse grammar hasName ⟨forest, none⟩ =
          .ok ⟨.bean ⟨text, kind⟩, written, ⟨rest, none⟩⟩ := by
        simp [parse, run_path_group isWord isGroup, readsEntry]
      rcases reads with ⟨written, reads⟩
      exact ⟨written, rest, reads, isRest⟩
  | @resources inner literals lists =>
      rcases bare_of_opened_word_group isNext with ⟨next, rest, isWord, isGroup, isRest⟩
      rw [← takes_textLiteral] at lists
      rcases run_listed lists isGroup with ⟨written, reads⟩
      simp only [parse, run_bind, run_path_group isWord isGroup, reads, run_pure]
      exact ⟨_, rest, rfl, isRest⟩
  | @dependencies inner paths lists =>
      rcases bare_of_opened_word_group isNext with ⟨next, rest, isWord, isGroup, isRest⟩
      rcases run_listed lists isGroup with ⟨written, reads⟩
      simp only [parse, run_bind, run_path_group isWord isGroup, reads, run_pure]
      exact ⟨_, rest, rfl, isRest⟩

/-- What is read as an entry is written as one. A name is read only if it is the first one. -/
theorem parse_meets : (parse grammar hasName).Meets input fun reading =>
    reading.input.leftover = none → (reading.value.word = "name" → hasName = false) ∧
      ∃ content, input.rest.opened = content ++ reading.input.rest.opened ∧
        IsWritten grammar content reading.value := by
  simp only [parse, meets_bind]
  refine Meets.imp path_meets ?_
  intro first isNext
  split
  · rename_i isName
    simp only [meets_ite, meets_fail, meets_bind, meets_mark equals_eq, meets_textLiteral,
      meets_pure, Bool.not_eq_true]
    refine ⟨fun _ => trivial, ?_⟩
    intro isFirst isJoint atText isMark text rest isLiteral isText _
    refine ⟨fun _ => isFirst, _, ?_, @IsWritten.name _ _ isJoint isText⟩
    rw [Forest.opened_of_bare_leaf (isNext _ isName), Forest.opened_of_bare_leaf isMark,
      Forest.opened_of_bare_leaf isLiteral]
    rfl
  · rename_i isBean
    simp only [meets_enclosed, meets_bind, meets_textLiteral, meets_mark comma_eq, meets_kind,
      meets_pure]
    intro content rest isGroup text atComma isLiteral isText isJoint atKind isComma kind last isKind
      isNone
    have isEnd : (⟨last, first.input.leftover⟩ : Input).rest.isBlank = true :=
      (Input.isEnd_of_remembered isNone).2
    have isContent : content.opened = .leaf (.literal text) (.leaf (.mark ',' isJoint)
        (.leaf (.identifier ⟨false, kindWord kind⟩) last.opened)) := by
      rw [Forest.opened_of_bare_leaf isLiteral, Forest.opened_of_bare_leaf isComma,
        Forest.opened_of_bare_leaf isKind]
    refine ⟨by simp [word], _, ?_,
      .bean isText isContent (by rwa [Forest.isBlank_opened])⟩
    rw [opened_of_word_group (isNext _ isBean) isGroup]
    rfl
  · rename_i isResource
    simp only [meets_bind, meets_pure]
    refine Meets.imp listed_meets ?_
    intro literals lists isNone
    rcases lists isNone with ⟨content, isGroup, lists⟩
    rw [takes_textLiteral] at lists
    refine ⟨by simp [word], _, ?_, .resources lists⟩
    rw [opened_of_word_group (isNext _ isResource) isGroup]
    rfl
  · rename_i isDependencies
    simp only [meets_bind, meets_pure]
    refine Meets.imp listed_meets ?_
    intro paths lists isNone
    rcases lists isNone with ⟨content, isGroup, lists⟩
    refine ⟨by simp [word], _, ?_, .dependencies lists⟩
    rw [opened_of_word_group (isNext _ isDependencies) isGroup]
    rfl
  · exact meets_fail

theorem IsWritten.stretches (isWritten : IsWritten grammar content entry) :
    content.stretches = [content] := by
  cases isWritten <;> rfl

theorem IsWritten.stretches_append (isWritten : IsWritten grammar content entry) {isJoint : Bool} :
    (content ++ .leaf (.mark ',' isJoint) rest).stretches = content :: rest.stretches := by
  cases isWritten <;> rfl

/-- The name that the entry gives. -/
def names : Entry → List String
  | name literal => [literal]
  | _ => []

/-- The bean that the entry declares. -/
def beans : Entry → List DeclaredBean
  | .bean declared => [declared]
  | _ => []

/-- The dependencies that the entry gives. -/
def paths : Entry → List Forest
  | dependencies paths => paths
  | _ => []

end Entry

namespace Arguments

/-- What the entries give, kind by kind in their order. -/
def ofEntries (entries : List Entry) : Arguments where
  name := (entries.flatMap Entry.names).head?
  beans := entries.flatMap Entry.beans
  resources := entries.flatMap Entry.given
  dependencies := entries.flatMap Entry.paths

/-- An entry, and the comma behind it if there is one. -/
def entryStep (grammar : Grammar) (arguments : Arguments) : Parser (Bool × Arguments) := do
  let arguments := arguments.add (← Entry.parse grammar arguments.name.isSome)
  if (← upcoming).isEmpty then return (false, arguments)
  marks ","
  return (!(← upcoming).isEmpty, arguments)

variable {grammar : Grammar} {content forest other : Forest} {entry : Entry} {entries : List Entry}
  {input : Input} {arguments others : Arguments}

theorem names_add (isFirst : entry.word = "name" → arguments.name.isSome = false) :
    (arguments.add entry).name.toList = arguments.name.toList ++ entry.names := by
  cases entry with
  | name literal =>
      have isNone : arguments.name = none := by simpa using isFirst rfl
      simp [add, Entry.names, isNone]
  | bean bean => simp [add, Entry.names]
  | resources literals => simp [add, Entry.names]
  | dependencies paths => simp [add, Entry.names]

/-- There is no more than one name if an entry gives one only as the first, and so do the others. -/
theorem single_cons_iff :
    (arguments.name.toList ++ (entry :: entries).flatMap Entry.names).length ≤ 1 ↔
      (entry.word = "name" → arguments.name.isSome = false) ∧
        ((arguments.add entry).name.toList ++ entries.flatMap Entry.names).length ≤ 1 := by
  cases entry with
  | name literal =>
      cases isName : arguments.name with
      | none => simp [add, Entry.word, Entry.names]
      | some earlier => simp [Entry.word, Entry.names]
  | bean declared => simp [add, Entry.word, Entry.names]
  | resources literals => simp [add, Entry.word, Entry.names]
  | dependencies paths => simp [add, Entry.word, Entry.names]

theorem foldl_add (single : (arguments.name.toList ++ entries.flatMap Entry.names).length ≤ 1) :
    entries.foldl add arguments =
      { name := (arguments.name.toList ++ entries.flatMap Entry.names).head?
        beans := arguments.beans ++ entries.flatMap Entry.beans
        resources := arguments.resources ++ entries.flatMap Entry.given
        dependencies := arguments.dependencies ++ entries.flatMap Entry.paths } := by
  induction entries generalizing arguments with
  | nil => simp
  | cons entry entries ih =>
      rcases single_cons_iff.mp single with ⟨isFirst, singleRest⟩
      rw [List.foldl_cons, ih singleRest, names_add isFirst]
      cases entry <;> simp [add, Entry.names, Entry.beans, Entry.given, Entry.paths]

/-- The arguments become others by the entries that are written between the commas. -/
def Become (grammar : Grammar) (arguments : Arguments) (content : Forest) (others : Arguments) :
    Prop :=
  ∃ entries, List.Forall₂ (Entry.IsWritten grammar) content.stretches entries ∧
    (arguments.name.toList ++ entries.flatMap Entry.names).length ≤ 1 ∧
    others = entries.foldl add arguments

theorem Become.refl (arguments : Arguments) : Become grammar arguments .nil arguments := by
  refine ⟨[], .nil, ?_, rfl⟩
  cases arguments.name <;> simp

theorem Become.last (isWritten : Entry.IsWritten grammar content entry)
    (isFirst : entry.word = "name" → arguments.name.isSome = false) :
    Become grammar arguments content (arguments.add entry) := by
  refine ⟨[entry], ?_, ?_, rfl⟩
  · rw [isWritten.stretches]
    exact .cons isWritten .nil
  · rw [List.flatMap_singleton, ← names_add isFirst]
    cases (arguments.add entry).name <;> simp

theorem Become.cons {isJoint : Bool} (isWritten : Entry.IsWritten grammar content entry)
    (isFirst : entry.word = "name" → arguments.name.isSome = false)
    (become : Become grammar (arguments.add entry) other others) :
    Become grammar arguments (content ++ .leaf (.mark ',' isJoint) other) others := by
  rcases become with ⟨entries, areWritten, single, rfl⟩
  refine ⟨entry :: entries, ?_, single_cons_iff.mpr ⟨isFirst, single⟩, rfl⟩
  rw [isWritten.stretches_append]
  exact .cons isWritten areWritten

/-- What the rounds read to the end is entries with commas between them. -/
theorem iterate_entryStep_become {bound : Nat} (enough : input.rest.size < bound)
    (arguments : Arguments) :
    (iterate (entryStep grammar) bound arguments).Meets input fun reading =>
      reading.input.leftover = none →
        input.leftover = none ∧ Become grammar arguments input.rest.opened reading.value := by
  induction bound generalizing arguments input with
  | zero => omega
  | succ bound ih =>
      simp only [iterate, entryStep, meets_bind]
      intro reading reads
      have precedes := (Entry.parse grammar _).proceeds reads
      have isEntry := Entry.parse_meets reading reads
      simp only [meets_bind, meets_upcoming, meets_ite, meets_pure, meets_mark comma_eq,
        Forest.isEmpty_iff, Bool.false_eq_true, false_implies, true_and, not_false_eq_true,
        forall_const, Bool.not_eq_true', ← Bool.not_eq_true]
      refine ⟨fun isNil isNone => ?_, fun _ isJoint rest isNext => ?_⟩
      · rcases isEntry isNone with ⟨isFirst, content, isContent, isWritten⟩
        have noRest : Forest.nil.opened = .nil := rfl
        rw [isContent, isNil, noRest, Forest.append_nil]
        exact ⟨precedes.leftover_eq_none isNone, .last isWritten isFirst⟩
      -- What comes behind the comma may be nothing, which is no further entry.
      have more : ∀ {others}, reading.input.leftover = none →
          Become grammar (arguments.add reading.value) rest.opened others →
          input.leftover = none ∧ Become grammar arguments input.rest.opened others := by
        intro others isNone become
        rcases isEntry isNone with ⟨isFirst, content, isContent, isWritten⟩
        rw [isContent, Forest.opened_of_bare_leaf isNext]
        exact ⟨precedes.leftover_eq_none isNone, .cons isWritten isFirst become⟩
      refine ⟨fun _ => Meets.imp (ih ?_ _) ?_, fun isNil isNone => ?_⟩
      · have shorter := Forest.size_lt_of_bare isNext
        have shorterBefore := precedes.size_le
        change rest.size < bound
        omega
      · rintro last becomes isNone
        rcases becomes isNone with ⟨isNone, become⟩
        exact more isNone become
      · rw [Classical.not_not.mp isNil] at more
        exact more isNone (.refl _)

/-- Entries are read to the end, if there are rounds enough. -/
theorem run_iterate_entryStep
    (areWritten : List.Forall₂ (Entry.IsWritten grammar) forest.opened.stretches entries)
    (notNil : forest ≠ .nil)
    (single : (arguments.name.toList ++ entries.flatMap Entry.names).length ≤ 1) {bound : Nat}
    (enough : forest.size < bound) :
    ∃ written, iterate (entryStep grammar) bound arguments ⟨forest, none⟩ =
      .ok ⟨entries.foldl add arguments, written, ⟨.nil, none⟩⟩ := by
  induction entries generalizing forest arguments bound with
  | nil =>
      have noStretch : forest.opened.stretches = [] := List.forall₂_nil_right_iff.mp areWritten
      rw [Forest.stretches_eq_nil_iff, Forest.opened_eq_nil_iff] at noStretch
      exact absurd noStretch notNil
  | cons entry entries ih =>
      rcases bound with _ | bound
      · omega
      rcases List.forall₂_cons_right_iff.mp areWritten with
        ⟨first, others, isWritten, areWritten, isSplit⟩
      rcases single_cons_iff.mp single with ⟨isFirst, singleRest⟩
      rcases Forest.beginsWith_of_stretches isSplit with
        ⟨isLast, rfl⟩ | ⟨isJoint, behind, isNext, rfl⟩
      · rw [← Forest.append_nil first] at isLast
        rcases isWritten.run isFirst isLast with ⟨written, rest, reads, isRest⟩
        rw [Forest.opened_eq_nil_iff] at isRest
        simp [iterate, entryStep, reads, isRest, Forest.isEmpty,
          List.forall₂_nil_left_iff.mp areWritten]
      rcases isWritten.run isFirst isNext with ⟨written, atComma, reads, isOpened⟩
      rcases Forest.bare_of_opened_leaf isOpened with ⟨rest, isComma, rfl⟩
      have shorter := Forest.size_lt_of_bare isComma
      have shorterBefore : atComma.size ≤ forest.size :=
        ((Entry.parse grammar _).proceeds reads).size_le
      have notEnd := Forest.isEmpty_of_bare_leaf isComma
      by_cases isNil : rest = .nil
      · rw [isNil] at areWritten isComma
        have isEnd : Forest.nil.isEmpty = true := rfl
        simp [iterate, entryStep, reads, notEnd, isEnd, run_marks comma_eq isComma,
          List.forall₂_nil_left_iff.mp areWritten]
      · have enoughRest : rest.size < bound := by omega
        have isLeft : rest.isEmpty = false := by simpa [← Forest.isEmpty_iff] using isNil
        rcases ih areWritten isNil singleRest enoughRest with ⟨writtenRest, readsRest⟩
        simp [iterate, entryStep, reads, notEnd, isLeft, run_marks comma_eq isComma, readsRest]

theorem parse_eq : parse grammar = (do
    if (← upcoming).isEmpty then return {}
    loop (entryStep grammar) {}) :=
  rfl

/-- The arguments are what the entries between the commas make of none. -/
theorem ofForest_eq_ok_iff : ofForest forest = .ok arguments ↔
    Become (.enoughFor forest.opened) {} forest.opened arguments := by
  rw [ofForest, parseAll_eq_ok_iff]
  constructor
  · rintro ⟨written, rest, _, reads⟩
    have meets : (parse (.enoughFor forest.opened)).Meets ⟨forest, none⟩ fun reading =>
        reading.input.leftover = none →
          Become (.enoughFor forest.opened) {} forest.opened reading.value := by
      simp only [parse_eq, meets_bind, meets_upcoming, meets_ite, meets_pure, Forest.isEmpty_iff]
      refine ⟨?_, fun _ => meets_loop.mpr (Meets.imp
        (iterate_entryStep_become (Nat.lt_succ_self _) {}) ?_)⟩
      · rintro isNil _
        rw [Forest.opened_eq_nil_iff.mpr isNil]
        exact .refl {}
      · intro reading become isNone
        exact (become isNone).2
    exact meets _ reads rfl
  · rintro ⟨entries, areWritten, single, rfl⟩
    by_cases isNil : forest = .nil
    · have empty : forest.opened.stretches = [] := by rw [isNil]; rfl
      rw [empty, List.forall₂_nil_left_iff] at areWritten
      rw [isNil, areWritten]
      exact ⟨.nil, .nil, rfl, rfl⟩
    · rcases run_iterate_entryStep areWritten isNil single (Nat.lt_succ_self _) with
        ⟨written, reads⟩
      exact ⟨written, .nil, rfl, by simp [parse_eq, run_loop, reads, Forest.isEmpty_iff, isNil]⟩

theorem become_iff : Become grammar {} forest arguments ↔ ∃ entries,
    List.Forall₂ (Entry.IsWritten grammar) forest.stretches entries ∧
      (entries.flatMap Entry.names).length ≤ 1 ∧ arguments = ofEntries entries := by
  constructor
  · rintro ⟨entries, areWritten, single, rfl⟩
    exact ⟨entries, areWritten, single, foldl_add single⟩
  · rintro ⟨entries, areWritten, single, rfl⟩
    have start : (({} : Arguments).name.toList ++ entries.flatMap Entry.names).length ≤ 1 := single
    exact ⟨entries, areWritten, start, (foldl_add start).symm⟩

end Arguments

namespace Entry

/-- A stretch has no invisible brackets to open. -/
theorem IsWritten.opened (isWritten : IsWritten grammar content entry) :
    content.opened = content := by
  cases isWritten <;> rfl

theorem isWritten_rightUnique : Relator.RightUnique (IsWritten grammar) := by
  intro content entry other isEntry isOther
  have isNext : content.opened = content ++ .nil := by rw [isEntry.opened, Forest.append_nil]
  rcases isEntry.run (fun _ => rfl) isNext with ⟨_, _, reads, _⟩
  rcases isOther.run (fun _ => rfl) isNext with ⟨_, _, readsOther, _⟩
  simp only [reads, Except.ok.injEq, Reading.mk.injEq] at readsOther
  exact readsOther.1

theorem IsWritten.starts_word (isWritten : IsWritten grammar content entry) (text : String) :
    content.starts (.word text) = (entry.word == text) := by
  cases isWritten <;> simp [Forest.starts, word]

/-- What only entries with one word give is what these give. -/
theorem flatMap_filter_word {β : Type} {gives : Entry → List β} {text : String}
    (only : ∀ entry, entry.word ≠ text → gives entry = []) (entries : List Entry) :
    (entries.filter (·.word == text)).flatMap gives = entries.flatMap gives := by
  induction entries with
  | nil => rfl
  | cons entry entries ih =>
      by_cases isWord : entry.word = text
      · simp [isWord, ih]
      · simp [isWord, ih, only entry isWord]

theorem flatMap_eq_of_word {β : Type} {gives : Entry → List β} {text : String}
    {entries others : List Entry}
    (alike : others.filter (·.word == text) = entries.filter (·.word == text))
    (only : ∀ entry, entry.word ≠ text → gives entry = []) :
    others.flatMap gives = entries.flatMap gives := by
  rw [← flatMap_filter_word only, alike, flatMap_filter_word only]

/-- Entries that are written in another order are the same ones, word by word. -/
theorem reordered {forest : Forest} {entries : List Entry}
    (isReordering : forest.IsReordering words content)
    (areWritten : List.Forall₂ (IsWritten grammar) forest.stretches entries) :
    ∃ others, List.Forall₂ (IsWritten grammar) content.stretches others ∧ ∀ text ∈ words,
      others.filter (·.word == text) = entries.filter (·.word == text) := by
  rcases List.perm_comp_forall₂ isReordering.perm areWritten with ⟨others, othersWritten, _⟩
  refine ⟨others, othersWritten, ?_⟩
  intro text text_mem
  have startAlike : Relator.LiftFun (IsWritten grammar) (· ↔ ·)
      (fun stretch => stretch.starts (.word text) = true)
      (fun entry => (entry.word == text) = true) := by
    intro stretch entry isWritten
    simp only [isWritten.starts_word]
  have filtered := List.rel_filter startAlike areWritten
  have othersFiltered := List.rel_filter startAlike othersWritten
  rw [isReordering.keeps text text_mem] at othersFiltered
  exact List.right_unique_forall₂' isWritten_rightUnique othersFiltered filtered

end Entry

theorem Arguments.ofEntries_eq_of_words {entries others : List Entry}
    (alike : ∀ text ∈ Entry.words,
      others.filter (·.word == text) = entries.filter (·.word == text)) :
    others.flatMap Entry.names = entries.flatMap Entry.names ∧
      ofEntries others = ofEntries entries := by
  have sameNames : others.flatMap Entry.names = entries.flatMap Entry.names :=
    Entry.flatMap_eq_of_word (alike "name" (by simp [Entry.words])) fun entry => by
      cases entry <;> simp [Entry.word, Entry.names]
  have sameBeans : others.flatMap Entry.beans = entries.flatMap Entry.beans :=
    Entry.flatMap_eq_of_word (alike "bean" (by simp [Entry.words])) fun entry => by
      cases entry <;> simp [Entry.word, Entry.beans]
  have sameResources : others.flatMap Entry.given = entries.flatMap Entry.given :=
    Entry.flatMap_eq_of_word (alike "resource" (by simp [Entry.words])) fun entry => by
      cases entry <;> simp [Entry.word, Entry.given]
  have samePaths : others.flatMap Entry.paths = entries.flatMap Entry.paths :=
    Entry.flatMap_eq_of_word (alike "depends_on" (by simp [Entry.words])) fun entry => by
      cases entry <;> simp [Entry.word, Entry.paths]
  exact ⟨sameNames, by simp only [ofEntries, sameNames, sameBeans, sameResources, samePaths]⟩

namespace Arguments

variable {forest other : Forest} {arguments : Arguments}

/--
The forest is split into entries when its invisible brackets are open, and no more than one of these
gives a name.
-/
def AreEntries (forest : Forest) (entries : List Entry) : Prop :=
  List.Forall₂ (Entry.IsWritten (.enoughFor forest.opened)) forest.opened.stretches entries ∧
    (entries.flatMap Entry.names).length ≤ 1

theorem ofForest_eq_ok_iff_entries : ofForest forest = .ok arguments ↔
    ∃ entries, AreEntries forest entries ∧ arguments = ofEntries entries := by
  rw [ofForest_eq_ok_iff, become_iff]
  simp only [AreEntries, and_assoc]

theorem ofForest_of_reordering (isReordering : forest.opened.IsReordering Entry.words other.opened)
    (given : ofForest forest = .ok arguments) : ofForest other = .ok arguments := by
  rcases ofForest_eq_ok_iff_entries.mp given with ⟨entries, ⟨areWritten, single⟩, rfl⟩
  rcases Entry.reordered isReordering areWritten with ⟨others, othersWritten, alike⟩
  rcases ofEntries_eq_of_words alike with ⟨sameNames, same⟩
  -- How deep the grammar goes depends on the size of the forest alone.
  have sameGrammar : Grammar.enoughFor other.opened = Grammar.enoughFor forest.opened := by
    rw [Grammar.enoughFor, Grammar.enoughFor, isReordering.size_eq]
  refine ofForest_eq_ok_iff_entries.mpr ⟨others, ⟨?_, ?_⟩, same.symm⟩
  · rw [sameGrammar]
    exact othersWritten
  · rw [sameNames]
    exact single

theorem ofForest_eq_iff_of_reordering (isReordering : forest.opened.IsReordering Entry.words other.opened) :
    ofForest other = .ok arguments ↔ ofForest forest = .ok arguments :=
  ⟨ofForest_of_reordering isReordering.symm, ofForest_of_reordering isReordering⟩

end Arguments

/--
Arguments are accepted exactly if they are entries, with no more than one name, and they hold what
the entries give, kind by kind in their order. Entries of different kinds may be mixed in any other
way: the same is accepted then, and nothing that is derived with it changes.
-/
theorem arguments_collect_entries (forest : Forest) :
    ((∃ arguments, Arguments.ofForest forest = .ok arguments) ↔
      ∃ entries, Arguments.AreEntries forest entries) ∧
    (∀ arguments entries, Arguments.ofForest forest = .ok arguments →
      Arguments.AreEntries forest entries → arguments = .ofEntries entries) ∧
    ∀ other, forest.opened.IsReordering Entry.words other.opened →
      (∀ arguments, Arguments.ofForest other = .ok arguments ↔
        Arguments.ofForest forest = .ok arguments) ∧
      ∀ text otherText item, Forest.ofText? text = some forest →
        Forest.ofText? otherText = some other →
        derive otherText item = derive text item ∨
          (∃ message, derive otherText item = .error (.arguments message)) ∧
            ∃ message, derive text item = .error (.arguments message) := by
  refine ⟨?_, ?_, fun other isReordering => ⟨fun arguments =>
    Arguments.ofForest_eq_iff_of_reordering isReordering, ?_⟩⟩
  · simp only [Arguments.ofForest_eq_ok_iff_entries]
    constructor
    · rintro ⟨_, entries, areEntries, _⟩
      exact ⟨entries, areEntries⟩
    · rintro ⟨entries, areEntries⟩
      exact ⟨_, entries, areEntries, rfl⟩
  · intro arguments entries given areEntries
    rcases Arguments.ofForest_eq_ok_iff_entries.mp given with ⟨others, areOthers, rfl⟩
    rw [List.right_unique_forall₂' Entry.isWritten_rightUnique areOthers.1 areEntries.1]
  · intro text otherText item isText isOther
    cases isItem : Forest.ofText? item with
    | none => simp [derive, isText, isOther, isItem]
    | some item =>
        cases given : Arguments.ofForest forest with
        | ok arguments =>
            have otherGiven := Arguments.ofForest_of_reordering isReordering given
            simp [derive, isText, isOther, isItem, given, otherGiven]
        | error message =>
            cases otherGiven : Arguments.ofForest other with
            | ok arguments =>
                have accepted := Arguments.ofForest_of_reordering isReordering.symm otherGiven
                simp [given] at accepted
            | error otherMessage => simp [derive, isText, isOther, isItem, given, otherGiven]

/-- Entries of all kinds, with resources in two of them. -/
def mixedText : String :=
  "resource(\"db\"), name = \"app\", bean(\"jobs\", factory), depends_on(a::B), resource(\"log\"),"

/-- The same entries, with the others before the resources. -/
def orderedText : String :=
  "depends_on(a::B), bean(\"jobs\", factory), resource(\"db\"), resource(\"log\"), name = \"app\","

/-- An implementation with a constructor. -/
def plainText : String :=
  "impl App \x7b #[construct] fn new() -> Self \x7b App \x7d \x7d"

/-- What the entries give. -/
def mixedArguments : Arguments where
  name := some "\"app\""
  beans := [⟨"\"jobs\"", .factory⟩]
  resources := ["\"db\"", "\"log\""]
  dependencies := [codePath ["a", "B"]]

theorem arguments_collect_mixed_entries :
    ∃ forest other, Forest.ofText? mixedText = some forest ∧
      Forest.ofText? orderedText = some other ∧
      forest.opened.IsReordering Entry.words other.opened ∧
      Arguments.ofForest forest = .ok mixedArguments ∧
      Arguments.ofForest other = .ok mixedArguments ∧
      (∃ entries, Arguments.AreEntries forest entries ∧ mixedArguments = .ofEntries entries) ∧
      derive orderedText plainText = derive mixedText plainText ∧
      (derive mixedText plainText).isOk = true := by
  have outcomes : ((Forest.ofText? mixedText).any fun forest =>
      (Forest.ofText? orderedText).any fun other =>
        decide (forest.opened.IsReordering Entry.words other.opened) &&
        (Arguments.ofForest forest).toOption == some mixedArguments) = true ∧
      (derive mixedText plainText).isOk = true := by
    decide +kernel
  rcases outcomes with ⟨outcomes, derives⟩
  simp only [Option.any_eq_true, Bool.and_eq_true, decide_eq_true_eq, beq_iff_eq] at outcomes
  rcases outcomes with ⟨forest, isForest, other, isOther, isReordering, isGiven⟩
  have given : Arguments.ofForest forest = .ok mixedArguments := by
    cases result : Arguments.ofForest forest with
    | ok arguments => simpa [result, Except.toOption] using isGiven
    | error message => simp [result, Except.toOption] at isGiven
  rcases arguments_collect_entries forest with ⟨accepted, collected, reordered⟩
  rcases reordered other isReordering with ⟨sameArguments, sameDerivation⟩
  rcases accepted.mp ⟨_, given⟩ with ⟨entries, areEntries⟩
  have same : derive orderedText plainText = derive mixedText plainText := by
    rcases sameDerivation mixedText orderedText plainText isForest isOther with
      same | ⟨_, message, refused⟩
    · exact same
    · simp [refused, Except.isOk, Except.toBool] at derives
  exact ⟨forest, other, isForest, isOther, isReordering, given, (sameArguments _).mpr given,
    ⟨entries, areEntries, collected _ _ given areEntries⟩, same, derives⟩

end BeanContainer.Derivation
