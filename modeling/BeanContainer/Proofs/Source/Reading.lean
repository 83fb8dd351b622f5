import BeanContainer.Source.Parser

/-!
# What parsers come to

A parser meets a condition if all that it can read from an input does. What it takes for a parser to
meet a condition is found by going through the parser from its end to its beginning: each way to put
parsers together has its own equivalence, and by these a parser is taken apart.
-/

namespace BeanContainer.Source

@[simp] theorem Forest.append_nil : ∀ forest : Forest, forest ++ .nil = forest
  | .nil => rfl
  | .leaf token rest => congrArg (leaf token) (append_nil rest)
  | .group delimiter content rest => congrArg (group delimiter content) (append_nil rest)
  | .tagged name content rest => congrArg (tagged name content) (append_nil rest)
  | .expression place inner rest => congrArg (expression place inner) (append_nil rest)

theorem Forest.append_assoc : ∀ first second third : Forest,
    first ++ second ++ third = first ++ (second ++ third)
  | .nil, _, _ => rfl
  | .leaf token rest, second, third => congrArg (leaf token) (append_assoc rest second third)
  | .group delimiter content rest, second, third =>
    congrArg (group delimiter content) (append_assoc rest second third)
  | .tagged name content rest, second, third =>
    congrArg (tagged name content) (append_assoc rest second third)
  | .expression place inner rest, second, third =>
    congrArg (expression place inner) (append_assoc rest second third)

theorem Forest.starts_mark_iff {forest : Forest} {text : String} {sign : Char}
    (isMark : text = sign.toString) : forest.starts (.marks text) = true ↔
      ∃ isJoint rest, forest.bare = .leaf (.mark sign isJoint) rest := by
  have single : text.toList = [sign] := by simp [isMark]
  simp only [starts, single, startsWithMarks, List.isEmpty_nil, Bool.true_or, Bool.and_true]
  split
  · rename_i first isJoint rest isNext
    rw [isNext, beq_iff_eq]
    constructor
    · rintro rfl
      exact ⟨isJoint, rest, rfl⟩
    · rintro ⟨_, _, ⟨⟩⟩
      rfl
  · rename_i notMark
    simp only [Bool.false_eq_true, false_iff]
    rintro ⟨isJoint, rest, isNext⟩
    exact notMark sign isJoint rest isNext

theorem Forest.starts_word_iff {forest : Forest} {text : String} :
    forest.starts (.word text) = true ↔
      ∃ rest, forest.bare = .leaf (.identifier ⟨false, text⟩) rest := by
  simp only [starts]
  split
  · rename_i name rest isNext
    rcases name with ⟨isRaw, name⟩
    simp [isNext]
  · rename_i notIdentifier
    simp only [Bool.false_eq_true, false_iff]
    rintro ⟨rest, isNext⟩
    exact notIdentifier _ rest isNext

theorem Forest.isEmpty_iff {forest : Forest} : forest.isEmpty = true ↔ forest = .nil := by
  cases forest <;> simp [isEmpty]

namespace Parser

theorem comma_eq : "," = ','.toString := by
  decide

/-- All that the parser can read from the input meets the condition. -/
def Meets {α : Type} (parser : Parser α) (input : Input) (condition : Reading α → Prop) : Prop :=
  ∀ reading, parser input = .ok reading → condition reading

variable {α β : Type} {input : Input} {condition stronger : Reading α → Prop}
  {further : Reading β → Prop} {parser other : Parser α}

theorem Meets.imp (meets : parser.Meets input stronger)
    (implies : ∀ reading, stronger reading → condition reading) : parser.Meets input condition := by
  intro reading reads
  exact implies reading (meets reading reads)

theorem meets_of_forall (always : ∀ reading, condition reading) : parser.Meets input condition := by
  intro reading _
  exact always reading

@[simp] theorem meets_true : parser.Meets input fun _ => True := by
  intro _ _
  trivial

theorem meets_iff_of_eq_ok {reading : Reading α} (reads : parser input = .ok reading) :
    parser.Meets input condition ↔ condition reading := by
  simp [Meets, reads]

@[simp] theorem meets_bind {next : α → Parser β} :
    (parser >>= next).Meets input further ↔ parser.Meets input fun first =>
      (next first.value).Meets first.input fun second =>
        further ⟨second.value, first.written ++ second.written, second.input⟩ := by
  constructor
  · intro meets first readsFirst second readsSecond
    apply meets
    simp [bind, andThen, readsFirst, readsSecond]
  · intro meets reading reads
    cases readsFirst : parser input with
    | error message => simp [bind, andThen, readsFirst] at reads
    | ok first =>
        cases readsSecond : next first.value first.input with
        | error message => simp [bind, andThen, readsFirst, readsSecond] at reads
        | ok second =>
            simp only [bind, andThen, readsFirst, readsSecond, Except.ok.injEq] at reads
            rw [← reads]
            exact meets first readsFirst second readsSecond

@[simp] theorem meets_pure {value : α} :
    (pure value : Parser α).Meets input condition ↔ condition ⟨value, .nil, input⟩ :=
  meets_iff_of_eq_ok rfl

@[simp] theorem meets_map {change : α → β} :
    (change <$> parser).Meets input further ↔ parser.Meets input fun reading =>
      further ⟨change reading.value, reading.written ++ .nil, reading.input⟩ := by
  change (parser >>= fun value => pure (change value)).Meets input further ↔ _
  simp only [meets_bind, meets_pure]

@[simp] theorem meets_discard {after : Reading PUnit → Prop} :
    (discard parser).Meets input after ↔ parser.Meets input fun reading =>
      after ⟨⟨⟩, reading.written ++ .nil, reading.input⟩ :=
  meets_map

@[simp] theorem meets_ite {decided : Prop} [Decidable decided] :
    (if decided then parser else other).Meets input condition ↔
      (decided → parser.Meets input condition) ∧ (¬decided → other.Meets input condition) := by
  by_cases holds : decided
  · simp [holds]
  · simp [holds]

@[simp] theorem meets_fail {message : String} : (fail message : Parser α).Meets input condition := by
  rintro _ ⟨⟩

@[simp] theorem meets_failHere {message : String} :
    (failHere message : Parser α).Meets input condition := by
  rintro _ ⟨⟩

@[simp] theorem meets_failExpecting {signs : List Sign} :
    (failExpecting signs : Parser α).Meets input condition := by
  cases signs with
  | nil => rintro _ ⟨⟩
  | cons sign signs => exact meets_failHere

@[simp] theorem meets_upcoming {after : Reading Forest → Prop} :
    upcoming.Meets input after ↔ after ⟨input.rest, .nil, input⟩ :=
  meets_iff_of_eq_ok rfl

@[simp] theorem meets_sees {sign : Sign} {after : Reading Bool → Prop} :
    (sees sign).Meets input after ↔ after ⟨input.rest.starts sign, .nil, input⟩ :=
  meets_iff_of_eq_ok rfl

@[simp] theorem meets_write {forest : Forest} {after : Reading Unit → Prop} :
    (write forest).Meets input after ↔ after ⟨(), forest, input⟩ :=
  meets_iff_of_eq_ok rfl

@[simp] theorem meets_captured {after : Reading (α × Forest) → Prop} :
    (captured parser).Meets input after ↔ parser.Meets input fun reading =>
      after ⟨(reading.value, reading.written), .nil, reading.input⟩ := by
  constructor
  · intro meets reading reads
    apply meets
    simp [captured, reads]
  · intro meets reading reads
    simp only [captured] at reads
    split at reads
    · cases reads
    · rename_i inner readsInner
      cases reads
      exact meets inner readsInner

@[simp] theorem meets_written {after : Reading Forest → Prop} :
    (written parser).Meets input after ↔ parser.Meets input fun reading =>
      after ⟨reading.written, .nil, reading.input⟩ := by
  simp only [written, meets_bind, meets_captured, meets_pure]
  rfl

@[simp] theorem meets_silently :
    (silently parser).Meets input condition ↔ parser.Meets input fun reading =>
      condition ⟨reading.value, .nil, reading.input⟩ := by
  simp only [silently, meets_bind, meets_captured, meets_pure]
  rfl

@[simp] theorem meets_attempt? {after : Reading (Option α) → Prop} :
    (attempt? parser).Meets input after ↔
      (∀ message, parser input = .error message → after ⟨none, .nil, input⟩) ∧
      parser.Meets input fun reading =>
        after ⟨some reading.value, reading.written, reading.input⟩ := by
  cases reads : parser input with
  | error message => simp [Meets, attempt?, reads]
  | ok reading => simp [Meets, attempt?, reads]

theorem meets_token {after : Reading Unit → Prop} : token.Meets input after ↔
    ∀ first rest, input.rest.bare = .leaf first rest →
      after ⟨(), .leaf first .nil, { input with rest }⟩ := by
  constructor
  · intro meets first rest isNext
    apply meets
    simp [token, isNext]
  · intro holds reading reads
    simp only [token] at reads
    split at reads
    · rename_i first rest isNext
      cases reads
      exact holds first rest isNext
    · cases reads

theorem tokens_one : tokens 1 = token >>= fun _ => pure () :=
  rfl

theorem meets_mark {text : String} {sign : Char} {after : Reading Unit → Prop}
    (isMark : text = sign.toString) : (marks text).Meets input after ↔
      ∀ isJoint rest, input.rest.bare = .leaf (.mark sign isJoint) rest →
        after ⟨(), .leaf (.mark sign isJoint) .nil, { input with rest }⟩ := by
  have single : text.length = 1 := by simp [isMark]
  simp only [marks, meets_bind, meets_sees, meets_ite, Forest.starts_mark_iff isMark, single,
    tokens_one, meets_token, meets_pure, meets_fail, implies_true, and_true, Forest.append_nil,
    Forest.nil_append]
  constructor
  · intro holds isJoint rest isNext
    exact holds ⟨isJoint, rest, isNext⟩ _ rest isNext
  · rintro holds ⟨isJoint, rest, isNext⟩ first other isOther
    rw [isNext] at isOther
    cases isOther
    exact holds isJoint rest isNext

theorem meets_word {text : String} {after : Reading Unit → Prop} :
    (word text).Meets input after ↔ ∀ rest,
      input.rest.bare = .leaf (.identifier ⟨false, text⟩) rest →
        after ⟨(), .word text, { input with rest }⟩ := by
  simp only [word, meets_bind, meets_sees, meets_ite, Forest.starts_word_iff, meets_token,
    meets_failHere, implies_true, and_true, Forest.nil_append]
  constructor
  · intro holds rest isNext
    exact holds ⟨rest, isNext⟩ _ rest isNext
  · rintro holds ⟨rest, isNext⟩ first other isOther
    rw [isNext] at isOther
    cases isOther
    exact holds rest isNext

theorem meets_optionalMarks {text : String} {after : Reading Bool → Prop} :
    (optionalMarks text).Meets input after ↔
      (input.rest.starts (.marks text) = true → (marks text).Meets input fun reading =>
        after ⟨true, reading.written, reading.input⟩) ∧
      (input.rest.starts (.marks text) = false → after ⟨false, .nil, input⟩) := by
  simp [optionalMarks]

theorem meets_optionalWord {text : String} {after : Reading Bool → Prop} :
    (optionalWord text).Meets input after ↔
      (∀ rest, input.rest.bare = .leaf (.identifier ⟨false, text⟩) rest →
        after ⟨true, .word text, { input with rest }⟩) ∧
      (input.rest.starts (.word text) = false → after ⟨false, .nil, input⟩) := by
  simp only [optionalWord, meets_bind, meets_sees, meets_ite, meets_word, meets_pure,
    Forest.starts_word_iff, Forest.nil_append, Forest.append_nil, Bool.not_eq_true]
  refine and_congr_left' ⟨?_, fun holds _ => holds⟩
  intro holds rest isNext
  exact holds ⟨rest, isNext⟩ rest isNext

theorem meets_anyIdentifier {after : Reading Identifier → Prop} :
    anyIdentifier.Meets input after ↔ ∀ name rest,
      input.rest.bare = .leaf (.identifier name) rest →
        after ⟨name, .ofIdentifier name, { input with rest }⟩ := by
  simp only [anyIdentifier, meets_bind, meets_upcoming]
  split
  · rename_i name rest isNext
    simp [meets_token, isNext, Forest.ofIdentifier]
  · rename_i notIdentifier
    refine ⟨fun _ name rest isNext => ?_, fun _ => meets_failHere⟩
    exact absurd isNext (notIdentifier name rest)

theorem meets_identifier {after : Reading Identifier → Prop} :
    identifier.Meets input after ↔ ∀ name rest,
      input.rest.bare = .leaf (.identifier name) rest → name.isFree = true →
        after ⟨name, .ofIdentifier name, { input with rest }⟩ := by
  simp only [identifier, meets_bind, meets_upcoming]
  split
  · rename_i name rest isNext
    simp [meets_token, isNext, Forest.ofIdentifier]
  · rename_i notIdentifier
    refine ⟨fun _ name rest isNext => ?_, fun _ => meets_failHere⟩
    exact absurd isNext (notIdentifier name rest)

theorem meets_lifetime {after : Reading Identifier → Prop} :
    lifetime.Meets input after ↔ ∀ name behind rest,
      input.rest.bare = .leaf (.mark '\'' true) behind →
        behind.bare = .leaf (.identifier name) rest →
          after ⟨name, .leaf (.mark '\'' true) (.ofIdentifier name), { input with rest }⟩ := by
  have two : tokens 2 = token >>= fun _ => token >>= fun _ => pure () := rfl
  simp only [lifetime, meets_bind, meets_upcoming, Forest.lifetime?]
  split
  · rename_i name rest isLifetime
    split at isLifetime
    · rename_i behind isMark
      split at isLifetime
      · rename_i first last isNext
        cases isLifetime
        simp only [two, meets_bind, meets_token, isMark, isNext, meets_pure, Forest.leaf.injEq,
          true_and, and_imp, forall_apply_eq_imp_iff, forall_eq', Forest.leaf_append,
          Forest.nil_append, Forest.ofIdentifier]
        constructor
        · rintro holds name _ _ rfl isOther
          rw [isNext] at isOther
          cases isOther
          exact holds
        · intro holds
          exact holds name behind rest rfl isNext
      · cases isLifetime
    · cases isLifetime
  · rename_i isNone
    simp only [meets_failHere, true_iff]
    intro name behind rest isMark isNext
    simp [isMark, isNext] at isNone

theorem meets_textLiteral {after : Reading String → Prop} :
    textLiteral.Meets input after ↔ ∀ text rest, input.rest.bare = .leaf (.literal text) rest →
      Literal.isText text = true → after ⟨text, .ofLiteral text, { input with rest }⟩ := by
  simp only [textLiteral, meets_bind, meets_upcoming]
  split
  · rename_i text rest isNext
    simp [meets_token, isNext, Forest.ofLiteral]
  · rename_i notLiteral
    refine ⟨fun _ text rest isNext => ?_, fun _ => meets_failHere⟩
    exact absurd isNext (notLiteral text rest)

theorem meets_enclosedThen {delimiter : Delimiter} {next : α → Parser β} :
    (enclosedThen delimiter parser next).Meets input further ↔
      ∀ content rest, input.rest.facing delimiter = .group delimiter content rest →
        parser.Meets { input with rest := content } fun inner =>
          (next inner.value).Meets { inner.input with rest } fun outer =>
            further ⟨outer.value, .enclosed delimiter inner.written ++ outer.written,
              { outer.input with leftover := outer.input.leftover <|>
                if inner.input.rest.isBlank then none else some delimiter }⟩ := by
  constructor
  · intro meets content rest isNext inner readsInner outer readsOuter
    apply meets
    simp [enclosedThen, isNext, readsInner, readsOuter]
  · intro holds reading reads
    simp only [enclosedThen] at reads
    split at reads
    · rename_i first content rest isNext
      split at reads
      · rename_i same
        subst same
        split at reads
        · cases reads
        · rename_i inner readsInner
          split at reads
          · cases reads
          · rename_i outer readsOuter
            cases reads
            exact holds content rest isNext inner readsInner outer readsOuter
      · cases reads
    · cases reads

theorem meets_enclosed {delimiter : Delimiter} :
    (enclosed delimiter parser).Meets input condition ↔
      ∀ content rest, input.rest.facing delimiter = .group delimiter content rest →
        parser.Meets { input with rest := content } fun inner =>
          condition ⟨inner.value, .enclosed delimiter inner.written,
            { rest, leftover := inner.input.leftover <|>
                if inner.input.rest.isBlank then none else some delimiter }⟩ := by
  simp only [enclosed, meets_enclosedThen, meets_pure, Forest.append_nil]

theorem meets_loop {step : α → Parser (Bool × α)} {start : α} :
    (loop step start).Meets input condition ↔
      (iterate step (input.rest.size + 1) start).Meets input condition :=
  Iff.rfl

/-- What each round of a loop keeps holds at the end of the loop. -/
theorem Meets.loop {step : α → Parser (Bool × α)} {start : α} (keeps : α → Input → Prop)
    (holds : keeps start input)
    (goesOn : ∀ value input, keeps value input →
      (step value).Meets input fun reading => keeps reading.value.2 reading.input) :
    (loop step start).Meets input fun reading => keeps reading.value reading.input := by
  have bounded : ∀ bound value input, keeps value input →
      (iterate step bound value).Meets input fun reading =>
        keeps reading.value reading.input := by
    intro bound
    induction bound with
    | zero =>
        intro value input holds
        exact meets_pure.mpr holds
    | succ bound ih =>
        intro value input holds
        simp only [iterate, meets_bind, meets_ite, meets_pure]
        refine Meets.imp (goesOn value input holds) ?_
        intro reading kept
        exact ⟨fun _ => ih _ _ kept, fun _ => kept⟩
  exact meets_loop.mpr (bounded _ start input holds)

/-- What holds of each element that may be read holds of all elements that are read. -/
theorem Meets.listWhile {goesOn : Forest → Bool} {holds : α → Prop}
    (element : ∀ input, parser.Meets input fun reading => holds reading.value) :
    (listWhile goesOn parser).Meets input fun reading =>
      ∀ value ∈ reading.value, holds value := by
  refine Meets.loop (fun values _ => ∀ value ∈ values, holds value) (by simp) ?_
  intro values input before
  simp only [meets_bind, meets_upcoming, meets_ite, meets_pure]
  refine ⟨?_, fun _ => before⟩
  intro _
  refine Meets.imp (element input) ?_
  intro reading held value value_mem
  rcases List.mem_append.mp value_mem with earlier | latest
  · exact before value earlier
  · rwa [List.mem_singleton.mp latest]

/-- What can be read at all holds of what is read with no token left over. -/
theorem Meets.parseAll {forest : Forest} {value : α}
    (meets : parser.Meets ⟨forest, none⟩ condition) (parses : parseAll parser forest = .ok value) :
    ∃ written rest, rest.isBlank = true ∧ condition ⟨value, written, ⟨rest, none⟩⟩ := by
  cases reads : parser ⟨forest, none⟩ with
  | error message => simp [Parser.parseAll, reads] at parses
  | ok reading =>
      rcases reading with ⟨read, written, ⟨rest, leftover⟩⟩
      cases leftover with
      | some delimiter => simp [Parser.parseAll, reads] at parses
      | none =>
          simp only [Parser.parseAll, reads] at parses
          split at parses
          · rename_i isBlank
            cases parses
            exact ⟨written, rest, isBlank, meets _ reads⟩
          · cases parses

end Parser

end BeanContainer.Source
