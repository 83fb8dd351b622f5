import BeanContainer.Proofs.Source.Reading

/-!
# What parsers do on what is known

Where it is known what comes next, a parser is run by rewriting: each way to put parsers together
has its equation, and so does each parser of one thing.

Lists with commas are taken by a loop whose bound is the size of the input. No element is read
without something being there, and parsers never go back, so the bound is never reached. Hence the
loop reads exactly the lists.
-/

namespace BeanContainer.Source

theorem Input.Precedes.leftover_eq_none {input later : Input} (precedes : input.Precedes later)
    (isNone : later.leftover = none) : input.leftover = none := by
  cases isLeft : input.leftover with
  | none => rfl
  | some delimiter => simp [precedes.remembers delimiter isLeft] at isNone

/-- No token is left of a group, nor of any before it, if that is what is remembered behind it. -/
theorem Input.isEnd_of_remembered {inner : Input} {delimiter : Delimiter}
    (isNone : (inner.leftover <|> if inner.rest.isBlank then none else some delimiter) = none) :
    inner.leftover = none ∧ inner.rest.isBlank = true := by
  cases isLeft : inner.leftover with
  | some left => simp [isLeft] at isNone
  | none => simpa [isLeft] using isNone

theorem Forest.facing_eq_bare {forest : Forest} {delimiter : Delimiter}
    (notInvisible : delimiter ≠ .invisible) : forest.facing delimiter = forest.bare :=
  if_neg notInvisible

@[simp] theorem Forest.bare_leaf {token : Token} {rest : Forest} :
    (leaf token rest).bare = leaf token rest :=
  rfl

theorem Forest.isEmpty_of_bare_leaf {forest rest : Forest} {token : Token}
    (isNext : forest.bare = .leaf token rest) : forest.isEmpty = false := by
  cases forest with
  | nil => cases isNext
  | _ => rfl

namespace Parser

variable {α β : Type} {input : Input} {parser other : Parser α} {next rest : Forest}
  {leftover : Option Delimiter}

@[simp] theorem run_pure {value : α} : (pure value : Parser α) input = .ok ⟨value, .nil, input⟩ :=
  rfl

@[simp] theorem run_bind {next : α → Parser β} : (parser >>= next) input =
    match parser input with
    | .error message => .error message
    | .ok first =>
      match next first.value first.input with
      | .error message => .error message
      | .ok second => .ok ⟨second.value, first.written ++ second.written, second.input⟩ :=
  rfl

@[simp] theorem run_upcoming : upcoming input = .ok ⟨input.rest, .nil, input⟩ :=
  rfl

@[simp] theorem run_sees {sign : Sign} :
    sees sign input = .ok ⟨input.rest.starts sign, .nil, input⟩ :=
  rfl

@[simp] theorem run_ite {decided : Prop} [Decidable decided] :
    (if decided then parser else other) input =
      if decided then parser input else other input :=
  apply_ite (fun chosen : Parser α => chosen input) decided parser other

theorem run_failHere {message : String} : (failHere message : Parser α) input =
    .error (if input.rest.isEmpty then "unexpected end of input, " ++ message else message) :=
  rfl

theorem run_token {first : Token} (isNext : next.bare = .leaf first rest) :
    token ⟨next, leftover⟩ = .ok ⟨(), .leaf first .nil, ⟨rest, leftover⟩⟩ := by
  simp [token, isNext]

theorem run_marks {text : String} {sign : Char} {isJoint : Bool} (isMark : text = sign.toString)
    (isNext : next.bare = .leaf (.mark sign isJoint) rest) : marks text ⟨next, leftover⟩ =
      .ok ⟨(), .leaf (.mark sign isJoint) .nil, ⟨rest, leftover⟩⟩ := by
  have starts : next.starts (.marks text) = true :=
    (Forest.starts_mark_iff isMark).mpr ⟨isJoint, rest, isNext⟩
  have single : text.length = 1 := by simp [isMark]
  simp [marks, starts, single, tokens_one, run_token isNext]

theorem run_anyIdentifier {name : Identifier} (isNext : next.bare = .leaf (.identifier name) rest) :
    anyIdentifier ⟨next, leftover⟩ = .ok ⟨name, .ofIdentifier name, ⟨rest, leftover⟩⟩ := by
  simp [anyIdentifier, isNext, run_token isNext, Forest.ofIdentifier]

theorem run_identifier {name : Identifier} (isFree : name.isFree = true)
    (isNext : next.bare = .leaf (.identifier name) rest) :
    identifier ⟨next, leftover⟩ = .ok ⟨name, .ofIdentifier name, ⟨rest, leftover⟩⟩ := by
  simp [identifier, isNext, isFree, run_token isNext, Forest.ofIdentifier]

theorem run_textLiteral {text : String} (isText : Literal.isText text = true)
    (isNext : next.bare = .leaf (.literal text) rest) :
    textLiteral ⟨next, leftover⟩ = .ok ⟨text, .ofLiteral text, ⟨rest, leftover⟩⟩ := by
  simp [textLiteral, isNext, isText, run_token isNext, Forest.ofLiteral]

/-- A group that is read to its end. -/
theorem run_enclosed {delimiter : Delimiter} {content : Forest} {reading : Reading α}
    (notInvisible : delimiter ≠ .invisible) (isNext : next.bare = .group delimiter content rest)
    (reads : parser ⟨content, leftover⟩ = .ok reading)
    (isRead : reading.input.rest.isBlank = true) : enclosed delimiter parser ⟨next, leftover⟩ =
      .ok ⟨reading.value, .enclosed delimiter reading.written,
        ⟨rest, reading.input.leftover⟩⟩ := by
  simp only [enclosed, enclosedThen, Forest.facing_eq_bare notInvisible, isNext, reads, if_true,
    run_pure, isRead, Forest.append_nil]
  cases reading.input.leftover with
  | none => rfl
  | some left => rfl

theorem parseAll_eq_ok_iff {forest : Forest} {value : α} : parseAll parser forest = .ok value ↔
    ∃ written rest, rest.isBlank = true ∧
      parser ⟨forest, none⟩ = .ok ⟨value, written, ⟨rest, none⟩⟩ := by
  constructor
  · have meets : parser.Meets ⟨forest, none⟩ fun reading => parser ⟨forest, none⟩ = .ok reading :=
      fun _ => id
    exact meets.parseAll
  · rintro ⟨written, rest, isBlank, reads⟩
    simp [parseAll, reads, isBlank]

theorem run_loop {step : α → Parser (Bool × α)} {start : α} :
    loop step start input = iterate step (input.rest.size + 1) start input :=
  rfl

end Parser

open BeanContainer.Source.Parser

/-- The value is read from the front of something, with nothing left in any group. -/
def Takes {α : Type} (element : Parser α) (content : Forest) (value : α) (rest : Forest) : Prop :=
  content ≠ .nil ∧ ∃ written, element ⟨content, none⟩ = .ok ⟨value, written, ⟨rest, none⟩⟩

/-- Values that are taken one after the other, with commas between them and perhaps one at the end. -/
inductive Lists {α : Type} (takes : Forest → α → Forest → Prop) : Forest → List α → Prop
  | nil : Lists takes .nil []
  | last {content : Forest} {value : α} (first : takes content value .nil) :
      Lists takes content [value]
  | cons {content behind rest : Forest} {value : α} {isJoint : Bool} {values : List α}
      (first : takes content value behind) (comma : behind.bare = .leaf (.mark ',' isJoint) rest)
      (others : Lists takes rest values) : Lists takes content (value :: values)

/-- One round of reading a list. -/
def elementStep {α : Type} (element : Parser α) (values : List α) : Parser (Bool × List α) := do
  if (← upcoming).isEmpty then return (false, values)
  let values := values ++ [← element]
  if (← upcoming).isEmpty then return (false, values)
  marks ","
  return (true, values)

variable {α : Type} {element : Parser α} {content : Forest} {values : List α} {input : Input}

theorem Forest.size_lt_of_bare {forest rest : Forest} {token : Token}
    (isNext : forest.bare = .leaf token rest) : rest.size < forest.size := by
  have shorter := forest.size_bare_le
  rw [isNext, size] at shorter
  omega

/-- What the rounds read to the end is a list. -/
theorem iterate_elementStep_lists {bound : Nat} (enough : input.rest.size < bound)
    (before : List α) :
    (iterate (elementStep element) bound before).Meets input fun reading =>
      reading.input.leftover = none → input.leftover = none ∧
        ∃ values, reading.value = before ++ values ∧ Lists (Takes element) input.rest values := by
  induction bound generalizing before input with
  | zero => omega
  | succ bound ih =>
      simp only [iterate, elementStep, meets_bind, meets_upcoming, meets_ite, meets_pure,
        meets_mark comma_eq, Forest.isEmpty_iff, Bool.false_eq_true, false_implies, true_and,
        not_true_eq_false, not_false_eq_true, forall_const, and_true]
      refine ⟨?_, ?_⟩
      · rintro isNil isNone
        rw [isNil]
        exact ⟨isNone, [], by simp, .nil⟩
      intro notNil reading reads
      have precedes := element.proceeds reads
      -- A group that was left is never forgotten: if none is in the end, then none was before.
      have takes : reading.input.leftover = none →
          input.leftover = none ∧ Takes element input.rest reading.value reading.input.rest := by
        intro isNone
        have isNoneBefore : input.leftover = none := precedes.leftover_eq_none isNone
        refine ⟨isNoneBefore, notNil, reading.written, ?_⟩
        have isInput : input = ⟨input.rest, none⟩ := by rw [← isNoneBefore]
        have isRest : reading.input = ⟨reading.input.rest, none⟩ := by rw [← isNone]
        rw [← isInput, ← isRest]
        exact reads
      refine ⟨fun isNil isNone => ?_, fun _ isJoint rest isNext => Meets.imp (ih ?_ _) ?_⟩
      · rcases takes isNone with ⟨isNoneBefore, first⟩
        rw [isNil] at first
        exact ⟨isNoneBefore, [reading.value], rfl, .last first⟩
      · have shorter := Forest.size_lt_of_bare isNext
        have shorterBefore := precedes.size_le
        change rest.size < bound
        omega
      · rintro last lists isNone
        rcases lists isNone with ⟨isNone, values, isValue, lists⟩
        rcases takes isNone with ⟨isNoneBefore, first⟩
        exact ⟨isNoneBefore, reading.value :: values, by simp [isValue], .cons first isNext lists⟩

/-- A list is read to its end, if there are rounds enough. -/
theorem Lists.run_iterate (lists : Lists (Takes element) content values) {bound : Nat}
    (enough : content.size < bound) (before : List α) :
    ∃ written, iterate (elementStep element) bound before ⟨content, none⟩ =
      .ok ⟨before ++ values, written, ⟨.nil, none⟩⟩ := by
  induction lists generalizing bound before with
  | nil =>
      rcases bound with _ | bound
      · omega
      simp [iterate, elementStep, Forest.isEmpty]
  | @last content value first =>
      rcases bound with _ | bound
      · omega
      rcases first with ⟨notNil, written, reads⟩
      simp [iterate, elementStep, reads, Forest.isEmpty_iff, notNil]
  | @cons content behind rest value isJoint values first comma others ih =>
      rcases bound with _ | bound
      · omega
      rcases first with ⟨notNil, written, reads⟩
      have shorter := Forest.size_lt_of_bare comma
      have shorterBefore : behind.size ≤ content.size := (element.proceeds reads).size_le
      have enoughRest : rest.size < bound := by omega
      have notEnd := Forest.isEmpty_of_bare_leaf comma
      rcases ih enoughRest (before ++ [value]) with ⟨writtenRest, readsRest⟩
      have isLeft : content.isEmpty = false := by simpa [← Forest.isEmpty_iff] using notNil
      simp [iterate, elementStep, reads, isLeft, notEnd, run_marks comma_eq comma, readsRest]

end BeanContainer.Source
