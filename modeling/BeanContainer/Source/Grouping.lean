import BeanContainer.Source.Forest
/-!
# Operands in parentheses

An expression is written so that it is read back as it is. Where what stands around an operand would
be taken for a part of it, or the operand for a part of what stands around it, the operand is put in
parentheses. Most often the precedence of the operators decides. Expressions that take all that
follows, ranges without an end, and expressions that end in a block need a closer look: whoever reads
on behind them has to find the next operator just where the expression ends.
-/

namespace BeanContainer.Source

/-- What stands around an expression. -/
structure Surroundings where
  /-- The precedence of the operator before it. -/
  previous : Precedence := Precedence.jump
  /-- The precedence of the operator after it; the lowest one if there is none. -/
  next : Precedence := Precedence.jump
  /-- Whether it is a statement. -/
  isStatement : Bool := false
  /-- Whether a statement starts with it and goes on after it. -/
  startsStatement : Bool := false
  /-- Whether it is one of several cases. -/
  isArm : Bool := false
  /-- Whether one of several cases starts with it and goes on after it. -/
  startsArm : Bool := false
  /-- Whether it stands in a condition. -/
  isCondition : Bool := false
  /-- Whether a condition ends with it. -/
  endsCondition : Bool := false
  /-- Whether an operand of a condition that may be missing starts with it. -/
  startsOptional : Bool := false
  /-- Whether an expression could begin where the operator after it stands. -/
  nextBegins : Bool := false
  /-- Whether the operator after it could open arguments in angle brackets. -/
  nextOpens : Bool := false
  /-- Whether an operator after it goes on with it. -/
  nextContinues : Bool := false
  deriving DecidableEq, Repr

namespace Surroundings

/-- What stands around an expression in the given place. -/
def ofPlace : Place → Surroundings
  | .enclosed => {}
  | .statement => { isStatement := true }
  | .arm => { isArm := true }
  | .condition => { isCondition := true, endsCondition := true }

/-- What stands around the first operand, which an operator or something in brackets follows. -/
def beforeOperator (around : Surroundings) (mayBegin mayOpen : Bool) (next : Precedence) :
    Surroundings :=
  { around with
    next
    isStatement := false
    startsStatement := around.isStatement || around.startsStatement
    isArm := false
    startsArm := around.isArm || around.startsArm
    endsCondition := false
    nextBegins := mayBegin
    nextOpens := mayOpen
    nextContinues := true }

/-- What stands around the first operand, which an access follows. -/
def beforeAccess (around : Surroundings) : Surroundings :=
  { around with
    next := Precedence.closed
    isStatement := around.isStatement || around.startsStatement
    startsStatement := false
    isArm := around.isArm || around.startsArm
    startsArm := false
    endsCondition := false
    nextBegins := false
    nextOpens := false
    nextContinues := true }

/--
What stands around the last operand. An operand may be read as if it stood in no condition, and it may
be one that can be missing.
-/
def afterOperator (around : Surroundings) (allowsStruct isOptional : Bool)
    (previous : Precedence) : Surroundings :=
  { around with
    previous
    isStatement := false
    startsStatement := false
    isArm := false
    startsArm := false
    isCondition := around.isCondition && !allowsStruct
    startsOptional := around.isCondition && isOptional }

end Surroundings

/--
How a reader fares who comes to the end of an expression and looks for the operator after it: cannot
go on, stops there, or takes the operator for a part of the expression.
-/
inductive ReadingEnd where
  | fails
  | stops
  | takes
  deriving DecidableEq, Repr

namespace Expression

/-- The precedence of an expression with attributes but no operator. -/
private def closedPrecedence (annotations : Forest) : Precedence :=
  if annotations.isEmpty then Precedence.closed else Precedence.prefixed

/-- The precedence of an expression by itself. -/
def precedence : Expression → Precedence
  | absent | atom .verbatim _ _ => Precedence.closed
  | atom _ annotations _ | block annotations _ _ _ | trailed _ annotations _ _ =>
    closedPrecedence annotations
  | prefixed .. => Precedence.prefixed
  | joined _ _ operator _ => operator.precedence
  | cast .. => Precedence.cast
  | range .. => Precedence.range
  | jump _ _ _ value => if value.isAbsent then Precedence.closed else Precedence.jump
  | closure hasResult annotations _ _ =>
    if hasResult then closedPrecedence annotations else Precedence.jump
  | matched .. => Precedence.matching

/--
The precedence of an expression where it stands. In front of an operator that could begin a value, a
jump without a value is loose; so is a cast to a path in front of one that could open arguments of the
path. At the end, what takes all that follows takes nothing.
-/
def precedenceIn (around : Surroundings) (inner : Expression) : Precedence :=
  let isEmptyJump := match inner with
    | jump _ _ _ value => value.isAbsent
    | _ => false
  let takesAll := match inner with
    | jump .. | closure .. | matched .. => true
    | range _ first _ _ => first.isAbsent
    | _ => false
  let isCastToPath := match inner with
    | cast _ _ type => type.endsInPathWord
    | _ => false
  if around.nextBegins && isEmptyJump then Precedence.jump
  else if !around.nextContinues && takesAll then Precedence.prefixed
  else if around.nextOpens && isCastToPath then Precedence.jump
  else inner.precedence

/-- Whether the expression needs parentheses lest a statement, a case or a condition ends too early. -/
def endsEarly (around : Surroundings) (inner : Expression) : Bool :=
  let isLet := match inner with
    | matched .. => true
    | _ => false
  let isStructure := match inner with
    | atom .construction _ _ => true
    | _ => false
  let isEmptyAnswer := match inner with
    | jump .answer _ _ value => value.isAbsent
    | _ => false
  let mayGoOn := match inner with
    | jump (.leave _) _ _ value => value.isAbsent
    | atom .path _ _ => true
    | range _ _ _ last => last.isAbsent
    | _ => false
  let isPlainBlock := match inner with
    | block annotations label attributes _ =>
      annotations.isEmpty && label.isEmpty && attributes.isEmpty
    | _ => false
  (around.startsStatement && inner.isStatement) ||
    ((around.isStatement || around.startsStatement) && isLet) ||
    (around.startsArm && inner.endsInBlock) ||
    (around.isCondition && isStructure) ||
    (around.endsCondition && isEmptyAnswer) ||
    (around.endsCondition && !around.isCondition && mayGoOn) ||
    (around.startsOptional && isPlainBlock)

/-- Whether a reader who looks for an operand of the operator before it finds the whole expression. -/
def isReached (around : Surroundings) : Expression → Bool
  | joined _ _ operator _ =>
    if operator.precedence == Precedence.assignment then around.previous ≤ Precedence.assignment
    else around.previous < operator.precedence
  | cast .. => around.previous < Precedence.cast
  | range _ first _ _ => first.isAbsent || around.previous < Precedence.assignment
  | _ => true

/--
The precedence of a last operand, given how a reader fares at its end. An operand that is loose but
cannot be mistaken counts as tight.
-/
def lastPrecedence (around : Surroundings) (inner : Expression) (reading : Unit → ReadingEnd) :
    Precedence :=
  let plain := inner.precedenceIn around
  let isLoose :=
    if [Precedence.assignment, Precedence.matching, Precedence.prefixed].contains around.previous then
      plain < around.previous
    else plain ≤ around.previous
  let isUnmistaken :=
    [Precedence.range, Precedence.disjunction, Precedence.conjunction].contains around.next ||
      !around.nextBegins
  if isLoose && isUnmistaken && inner.isReached around && reading () != .takes then
    Precedence.prefixed
  else plain

/--
How a reader fares at the end of the expression, who reads operands of the given precedence. The two
bounds say how much better than a failure and than a stop the outcome counts further outside; what
counts as the best outcome anyway is not looked into.
-/
def readingEnd : Expression → Surroundings → Precedence → Nat → Nat → ReadingEnd
  | inner, around, base, failure, stop =>
    let byPrecedence : ReadingEnd :=
      if around.next == Precedence.jump ||
          (if [Precedence.assignment, Precedence.comparison].contains base then base ≤ around.next
            else base < around.next) then .takes
      else .stops
    let isClosed := around.next == Precedence.closed
    let failureBelow := if isClosed then failure else 1
    let stopBelow := if byPrecedence = .takes then 1 else 0
    let isDecided :=
      if isClosed then 2 ≤ failure && (byPrecedence == .takes || 1 ≤ stop) else 1 ≤ stop
    if inner.endsEarly around then byPrecedence
    else
      match inner with
      | joined .nil _ operator right =>
        let below := around.afterOperator false false operator.precedence
        if operator = .assign then
          if if isClosed then 2 ≤ failure else 1 ≤ stop then .takes
          else
            match right.readingEnd below Precedence.assignment failureBelow 1 with
            | .fails => if isClosed then .fails else .stops
            | _ => .takes
        else if isDecided then .takes
        else if operator.precedence == Precedence.comparison &&
            around.next == Precedence.comparison then .takes
        else
          match right.readingEnd below operator.precedence failureBelow stopBelow with
          | .takes => .takes
          | .stops => byPrecedence
          | .fails =>
            if operator.precedence != Precedence.assignment &&
                right.lastPrecedence below (fun _ => right.readingEnd below below.previous 1 0) ≤
                  operator.precedence then
              byPrecedence
            else if isClosed then .fails
            else .stops
      | prefixed _ _ operand =>
        if isDecided then .takes
        else
          let below := around.afterOperator false false Precedence.prefixed
          match operand.readingEnd below base failureBelow stopBelow with
          | .takes => .takes
          | .stops => byPrecedence
          | .fails =>
            let looseness := operand.lastPrecedence below
              fun _ => operand.readingEnd below below.previous 1 0
            if looseness < Precedence.prefixed then byPrecedence
            else if isClosed then .fails
            else .stops
      | range .nil _ _ last =>
        if last.isAbsent then if around.nextBegins then .takes else .fails
        else if 2 ≤ failure then .takes
        else
          let below := around.afterOperator false true Precedence.range
          let isNear := [Precedence.assignment, Precedence.range].contains around.next
          let outcome := last.readingEnd below Precedence.range failure (if isNear then 0 else 1)
          if outcome = .fails || (outcome = .stops && isNear) then
            let looseness := last.lastPrecedence below
              fun _ => last.readingEnd below below.previous 1 0
            if looseness ≤ Precedence.range then .takes else .fails
          else .takes
      | jump kind _ _ value =>
        if value.isAbsent then
          if around.next == Precedence.assignment && Precedence.assignment < base then .fails
          else .takes
        else
          let (isLabelClear, isOptional) := match kind with
            | .leave isLabelled => (isLabelled || !value.startsWithLabel, true)
            | .answer => (true, false)
          if 1 ≤ stop || !isLabelClear then .takes
          else
            match value.readingEnd (around.afterOperator true isOptional Precedence.jump)
                Precedence.jump 1 1 with
            | .fails => .stops
            | _ => .takes
      | closure _ _ _ body =>
        if 1 ≤ stop then .takes
        else
          match body.readingEnd (around.afterOperator false false Precedence.jump)
              Precedence.jump 1 1 with
          | .fails => .stops
          | _ => .takes
      | matched _ _ value =>
        if 1 ≤ stop then .takes
        else
          let below := around.afterOperator false false Precedence.matching
          let isLooser := decide (around.next < Precedence.matching)
          match value.readingEnd below Precedence.matching 1 (if isLooser then 0 else 1) with
          | .takes => .takes
          | outcome =>
            if isLooser then .stops
            else if value.lastPrecedence below
                (fun _ => value.readingEnd below below.previous 1 0) < Precedence.matching then .takes
            else if outcome = .fails then .stops
            else .takes
      | _ => byPrecedence

/--
The precedence of a first operand. One that a reader finds whole, and at whose end the reader stops, is
as tight as can be.
-/
def firstPrecedence (around : Surroundings) (inner : Expression) : Precedence :=
  if (!around.nextBegins || around.next == Precedence.range) &&
      inner.readingEnd around Precedence.jump 0 0 == .stops && inner.isReached around then
    Precedence.closed
  else inner.precedenceIn around

/-- The precedence of a last operand where it stands. -/
def lastPrecedenceIn (around : Surroundings) (inner : Expression) : Precedence :=
  inner.lastPrecedence around fun _ => inner.readingEnd around around.previous 1 0

/-- Whether the body of a closure with a result type can be written as it is. -/
def isPlainBlock : Expression → Bool
  | block annotations label _ _ => annotations.isEmpty && label.isEmpty
  | _ => false

end Expression

mutual

/-- The forest with parentheses around the operands that need them, and without marks of expressions. -/
def Forest.settled : Forest → Forest
  | .nil => .nil
  | .leaf token rest => .leaf token rest.settled
  | .group delimiter content rest => .group delimiter content.settled rest.settled
  | .tagged name content rest => .tagged name content.settled rest.settled
  | .expression place inner rest => inner.settled false (.ofPlace place) ++ rest.settled

/--
The expression with parentheses around the operands that need them, and around all of it if that is
asked for or if what stands around the expression requires it. In parentheses nothing stands around it.
-/
def Expression.settled : Expression → Bool → Surroundings → Forest
  | inner, isGrouped, outside =>
    let outside := if isGrouped then {} else outside
    let isKeptApart := inner.endsEarly outside
    let outside := if isKeptApart then {} else outside
    let group (needed : Bool) (content : Forest) : Forest :=
      if needed then .enclosed .parentheses content else content
    group isGrouped <| group isKeptApart <|
      match inner with
      | .absent => .nil
      | .atom _ annotations content => annotations.settled ++ content.settled
      | .block annotations label inner statements =>
        annotations.settled ++ label.settled ++
          .enclosed .braces (inner.settled ++ statements.settled)
      | .trailed kind annotations base trailer =>
        let around := match kind with
          | .access => outside.beforeAccess
          | .application => outside.beforeOperator true false Precedence.closed
        annotations.settled ++
          base.settled (base.firstPrecedence around < Precedence.closed) around ++ trailer.settled
      | .prefixed annotations operator operand =>
        let around := outside.afterOperator false false Precedence.prefixed
        annotations.settled ++ operator.settled ++
          operand.settled (operand.lastPrecedenceIn around < Precedence.prefixed) around
      | .joined annotations left operator right =>
        let outside := if annotations.isEmpty then outside else {}
        let before := outside.beforeOperator operator.mayBegin operator.mayOpen operator.precedence
        let after := outside.afterOperator false false operator.precedence
        let first := left.firstPrecedence before
        let isLeftGrouped : Bool :=
          if operator.precedence == Precedence.assignment then first ≤ Precedence.range
          else if operator.precedence == Precedence.comparison then first ≤ operator.precedence
          else first < operator.precedence
        let isRightGrouped := operator.precedence != Precedence.assignment &&
          right.lastPrecedenceIn after ≤ operator.precedence
        annotations.settled ++ group (!annotations.isEmpty)
          (left.settled isLeftGrouped before ++ .marks operator.text ++
            right.settled isRightGrouped after)
      | .cast annotations value type =>
        let outside := if annotations.isEmpty then outside else {}
        let around := outside.beforeOperator false false Precedence.cast
        annotations.settled ++ group (!annotations.isEmpty)
          (value.settled (value.firstPrecedence around < Precedence.cast) around ++ .word "as" ++
            type.settled)
      | .range annotations first dots last =>
        let outside := if annotations.isEmpty then outside else {}
        let before := outside.beforeOperator true false Precedence.range
        let after := outside.afterOperator false true Precedence.range
        let isFirstGrouped := !first.isAbsent && first.firstPrecedence before ≤ Precedence.range
        let isLastGrouped := !last.isAbsent && last.lastPrecedenceIn after ≤ Precedence.range
        annotations.settled ++ group (!annotations.isEmpty)
          (first.settled isFirstGrouped before ++ dots.settled ++ last.settled isLastGrouped after)
      | .jump kind annotations head value =>
        let (isGrouped, isOptional) := match kind with
          | .leave isLabelled => (!isLabelled && value.startsWithLabel, true)
          | .answer => (false, false)
        annotations.settled ++ head.settled ++
          value.settled isGrouped (outside.afterOperator true isOptional Precedence.jump)
      | .closure hasResult annotations head body =>
        if hasResult && !body.isPlainBlock then
          annotations.settled ++ head.settled ++
            .enclosed .braces (body.settled false (.ofPlace .statement))
        else
          annotations.settled ++ head.settled ++
            body.settled false (outside.afterOperator false false Precedence.jump)
      | .matched annotations head value =>
        let around := outside.afterOperator false false Precedence.matching
        annotations.settled ++ head.settled ++
          value.settled (value.lastPrecedenceIn around < Precedence.matching) around

end

/-- The text of the forest, with a blank between every two tokens. -/
def Forest.text (forest : Forest) : String :=
  " ".intercalate forest.settled.words

end BeanContainer.Source
