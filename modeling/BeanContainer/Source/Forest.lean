import BeanContainer.Source.Operator
/-!
# Forests of tokens

Source text is a forest: a sequence of tokens and of groups in brackets, which hold forests again. The
brackets may be invisible: what a code generator puts in for a type, say, is kept together by them.

Two kinds of stretches of a forest may be marked for what they are. An attribute is marked so that it can
be dropped wherever it is. An expression is marked with its operators and operands, since how it has to
be written depends on what stands around it. The marks are invisible when the forest is written out.
-/

namespace BeanContainer.Source

/-- Pairs of brackets. -/
inductive Delimiter where
  | parentheses
  | brackets
  | braces
  /-- The brackets around what a code generator puts in for a parameter. They are not written. -/
  | invisible
  deriving DecidableEq, Repr

namespace Delimiter

/-- The left bracket. -/
def opening : Delimiter → Option String
  | parentheses => some "("
  | brackets => some "["
  | braces => some "\x7b"
  | invisible => none

/-- The right bracket. -/
def closing : Delimiter → Option String
  | parentheses => some ")"
  | brackets => some "]"
  | braces => some "\x7d"
  | invisible => none

end Delimiter

/-- An identifier, which may also be a word of the language. A raw one never is. -/
structure Identifier where
  isRaw : Bool
  name : String
  deriving DecidableEq, Repr

/-- The identifier as it is written. -/
def Identifier.text (identifier : Identifier) : String :=
  if identifier.isRaw then "r#" ++ identifier.name else identifier.name

/-- The smallest parts of source text. -/
inductive Token where
  | identifier (name : Identifier)
  /-- A punctuation mark, and whether another one follows it at once. -/
  | mark (sign : Char) (isJoint : Bool)
  /-- A literal as it is written. -/
  | literal (text : String)
  deriving DecidableEq, Repr

/-- The token as it is written. -/
def Token.text : Token → String
  | .identifier name => name.text
  | .mark sign _ => sign.toString
  | .literal text => text

/-- Where an expression stands, so far as that says how it may be written. -/
inductive Place where
  /-- Between brackets or marks that keep it apart from everything else. -/
  | enclosed
  /-- At the beginning of a statement. -/
  | statement
  /-- In one of the cases of an expression that has several. -/
  | arm
  /-- In front of a block that does not belong to it. -/
  | condition
  deriving DecidableEq, Repr

/-- Expressions without operands, so far as they are written differently. -/
inductive AtomKind where
  | path
  /-- A structure that is built. -/
  | construction
  /-- The use of a code generator with its input in braces. -/
  | generated
  /-- An expression that ends in a block and needs nothing to end it. -/
  | blockLike (isLabelled : Bool)
  /-- An expression that is not looked into. -/
  | verbatim
  | other
  deriving DecidableEq, Repr

/-- What may stand behind an expression. -/
inductive TrailerKind where
  /-- A field, a call of a method, a wait, or a question mark. -/
  | access
  /-- The arguments of a call, or an index. -/
  | application
  deriving DecidableEq, Repr

/-- Expressions that leave what they are in, perhaps with a value. -/
inductive JumpKind where
  /-- Leaves a loop or a block, which may have a label. -/
  | leave (isLabelled : Bool)
  /-- Gives a value to the caller. -/
  | answer
  deriving DecidableEq, Repr

mutual

/-- A sequence of tokens, groups, attributes and expressions. -/
inductive Forest where
  | nil
  | leaf (token : Token) (rest : Forest)
  | group (delimiter : Delimiter) (content rest : Forest)
  /-- An attribute, with the identifier that its path consists of if it is only one. -/
  | tagged (name : Option Identifier) (content rest : Forest)
  | expression (place : Place) (expression : Expression) (rest : Forest)
  deriving DecidableEq, Repr

/-- An expression, with the attributes in front of it. -/
inductive Expression where
  /-- Nothing, where an operand may be missing. -/
  | absent
  | atom (kind : AtomKind) (annotations content : Forest)
  /-- Statements in braces, with a label and with attributes inside. -/
  | block (annotations label inner statements : Forest)
  | trailed (kind : TrailerKind) (annotations : Forest) (base : Expression) (trailer : Forest)
  /-- An operand after an operator. -/
  | prefixed (annotations operator : Forest) (operand : Expression)
  /-- Two operands with an operator between them. -/
  | joined (annotations : Forest) (left : Expression) (operator : Operator) (right : Expression)
  /-- A value as a value of another type. -/
  | cast (annotations : Forest) (value : Expression) (type : Forest)
  /-- A range; its ends may be missing. -/
  | range (annotations : Forest) (first : Expression) (dots : Forest) (last : Expression)
  /-- A jump; its value may be missing. -/
  | jump (kind : JumpKind) (annotations head : Forest) (value : Expression)
  /-- A closure; with a result type its body is a block. -/
  | closure (hasResult : Bool) (annotations head : Forest) (body : Expression)
  /-- A match of a pattern as a condition. -/
  | matched (annotations head : Forest) (value : Expression)
  deriving DecidableEq, Repr

end

namespace Forest

/-- One forest after the other. -/
def append : Forest → Forest → Forest
  | nil, next => next
  | leaf token rest, next => leaf token (rest.append next)
  | group delimiter content rest, next => group delimiter content (rest.append next)
  | tagged name content rest, next => tagged name content (rest.append next)
  | expression place inner rest, next => expression place inner (rest.append next)

instance : Append Forest := ⟨append⟩

/-- Forests one after the other. -/
def join : List Forest → Forest
  | [] => nil
  | first :: rest => first ++ join rest

/-- Whether there is nothing in the forest. -/
def isEmpty : Forest → Bool
  | nil => true
  | _ => false

/-- Whether there is nothing in the forest but invisible brackets. -/
def isBlank : Forest → Bool
  | nil => true
  | group .invisible content rest => content.isBlank && rest.isBlank
  | _ => false

/-- The forest without the invisible brackets in front of its first tree, unless it is blank. -/
def bare? : Forest → Option Forest
  | nil => none
  | group .invisible content rest =>
    match content.bare? with
    | some content => some (content ++ rest)
    | none => rest.bare?
  | other => some other

/-- The forest without the invisible brackets in front of its first tree. -/
def bare (forest : Forest) : Forest :=
  forest.bare?.getD nil

/-- The forest without invisible brackets around all of it. -/
def ungrouped : Forest → Forest
  | group .invisible content nil => content.ungrouped
  | other => other

/-- The forest without invisible brackets beside the other one, in front of which it stands. -/
def openOnto : Forest → Forest → Forest
  | nil, behind => behind
  | leaf token rest, behind => leaf token (rest.openOnto behind)
  | group .invisible content rest, behind =>
    match content.openOnto (rest.openOnto behind) with
    | nil => group .invisible nil nil
    | opened => opened
  | group delimiter content rest, behind => group delimiter content (rest.openOnto behind)
  | tagged name content rest, behind => tagged name content (rest.openOnto behind)
  | expression place inner rest, behind => expression place inner (rest.openOnto behind)

/--
The trees of the forest and of the invisible groups among them. If there are invisible brackets behind
the last tree, then one empty pair is left, since who reads the forest is not at its end there.
-/
def opened (forest : Forest) : Forest :=
  forest.openOnto nil

/-- Whether the sign stands among the trees. -/
def hasMark (sign : Char) : Forest → Bool
  | nil => false
  | leaf (.mark other _) rest => sign == other || rest.hasMark sign
  | leaf _ rest | group _ _ rest | tagged _ _ rest | expression _ _ rest => rest.hasMark sign

/-- Whether the last tree is a group in braces. -/
def endsWithBraces : Forest → Bool
  | nil => false
  | group .braces _ nil => true
  | leaf _ rest | group _ _ rest | tagged _ _ rest | expression _ _ rest => rest.endsWithBraces

/--
Whether the last token is a word that may be a segment of a path, but takes no arguments. Any other
path in front of a left angle bracket would take the bracket as its own.
-/
def endsInPathWord : Forest → Bool
  | nil => false
  | leaf (.mark '\'' _) (leaf _ rest) => rest.endsInPathWord
  | leaf (.identifier name) nil =>
    !name.isRaw && ["super", "self", "crate", "try"].contains name.name
  | leaf _ rest | group _ _ rest | tagged _ _ rest | expression _ _ rest => rest.endsInPathWord

/-- A word of the language, or a plain identifier. -/
def word (text : String) : Forest :=
  leaf (.identifier ⟨false, text⟩) nil

/-- An identifier. -/
def ofIdentifier (identifier : Identifier) : Forest :=
  leaf (.identifier identifier) nil

/-- A literal. -/
def ofLiteral (text : String) : Forest :=
  leaf (.literal text) nil

/-- Punctuation marks, each joint with the next one. -/
def marks (text : String) : Forest :=
  let rec go : List Char → Forest
    | [] => nil
    | [last] => leaf (.mark last false) nil
    | first :: rest => leaf (.mark first true) (go rest)
  go text.toList

/-- A forest in brackets. -/
def enclosed (delimiter : Delimiter) (content : Forest) : Forest :=
  group delimiter content nil

/-- An expression in its place. -/
def ofExpression (place : Place) (inner : Expression) : Forest :=
  expression place inner nil

end Forest

mutual

/-- The number of tokens and brackets. -/
def Forest.size : Forest → Nat
  | .nil => 0
  | .leaf _ rest => rest.size + 1
  | .group _ content rest => content.size + rest.size + 2
  | .tagged _ content rest => content.size + rest.size + 1
  | .expression _ inner rest => inner.size + rest.size

/-- The number of tokens and brackets. -/
def Expression.size : Expression → Nat
  | .absent => 0
  | .atom _ annotations content => annotations.size + content.size
  | .block annotations label inner statements =>
    annotations.size + label.size + inner.size + statements.size + 2
  | .trailed _ annotations base trailer => annotations.size + base.size + trailer.size
  | .prefixed annotations operator operand => annotations.size + operator.size + operand.size
  | .joined annotations left operator right =>
    annotations.size + left.size + operator.text.length + right.size
  | .cast annotations value type => annotations.size + value.size + type.size + 1
  | .range annotations first dots last =>
    annotations.size + first.size + dots.size + last.size
  | .jump _ annotations head value => annotations.size + head.size + value.size
  | .closure _ annotations head body => annotations.size + head.size + body.size
  | .matched annotations head value => annotations.size + head.size + value.size

end

@[simp] theorem Forest.nil_append (forest : Forest) : .nil ++ forest = forest :=
  rfl

@[simp] theorem Forest.leaf_append (token : Token) (rest forest : Forest) :
    leaf token rest ++ forest = leaf token (rest ++ forest) :=
  rfl

@[simp] theorem Forest.group_append (delimiter : Delimiter) (content rest forest : Forest) :
    group delimiter content rest ++ forest = group delimiter content (rest ++ forest) :=
  rfl

theorem Forest.size_append : ∀ forest other : Forest,
    (forest ++ other).size = forest.size + other.size
  | .nil, other => (Nat.zero_add other.size).symm
  | .leaf token rest, other => by
    change (rest ++ other).size + 1 = rest.size + 1 + other.size
    rw [size_append rest other]
    omega
  | .group delimiter content rest, other => by
    change content.size + (rest ++ other).size + 2 = content.size + rest.size + 2 + other.size
    rw [size_append rest other]
    omega
  | .tagged name content rest, other => by
    change content.size + (rest ++ other).size + 1 = content.size + rest.size + 1 + other.size
    rw [size_append rest other]
    omega
  | .expression place inner rest, other => by
    change inner.size + (rest ++ other).size = inner.size + rest.size + other.size
    rw [size_append rest other]
    omega

theorem Forest.size_le_of_bare? {forest : Forest} : ∀ {found : Forest},
    forest.bare? = some found → found.size ≤ forest.size := by
  induction forest using bare?.induct with
  | case1 => simp [bare?]
  | case2 content rest opened isOpened ihContent =>
      intro found isFound
      simp only [bare?, isOpened, Option.some.injEq] at isFound
      have shorter := ihContent isOpened
      rw [← isFound, size_append, size]
      omega
  | case3 content rest isBlank ihContent ihRest =>
      intro found isFound
      simp only [bare?, isBlank] at isFound
      have shorter := ihRest isFound
      rw [size]
      omega
  | case4 other notNil notInvisible =>
      intro found isFound
      rw [bare?] at isFound
      · cases isFound
        exact Nat.le_refl _
      · exact notNil
      · exact notInvisible

theorem Forest.size_bare_le (forest : Forest) : forest.bare.size ≤ forest.size := by
  cases isFound : forest.bare? with
  | none => simp [bare, isFound, size]
  | some found => simpa [bare, isFound] using size_le_of_bare? isFound

/--
What is in front of the place in the forest behind which no more than the given number of tokens and
brackets is left, counting those of what stands behind the forest. An invisible group that the place
is in is opened.
-/
def Forest.upTo (left : Nat) : Nat → Forest → Forest
  | _, .nil => .nil
  | behind, .leaf token rest =>
    if rest.size + 1 + behind ≤ left then .nil else .leaf token (rest.upTo left behind)
  | behind, .group delimiter content rest =>
    if content.size + rest.size + 2 + behind ≤ left then .nil
    else if delimiter = .invisible ∧ rest.size + behind < left then
      content.upTo left (rest.size + behind)
    else .group delimiter content (rest.upTo left behind)
  | behind, .tagged name content rest =>
    if content.size + rest.size + 1 + behind ≤ left then .nil
    else .tagged name content (rest.upTo left behind)
  | behind, .expression place inner rest =>
    if inner.size + rest.size + behind ≤ left then .nil
    else .expression place inner (rest.upTo left behind)

/-- What was read of the forest when the other one is left of it. -/
def Forest.until (forest rest : Forest) : Forest :=
  forest.upTo rest.size 0

mutual

/-- The tokens and brackets as they are written. -/
def Forest.words : Forest → List String
  | .nil => []
  | .leaf token rest => token.text :: rest.words
  | .group delimiter content rest =>
    delimiter.opening.toList ++ content.words ++ delimiter.closing.toList ++ rest.words
  | .tagged _ content rest => content.words ++ rest.words
  | .expression _ inner rest => inner.words ++ rest.words

/-- The tokens and brackets of the expression, with no parentheses put around its operands. -/
def Expression.words : Expression → List String
  | .absent => []
  | .atom _ annotations content => annotations.words ++ content.words
  | .block annotations label inner statements =>
    annotations.words ++ label.words ++ Delimiter.braces.opening.toList ++ inner.words ++
      statements.words ++ Delimiter.braces.closing.toList
  | .trailed _ annotations base trailer => annotations.words ++ base.words ++ trailer.words
  | .prefixed annotations operator operand =>
    annotations.words ++ operator.words ++ operand.words
  | .joined annotations left operator right =>
    annotations.words ++ left.words ++ operator.text.toList.map (·.toString) ++ right.words
  | .cast annotations value type => annotations.words ++ value.words ++ "as" :: type.words
  | .range annotations first dots last =>
    annotations.words ++ first.words ++ dots.words ++ last.words
  | .jump _ annotations head value => annotations.words ++ head.words ++ value.words
  | .closure _ annotations head body => annotations.words ++ head.words ++ body.words
  | .matched annotations head value => annotations.words ++ head.words ++ value.words

end

mutual

/-- The forest without the attributes whose path is one of the given identifiers. -/
def Forest.without (isDropped : Identifier → Bool) : Forest → Forest
  | .nil => .nil
  | .leaf token rest => .leaf token (rest.without isDropped)
  | .group delimiter content rest =>
    .group delimiter (content.without isDropped) (rest.without isDropped)
  | .tagged name content rest =>
    if name.any isDropped then rest.without isDropped
    else .tagged name (content.without isDropped) (rest.without isDropped)
  | .expression place inner rest =>
    .expression place (inner.without isDropped) (rest.without isDropped)

/-- The expression without the attributes whose path is one of the given identifiers. -/
def Expression.without (isDropped : Identifier → Bool) : Expression → Expression
  | .absent => .absent
  | .atom kind annotations content =>
    .atom kind (annotations.without isDropped) (content.without isDropped)
  | .block annotations label inner statements =>
    .block (annotations.without isDropped) (label.without isDropped) (inner.without isDropped)
      (statements.without isDropped)
  | .trailed kind annotations base trailer =>
    .trailed kind (annotations.without isDropped) (base.without isDropped)
      (trailer.without isDropped)
  | .prefixed annotations operator operand =>
    .prefixed (annotations.without isDropped) (operator.without isDropped)
      (operand.without isDropped)
  | .joined annotations left operator right =>
    .joined (annotations.without isDropped) (left.without isDropped) operator
      (right.without isDropped)
  | .cast annotations value type =>
    .cast (annotations.without isDropped) (value.without isDropped) (type.without isDropped)
  | .range annotations first dots last =>
    .range (annotations.without isDropped) (first.without isDropped) (dots.without isDropped)
      (last.without isDropped)
  | .jump kind annotations head value =>
    .jump kind (annotations.without isDropped) (head.without isDropped) (value.without isDropped)
  | .closure hasResult annotations head body =>
    .closure hasResult (annotations.without isDropped) (head.without isDropped)
      (body.without isDropped)
  | .matched annotations head value =>
    .matched (annotations.without isDropped) (head.without isDropped) (value.without isDropped)

end

namespace Expression

/-- Whether there is nothing. -/
def isAbsent : Expression → Bool
  | absent => true
  | _ => false

/-- The expression with attributes in front of its own. What is not looked into takes none. -/
def annotate (more : Forest) : Expression → Expression
  | absent => absent
  | atom .verbatim annotations content => atom .verbatim annotations content
  | atom kind annotations content => atom kind (more ++ annotations) content
  | block annotations label inner statements => block (more ++ annotations) label inner statements
  | trailed kind annotations base trailer => trailed kind (more ++ annotations) base trailer
  | prefixed annotations operator operand => prefixed (more ++ annotations) operator operand
  | joined annotations left operator right => joined (more ++ annotations) left operator right
  | cast annotations value type => cast (more ++ annotations) value type
  | range annotations first dots last => range (more ++ annotations) first dots last
  | jump kind annotations head value => jump kind (more ++ annotations) head value
  | closure hasResult annotations head body => closure hasResult (more ++ annotations) head body
  | matched annotations head value => matched (more ++ annotations) head value

/--
The expression with the attributes of its statement, which go to its first operand as far as only
operators between operands and casts lead there. What is not looked into gets them as they were read.
-/
def annotateFirst (more asRead : Forest) : Expression → Expression
  | joined annotations left operator right =>
    joined annotations (left.annotateFirst more asRead) operator right
  | cast annotations value type => cast annotations (value.annotateFirst more asRead) type
  | atom .verbatim annotations content => atom .verbatim annotations (asRead ++ content)
  | other => other.annotate more

/-- Whether the expression is a range. -/
def isRange : Expression → Bool
  | range .. => true
  | _ => false

/-- Whether the expression compares two operands. -/
def isComparison : Expression → Bool
  | joined _ _ operator _ => operator.precedence == Precedence.comparison
  | _ => false

/-- Whether the expression is not looked into. -/
def isVerbatim : Expression → Bool
  | atom .verbatim _ _ => true
  | _ => false

/-- Whether the expression ends in a block and needs nothing to end it. -/
def endsInBlock : Expression → Bool
  | block .. | atom (.blockLike _) _ _ => true
  | _ => false

/-- Whether the expression is a whole statement, with nothing to end it. -/
def isStatement : Expression → Bool
  | atom .generated _ _ => true
  | other => other.endsInBlock

/-- Whether the first thing in the expression is a label. -/
def startsWithLabel : Expression → Bool
  | block _ label _ _ => !label.isEmpty
  | atom (.blockLike isLabelled) _ _ => isLabelled
  | trailed _ _ base _ => base.startsWithLabel
  | joined _ left _ _ => left.startsWithLabel
  | cast _ value _ => value.startsWithLabel
  | range _ first _ _ => first.startsWithLabel
  | _ => false

end Expression

end BeanContainer.Source
