import BeanContainer.Source.Forest
import BeanContainer.Source.Literal
/-!
# Parsers of forests

A parser reads trees from the front of a forest and writes a forest: as a rule the one that it read,
with its attributes marked. It ends in a value, or fails with a message. What a group holds beyond
what its parser asked for does not stop the parser, but is remembered, and fails the whole.
-/

namespace BeanContainer.Source

/-- What a parser has before it. -/
structure Input where
  rest : Forest
  /-- The first group that was not read to its end. -/
  leftover : Option Delimiter

/-- A value read, what was written for it, and what is before the parser now. -/
structure Reading (α : Type) where
  value : α
  written : Forest
  input : Input

/--
What may be before a parser after some reading: no more than was there before, and no group that was
left without having been read to its end is forgotten.
-/
structure Input.Precedes (input later : Input) : Prop where
  size_le : later.rest.size ≤ input.rest.size
  remembers : ∀ delimiter, input.leftover = some delimiter → later.leftover = some delimiter

theorem Input.Precedes.refl (input : Input) : input.Precedes input :=
  ⟨Nat.le_refl _, fun _ => id⟩

theorem Input.Precedes.trans {input later last : Input} (first : input.Precedes later)
    (second : later.Precedes last) : input.Precedes last :=
  ⟨Nat.le_trans second.size_le first.size_le,
    fun delimiter isLeft => second.remembers delimiter (first.remembers delimiter isLeft)⟩

/-- A parser of values. It never goes back. -/
structure Parser (α : Type) where
  run : Input → Except String (Reading α)
  proceeds : ∀ {input reading}, run input = .ok reading → input.Precedes reading.input

instance {α : Type} : CoeFun (Parser α) fun _ => Input → Except String (Reading α) :=
  ⟨Parser.run⟩

/-- What may come next. -/
inductive Sign where
  | marks (text : String)
  | word (text : String)
  | identifier
  /-- An identifier or a word of the language. -/
  | anyIdentifier
  | lifetime
  | literal
  | textLiteral
  | group (delimiter : Delimiter)
  deriving DecidableEq, Repr

/-- The words of the language, none of which can be an identifier. -/
def reservedWords : List String :=
  ["_", "abstract", "as", "async", "await", "become", "box", "break", "const", "continue", "crate",
    "do", "dyn", "else", "enum", "extern", "false", "final", "fn", "for", "if", "impl", "in", "let",
    "loop", "macro", "match", "mod", "move", "mut", "override", "priv", "pub", "ref", "return",
    "Self", "self", "static", "struct", "super", "trait", "true", "try", "type", "typeof", "unsafe",
    "unsized", "use", "virtual", "where", "while", "yield"]

/-- Whether the identifier is no word of the language. -/
def Identifier.isFree (identifier : Identifier) : Bool :=
  identifier.isRaw || !reservedWords.contains identifier.name

/-- The forest for a reader who looks for such brackets: invisible ones must be looked for. -/
def Forest.facing (delimiter : Delimiter) (forest : Forest) : Forest :=
  if delimiter = .invisible then forest else forest.bare

theorem Forest.size_facing_le (forest : Forest) (delimiter : Delimiter) :
    (forest.facing delimiter).size ≤ forest.size := by
  unfold facing
  split
  · exact Nat.le_refl _
  · exact forest.size_bare_le

/-- Whether the forest starts with the punctuation marks, joint with each other. -/
def Forest.startsWithMarks : List Char → Forest → Bool
  | [], _ => false
  | sign :: more, forest =>
    match forest.bare with
    | .leaf (.mark first isJoint) rest =>
      sign == first && (more.isEmpty || (isJoint && rest.startsWithMarks more))
    | _ => false

/-- The lifetime that the forest starts with, and what follows it. -/
def Forest.lifetime? (forest : Forest) : Option (Identifier × Forest) :=
  match forest.bare with
  | .leaf (.mark '\'' true) rest =>
    match rest.bare with
    | .leaf (.identifier name) rest => some (name, rest)
    | _ => none
  | _ => none

/-- The literal that the forest starts with, as it is written, and whether a minus sign precedes it. -/
def Forest.literal? (forest : Forest) : Option (Bool × String) :=
  match forest.bare with
  | .leaf (.literal text) _ => some (false, text)
  | .leaf (.identifier name) _ =>
    if !name.isRaw && (name.name == "true" || name.name == "false") then some (false, name.name)
    else none
  | .leaf (.mark '-' _) rest =>
    match rest.bare with
    | .leaf (.literal text) _ => if Literal.isNumber text then some (true, text) else none
    | _ => none
  | _ => none

/-- Whether the forest starts with the sign. A number may be negative. -/
def Forest.starts (forest : Forest) (sign : Sign) : Bool :=
  match sign with
  | .marks text => forest.startsWithMarks text.toList
  | .lifetime => forest.lifetime?.isSome
  | .literal => forest.literal?.isSome
  | .word text =>
    match forest.bare with
    | .leaf (.identifier name) _ => !name.isRaw && name.name == text
    | _ => false
  | .identifier =>
    match forest.bare with
    | .leaf (.identifier name) _ => name.isFree
    | _ => false
  | .anyIdentifier =>
    match forest.bare with
    | .leaf (.identifier _) _ => true
    | _ => false
  | .textLiteral =>
    match forest.bare with
    | .leaf (.literal text) _ => Literal.isText text
    | _ => false
  | .group delimiter =>
    match forest.facing delimiter with
    | .group first _ _ => delimiter == first
    | _ => false

/-- Whether the forest starts with one of the signs. -/
def Forest.startsAny (forest : Forest) (signs : List Sign) : Bool :=
  signs.any forest.starts

/-- The forest without its first tree. A lifetime counts as one. -/
def Forest.skip (forest : Forest) : Forest :=
  match forest.bare with
  | .nil => .nil
  | .leaf (.mark '\'' true) (.leaf (.identifier _) rest) => rest
  | .leaf _ rest | .group _ _ rest | .tagged _ _ rest | .expression _ _ rest => rest

/-- The forest without the word, if it starts with it. -/
def Forest.past (word : String) (forest : Forest) : Forest :=
  if forest.starts (.word word) then forest.skip else forest

/-- The name of the brackets in messages. -/
def Delimiter.name : Delimiter → String
  | parentheses => "parentheses"
  | brackets => "square brackets"
  | braces => "curly braces"
  | invisible => "invisible group"

/-- The sign in messages. -/
def Sign.name : Sign → String
  | marks text | word text => "`" ++ text ++ "`"
  | identifier | anyIdentifier => "identifier"
  | lifetime => "lifetime"
  | literal => "literal"
  | textLiteral => "string literal"
  | group delimiter => delimiter.name

/-- The complaint that none of the signs came. -/
def Sign.complaint : List Sign → String
  | [] => "unexpected token"
  | [sign] => "expected " ++ sign.name
  | [first, second] => "expected " ++ first.name ++ " or " ++ second.name
  | signs => "expected one of: " ++ ", ".intercalate (signs.map (·.name))

namespace Parser

variable {α β : Type}

/-- A value that is told from what is before the parser. Nothing is read. -/
def look (value : Input → α) : Parser α where
  run input := .ok ⟨value input, .nil, input⟩
  proceeds := by
    rintro input _ ⟨⟩
    exact .refl input

/-- Two parsers one after the other. -/
def andThen (parser : Parser α) (next : α → Parser β) : Parser β where
  run input :=
    match parser input with
    | .error message => .error message
    | .ok first =>
      match next first.value first.input with
      | .error message => .error message
      | .ok second => .ok ⟨second.value, first.written ++ second.written, second.input⟩
  proceeds := by
    intro input reading reads
    cases readsFirst : parser input with
    | error message => simp [readsFirst] at reads
    | ok first =>
        cases readsSecond : next first.value first.input with
        | error message => simp [readsFirst, readsSecond] at reads
        | ok second =>
            simp only [readsFirst, readsSecond, Except.ok.injEq] at reads
            have precedes := (next first.value).proceeds readsSecond
            rw [← reads]
            exact (parser.proceeds readsFirst).trans precedes

instance : Monad Parser where
  pure value := look fun _ => value
  bind := andThen

/-- Fails with a message that may depend on what is before the parser. -/
def failWith (message : Input → String) : Parser α where
  run input := .error (message input)
  proceeds := nofun

/-- Fails. -/
def fail (message : String) : Parser α :=
  failWith fun _ => message

/-- Fails, and says so if there is nothing more to read. -/
def failHere (message : String) : Parser α :=
  failWith fun input =>
    if input.rest.isEmpty then "unexpected end of input, " ++ message else message

/-- Fails because none of the signs came. -/
def failExpecting (signs : List Sign) : Parser α :=
  match signs with
  | [] => failWith fun input =>
    if input.rest.isEmpty then "unexpected end of input" else "unexpected token"
  | signs => failHere (Sign.complaint signs)

/-- What is before the parser. -/
def upcoming : Parser Forest :=
  look (·.rest)

/-- Whether the sign comes next. -/
def sees (sign : Sign) : Parser Bool :=
  look (·.rest.starts sign)

/-- Writes a forest. -/
def write (forest : Forest) : Parser Unit where
  run input := .ok ⟨(), forest, input⟩
  proceeds := by
    rintro input _ ⟨⟩
    exact .refl input

/-- Reads without writing; the value comes together with what would have been written. -/
def captured (parser : Parser α) : Parser (α × Forest) where
  run input :=
    match parser input with
    | .error message => .error message
    | .ok reading => .ok ⟨(reading.value, reading.written), .nil, reading.input⟩
  proceeds := by
    intro input reading reads
    cases readsInner : parser input with
    | error message => simp [readsInner] at reads
    | ok inner =>
        simp only [readsInner, Except.ok.injEq] at reads
        rw [← reads]
        exact parser.proceeds readsInner

/-- What the parser would write. It is not written. -/
def written (parser : Parser α) : Parser Forest := do
  let (_, forest) ← captured parser
  return forest

/-- Reads without writing. -/
def silently (parser : Parser α) : Parser α := do
  let (value, _) ← captured parser
  return value

/-- What was read since the given forest was before the parser. -/
def since (start : Forest) : Parser Forest :=
  look fun input => start.until input.rest

/-- Reads, and writes just what was read. -/
def verbatim (parser : Parser α) : Parser α := do
  let start ← upcoming
  let value ← silently parser
  write (← since start)
  return value

/-- Reads if that succeeds, and otherwise nothing. -/
def attempt? (parser : Parser α) : Parser (Option α) where
  run input :=
    match parser input with
    | .error _ => .ok ⟨none, .nil, input⟩
    | .ok reading => .ok ⟨some reading.value, reading.written, reading.input⟩
  proceeds := by
    intro input reading reads
    cases readsInner : parser input with
    | error message =>
        simp only [readsInner, Except.ok.injEq] at reads
        rw [← reads]
        exact .refl input
    | ok inner =>
        simp only [readsInner, Except.ok.injEq] at reads
        rw [← reads]
        exact parser.proceeds readsInner

/-- Whether the parser would succeed. -/
def succeeds (parser : Parser α) : Parser Bool :=
  look fun input => (parser input).isOk

/-- What would come next after the parser, if that succeeded. -/
def ahead? (parser : Parser α) : Parser (Option Forest) :=
  look fun input => (parser input).toOption.map (·.input.rest)

/-- Reads and writes a token. -/
def token : Parser Unit where
  run input :=
    match input.rest.bare with
    | .leaf token rest => .ok ⟨(), .leaf token .nil, { input with rest }⟩
    | _ => .error "unexpected token"
  proceeds := by
    intro input reading reads
    split at reads
    · rename_i token rest isNext
      have shorter := input.rest.size_bare_le
      rw [isNext, Forest.size] at shorter
      cases reads
      exact ⟨Nat.le_of_succ_le shorter, fun _ => id⟩
    · cases reads

/-- Reads and writes as many tokens. -/
def tokens : Nat → Parser Unit
  | 0 => pure ()
  | count + 1 => token >>= fun _ => tokens count

/-- Punctuation marks. -/
def marks (text : String) : Parser Unit := do
  if ← sees (.marks text) then tokens text.length else fail (Sign.complaint [.marks text])

/-- A word of the language. -/
def word (text : String) : Parser Unit := do
  if ← sees (.word text) then token else failHere (Sign.complaint [.word text])

/-- Punctuation marks that may be missing. -/
def optionalMarks (text : String) : Parser Bool := do
  if ← sees (.marks text) then
    marks text
    return true
  else
    return false

/-- A word that may be missing. -/
def optionalWord (text : String) : Parser Bool := do
  if ← sees (.word text) then
    word text
    return true
  else
    return false

/-- An identifier or a word of the language. -/
def anyIdentifier : Parser Identifier := do
  match (← upcoming).bare with
  | .leaf (.identifier name) _ =>
    token
    return name
  | _ => failHere "expected ident"

/-- An identifier. -/
def identifier : Parser Identifier := do
  match (← upcoming).bare with
  | .leaf (.identifier name) _ =>
    if name.isFree then
      token
      return name
    else failHere ("expected identifier, found keyword `" ++ name.text ++ "`")
  | _ => failHere "expected identifier"

/-- A lifetime. -/
def lifetime : Parser Identifier := do
  match (← upcoming).lifetime? with
  | some (name, _) =>
    tokens 2
    return name
  | none => failHere "expected lifetime"

/-- A literal. -/
def literal : Parser Unit := do
  match (← upcoming).literal? with
  | some (isNegative, _) => tokens (if isNegative then 2 else 1)
  | none => failHere "expected literal"

/-- The literal of a text. -/
def textLiteral : Parser String := do
  match (← upcoming).bare with
  | .leaf (.literal text) _ =>
    if Literal.isText text then
      token
      return text
    else failHere "expected string literal"
  | _ => failHere "expected string literal"

/--
Runs a parser on the content of a group, and another one on what follows the group. What the first one
leaves in the group is remembered only after the second one has ended.
-/
def enclosedThen (delimiter : Delimiter) (parser : Parser α) (next : α → Parser β) : Parser β where
  run input :=
    match input.rest.facing delimiter with
    | .group first content rest =>
      if first = delimiter then
        match parser { input with rest := content } with
        | .error message => .error message
        | .ok inner =>
          match next inner.value { inner.input with rest } with
          | .error message => .error message
          | .ok outer =>
            let leftover := if inner.input.rest.isBlank then none else some delimiter
            .ok ⟨outer.value, .enclosed delimiter inner.written ++ outer.written,
              { outer.input with leftover := outer.input.leftover <|> leftover }⟩
      else .error ("expected " ++ delimiter.name)
    | _ => (failHere ("expected " ++ delimiter.name) : Parser β) input
  proceeds := by
    intro input reading reads
    split at reads
    · rename_i first content rest isNext
      split at reads
      · cases readsInner : parser { input with rest := content } with
        | error message => simp [readsInner] at reads
        | ok inner =>
            cases readsOuter : next inner.value { inner.input with rest } with
            | error message => simp [readsInner, readsOuter] at reads
            | ok outer =>
                simp only [readsInner, readsOuter, Except.ok.injEq] at reads
                have precedesInner := parser.proceeds readsInner
                have precedesOuter := (next inner.value).proceeds readsOuter
                rw [← reads]
                refine ⟨?_, fun other isLeft => ?_⟩
                · have shorter : outer.input.rest.size ≤ rest.size := precedesOuter.size_le
                  have facing := input.rest.size_facing_le delimiter
                  rw [isNext, Forest.size] at facing
                  exact Nat.le_trans shorter (by omega)
                · rw [precedesOuter.remembers other (precedesInner.remembers other isLeft)]
                  rfl
      · cases reads
    · cases reads

/-- Runs a parser on the content of a group. -/
def enclosed (delimiter : Delimiter) (parser : Parser α) : Parser α :=
  enclosedThen delimiter parser pure

/-- A group of any content, which is the value with its brackets. Invisible ones are none. -/
def anyGroup : Parser (Delimiter × Forest) where
  run input :=
    match input.rest with
    | .group .invisible _ _ => .error "expected delimiter"
    | .group delimiter content rest =>
      .ok ⟨(delimiter, content), .enclosed delimiter content, { input with rest }⟩
    | _ => (failHere "expected delimiter" : Parser (Delimiter × Forest)) input
  proceeds := by
    intro input reading reads
    split at reads
    · cases reads
    · rename_i delimiter content rest _ isNext
      cases reads
      refine ⟨?_, fun _ => id⟩
      rw [isNext]
      exact Nat.le_trans (Nat.le_add_left rest.size content.size) (Nat.le_add_right _ 2)
    · cases reads

/-- The content of a group, all of it. -/
def everything : Parser Unit where
  run input := .ok ⟨(), input.rest, { input with rest := .nil }⟩
  proceeds := by
    rintro input _ ⟨⟩
    exact ⟨Nat.zero_le _, fun _ => id⟩

/-- Repeats a step until it says not to go on, at most as often as the bound says. -/
def iterate (step : α → Parser (Bool × α)) : Nat → α → Parser α
  | 0, value => pure value
  | bound + 1, value => do
    let (goesOn, value) ← step value
    if goesOn then iterate step bound value else return value

/-- Repeats a step that reads something until it says not to go on. -/
def loop (step : α → Parser (Bool × α)) (start : α) : Parser α where
  run input := iterate step (input.rest.size + 1) start input
  proceeds := (iterate step _ start).proceeds

/-- Repeats a parser until it says not to go on. -/
def repeating (step : Parser Bool) : Parser Unit :=
  loop (fun _ => do return (← step, ())) ()

/-- Reads elements as long as the condition on what comes next holds. -/
def listWhile (goesOn : Forest → Bool) (element : Parser α) : Parser (List α) :=
  loop (fun elements => do
    if goesOn (← upcoming) then return (true, elements ++ [← element])
    else return (false, elements)) []

/--
Reads elements with a separator between every two, up to the end as the condition has it. The last
separator may be missing. Tells whether it was there.
-/
def separated (isEnd : Forest → Bool) (separator : String) (element : Parser Unit) :
    Parser Bool :=
  loop (fun hasSeparator => do
    if isEnd (← upcoming) then return (false, hasSeparator)
    element
    if isEnd (← upcoming) then return (false, false)
    marks separator
    return (true, true)) true

/-- Elements with commas up to the end of the input. -/
def commaSeparated (element : Parser Unit) : Parser Unit := do
  let _ ← separated (·.isEmpty) "," element

/-- Elements with plus signs as long as these come, or up to the end as the condition has it. -/
def plusSeparated (isEnd : Forest → Bool) (element : Parser Unit) : Parser Unit :=
  repeating do
    if isEnd (← upcoming) then return false
    element
    optionalMarks "+"

/-- The message about a group that was not read to its end. -/
def leftoverMessage (delimiter : Delimiter) : String :=
  match delimiter.closing with
  | some bracket => "unexpected token, expected `" ++ bracket ++ "`"
  | none => "unexpected token"

/-- Runs the parser on all of the forest. -/
def parseAll (parser : Parser α) (forest : Forest) : Except String α :=
  match parser ⟨forest, none⟩ with
  | .error message => .error message
  | .ok reading =>
    match reading.input.leftover with
    | some delimiter => .error (leftoverMessage delimiter)
    | none => if reading.input.rest.isBlank then .ok reading.value else .error "unexpected token"

end Parser

end BeanContainer.Source
