import DutyRoster.Json.Token

/-!
# JSON values

A JSON value is a tree. `Value.tokens` lists its words; written one after the other they are the
compact text of the value, and `Value.pretty` spreads them over indented lines. `Value.read?` builds
the tree of a text, keeping the members of an object in the order in which they stand, repeated ones
included.

Values are built word by word: a stack holds the arrays and objects that are open, innermost first,
and `Expectation` says which words may come next.
-/

set_option autoImplicit false

namespace DutyRoster.Json

/-- A JSON value. A string, or the name of a member, is missing if it cannot be read as text. -/
inductive Value where
  | null
  | bool (value : Bool)
  | integer (value : Int)
  | decimal (text : List Char)
  | string (content : Option String)
  | array (items : List Value)
  | object (members : List (Option String × Value))

namespace Value

/-- A string. -/
def str (content : String) : Value :=
  .string (some content)

/-- An object with readable names. -/
def record (members : List (String × Value)) : Value :=
  .object (members.map fun (name, value) => (some name, value))

mutual
/-- The words of a value. -/
def tokens : Value → List Token
  | .null => [.null]
  | .bool value => [.bool value]
  | .integer value => [.integer value]
  | .decimal text => [.decimal text]
  | .string content => [.string content]
  | .array items => .openArray :: itemTokens items
  | .object members => .openObject :: memberTokens members

/-- The words of the items of an array and its end. -/
def itemTokens : List Value → List Token
  | [] => [.closeArray]
  | [item] => tokens item ++ [.closeArray]
  | item :: rest => tokens item ++ .comma :: itemTokens rest

/-- The words of the members of an object and its end. -/
def memberTokens : List (Option String × Value) → List Token
  | [] => [.closeObject]
  | [(name, value)] => .string name :: .colon :: (tokens value ++ [.closeObject])
  | (name, value) :: rest => .string name :: .colon :: (tokens value ++ .comma :: memberTokens rest)
end

/-- The text of a value without any white space. -/
def compact (value : Value) : List Char :=
  value.tokens.flatMap Token.text

/-- A new line indented by two blanks for each level. -/
def newLine (level : Nat) : List Char :=
  '\n' :: List.replicate (2 * level) ' '

mutual
/-- The text of a value at a level of indentation, with each item and member on a line of its
own. -/
def prettyAt (level : Nat) : Value → List Char
  | .array [] => ['[', ']']
  | .array (item :: rest) => '[' :: prettyItems (level + 1) (item :: rest) ++ newLine level ++ [']']
  | .object [] => ['\x7b', '\x7d']
  | .object (member :: rest) =>
    '\x7b' :: prettyMembers (level + 1) (member :: rest) ++ newLine level ++ ['\x7d']
  | .null => Token.null.text
  | .bool value => (Token.bool value).text
  | .integer value => (Token.integer value).text
  | .decimal text => (Token.decimal text).text
  | .string content => (Token.string content).text

/-- The lines of the items of an array. -/
def prettyItems (level : Nat) : List Value → List Char
  | [] => []
  | [item] => newLine level ++ prettyAt level item
  | item :: rest => newLine level ++ prettyAt level item ++ ',' :: prettyItems level rest

/-- The lines of the members of an object. -/
def prettyMembers (level : Nat) : List (Option String × Value) → List Char
  | [] => []
  | [(name, value)] =>
    newLine level ++ (Token.string name).text ++ ':' :: ' ' :: prettyAt level value
  | (name, value) :: rest =>
    newLine level ++ (Token.string name).text ++ ':' :: ' ' :: prettyAt level value ++
      ',' :: prettyMembers level rest
end

/-- The text of a value over several lines. -/
def pretty (value : Value) : List Char :=
  prettyAt 0 value

end Value

/-- An array or object whose end has not been reached, with its contents so far, last ones first. An
object also has the name of the member whose value is being read. -/
inductive Container where
  | array (items : List Value)
  | object (members : List (Option String × Value)) (name : Option String)

/-- What the next word has to be. -/
inductive Expectation where
  | value
  | itemOrEnd
  | name
  | nameOrEnd
  | colon
  | commaOrEnd
  | nothing (result : Value)

/-- A value that is being built. -/
structure Builder where
  stack : List Container
  expect : Expectation

namespace Builder

/-- Nothing has been read yet. -/
def start : Builder := ⟨[], .value⟩

/-- Puts a complete value where it belongs: into the innermost open container, if there is one. -/
def receive (stack : List Container) (value : Value) : Builder :=
  match stack with
  | [] => ⟨[], .nothing value⟩
  | .array items :: rest => ⟨.array (value :: items) :: rest, .commaOrEnd⟩
  | .object members name :: rest => ⟨.object ((name, value) :: members) name :: rest, .commaOrEnd⟩

/-- The value that a word alone is. -/
def scalar? : Token → Option Value
  | .null => some .null
  | .bool value => some (.bool value)
  | .integer value => some (.integer value)
  | .decimal text => some (.decimal text)
  | .string content => some (.string content)
  | _ => none

/-- Reads a word where a value has to begin. -/
def beginValue (stack : List Container) : Token → Option Builder
  | .openArray => some ⟨.array [] :: stack, .itemOrEnd⟩
  | .openObject => some ⟨.object [] none :: stack, .nameOrEnd⟩
  | token => (scalar? token).map (receive stack)

/-- Reads a word where the name of a member has to stand. -/
def readName (stack : List Container) : Token → Option Builder
  | .string content =>
    match stack with
    | .object members _ :: rest => some ⟨.object members content :: rest, .colon⟩
    | _ => none
  | _ => none

/-- Reads the end of the innermost open container. -/
def close (stack : List Container) : Token → Option Builder
  | .closeArray =>
    match stack with
    | .array items :: rest => some (receive rest (.array items.reverse))
    | _ => none
  | .closeObject =>
    match stack with
    | .object members _ :: rest => some (receive rest (.object members.reverse))
    | _ => none
  | _ => none

/-- Reads a comma, after which the innermost open container has to go on. -/
def goOn : List Container → Option Builder
  | .array items :: rest => some ⟨.array items :: rest, .value⟩
  | .object members name :: rest => some ⟨.object members name :: rest, .name⟩
  | [] => none

/-- Reads one word. -/
def step (builder : Builder) (token : Token) : Option Builder :=
  match builder.expect with
  | .value => beginValue builder.stack token
  | .itemOrEnd =>
    if token = .closeArray then close builder.stack token else beginValue builder.stack token
  | .name => readName builder.stack token
  | .nameOrEnd =>
    if token = .closeObject then close builder.stack token else readName builder.stack token
  | .colon => if token = .colon then some ⟨builder.stack, .value⟩ else none
  | .commaOrEnd => if token = .comma then goOn builder.stack else close builder.stack token
  | .nothing _ => none

/-- The value, if it is complete. -/
def result? (builder : Builder) : Option Value :=
  match builder.expect with
  | .nothing result => some result
  | _ => none

end Builder

namespace Value

/-- The value with the given words. -/
def ofTokens? (words : List Token) : Option Value :=
  (words.foldlM Builder.step Builder.start).bind Builder.result?

/-- The value that a text read from octets is. -/
def read? (text : List (Option Char)) : Option Value :=
  (tokenize text).bind ofTokens?

/-- The value that a text is. -/
def ofText? (text : String) : Option Value :=
  read? (text.toList.map some)

end Value

end DutyRoster.Json
