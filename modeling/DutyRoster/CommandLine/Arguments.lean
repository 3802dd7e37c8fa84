import DutyRoster.Calendar.InstantText
import DutyRoster.Roster.Records

/-!
# The arguments of the program

A command line has options, the name of a command, and the options of that command. An option is
written `--name value` or `--name=value`; a value that begins with a dash needs the second form. The
options that concern the program as a whole may stand before the command or among its own options,
where they count if they are given in both places; within each part no option may be repeated.

`Arguments.read` turns a command line into an `Invocation`. All values are read here, so an
invocation holds nothing that could still be misunderstood except the dates of requests and the
names of files.
-/

set_option autoImplicit false

namespace DutyRoster

/-- What the program is asked to do. -/
inductive Command where
  | addEmployee (name : String) (role : Role)
  | importEmployees (file : String)
  | employees
  | assign (employee : EmployeeId) (date : String) (slot : Nat)
  | remove (employee : EmployeeId) (date : String) (slot : Nat)
  | shifts (employee : EmployeeId) (range : Option (Date × Date)) (file : Option String)
  | availability (start : String) (days : Nat) (file : Option String)
  | onCall (instant : Option Instant) (bufferMinutes : Int)
deriving DecidableEq

/-- The files that a command reads or writes, by name. -/
def Command.files : Command → List String
  | .importEmployees file => [file]
  | .shifts _ _ file => file.toList
  | .availability _ _ file => file.toList
  | _ => []

/-- A command with the database that it works on and the settings that it is to heed. -/
structure Invocation where
  database : String
  config : Option String
  command : Command
deriving DecidableEq

/-- The files that an invocation reads or writes besides the database, by name. -/
def Invocation.files (invocation : Invocation) : List String :=
  invocation.config.toList ++ invocation.command.files

/-- The reasons for which a command line is not carried out: it asks about the program, or it is not
in order. -/
inductive ArgumentFault where
  | help
  | version
  | misuse
deriving DecidableEq, Repr

/-- An option: its name and, unless it stands alone, the values that it takes. -/
structure OptionSpec where
  name : String
  accepts : Option (String → Bool)

/-- The words with a meaning in a part of a command line: options, and questions about the program
with their long and their short name. -/
structure Vocabulary where
  options : List OptionSpec
  questions : List (String × Char × ArgumentFault)

namespace Arguments

/-- A whole number between two bounds, ends included. -/
def integerWithin? (low high : Int) (text : String) : Option Int :=
  (Text.readInteger? text.toList).bind fun n => if low ≤ n ∧ n ≤ high then some n else none

/-- A signed number of 64 bits. -/
def signed64? (text : String) : Option Int :=
  integerWithin? (-9223372036854775808) 9223372036854775807 text

/-- A number that fits into an octet. -/
def octet? (text : String) : Option Nat :=
  (integerWithin? 0 255 text).map Int.toNat

/-- An unsigned number of 32 bits. -/
def unsigned32? (text : String) : Option Nat :=
  (integerWithin? 0 4294967295 text).map Int.toNat

/-- A date in the loose form. -/
def date? (text : String) : Option Date :=
  (Date.read true text.toList).toOption

/-- An instant in any of its forms. -/
def instant? (text : String) : Option Instant :=
  Instant.read? text.toList

/-- A role. -/
def role? (text : String) : Option Role :=
  (Role.read text).toOption

/-- An option with a value that some reader understands. -/
def valued {α : Type} (name : String) (read : String → Option α) : OptionSpec :=
  ⟨name, some fun text => (read text).isSome⟩

/-- The options that concern the program as a whole. -/
def globalOptions : List OptionSpec :=
  [⟨"log", none⟩, valued "db" some, valued "config" some]

/-- What may stand before the command. -/
def topVocabulary : Vocabulary :=
  ⟨globalOptions, [("help", 'h', .help), ("version", 'V', .version)]⟩

/-- What may stand after a command that has the given options. -/
def commandVocabulary (options : List OptionSpec) : Vocabulary :=
  ⟨options ++ globalOptions, [("help", 'h', .help)]⟩

/-- The commands and their options. -/
def commands : List (String × List OptionSpec) :=
  [("add-employee", [valued "name" some, valued "role" role?]),
    ("import-employees", [valued "csv" some]),
    ("employees", []),
    ("assign", [valued "employee" signed64?, valued "date" some, valued "slot" octet?]),
    ("remove", [valued "employee" signed64?, valued "date" some, valued "slot" octet?]),
    ("shifts", [valued "employee" signed64?, valued "from" date?, valued "to" date?,
      valued "out-csv" some]),
    ("availability", [valued "start" some, valued "days" unsigned32?, valued "out-json" some]),
    ("on-call", [valued "at" instant?, valued "buffer-minutes" signed64?])]

/-- What a word of a command line is. -/
inductive Word where
  | plain
  | question (about : ArgumentFault)
  | unknown
  | flag (name : String)
  | attached (name : String) (accepts : String → Bool) (value : String)
  | awaiting (name : String) (accepts : String → Bool)

/-- Whether a word cannot be a value because it looks like an option. -/
def looksLikeOption (word : String) : Bool :=
  match word.toList with
  | '-' :: _ :: _ => true
  | _ => false

/-- The option that a name belongs to, with the value attached to it if there is one, or the
question that has that name. -/
def longWord (vocabulary : Vocabulary) (name : String) (value : Option String) : Word :=
  match vocabulary.options.find? fun spec => spec.name = name, value with
  | some ⟨_, none⟩, none => .flag name
  | some ⟨_, some accepts⟩, none => .awaiting name accepts
  | some ⟨_, some accepts⟩, some value => .attached name accepts value
  | none, none =>
    match vocabulary.questions.find? fun question => question.1 = name with
    | some (_, _, about) => .question about
    | none => .unknown
  | _, _ => .unknown

/-- The question that has a letter as its short name. -/
def shortWord (vocabulary : Vocabulary) (letter : Char) : Word :=
  match vocabulary.questions.find? fun question => question.2.1 = letter with
  | some (_, _, about) => .question about
  | none => .unknown

/-- Finds out what a word is, given the words that have a meaning there. Two dashes alone are plain:
nothing but plain words may follow them, and no command has any. -/
def classify (vocabulary : Vocabulary) (word : String) : Word :=
  match word.toList with
  | ['-', '-'] => .plain
  | '-' :: '-' :: rest =>
    let name := rest.takeWhile fun c => c != '='
    let value := match rest.dropWhile fun c => c != '=' with
      | '=' :: value => some (String.ofList value)
      | _ => none
    longWord vocabulary (String.ofList name) value
  | '-' :: letter :: _ => shortWord vocabulary letter
  | _ => .plain

/-- Enters the value of an option unless the option was given before. -/
def enter (given : List (String × String)) (name value : String) :
    Except ArgumentFault (List (String × String)) :=
  if given.any fun entry => entry.1 = name then .error .misuse
  else .ok (given ++ [(name, value)])

/-- Reads options up to the first plain word, and returns that word and those after it. -/
def scan (vocabulary : Vocabulary) (given : List (String × String)) :
    List String → Except ArgumentFault (List (String × String) × List String)
  | [] => .ok (given, [])
  | word :: rest =>
    match classify vocabulary word with
    | .plain => .ok (given, word :: rest)
    | .question about => .error about
    | .unknown => .error .misuse
    | .flag name => do scan vocabulary (← enter given name "") rest
    | .attached name accepts value =>
      if accepts value then do scan vocabulary (← enter given name value) rest else .error .misuse
    | .awaiting name accepts =>
      match rest with
      | value :: rest =>
        if !looksLikeOption value && accepts value then do
          scan vocabulary (← enter given name value) rest
        else .error .misuse
      | [] => .error .misuse

/-- The value given for an option. -/
def value? (given : List (String × String)) (name : String) : Option String :=
  (given.find? fun entry => entry.1 = name).map (·.2)

/-- The value given for an option that takes what some reader understands. -/
def read? {α : Type} (given : List (String × String)) (name : String)
    (read : String → Option α) : Option α :=
  (value? given name).bind read

/-- Two dates that have to be given together if at all. -/
def range? (given : List (String × String)) : Option (Option (Date × Date)) :=
  match read? given "from" date?, read? given "to" date? with
  | none, none => some none
  | some first, some last => some (some (first, last))
  | _, _ => none

/-- The command with a given name and options, if none is missing that it needs. -/
def command? (name : String) (given : List (String × String)) : Option Command := do
  match name with
  | "add-employee" => some (.addEmployee (← value? given "name") (← read? given "role" role?))
  | "import-employees" => some (.importEmployees (← value? given "csv"))
  | "employees" => some .employees
  | "assign" =>
    some (.assign ⟨← read? given "employee" signed64?⟩ (← value? given "date")
      (← read? given "slot" octet?))
  | "remove" =>
    some (.remove ⟨← read? given "employee" signed64?⟩ (← value? given "date")
      (← read? given "slot" octet?))
  | "shifts" =>
    some (.shifts ⟨← read? given "employee" signed64?⟩ (← range? given) (value? given "out-csv"))
  | "availability" =>
    some (.availability (← value? given "start") ((read? given "days" unsigned32?).getD 7)
      (value? given "out-json"))
  | "on-call" =>
    some (.onCall (read? given "at" instant?) ((read? given "buffer-minutes" signed64?).getD 0))
  | _ => none

/-- Reads the part of a command line that begins with the name of a command. -/
def readCommand (before : List (String × String)) (name : String) (rest : List String) :
    Except ArgumentFault Invocation :=
  match commands.find? fun entry => entry.1 = name with
  | none =>
    let known := match rest with
      | [] => true
      | [topic] => topic = "help" || commands.any fun entry => entry.1 = topic
      | _ => false
    .error (if name = "help" && known then .help else .misuse)
  | some (_, specs) => do
    let (given, left) ← scan (commandVocabulary specs) [] rest
    match command? name given with
    | some command =>
      let all := given ++ before
      if left = [] ∨ left = ["--"] then
        .ok ⟨(value? all "db").getD "roster.db", value? all "config", command⟩
      else .error .misuse
    | none => .error .misuse

/-- Reads a command line. -/
def read (words : List String) : Except ArgumentFault Invocation := do
  let (before, left) ← scan topVocabulary [] words
  match left with
  | name :: rest => readCommand before name rest
  | [] => .error .misuse

end Arguments

end DutyRoster
