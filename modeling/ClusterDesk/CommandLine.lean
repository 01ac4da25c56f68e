/-!
Command lines. A level of commands knows options by name, has places for further words, and may be
followed by commands of its own. Reading sorts the words of a line by these; a word that fits
nowhere, a repeated option and an option without its value end it.
-/

namespace ClusterDesk.CommandLine

/-- What comes with an option. -/
inductive Kind where
  | switch
  /-- A switch of which it counts how often it is given. -/
  | counter
  | value (accepts : String → Bool)
  /-- A value each time the option is given. -/
  | values (accepts : String → Bool)
  | help
  | version

def Kind.takesValue : Kind → Bool
  | value _ | values _ => true
  | switch | counter | help | version => false

structure Choice where
  name : String
  short : Option Char := none
  kind : Kind

structure Level where
  choices : List Choice := []
  /-- How many words have to be given. -/
  places : Nat := 0
  /-- Whether any number of words may follow. -/
  repeats : Bool := false
  commands : List String := []

/-- Why a line is not carried out. -/
inductive Stop where
  | help
  | version
  | wrong
  deriving DecidableEq, Repr

/-- The options in the order in which they were given, a switch with an empty value, and the other
words. -/
structure Words where
  options : List (String × String) := []
  places : List String := []
  deriving DecidableEq, Repr

namespace Words

def values (words : Words) (name : String) : List String :=
  (words.options.filter (·.1 = name)).map (·.2)

def value? (words : Words) (name : String) : Option String := (words.values name).head?

def has (words : Words) (name : String) : Bool := (words.value? name).isSome

def add (words : Words) (name value : String) : Words :=
  { words with options := words.options ++ [(name, value)] }

def give (words : Words) (choice : Choice) (value : String) : Except Stop Words :=
  match choice.kind with
  | .switch => if words.has choice.name then .error .wrong else .ok (words.add choice.name value)
  | .counter => .ok (words.add choice.name value)
  | .value accepts =>
    if accepts value && !words.has choice.name then .ok (words.add choice.name value)
    else .error .wrong
  | .values accepts => if accepts value then .ok (words.add choice.name value) else .error .wrong
  | .help => .error .help
  | .version => .error .version

/-- Takes an option with the value attached to it, if any; the choice is returned when its value
is still to come. -/
def take (words : Words) (choice : Choice) (attached : Option String) :
    Except Stop (Words × Option Choice) :=
  match choice.kind.takesValue, attached with
  | true, none => .ok (words, some choice)
  | true, some value => (words.give choice value).map (·, none)
  | false, none => (words.give choice "").map (·, none)
  | false, some _ => .error .wrong

end Words

namespace Level

def choicesWithHelp (level : Level) : List Choice := level.choices ++ [⟨"help", some 'h', .help⟩]

def named? (level : Level) (name : String) : Option Choice :=
  level.choicesWithHelp.find? (·.name = name)

def lettered? (level : Level) (letter : Char) : Option Choice :=
  level.choicesWithHelp.find? (·.short = some letter)

/-- Takes letters that follow one dash; the first one that takes a value takes all that is left. -/
def takeLetters (level : Level) (words : Words) : List Char → Except Stop (Words × Option Choice)
  | [] => .ok (words, none)
  | letter :: rest =>
    match level.lettered? letter with
    | none => .error .wrong
    | some choice =>
      if choice.kind.takesValue then
        match rest with
        | [] => .ok (words, some choice)
        | '=' :: value => (words.give choice (String.ofList value)).map (·, none)
        | value => (words.give choice (String.ofList value)).map (·, none)
      else
        match words.give choice "" with
        | .ok words => level.takeLetters words rest
        | .error stop => .error stop

def place (level : Level) (words : Words) (word : String) : Except Stop Words :=
  if words.places.length < level.places ∨ level.repeats then
    .ok { words with places := words.places ++ [word] }
  else .error .wrong

/-- Takes the word after two dashes: a name, and a value after an equals sign. -/
def takeNamed (level : Level) (words : Words) (text : List Char) :
    Except Stop (Words × Option Choice) :=
  match level.named? (String.ofList (text.takeWhile (· ≠ '='))) with
  | none => .error .wrong
  | some choice =>
    words.take choice (match text.dropWhile (· ≠ '=') with
      | [] => none
      | _ :: value => some (String.ofList value))

/-- The part of a line that one level reads, and the command that follows with its own words. -/
abbrev Reading : Type := Words × Option (String × List String)

/-- After two dashes alone every word is for a place. -/
def scanPlaces (level : Level) (words : Words) : List String → Except Stop Reading
  | [] => .ok (words, none)
  | word :: rest =>
    match level.place words word with
    | .ok words => level.scanPlaces words rest
    | .error stop => .error stop

/-- Reads on, where `pending` is an option whose value is to come. -/
def scan (level : Level) (words : Words) (pending : Option Choice) :
    List String → Except Stop Reading
  | [] => if pending.isSome then .error .wrong else .ok (words, none)
  | word :: rest =>
    match pending with
    | some choice =>
      if word.startsWith "-" ∧ word ≠ "-" then .error .wrong
      else match words.give choice word with
        | .ok words => level.scan words none rest
        | .error stop => .error stop
    | none =>
      if level.commands.contains word then .ok (words, some (word, rest))
      else if word = "--" then level.scanPlaces words rest
      else
        let taken := match word.toList with
          | '-' :: '-' :: text => level.takeNamed words text
          | '-' :: letter :: letters => level.takeLetters words (letter :: letters)
          | _ => (level.place words word).map (·, none)
        match taken with
        | .ok (words, pending) => level.scan words pending rest
        | .error stop => .error stop

/-- Reads the words of a line; all places must be filled unless a command follows. -/
def read (level : Level) (line : List String) : Except Stop Reading :=
  match level.scan {} none line with
  | .ok (words, none) =>
    if words.places.length < level.places then .error .wrong else .ok (words, none)
  | other => other

end Level

/-- The digits of a whole number, none without digits. -/
def number? (digits : List Char) : Option Nat :=
  if digits.isEmpty || !(digits.all Char.isDigit) then none
  else some (digits.foldl (fun n c => n * 10 + (c.toNat - 48)) 0)

/-- A whole number below the limit, with or without a plus sign. -/
def natural? (limit : Nat) (text : String) : Option Nat :=
  (match text.toList with
    | '+' :: digits => number? digits
    | digits => number? digits).filter (· < limit)

/-- Zero may have a minus sign, too. -/
def signed? (limit : Nat) (text : String) : Option Nat :=
  match text.toList with
  | '-' :: digits => (number? digits).filter (· = 0)
  | _ => natural? limit text

end ClusterDesk.CommandLine
