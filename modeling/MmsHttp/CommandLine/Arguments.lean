import MmsHttp.Text.Digit
import MmsHttp.Text.Split

/-!
Arguments of the command line. There are two commands, `get URL` and `post URL FILE`, each
with an option for the output. Options and other arguments may come in any order after
the command; long options may be abbreviated, and two dashes end them. Arguments that do
not fit end the program, as the wish for help does.
-/

namespace MmsHttp.CommandLine

open Text

structure Command where
  url : String
  /-- The file with the message to send, for the command that sends one. -/
  message : Option (Option String)
  /-- The file for the body of the response. -/
  output : Option String
  deriving DecidableEq, Repr

/-- Why the program ends without doing anything. -/
inductive Exit where
  | help
  | usage
  deriving DecidableEq, Repr

def Exit.code : Exit → Nat
  | help => 0
  | usage => 2

inductive Choice where
  | help
  | output
  deriving DecidableEq, Repr

/-- A value that is part of the argument that names the option. -/
structure Attached where
  /-- Whether an equals sign stands before it. -/
  marked : Bool
  text : List Char
  deriving DecidableEq, Repr

/-- An argument as it is taken. -/
inductive Token where
  /-- Two dashes. -/
  | dashes
  | word (text : String)
  /-- An option; its short name has a single letter. -/
  | option (choice : Choice) (short : Bool) (attached : Option Attached)
  | unknown
  deriving DecidableEq, Repr

abbrev Names := List (String × Choice)

def programNames : Names := [("-h", .help), ("--help", .help)]

def commandNames : Names := programNames ++ [("--output", .output)]

def isDigit (c : Char) : Bool :=
  (digitValue? c).isSome

def isNegativeNumber (cs : List Char) : Bool :=
  match cs with
  | '-' :: rest =>
    let rest := if rest.getLast? == some '\n' then rest.dropLast else rest
    match cut (· == '.') rest with
    | (digits, none) => !digits.isEmpty && digits.all isDigit
    | (whole, some fraction) =>
      whole.all isDigit && !fraction.isEmpty && fraction.all isDigit
  | _ => false

def named (names : Names) (name : String) (attached : Option Attached) : Option Token :=
  (names.find? (·.1 == name)).map fun (name, choice) => .option choice (name.length == 2) attached

/-- The options that a long name may be short for, and the value attached to it. -/
def abbreviated (names : Names) (cs : List Char) : List Token :=
  let (beginning, value) := cut (· == '=') cs
  (names.filter fun (name, _) => startsWith beginning name.toList).map fun (name, choice) =>
    .option choice (name.length == 2) (value.map (⟨true, ·⟩))

/-- The options that a single dash may begin; the rest of the argument is attached. -/
def clustered (names : Names) (cs : List Char) : List Token :=
  names.filterMap fun (name, choice) =>
    if name.toList == cs.take 2 then some (.option choice true (some ⟨false, cs.drop 2⟩))
    else none

/-- How an argument is taken; an abbreviation of more than one option is refused. -/
def classify (names : Names) (argument : String) : Except Exit Token :=
  let cs := argument.toList
  if argument == "--" then .ok .dashes
  else if cs.head? != some '-' then .ok (.word argument)
  else
    match named names argument none with
    | some token => .ok token
    | none =>
      if cs.length == 1 then .ok (.word argument)
      else
        let (name, value) := cut (· == '=') cs
        let exact :=
          match value with
          | some value => named names (String.ofList name) (some ⟨true, value⟩)
          | none => none
        match exact with
        | some token => .ok token
        | none =>
          let found :=
            if startsWith ['-', '-'] cs then abbreviated names cs else clustered names cs
          match found with
          | [token] => .ok token
          | _ :: _ :: _ => .error .usage
          | [] =>
            if isNegativeNumber cs || cs.contains ' ' then .ok (.word argument)
            else .ok .unknown

/-- How arguments are taken. After two dashes every one is a word. -/
def classifyAll (names : Names) : List String → Except Exit (List Token)
  | [] => .ok []
  | argument :: rest => do
    let token ← classify names argument
    if token == .dashes then pure (.dashes :: rest.map .word)
    else pure (token :: (← classifyAll names rest))

/-- The end that letters attached to the short option for help lead to. More such letters
may follow; any other one is left aside. -/
def helpWith : List Char → Exit
  | [] => .help
  | ['h'] => .help
  | '-' :: _ => .usage
  | 'h' :: '=' :: _ => .usage
  | 'h' :: rest => helpWith rest
  | _ => .help

/-- The end that the option for help leads to. It takes no value. -/
def helpExit (short : Bool) : Option Attached → Exit
  | none => .help
  | some value =>
    if !short || value.marked || value.text.isEmpty then .usage else helpWith value.text

/-- Takes one word with the two dashes around it: what it is, or nothing if the dashes
leave nothing, and what follows. -/
def takeWord (tokens : List Token) : Option (Option String × List Token) :=
  match tokens with
  | .dashes :: .word text :: rest => some (some text, rest)
  | .word text :: .dashes :: rest => some (some text, rest)
  | .word text :: rest => some (if text == "--" then none else some text, rest)
  | _ => none

/-- Takes as many words as there are places left; what it gives lists the places filled. -/
def takeWords : (places : Nat) → List Token → List (Option String) × List Token
  | 0, tokens => ([], tokens)
  | places + 1, tokens =>
    match takeWord tokens with
    | none => ([], tokens)
    | some (word, rest) =>
      let (words, rest) := takeWords places rest
      (word :: words, rest)

/-- What has been taken so far: words, the last value of the output, and whether anything
was left aside. -/
structure Taken where
  words : List (Option String) := []
  output : Option String := none
  leftAside : Bool := false

/-- The tokens from the first option on. -/
def fromOption : List Token → List Token
  | .option choice short attached :: rest => .option choice short attached :: rest
  | .unknown :: rest => .unknown :: rest
  | _ :: rest => fromOption rest
  | [] => []

/-- Takes the arguments of a command: words and options in turn. Words beyond the places
left are left aside, as are options that nobody knows. -/
def takeAll (places : Nat) : (steps : Nat) → List Token → Taken → Except Exit Taken
  | 0, _, taken => .ok taken
  | steps + 1, tokens, taken =>
    match tokens with
    | [] => .ok taken
    | .unknown :: rest => takeAll places steps rest { taken with leftAside := true }
    | .option .help short attached :: _ => .error (helpExit short attached)
    | .option .output _ (some value) :: rest =>
      takeAll places steps rest { taken with output := some (String.ofList value.text) }
    | .option .output _ none :: .word text :: rest =>
      takeAll places steps rest { taken with output := some text }
    | .option .output _ none :: _ => .error .usage
    | tokens =>
      let (words, rest) := takeWords (places - taken.words.length) tokens
      let taken := { taken with words := taken.words ++ words }
      if words.isEmpty then takeAll places steps (fromOption rest) { taken with leftAside := true }
      else takeAll places steps rest taken

def readCommand (places : Nat) (arguments : List String) : Except Exit Taken := do
  let tokens ← classifyAll commandNames arguments
  let taken ← takeAll places (2 * tokens.length + 1) tokens {}
  if taken.words.length < places then throw .usage
  pure taken

/-- The command that words and options make, if nothing was left aside. -/
def Taken.command (taken : Taken) (leftAside : Bool) : Except Exit Command :=
  if leftAside || taken.leftAside then .error .usage
  else
    match taken.words with
    | [some url] => .ok ⟨url, none, taken.output⟩
    | [some url, message] => .ok ⟨url, some message, taken.output⟩
    | _ => .error .usage

/-- Reads the arguments from the command on; options may stand before it. -/
def readFrom (leftAside : Bool) : List (Token × String) → Except Exit Command
  | [] => .error .usage
  | (.unknown, _) :: rest => readFrom true rest
  | (.option _ short attached, _) :: _ => .error (helpExit short attached)
  | (.dashes, _) :: _ => .error .usage
  | (.word name, _) :: rest =>
    let arguments := rest.map (·.2)
    if name == "get" then (readCommand 1 arguments).bind (·.command leftAside)
    else if name == "post" then (readCommand 2 arguments).bind (·.command leftAside)
    else .error .usage

def read (arguments : List String) : Except Exit Command := do
  let tokens ← classifyAll programNames arguments
  readFrom false (tokens.zip arguments)

end MmsHttp.CommandLine
