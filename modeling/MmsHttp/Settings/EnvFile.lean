import MmsHttp.Text.Blank
import MmsHttp.Text.Split

/-!
Environment files. Every line names a variable and may give it a value, which may be
quoted and then may hold line ends; what a line cannot mean is left out. Values name
other variables as `${NAME}` or `${NAME:-default}`.
-/

namespace MmsHttp.EnvFile

open Text

/-- A variable of the file. One without a value hides the variable of the same name. -/
abbrev Variable := String × Option String

def unifyLineEnds : List Char → List Char
  | '\r' :: '\n' :: rest => '\n' :: unifyLineEnds rest
  | '\r' :: rest => '\n' :: unifyLineEnds rest
  | c :: rest => c :: unifyLineEnds rest
  | [] => []

def isGap (c : Char) : Bool :=
  isBlank c && c != '\n'

def exportWord : List Char := "export".toList

def skipExport (cs : List Char) : List Char :=
  let rest := cs.drop exportWord.length
  if startsWith exportWord cs && rest.head?.any isGap then rest.dropWhile isGap else cs

/-- Reads the name of a variable; a comment has none. The result is empty where no name
can be read. -/
def readName (cs : List Char) : Option (Option (List Char) × List Char) :=
  match cs with
  | '#' :: _ => some (none, cs)
  | '\x27' :: rest =>
    match cut (· == '\x27') rest with
    | ([], _) => none
    | (_, none) => none
    | (name, some rest) => some (some name, rest)
  | cs =>
    let name := cs.takeWhile fun c => !(c == '=' || c == '#' || isBlank c)
    if name.isEmpty then none else some (some name, cs.drop name.length)

/-- The text up to the first quote without a backslash before it, and what follows. -/
def untilQuote (quote : Char) : List Char → Option (List Char × List Char)
  | [] => none
  | [c] => if c == quote then some ([], []) else none
  | c :: d :: rest =>
    if c == quote then some ([], d :: rest)
    else if c == '\\' && d == quote then
      (untilQuote quote rest).map fun (value, rest) => (c :: d :: value, rest)
    else (untilQuote quote (d :: rest)).map fun (value, rest) => (c :: value, rest)

/-- The text up to the quote that closes it. If all quotes have a backslash before them
the last one closes it. -/
def readQuoted (quote : Char) (cs : List Char) : Option (List Char × List Char) :=
  match untilQuote quote cs with
  | some found => some found
  | none =>
    match cutLast (· == quote) cs with
    | (some value, rest) => some (value, rest)
    | (none, _) => none

/-- What a letter after a backslash stands for between double quotes. -/
def escapedLetter? (c : Char) : Option Char :=
  if c == '\\' || c == '\x27' || c == '"' then some c
  else if c == 'a' then some (Char.ofNat 7)
  else if c == 'b' then some (Char.ofNat 8)
  else if c == 'f' then some (Char.ofNat 12)
  else if c == 'n' then some '\n'
  else if c == 'r' then some '\r'
  else if c == 't' then some '\t'
  else if c == 'v' then some (Char.ofNat 11)
  else none

/-- What a letter after a backslash stands for between single quotes. -/
def escapedPlain? (c : Char) : Option Char :=
  if c == '\\' || c == '\x27' then some c else none

def unescape (letter? : Char → Option Char) : List Char → List Char
  | '\\' :: c :: rest =>
    match letter? c with
    | some d => d :: unescape letter? rest
    | none => '\\' :: unescape letter? (c :: rest)
  | c :: rest => c :: unescape letter? rest
  | [] => []

/-- The text before a comment, which begins with blanks and a hash. The blanks just
passed are given. -/
def withoutComment : (blanks : List Char) → List Char → List Char
  | blanks, [] => blanks.reverse
  | blanks, c :: rest =>
    if c == '#' && !blanks.isEmpty then []
    else if isBlank c then withoutComment (c :: blanks) rest
    else blanks.reverse ++ c :: withoutComment [] rest

/-- Reads the value of a variable. The result is empty where no value can be read. -/
def readValue (cs : List Char) : Option (List Char × List Char) :=
  match cs with
  | '\x27' :: rest =>
    (readQuoted '\x27' rest).map fun (value, rest) => (unescape escapedPlain? value, rest)
  | '"' :: rest =>
    (readQuoted '"' rest).map fun (value, rest) => (unescape escapedLetter? value, rest)
  | cs =>
    let line := cs.takeWhile (· != '\n')
    some (trimEnd (withoutComment [] line), cs.drop line.length)

def skipLine (cs : List Char) : List Char :=
  (cs.dropWhile (· != '\n')).drop 1

def readLineEnd (cs : List Char) : Option (List Char) :=
  let cs :=
    match cs.dropWhile isGap with
    | '#' :: rest => rest.dropWhile (· != '\n')
    | _ => cs
  match cs.dropWhile isGap with
  | [] => some []
  | '\n' :: rest => some rest
  | _ => none

/-- Reads what stands after the name of a variable: no value, or one after an equals sign.
The first part of the result is empty where no value can be read. -/
def readAssigned (cs : List Char) : Option (Option (List Char)) × List Char :=
  match cs with
  | '=' :: rest =>
    let rest := rest.dropWhile isGap
    match readValue rest with
    | some (value, after) => (some (some value), after)
    | none => (none, rest)
  | cs => (some none, cs)

/-- Reads one entry: the variable, if there is one, and what follows. An entry that means
nothing is passed over with the rest of the line on which it stops to mean something. -/
def readEntry (cs : List Char) : Option (List Char × Option (List Char)) × List Char :=
  let cs := cs.dropWhile isBlank
  if cs.isEmpty then (none, [])
  else
    let cs := skipExport cs
    match readName cs with
    | none => (none, skipLine cs)
    | some (name, cs) =>
      let cs := cs.dropWhile isGap
      let (value, cs) := readAssigned cs
      match value with
      | none => (none, skipLine cs)
      | some value =>
        match readLineEnd cs with
        | none => (none, skipLine cs)
        | some rest => (name.map fun name => (name, value), rest)

/-- The entries of a file. Every entry takes something away. -/
def entries (cs : List Char) : List (List Char × Option (List Char)) :=
  let (entry, rest) := readEntry cs
  if _h : rest.length < cs.length then entry.toList ++ entries rest else entry.toList
termination_by cs.length

/-- Reads a named variable after `${`: its name, what stands for it if it has no value,
and what follows. -/
def readReference (cs : List Char) : Option (List Char × List Char × List Char) :=
  let name := cs.takeWhile fun c => !(c == '\x7d' || c == ':')
  match cs.drop name.length with
  | '\x7d' :: rest => some (name, [], rest)
  | ':' :: '-' :: rest =>
    match cut (· == '\x7d') rest with
    | (fallback, some rest) => some (name, fallback, rest)
    | (_, none) => none
  | _ => none

/-- A value with the variables that it names replaced; `value?` gives their values, the
second argument how many characters are passed over. -/
def expandFrom (value? : String → Option String) : (skip : Nat) → List Char → List Char
  | _, [] => []
  | skip + 1, _ :: rest => expandFrom value? skip rest
  | 0, '$' :: '\x7b' :: rest =>
    match readReference rest with
    | some (name, fallback, after) =>
      ((value? (String.ofList name)).getD (String.ofList fallback)).toList ++
        expandFrom value? (rest.length - after.length) rest
    | none => '$' :: '\x7b' :: expandFrom value? 0 rest
  | 0, c :: rest => c :: expandFrom value? 0 rest

def expand (value? : String → Option String) (cs : List Char) : List Char :=
  expandFrom value? 0 cs

/-- Gives a variable a value, at its first place if it has one. -/
def put (known : List Variable) (entry : Variable) : List Variable :=
  if known.any (·.1 == entry.1) then
    known.map fun earlier => if earlier.1 == entry.1 then entry else earlier
  else known ++ [entry]

/-- The value of a variable as others see it: one of the file if it is set there, else one
of the environment. -/
def seen? (environment : List (String × String)) (known : List Variable) (name : String) :
    Option String :=
  match known.find? (·.1 == name) with
  | some (_, value) => some (value.getD "")
  | none => (environment.find? (·.1 == name)).map (·.2)

def read (environment : List (String × String)) (text : String) : List Variable :=
  (entries (unifyLineEnds text.toList)).foldl
    (fun known (name, value) =>
      let value := value.map fun value =>
        String.ofList (expand (seen? environment known) value)
      put known (String.ofList name, value))
    []

end MmsHttp.EnvFile
