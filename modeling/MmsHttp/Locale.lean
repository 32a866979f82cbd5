import MmsHttp.Text.Blank
import MmsHttp.Text.Lowercase
import MmsHttp.Text.Split

/-!
Language preferences. A locale name such as `fr_CA.UTF-8` becomes the preferences of a
request: its language, with the region if it has one, and then US English, which every
carrier understands.
-/

namespace MmsHttp.Locale

open Text

def fallback : String := "en-US"

/-- The current code of a language that was once given another one. -/
def currentCode (language : List Char) : List Char :=
  if language == ['i', 'w'] then ['h', 'e']
  else if language == ['i', 'n'] then ['i', 'd']
  else if language == ['j', 'i'] then ['y', 'i']
  else language

def isSeparator (c : Char) : Bool :=
  c == '-' || c == '_'

def isLetter (c : Char) : Bool :=
  ('a' ≤ c && c ≤ 'z') || ('A' ≤ c && c ≤ 'Z')

def isScript (piece : List Char) : Bool :=
  piece.length == 4 && piece.all isLetter

def isRegion (piece : List Char) : Bool :=
  (piece.length == 2 && piece.all isLetter) ||
    (piece.length == 3 && piece.all fun c => '0' ≤ c && c ≤ '9')

/-- A locale name without its encoding, its modifier and the blanks around it. -/
def base (locale : List Char) : List Char :=
  trim ((locale.takeWhile (· != '.')).takeWhile (· != '@'))

/-- The region that the subtags after the language name, empty if they name none. A
script may stand before it. -/
def regionOf (rest : List (List Char)) : List Char :=
  let candidates :=
    match rest with
    | first :: others => if isScript first then others else rest
    | [] => []
  match candidates with
  | piece :: _ => if isRegion piece then piece.map upperAscii else []
  | [] => []

def split (locale : List Char) : List Char × List Char :=
  match splitBy isSeparator (base locale) with
  | [] => ([], [])
  | language :: rest => (lower language, regionOf rest)

/-- The preference that a locale name stands for; empty if it names no language. -/
def preference (locale : List Char) : List Char :=
  let (language, region) := split locale
  let language := currentCode language
  if language.isEmpty then [] else if region.isEmpty then language else language ++ '-' :: region

/-- The languages that a request asks for, best first. -/
def acceptLanguage (locale : String) : String :=
  let first := String.ofList (preference locale.toList)
  if first == fallback then fallback
  else if first == "" then fallback
  else first ++ ", " ++ fallback

/-- The locale of a process that reports the given name. A process without a name, or
with one of the two that stand for no language, is taken to speak US English. -/
def ofProcess : Option String → String
  | none => "en_US"
  | some name =>
    if name == "" || lowered name == "c" || lowered name == "posix" then "en_US" else name

/-- The locale that an environment names, without its encoding and its modifier. -/
def ofEnvironment (environment : List (String × String)) : Option String :=
  let value? (name : String) : Option String :=
    (environment.find? fun entry => entry.1 == name && entry.2 != "").map (·.2)
  (["LC_ALL", "LC_CTYPE", "LANG"].findSome? value?).map fun locale =>
    String.ofList (base locale.toList)

end MmsHttp.Locale
