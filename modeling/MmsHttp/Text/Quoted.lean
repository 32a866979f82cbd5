import MmsHttp.Text.Hex
import MmsHttp.Text.Printable

/-!
Quoted text, the form in which messages show a name or a piece of an address. The
quotes are single unless the text has an apostrophe and no double quote, so that
most texts need no escape.
-/

namespace MmsHttp.Text

def apostrophe : Char := Char.ofNat 39

/-- The quote that surrounds a text of the given code points. -/
def quoteFor (codes : List Nat) : Char :=
  if codes.contains apostrophe.toNat && !codes.contains 34 then '"' else apostrophe

/-- A code point that cannot be shown, by its number in two, four or eight digits. -/
def numbered (code : Nat) : List Char :=
  if code < 0x100 then '\\' :: 'x' :: hexText 2 code
  else if code < 0x10000 then '\\' :: 'u' :: hexText 4 code
  else '\\' :: 'U' :: hexText 8 code

def escaped (quote : Char) (code : Nat) : List Char :=
  let c := Char.ofNat code
  if c.toNat != code then numbered code
  else if c == '\\' || c == quote then ['\\', c]
  else if c == '\n' then ['\\', 'n']
  else if c == '\r' then ['\\', 'r']
  else if c == '\t' then ['\\', 't']
  else if isPrintable c then [c]
  else numbered code

/-- Code points between quotes; those that are no characters are shown by number. -/
def quotedCodes (codes : List Nat) : String :=
  let quote := quoteFor codes
  String.ofList ([quote] ++ codes.flatMap (escaped quote) ++ [quote])

def quoted (s : String) : String :=
  quotedCodes (s.toList.map Char.toNat)

end MmsHttp.Text
