import MmsHttp.Macro
import MmsHttp.Text.Base64

/-!
The macro values that a carrier's headers can name: the subscriber's number, the same
number in national form, the network access identifier in Base64, and whatever further
values the configuration lists.
-/

namespace MmsHttp

/-- What a carrier's macros stand for. -/
structure Carrier where
  line1Number : String := ""
  countryCallingCode : String := ""
  nai : String := ""
  naiSuffix : String := ""
  extra : List (String × String) := []

namespace Carrier

open Text

def after? : (beginning : List Char) → List Char → Option (List Char)
  | [], cs => some cs
  | _ :: _, [] => none
  | b :: beginning, c :: cs => if b == c then after? beginning cs else none

def callingDigits (code : List Char) : List Char :=
  (trim code).dropWhile (· == '+')

/-- A number in national form: an international number, which begins with a plus sign,
loses the sign and the calling code if that follows; any other number stays. -/
def nationalForm (number code : List Char) : List Char :=
  match trim number with
  | '+' :: digits => (after? (callingDigits code) digits).getD digits
  | national => national

def nonempty? (s : String) : Option String :=
  if s == "" then none else some s

/-- The value listed for a name; of several the last one counts. -/
def listed? (entries : List (String × String)) (name : String) : Option String :=
  (entries.reverse.find? (·.1 == name)).map (·.2)

/-- The network access identifier and its suffix in Base64, empty without identifier. -/
def encodedNai (carrier : Carrier) : String :=
  if carrier.nai == "" then ""
  else String.ofList (Base64.encode (utf8 (carrier.nai ++ carrier.naiSuffix).toList))

/-- What a macro name stands for. The three names of the subscriber's own values never
reach the further ones. -/
def lookup (carrier : Carrier) : Macro.Table := fun name =>
  if name == "LINE1" then nonempty? carrier.line1Number
  else if name == "LINE1NOCOUNTRYCODE" then
    nonempty? (String.ofList
      (nationalForm carrier.line1Number.toList carrier.countryCallingCode.toList))
  else if name == "NAI" then nonempty? carrier.encodedNai
  else listed? carrier.extra name

end Carrier

def Macro.ofList (entries : List (String × String)) : Macro.Table :=
  Carrier.listed? entries

end MmsHttp
