import MmsHttp.Coding.Container
import MmsHttp.Fault
import MmsHttp.Headers
import MmsHttp.Text.Blank
import MmsHttp.Text.Split

/-!
Content codings. A decoder takes the chunks of a body one by one and gives out what each
of them adds; several codings are undone in the reverse of the order in which they are
named, and codings without a decoder are passed over.
-/

namespace MmsHttp.Coding

open Text

/-- A decoder of one coding. A compressed one keeps its input and the size of what it
has given out; `untried` holds until it has seen its first chunk. -/
inductive Decoder where
  | plain
  | compressed (container : Container) (untried : Bool) (input : Bytes) (given : Nat)

namespace Decoder

/-- Adds a chunk to a compressed stream. A deflate body may come without its container,
which is tried if the very first chunk does not fit. -/
def feed (chunk : Bytes) : Decoder → Except Fault (Bytes × Decoder)
  | plain => .ok (chunk, plain)
  | compressed container untried input given =>
    let input := input ++ chunk
    let unpacked := container.unpack input
    match unpacked.progress with
    | .broken =>
      if untried && container == .zlib then
        let raw := Container.raw.unpack chunk
        match raw.progress with
        | .broken => .error .undecodable
        | _ => .ok (raw.output, compressed .raw false chunk raw.output.length)
      else .error .undecodable
    | _ =>
      .ok (unpacked.output.drop given, compressed container false input unpacked.output.length)

def ofName? (name : String) : Option Decoder :=
  if name == "identity" then some plain
  else if name == "gzip" then some (compressed .gzip false [] 0)
  else if name == "deflate" then some (compressed .zlib true [] 0)
  else none

/-- The decoders for the codings that headers name, the one to use first coming first. -/
def ofHeaders (headers : List Header) : List Decoder :=
  let names := (Headers.values headers "content-encoding").flatMap fun value =>
    (splitBy (· == ',') value.toList).map fun name => String.ofList (lower (trim name))
  (names.filterMap ofName?).reverse

def feedAll : List Decoder → Bytes → Except Fault (Bytes × List Decoder)
  | [], chunk => .ok (chunk, [])
  | decoder :: decoders, chunk => do
    let (chunk, decoder) ← decoder.feed chunk
    let (chunk, decoders) ← feedAll decoders chunk
    pure (chunk, decoder :: decoders)

end Decoder

end MmsHttp.Coding
