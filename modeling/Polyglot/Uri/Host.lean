import Polyglot.Text.Numeral
import Polyglot.Uri.Address
import Polyglot.Uri.DomainName
import Polyglot.Uri.Escape

/-!
# Hosts of URIs

A host is a name or a numeric address, which stands in brackets if it has 128 bits. The schemes
that have names of their own for hosts, the special ones, read a name as one of the domain name
system: with its escapes undone, in small letters, and as an address of 32 bits if it ends in a
number. Other schemes keep it as it is.
-/

set_option autoImplicit false

namespace Polyglot

/-- Why a text is no URI. -/
inductive UriError where
  | noScheme
  | emptyHost
  | badName
  | badCharacter
  | badShortAddress
  | badLongAddress
  | badNumber
deriving DecidableEq, Repr

namespace UriError

/-- The text of an error. -/
def message : UriError → String
  | noScheme => "relative URL without a base"
  | emptyHost => "empty host"
  | badName => "invalid international domain name"
  | badCharacter => "invalid domain character"
  | badShortAddress => "invalid IPv4 address"
  | badLongAddress => "invalid IPv6 address"
  | badNumber => "invalid port number"

end UriError

namespace Uri

/-- The host of a domain name. -/
def readName (cs : List Char) : Except UriError String :=
  let name? := (String.fromUTF8? ⟨(unescape cs).toArray⟩).bind fun name =>
    DomainName.write? name.toList
  match name? with
  | none => .error .badName
  | some [] => .error .emptyHost
  | some name =>
    if endsInNumber name then
      match shortAddress? name with
      | some address => .ok (shortAddressText address)
      | none => .error .badShortAddress
    else .ok (String.ofList name)

/-- The host of a text behind an opening bracket. -/
def readBracketed (cs : List Char) : Except UriError String :=
  match cs.getLast? with
  | some ']' =>
    match longAddress? cs.dropLast with
    | some groups => .ok ("[" ++ longAddressText groups ++ "]")
    | none => .error .badLongAddress
  | _ => .error .badLongAddress

/-- The written form of a host. -/
def readHost (special : Bool) : List Char → Except UriError String
  | '[' :: cs => readBracketed cs
  | cs =>
    if special then readName cs
    else if cs.any isForbidden then .error .badCharacter
    else .ok (String.ofList (escape isControl cs))

end Uri

end Polyglot
