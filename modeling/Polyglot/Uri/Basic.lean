import Polyglot.Text.Classes
import Polyglot.Uri.Host
import Polyglot.Uri.Path

/-!
# URIs

A URI is read into its parts and written from them in one form, so that two spellings of a URI
become one identifier. The scheme is written in small letters. The special schemes `http`,
`https`, `ws`, `wss`, `ftp` and `file` have an authority and a path that is never empty, and take
a backslash for a slash.
-/

set_option autoImplicit false

namespace Polyglot

/-- The path of a URI: names behind slashes, or a text that is not divided. -/
inductive UriPath where
  | segments (names : List String)
  | undivided (text : String)
deriving DecidableEq, Repr

/-- A URI by its parts, each in its written form. The number is the one behind the host. -/
structure Uri where
  scheme : String
  user? : Option String
  host? : Option String
  number? : Option Nat
  path : UriPath
  query? : Option String
  fragment? : Option String
deriving DecidableEq, Repr

namespace Uri

/-- The default numbers of the special schemes other than `file`. -/
def defaultNumber? : String → Option Nat
  | "http" | "ws" => some 80
  | "https" | "wss" => some 443
  | "ftp" => some 21
  | _ => none

/-- Whether the scheme is `file`. -/
def isFile (scheme : String) : Bool :=
  scheme == "file"

/-- Whether the scheme is special. -/
def isSpecial (scheme : String) : Bool :=
  isFile scheme || (defaultNumber? scheme).isSome

/-- Whether a character divides the names of a path. -/
def isSlash (scheme : String) (c : Char) : Bool :=
  c == '/' || (isSpecial scheme && c == '\\')

/-- The scheme in small letters and what is behind its colon. -/
def scheme? (cs : List Char) : Option (String × List Char) :=
  let isPart := fun d : Char => d.isAlphanum || d == '+' || d == '-' || d == '.'
  match Text.cutAt (· == ':') cs with
  | (front, some rest) =>
    let name := visible front
    if name.head?.any Char.isAlpha && name.all isPart then
      some (String.ofList (name.map Char.toLower), rest)
    else none
  | (_, none) => none

/-- What stands between two slashes and the path. -/
structure Authority where
  user? : Option String
  host : String
  number? : Option Nat

/-- The authority of an empty host. -/
def Authority.empty : Authority :=
  ⟨none, "", none⟩

/-- The name and the password of a user in their written form. -/
def userOf (cs : List Char) : Option String :=
  let (name, password?) := Text.cutAt (· == ':') cs
  let password := (password?.map (escape escapedInUser)).getD []
  let name := escape escapedInUser name
  if name.isEmpty && password.isEmpty then none
  else if password.isEmpty then some (String.ofList name)
  else some (String.ofList (name ++ ':' :: password))

/-- The text of a host and what follows it: a slash, or a colon outside brackets. -/
def spanHost (scheme : String) (bracketed : Bool) : List Char → List Char × List Char
  | [] => ([], [])
  | c :: cs =>
    if isSlash scheme c || (c == ':' && !bracketed) then ([], c :: cs)
    else
      let (host, rest) := spanHost scheme (c == '[' || (bracketed && c != ']')) cs
      (c :: host, rest)

/-- The number behind a host, none where nothing is written or the default of the scheme, and what
follows it. -/
def readNumber (scheme : String) (cs : List Char) : Except UriError (Option Nat × List Char) :=
  let (digits, rest) := cs.span Char.isDigit
  let n := digits.foldl (fun n c => 10 * n + (c.toNat - '0'.toNat)) 0
  let ended := rest.head?.all fun c => c == '/' || c == '\\'
  if 65535 < n || !ended then .error .badNumber
  else if digits.isEmpty || defaultNumber? scheme == some n then .ok (none, rest)
  else .ok (some n, rest)

/-- The authority at the start of a text and the path behind it. A user must have a host. -/
def readAuthority (scheme : String) (followed : Bool) (cs : List Char) :
    Except UriError (Authority × List Char) := do
  let (front, slashed) := cs.span fun c => !isSlash scheme c
  let (user?, cs) ← match Text.cutAtLast? (· == '@') front with
    | none => pure (none, cs)
    | some ([], []) => if followed || !slashed.isEmpty then throw .emptyHost else pure (none, [])
    | some (user, host) => pure (userOf user, host ++ slashed)
  let (text, rest) := spanHost scheme false cs
  if text.isEmpty && (isSpecial scheme || rest.head? == some ':') then throw .emptyHost
  let host ← readHost (isSpecial scheme) text
  let (number?, path) ← match rest with
    | ':' :: rest => readNumber scheme rest
    | _ => pure (none, rest)
  if host.isEmpty && user?.isSome then throw .emptyHost
  return (⟨user?, host, number?⟩, path)

/-- The names of a path that begins at its root, in their written form. -/
def namesOf (scheme : String) (path : List Char) : List String :=
  (walk (isFile scheme) (isSlash scheme) path).names.map String.ofList

/-- The authority and the path behind `file:` and two slashes. A drive letter in place of a host
belongs to the path, `localhost` is no host, and a path that starts at a drive letter leaves no
room for one. -/
def readFile (cs : List Char) : Except UriError (Authority × UriPath) := do
  let slash := isSlash "file"
  let (front, rest) := cs.span fun c => !slash c
  let text := visible front
  let withoutHost (path : List Char) : Authority × UriPath :=
    (.empty, .segments (namesOf "file" path))
  if isDrive text then return withoutHost cs
  else if text.isEmpty then return withoutHost rest
  else
    let host ← readHost true text
    if host = "localhost" then return withoutHost rest
    else
      let w := walk true slash (behindSlash slash rest)
      return (⟨none, if w.startsAtDrive then "" else host, none⟩,
        .segments (w.names.map String.ofList))

/-- A text without two slashes at its start, if it has them. -/
def behindSlashes? (slash : Char → Bool) (cs : List Char) : Option (List Char) :=
  match cs.dropWhile isSkipped with
  | [] => none
  | a :: cs =>
    match cs.dropWhile isSkipped with
    | [] => none
    | b :: cs => if slash a && slash b then some cs else none

/-- The authority, if there is one, and the path behind the colon of a scheme. -/
def readHierarchy (scheme : String) (followed : Bool) (cs : List Char) :
    Except UriError (Option Authority × UriPath) := do
  let slash := isSlash scheme
  if isFile scheme then
    match behindSlashes? slash cs with
    | some rest =>
      let (authority, path) ← readFile rest
      return (some authority, path)
    | none => return (some .empty, .segments (namesOf scheme (behindSlash slash cs)))
  else if isSpecial scheme then
    let (authority, path) ← readAuthority scheme followed ((visible cs).dropWhile slash)
    return (some authority, .segments (namesOf scheme (behindSlash slash path)))
  else
    match visible cs with
    | '/' :: '/' :: rest =>
      let (authority, path) ← readAuthority scheme followed rest
      if path.isEmpty then return (some authority, .segments [])
      else return (some authority, .segments (namesOf scheme (behindSlash slash path)))
    | '/' :: path => return (none, .segments (namesOf scheme path))
    | text => return (none, .undivided (String.ofList (escape isControl text)))

/-- Reads a URI. Controls and spaces around it count for nothing, nor do tabs and line breaks
inside it. A text without a scheme is no URI. -/
def parse (s : String) : Except UriError Uri := do
  let isOutside := fun c : Char => decide (c.toNat ≤ 0x20)
  match scheme? (Text.trim isOutside s.toList) with
  | none => throw .noScheme
  | some (scheme, rest) =>
    let (body, fragment?) := Text.cutAt (· == '#') rest
    let (front, query?) := Text.cutAt (· == '?') body
    let (authority?, path) ← readHierarchy scheme (query?.isSome || fragment?.isSome) front
    let escapedHere := if isSpecial scheme then escapedInSpecialQuery else escapedInQuery
    return {
      scheme := scheme
      user? := authority?.bind Authority.user?
      host? := authority?.map Authority.host
      number? := authority?.bind Authority.number?
      path := path
      query? := query?.map fun q => String.ofList (escape escapedHere (visible q))
      fragment? := fragment?.map fun f => String.ofList (escape escapedInFragment (visible f)) }

/-- The URI that a text writes, if it writes one. -/
def parse? (s : String) : Option Uri :=
  (parse s).toOption

/-- The path in its written form. -/
def pathText (u : Uri) : String :=
  match u.path with
  | .undivided text => text
  | .segments names =>
    let text := String.join (names.map ("/" ++ ·))
    if u.host?.isNone && names.head? == some "" && 1 < names.length then "/." ++ text else text

/-- The authority in its written form, with the two slashes in front of it. -/
def authorityText (u : Uri) : String :=
  match u.host? with
  | none => ""
  | some host =>
    "//" ++ ((u.user?.map (· ++ "@")).getD "") ++ host ++
      ((u.number?.map fun n => ":" ++ Text.decimal n).getD "")

/-- The URI in its written form. -/
def text (u : Uri) : String :=
  u.scheme ++ ":" ++ u.authorityText ++ u.pathText ++ ((u.query?.map ("?" ++ ·)).getD "") ++
    ((u.fragment?.map ("#" ++ ·)).getD "")

/-- The name in a file system that bytes write. Bytes that are no text become a text that is the
name of no file, since it has a null character. -/
def nameOfBytes (bytes : List UInt8) : String :=
  (String.fromUTF8? ⟨bytes.toArray⟩).getD "\x00"

/-- The names along the path in a file system, if the URI has a divided path and no host but
`localhost`. An escaped slash divides names like any other. -/
def filePath? (u : Uri) : Option (List String) :=
  match u.path with
  | .undivided _ => none
  | .segments names =>
    if u.host?.getD "" ∈ ["", "localhost"] then
      let bytes := (names.map fun name => unescape name.toList).intersperse [0x2F]
      some ((bytes.flatten.splitOn 0x2F).map nameOfBytes)
    else none

end Uri

end Polyglot
