import SchemaScope.Uri.Host
import SchemaScope.Uri.Path

/-!
URIs, by which an editor names its documents. Different texts may name one
document, so a URI is kept in its normal form: scheme and host in small letters,
no port that goes without saying, a path without steps up, and all characters
encoded that have to be. Some schemes have rules of their own: they take a
backslash for a slash and always have a path.
-/

namespace SchemaScope

/-- A URI, which is known by its normal form. -/
structure Uri where
  text : String
  deriving DecidableEq, Repr

namespace Uri

/-- What is known of a scheme. -/
inductive SchemeKind where
  | file
  /-- A scheme with rules of its own and a customary port. -/
  | network (port : Nat)
  | other
  deriving DecidableEq, Repr

def SchemeKind.ofScheme (scheme : String) : SchemeKind :=
  match scheme with
  | "file" => .file
  | "http" | "ws" => .network 80
  | "https" | "wss" => .network 443
  | "ftp" => .network 21
  | _ => .other

/-- A scheme has rules of its own. -/
def SchemeKind.isSpecial (kind : SchemeKind) : Bool :=
  kind ≠ .other

/-- A character that ends a segment of a path. -/
def SchemeKind.isSlash (kind : SchemeKind) (c : Char) : Bool :=
  c == '/' || (c == '\\' && kind.isSpecial)

/-- A text without the controls and spaces around it. -/
def trim (text : String) : List Char :=
  let isAround (c : Char) : Bool := c.toNat ≤ 32
  ((text.toList.dropWhile isAround).reverse.dropWhile isAround).reverse

/-- A text without the breaks in it, except that the first one directly behind a
colon is kept: it may end the drive of a disk. -/
def clean : (isBehindColon : Bool) → List Char → List Char
  | _, [] => []
  | isBehindColon, c :: rest =>
    if isBreak c && !isBehindColon then clean false rest
    else c :: clean (c == ':') rest

def isSchemeChar (c : Char) : Bool :=
  c.isAlphanum || c == '+' || c == '-' || c == '.'

/-- The scheme at the beginning, and what follows its colon. -/
def readScheme (cs : List Char) : Except UriError (String × List Char) :=
  match cs.takeWhile isSchemeChar, cs.dropWhile isSchemeChar with
  | first :: scheme, ':' :: rest =>
    if first.isAlpha then
      .ok (String.ofList ((first :: scheme).map Char.toLower), rest)
    else .error .relative
  | _, _ => .error .relative

/-- The text in front of the first mark, and the text behind it. -/
def cut (mark : Char) (cs : List Char) : List Char × Option (List Char) :=
  match cs.dropWhile (· ≠ mark) with
  | [] => (cs, none)
  | _ :: rest => (cs.takeWhile (· ≠ mark), some rest)

/-- A user and a password as they are printed. -/
def userText (cs : List Char) : List Char :=
  let (user, password) := cut ':' cs
  let password := password.getD []
  let text := encode inUserInfo user ++
    if password.isEmpty then [] else ':' :: encode inUserInfo password
  if text.isEmpty then [] else text ++ ['@']

/-- The host in front of the first colon outside brackets, and what follows
it. -/
def takeHost : (inBrackets : Bool) → List Char → List Char × List Char
  | _, [] => ([], [])
  | inBrackets, c :: rest =>
    if c == ':' && !inBrackets then ([], c :: rest)
    else
      let (host, rest) := takeHost (c == '[' || (inBrackets && c ≠ ']')) rest
      (c :: host, rest)

/-- The port behind a host as it is printed, and what follows it behind a
backslash. The customary port is not printed. -/
def readPort (kind : SchemeKind) :
    List Char → Except UriError (List Char × List Char)
  | ':' :: rest =>
    let (digits, rest) := (rest.takeWhile (· ≠ '\\'), rest.dropWhile (· ≠ '\\'))
    if !digits.all Char.isDigit then .error .port
    else
      let port := (numberIn? 10 digits).getD 0
      if 65535 < port then .error .port
      else if digits.isEmpty || kind = .network port then .ok ([], rest)
      else .ok (':' :: Nat.toDigits 10 port, rest)
  | _ => .ok ([], [])

/-- The user in front of the last `@`, if there is one, and host and port. -/
def cutUser (cs : List Char) : Option (List Char) × List Char :=
  match cs.reverse.dropWhile (· ≠ '@') with
  | [] => (none, cs)
  | _ :: user => (some user.reverse, (cs.reverse.takeWhile (· ≠ '@')).reverse)

/-- User, host and port, and what follows them behind a backslash. Without a
host there is neither a user nor a port, and nothing may follow a lone `@`. -/
def readAuthority (kind : SchemeKind) (isEnd : Bool) (cs : List Char) :
    Except UriError (List Char × List Char) := do
  let (user, rest) := cutUser cs
  let (host, rest) := takeHost false rest
  let isLone := user = some [] && !isEnd
  let user := userText (user.getD [])
  if host.isEmpty
      && (kind.isSpecial || !user.isEmpty || !rest.isEmpty || isLone) then
    .error .emptyHost
  let host ← if kind.isSpecial then lookedUpHost host else plainHost host
  let (port, rest) ← readPort kind rest
  return (user ++ host ++ port, rest)

/-- The path that a text describes behind its first slash. -/
def readPath (kind : SchemeKind) (cs : List Char) : PathProgress :=
  .enterAll (kind = .file) (splitAt kind.isSlash cs)

/-- The host and the path of a file. The machine at hand is not named, and
neither is the one with the drive of a path. -/
def readFile (cs : List Char) : Except UriError (List Char × List Char) :=
  let kind := SchemeKind.file
  let atHand (cs : List Char) := ([], (readPath kind cs).text true)
  let (slashes, rest) := (cs.takeWhile kind.isSlash, cs.dropWhile kind.isSlash)
  match slashes with
  | [] => .ok (atHand cs)
  | [_] => .ok (atHand rest)
  | [_, _] => do
    let host := whole (rest.takeWhile (!kind.isSlash ·))
    let path := rest.dropWhile (!kind.isSlash ·)
    if isDrive host then return atHand rest
    if host.isEmpty then return atHand path
    let host ← lookedUpHost host
    if host == "localhost".toList then return atHand path
    let p := readPath kind (path.drop 1)
    return (if p.onDrive then [] else host, p.text true)
  | _ :: _ :: _ => .ok (atHand (cs.drop 2))

/-- The authority and the path that follow a scheme, in front of a query and a
fragment. Without an authority a path does not begin with two slashes, which
would announce one. -/
def readHierarchy (kind : SchemeKind) (isEnd : Bool) (cs : List Char) :
    Except UriError (Option (List Char) × List Char) :=
  let located (cs : List Char) :
      Except UriError (Option (List Char) × List Char) := do
    let path := cs.dropWhile (!kind.isSlash ·)
    let (authority, front) ←
      readAuthority kind (isEnd && path.isEmpty)
        (cs.takeWhile (!kind.isSlash ·))
    let isMissing := front.isEmpty && path.isEmpty && !kind.isSpecial
    let p :=
      readPath kind (if front.isEmpty then path.drop 1 else front ++ path)
    return (some authority, if isMissing then [] else p.text false)
  match kind, cs with
  | .file, cs => (readFile cs).map fun (host, path) => (some host, path)
  | .network _, cs => located (cs.dropWhile kind.isSlash)
  | .other, '/' :: '/' :: rest => located rest
  | .other, '/' :: rest =>
    let path := (readPath kind rest).text false
    .ok (none, if ['/', '/'].isPrefixOf path then '/' :: '.' :: path else path)
  | .other, cs => .ok (none, encode isHidden cs)

/-- The URI that a text stands for. -/
def ofText (text : String) : Except UriError Uri := do
  let (scheme, rest) ← readScheme (clean false (trim text))
  let kind := SchemeKind.ofScheme scheme
  let (rest, fragment) := cut '#' (rest.dropWhile isBreak)
  let (rest, query) := cut '?' rest
  let (authority, path) ← readHierarchy kind (query.isNone && fragment.isNone)
    (if kind = .file then rest else whole rest)
  let querySet := if kind.isSpecial then inSpecialQuery else inQuery
  let part (mark : String) (text : Option (List Char)) : List Char :=
    (text.map fun cs => mark.toList ++ cs).getD []
  return ⟨scheme ++ ":" ++ String.ofList (part "//" authority ++ path ++
    part "?" (query.map (encode querySet ∘ whole)) ++
    part "#" (fragment.map (encode inFragment ∘ whole)))⟩

end Uri

end SchemaScope
