import MarketFeed.Url.Basic

/-!
Reading an address. Blanks and controls around the text, and tabs and line ends in it, do not count.
The address of a web server is read in full; of any other address only what can make it faulty is
looked at, and its scheme is kept.
-/

namespace MarketFeed.Url

/-- What a text was read as. -/
inductive Parsed where
  | web (url : Url)
  | foreign (scheme : List Char)
deriving DecidableEq, Repr

def isSchemeChar (c : Char) : Bool := c.isAlphanum || c = '+' || c = '-' || c = '.'

/-- The text without what does not count. -/
def clean (s : List Char) : List Char :=
  let outer (c : Char) : Bool := c.toNat ≤ 0x20
  let inner := ((s.dropWhile outer).reverse.dropWhile outer).reverse
  inner.filter fun c => c ≠ '\t' ∧ c ≠ '\n' ∧ c ≠ '\r'

/-- The scheme in lower case, and what follows its colon. -/
def cutScheme (s : List Char) : Option (List Char × List Char) :=
  match s with
  | [] => none
  | c :: _ =>
    if c.isAlpha then
      match s.dropWhile isSchemeChar with
      | ':' :: rest => some ((s.takeWhile isSchemeChar).map Char.toLower, rest)
      | _ => none
    else none

/-- The host of an address that is not special: any text without characters that would end it. -/
def opaqueHost (s : List Char) : Except Fault Unit :=
  match s with
  | '[' :: rest =>
    if rest.getLast? = some ']' then
      match address6? rest.dropLast with
      | some _ => .ok ()
      | none => .error .badAddress6
    else .error .badAddress6
  | _ =>
    let bad (c : Char) : Bool :=
      c.toNat = 0 || c = '\t' || c = '\n' || c = '\r' || c = ' ' || c = '#' || c = '/' || c = ':' ||
        c = '<' || c = '>' || c = '?' || c = '@' || c = '[' || c = '\\' || c = ']' || c = '^' ||
        c = '|'
    if s.any bad then .error .badHostCharacter else .ok ()

def readHost (s : List Char) : Except Fault Host :=
  match s with
  | '[' :: rest =>
    if rest.getLast? = some ']' then
      match address6? rest.dropLast with
      | some gs => .ok (.address6 gs)
      | none => .error .badAddress6
    else .error .badAddress6
  | _ =>
    match asciiDomain? (percentDecode s) with
    | none => .error .badDomain
    | some [] => .error .emptyHost
    | some domain =>
      if endsInNumber domain then
        match address4? domain with
        | some n => .ok (.address4 n)
        | none => .error .badAddress4
      else .ok (.domain domain)

/-- Whether a character ends the authority. -/
def endsAuthority (special : Bool) (c : Char) : Bool :=
  c = '/' || c = '?' || c = '#' || (special && c = '\\')

/-- The text before and after the last `@`. -/
def cutUser (authority : List Char) : Option (List Char × List Char) :=
  match authority.reverse.dropWhile (· ≠ '@') with
  | [] => none
  | _ :: user => some (user.reverse, (authority.reverse.takeWhile (· ≠ '@')).reverse)

/-- The host in front of a port; colons in brackets belong to the host. -/
def cutHost : (inside : Bool) → List Char → List Char × List Char
  | _, [] => ([], [])
  | inside, c :: rest =>
    if c = ':' ∧ ¬inside then ([], c :: rest)
    else
      let p := cutHost (if c = '[' then true else if c = ']' then false else inside) rest
      (c :: p.1, p.2)

/-- The port after a host. It stops at a backslash, which ends the authority of some addresses only. -/
def readPort (s : List Char) : Except Fault (Option Nat) :=
  match s with
  | ':' :: rest =>
    let ds := rest.takeWhile Char.isDigit
    if 65535 < ds.foldl (fun n c => n * 10 + (c.toNat - 48)) 0 then .error .badPort
    else
      match rest.dropWhile Char.isDigit with
      | [] | '\\' :: _ =>
        .ok (if ds = [] then none else some (ds.foldl (fun n c => n * 10 + (c.toNat - 48)) 0))
      | _ => .error .badPort
  | _ => .ok none

/-- The user and the password, each encoded. -/
def readUser (s : List Char) : List Char × List Char :=
  let user := s.takeWhile (· ≠ ':')
  let password := (s.dropWhile (· ≠ ':')).drop 1
  (percentEncode inUserInfo user, percentEncode inUserInfo password)

/-- Whether a segment means the directory itself. -/
def isDot (s : List Char) : Bool := s = ['.'] || s.map Char.toLower = ['%', '2', 'e']

/-- Whether a segment means the directory above. -/
def isDotDot (s : List Char) : Bool :=
  let l := s.map Char.toLower
  l = ['.', '.'] || l = ['.', '%', '2', 'e'] || l = ['%', '2', 'e', '.'] ||
    l = ['%', '2', 'e', '%', '2', 'e']

/-- Cuts a path at its slashes and backslashes. -/
def segments : List Char → List (List Char)
  | [] => [[]]
  | c :: rest =>
    if c = '/' ∨ c = '\\' then [] :: segments rest
    else
      match segments rest with
      | [] => [[c]]
      | s :: more => (c :: s) :: more

/-- Follows the segments of a path from the directory `above`, whose segments are in reverse order. -/
def follow : (above segments : List (List Char)) → List (List Char)
  | above, [] => above.reverse
  | above, [s] =>
    if isDotDot s then ([] :: above.drop 1).reverse
    else if isDot s then ([] :: above).reverse
    else (percentEncode inPath s :: above).reverse
  | above, s :: t :: rest =>
    if isDotDot s then follow (above.drop 1) (t :: rest)
    else if isDot s then follow above (t :: rest)
    else follow (percentEncode inPath s :: above) (t :: rest)

/-- The path after an authority. -/
def readPath (s : List Char) : List (List Char) :=
  match s with
  | '/' :: rest | '\\' :: rest => follow [] (segments rest)
  | _ => follow [] (segments s)

/-- The text before a mark and the text after it. -/
def cutMark (mark : Char) (s : List Char) : List Char × Option (List Char) :=
  (s.takeWhile (· ≠ mark),
    match s.dropWhile (· ≠ mark) with
    | [] => none
    | _ :: rest => some rest)

/-- Reads what follows the two slashes of a web server's address. -/
def readWeb (scheme : Scheme) (s : List Char) : Except Fault Url :=
  let authority := s.takeWhile fun c => !endsAuthority true c
  let after := s.dropWhile fun c => !endsAuthority true c
  let (user, server) := match cutUser authority with
    | some p => p
    | none => ([], authority)
  let (hostText, portText) := cutHost false server
  if hostText = [] then .error .emptyHost
  else do
    let host ← readHost hostText
    let port ← readPort portText
    let (front, fragment) := cutMark '#' after
    let (path, query) := cutMark '?' front
    let (name, password) := readUser user
    return {
      scheme
      user := name
      password
      host
      port := if port = some scheme.defaultPort then none else port
      path := readPath path
      query := query.map (percentEncode inQuery)
      fragment := fragment.map (percentEncode inFragment) }

/-- Looks at what follows the two slashes of any other address with an authority. -/
def checkAuthority (special : Bool) (s : List Char) : Except Fault Unit :=
  let authority := s.takeWhile fun c => !endsAuthority special c
  let after := s.dropWhile fun c => !endsAuthority special c
  let cut := cutUser authority
  let (user, server) := cut.getD ([], authority)
  let (hostText, portText) := cutHost false server
  let (name, password) := readUser user
  if cut.isSome ∧ user = [] ∧ server = [] ∧ after ≠ [] then .error .emptyHost
  else do
    if special then
      if hostText = [] then .error .emptyHost
      discard <| readHost hostText
    else
      opaqueHost hostText
      if hostText = [] ∧ portText ≠ [] then .error .emptyHost
    discard <| readPort portText
    if hostText = [] ∧ (name ≠ [] ∨ password ≠ []) then .error .emptyHost

/-- Whether a text names a drive, which is no host. -/
def isDrive : List Char → Bool
  | [l, m] => l.isAlpha && (m = ':' || m = '|')
  | _ => false

/-- Looks at the host of a file address. -/
def checkFile (s : List Char) : Except Fault Unit :=
  let slash (c : Char) : Bool := c = '/' || c = '\\'
  match s with
  | a :: b :: rest =>
    if slash a ∧ slash b then
      let hostText := rest.takeWhile fun c => !endsAuthority true c
      if hostText = [] ∨ isDrive hostText then .ok () else (readHost hostText).map fun _ => ()
    else .ok ()
  | _ => .ok ()

def webScheme? (s : List Char) : Option Scheme :=
  [Scheme.http, .https, .ws, .wss].find? fun k => k.name.toList = s

def read (s : List Char) : Except Fault Parsed :=
  match cutScheme (clean s) with
  | none => .error .noScheme
  | some (scheme, rest) =>
    let slashes := rest.dropWhile fun c => c = '/' || c = '\\'
    match webScheme? scheme with
    | some k => (readWeb k slashes).map .web
    | none =>
      (if scheme = "ftp".toList then checkAuthority true slashes
        else if scheme = "file".toList then checkFile rest
        else
          match rest with
          | '/' :: '/' :: authority => checkAuthority false authority
          | _ => .ok ()).map fun _ => .foreign scheme

end MarketFeed.Url
