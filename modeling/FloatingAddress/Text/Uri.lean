import FloatingAddress.Text.Split

/-!
# Addresses of servers and resources

An address has a scheme, an authority (the host, perhaps with user and port) and a path. Either the
first two or the last may be missing: `host:80` is an authority, `/a/b` is a path, and
`https://host/a/b` has all three. A query and what follows a number sign are checked and dropped.
-/

namespace FloatingAddress.Text

structure Uri where
  scheme : Option String := none
  authority : String := ""
  path : String := ""
deriving DecidableEq, Repr

namespace Uri

/-- The accent that may stand in a query but not in a path. -/
def isAccent (c : Char) : Bool := c.toNat == 0x60

def isPathChar (c : Char) : Bool := 0x20 < c.toNat && c != '<' && c != '>' && !isAccent c

/-- The path and the query of a text, if every character may stand where it does. -/
def target? (text : List Char) : Option (List Char × List Char) :=
  let sent := text.takeWhile (· != '#')
  let (path, query) := (cutAt? '?' sent).getD (sent, [])
  if path.all isPathChar && query.all (fun c => isPathChar c || isAccent c) then some (path, query)
  else none

/-- Whether a character may stand in an authority. A percent sign is only allowed in what turns out
to be the user or a host in brackets. -/
def isAuthorityChar (c : Char) : Bool :=
  c.isAlphanum || "!$&'()*+,-.;=_~:@[]%".toList.contains c

/-- The part of an authority after the last of the characters that end a user or a bracket. -/
def afterLast (ends : List Char) (text : List Char) : List Char :=
  (text.reverse.takeWhile (· ∉ ends)).reverse

/-- Whether the brackets of an authority are one pair at most, in order. -/
def hasOrderedBrackets (text : List Char) : Bool :=
  let brackets := text.filter fun c => c == '[' || c == ']'
  brackets == [] || brackets == ['[', ']']

/-- Whether a text is an authority: one colon at most for the port, and a host after the user. -/
def isAuthority (text : List Char) : Bool :=
  let tail := afterLast ['@', ']'] text
  text.all isAuthorityChar && hasOrderedBrackets text && text.getLast? != some '@' &&
    tail.count ':' ≤ 1 && !tail.contains '%'

def isSchemeChar (c : Char) : Bool := c.isAlphanum || c == '+' || c == '-' || c == '.'

/-- The scheme of a text and what follows it. -/
def scheme? (text : List Char) : Option (List Char × List Char) :=
  match text.takeWhile isSchemeChar, text.dropWhile isSchemeChar with
  | scheme, ':' :: '/' :: '/' :: rest => some (scheme, rest)
  | _, _ => none

def endsAuthority (c : Char) : Bool := c == '/' || c == '?' || c == '#'

def ofText? (s : String) : Option Uri :=
  match s.toList with
  | [] => none
  | '/' :: rest => (target? ('/' :: rest)).map fun (path, _) => { path := String.ofList path }
  | text =>
    match scheme? text with
    | none => if isAuthority text then some { authority := s } else none
    | some (scheme, rest) =>
      let authority := rest.takeWhile (!endsAuthority ·)
      if scheme = [] || 64 < scheme.length || authority = [] || !isAuthority authority then none
      else (target? (rest.dropWhile (!endsAuthority ·))).map fun (path, _) => {
        scheme := some (String.ofList scheme)
        authority := String.ofList authority
        path := String.ofList path }

/-- The scheme and the authority. -/
def origin (uri : Uri) : String :=
  match uri.scheme with
  | none => uri.authority
  | some scheme => s!"{scheme}://{uri.authority}"

/-- The path without the slashes at its end. -/
def stem (uri : Uri) : String :=
  String.ofList (uri.path.toList.reverse.dropWhile (· == '/')).reverse

end Uri

end FloatingAddress.Text
