import SolidityRepl.Path
import SolidityRepl.Text.Digit

/-!
# Web addresses

An address is a scheme, an authority, a path, a query and a fragment, each of which may be missing.
-/

namespace SolidityRepl

open Text

/-- The parts of an address; empty if they are missing. -/
structure Url where
  scheme : List Char
  authority : List Char
  path : List Char
  query : List Char
  fragment : List Char
  deriving DecidableEq, Repr

namespace Url

def isSchemeChar (c : Char) : Bool := c.isAlphanum || c == '+' || c == '-' || c == '.'

/-- The scheme in lower case, and the rest after its colon. -/
def splitScheme (cs : List Char) : List Char × List Char :=
  match splitAtFirst? ':' cs with
  | some (front, rest) =>
    if (front.head?.any Char.isAlpha) && front.all isSchemeChar then (front.map Char.toLower, rest)
    else ([], cs)
  | none => ([], cs)

/-- A tab or a line break, which no address has inside. -/
def isBreak (c : Char) : Bool := c == '\t' || c == '\n' || c == '\r'

/-- An address as it is read: no controls or spaces in front, no breaks inside. -/
def cleaned (cs : List Char) : List Char := (cs.dropWhile (· ≤ ' ')).filter fun c => !isBreak c

/-- The text before a mark, and the text after it. -/
def cutAt (mark : Char) (cs : List Char) : List Char × List Char :=
  (splitAtFirst? mark cs).getD (cs, [])

/-- A group of a numeric host: up to four hexadecimal digits. -/
def isGroup (cs : List Char) : Bool :=
  0 < cs.length && cs.length ≤ 4 && cs.all fun c => (hexValue? c).isSome

/-- A byte in decimal, without zeros in front. -/
def isOctet (cs : List Char) : Bool :=
  0 < cs.length && cs.length ≤ 3 && cs.all Char.isDigit &&
    (cs.length == 1 || cs.head? != some '0') && decimalValue cs ≤ 255

/-- The groups of a numeric host, with four octets at the end as two groups. -/
def groups? (cs : List Char) : Option (List (List Char)) :=
  let groups := cs.splitOn ':'
  let last := (groups.getLast?.getD []).splitOn '.'
  if last.length == 1 then some groups
  else if last.length == 4 && last.all isOctet then some (groups.dropLast ++ [['0'], ['0']])
  else none

/-- The groups on one side of the zeros that are left out; there may be none. -/
def side (groups : List (List Char)) : List (List Char) := if groups == [[]] then [] else groups

/-- Eight groups, or fewer with zeros left out at one place. -/
def areGroups (groups : List (List Char)) : Bool :=
  let inner := groups.tail.dropLast
  let place := 1 + (inner.takeWhile (!·.isEmpty)).length
  if place ≤ inner.length then
    let front := side (groups.take place)
    let back := side (groups.drop (place + 1))
    front.length + back.length < 8 && front.all isGroup && back.all isGroup
  else groups.length == 8 && groups.all isGroup

/-- A numeric host, which may have a zone, or one of a kind still to come. -/
def isNumericHost (cs : List Char) : Bool :=
  match cs with
  | 'v' :: rest =>
    let (kind, more) := cutAt '.' rest
    0 < kind.length && kind.all (fun c => (hexValue? c).isSome) && 0 < more.length
  | cs =>
    let (address, zone) := cutAt '%' cs
    (address.length == cs.length || (0 < zone.length && !zone.contains '%')) &&
      ((groups? address).any areGroups)

/-- The host of an authority that has brackets: what they hold after the last `@`, with nothing but
a port behind them, or what stands there without brackets. -/
def bracketedHost? (authority : List Char) : Option (List Char) :=
  let place := afterLast '@' authority
  if place.contains '[' then
    let (front, rest) := cutAt '[' place
    let (host, port) := cutAt ']' rest
    if front.isEmpty && (port.isEmpty || port.head? == some ':') then some host else none
  else some (cutAt ':' place).1

/-- The characters that contain a mark of addresses once they are taken apart, such as `℀`. -/
def hiddenMarks : List Nat :=
  [0x2047, 0x2048, 0x2049, 0x2100, 0x2101, 0x2105, 0x2106, 0x2a74, 0xfe13, 0xfe16, 0xfe55, 0xfe56,
   0xfe5f, 0xfe6b, 0xff03, 0xff0f, 0xff1a, 0xff1f, 0xff20]

/-- An authority holds no hidden marks, and brackets in it hold a numeric host. -/
def isSound (authority : List Char) : Bool :=
  !(authority.any fun c => hiddenMarks.contains c.toNat) &&
    match authority.contains '[', authority.contains ']' with
    | false, false => true
    | true, true => (bracketedHost? authority).any isNumericHost
    | _, _ => false

def parse? (text : List Char) : Option Url :=
  let (scheme, rest) := splitScheme (cleaned text)
  let (authority, rest) := match rest with
    | '/' :: '/' :: more => cutBefore ['/', '?', '#'] more
    | _ => ([], rest)
  let (rest, fragment) := cutAt '#' rest
  let (path, query) := cutAt '?' rest
  if isSound authority then some { scheme, authority, path, query, fragment } else none

/-- A part behind its mark, unless it is empty. -/
def marked (mark part : List Char) : List Char := if part.isEmpty then [] else mark ++ part

def shown (url : Url) : List Char :=
  let path := if url.path.isEmpty || url.path.head? == some '/' then url.path else '/' :: url.path
  url.scheme ++ "://".toList ++ url.authority ++ path ++ marked ['?'] url.query ++
    marked ['#'] url.fragment

/-- The scheme and the authority alone, which say whom one talks to but no secrets. -/
def origin (url : Url) : List Char := url.scheme ++ "://".toList ++ url.authority

/-- A path, and the parameters behind the semicolon of its last segment. -/
def parameters (path : List Char) : List Char × List Char :=
  let last := afterLast '/' path
  let front := path.take (path.length - last.length)
  let (name, more) := cutAt ';' last
  (front ++ name, more)

/-- The segments of a directory: all of a path but its last segment, unless that is empty. -/
def base (path : List Char) : List (List Char) :=
  let segments := Path.segments path
  if segments.getLast? == some [] then segments else segments.dropLast

/-- Segments without the empty ones, the first and the last apart. -/
def withoutEmpty (segments : List (List Char)) : List (List Char) :=
  match segments with
  | first :: second :: rest =>
    let inner := (second :: rest).dropLast.filter (!·.isEmpty)
    first :: inner ++ (second :: rest).getLast?.toList
  | segments => segments

/-- The segments taken so far, the last one first, after one more. -/
def advance (taken : List (List Char)) (segment : List Char) : List (List Char) :=
  if segment == Path.back then taken.tail
  else if segment == ['.'] then taken
  else segment :: taken

/-- A path that is read from another one. A last step that leads nowhere leaves a directory. -/
def joined (page path : List Char) : List Char :=
  let segments := withoutEmpty (base page ++ Path.segments path)
  let taken := (segments.foldl advance []).reverse
  let isStep := segments.getLast?.all fun s => s != ['.'] && s != Path.back
  match ['/'].intercalate (if isStep then taken else taken ++ [[]]) with
  | [] => ['/']
  | cs => cs

/-- A relative path, read from a page: a path that does not begin with a slash or a scheme. -/
def resolve (page : Url) (relative : List Char) : Url :=
  let (rest, fragment) := cutAt '#' (relative.filter fun c => !isBreak c)
  let (path, query) := cutAt '?' rest
  let (path, more) := parameters path
  let path := joined (parameters page.path).1 path
  { page with path := path ++ marked [';'] more, query, fragment }

end Url

end SolidityRepl
