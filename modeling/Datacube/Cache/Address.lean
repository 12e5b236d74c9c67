import Datacube.Number.Reading

/-!
# Addresses of shared stores

An address names a store by scheme, host and socket number, with options behind a question mark. It
must begin with a known scheme, its brackets must hold an address of eight groups, its socket number
must be one, and the options that are numbers must be written as such.
-/

namespace Datacube.Address
open Text Number

def schemes : List String := ["redis://", "rediss://", "unix://"]

/-! ## Numbers -/

/-- Whether a text is a whole number with an optional sign, and underscores between digits. -/
def isWhole (s : String) : Bool :=
  match digitsThen (signThen (asciiDigits (stripChars s.toList))).2 with
  | (_ :: _, []) => true
  | _ => false

def wholeOptions : List String := ["db", "max_connections", "health_check_interval"]

def numberOptions : List String := ["socket_timeout", "socket_connect_timeout", "timeout"]

def isOption (name value : String) : Bool :=
  if wholeOptions.contains name then
    isWhole value && !(name == "max_connections" && (strip value).toList.head? = some '-' &&
      (strip value).toList.any fun c => (digitValue? c).any (· ≠ 0))
  else if numberOptions.contains name then (readFloat? value).isSome
  else true

/-! ## Options -/

def hexDigit? (c : Char) : Option Nat :=
  if c.isDigit then some (c.toNat - 0x30)
  else if 'a' ≤ c && c ≤ 'f' then some (c.toNat - 0x57)
  else if 'A' ≤ c && c ≤ 'F' then some (c.toNat - 0x37)
  else none

/-- Decodes characters that are written by their code behind a percent sign. Codes beyond ASCII
become a mark, since no number has them. -/
def decoded : List Char → List Char
  | '%' :: a :: b :: rest => match hexDigit? a, hexDigit? b with
    | some high, some low =>
      (if high < 8 then Char.ofNat (16 * high + low) else '\ufffd') :: decoded rest
    | _, _ => '%' :: decoded (a :: b :: rest)
  | c :: rest => c :: decoded rest
  | [] => []
termination_by chars => chars.length

/-- A part of an option: a plus sign is a blank. -/
def optionPart (chars : List Char) : String :=
  String.ofList (decoded (chars.map fun c => if c = '+' then ' ' else c))

/-- The options of an address; those without a value do not count. -/
def options (query : List Char) : List (String × String) :=
  (cutAll '&' query).filterMap fun option => match cutFirst? '=' option with
    | some (name, value) =>
      if value.isEmpty then none
      else some (optionPart name, String.ofList (decoded (optionPart value).toList))
    | none => none

/-- Whether all options have values that they can have; of several values of one option the first
counts. -/
def areOptions (query : List Char) : Bool :=
  let given := options query
  given.all fun (name, _) => ((given.lookup name).map (isOption name)).getD true

/-! ## Hosts -/

/-- Whether characters are one group of an address of eight groups. -/
def isGroup (chars : List Char) : Bool :=
  !chars.isEmpty && chars.length ≤ 4 && chars.all fun c => (hexDigit? c).isSome

/-- Whether characters are an address of four numbers. -/
def isQuad (chars : List Char) : Bool :=
  let parts := cutAll '.' chars
  parts.length == 4 && parts.all fun part =>
    !part.isEmpty && part.length ≤ 3 && part.all Char.isDigit && digitsValue part ≤ 255 &&
      (part.length == 1 || part.head? ≠ some '0')

/-- How many groups a list of groups stands for, of which the last may be four numbers; none where
it is no such list. -/
def groupCount? (chars : List Char) : Option Nat :=
  if chars.isEmpty then some 0
  else
    let parts := cutAll ':' chars
    let last := parts.getLast?.getD []
    let before := parts.dropLast
    if !before.all isGroup then none
    else if isGroup last then some (before.length + 1)
    else if isQuad last then some (before.length + 2)
    else none

/-- The characters before and after the first double colon. -/
def cutGap? : List Char → Option (List Char × List Char)
  | ':' :: ':' :: rest => some ([], rest)
  | c :: rest => (cutGap? rest).map fun (before, after) => (c :: before, after)
  | [] => none

/-- Whether characters are an address of eight groups, of which one run of zeros may be left out. -/
def isGrouped (chars : List Char) : Bool :=
  match cutGap? chars with
  | none => groupCount? chars = some 8
  | some (before, after) =>
    (before.isEmpty || !(cutAll ':' before).any (isQuad ·)) &&
    match groupCount? before, groupCount? after with
    | some m, some n => m + n < 8
    | _, _ => false

/-- Whether characters may stand in brackets: an address of eight groups with an optional zone, or
an address of a later version. -/
def isBracketed (chars : List Char) : Bool :=
  match chars with
  | 'v' :: rest => match cutFirst? '.' rest with
    | some (version, body) =>
      !version.isEmpty && version.all (fun c => (hexDigit? c).isSome) && !body.isEmpty
    | none => false
  | _ => match cutFirst? '%' chars with
    | some (groups, zone) => isGrouped groups && !zone.isEmpty && !zone.contains '%'
    | none => isGrouped chars

/-- Whether the brackets of a host are closed and hold an address. -/
def hasSoundBrackets (host : List Char) : Bool :=
  match host.contains '[', host.contains ']' with
  | false, false => true
  | true, true => match cutFirst? '[' host with
    | some (_, rest) => isBracketed (rest.takeWhile (· ≠ ']'))
    | none => true
  | _, _ => false

/-- The characters of the socket number of a host. -/
def socketOf (host : List Char) : List Char :=
  let host := ((cutLast? '@' host).map (·.2)).getD host
  let afterColon (chars : List Char) : List Char := ((cutFirst? ':' chars).map (·.2)).getD []
  match cutFirst? '[' host with
  | some (_, rest) => afterColon ((rest.dropWhile (· ≠ ']')).drop 1)
  | none => afterColon host

/-- Whether characters are a socket number, or none. -/
def isSocket (chars : List Char) : Bool := chars.all Char.isDigit && digitsValue chars ≤ 65535

def isValid (s : String) : Bool :=
  schemes.any (startsWith · s) &&
  let chars := s.toList.filter fun c => c ≠ '\t' && c ≠ '\r' && c ≠ '\n'
  let rest := ((cutFirst? ':' chars).map fun (_, rest) => rest.drop 2).getD []
  let host := rest.takeWhile fun c => c ≠ '/' && c ≠ '?' && c ≠ '#'
  let query := (rest.takeWhile (· ≠ '#')).dropWhile (· ≠ '?')
  hasSoundBrackets host && areOptions (query.drop 1) &&
    (startsWith "unix" s || isSocket (socketOf host))

end Datacube.Address
