import VirtualNpu.Text.Digits

/-!
Addresses: the form encoding of a query, the target of a request, and which texts
are addresses at all.  All of it is ASCII.
-/

namespace VirtualNpu
namespace Text

def isLetter (c : Char) : Bool :=
  ('a' ≤ c && c ≤ 'z') || ('A' ≤ c && c ≤ 'Z')

/-! ### Queries -/

def percentEncoded (byte : UInt8) : List Char :=
  let digit (n : Nat) : Char := (Nat.digitChar n).toUpper
  ['%', digit (byte.toNat / 16), digit (byte.toNat % 16)]

/-- One character of a query value.  A space becomes a plus sign. -/
def formEncodedChar (c : Char) : List Char :=
  if c = ' ' then ['+']
  else if isLetter c || isDigit c || "*-._".contains c then [c]
  else (String.singleton c).toUTF8.toList.flatMap percentEncoded

def formEncoded (value : String) : String :=
  String.ofList (value.toList.flatMap formEncodedChar)

/-! ### Request targets -/

def isPathChar (c : Char) : Bool :=
  c == '!' || ('$' ≤ c && c ≤ ';') || c == '=' || ('@' ≤ c && c ≤ '_') || isLetter c
    || "|~\x22\x7b\x7d".contains c

def isQueryChar (c : Char) : Bool :=
  c == '!' || ('$' ≤ c && c ≤ ';') || c == '=' || ('?' ≤ c && c ≤ '~')

def query? : List Char → Option (List Char)
  | [] => some []
  | c :: rest =>
      if c = '#' then some []
      else if isQueryChar c then (query? rest).map (c :: ·)
      else none

def pathAndQuery? : List Char → Option (List Char)
  | [] => some []
  | c :: rest =>
      if c = '#' then some []
      else if c = '?' then (query? rest).map (c :: ·)
      else if isPathChar c then (pathAndQuery? rest).map (c :: ·)
      else none

def requestTarget? (target : String) : Option String :=
  (pathAndQuery? target.toList).map String.ofList

/-! ### Whole addresses -/

def authorityMarks : String := "!$&'()*+,-.:;=@[]_~"

/-- An authority as far as it was read: the colons since the last `@` or `]`, the
brackets met, whether a `%` may still belong to a host, and whether it ends in `@`. -/
structure Authority where
  colons : Nat
  opened : Bool
  closed : Bool
  percent : Bool
  endsInAt : Bool

def Authority.step (authority : Authority) (c : Char) : Option Authority :=
  let next := { authority with endsInAt := false }
  if c = ':' then some { next with colons := next.colons + 1 }
  else if c = '[' then
    if next.percent || next.opened then none else some { next with opened := true }
  else if c = ']' then
    if !next.opened || next.closed then none
    else some { next with closed := true, colons := 0, percent := false }
  else if c = '@' then some { next with colons := 0, percent := false, endsInAt := true }
  else if c = '%' then some { next with percent := true }
  else if isLetter c || isDigit c || authorityMarks.contains c then some next
  else none

def Authority.isComplete (authority : Authority) : Bool :=
  authority.opened == authority.closed && authority.colons ≤ 1 && !authority.percent
    && !authority.endsInAt

def isAuthority (chars : List Char) : Bool :=
  match chars.foldlM Authority.step ⟨0, false, false, false, false⟩ with
  | some authority => authority.isComplete
  | none => false

/-- What follows a scheme and `://`, if there is one; the length of the scheme comes first. -/
def afterScheme? (chars : List Char) : Option (Nat × List Char) :=
  let isSchemeChar := fun c => isLetter c || isDigit c || "+-.".contains c
  match chars.dropWhile isSchemeChar with
  | ':' :: '/' :: '/' :: rest => some ((chars.takeWhile isSchemeChar).length, rest)
  | _ => none

def longestScheme : Nat := 64

/-- Whether a text is an address: a path, an authority, or a scheme with an
authority and perhaps a path. -/
def isUri (text : String) : Bool :=
  let endsAuthority := fun c => "/?#".contains c
  match text.toList with
  | [] => false
  | '/' :: rest => (pathAndQuery? ('/' :: rest)).isSome
  | chars =>
      match afterScheme? chars with
      | none => chars.all (fun c => !endsAuthority c) && isAuthority chars
      | some (length, rest) =>
          let authority := rest.takeWhile fun c => !endsAuthority c
          length ≤ longestScheme && !authority.isEmpty && isAuthority authority
            && (pathAndQuery? (rest.drop authority.length)).isSome

end Text
end VirtualNpu
