import VirtualNpu.Text.Digits
import VirtualNpu.Yaml.Lexeme.Gap

/-!
Scalars in single or double quotes.
-/

namespace VirtualNpu
namespace Yaml

inductive Escape where
  | char (c : Char)
  | digits (count : Nat)

def escape? (c : Char) : Option Escape :=
  if c = '0' then some (.char '\x00')
  else if c = 'a' then some (.char '\x07')
  else if c = 'b' then some (.char '\x08')
  else if c = 't' ∨ c = '\t' then some (.char '\t')
  else if c = 'n' then some (.char '\n')
  else if c = 'v' then some (.char '\x0b')
  else if c = 'f' then some (.char '\x0c')
  else if c = 'r' then some (.char '\r')
  else if c = 'e' then some (.char '\x1b')
  else if c = ' ' ∨ c = '\x22' ∨ c = '/' ∨ c = '\\' then some (.char c)
  else if c = 'N' then some (.char '\u0085')
  else if c = '_' then some (.char '\u00a0')
  else if c = 'L' then some (.char '\u2028')
  else if c = 'P' then some (.char '\u2029')
  else if c = 'x' then some (.digits 2)
  else if c = 'u' then some (.digits 4)
  else if c = 'U' then some (.digits 8)
  else none

def charOfCode? (code : Nat) : Option Char :=
  if code.isValidChar then some (Char.ofNat code) else none

inductive QuotedPlace where
  | inside
  /-- behind a single quote, which closes the scalar or stands for itself -/
  | afterQuote
  | afterBackslash
  /-- before further digits of a numeric escape -/
  | inCode (left code : Nat)

/-- Reads a quoted scalar from behind its opening quote through the closing one.
`text` is what was read, last character first, up to the gap. -/
def readQuoted (quote : Char) : QuotedPlace → List Char → Gap → List Spot →
    Option (String × List Spot)
  | .afterQuote, text, _, [] => some (String.ofList text.reverse, [])
  | _, _, _, [] => none
  | .afterQuote, text, _, spot :: rest =>
      if spot.char = quote then readQuoted quote .inside (quote :: text) .none rest
      else some (String.ofList text.reverse, spot :: rest)
  | .afterBackslash, text, _, spot :: rest =>
      if isBreak spot.char then readQuoted quote .inside text (.breaks none []) rest
      else
        match escape? spot.char with
        | some (.char c) => readQuoted quote .inside (c :: text) .none rest
        | some (.digits count) => readQuoted quote (.inCode count 0) text .none rest
        | none => none
  | .inCode left code, text, _, spot :: rest =>
      match Text.digit? 16 spot.char with
      | none => none
      | some d =>
          if 1 < left then readQuoted quote (.inCode (left - 1) (code * 16 + d)) text .none rest
          else
            match charOfCode? (code * 16 + d) with
            | some c => readQuoted quote .inside (c :: text) .none rest
            | none => none
  | .inside, text, gap, spot :: rest =>
      if isSpaceOrTab spot.char then
        readQuoted quote .inside text (gap.blank spot.char) rest
      else if isBreak spot.char then
        readQuoted quote .inside text (gap.newLine spot.char) rest
      else if atMarker (spot :: rest) then none
      else if spot.char = quote then
        if quote = '\x27' then readQuoted quote .afterQuote (gap.folded ++ text) .none rest
        else some (String.ofList (gap.folded ++ text).reverse, rest)
      else if spot.char = '\\' ∧ quote ≠ '\x27' then
        readQuoted quote .afterBackslash (gap.folded ++ text) .none rest
      else readQuoted quote .inside (spot.char :: (gap.folded ++ text)) .none rest

end Yaml
end VirtualNpu
