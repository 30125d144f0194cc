import EaBot.Foundation.Dict
import EaBot.Foundation.Text
import Mathlib.Data.Char
import Mathlib.Data.List.Lex
import Mathlib.Data.List.Sort

/-!
# Symbol names of a broker

Brokers decorate the names of their symbols.  A base name is looked up among the symbols
of the attached terminal: an exact match comes first, then the usual decorations, then
names that begin with the base, and last names that are equal to it, or begin with it,
when everything but letters and digits is left out.
-/

namespace EaBot.Mt5.SymbolResolver

open EaBot.Foundation

/-- The usual suffixes, the best one first. -/
def commonSuffixes : List String :=
  ["", "c", "m", "247c", ".raw", ".r", ".pro", "-pro", "pro", "_raw", "raw", "cash", "spot",
    "ecn"]

/-- The usual prefixes, the best one first. -/
def commonPrefixes : List String :=
  ["", "x", "#"]

/-- The letters and digits of a name, in lower case. -/
def normalise (name : String) : List Char :=
  (Text.lower name).toList.filter fun char =>
    ('a' ≤ char && char ≤ 'z') || ('0' ≤ char && char ≤ '9')

/-- The key of a base name. -/
def keyOf (base : String) : String :=
  Text.upper (Text.strip base)

/-- The names of the symbols by their upper case; the first of two spellings counts. -/
def byUpper (symbols : List String) : Dict String String :=
  symbols.foldl (fun names symbol =>
    if symbol ≠ "" ∧ names.contains (Text.upper symbol) = false then
      names.set (Text.upper symbol) symbol
    else names) Dict.empty

/-- Shorter names come first, names of one length in their order. -/
def comesFirst (first second : String) : Bool :=
  first.length < second.length ||
    (first.length = second.length && decide (first.toList ≤ second.toList))

/-- The selected names, the shortest one first. -/
def shortestFirst (names : Dict String String) (select : String → Bool) : List String :=
  ((names.entries.map Prod.fst).filter select).insertionSort fun first second =>
    comesFirst first second = true

/-- The usual decorations of a base. -/
def variants (base : String) : List String :=
  commonSuffixes.flatMap fun suffix =>
    commonPrefixes.map fun front => Text.upper (front ++ base ++ suffix)

/-- Add the symbol of a name, unless it has been added. -/
def addCandidate (names : Dict String String) (found : List String) (name : String) :
    List String :=
  match names.get name with
  | none => found
  | some original =>
      if original = "" ∨ Text.upper original ∈ found.map Text.upper then found
      else found ++ [original]

/-- The plausible symbols for a base name, the best match first. -/
def candidateMatches (base : String) (symbols : List String) : List String :=
  let key := keyOf base
  if key = "" then []
  else
    let names := byUpper symbols
    match names.get key with
    | some exact => [exact]
    | none =>
        let normalised := normalise key
        let listed := variants key ++
          shortestFirst names (fun name => key.toList.isPrefixOf name.toList) ++
          shortestFirst names (fun name => normalise name = normalised) ++
          shortestFirst names (fun name => normalised.isPrefixOf (normalise name))
        listed.foldl (addCandidate names) []

example : candidateMatches " xauusd" ["EURUSD", "XAUUSD247c", "XAUUSD.raw", "XAUUSDc"] =
    ["XAUUSDc", "XAUUSD247c", "XAUUSD.raw"] := by
  decide +kernel

end EaBot.Mt5.SymbolResolver
