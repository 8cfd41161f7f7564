import Delimited.Grammar.Spec
import Delimited.Text.Quoted

/-!
# Grammars as listings

The notation that shows everything that a grammar holds on one line. Handlers are shown as present or not.
-/

namespace Delimited

private def listedBool (b : Bool) : String := if b then "true" else "false"

private def listedDelimiter (d : Option Delimiter) : String := quotedOption (d.map fun d => quoted d.text)

/-- A rule in a listing; a pattern stands between slashes as it was written. -/
def Rule.listing : Rule → String
  | .literal d => "Literal(" ++ quoted d.text ++ ")"
  | .pattern p => "Pattern(/" ++ p.source ++ "/)"

/-- A choice of the stored part of a split in a listing. -/
def StoreSplit.listing : StoreSplit → String
  | .no => "No"
  | .whole => "Whole"
  | .group n => "Group(" ++ toString n ++ ")"

/-- A spec in a listing. -/
def Spec.listing {C : Type} {n : Nat} (s : Spec C n) : String :=
  let fields := [
    ("path", quoted s.path),
    ("start", listedDelimiter s.start),
    ("stop", listedDelimiter s.stop),
    ("escaped_start", listedDelimiter s.escapedStart),
    ("escaped_stop", listedDelimiter s.escapedStop),
    ("keep_start_stop", listedBool s.keepDelimiters),
    ("replace_escapes", listedBool s.replaceEscapes),
    ("split", quotedOption (s.split.map Rule.listing)),
    ("store_split", s.storeSplit.listing),
    ("strip", bracketed (s.strip.map Rule.listing)),
    ("ignore_empty", listedBool s.ignoreEmpty),
    ("blocks", bracketed (s.blocks.map fun b => "(" ++ quoted b.1 ++ ", BlockId(" ++ toString b.2.val ++ "))")),
    ("handle", listedBool s.handler.isSome),
    ("reparse", listedBool s.reparse),
    ("handle_all", listedBool s.handleAll)]
  "BlockSpec \x7b " ++ ", ".intercalate (fields.map fun f => f.1 ++ ": " ++ f.2) ++ " \x7d"

/-- A grammar in a listing. -/
def Grammar.listing {C : Type} (g : Grammar C) : String := bracketed (g.specs.toList.map Spec.listing)

end Delimited
