import Unscramble.Failure
import Unscramble.Pattern.Basic

/-!
# Helper shapes

A helper is known by the shape of its body. The shapes are tried in order and the first that occurs
anywhere in the body decides.
-/

namespace Unscramble

/-- A pattern with the family that it stands for. -/
structure Shape where
  template : String
  family : Family

/-- The known shapes, in the order in which they are tried. -/
def shapes : List Shape := [
  -- `function(a){a.reverse()}`
  .mk r"\w+\.reverse\(\)" .reverse,
  -- `function(a,b){a.splice(0,b)}`
  .mk r"\w+\.splice\(0,\w\)" .dropMiddle,
  -- `function(a,b){var c=a[0];a[0]=a[b%a.length];a[b]=c}`
  .mk r"var\s\w=\w\[0\];\w\[0\]=\w\[\w%\w\.length\];\w\[\w\]=\w" .swapHead,
  -- `function(a,b){var c=a[0];a[0]=a[b%a.length];a[b%a.length]=c}`
  .mk r"var\s\w=\w\[0\];\w\[0\]=\w\[\w%\w\.length\];\w\[\w%\w\.length\]=\w" .swapHead]

/-- The shapes with their templates read. -/
def compiledShapes : Except Pattern.PatternError (List (Pattern × Family)) :=
  shapes.mapM fun s ↦ do return (← Pattern.read s.template.toList, s.family)

/-- The family of a helper, by its body. -/
def classify (body : List Char) : Except Failure Family :=
  match compiledShapes with
  | .error e => .error (.badPattern e)
  | .ok known =>
    match known.find? fun (pattern, _) ↦ pattern.occursIn body with
    | some (_, family) => .ok family
    | none => .error (.unknownShape (String.ofList body))

end Unscramble
