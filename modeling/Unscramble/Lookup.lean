import Unscramble.Note
import Unscramble.Pattern.Basic
import Unscramble.Text.Percent
import Unscramble.Text.Split

/-!
# Finding the parts of a script

Scripts are minified anew all the time, so each part is looked for with an ordered list of
*recognizers*, patterns for the forms it has had. The first recognizer that captures something wins
and later ones are not tried.

A recognizer's template can hold `{name}`, which stands for an identifier found earlier. The
identifier is put in literally: it is percent-decoded where that gives a text, and its characters
lose any meaning they have in patterns. What a recognizer captures is the group named `value`, if
there is one and it took part, and the first group otherwise.

## Main definitions

* `Recognizer.recognize`: what one recognizer captures.
* `Lookup.run`: what the first successful recognizer of a stage captures, with the trail.
* `Lookups`: the recognizers of the three stages; `Lookups.standard` are the built-in ones.
-/

namespace Unscramble

open Unscramble.Text

/-- A named pattern for one form of a part. -/
structure Recognizer where
  name : String
  template : String

/-- What a template has in place of the identifier. -/
def placeholder : List Char :=
  "{name}".toList

/-- The identifier behind a written name, which may be percent-encoded. A name whose decoding is no
text stands for itself. -/
def identifierOf (name : List Char) : List Char :=
  (Utf8.decode? (Percent.decode (Utf8.encode name))).getD name

namespace Recognizer

/-- The text of the pattern, with the identifier in its place. -/
def patternText (r : Recognizer) : Option (List Char) → List Char
  | some name => replaceAll placeholder (Pattern.escape (identifierOf name)) r.template.toList
  | none => r.template.toList

/-- The name of the group that is captured if it exists. -/
def valueGroup : List Char :=
  "value".toList

/-- The captured text of a match. -/
def chosen (pattern : Pattern) (place : Pattern.Place) : Option (List Char) :=
  ((pattern.group? valueGroup).bind place.captured?).or (place.captured? 1)

/-- What the recognizer captures in a text: `none` if it does not match, or its group took no part
in the match. -/
def recognize (r : Recognizer) (text : List Char) (name : Option (List Char)) :
    Except Pattern.PatternError (Option (List Char)) := do
  let pattern ← Pattern.read (r.patternText name)
  return (pattern.find? text).bind (chosen pattern)

end Recognizer

/-- The recognizers of a stage, in the order in which they are tried. -/
structure Lookup where
  stage : Stage
  recognizers : List Recognizer

namespace Lookup

/-- Try recognizers, the first of which has the given index. -/
def runFrom (stage : Stage) (text : List Char) (name : Option (List Char)) :
    (index : Nat) → List Recognizer → Attempt Failure (List Char)
  | _, [] => .fail (.notFound stage)
  | index, r :: rs =>
    match r.recognize text name with
    | .error e => .fail (.badPattern e)
    | .ok (some value) => do
      .note (.decided (.tried stage index r.name true))
      return value
    | .ok none => do
      .note (.decided (.tried stage index r.name false))
      runFrom stage text name (index + 1) rs

/-- What the first recognizer that captures something captures. -/
def run (l : Lookup) (text : List Char) (name : Option (List Char)) :
    Attempt Failure (List Char) :=
  runFrom l.stage text name 0 l.recognizers

end Lookup

/-! ### The built-in recognizers -/

namespace Template

/-- A call of the wanted routine, which captures its name. -/
def called : String := r"(?P<value>[a-zA-Z0-9$]+)\("

/-- A parameter being set, up to its value. -/
def setTo : String := r"\.set\([^,]+\s*,\s*"

/-- The value being encoded, up to what is encoded. -/
def encoding : String := r"encodeURIComponent\s*\(\s*"

/-- A function being chosen in parentheses and called, up to its argument. -/
def wrapping : String := r"\([^)]*\)\s*\(\s*"

/-- A condition and an object with the short names that they usually have. -/
def usualGuard : String := r"\b[cs]\s*&&\s*[adf]"

/-- A condition and an object with any names. -/
def anyGuard : String := r"\b[a-zA-Z0-9]+\s*&&\s*[a-zA-Z0-9]+"

/-- A routine that begins by splitting its parameter into characters, from its name on. -/
def splitting : String := r#"\s*=\s*function\(\s*a\s*\)\s*\x7b\s*a\s*=\s*a\.split\(\s*""\s*\)"#

/-- The body of a routine that splits, works and joins again, which captures the work. -/
def working : String :=
  r#"\s*\x7b\s*\w+\s*=\s*\w+\.split\(\s*""\s*\)\s*;(?P<value>.*?);"# ++
    r#"\s*return\s+\w+\.join\(\s*""\s*\)\s*\x7d"#

/-- The shortest possible content of braces, which is captured. -/
def braced : String := r"\x7b(?P<value>[\w$,;%.()\[\]:=\x7b\x7d\s]+?)\x7d"

end Template

open Template in
/-- Forms in which a script calls or defines the routine that unscrambles a signature, the most
specific first. -/
def entryRecognizers : List Recognizer := [
  ⟨"set-encode-cs", usualGuard ++ setTo ++ encoding ++ called⟩,
  ⟨"set-encode-any", anyGuard ++ setTo ++ encoding ++ called⟩,
  ⟨"split-two-char", r"(?:\b|[^a-zA-Z0-9$])(?P<value>[a-zA-Z0-9$]{2})" ++ splitting⟩,
  ⟨"split-any", r"(?P<value>[a-zA-Z0-9$]+)" ++ splitting⟩,
  ⟨"signature-literal", r#"(["'])signature["']\s*,\s*"# ++ called⟩,
  ⟨"sig-or", r"\.sig\|\|" ++ called⟩,
  ⟨"akamaized", r"yt\.akamaized\.net/\)\s*\|\|\s*.*?\s*[cs]\s*&&\s*[adf]" ++ setTo ++
    r"(?:encodeURIComponent\s*\()?\s*" ++ called⟩,
  ⟨"set-cs", usualGuard ++ setTo ++ called⟩,
  ⟨"set-any", anyGuard ++ setTo ++ called⟩,
  ⟨"set-wrapped-c-a", r"\bc\s*&&\s*a" ++ setTo ++ wrapping ++ called⟩,
  ⟨"set-wrapped-c-any", r"\bc\s*&&\s*[a-zA-Z0-9]+" ++ setTo ++ wrapping ++ called⟩]

open Template in
/-- Forms of the routine's definition. What is captured lies between splitting and joining. -/
def planRecognizers : List Recognizer := [
  ⟨"assign-split-join",
    r"(?:^|[^a-zA-Z0-9$]){name}\s*=\s*function\(\s*\w+\s*\)" ++ working⟩,
  ⟨"declaration-split-join", r"function\s+{name}\s*\(\s*\w+\s*\)" ++ working⟩,
  ⟨"legacy-greedy",
    r#"{name}=function\(\w\)\x7b[a-z=\.\("\)]*;(?P<value>.*);(?:return.+)\x7d"#⟩]

open Template in
/-- Forms of the helper object's definition, for text without line breaks. What is captured lies
between its braces, and is as short as possible, so that it ends before any later object. In an
assignment a comma may end the object, but commas also separate its members; such a comma must lead
to another assignment. -/
def tableRecognizers : List Recognizer := [
  ⟨"var-object", "var {name}=" ++ braced ++ ";"⟩,
  ⟨"declared-object", r"(?:var|let|const)\s+{name}\s*=\s*" ++ braced ++ r"\s*;"⟩,
  ⟨"assigned-object",
    r"(?:^|[^\w$.]){name}\s*=\s*" ++ braced ++ r"\s*(?:;|,\s*[\w$]+\s*=)"⟩]

/-- The recognizers of the three stages. -/
structure Lookups where
  entry : List Recognizer
  plan : List Recognizer
  table : List Recognizer

namespace Lookups

/-- The built-in recognizers. -/
def standard : Lookups :=
  ⟨entryRecognizers, planRecognizers, tableRecognizers⟩

/-- The lookup of a stage. -/
def get (l : Lookups) : Stage → Lookup
  | .entryName => ⟨.entryName, l.entry⟩
  | .planText => ⟨.planText, l.plan⟩
  | .tableText => ⟨.tableText, l.table⟩

/-- A text with its line breaks replaced by spaces. -/
def flatten (text : List Char) : List Char :=
  text.map fun c ↦ if c = '\r' ∨ c = '\n' then ' ' else c

/-- The name of the routine that unscrambles a signature. -/
def entryName (l : Lookups) (script : List Char) : Attempt Failure (List Char) :=
  (l.get .entryName).run script none

/-- The statements of the named routine. -/
def planText (l : Lookups) (script entry : List Char) : Attempt Failure (List Char) :=
  (l.get .planText).run script (some entry)

/-- The members of the named object. The object may span several lines, so line breaks are replaced
first. -/
def tableText (l : Lookups) (script object : List Char) : Attempt Failure (List Char) :=
  (l.get .tableText).run (flatten script) (some object)

end Lookups

end Unscramble
