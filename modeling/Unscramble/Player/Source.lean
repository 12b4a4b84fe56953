import Unscramble.Error
import Unscramble.Note

/-!
# Sources of player scripts

A source knows which script plays a video, and has its text. It may change with every question, so
that an answer comes with the state of the source after it.
-/

namespace Unscramble.Player

/-- Where player scripts come from, with a state of type `σ`. -/
structure Source (σ : Type) where
  /-- The URL of the script that plays the video with the given id. -/
  scriptUrl : (video : List Char) → σ → σ × Attempt Error (List Char)
  /-- The text of the script at a URL. -/
  scriptText : (url : List Char) → σ → σ × Attempt Error (List Char)

/-- A source with fixed answers. -/
def Source.fixed (scriptUrl scriptText : List Char → Except Error (List Char)) : Source Unit where
  scriptUrl video s := (s, .ofExcept (scriptUrl video))
  scriptText url s := (s, .ofExcept (scriptText url))

/-- A question to a source. -/
inductive Question
  /-- Which script plays the video? -/
  | scriptOf (video : List Char)
  /-- What is the text of the script? -/
  | textAt (url : List Char)
  deriving DecidableEq

/-- The source that also remembers what it was asked, the last question first. -/
def Source.recorded {σ : Type} (source : Source σ) : Source (σ × List Question) where
  scriptUrl video := fun (s, asked) ↦
    let (s, answer) := source.scriptUrl video s
    ((s, .scriptOf video :: asked), answer)
  scriptText url := fun (s, asked) ↦
    let (s, answer) := source.scriptText url s
    ((s, .textAt url :: asked), answer)

end Unscramble.Player
