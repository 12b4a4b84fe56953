import Unscramble.Timespan

/-!
# Settings of a player
-/

namespace Unscramble.Player

/-- How players are asked for. -/
structure Settings where
  /-- Where embed pages and relative script paths begin. -/
  baseUrl : List Char
  /-- How long to wait for an answer. -/
  timeout : Timespan
  /-- How to introduce oneself. -/
  userAgent : List Char
  /-- How often a request is repeated if it fails. -/
  retries : Nat
  /-- How long a script is kept. -/
  keepFor : Timespan
  /-- How many scripts are kept. -/
  keepAtMost : Nat

/-- Where embed pages begin unless told otherwise. -/
def Settings.usualBaseUrl : String :=
  "https://www.youtube.com"

/-- The settings in use unless told otherwise. -/
def Settings.usual : Settings where
  baseUrl := usualBaseUrl.toList
  timeout := ⟨30, 0⟩
  userAgent :=
    "Mozilla/5.0 (X11; Linux x86_64; rv:128.0) Gecko/20100101 Firefox/128.0".toList
  retries := 2
  keepFor := ⟨600, 0⟩
  keepAtMost := 8

end Unscramble.Player
