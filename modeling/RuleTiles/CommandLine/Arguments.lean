/-
**The arguments of a run.**

A run is given the path of a level file and options.  An option is written with its value as the
next argument, or after an equals sign.

Main definitions:

* `RuleTiles.CommandLine.Request` — a path and options;
* `RuleTiles.CommandLine.Request.ofArguments?` — the request that arguments make.
-/

import RuleTiles.CommandLine

set_option relaxedAutoImplicit false
set_option autoImplicit false

namespace RuleTiles.CommandLine

/-- What the arguments of a run ask for. -/
structure Request where
  path : Option String := none
  options : Options := {}

/-- The number written by decimal digits, up to the bound of a word of 64 bits. -/
def number? (text : String) : Option Nat := Level.readNumber? text.toList

/-- Splits an argument at its first equals sign. -/
def splitArgument (argument : String) : String × Option String :=
  let name := argument.toList.takeWhile fun c => c ≠ '='
  match argument.toList.dropWhile fun c => c ≠ '=' with
  | [] => (argument, none)
  | _ :: value => (.ofList name, some (.ofList value))

/-- The request with the value of one option set. -/
def Request.set? (r : Request) (name value : String) : Option Request :=
  match name with
  | "-m" | "--moves" => some { r with options := { r.options with moves := some value } }
  | "--max-moves" =>
    (number? value).map fun n => { r with options := { r.options with maxMoves := n } }
  | "-s" | "--seed" =>
    (number? value).map fun n => { r with options := { r.options with seed := .ofNat n } }
  | "--random-steps" =>
    (number? value).map fun n => { r with options := { r.options with randomSteps := n } }
  | "--log-level" => some r
  | _ => none

/-- Takes in the arguments that follow a request. -/
def Request.extend? (r : Request) : List String → Option Request
  | [] => some r
  | argument :: rest =>
    match splitArgument argument with
    | ("--solve", none) => { r with options := { r.options with solve := true } }.extend? rest
    | (name, some value) =>
      if argument.startsWith "-" then (r.set? name value).bind fun r => r.extend? rest
      else if r.path.isNone then { r with path := some argument }.extend? rest
      else none
    | (name, none) =>
      if argument.startsWith "-" then
        match rest with
        | [] => none
        | value :: rest => (r.set? name value).bind fun r => r.extend? rest
      else if r.path.isNone then { r with path := some argument }.extend? rest
      else none

/-- The request that arguments make; it has a path. -/
def Request.ofArguments? (arguments : List String) : Option (String × Options) := do
  let r ← Request.extend? {} arguments
  return (← r.path, r.options)

end RuleTiles.CommandLine
