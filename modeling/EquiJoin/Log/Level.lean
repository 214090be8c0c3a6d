/-!
# Levels of detail

A log is kept at a level, which is asked for by its name or by its number. -/

set_option autoImplicit false

namespace EquiJoin

inductive Level where
  | error
  | warn
  | info
  | debug
  | trace
  deriving DecidableEq

namespace Level

def rank : Level → Nat
  | .error => 1
  | .warn => 2
  | .info => 3
  | .debug => 4
  | .trace => 5

def name : Level → String
  | .error => "ERROR"
  | .warn => "WARN"
  | .info => "INFO"
  | .debug => "DEBUG"
  | .trace => "TRACE"

def all : List Level := [.error, .warn, .info, .debug, .trace]

/-- A number as it is typed: decimal digits, and perhaps a plus sign in front. -/
def number? (text : String) : Option Nat :=
  let digits := match text.toList with
    | '+' :: digits => digits
    | digits => digits
  if !digits.isEmpty && digits.all Char.isDigit then
    some (digits.foldl (fun number digit => 10 * number + (digit.toNat - '0'.toNat)) 0)
  else none

/-- The level with a name, in capitals or not, or with a number. -/
def parse? (text : String) : Option Level :=
  all.find? fun level =>
    number? text == some level.rank || text.toList.map Char.toUpper == level.name.toList

end Level

end EquiJoin
