import DescriptorReaper.Shell.Numeral
import DescriptorReaper.Shell.State

/-!
The leading arguments of a built-in command: letters after a hyphen, some of which take a value, up
to an argument that is something else.
-/

namespace DescriptorReaper.Shell.Choices

abbrev Known := List (Char × Bool)

def known : List Char → Known
  | [] => []
  | letter :: ':' :: rest => (letter, true) :: known rest
  | letter :: rest => (letter, false) :: known rest

def ofLetters (known : Known) : List Char → List ByteText →
    Run (List (Char × ByteText) × List ByteText)
  | [], rest => return ([], rest)
  | letter :: more, rest =>
      match known.lookup letter with
      | none => Run.abort (Run.text "Illegal option -" ++ [letter])
      | some false => do
          let (chosen, rest) ← ofLetters known more rest
          return ((letter, []) :: chosen, rest)
      | some true =>
          if more ≠ [] then return ([(letter, more)], rest)
          else
            match rest with
            | value :: rest => return ([(letter, value)], rest)
            | [] => Run.abort (Run.text "No arg for -" ++ letter :: Run.text " option")

def ofArguments (known : Known) : Nat → List ByteText →
    Run (List (Char × ByteText) × List ByteText)
  | 0, arguments => return ([], arguments)
  | _, [] => return ([], [])
  | count + 1, argument :: rest =>
      match argument with
      | ['-', '-'] => return ([], rest)
      | '-' :: first :: more => do
          let (chosen, rest) ← ofLetters known (first :: more) rest
          let (others, rest) ← ofArguments known count rest
          return (chosen ++ others, rest)
      | _ => return ([], argument :: rest)

/-- The choices that arguments make among some letters, and the arguments that are left. -/
def read (letters : String) (arguments : List ByteText) :
    Run (List (Char × ByteText) × List ByteText) :=
  ofArguments (known letters.toList) arguments.length arguments

def first (letters : String) : List ByteText → Run (Option Char × List ByteText)
  | ['-', '-'] :: rest => return (none, rest)
  | ('-' :: letter :: _) :: rest =>
      if letters.toList.contains letter then return (some letter, rest)
      else Run.abort (Run.text "Illegal option -" ++ [letter])
  | arguments => return (none, arguments)

def afterMark (arguments : List ByteText) : Run (List ByteText) := return (← read "" arguments).2

def count (argument : ByteText) : Run Nat :=
  match Numeral.count? argument with
  | some count => return count
  | none => Run.abort (Run.text "Illegal number: " ++ argument)

end DescriptorReaper.Shell.Choices
