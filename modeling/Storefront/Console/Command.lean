import Storefront.Text.Blank

/-!
# Commands

What a line on the console asks for: a name, and behind a blank the rest of the line.
-/

namespace Storefront.Console

inductive Command where
  | nothing
  | edit (text : String)
  | enter
  | focus
  | blur
  | pick (number : String)
  | categories (labels : List String)
  | toggle (label : String)
  | back
  | forward
  | describe
  | help
  | quit
  | unknown (name : String)
  deriving DecidableEq, Repr

namespace Command

/-- A text up to its first blank, and what is behind that. -/
def splitBlank (text : String) : String × String :=
  let (name, rest) := text.toList.span (· ≠ ' ')
  (String.ofList name, String.ofList (rest.drop 1))

def ofLine (line : String) : Command :=
  let (name, argument) := splitBlank (Text.trim line)
  match name with
  | "" => .nothing
  | "type" => .edit argument
  | "enter" => .enter
  | "focus" => .focus
  | "blur" => .blur
  | "pick" => .pick argument
  | "cat" => .categories (argument.splitOn ",")
  | "toggle" => .toggle argument
  | "back" => .back
  | "forward" => .forward
  | "show" => .describe
  | "help" => .help
  | "quit" => .quit
  | "exit" => .quit
  | other => .unknown other

end Command

end Storefront.Console
