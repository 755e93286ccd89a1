import CommandShell.Entries
import CommandShell.Failure
import CommandShell.Location

/-! What surrounds a process: where it works, where temporary files go, its variables, the homes of
users, the home of its own account, and the links that lead back to themselves, which are all the
links there are. Paths given by a user may begin with a home and hold variables. -/

namespace CommandShell

structure Surroundings where
  directory : String
  temporary : String
  environment : Entries String
  homes : Entries String
  ownHome : Option String
  loops : List String
  deriving DecidableEq, Repr

namespace Surroundings

/-- Reads variables as a process is given them: each with its value after an equals sign, ended by
the character zero. -/
def variablesOf (text : String) : Entries String :=
  Entries.ofList ((Text.parts '\x00' text).filterMap fun entry =>
    let cs := entry.toList
    match cs.dropWhile (· != '=') with
    | _ :: value => some (String.ofList (cs.takeWhile (· != '=')), String.ofList value)
    | [] => none)

/-- Reads a table of accounts, seven fields a line: the name of a user, its number and its home. -/
def accountsOf (text : String) : List (String × String × String) :=
  (Text.parts '\n' text).filterMap fun line =>
    match Text.parts ':' line with
    | [user, _, number, _, _, home, _] => some (user, number, home)
    | _ => none

/-- The home a tilde stands for: that of the user named after it, or that of the process, which a
variable may name in place of its account. -/
def homeOf (s : Surroundings) (user : String) : Except Fault (Option String) :=
  if user == "" then .ok ((Entries.find? s.environment "HOME").or s.ownHome)
  else if user.toList.contains '\x00' then .error (.value "embedded null byte")
  else .ok (Entries.find? s.homes user)

def dropSlashes (path : String) : List Char :=
  (path.toList.reverse.dropWhile (· == '/')).reverse

/-- Replaces a tilde at the front, and the name after it, by a home. A name of no user stays. -/
def expandHome (s : Surroundings) (path : String) : Except Fault String :=
  match path.toList with
  | '~' :: rest =>
    (s.homeOf (String.ofList (rest.takeWhile (· != '/')))).map fun
      | none => path
      | some home =>
        let full := dropSlashes home ++ rest.dropWhile (· != '/')
        if full.isEmpty then "/" else String.ofList full
  | _ => .ok path

def isVariableChar (c : Char) : Bool := c.isAlphanum || c == '_'

/-- The variable that follows a dollar sign, bare or in braces, and the length of its mention. -/
def mention? (rest : List Char) : Option (String × Nat) :=
  let bare := rest.takeWhile isVariableChar
  if !bare.isEmpty then some (String.ofList bare, bare.length)
  else
    match rest with
    | '\x7b' :: more =>
      let name := more.takeWhile (· != '\x7d')
      if name.length < more.length then some (String.ofList name, name.length + 2) else none
    | _ => none

/-- Replaces the variables a path mentions by their values, which are not looked at again. A mention
of no variable stays as it is. -/
def expandMentions (environment : Entries String) : List Char → List Char
  | [] => []
  | c :: rest =>
    if c = '$' then
      match mention? rest with
      | some (name, n) =>
        (match Entries.find? environment name with
          | some value => value.toList
          | none => c :: rest.take n) ++ expandMentions environment (rest.drop n)
      | none => c :: expandMentions environment rest
    else c :: expandMentions environment rest
  termination_by cs => cs.length
  decreasing_by all_goals simp only [List.length_cons, List.length_drop]; omega

def placeOf (s : Surroundings) (path : String) : Except Fault String := do
  let expanded := String.ofList (expandMentions s.environment (← s.expandHome path).toList)
  if expanded.toList.contains '\x00' then
    .error (.value "embedded null byte")
  else .ok (Location.resolve s.directory expanded)

/-- A place is lost if the way to it goes through a link that leads back to itself. -/
def isLost (s : Surroundings) (place : String) : Bool :=
  s.loops.any fun loop => (Location.parts loop).isPrefixOf (Location.parts place)

def lostFault (place : String) : Fault := .runtime ("Symlink loop from " ++ Text.quoted place)

def locate (s : Surroundings) (path : String) : Except Fault String := do
  let place ← s.placeOf path
  if s.isLost place then .error (lostFault place) else .ok place

end Surroundings
end CommandShell
