import CommandShell.Command.Signature
import CommandShell.Failure
import CommandShell.Splitter

/-! Binding argument tokens to parameters. A token of one field is bound to the next parameter not
yet met by such a token, one of two fields to the parameter it names. -/

namespace CommandShell

abbrev Arguments := Entries String

/-- What a row of tokens has bound so far. `position` counts the bare values; those beyond the
parameters are surplus. -/
structure Binding where
  arguments : Arguments
  position : Nat
  surplus : List String
  deriving DecidableEq, Repr

namespace Binding

def empty : Binding := ⟨[], 0, []⟩

/-- Binds the fields of one token; there must be one or two. -/
def add (parameters : List Parameter) (b : Binding) : List String → Option Binding
  | [value] =>
    match parameters[b.position]? with
    | some p => some ⟨Entries.put b.arguments p.name value, b.position + 1, b.surplus⟩
    | none => some ⟨b.arguments, b.position + 1, b.surplus ++ [value]⟩
  | [key, value] => some { b with arguments := Entries.put b.arguments key value }
  | _ => none

/-- Binds tokens in order, up to the first that cannot be bound. -/
def addAll (sp : Splitter) (parameters : List Parameter) (b : Binding) :
    List String → Binding × Option ShellError
  | [] => (b, none)
  | token :: rest =>
    match sp.split token with
    | .error e => (b, some (.tokenize e.text e.reason))
    | .ok fields =>
      match b.add parameters fields with
      | none => (b, some (.invalidArgument token))
      | some b => addAll sp parameters b rest

def ofTokens (sp : Splitter) (parameters : List Parameter) (tokens : List String) :
    Binding × Option ShellError :=
  addAll sp parameters empty tokens

def surplusMessage (value : String) : String := "extra argument: " ++ value

end Binding
end CommandShell
