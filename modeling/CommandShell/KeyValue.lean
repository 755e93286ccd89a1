import CommandShell.Command.Handler
import CommandShell.Table

/-! The bundled commands: a store of texts by key. A session may have been started without one. -/

namespace CommandShell.KeyValue

abbrev Store := Option (Entries String)

abbrev Act := Action Store

/-- Goes on with the store of the session, which has to be there. -/
def withStore (next : Entries String → Act) : Act :=
  .look fun view =>
    match view.data with
    | none => .fail (.fault (.runtime "this shell was started without a data store"))
    | some entries => next entries

def setSignature : Signature :=
  ⟨"Store a value under a key", [⟨"key", "Key to set", ""⟩, ⟨"value", "Value to store", ""⟩],
    by decide⟩

def set (arguments : Arguments) : Act :=
  let key := arguments.getD "key" ""
  let value := arguments.getD "value" (setSignature.defaultFor "value")
  if key == "" then .refuse "set: missing key"
  else withStore fun entries =>
    .store (some (Entries.put entries key value)) (.succeed (key ++ " = " ++ value))

def get (arguments : Arguments) : Act :=
  let key := arguments.getD "key" ""
  withStore fun entries =>
    match Entries.find? entries key with
    | none => .refuse ("get: no such key: " ++ key)
    | some value => .succeed value

def unset (arguments : Arguments) : Act :=
  let key := arguments.getD "key" ""
  withStore fun entries =>
    match Entries.find? entries key with
    | none => .refuse ("unset: no such key: " ++ key)
    | some _ => .store (some (Entries.erase entries key)) (.succeed ("removed " ++ key))

/-- The rows of the keys that begin with a text, in the order of code points. -/
def rows (entries : Entries String) (start : String) : List (List String) :=
  ((Entries.sorted entries).filter fun p => start.toList.isPrefixOf p.1.toList).map
    fun p => [p.1, p.2]

def list (arguments : Arguments) : Act :=
  let start := arguments.getD "prefix" ""
  withStore fun entries =>
    let found := rows entries start
    .finish (.text (if found.isEmpty then "(empty)" else Table.standard ["Key", "Value"] found))

def commands : List (String × Command Store) :=
  [("set", .bundled setSignature set),
    ("get", .bundled ⟨"Print the value stored under a key", [⟨"key", "Key to read", ""⟩],
      by decide⟩ get),
    ("unset", .bundled ⟨"Remove a key", [⟨"key", "Key to remove", ""⟩], by decide⟩ unset),
    ("list", .bundled ⟨"List stored keys and values",
      [⟨"prefix", "Only keys starting with this prefix", ""⟩], by decide⟩ list)]

end CommandShell.KeyValue
