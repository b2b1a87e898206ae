import CoEdit.CommandLine.Arguments

/-!
# Help texts

The lines that are printed when help is asked for: what a command does, how it is used, and its options, in columns. A text that
does not fit in its column goes on in the next line, between words.
-/

namespace CoEdit

/-- The name of the program. -/
def programName : String := "tandemd"

/-- The version of the program. -/
def programVersion : String := "0.1.0"

namespace Help

/-- How long a line may be. -/
def lineLimit : Nat := 100

/-- Puts a word at the end of lines, of which the last one comes first: on the last line where it fits, else on a new one. -/
def addWord (limit : Nat) (lines : List String) (word : String) : List String :=
  match lines with
  | [] => [word]
  | line :: above =>
    if line.length + 1 + word.length ≤ limit then (line ++ " " ++ word) :: above else word :: line :: above

/-- The lines of a text, none of them longer than a limit unless it is a single word. -/
def wrapped (limit : Nat) (text : String) : List String := ((text.splitOn " ").foldl (addWord limit) []).reverse

/-- A number of blanks. -/
def blanks (n : Nat) : String := String.ofList (List.replicate n ' ')

/-- Lines of two columns: the second begins two blanks after the longest entry of the first. -/
def columns (rows : List (String × String)) : List String :=
  let width := (rows.map fun r => r.1.length).foldl max 0
  rows.flatMap fun (name, text) => match wrapped (lineLimit - (width + 4)) text with
    | [] => ["  " ++ name]
    | first :: rest => ("  " ++ name ++ blanks (width + 2 - name.length) ++ first) :: rest.map (blanks (width + 4) ++ ·)

/-- How an option is written. -/
def optionText (o : OptionSpec) : String :=
  (match o.letter with
    | some c => String.ofList ['-', c, ',', ' ']
    | none => "    ") ++ "--" ++ o.name ++
  (match o.value with
    | some v => " <" ++ v ++ ">"
    | none => "")

/-- What is said of an option: where its value comes from when it is not given. -/
def optionDescription (env : Environment) (o : OptionSpec) : String :=
  if o.name = CommandName.configOption.name then
    o.description ++ " [env: " ++ Command.configVariable ++ "=" ++ (Table.get? Command.configVariable env).getD "" ++
      "] [default: " ++ Command.defaultFile ++ "]"
  else o.description

/-- The option that asks for help. -/
def helpRow : String × String := ("-h, --help", "Print help")

/-- The lines about a command. -/
def commandLines (env : Environment) (c : CommandName) : List String :=
  [c.description, "",
    "Usage: " ++ programName ++ " " ++ c.text ++ (if c.options = [] then "" else " [OPTIONS]"), "", "Options:"] ++
  columns (c.options.map (fun o => (optionText o, optionDescription env o)) ++ [helpRow])

/-- What help does, as a command. -/
def helpDescription : String := "Print this message or the help of the given subcommand(s)"

/-- The lines about the program. -/
def programLines : List String :=
  ["Tandem collaborative editing server", "", "Usage: " ++ programName ++ " <COMMAND>", "", "Commands:"] ++
  columns (CommandName.all.map (fun c => (c.text, c.description)) ++ [("help", helpDescription)]) ++
  ["", "Options:"] ++ columns [helpRow, ("-V, --version", "Print version")]

/-- The lines about help. -/
def helpLines : List String :=
  [helpDescription, "", "Usage: " ++ programName ++ " help [COMMAND]...", "", "Arguments:"] ++
  columns [("[COMMAND]...", "Print help for the subcommand(s)")]

end Help

end CoEdit
