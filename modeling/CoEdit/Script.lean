import CoEdit.Disk

/-!
# Scripts

A program on disk that can be run is a script: a first line that names its interpreter, and commands after it. Commands are
separated by line ends and semicolons, or joined by `&&` and `||`, of which the second runs only after a success or a failure.
The output of a command may go to a file.

Words are divided by blanks. Inside of single quotes every character stands for itself; elsewhere a backslash takes the next
character as it is, and `$1` to `$9` and `$#` stand for the arguments and their number. An argument is part of one word.
-/

namespace CoEdit

/-- A part of a line. -/
inductive ScriptToken where
  | word (text : String)
  | separator
  | andThen
  | orElse
  /-- Output to a file, at its end or in place of what was there. -/
  | output (append : Bool)
  deriving DecidableEq, Repr

/-- Whether a command runs after the one before it. -/
inductive ScriptCondition where
  | always | onSuccess | onFailure
  deriving DecidableEq, Repr

/-- A command: its words, and where its output goes. -/
structure ScriptCommand where
  condition : ScriptCondition := .always
  words : List String := []
  output : Option (Bool × String) := none
  deriving Repr

namespace Script

/-- What a dollar sign and a character stand for. -/
def expansion (arguments : List String) (c : Char) : List Char :=
  if c = '#' then (toString arguments.length).toList
  else if c.isDigit ∧ c ≠ '0' then (arguments[c.toNat - '1'.toNat]?.getD "").toList
  else ['$', c]

/-- Ends the word being read; characters are kept backwards. -/
def endWord (word : Option (List Char)) (ts : List ScriptToken) : List ScriptToken :=
  match word with
  | some cs => .word (String.ofList cs.reverse) :: ts
  | none => ts

/-- Adds characters to the word being read. -/
def grow (word : Option (List Char)) (cs : List Char) : Option (List Char) := some (cs.reverse ++ word.getD [])

/-- The kind of text the reader is inside of. -/
inductive Quote where
  | none | single | double
  deriving DecidableEq, Repr

/-- Reads the tokens of commands, newest first. -/
def tokensFrom (arguments : List String) :
    (quote : Quote) → (word : Option (List Char)) → List ScriptToken → List Char → List ScriptToken
  | _, word, ts, [] => endWord word ts
  | .single, word, ts, c :: rest =>
    if c = '\'' then tokensFrom arguments .none word ts rest else tokensFrom arguments .single (grow word [c]) ts rest
  | quote, word, ts, '\\' :: c :: rest =>
    let kept := if quote = .double ∧ ¬ ['"', '\\', '$', '\n'].contains c then ['\\', c] else if c = '\n' then [] else [c]
    tokensFrom arguments quote (grow word kept) ts rest
  | quote, word, ts, '$' :: c :: rest => tokensFrom arguments quote (grow word (expansion arguments c)) ts rest
  | .double, word, ts, c :: rest =>
    if c = '"' then tokensFrom arguments .none word ts rest else tokensFrom arguments .double (grow word [c]) ts rest
  | .none, word, ts, '&' :: '&' :: rest => tokensFrom arguments .none none (.andThen :: endWord word ts) rest
  | .none, word, ts, '|' :: '|' :: rest => tokensFrom arguments .none none (.orElse :: endWord word ts) rest
  | .none, word, ts, '>' :: '>' :: rest => tokensFrom arguments .none none (.output true :: endWord word ts) rest
  | .none, word, ts, c :: rest =>
    if c = '\'' then tokensFrom arguments .single (grow word []) ts rest
    else if c = '"' then tokensFrom arguments .double (grow word []) ts rest
    else if c = '>' then tokensFrom arguments .none none (.output false :: endWord word ts) rest
    else if c = ';' ∨ c = '\n' then tokensFrom arguments .none none (.separator :: endWord word ts) rest
    else if c = ' ' ∨ c = '\t' then tokensFrom arguments .none none (endWord word ts) rest
    else tokensFrom arguments .none (grow word [c]) ts rest

/-- The tokens of commands. -/
def tokens (arguments : List String) (cs : List Char) : List ScriptToken :=
  (tokensFrom arguments .none none [] cs).reverse

/-- The commands of tokens, after the words of the present one. -/
def commandsFrom (present : ScriptCommand) : List ScriptToken → List ScriptCommand
  | [] => [present]
  | .word w :: rest => commandsFrom { present with words := present.words ++ [w] } rest
  | .output append :: .word w :: rest => commandsFrom { present with output := some (append, w) } rest
  | .output _ :: rest => commandsFrom present rest
  | .separator :: rest => present :: commandsFrom {} rest
  | .andThen :: rest => present :: commandsFrom { condition := .onSuccess } rest
  | .orElse :: rest => present :: commandsFrom { condition := .onFailure } rest

/-- The commands of a script after its first line. -/
def commands (arguments : List String) (cs : List Char) : List ScriptCommand :=
  (commandsFrom {} (tokens arguments cs)).filter (fun c => c.words ≠ [])

/-! ## Running commands -/

/-- A format with arguments put in. `%s` takes the next one, and the letters after backslashes are line ends and tabs. -/
def formatted : List Char → List String → List Char × List String
  | [], args => ([], args)
  | '%' :: 's' :: rest, args => let (cs, left) := formatted rest (args.drop 1); ((args.headD "").toList ++ cs, left)
  | '%' :: '%' :: rest, args => let (cs, left) := formatted rest args; ('%' :: cs, left)
  | '\\' :: 'n' :: rest, args => let (cs, left) := formatted rest args; ('\n' :: cs, left)
  | '\\' :: 't' :: rest, args => let (cs, left) := formatted rest args; ('\t' :: cs, left)
  | '\\' :: '\\' :: rest, args => let (cs, left) := formatted rest args; ('\\' :: cs, left)
  | c :: rest, args => let (cs, left) := formatted rest args; (c :: cs, left)

/-- A format, used again as long as arguments are left. -/
def printed : (fuel : Nat) → List Char → List String → List Char
  | 0, _, _ => []
  | fuel + 1, format, args =>
    let (cs, left) := formatted format args
    if left = [] ∨ left.length = args.length then cs else cs ++ printed fuel format left

/-- Writes a file, at its end or in place of what was there. -/
def writeOutput (d : Disk) (append : Bool) (file : String) (content : ByteArray) : Except DiskError Disk :=
  let before := if append then ((d.read ⟨file⟩).toOption.getD ByteArray.empty) else ByteArray.empty
  d.write ⟨file⟩ (before ++ content)

/-- Moves a file. -/
def move (d : Disk) (source target : String) : Except DiskError Disk := do
  let content ← d.read ⟨source⟩
  let d ← d.write ⟨target⟩ content
  d.remove ⟨source⟩

/-- Copies a file. -/
def copy (d : Disk) (source target : String) : Except DiskError Disk := do d.write ⟨target⟩ (← d.read ⟨source⟩)

/-- What a command prints, and the disk it leaves; nothing if it fails. -/
def perform (d : Disk) : List String → Option (ByteArray × Disk)
  | "printf" :: format :: args =>
    some ((String.ofList (printed (args.length + 1) format.toList args)).toUTF8, d)
  | "echo" :: args => some ((String.intercalate " " args ++ "\n").toUTF8, d)
  | ["cat", file] => (d.read ⟨file⟩).toOption.map fun content => (content, d)
  | ["mv", source, target] => (move d source target).toOption.map fun d => (ByteArray.empty, d)
  | ["cp", source, target] => (copy d source target).toOption.map fun d => (ByteArray.empty, d)
  | ["rm", file] => (d.remove ⟨file⟩).toOption.map fun d => (ByteArray.empty, d)
  | ["touch", file] => (writeOutput d true file ByteArray.empty).toOption.map fun d => (ByteArray.empty, d)
  | ["mkdir", dir] => (d.makeDirectory ⟨dir⟩).toOption.map fun d => (ByteArray.empty, d)
  | "true" :: _ => some (ByteArray.empty, d)
  | ":" :: _ => some (ByteArray.empty, d)
  | _ => none

/-- Runs a command: whether it succeeded, and the disk it leaves. The file for its output is made first. -/
def runCommand (d : Disk) (c : ScriptCommand) : Bool × Disk :=
  match c.output with
  | none => match perform d c.words with
    | some (_, d) => (true, d)
    | none => (false, d)
  | some (append, file) => match writeOutput d append file ByteArray.empty with
    | .error _ => (false, d)
    | .ok d => match perform d c.words with
      | none => (false, d)
      | some (content, d) => match writeOutput d true file content with
        | .ok d => (true, d)
        | .error _ => (false, d)

/-- Runs commands one after the other, as their conditions allow, up to an exit. -/
def runCommands (succeeded : Bool) (d : Disk) : List ScriptCommand → Disk
  | [] => d
  | c :: rest =>
    let due : Bool := match c.condition with
      | .always => true
      | .onSuccess => succeeded
      | .onFailure => !succeeded
    if ¬ due then runCommands succeeded d rest
    else if c.words.head? = some "exit" then d
    else
      let (succeeded, d) := runCommand d c
      runCommands succeeded d rest

/-- The interpreters of scripts. -/
def interpreters : List String := ["/bin/sh", "/usr/bin/sh", "/bin/bash", "/usr/bin/bash"]

/-- The interpreter that a script names, if it names one, and what follows that line. -/
def interpreter? (cs : List Char) : Option (String × List Char) :=
  match cs with
  | '#' :: '!' :: rest =>
    let line := (rest.takeWhile (· ≠ '\n')).dropWhile (· = ' ')
    some (String.ofList (line.takeWhile (· ≠ ' ')), rest.dropWhile (· ≠ '\n'))
  | _ => none

end Script

/-- Runs a program on disk with arguments. A name without a slash is looked up among the installed programs, of which there are
none. -/
def Disk.launch (d : Disk) (program : Path) (arguments : List String) : Except DiskError Disk :=
  if ¬ program.text.toList.contains '/' then .error .notFound
  else match d.runnable program with
    | .error e => .error e
    | .ok content =>
      match (String.fromUTF8? content).bind fun text => Script.interpreter? text.toList with
      | none => .error .notExecutable
      | some (name, body) =>
        if Script.interpreters.contains name then
          .ok (Script.runCommands true d (Script.commands arguments body))
        else .error .notFound

end CoEdit
