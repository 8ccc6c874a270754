import P3Portal.Foundation.TextStream

namespace P3Portal.Foundation.HereDocument

/-- A line of a script, without its newline. -/
abbrev Line := List Char

/-- Where the reader of a command line stands. -/
inductive Place where
  | blank
  | word
  | dollar
  | opening
  | escaped
  | single
  | double
  | comment
  | less
  | opened
  | delimiter (read : Line)
  | closed
deriving DecidableEq

/-- The reader keeps the delimiters that it has seen. -/
structure LineReader where
  place : Place
  delimiters : List Line
deriving DecidableEq

/-- A step outside of quotes; only where a word may begin does a number sign begin a comment. -/
def LineReader.outside (reader : LineReader) (fresh : Bool) (c : Char) : Option LineReader :=
  if c = '`' then none
  else some { reader with
    place :=
      if c = '(' then .opening
      else if c = '\'' then .single
      else if c = '"' then .double
      else if c = '\\' then .escaped
      else if c = '<' then .less
      else if c = '$' then .dollar
      else if c = '#' && fresh then .comment
      else if [' ', '\t', ';', '&', '|', ')', '>'].contains c then .blank
      else .word }

/-- One character of a command line. What would nest another language (back quotes, arithmetic, braces, a substitution
in double quotes) and a delimiter that is not wholly in single quotes have no step. -/
def LineReader.step (reader : LineReader) (c : Char) : Option LineReader :=
  match reader.place with
  | .blank => reader.outside true c
  | .word => reader.outside false c
  | .dollar => if c = '\x7b' || c = '\'' then none else reader.outside false c
  | .opening => if c = '(' then none else reader.outside true c
  | .escaped => some { reader with place := .word }
  | .single => some { reader with place := if c = '\'' then .word else .single }
  | .double =>
      if ['\\', '`', '(', '\x7b'].contains c then none
      else some { reader with place := if c = '"' then .word else .double }
  | .comment => some reader
  | .less => if c = '<' then some { reader with place := .opened } else reader.outside true c
  | .opened =>
      if c = ' ' then some reader
      else if c = '\'' then some { reader with place := .delimiter [] } else none
  | .delimiter read =>
      if c = '\'' then some ⟨.closed, reader.delimiters ++ [read]⟩
      else some { reader with place := .delimiter (read ++ [c]) }
  | .closed => if c = ' ' then some { reader with place := .blank } else none

/-- A line ends outside of quotes. -/
def LineReader.finish (reader : LineReader) : Option (List Line) :=
  match reader.place with
  | .blank | .word | .dollar | .comment | .closed => some reader.delimiters
  | _ => none

/-- The delimiters of the here-documents that a command line begins. -/
def delimiters (line : Line) : Option (List Line) :=
  (line.foldlM LineReader.step ⟨.blank, []⟩).bind LineReader.finish

/-- A command line with the lines of its here-documents; a quoted delimiter leaves them as they are. -/
structure Command where
  line : Line
  documents : List (List Line)
deriving DecidableEq

/-- The reader of a script is at a command or inside a here-document of one. -/
inductive Reading where
  | command
  | document (line : Line) (finished : List (List Line)) (body : List Line) (delimiter : Line) (later : List Line)

/-- A here-document goes on to the next line that is its delimiter, and a script does not end before it. -/
def readFrom : Reading → List Line → Option (List Command)
  | .command, [] => some []
  | .document .., [] => none
  | .command, line :: rest =>
      match delimiters line with
      | none => none
      | some [] => (readFrom .command rest).map (⟨line, []⟩ :: ·)
      | some (delimiter :: later) => readFrom (.document line [] [] delimiter later) rest
  | .document line finished body delimiter later, next :: rest =>
      if next = delimiter then
        match later with
        | [] => (readFrom .command rest).map (⟨line, finished ++ [body]⟩ :: ·)
        | following :: later => readFrom (.document line (finished ++ [body]) [] following later) rest
      else readFrom (.document line finished (body ++ [next]) delimiter later) rest

/-- The commands of a script. -/
def read (script : List Line) : Option (List Command) := readFrom .command script

/-- `cat > WORD` copies its here-document into the file that the word names. -/
def Command.written (command : Command) : Option (Line × List Char) :=
  match command.documents with
  | [body] =>
      if "cat > ".toList.isPrefixOf command.line then
        some ((command.line.drop 6).takeWhile (· ≠ ' '), Text.unlines body)
      else none
  | _ => none

@[simp] theorem read_nil : read [] = some [] := rfl

/-- Lines that begin no here-document are commands by themselves. -/
theorem read_plain {lines : List Line} (plain : ∀ line ∈ lines, delimiters line = some []) (rest : List Line) :
    read (lines ++ rest) = (read rest).map (lines.map (Command.mk · []) ++ ·) := by
  induction lines with
  | nil =>
      rw [List.nil_append, List.map_nil]
      exact Option.map_id'.symm
  | cons line lines ih =>
      have later := ih fun other member => plain other (List.mem_cons_of_mem line member)
      have here : read (line :: (lines ++ rest)) = (read (lines ++ rest)).map (⟨line, []⟩ :: ·) := by
        rw [read, readFrom, plain line List.mem_cons_self]
        rfl
      rw [List.cons_append, here, later, Option.map_map]
      rfl

/-- Lines other than the delimiter belong to the here-document. -/
theorem readFrom_body {lines : List Line} {delimiter : Line} (inside : delimiter ∉ lines) (line : Line)
    (finished : List (List Line)) (body : List Line) (later rest : List Line) :
    readFrom (.document line finished body delimiter later) (lines ++ rest) =
      readFrom (.document line finished (body ++ lines) delimiter later) rest := by
  induction lines generalizing body with
  | nil => rw [List.nil_append, List.append_nil]
  | cons next lines ih =>
      have other : next ≠ delimiter := fun same => inside (same ▸ List.mem_cons_self)
      have after := ih (fun member => inside (List.mem_cons_of_mem next member)) (body ++ [next])
      have here : readFrom (.document line finished body delimiter later) (next :: (lines ++ rest)) =
          readFrom (.document line finished (body ++ [next]) delimiter later) (lines ++ rest) := by
        cases later with
        | nil => rw [readFrom, if_neg other]
        | cons following later => rw [readFrom, if_neg other]
      rw [List.cons_append, here, after, List.append_assoc]
      rfl

/-- A here-document ends at its delimiter, and its lines are what stood before it. -/
theorem read_document {line delimiter : Line} {body : List Line} (begins : delimiters line = some [delimiter])
    (inside : delimiter ∉ body) (rest : List Line) :
    read (line :: (body ++ delimiter :: rest)) = (read rest).map (⟨line, [body]⟩ :: ·) := by
  have opened : read (line :: (body ++ delimiter :: rest)) =
      readFrom (.document line [] [] delimiter []) (body ++ delimiter :: rest) := by
    rw [read, readFrom, begins]
  rw [opened, readFrom_body inside]
  simp only [readFrom, ↓reduceIte]
  rfl

end P3Portal.Foundation.HereDocument
