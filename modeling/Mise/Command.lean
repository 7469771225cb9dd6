import Mise.Project

/-!
# Commands

What can be done with the recipes of a project: compile one, check one for warnings, print the
shopping list of one, or compile all that are in a folder. Every command starts from the settings
and ends in a report: what it prints, and why it failed if it did. What it wrote before it failed
stays written.

Compiling a folder goes through its documents in order. A document that cannot be compiled does not
keep the others from being compiled. What lies in the output folder is not taken for a document, as
long as the output folder is written as a path from the folder itself.

## Main definitions

* `Command`: The commands.
* `CommandFailure`, `Report`: What comes of a command.
* `compileFile`, `checkFile`, `shoppingFile`, `compileFolder`: The commands one by one.
* `Command.run`: Any command.
-/

namespace Mise

/-- What to do. -/
inductive Command where
  /-- Compile a document. -/
  | compile (file : Path) (output : Option Path) (compact : Bool)
  /-- Print the warnings about a document. -/
  | check (file : Path) (strict : Bool)
  /-- Print the shopping list of a document. -/
  | shopping (file : Path)
  /-- Compile the documents in a folder. -/
  | batch (folder : Path) (output : Option Path)
  deriving DecidableEq

/-- Why a command fails. -/
inductive CommandFailure where
  /-- Settings that cannot be loaded. -/
  | settings (cause : Failure)
  /-- A table of ingredients that cannot be loaded. -/
  | table (cause : Failure)
  /-- A document that cannot be compiled. -/
  | document (file : Path) (cause : Failure)
  /-- A folder that cannot be made. -/
  | folderRefused (folder : Path)
  /-- A file that cannot be written. -/
  | fileRefused (file : Path)
  /-- A folder without documents. -/
  | noDocuments (folder : Path)
  /-- Documents in a folder that cannot be compiled. -/
  | documents (files : List Path)
  /-- Warnings where there should be none. -/
  | warnings (count : Nat) (file : Path)
  deriving DecidableEq

/-- What is told about a failure. -/
def CommandFailure.message : CommandFailure → String
  | .settings _ => "Failed to load configuration"
  | .table _ => "Failed to load ingredient table"
  | .document file _ => "Failed to compile " ++ file.text
  | .folderRefused folder => "Failed to create " ++ folder.text
  | .fileRefused file => "Failed to write " ++ file.text
  | .noDocuments folder => "No recipe documents found in " ++ folder.text
  | .documents files =>
    toString files.length ++ " document(s) failed: " ++ ", ".intercalate (files.map Path.text)
  | .warnings count file => toString count ++ " warning(s) in " ++ file.text

/-- What comes of a command: what it prints, and why it failed if it did. -/
structure Report where
  output : String
  failure : Option CommandFailure
  deriving DecidableEq

namespace Report

/-- The report of a command that prints lines. -/
def lines (ls : List String) : Report :=
  ⟨String.join (ls.map (· ++ "\n")), none⟩

/-- The report of a command that fails before it prints anything. -/
def failed (cause : CommandFailure) : Report := ⟨"", some cause⟩

end Report

variable {m : Type → Type} [Monad m]

/-- Run a command on the settings of a project. Settings that are named have to exist; otherwise
    those in the working folder are taken, if there are any. -/
def withProject (fs : FileSystem m) (settings : Option Path)
    (command : Settings → CompileOptions → m Report) : m Report := do
  let loaded ← match settings with
    | some p => Settings.load fs p
    | none => Settings.loadOrDefault fs ⟨"."⟩
  match loaded with
  | .error e => return .failed (.settings e)
  | .ok s =>
    match ← CompileOptions.load fs s with
    | .error e => return .failed (.table e)
    | .ok o => command s o

/-! ## One document -/

/-- Run a command on the compilation of a file. -/
def withCompilation (fs : FileSystem m) (o : CompileOptions) (file : Path)
    (command : Compilation → m Report) : m Report := do
  match ← Compilation.load fs o file with
  | .error e => return .failed (.document file e)
  | .ok c => command c

/-- Write a text and a line end to a file, in a folder that is made if it is missing. -/
def writeOutput (fs : FileSystem m) (file : Path) (text : String) : m Report := do
  let folder := file.parent?.getD ⟨""⟩
  if !(← fs.createFolders folder) then return .failed (.folderRefused folder)
  if !(← fs.write file (text ++ "\n")) then return .failed (.fileRefused file)
  return .lines []

/-- Compile a document. -/
def compileFile (fs : FileSystem m) (settings : Option Path) (file : Path) (output : Option Path)
    (compact : Bool) : m Report :=
  withProject fs settings fun s o => withCompilation fs o file fun c => do
    let text := c.text (s.pretty && !compact)
    match output with
    | none => return .lines [text]
    | some target => writeOutput fs target text

/-- The line for a warning: its code, what it is about, and its sentence. -/
def Warning.line (w : Warning) : String :=
  let about := ((w.item?).or w.section?).getD "-"
  w.code ++ " [" ++ about ++ "] " ++ w.message

/-- Print the warnings about a document. -/
def checkFile (fs : FileSystem m) (settings : Option Path) (file : Path) (strict : Bool) :
    m Report :=
  withProject fs settings fun _ o => withCompilation fs o file fun c => do
    if c.warnings.isEmpty then return .lines ["✓ " ++ file.text ++ " is clean"]
    else
      let report := Report.lines (c.warnings.map Warning.line)
      if strict then
        return { report with failure := some (.warnings c.warnings.length file) }
      else return report

/-- A number with its unit. -/
def measured (x : Float) (unit : Option String) : String :=
  match unit with
  | none => displayNumber x
  | some unit => displayNumber x ++ " " ++ unit

/-- The name of an option that can be bought. -/
def Usage.purchase? : Usage → Option String
  | .ingredient u => some u.name
  | .cookware u => some u.name
  | _ => none

/-- A line of the shopping list as a text. -/
def ShoppingItem.line : ShoppingItem → String
  | .ingredient e =>
    let amounts := (e.quantity.map fun x => measured x e.unit).toList ++ e.remarks
    if amounts.isEmpty then e.name else e.name ++ ": " ++ " + ".intercalate amounts
  | .parent e =>
    let parts := e.parts.map fun p => p.name ++ " " ++ measured p.quantity p.unit
    e.name ++ ": " ++ displayNumber e.quantity ++ " (" ++ ", ".intercalate parts ++ ")"
  | .alternative options => " | ".intercalate (options.filterMap Usage.purchase?)

/-- Print the shopping list of a document. -/
def shoppingFile (fs : FileSystem m) (settings : Option Path) (file : Path) : m Report :=
  withProject fs settings fun _ o => withCompilation fs o file fun c =>
    return .lines (c.shopping.map fun item => "- " ++ item.line)

/-! ## A folder of documents -/

/-- The extensions of the documents in a folder. -/
def documentExtensions : List String := ["json", "yaml", "yml"]

/-- Whether a file is taken for a document: by its extension, in this very case, and unless it is
    a file of settings. -/
def Path.isDocument (p : Path) : Bool :=
  p.extension?.any documentExtensions.contains && p.fileName? != some Settings.fileName

/-- The path of a file below a folder. -/
def Path.below (folder : Path) (way : Location) : Path :=
  way.foldl (fun p name => p.join ⟨name⟩) folder

/-- Whether the way from a folder to a file below it meets a path. -/
def Path.meets (folder file met : Path) : Bool :=
  folder.parts.length ≤ met.parts.length && met.parts.isPrefixOf file.parts

/-- The documents in a folder, in order, without those on a way that meets the output folder. -/
def findDocuments (fs : FileSystem m) (folder output : Path) : m (List Path) := do
  let ways := (← fs.filesBelow folder).mergeSort Location.isUpTo
  return (ways.map folder.below).filter fun file =>
    file.isDocument && !folder.meets file output

/-- The file in the output folder that a document is compiled to. -/
def outputFile (output document : Path) : Path :=
  output.join ⟨document.stem?.getD "recipe" ++ ".json"⟩

/-- Compile documents into a folder, and tell which of them failed, or which file could not be
    written, which ends the work. -/
def compileAll (fs : FileSystem m) (o : CompileOptions) (pretty : Bool) (output : Path) :
    List Path → m (Except Path (List Path))
  | [] => return .ok []
  | document :: rest => do
    match ← Compilation.load fs o document with
    | .error _ => return (← compileAll fs o pretty output rest).map (document :: ·)
    | .ok c =>
      let target := outputFile output document
      if ← fs.write target (c.text pretty ++ "\n") then compileAll fs o pretty output rest
      else return .error target

/-- Compile the documents in a folder. -/
def compileFolder (fs : FileSystem m) (settings : Option Path) (folder : Path)
    (output : Option Path) : m Report :=
  withProject fs settings fun s o => do
    let output := output.getD (folder.join ⟨"compiled"⟩)
    let documents ← findDocuments fs folder output
    if documents.isEmpty then return .failed (.noDocuments folder)
    if !(← fs.createFolders output) then return .failed (.folderRefused output)
    match ← compileAll fs o s.pretty output documents with
    | .error target => return .failed (.fileRefused target)
    | .ok [] =>
      return .lines
        ["Compiled " ++ toString documents.length ++ " documents into " ++ output.text]
    | .ok failed => return .failed (.documents failed)

/-- Run a command on the settings that are named, or on those in the working folder. -/
def Command.run (fs : FileSystem m) (settings : Option Path) : Command → m Report
  | .compile file output compact => compileFile fs settings file output compact
  | .check file strict => checkFile fs settings file strict
  | .shopping file => shoppingFile fs settings file
  | .batch folder output => compileFolder fs settings folder output

end Mise
