import StarMatch.Suite.Document

/-!
# Collections of test cases

A collection grows by loading documents. The drafts of a document get their names, are checked one
after another, and are kept only if all of them pass. A name that has been seen in the collection is
not allowed again, and names count as seen from the moment their draft passes, even if a later one
fails.
-/

namespace StarMatch.Suite

/-- Why a document is not loaded. -/
inductive LoadError where
  /-- The document cannot be read as a suite. -/
  | undecodable
  /-- A case contradicts itself. -/
  | invalid (fullName : String) (fault : CaseFault)
  /-- A name has been seen before. -/
  | duplicate (fullName : String)
  /-- There is no file at a path. -/
  | missingFile (path : String)
  /-- The name of a file is not UTF-8 where a group would be named after it. -/
  | unnamableGroup (path : String)
  /-- The document in a file is not loaded. -/
  | inFile (path : String) (cause : LoadError)
  deriving DecidableEq, Repr

/-- The messages shown to a user, the outermost first. -/
def LoadError.chain : LoadError → List String
  | undecodable => ["error decoding TOML"]
  | invalid fullName fault => ["error loading test '" ++ fullName ++ "'", fault.message]
  | duplicate fullName => ["found duplicate tests for name '" ++ fullName ++ "'"]
  | missingFile path => ["failed to read " ++ path, "No such file or directory (os error 2)"]
  | unnamableGroup path => ["invalid UTF-8 found in " ++ path]
  | inFile path cause => ("error loading " ++ path) :: cause.chain

/-- The cases kept, in the order of loading, and the full names seen, the latest in front. -/
structure Collection where
  cases : List Case := []
  seen : List String := []
  deriving Repr

/-- The name of a draft, and the number for the next draft without a name. Numbers have 32 bits and
wrap around. -/
def Draft.nameOr (d : Draft) (number : Int32) : String × Int32 :=
  if d.name.isEmpty then (toString number, number + 1) else (d.name, number)

/-- Checks drafts one after another, given the names seen and the number for the next draft without
a name: the names seen afterwards, and the cases or the first error. -/
def checkDrafts (group : String) :
    List String → Int32 → List Draft → List String × Except LoadError (List Case)
  | seen, _, [] => (seen, .ok [])
  | seen, number, d :: drafts =>
    let (name, number) := d.nameOr number
    let case := d.toCase group name
    match case.fault? with
    | some fault => (seen, .error (.invalid case.fullName fault))
    | none =>
      if seen.contains case.fullName then (seen, .error (.duplicate case.fullName))
      else
        let (seen, result) := checkDrafts group (case.fullName :: seen) number drafts
        (seen, result.map (case :: ·))

/-- A document in a file, which may be missing. The name of the file is given as bytes. -/
structure File where
  directory : String
  name : List UInt8
  document? : Option Document

namespace File

/-- The path, with a replacement character for every ill-formed piece of the name. -/
def path (f : File) : String :=
  f.directory ++ "/" ++ String.ofList (Text.Utf8.decodeLossy f.name)

/-- The name up to its last full stop, if that leaves anything. -/
def stem (f : File) : List UInt8 :=
  let before := (f.name.reverse.dropWhile (· != 0x2E)).drop 1
  if before.isEmpty then f.name else before.reverse

end File

/-- One load: a document for a named group, or a file. -/
inductive Load where
  | document (group : String) (document : Document)
  | file (file : File)

namespace Collection

/-- Loads the drafts of a document into a group. -/
def loadDrafts (c : Collection) (group : String) (drafts : List Draft) :
    Collection × Except LoadError Unit :=
  match checkDrafts group c.seen 1 drafts with
  | (seen, .error e) => ({ c with seen }, .error e)
  | (seen, .ok cases) => (⟨c.cases ++ cases, seen⟩, .ok ())

/-- Loads a document into a group. -/
def load (c : Collection) (group : String) (document : Document) :
    Collection × Except LoadError Unit :=
  match document.drafts? with
  | none => (c, .error .undecodable)
  | some drafts => c.loadDrafts group drafts

/-- Loads a file into the group named after it. -/
def loadFile (c : Collection) (f : File) : Collection × Except LoadError Unit :=
  match f.document? with
  | none => (c, .error (.missingFile f.path))
  | some document =>
    match Text.Utf8.decode? f.stem with
    | none => (c, .error (.unnamableGroup f.path))
    | some group =>
      let (c, result) := c.load (String.ofList group) document
      (c, result.mapError (.inFile f.path))

/-- Applies one load. -/
def apply (c : Collection) : Load → Collection × Except LoadError Unit
  | .document group document => c.load group document
  | .file f => c.loadFile f

/-- The collection after each of several loads, with its result. -/
def history (c : Collection) : List Load → List (Collection × Except LoadError Unit)
  | [] => []
  | l :: loads => c.apply l :: history (c.apply l).1 loads

/-- The collection after several loads. -/
def applyAll (c : Collection) (loads : List Load) : Collection :=
  loads.foldl (fun c l => (c.apply l).1) c

end Collection

end StarMatch.Suite
