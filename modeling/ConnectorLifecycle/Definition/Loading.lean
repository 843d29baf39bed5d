import ConnectorLifecycle.File
import ConnectorLifecycle.Notice
import ConnectorLifecycle.Text.ByteOrder
import ConnectorLifecycle.Yaml.Settings

/-!
# Loading definitions

Each file of a directory whose name ends in `.yaml` or `.yml` may hold one definition. Files are
taken in the order of the bytes of their names, whatever the order of the listing. A file without a
definition is reported and skipped; a definition without a name is named like its file.
-/

namespace ConnectorLifecycle

/-- The parts of a file name before and after its last point. -/
def splitAtLastPoint : List Char → Option (List Char × List Char)
  | [] => none
  | c :: rest =>
    match splitAtLastPoint rest with
    | some (before, after) => some (c :: before, after)
    | none => if c = '.' then some ([], rest) else none

namespace File

/-- The extension of a file's name; a point at the front begins none. -/
def extension? (file : File) : Option String :=
  match splitAtLastPoint file.name.toList with
  | some (_ :: _, after) => some (String.ofList after)
  | _ => none

/-- A file's name without its extension. -/
def stem (file : File) : String :=
  match splitAtLastPoint file.name.toList with
  | some (c :: before, _) => String.ofList (c :: before)
  | _ => file.name

/-- A file that a definition is read from. -/
def mayDefine (file : File) : Bool :=
  file.extension? = some "yaml" || file.extension? = some "yml"

end File

namespace Definition

/-- A definition that has a name, if need be the one given. -/
def withNameOr (definition : Definition) (name : String) : Definition :=
  { definition with
    settings :=
      { definition.settings with name := definition.settings.name.or (some name) } }

/-- The definition of a file in a directory, or the report that there is none. -/
def ofFile (directory : String) (file : File) : Except Notice Definition :=
  let path := pathIn directory file.name
  match file.content.text? with
  | none => .error (.skippedUnreadable path)
  | some text =>
    match ofYaml? text with
    | none => .error (.skippedUndecodable path)
    | some definition => .ok (definition.withNameOr file.stem)

/-- What was loaded from a directory. -/
structure Loaded where
  /-- The definitions in the order of their files. -/
  definitions : List Definition
  /-- The reports of files that no definition is read from. -/
  passedOver : List Notice := []
  /-- The reports of files that hold no definition. -/
  skipped : List Notice
  deriving DecidableEq

/-- All reports, those of files that no definition is read from first. -/
def Loaded.notices (loaded : Loaded) : List Notice := loaded.passedOver ++ loaded.skipped

/-- The definitions of files that are in order. -/
def ofFiles (directory : String) : List File → Loaded
  | [] => { definitions := [], skipped := [] }
  | file :: rest =>
    let loaded := ofFiles directory rest
    match ofFile directory file with
    | .ok definition => { loaded with definitions := definition :: loaded.definitions }
    | .error notice => { loaded with skipped := notice :: loaded.skipped }

/-- The definitions of a directory, whose listing may be missing. Files that no definition is read
from are reported in the order of their names here; a directory reports them while it is listed, in
the order of the listing, which is any. An entry that cannot be listed is no file of the listing, so
the report of it is left out. -/
def loadAll (directory : String) (listing : Option (List File)) : Except LoadFailure Loaded :=
  match listing with
  | none => .error (.unlistable directory)
  | some files =>
    let ordered := orderByText File.name files
    let others := ordered.filter fun file => !file.mayDefine
    .ok
      { ofFiles directory (ordered.filter File.mayDefine) with
        passedOver := others.map fun file => .skippedOther (pathIn directory file.name) }

end Definition

end ConnectorLifecycle
