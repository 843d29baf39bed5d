import ConnectorLifecycle.Failure

/-!
# Files

What is read from a directory is a list of files: names with what stands under them, which is
bytes, another directory or something that cannot be read. Only bytes that are UTF-8 are a text.
`LoadFailure` says why nothing could be loaded.
-/

namespace ConnectorLifecycle

/-- What stands under a name in a directory. -/
inductive FileContent where
  /-- The bytes of a file. -/
  | bytes (bytes : ByteArray)
  /-- Another directory. -/
  | directory
  /-- A file that cannot be read. -/
  | unreadable

/-- An entry of a directory. -/
structure File where
  /-- Its name. -/
  name : String
  /-- What stands under the name. -/
  content : FileContent

/-- The text of a file, if it is a file that holds a text. -/
def FileContent.text? : FileContent → Option String
  | bytes b => String.fromUTF8? b
  | directory | unreadable => none

/-- The path of a name in a directory. A separator is put between the two, unless the path of the
directory is empty or ends in one. -/
def pathIn (directory name : String) : String :=
  match directory.toList.getLast? with
  | none | some '/' => directory ++ name
  | some _ => directory ++ "/" ++ name

/-- Why nothing was loaded. -/
inductive LoadFailure where
  /-- The directory cannot be listed. -/
  | unlistable (directory : String)
  /-- The file is missing or holds no text. -/
  | unreadable (path : String)
  /-- The text cannot be decoded. -/
  | undecodable (path : String)
  /-- A binding of the file has no valid address. -/
  | invalidBinding (path : String) (cause : BindingFailure)
  deriving DecidableEq, Repr

namespace LoadFailure

/-- The message of a failure. -/
def message : LoadFailure → String
  | unlistable directory => s!"failed to read config directory: {directory}"
  | unreadable path => s!"reading {path}"
  | undecodable path => s!"parsing {path}"
  | invalidBinding path _ => s!"invalid binding in {path}"

/-- The binding that a failure is about. -/
def binding? : LoadFailure → Option BindingFailure
  | invalidBinding _ cause => some cause
  | _ => none

end LoadFailure

end ConnectorLifecycle
