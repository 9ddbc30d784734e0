import FeatureToggles.Catalog.Document
import FeatureToggles.Engine
import FeatureToggles.Settings
import FeatureToggles.Text.Newline
import FeatureToggles.Text.Split

/-!
# Catalog files

A catalog may be kept in a file, which is read anew each time the catalog is fetched.  A file that
cannot be opened is a fault of the catalog, and so is a document that is refused.  Bytes that are not
a text in the encoding of the file, and encodings that are not known, are faults of their own, and so are
paths and names of encodings that no file can have, since they hold the character that ends names.

Besides the encodings that are read here there may be others: those of several bytes a character, and
whatever else is registered under a name.  A file comes with their readers.

Main statements: a path at which nothing stands is reported before the encoding is looked at
(`read_absent`), and a fetch that succeeds logs how many features it loaded (`fetch_ok`).
-/

namespace FeatureToggles

/-- What stands at a path. -/
inductive FileState where
  | absent
  /-- A file that may not be read. -/
  | denied
  | directory
  | content (bytes : List UInt8)
deriving DecidableEq

/-- A catalog file: its path, the name of its encoding, and the readers of further encodings. -/
structure CatalogFile where
  path : String
  encoding : String
  readers : String → Option (List UInt8 → Except Text.DecodeError (List Char))

namespace CatalogFile

/-- A path in its plain spelling, without components that lead nowhere. -/
def plainPath (path : String) : String :=
  let cs := path.toList
  let parts := (Text.split '/' cs).filter fun part => part ≠ [] ∧ part ≠ ['.']
  let root := match cs with
    | ['/', '/'] => "//"
    | '/' :: '/' :: c :: _ => if c = '/' then "/" else "//"
    | '/' :: _ => "/"
    | _ => ""
  let plain := root ++ "/".intercalate (parts.map String.ofList)
  if plain.isEmpty then "." else plain

/-- The encoding of files that name none. -/
def defaultEncoding : String := "utf-8"

/-- The catalog file at a path, where no further encodings are known. -/
def ofPath (path : String) (encoding : String) : CatalogFile :=
  ⟨plainPath path, encoding, fun _ => none⟩

/-- The character that ends names. -/
def endOfName : Char := '\x00'

/-- What keeps a file from being looked for at all, if anything does. -/
def misnamed? (file : CatalogFile) : Option Fault :=
  if file.encoding.toList.contains endOfName then some (.other .value "embedded null character")
  else if file.path.toList.contains endOfName then some (.other .value "embedded null byte")
  else none

/-- Why a file cannot be opened. -/
structure OpenError where
  kind : ErrorClass
  text : String

/-- The fault of a file that cannot be opened. -/
def OpenError.fault (e : OpenError) : Fault := .other e.kind e.text

/-- The error of a file that cannot be opened. -/
def unopened (kind : ErrorClass) (number : Nat) (words path : String) : OpenError :=
  ⟨kind, "[Errno " ++ toString number ++ "] " ++ words ++ ": " ++ Text.quote path⟩

/-- What is wrong with a name that is no encoding's. -/
def noEncoding (name : String) : String :=
  if Text.Encoding.isTransform name then
    "'" ++ name ++ "' is not a text encoding; use codecs.open() to handle arbitrary codecs"
  else "unknown encoding: " ++ name

/-- The reader of the encoding, if it is known. -/
def reader? (file : CatalogFile) : Option (List UInt8 → Except Text.DecodeError (List Char)) :=
  match Text.Encoding.ofName? file.encoding with
  | some encoding => some (Text.decode encoding .refuse)
  | none => file.readers file.encoding

/-- The text that some bytes are in the file, with its line ends made one. -/
def decode (file : CatalogFile) (bs : List UInt8) : Except Fault (List Char) :=
  match file.misnamed?, file.reader? with
  | some fault, _ => .error fault
  | none, none => .error (.other .lookup (noEncoding file.encoding))
  | none, some reader =>
    match reader bs with
    | .error e => .error (.ofDecodeError e)
    | .ok cs => .ok (Text.unifyNewlines cs)

/-- The bytes at a path. -/
def read (path : String) : FileState → Except OpenError (List UInt8)
  | .absent => .error (unopened .notFound 2 "No such file or directory" path)
  | .denied => .error (unopened .permission 13 "Permission denied" path)
  | .directory => .error (unopened .isDirectory 21 "Is a directory" path)
  | .content bs => .ok bs

/-- The catalog that some bytes hold. -/
def parse (file : CatalogFile) (bs : List UInt8) : Except Fault Catalog :=
  match file.decode bs with
  | .error fault => .error fault
  | .ok cs => Catalog.ofText file.path cs

/-- Fetches the catalog, given what stands at its path. -/
def fetch (file : CatalogFile) (state : FileState) : Fetched :=
  match file.misnamed?, read file.path state with
  | some fault, _ => ⟨.error fault, []⟩
  | none, .error e =>
    ⟨.error (Catalog.fault file.path ("Cannot read feature catalog: " ++ e.text) [] (some e.fault)),
      [.catalogUnreadable file.path e.text]⟩
  | none, .ok bs =>
    match file.parse bs with
    | .error fault => ⟨.error fault, []⟩
    | .ok catalog => ⟨.ok catalog, [.catalogLoaded file.path catalog.length]⟩

theorem read_absent (path : String) :
    read path .absent = .error (unopened .notFound 2 "No such file or directory" path) := rfl

theorem fetch_ok {file : CatalogFile} {bs : List UInt8} {catalog : Catalog}
    (h : file.parse bs = .ok catalog) :
    file.fetch (.content bs) = ⟨.ok catalog, [.catalogLoaded file.path catalog.length]⟩ := by
  have hnamed : file.misnamed? = none := by
    cases hmisnamed : file.misnamed? with
    | none => rfl
    | some fault => simp [parse, decode, hmisnamed] at h
  simp [fetch, read, hnamed, h]

end CatalogFile

/-! ## Sources -/

/-- Where a catalog comes from. -/
inductive CatalogSource where
  | memory (catalog : Catalog)
  | file (f : CatalogFile)

namespace CatalogSource

/-- How the service names a source. -/
def describe : CatalogSource → String
  | .memory _ => "InMemoryFeatureProvider"
  | .file f => "JsonFileFeatureProvider(" ++ f.path ++ ")"

/-- The source that settings name: the file at their path, or else a catalog without features. -/
def ofSettings (s : Settings) : CatalogSource :=
  match s.catalogPath with
  | some path =>
    if path.isEmpty then .memory []
    else .file (CatalogFile.ofPath path CatalogFile.defaultEncoding)
  | none => .memory []

/-- Fetches the catalog, given what stands at the path of its file. -/
def fetch (source : CatalogSource) (state : FileState) : Fetched :=
  match source with
  | .memory catalog => ⟨.ok catalog, []⟩
  | .file f => f.fetch state

end CatalogSource

end FeatureToggles
