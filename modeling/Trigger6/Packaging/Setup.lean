/-
This file models the manifest of the installed files: how `manifest.collect`
makes it from a tree of files, and how `setup.verify` checks a tree against it.

Paths are texts in the manifest and places in the tree. The checks are made on
the texts, so that a text with repeated slashes or dots is another name for the
same place. Python's codec, its floats and SHA-256 are parameters.
-/

import Trigger6.Controller.Ledger
import Trigger6.Lib.FileTree

namespace Trigger6.Packaging

open Controller FileTree

/-! ### Constants -/

def package : String := "jcd543-trigger6-dkms"

/-- `MANIFEST`. -/
def manifest : String := "usr/share/jcd543-trigger6/files.json"

def allowedPrefixes : List String := [
  "usr/src/jcd543-trigger6-0.1.0/", "usr/lib/jcd543-trigger6/",
  "usr/share/doc/jcd543-trigger6/", "usr/share/licenses/jcd543-trigger6-dkms/"]

def allowedFiles : List String := [
  "usr/bin/jcd543-trigger6", "usr/bin/jcd543-trigger6-setup",
  "usr/lib/systemd/system/jcd543-trigger6.service",
  "usr/lib/systemd/system-sleep/jcd543-trigger6",
  "etc/modprobe.d/jcd543-trigger6.conf"]

/-- The files a manifest must list. -/
def required : List String :=
  allowedFiles ++ ["usr/lib/jcd543-trigger6/controller.py", "usr/lib/jcd543-trigger6/setup.py",
    "usr/src/jcd543-trigger6-0.1.0/dkms.conf"]

/-- What the code takes from Python: how a text file is decoded, how numbers are read, and the
digest of a file in hexadecimal. -/
structure Python where
  floats : Floats
  decode : List UInt8 → Option (List Char)
  sha256 : List UInt8 → String

/-! ### Paths -/

/-- A component a path keeps: neither empty nor a single dot. -/
def keptComponent (component : List Char) : Path :=
  if component = [] ∨ component = ['.'] then [] else [component]

/-- The components behind what was read of the first one. -/
def componentsFrom (read : List Char) : List Char → Path
  | [] => keptComponent read
  | '/' :: rest => keptComponent read ++ componentsFrom [] rest
  | symbol :: rest => componentsFrom (read ++ [symbol]) rest

/-- `Path(name).parts`, of a relative name. -/
def components (name : String) : Path := componentsFrom [] name.toList

/-- `re.fullmatch(r"[A-Za-z0-9_./+-]+", name)`. -/
def plainName (name : String) : Bool :=
  name.toList != [] && name.toList.all fun symbol =>
    ('A' ≤ symbol && symbol ≤ 'Z') || ('a' ≤ symbol && symbol ≤ 'z') || symbol.isDigit ||
      ['_', '.', '/', '+', '-'].contains symbol

/-- `name.startswith(...)`. -/
def startsWith (front name : String) : Bool := front.toList.isPrefixOf name.toList

def safeRelative : PyValue → Except PyError String
  | .text name =>
    if name.toList = [] ∨ startsWith "/" name = true ∨ above ∈ components name ∨
        plainName name = false then
      throw (.refusal "invalid package manifest path")
    else if ¬ (allowedFiles.contains name = true ∨
        allowedPrefixes.any (fun front => startsWith front name) = true) then
      throw (.refusal "package manifest path outside owned scope")
    else return name
  | _ => throw (.refusal "invalid package manifest path")

/-! ### Trust -/

/-- `stat.S_ISREG`, of an entry. -/
def isRegular (entry : FileTree.Entry) : Bool :=
  match entry.kind with
  | .file _ => true
  | _ => false

/-- `path.is_file()`. -/
def isFile (tree : Tree) (path : Path) : Bool :=
  match stat tree path with
  | some entry => isRegular entry
  | none => false

/-- `path.read_bytes()`. -/
def readBytes (tree : Tree) (path : Path) : Except PyError (List UInt8) :=
  match stat tree path with
  | some ⟨.file bytes, _, _⟩ => return bytes
  | _ => throw (.osError "FileNotFoundError")

/-- A path and its parents, up to the root of the installation. -/
def pathAndParents (path root : Path) : List Path :=
  (List.range (path.length - root.length + 1)).map fun up => path.take (path.length - up)

/-- The body of the loop of `trusted`. -/
def trustedPart (tree : Tree) (owner : Nat) (part : Path) : Except PyError Unit :=
  match lstat tree part with
  | none => throw (.osError "FileNotFoundError")
  | some info =>
    if info.owner ≠ owner ∨ info.mode &&& 0o022 ≠ 0 ∨ info.isLink = true then
      throw (.refusal ("untrusted owner/mode/link: " ++ String.ofList (part.getLastD [])))
    else return ()

def trusted (tree : Tree) (path root : Path) (owner : Nat) : Except PyError Unit :=
  if ¬ root <+: path then throw (.refusal "path escaped installation root")
  else do
    (pathAndParents path root).forM (trustedPart tree owner)
    if isFile tree path = false then throw (.refusal "manifest item is not a regular file")

/-! ### Verification -/

/-- `value == number`. -/
def equalsNat : PyValue → Nat → Bool
  | .number (.int value), number => value == number
  | .number (.float value), number => value == number
  | .bool value, number => value.toNat == number
  | _, _ => false

/-- `item[key]`. -/
def memberOf (item : PyValue) (key : String) : Except PyError PyValue :=
  match item with
  | .object members =>
    match Json.lookup key members with
    | some value => return value
    | none => throw (.other "KeyError")
  | _ => throw (.other "TypeError")

/-- `path.stat().st_mode & 0o777`. -/
def permissions (tree : Tree) (path : Path) : Except PyError Nat :=
  match stat tree path with
  | some info => return info.mode &&& 0o777
  | none => throw (.osError "FileNotFoundError")

section Verify

variable (python : Python) (tree : Tree) (root : Path) (owner : Nat)

def changedFile (name : String) : PyError :=
  .refusal ("installed file changed; preserve and review: " ++ name)

/-- The body of the loop of `verify`; `seen` holds the names of the entries before. -/
def verifyItem (seen : List String) (item : PyValue) : Except PyError (List String) := do
  let name ← safeRelative (← memberOf item "path")
  if name ∈ seen then throw (.refusal "duplicate manifest entry")
  else do
    let path := root ++ components name
    trusted tree path root owner
    let mode ← permissions tree path
    if equalsNat (← memberOf item "mode") mode = false then throw (changedFile name)
    else do
      let digest := python.sha256 (← readBytes tree path)
      if equalsText (← memberOf item "sha256") (some digest) = false then throw (changedFile name)
      else return name :: seen

/-- `re.fullmatch(re.escape(VERSION) + r"-[1-9][0-9]{0,5}", release)`. -/
def releaseFormed (release : String) : Bool :=
  match release.toList with
  | '0' :: '.' :: '1' :: '.' :: '0' :: '-' :: first :: rest =>
    first != '0' && first.isDigit && rest.all Char.isDigit && rest.length ≤ 5
  | _ => false

/-- The checks of `verify` on the document. -/
def verifyDocument (release : String) : PyValue → Except PyError PyValue
  | .object members =>
    let member := fun key => (Json.lookup key members).getD .null
    match Json.lookup "files" members with
    | some (.array items) =>
      if equalsOne (member "schema") = false ∨ equalsText (member "package") (some package) = false ∨
          releaseFormed release = false ∨ equalsText (member "version") (some release) = false ∨
          ¬ (10 ≤ items.length ∧ items.length ≤ 64) then
        throw (.refusal "invalid installation manifest")
      else do
        let seen ← items.foldlM (verifyItem python tree root owner) []
        if required.all (fun name => seen.contains name) = false then
          throw (.refusal "incomplete installation manifest")
        else return .object members
    | _ => throw (.refusal "invalid installation manifest")
  | _ => throw (.other "AttributeError")

/-- `manifest_path`. -/
def manifestPath : Path := root ++ components manifest

/-- The document of the manifest. -/
def readManifest : Except PyError PyValue := do
  trusted tree (manifestPath root) root owner
  let bytes ← readBytes tree (manifestPath root)
  if 65536 < bytes.length then throw (.refusal "oversized installation manifest")
  else
    match python.decode bytes with
    | none => throw (.other "UnicodeDecodeError")
    | some text =>
      match python.floats.numbers.readValue text with
      | none => throw (.other "JSONDecodeError")
      | some document => return document

/-- `verify`; `release` is what the package record says. -/
def verify (release : Except PyError String) : Except PyError PyValue := do
  let document ← readManifest python tree root owner
  verifyDocument python tree root owner (← release) document

/-! ### Collection -/

/-- A relative path as a text. -/
def asPosix (path : Path) : String := String.ofList (List.intercalate ['/'] path)

/-- An entry of the manifest, its keys in order. -/
def manifestItem (path : Path) (bytes : List UInt8) (mode : Nat) : PyValue :=
  .object [("mode", .number (.int (mode &&& 0o777 : Nat))), ("path", .text (asPosix path)),
    ("sha256", .text (python.sha256 bytes))]

/-- The entry for one path, if it is a file other than the manifest. -/
def collectPath (path : Path) : Except PyError (List PyValue) :=
  let relative := path.drop root.length
  if (lstat tree path).any FileTree.Entry.isLink then
    throw (.other "package payload must not contain symlinks")
  else
    match stat tree path with
    | some ⟨.file bytes, mode, _⟩ =>
      if asPosix relative = manifest then return []
      else return [manifestItem python relative bytes mode]
    | _ => return []

/-- `re.fullmatch(r"[0-9]+(?:\.[0-9]+)*-[1-9][0-9]{0,5}", release)`. -/
def releaseExplicit (release : String) : Bool :=
  match release.toList.splitOn '-' with
  | [version, first :: rest] =>
    (version.splitOn '.').all (fun number => number != [] && number.all Char.isDigit) &&
      first != '0' && first.isDigit && rest.all Char.isDigit && rest.length ≤ 5
  | _ => false

/-- `collect`, of the paths that `root.rglob` finds, in order. -/
def collect (paths : List Path) (release : String) : Except PyError PyValue :=
  if releaseExplicit release = false then throw (.other "invalid explicit package release")
  else do
    let files ← paths.mapM (collectPath python tree root)
    return .object [("files", .array files.flatten), ("package", .text package),
      ("schema", .number (.int 1)), ("version", .text release)]

end Verify

end Trigger6.Packaging
