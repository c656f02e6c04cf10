import TestAmplification.Files.Disk
import TestAmplification.Json.Record

/-!
# Files as JSON documents

A file is written as its text or, when it holds no text, as an object with its
bytes in hexadecimal. A tree is an object that maps the path of every directory,
with a slash at its end, to `null` and the path of every file to the file. A
document may also give the moment of the last change of a file, in seconds. These
documents describe a disk from outside: nothing that works on a disk reads or writes
them.
-/

set_option autoImplicit false

namespace TestAmplification

open Json (ofText ofMembers)

namespace Files

/-- The bytes that hexadecimal digits denote. -/
def bytesOfHex : List Char → Text.Bytes
  | high :: low :: rest => UInt8.ofNat (Text.hexValue [high, low]) :: bytesOfHex rest
  | _ => []

/-- The hexadecimal digits of bytes. -/
def hexOfBytes (bytes : Text.Bytes) : List Char :=
  bytes.flatMap fun byte => (Text.fourHexDigits byte.toNat).drop 2

/-- Reads the bytes of a file. -/
def bytes? (value : Json) : Option Text.Bytes :=
  match value with
  | .string _ => value.text?.map Text.encode
  | _ => (value.required? "hex" Json.text?).map fun digits => bytesOfHex digits.toList

/-- The document of the bytes of a file. -/
def bytesJson (bytes : Text.Bytes) : Json :=
  match Text.decode? bytes with
  | some text => ofText text
  | none => ofMembers [("hex", ofText (String.ofList (hexOfBytes bytes)))]

end Files

namespace Disk

/-- The document of everything below the working directory. -/
def toJson (disk : Disk) : Json :=
  ofMembers (disk.listing.filterMap fun (way, node) =>
    let path := "/".intercalate way
    match node with
    | .directory => some (path ++ "/", .null)
    | .file bytes _ => some (path, Files.bytesJson bytes.data.toList)
    | .link _ | .pipe => none)

/-- Puts what a document describes at a path. The answer says whether the
document could be read. -/
def putDocument (path : Path) (content : Json) : StateM Disk Bool := do
  match content with
  | .null =>
      let _ ← makeDirectories path
      return true
  | content =>
      match Files.bytes? ((content.member? "text").getD content) with
      | none => return false
      | some bytes =>
          let _ ← writeInDirectory path bytes
          if let some seconds := (content.member? "mtime").bind Json.nat? then
            setLastChange path ((seconds : Int) * 1000000000)
          return true

/-- Puts the files of a document on a disk. -/
def withDocuments? (disk : Disk) : List (Path × Json) → Option Disk
  | [] => some disk
  | (path, content) :: rest =>
      match putDocument path content disk with
      | (true, disk) => withDocuments? disk rest
      | (false, _) => none

end Disk

end TestAmplification
