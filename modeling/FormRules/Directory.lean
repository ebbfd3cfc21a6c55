/-
This file says what reading a file can come to, and models a directory by the files in it.
-/

import FormRules.Text.Pieces

namespace FormRules

/-- Why a file was not read as a text: the system refused it, or it is not in UTF-8. -/
inductive ReadError where
  | system (description : String) (code : Nat)
  | notUtf8
  deriving DecidableEq, Repr

namespace ReadError

def notFound : ReadError := .system "No such file or directory" 2

def notDirectory : ReadError := .system "Not a directory" 20

def isDirectory : ReadError := .system "Is a directory" 21

def nameTooLong : ReadError := .system "File name too long" 36

def message : ReadError → String
  | .system description code =>
      description ++ " (os error " ++ String.ofList (Nat.toDigits 10 code) ++ ")"
  | .notUtf8 => "stream did not contain valid UTF-8"

end ReadError

/-- What comes of reading a file. -/
abbrev Contents := Except ReadError ByteArray

/-- The text that a file holds. -/
def Contents.text (contents : Contents) : Except ReadError String := do
  let bytes ← contents
  match String.fromUTF8? bytes with
  | some text => return text
  | none => throw .notUtf8

/-- How the contents of files are found by their paths. -/
abbrev FileReader := String → Contents

/-- The files of the working directory by name. There are no directories in it. -/
structure Directory where
  files : List (String × ByteArray)

namespace Directory

/-- What a name in a directory stands for. -/
inductive Place where
  | directory (above : Nat)
  | file (contents : ByteArray)

/-- Follows one part of a path; `above` counts the directories between the place and the working one. -/
def follow (directory : Directory) (place : Place) (part : String) : Except ReadError Place :=
  if part.utf8ByteSize > 255 then .error .nameTooLong
  else
    match place with
    | .file _ => .error .notDirectory
    | .directory above =>
        if part = "" ∨ part = "." then .ok place
        else if part = ".." then .ok (.directory (above + 1))
        else if above = 0 then
          match directory.files.find? fun file => file.1 == part with
          | some file => .ok (.file file.2)
          | none => .error .notFound
        else .error .notFound

/-- Follows a path from the working directory. The empty path leads nowhere. -/
def resolve (directory : Directory) (path : String) : Except ReadError Place :=
  if path = "" then .error .notFound
  else if path.utf8ByteSize ≥ 4096 then .error .nameTooLong
  else
    let parts := (Text.pieces '/' path.toList).map String.ofList
    match parts with
    | "" :: outside =>
        if outside.all fun part => part == "" || part == "." || part == ".." then .ok (.directory 1)
        else .error .notFound
    | parts => parts.foldlM directory.follow (.directory 0)

/-- Reads the file that a path leads to. -/
def reader (directory : Directory) : FileReader := fun path =>
  match directory.resolve path with
  | .ok (.file contents) => .ok contents
  | .ok (.directory _) => .error .isDirectory
  | .error error => .error error

end Directory

end FormRules
