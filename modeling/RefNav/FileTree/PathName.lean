import RefNav.Text.Lines

/-! # Path names

A path name is written with slashes.  Empty parts and single dots say nothing
and are left out; double dots are kept until the name is resolved.  A name that
starts with a slash is absolute; exactly two slashes in front are kept apart
from one.
-/

namespace RefNav

open RefNav.Text

/-- A path name. -/
structure PathName where
  /-- The slashes in front: none, one or two. -/
  root : String
  parts : List String
deriving Repr, DecidableEq

/-- A place in the file tree: the names of the directories that lead to it from
the top, and its own name. -/
abbrev Place := List String

namespace PathName

/-- The pieces of a text between slashes. -/
def pieces (s : String) : List String :=
  (splitAtChar '/' s.toList).map String.ofList

/-- The slashes in front of a path name. -/
def rootOf (s : String) : String :=
  let slashes := (s.toList.takeWhile (· = '/')).length
  if slashes = 0 then "" else if slashes = 2 then "//" else "/"

/-- Read a path name. -/
def ofString (s : String) : PathName :=
  { root := rootOf s, parts := (pieces s).filter fun p => p ≠ "" && p ≠ "." }

/-- Write a path name; the empty one is a single dot. -/
def toString (p : PathName) : String :=
  if p.root = "" && p.parts.isEmpty then "." else p.root ++ "/".intercalate p.parts

/-- Does the name start at the top of the tree? -/
def isAbsolute (p : PathName) : Bool :=
  p.root ≠ ""

/-- The last part of a name; empty if there is none. -/
def name (p : PathName) : String :=
  p.parts.getLast?.getD ""

/-- The name without its last part. -/
def parent (p : PathName) : PathName :=
  { p with parts := p.parts.dropLast }

/-- Continue a name with further parts. -/
def join (p : PathName) (parts : List String) : PathName :=
  { p with parts := p.parts ++ parts }

/-- Continue a name with another one; an absolute one replaces it. -/
def append (p q : PathName) : PathName :=
  if q.isAbsolute then q else p.join q.parts

/-- Follow parts from a place without looking at the tree. -/
def follow (start : Place) (parts : List String) : Place :=
  parts.foldl (fun here part => if part = ".." then here.dropLast else here ++ [part]) start

/-- The place that a name means, seen from a directory. -/
def resolve (here : Place) (p : PathName) : Place :=
  follow (if p.isAbsolute then [] else here) p.parts

/-- The absolute name of a place. -/
def ofPlace (place : Place) : PathName :=
  { root := "/", parts := place }

/-- A file name split before its last dot, unless the dot is its first or last
character. -/
def splitSuffix (name : String) : String × String :=
  let cs := name.toList
  let suffix := (cs.reverse.takeWhile (· ≠ '.')).reverse
  let stem := cs.take (cs.length - suffix.length - 1)
  if cs.contains '.' && !stem.isEmpty && !suffix.isEmpty then
    (String.ofList stem, String.ofList ('.' :: suffix))
  else (name, "")

/-- The last part without its suffix. -/
def stem (p : PathName) : String :=
  (splitSuffix p.name).1

end PathName

/-- The absolute text of a place. -/
def Place.toString (place : Place) : String :=
  (PathName.ofPlace place).toString

end RefNav
