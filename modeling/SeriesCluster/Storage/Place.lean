import SeriesCluster.Error
import SeriesCluster.SortedMap

/-!
Files of a directory, and what is done to them. Effects are data, so what a crash can leave behind
is told from the effects of an operation: a prefix of what it writes, and a renaming done or not.
-/

namespace SeriesCluster

abbrev Files := SortedMap String (Array UInt8)

inductive FileEffect
  | write (name : String) (bytes : List UInt8)
  | append (name : String) (bytes : List UInt8)
  | rename (source target : String)
  deriving DecidableEq, Repr

namespace FileEffect

def contentOf (files : Files) (name : String) : Array UInt8 :=
  (files.find? name).getD #[]

def bytesIn (files : Files) (name : String) : Option (List UInt8) :=
  (files.find? name).map (·.toList)

/-- The files after an effect. Writing replaces a file, appending creates one that is not there, and
renaming replaces the file at its target. -/
def on (files : Files) : FileEffect → Files
  | write name bytes => files.insert name bytes.toArray
  | append name bytes => files.insert name (contentOf files name ++ bytes.toArray)
  | rename source target =>
    match files.find? source with
    | some bytes => (files.erase source).insert target bytes
    | none => files

def all (files : Files) (effects : List FileEffect) : Files := effects.foldl on files

def replace (name temporary : String) (bytes : List UInt8) : List FileEffect :=
  [write temporary bytes, rename temporary name]

theorem bytesIn_on_write (files : Files) (name k : String) (bytes : List UInt8) :
    bytesIn ((write name bytes).on files) k = if k = name then some bytes else bytesIn files k := by
  unfold bytesIn on
  rw [SortedMap.find?_insert]
  split <;> rfl

theorem bytesIn_on_append (files : Files) (name k : String) (bytes : List UInt8) :
    bytesIn ((append name bytes).on files) k =
      if k = name then some ((bytesIn files name).getD [] ++ bytes) else bytesIn files k := by
  unfold bytesIn on contentOf
  rw [SortedMap.find?_insert]
  split
  · cases files.find? name <;> simp
  · rfl

theorem bytesIn_on_rename {files : Files} {source target : String} {bytes : List UInt8}
    (h : bytesIn files source = some bytes) (k : String) :
    bytesIn ((rename source target).on files) k =
      if k = target then some bytes else if k = source then none else bytesIn files k := by
  obtain ⟨found, there, rfl⟩ := Option.map_eq_some_iff.mp h
  simp only [on, bytesIn, there, SortedMap.find?_insert, SortedMap.find?_erase]
  split
  · rfl
  · split <;> rfl

theorem bytesIn_replace (files : Files) (name temporary k : String) (bytes : List UInt8) :
    bytesIn (all files (replace name temporary bytes)) k =
      if k = name then some bytes else if k = temporary then none else bytesIn files k := by
  have written : bytesIn ((write temporary bytes).on files) temporary = some bytes := by
    simp [bytesIn_on_write]
  simp only [all, replace, List.foldl_cons, List.foldl_nil, bytesIn_on_rename written,
    bytesIn_on_write]
  split
  · rfl
  · split <;> rfl

def cut (k : Nat) (files : Files) : FileEffect → Files
  | write name bytes => files.insert name (bytes.take k).toArray
  | append name bytes => files.insert name (contentOf files name ++ (bytes.take k).toArray)
  | rename .. => files

def chop (files : Files) (name : String) (n : Nat) : Files :=
  let bytes := contentOf files name
  files.insert name (bytes.extract 0 (bytes.size - n))

inductive Interrupted : List FileEffect → Files → Files → Prop
  | untouched {effects : List FileEffect} {files : Files} : Interrupted effects files files
  | cut {e : FileEffect} {effects : List FileEffect} {files : Files} (k : Nat) :
    Interrupted (e :: effects) files (e.cut k files)
  | later {e : FileEffect} {effects : List FileEffect} {files found : Files}
    (rest : Interrupted effects (e.on files) found) : Interrupted (e :: effects) files found

end FileEffect

/-- Where files are kept: nowhere, or in a directory, which may have gone, or which may not let its
files be changed at the moment. -/
inductive Place
  | nowhere
  | missing
  | directory (files : Files)
  | stuck (kind : IoKind) (files : Files)
  deriving DecidableEq, Repr

namespace Place

def file? : Place → String → Option (List UInt8)
  | directory files, name | stuck _ files, name => FileEffect.bytesIn files name
  | _, _ => none

def created : Place → Place
  | missing => directory ∅
  | place => place

def removed : Place → Place
  | nowhere => nowhere
  | _ => missing

def ofFiles (files : List (String × List UInt8)) : Place :=
  directory (.ofList (files.map fun (name, bytes) => (name, bytes.toArray)))

def edited (f : Files → Files) : Place → Place
  | directory files => directory (f files)
  | stuck kind files => stuck kind (f files)
  | place => place

/-- Carries out effects. They change nothing where no files are kept, and fail as a whole in a
directory that has gone or is stuck. -/
def run (place : Place) (effects : List FileEffect) : Except IoKind Place :=
  match place with
  | nowhere => .ok nowhere
  | missing => .error .notFound
  | directory files => .ok (directory (FileEffect.all files effects))
  | stuck kind _ => .error kind

end Place

end SeriesCluster
