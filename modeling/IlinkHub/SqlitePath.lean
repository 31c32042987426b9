/-
The file of a SQLite database (`store/mod.rs`, `store/instance_guard.rs`): the path
that the Hub reads off the URL to create and to lock the file, and the path that the
driver opens.
-/
import IlinkHub.Text

namespace IlinkHub

open Text

/-- No file for a database in memory. -/
def fileOf (path : String) : Option String :=
  if path = "" ∨ path = ":memory:" then none else some path

def sqliteFilePath (url : String) : Option String :=
  let pathPart := ((stripPrefix "sqlite:///" url).or ((stripPrefix "sqlite://" url).or
    (stripPrefix "sqlite:" url))).getD ""
  -- `split('?').next()` is the text in front of the first question mark.
  fileOf (trim (cutAt (· == '?') pathPart).1)

/-- The path that the driver goes by: without `sqlite://`, or else `sqlite:`, and
without the query. -/
def sqlxPath (url : String) : String :=
  (cutAt (· == '?') (((stripPrefix "sqlite://" url).or (stripPrefix "sqlite:" url)).getD "")).1

/-- `ensure_sqlite_file`, when it can write: the files that there are afterwards. -/
def ensureSqliteFile (files : List String) (url : String) : List String :=
  match sqliteFilePath url with
  | none => files
  | some path => if path ∈ files then files else path :: files

/-- The file that `acquire_sqlite` locks. -/
def acquireSqlite (canonicalize : String → String) (url : String) : Option String :=
  (sqliteFilePath url).map fun path => canonicalize path ++ ".lock"

/-- The Hub reads the path of the driver off the URL, so the file that is opened has
been created and is the one that the lock is for. -/
structure GuardsOpened (url : String) : Prop where
  path : sqliteFilePath url = fileOf (sqlxPath url)
  created : ∀ files opened, fileOf (sqlxPath url) = some opened →
    opened ∈ ensureSqliteFile files url
  locked : ∀ canonicalize, acquireSqlite canonicalize url =
    (fileOf (sqlxPath url)).map fun opened => canonicalize opened ++ ".lock"

variable {url : String}

lemma guardsOpened_of_path (hpath : sqliteFilePath url = fileOf (sqlxPath url)) :
    GuardsOpened url where
  path := hpath
  created := by
    intro files opened hopened
    have hfile : sqliteFilePath url = some opened := hpath.trans hopened
    unfold ensureSqliteFile
    split
    · next hnone =>
      rw [hfile] at hnone
      cases hnone
    · next path hsome =>
      obtain rfl : path = opened := Option.some.inj (hsome.symm.trans hfile)
      split
      · next hmem => exact hmem
      · exact List.mem_cons_self
  locked := fun canonicalize => by rw [acquireSqlite, hpath]

lemma sqlxPath_slashes (rest : String) :
    sqlxPath ("sqlite:///" ++ rest) = "/" ++ (cutAt (· == '?') rest).1 := by
  have hprefix : stripPrefix "sqlite://" ("sqlite:///" ++ rest) = some ("/" ++ rest) := by
    rw [stripPrefix_eq_some_iff]
    rfl
  rw [sqlxPath, hprefix, Option.some_or]
  simp [cutAt]

lemma sqliteFilePath_slashes (rest : String) :
    sqliteFilePath ("sqlite:///" ++ rest) = fileOf (trim (cutAt (· == '?') rest).1) := by
  have hprefix : stripPrefix "sqlite:///" ("sqlite:///" ++ rest) = some rest :=
    stripPrefix_eq_some_iff.mpr rfl
  rw [sqliteFilePath, hprefix, Option.some_or, Option.getD_some]

/-- What the Hub takes for the path is shorter by the slash at least. -/
lemma fileOf_trim_ne (path : String) : fileOf (trim path) ≠ fileOf ("/" ++ path) := by
  have hslash : fileOf ("/" ++ path) = some ("/" ++ path) := by
    refine if_neg ?_
    rintro (hempty | hmemory)
    · simpa using congrArg String.toList hempty
    · have hlist := congrArg String.toList hmemory
      simp [String.toList_append] at hlist
  intro heq
  have hpath : trim path = "/" ++ path := by
    unfold fileOf at heq
    split at heq
    · cases heq
    · exact Option.some.inj heq
  have hlength := length_trim_le path
  rw [hpath, String.toList_append] at hlength
  exact absurd hlength (by simp)

end IlinkHub
