/-!
# Files

A tree of files by path. Directories are what stands in front of the slashes of the paths. A path is
looked up from the root of the tree, name by name. Of what lies outside of the tree, only the
directories above it and the null device can be found.
-/

namespace Lexigram

/-- A tree of files: their paths from the root, with their contents. -/
structure Files where
  entries : List (List String × ByteArray)

/-- Why a file cannot be read. -/
inductive ReadFailure where
  | missing
  | notDirectory
  | isDirectory
  | nameTooLong
  | invalidText
  deriving DecidableEq, Repr

/-- The wording of a failure to read a file. -/
def ReadFailure.message : ReadFailure → String
  | missing => "No such file or directory (os error 2)"
  | notDirectory => "Not a directory (os error 20)"
  | isDirectory => "Is a directory (os error 21)"
  | nameTooLong => "File name too long (os error 36)"
  | invalidText => "stream did not contain valid UTF-8"

/-- The text that some bytes encode. -/
def decodeText (bytes : ByteArray) : Except ReadFailure String :=
  match String.fromUTF8? bytes with
  | some s => .ok s
  | none => .error .invalidText

namespace Files

/-- The names of a path, without those that lead nowhere else. -/
def namesOf (path : String) : List String :=
  (path.splitOn "/").foldl (fun names name =>
    if name = "" || name = "." then names
    else if name = ".." then names.dropLast
    else names ++ [name]) []

/-- A tree of files from their paths as they are written. -/
def ofList (files : List (String × ByteArray)) : Files :=
  ⟨files.map fun (path, bytes) => (namesOf path, bytes)⟩

/-- What stands at a path of names. -/
inductive Entry where
  | file (bytes : ByteArray)
  | directory
  /-- The device that is empty when it is read. It does not count as a file. -/
  | nullDevice

/-- The entry at a path of names. -/
def entry? (fs : Files) (names : List String) : Option Entry :=
  match fs.entries.lookup names with
  | some bytes => some (.file bytes)
  | none =>
    if names.isEmpty || fs.entries.any fun e => names.isPrefixOf e.1 then some .directory else none

/-- The greatest byte length of a name. -/
def nameLimit : Nat := 255

/-- The greatest byte length of a path. -/
def pathLimit : Nat := 4095

/-- Where a name leads from a directory, and what stands there. The directories are those of the
tree by their paths, and `none` for all above its root. -/
def step? (fs : Files) (here : Option (List String)) (name : String) :
    Option (Option (List String) × Entry) :=
  match here with
  | none => if name = ".." then some (none, .directory) else none
  | some dir =>
    if name = ".." && dir.isEmpty then some (none, .directory)
    else
      let there := if name = ".." then dir.dropLast else dir ++ [name]
      (fs.entry? there).map (some there, ·)

/-- Follows names from an entry. -/
def follow (fs : Files) (here : Option (List String)) (entry : Entry) :
    List String → Except ReadFailure Entry
  | [] => .ok entry
  | name :: names =>
    match entry with
    | .file _ | .nullDevice => .error .notDirectory
    | .directory =>
      if name = "" || name = "." then follow fs here .directory names
      else if nameLimit < name.utf8ByteSize then .error .nameTooLong
      else
        match fs.step? here name with
        | none => .error .missing
        | some (there, entry) => follow fs there entry names

/-- The names that lead to the null device from the top. -/
def nullDeviceNames : List String := ["", "dev", "null"]

/-- The entry that a path leads to. A path that an entry has as it is written needs no following,
which is how a tree can hold files from outside. -/
def find (fs : Files) (path : String) : Except ReadFailure Entry :=
  let names := path.splitOn "/"
  match fs.entries.lookup names with
  | some bytes => .ok (.file bytes)
  | none =>
    if path.isEmpty then .error .missing
    else if pathLimit < path.utf8ByteSize then .error .nameTooLong
    else if names = nullDeviceNames then .ok .nullDevice
    else follow fs (if path.startsWith "/" then none else some []) .directory names

/-- Whether a path leads to a file. -/
def isFile (fs : Files) (path : String) : Bool :=
  match fs.find path with
  | .ok (.file _) => true
  | _ => false

/-- The text of the file that a path leads to. -/
def readText (fs : Files) (path : String) : Except ReadFailure String := do
  match ← fs.find path with
  | .file bytes => decodeText bytes
  | .nullDevice => .ok ""
  | .directory => .error .isDirectory

/-- The texts of all files and of the null device. -/
def texts (fs : Files) : List String :=
  "" :: fs.entries.filterMap fun e => String.fromUTF8? e.2

theorem mem_of_entry? {fs : Files} {names : List String} {bytes : ByteArray}
    (h : fs.entry? names = some (.file bytes)) : bytes ∈ fs.entries.map Prod.snd := by
  unfold entry? at h
  split at h
  · next hl =>
    cases h
    obtain ⟨_, _, he, -⟩ := List.lookup_eq_some_iff.1 hl
    simp [he]
  · split at h <;> simp at h

theorem mem_of_step? {fs : Files} {here there : Option (List String)} {name : String}
    {bytes : ByteArray} (h : fs.step? here name = some (there, .file bytes)) :
    bytes ∈ fs.entries.map Prod.snd := by
  unfold step? at h
  split at h
  · split at h <;> simp at h
  · split at h
    · simp at h
    · obtain ⟨_, he, hp⟩ := Option.map_eq_some_iff.1 h
      exact mem_of_entry? ((Prod.mk.inj hp).2 ▸ he)

theorem mem_of_follow {fs : Files} {here : Option (List String)} {entry : Entry}
    {names : List String} {bytes : ByteArray}
    (he : ∀ b, entry = .file b → b ∈ fs.entries.map Prod.snd)
    (h : fs.follow here entry names = .ok (.file bytes)) : bytes ∈ fs.entries.map Prod.snd := by
  fun_induction follow fs here entry names with
  | case1 => exact he _ (Except.ok.inj h)
  | case2 | case3 | case5 | case6 => simp at h
  | case4 _ _ _ _ ih => exact ih (by simp) h
  | case7 _ _ _ _ _ _ _ hstep ih =>
    exact ih (fun b hb => mem_of_step? (hb ▸ hstep)) h

theorem mem_of_find {fs : Files} {path : String} {bytes : ByteArray}
    (h : fs.find path = .ok (.file bytes)) : bytes ∈ fs.entries.map Prod.snd := by
  unfold find at h
  dsimp only at h
  split at h
  · next hl =>
    cases h
    obtain ⟨_, _, he, -⟩ := List.lookup_eq_some_iff.1 hl
    simp [he]
  · split at h
    · simp at h
    · split at h
      · simp at h
      · split at h
        · simp at h
        · exact mem_of_follow (by simp) h

theorem mem_texts {fs : Files} {path text : String} (h : fs.readText path = .ok text) :
    text ∈ fs.texts := by
  unfold readText at h
  cases hf : fs.find path with
  | error => rw [hf] at h; simp [bind, Except.bind] at h
  | ok entry =>
    rw [hf] at h
    cases entry with
    | directory => simp [bind, Except.bind] at h
    | nullDevice => exact Except.ok.inj h ▸ List.mem_cons_self
    | file bytes =>
      obtain ⟨e, he, rfl⟩ := List.mem_map.1 (mem_of_find hf)
      refine List.mem_cons_of_mem _ (List.mem_filterMap.2 ⟨e, he, ?_⟩)
      simp only [bind, Except.bind, decodeText] at h
      split at h
      · next hs => rw [hs, Except.ok.inj h]
      · simp at h

end Files

/-! ## Paths -/

namespace Path

/-- The path of something in a directory. -/
def join (dir name : String) : String :=
  if name.startsWith "/" || dir.isEmpty then name
  else if dir.endsWith "/" then dir ++ name
  else dir ++ "/" ++ name

/-- Drops slashes and single dots in front of a slash from a path that is written backwards. -/
def dropSlashes : List Char → List Char
  | '/' :: '.' :: '/' :: s => dropSlashes ('/' :: s)
  | '/' :: s => dropSlashes s
  | s => s

/-- The directory of a file. -/
def directory (path : String) : String :=
  let names := dropSlashes (path.toList.reverse.dropWhile (· != '/'))
  if names.isEmpty && path.startsWith "/" then "/" else String.ofList names.reverse

end Path

end Lexigram
