import WorkflowLint.CommandLine.Folder
import WorkflowLint.Proofs.CommandLine.Delivery

/-!
# Runs in a folder

The files of a folder are what a run can read (`Folder.sources`). A walk along the names of a stored
file passes a directory at each of them but the last (`Folder.Stores.foldlM_step`), so the path that
the names make reads the file, and a run on it comes to what a run on its text comes to
(`Folder.Stores.run_eq_piped`).
-/

set_option autoImplicit false

namespace WorkflowLint.CommandLine

namespace Folder

/-- The part of a path leads down, to what has this name. -/
structure IsName (part : String) : Prop where
  single : '/' ∉ part.toList
  leadsDown : part ≠ "" ∧ part ≠ "." ∧ part ≠ ".."
  short : part.utf8ByteSize ≤ longestName

/-- The folder has a file with this text at the end of these names, and no file on the way there. -/
structure Stores (folder : Folder) (names : List String) (text : String) : Prop where
  file : folder.files.lookup ("/".intercalate names) = some text
  valid : ∀ part ∈ names, IsName part
  named : names ≠ []
  short : ("/".intercalate names).utf8ByteSize ≤ longestPath
  free : ∀ above below, names = above ++ below → above ≠ [] → below ≠ [] →
    folder.files.lookup ("/".intercalate above) = none

/-- What a run in the folder can read, with these bytes on its standard input. -/
def sources (folder : Folder) (stdin : ByteArray) : Sources where
  file path := (folder.read path).map String.toUTF8
  stdin := .ok stdin

theorem inputs_sources (folder : Folder) (stdin : ByteArray) :
    (folder.sources stdin).inputs = ⟨folder.read, decode stdin⟩ := by
  have file (path : String) : ((folder.read path).map String.toUTF8).bind decode =
      folder.read path := by
    cases folder.read path with
    | error e => rfl
    | ok text => exact decode_toUTF8 text
  unfold Sources.inputs sources
  simp only [file]
  rfl

section

variable {folder : Folder} {stdin : ByteArray} {named : Option String}

/-- The standard input has no part in the configuration. -/
theorem configured_sources {config : Config} (h : (folder.sources stdin).Configured named config)
    (stdin' : ByteArray) : (folder.sources stdin').Configured named config := by
  cases h with
  | builtIn => exact .builtIn
  | given holds read => exact .given holds read

theorem misconfigured_sources {message : String}
    (h : (folder.sources stdin).Misconfigured named message) (stdin' : ByteArray) :
    (folder.sources stdin').Misconfigured named message := by
  cases h with
  | unread unreadable => exact .unread unreadable
  | refused holds read => exact .refused holds read

end

/-! ### Walking to a file -/

theorem step_of_isName {name : String} (h : IsName name) (folder : Folder) (parts : List String) :
    folder.step (.directory parts) name = folder.find (parts ++ [name]) := by
  obtain ⟨some, notHere, notUp⟩ := h.leadsDown
  rw [step, if_neg (not_or.2 ⟨some, notHere⟩), if_neg notUp, if_neg (Nat.not_lt.2 h.short)]

namespace Stores

variable {folder : Folder} {names : List String} {text : String} (h : folder.Stores names text)

include h

theorem find_names : folder.find names = .ok (.file text) := by
  rw [find, h.file]

/-- Above the file there are directories. -/
theorem find_above {above below : List String} (split : names = above ++ below) (some : above ≠ [])
    (more : below ≠ []) : folder.find above = .ok (.directory above) := by
  have under : folder.files.any (fun f => f.1.startsWith ("/".intercalate above ++ "/")) = true := by
    obtain ⟨front, back, stored, -⟩ := List.lookup_eq_some_iff.1 h.file
    refine List.any_eq_true.2 ⟨_, stored ▸ List.mem_append_right front List.mem_cons_self, ?_⟩
    rw [String.startsWith_string_iff, split, String.intercalate_append_of_ne_nil some more]
    exact ⟨_, String.toList_append.symm⟩
  rw [find, h.free above below split some more]
  exact if_pos under

/-- A walk that has come some names far gets to the file. -/
theorem foldlM_step {done rest : List String} (split : names = done ++ rest) (more : rest ≠ []) :
    rest.foldlM folder.step (.directory done) = .ok (.file text) := by
  induction rest generalizing done with
  | nil => exact absurd rfl more
  | cons name rest ih =>
    have isName : IsName name := h.valid name (split ▸ List.mem_append_right done List.mem_cons_self)
    have next : names = (done ++ [name]) ++ rest := by rw [split, List.append_assoc]; rfl
    rw [List.foldlM_cons, step_of_isName isName]
    cases rest with
    | nil =>
      rw [List.append_nil] at next
      rw [← next, h.find_names]
      rfl
    | cons _ _ =>
      rw [h.find_above next (by simp) (by simp)]
      exact ih next (by simp)

theorem splitOn_path : (("/".intercalate names).toList.splitOn '/').map String.ofList = names := by
  have single : ∀ cs ∈ names.map String.toList, '/' ∉ cs := by
    intro cs mem
    obtain ⟨name, named, rfl⟩ := List.mem_map.1 mem
    exact (h.valid name named).single
  have some : names.map String.toList ≠ [] := mt List.map_eq_nil_iff.1 h.named
  have slash : "/".toList = ['/'] := rfl
  rw [String.toList_intercalate, slash, List.splitOn_intercalate '/' single some, List.map_map]
  simp [Function.comp_def]

/-- The path of the file starts with the first character of a name. -/
theorem exists_toList_path :
    ∃ c cs, ("/".intercalate names).toList = c :: cs ∧ c ≠ '/' := by
  obtain ⟨name, rest, rfl⟩ := List.exists_cons_of_ne_nil h.named
  have isName := h.valid name List.mem_cons_self
  cases letters : name.toList with
  | nil => exact absurd (String.toList_eq_nil_iff.1 letters) isName.leadsDown.1
  | cons c cs =>
    have other : c ≠ '/' := fun e => isName.single (by rw [letters, e]; exact List.mem_cons_self)
    cases rest with
    | nil => exact ⟨c, cs, by rw [String.intercalate_singleton, letters], other⟩
    | cons next more =>
      refine ⟨c, cs ++ ("/" ++ "/".intercalate (next :: more)).toList, ?_, other⟩
      rw [String.intercalate_cons_cons, String.append_assoc, String.toList_append, letters]
      rfl

/-- A stored file is read by its path. -/
theorem read_path : folder.read ("/".intercalate names) = .ok text := by
  obtain ⟨c, cs, letters, other⟩ := h.exists_toList_path
  have some : "/".intercalate names ≠ "" := by
    intro none
    rw [none] at letters
    cases letters
  have inside : ("/".intercalate names).startsWith "/" = false := by
    rw [Bool.eq_false_iff, Ne, String.startsWith_string_iff, letters]
    rintro ⟨_, same⟩
    exact other (List.cons.inj same).1.symm
  have walked : folder.walk ("/".intercalate names) = .ok (.file text) := by
    rw [walk, if_neg some, if_neg (Nat.not_lt.2 h.short), inside, h.splitOn_path]
    exact h.foldlM_step (List.nil_append names).symm h.named
  rw [read, walked]

/-- **A file is answered like its text.** A run on the path of a stored file comes to what a run comes
to that finds the text of the file on its standard input, if both ask for the same configuration and
the same format. -/
theorem run_eq_piped (path : "/".intercalate names ≠ "-") {arguments arguments' : List String}
    {o o' : Options} (asked : WellFormed arguments o) (asked' : WellFormed arguments' o')
    (file : o.file = some ("/".intercalate names)) (piped : o'.file = none)
    (config : o.config = o'.config) (format : o.format.getD .text = o'.format.getD .text)
    (stdin : ByteArray) :
    run arguments ⟨folder.read, decode stdin⟩ = run arguments' ⟨folder.read, .ok text⟩ := by
  have holds : Holds ((folder.sources stdin).workflow o) text := by
    simp only [Sources.workflow, file, if_neg path, sources, h.read_path]
    rfl
  have holds' : Holds ((folder.sources text.toUTF8).workflow o') text := by
    simp only [Sources.workflow, piped, sources]
    rfl
  rw [← decode_toUTF8 text, ← inputs_sources, ← inputs_sources]
  rcases (folder.sources stdin).configured_or_misconfigured o.config with
    ⟨c, configured⟩ | ⟨message, fault⟩
  · have configured' := configured_sources (config ▸ configured) text.toUTF8
    rw [run_eq_of_comes asked (.answered configured holds),
      run_eq_of_comes asked' (.answered configured' holds'), format]
  · have fault' := misconfigured_sources (config ▸ fault) text.toUTF8
    rw [run_eq_of_comes asked (.misconfigured fault), run_eq_of_comes asked' (.misconfigured fault')]

end Stores

end Folder

end WorkflowLint.CommandLine
