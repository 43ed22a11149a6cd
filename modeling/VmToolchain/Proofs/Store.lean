import Mathlib.Data.String.Basic
import VmToolchain.Store

/-! Files of a store. What is written along a path is found along the same path afterwards, however
the path goes through directories.
-/

namespace VmToolchain.Store

-----------------------------------------------------------------------------------------
-- Entries
-----------------------------------------------------------------------------------------

theorem lookup_filter_ne {entries : List (List String × StoreEntry)} {names target : List String}
    (other : names ≠ target)
    : (entries.filter (fun entry => entry.1 != target)).lookup names = entries.lookup names := by
  induction entries with
  | nil => rfl
  | cons entry rest ih =>
      obtain ⟨key, entry⟩ := entry
      by_cases same : key = target
      · have different : (names == key) = false := by simpa [same] using other
        rw [List.filter_cons_of_neg (by simp [same]), ih, List.lookup_cons, different]
      · rw [List.filter_cons_of_pos (by simpa using same), List.lookup_cons, List.lookup_cons, ih]

/-- Putting an entry in its place changes no other place. -/
theorem entry?_put (store : Store) {target : List String} (named : target ≠ [])
    (entry : StoreEntry) (names : List String)
    : entry? (store.put target entry) names
      = if names = target then some entry else store.entry? names := by
  by_cases same : names = target
  · subst same
    simp [put, entry?, named]
  · have different : (names == target) = false := by simpa using same
    simp [put, entry?, same, List.lookup_cons, different, lookup_filter_ne same]

-----------------------------------------------------------------------------------------
-- Paths that lead to a file
-----------------------------------------------------------------------------------------

/-- The names lead to a place for a file: it is free, or there is a file already. -/
def LeadsTo (store : Store) (directory names target : List String) : Prop :=
  store.follow directory names = .ok (.vacant target)
  ∨ ∃ contents, store.follow directory names = .ok (.taken target (.file contents))

/-- The place for a file has a name, and no directory is there. -/
theorem LeadsTo.not_directory {store : Store} {directory names target : List String}
    (h : store.LeadsTo directory names target)
    : target ≠ [] ∧ store.entry? target ≠ some .directory := by
  unfold LeadsTo at h
  fun_induction store.follow directory names with
  | case1 | case4 | case7 | case9 => simp at h
  | case2 directory name rest skipped ih => exact ih h
  | case3 directory rest _ ih => exact ih h
  | case5 directory name rest _ _ _ names found ih => exact ih h
  | case6 directory name _ _ _ names contents found =>
      have same : names = target := by simpa using h
      exact ⟨by simp [← same, names], by simp [← same, found]⟩
  | case8 directory name _ _ _ names found =>
      have same : names = target := by simpa using h
      exact ⟨by simp [← same, names], by simp [← same, found]⟩

/-- Names that end with an empty one ask for a directory and lead to no file. -/
theorem LeadsTo.last_ne_empty {store : Store} {directory names target : List String}
    (h : store.LeadsTo directory names target)
    : names.getLast? ≠ some "" := by
  unfold LeadsTo at h
  fun_induction store.follow directory names with
  | case1 | case4 | case7 | case9 => simp at h
  | case2 directory name rest skipped ih =>
      cases rest with
      | nil => simp [follow] at h
      | cons next rest => exact ih h
  | case3 directory rest _ ih =>
      cases rest with
      | nil => simp
      | cons next rest => exact ih h
  | case5 directory name rest plain _ _ names found ih =>
      cases rest with
      | nil => simp [follow] at h
      | cons next rest => exact ih h
  | case6 directory name plain | case8 directory name plain =>
      simpa using fun same => plain (Or.inl same)

/-- The last name is that of a file, and so the file is where the names lead. -/
theorem follow_file {store : Store} {directory : List String} {name : String}
    {contents : List UInt8} (plain : ¬(name = "" ∨ name = ".")) (further : ¬name = "..")
    (short : ¬maxNameSize < name.utf8ByteSize)
    (found : store.entry? (directory ++ [name]) = some (.file contents))
    : store.follow directory [name] = .ok (.taken (directory ++ [name]) (.file contents)) := by
  rw [follow, if_neg plain, if_neg further, if_neg short]
  simp only [found]

/-- Once a file is put at its place, the names lead to it. On their way they meet directories, none of
which is that place.
-/
theorem LeadsTo.follow_put {store : Store} {directory names target : List String}
    (h : store.LeadsTo directory names target) (contents : List UInt8)
    : (store.put target (.file contents)).follow directory names
      = .ok (.taken target (.file contents)) := by
  obtain ⟨named, free⟩ := h.not_directory
  have entries := store.entry?_put named (.file contents)
  have self := (entries target).trans (if_pos rfl)
  unfold LeadsTo at h
  fun_induction store.follow directory names with
  | case1 | case4 | case7 | case9 => simp at h
  | case2 directory name rest skipped ih =>
      rw [follow, if_pos skipped]
      exact ih h
  | case3 directory rest _ ih =>
      rw [follow, if_neg (by decide), if_pos rfl]
      exact ih h
  | case5 directory name rest plain further short names found ih =>
      have other : names ≠ target := fun same => free (same ▸ found)
      have met := (entries names).trans (if_neg other)
      rw [found] at met
      rw [follow, if_neg plain, if_neg further, if_neg short]
      simp only [names] at met
      simp only [met]
      exact ih h
  | case6 directory name plain further short names old found =>
      have same : directory ++ [name] = target := by simpa [names] using h
      exact same ▸ follow_file plain further short (same ▸ self)
  | case8 directory name plain further short names found =>
      have same : directory ++ [name] = target := by simpa [names] using h
      exact same ▸ follow_file plain further short (same ▸ self)

/-- Of the names behind the first it only matters where they lead and whether there are any. -/
theorem follow_cons_congr {store : Store} {left right : List String}
    (ends : left = [] ↔ right = [])
    (same : ∀ directory, store.follow directory left = store.follow directory right)
    (directory : List String) (name : String)
    : store.follow directory (name :: left) = store.follow directory (name :: right) := by
  rw [follow, follow, same, same]
  cases left with
  | nil =>
      cases right with
      | nil => rfl
      | cons next right => simp at ends
  | cons head left =>
      cases right with
      | nil => simp at ends
      | cons next right =>
          simp only [same]
          cases store.entry? (directory ++ [name]) with
          | none => rfl
          | some entry => cases entry <;> rfl

/-- Empty names on the way do not matter, unless one comes last. -/
theorem follow_filter (store : Store) {names : List String} (last : names.getLast? ≠ some "")
    (directory : List String)
    : store.follow directory (names.filter (· ≠ "")) = store.follow directory names := by
  induction names generalizing directory with
  | nil => rfl
  | cons name rest ih =>
      have behind : rest.getLast? ≠ some "" := by
        intro ended
        simp [List.getLast?_cons, ended] at last
      by_cases empty : name = ""
      · subst empty
        rw [List.filter_cons_of_neg (by simp), ih behind, follow, if_pos (Or.inl rfl)]
      · rw [List.filter_cons_of_pos (by simpa using empty)]
        refine follow_cons_congr ?_ (ih behind) directory name
        refine ⟨fun none => ?_, fun none => by simp [none]⟩
        cases final : rest.getLast? with
        | none => exact List.getLast?_eq_none_iff.mp final
        | some name =>
            have kept := List.filter_eq_nil_iff.mp none name (List.mem_of_getLast? final)
            simp at kept
            simp [final, kept] at behind

-----------------------------------------------------------------------------------------
-- Paths
-----------------------------------------------------------------------------------------

/-- The last part of a list that is split is empty only behind a separator. -/
theorem separator_of_last_empty {separates : Char → Bool} {chars : List Char}
    (h : (chars.splitOnP separates).getLast? = some [])
    : chars = [] ∨ ∃ c, chars.getLast? = some c ∧ separates c = true := by
  induction chars with
  | nil => exact Or.inl rfl
  | cons c rest ih =>
      obtain ⟨first, parts, split⟩ := List.exists_cons_of_ne_nil (rest.splitOnP_ne_nil separates)
      rw [List.splitOnP_cons_eq_if_modifyHead] at h
      rw [split] at h ih
      refine Or.inr ?_
      by_cases separator : separates c = true
      · rw [if_pos separator, List.getLast?_cons_cons] at h
        rcases ih h with rfl | ⟨last, ended, found⟩
        · exact ⟨c, rfl, separator⟩
        · exact ⟨last, by simp [List.getLast?_cons, ended], found⟩
      · rw [if_neg separator, List.modifyHead_cons] at h
        -- The first part has a character, so it is a later one that is empty.
        cases parts with
        | nil => simp at h
        | cons next parts =>
            rw [List.getLast?_cons_cons] at h ih
            rcases ih h with rfl | ⟨last, ended, found⟩
            · simp at split
            · exact ⟨last, by simp [List.getLast?_cons, ended], found⟩

/-- A path that names something and does not ask for a directory has a last name. -/
theorem last_pathNames_ne_empty {path : String} (named : path ≠ "")
    (file : asksDirectory path = false)
    : (pathNames path).getLast? ≠ some "" := by
  intro ended
  rw [pathNames, String.splitToList_of_valid, List.getLast?_map] at ended
  obtain ⟨chars, last, empty⟩ := Option.map_eq_some_iff.mp ended
  have none : chars = [] := by simpa using congrArg String.toList empty
  subst none
  rcases separator_of_last_empty last with blank | ⟨c, final, slash⟩
  · exact named (String.toList_eq_nil_iff.mp blank)
  · have same : c = '/' := by simpa using slash
    simp [asksDirectory, final, same] at file

/-- A path leads to a place when it is neither empty nor too long and its names lead there. -/
theorem locate_eq_ok_iff {store : Store} {path : String} {names : List String} {place : StorePlace}
    : store.locate path names = .ok place
      ↔ path ≠ ""
        ∧ ¬maxPathSize < path.utf8ByteSize
        ∧ store.follow (store.origin path) names = .ok place := by
  unfold locate
  by_cases named : path = ""
  · simp [named]
  · by_cases long : maxPathSize < path.utf8ByteSize
    · simp [named, long]
    · simp [named, long]

/-- A file is written at the place where the path leads, and nothing else is done. -/
theorem leadsTo_of_write {store after : Store} {path : String} {contents : List UInt8}
    (h : store.write path contents = .ok after)
    : path ≠ ""
      ∧ ¬maxPathSize < path.utf8ByteSize
      ∧ ∃ target,
          store.LeadsTo (store.origin path) (targetNames path) target
          ∧ after = store.put target (.file contents) := by
  unfold write at h
  split at h
  · contradiction
  · contradiction
  · next target old located =>
      cases h
      obtain ⟨named, short, followed⟩ := locate_eq_ok_iff.mp located
      exact ⟨named, short, target, Or.inr ⟨old, followed⟩, rfl⟩
  · next target located =>
      cases h
      obtain ⟨named, short, followed⟩ := locate_eq_ok_iff.mp located
      exact ⟨named, short, target, Or.inl followed, rfl⟩

/-- What was written along a path is read along the same path. -/
theorem read_of_write {store after : Store} {path : String} {contents : List UInt8}
    (h : store.write path contents = .ok after)
    : after.read path = .ok contents := by
  obtain ⟨named, short, target, leads, rfl⟩ := leadsTo_of_write h
  have file : asksDirectory path = false := by
    cases asks : asksDirectory path with
    | false => rfl
    | true =>
        have last := leads.last_ne_empty
        simp [targetNames, asks] at last
  have met := leads.follow_put contents
  rw [targetNames, file] at met
  have last := last_pathNames_ne_empty named file
  have found : (store.put target (.file contents)).locate path (pathNames path)
      = .ok (.taken target (.file contents)) := by
    refine locate_eq_ok_iff.mpr ⟨named, short, ?_⟩
    rw [← follow_filter _ last]
    exact met
  rw [read, found]

end VmToolchain.Store
