import Graft.Directory
import Graft.Language
import Mathlib.Data.List.Basic

/-! # Stored files

Storing a file changes the entry of its path and nothing else. In particular every path leads to the
place that it led to before, since a file stays a file. What can be read but not stored are the
devices that every system has, and none of them has the name of a file with a language.
-/

namespace Graft

namespace Directory

variable {directory : Directory} {path : String} {place : Place}

/-! ## Entries -/

theorem lookup_setEntry (entries : List (String × Entry)) (path name : String)
    (content : ByteArray) :
    (setEntry entries path content).lookup name =
      (entries.lookup name).map fun entry => if name = path then .file content else entry := by
  induction entries with
  | nil => rfl
  | cons first rest ih =>
    obtain ⟨key, entry⟩ := first
    unfold setEntry at ih ⊢
    rw [List.map_cons, List.lookup_cons, List.lookup_cons]
    cases hkey : name == key with
    | true =>
      obtain rfl := beq_iff_eq.mp hkey
      rfl
    | false => exact ih

theorem any_setEntry (entries : List (String × Entry)) (path above : String)
    (content : ByteArray) :
    (setEntry entries path content).any (fun entry => entry.1.startsWith above) =
      entries.any fun entry => entry.1.startsWith above := by
  rw [setEntry, List.any_map]
  rfl

/-- The directory with other content at a place. -/
def storeAt (directory : Directory) (place : Place) (content : ByteArray) : Directory :=
  ⟨setEntry directory.entries (pathOf place) content⟩

theorem store_eq (content : ByteArray) (h : directory.locate path = .ok place) :
    directory.store path content = directory.storeAt place content := by
  rw [store, h]
  rfl

theorem entryAt?_storeAt_of_ne {other : Place} (content : ByteArray)
    (h : pathOf other ≠ pathOf place) :
    (directory.storeAt place content).entryAt? other = directory.entryAt? other := by
  simp only [entryAt?, storeAt, lookup_setEntry, any_setEntry, h, if_false, Option.map_id']

/-- What is at the place is in the directory, and can hold text. -/
def Owns (directory : Directory) (place : Place) : Prop :=
  isAbove place = false ∧ provided? place = none ∧
    ∃ entry, directory.entries.lookup (pathOf place) = some entry ∧ entry ≠ .folder

theorem entryAt?_storeAt_self (content : ByteArray) (h : directory.Owns place) :
    (directory.storeAt place content).entryAt? place = some (.file content) := by
  obtain ⟨habove, hprovided, entry, hlookup, -⟩ := h
  simp [entryAt?, storeAt, lookup_setEntry, habove, hprovided, hlookup]

/-- At any place either nothing is seen of the change, or the file is seen, where no folder was. -/
theorem entryAt?_storeAt (content : ByteArray) (h : directory.Owns place) (other : Place) :
    (directory.storeAt place content).entryAt? other = directory.entryAt? other ∨
      ∃ entry, directory.entryAt? other = some entry ∧ entry ≠ .folder ∧
        (directory.storeAt place content).entryAt? other = some (.file content) := by
  by_cases hpath : pathOf other = pathOf place
  · by_cases hother : isAbove other = false ∧ provided? other = none
    · obtain ⟨-, -, entry, hlookup, hentry⟩ := h
      rw [← hpath] at hlookup
      refine Or.inr ⟨entry, by simp [entryAt?, hother, hlookup], hentry, ?_⟩
      simp [entryAt?, storeAt, lookup_setEntry, hother, hlookup, ← hpath]
    · refine Or.inl ?_
      unfold entryAt?
      split
      · rfl
      · next habove =>
        have hprovided : (provided? other).isSome := by
          rw [Option.isSome_iff_ne_none]
          exact fun hnone => hother ⟨by simpa using habove, hnone⟩
        rw [if_pos hprovided, if_pos hprovided]
  · exact Or.inl (entryAt?_storeAt_of_ne content hpath)

/-! ## Paths -/

theorem follow_storeAt (content : ByteArray) (h : directory.Owns place) (start : Place)
    (components : List String) :
    (directory.storeAt place content).follow start components =
      directory.follow start components := by
  induction components generalizing start with
  | nil => rfl
  | cons component rest ih =>
    unfold follow
    obtain hsame | ⟨entry, hbefore, hentry, hafter⟩ := entryAt?_storeAt content h start
    · rw [hsame]
      simp only [ih]
    · rw [hbefore, hafter]
      cases entry with
      | file old => rfl
      | folder => exact absurd rfl hentry
      | device => rfl

theorem locate_storeAt (content : ByteArray) (h : directory.Owns place) (other : String) :
    (directory.storeAt place content).locate other = directory.locate other := by
  simp only [locate, resolve, follow_storeAt content h]

theorem readBytes_storeAt (content : ByteArray) (h : directory.Owns place)
    (hplace : directory.locate path = .ok place) :
    (directory.storeAt place content).readBytes path = .ok content := by
  simp only [readBytes, locate_storeAt content h, hplace, entryAt?_storeAt_self content h]

theorem readText_storeAt (text : String) (h : directory.Owns place)
    (hplace : directory.locate path = .ok place) :
    (directory.storeAt place text.toUTF8).readText path = .ok text := by
  have hutf8 : String.fromUTF8? text.toUTF8 = some text := by
    unfold String.fromUTF8?
    exact dif_pos text.isValidUTF8
  simp only [readText, readBytes_storeAt text.toUTF8 h hplace, hutf8]

/-! ## Names -/

theorem follow_eq_foldl {start : Place} {components : List String}
    (h : directory.follow start components = .ok place) :
    place = components.foldl descend start := by
  induction components generalizing start with
  | nil => exact (Except.ok.inj h).symm
  | cons component rest ih =>
    unfold follow at h
    split at h
    · cases h
    · cases h
    · cases h
    · split at h
      · cases h
      · exact ih h

theorem foldl_descend_filter (start : Place) (components : List String) :
    (components.filter fun c => c != "" && c != ".").foldl descend start =
      components.foldl descend start := by
  induction components generalizing start with
  | nil => rfl
  | cons component rest ih =>
    by_cases h : component = "" ∨ component = "."
    · have hdrop : (component != "" && component != ".") = false := by
        rcases h with rfl | rfl <;> rfl
      rw [List.filter_cons_of_neg (by simp [hdrop]), ih, List.foldl_cons, descend, if_pos h]
    · have hkeep : (component != "" && component != ".") = true := by
        rw [not_or] at h
        simp [h]
      rw [List.filter_cons_of_pos (by simp [hkeep]), List.foldl_cons, List.foldl_cons, ih]

theorem getLast?_of_locate {name : String} (hplace : directory.locate path = .ok place)
    (hname : Path.fileName? path = some name) : place.getLast? = some name := by
  unfold locate resolve at hplace
  split at hplace
  · cases hplace
  split at hplace
  · cases hplace
  split at hplace
  · cases hplace
  have hlast : (Path.components path).getLast? = some name ∧ name ≠ ".." := by
    unfold Path.fileName? at hname
    split at hname
    · cases hname
    · next hup => exact ⟨hname, fun h => hup (h ▸ hname)⟩
  obtain ⟨above, habove⟩ := List.getLast?_eq_some_iff.mp hlast.1
  have hmem : name ∈ Path.components path := by simp [habove]
  have hspeaks : name ≠ "" ∧ name ≠ "." := by
    have h := (List.mem_filter.mp hmem).2
    simpa using h
  rw [follow_eq_foldl hplace, ← foldl_descend_filter]
  change ((Path.components path).foldl descend _).getLast? = some name
  rw [habove, List.foldl_append, List.foldl_cons, List.foldl_nil, descend]
  simp [hspeaks, hlast.2]

theorem extension_of_device {name : String} (h : devices.contains name) :
    Path.extensionOf? name = none := by
  simp only [devices, List.contains_cons, List.contains_nil, Bool.or_false, Bool.or_eq_true,
    beq_iff_eq] at h
  rcases h with rfl | rfl | rfl | rfl | rfl | rfl <;> decide +kernel

theorem provided?_cases {entry : Entry} (h : provided? place = some entry) :
    entry = .folder ∨ ∃ name, place.getLast? = some name ∧ devices.contains name := by
  unfold provided? at h
  split at h
  · split at h
    · exact Or.inl (Option.some.inj h).symm
    · cases h
  · next top name =>
    split at h
    · next hname => exact Or.inr ⟨name, rfl, (Bool.and_eq_true_iff.mp hname).2⟩
    · cases h
  · cases h

/-- All that the system provides under paths with a language are folders. -/
theorem provided?_eq_folder {language : Language} {entry : Entry}
    (hplace : directory.locate path = .ok place) (hlanguage : Language.detect path = .ok language)
    (h : provided? place = some entry) : entry = .folder := by
  obtain hfolder | ⟨name, hlast, hname⟩ := provided?_cases h
  · exact hfolder
  have hextension : Path.extension? path = none := by
    unfold Path.extension?
    cases hfile : Path.fileName? path with
    | none => rfl
    | some found =>
      obtain rfl : found = name :=
        Option.some.inj ((getLast?_of_locate hplace hfile).symm.trans hlast)
      exact extension_of_device hname
  rw [Language.detect, hextension] at hlanguage
  cases hlanguage

theorem exists_entry_of_readText {text : String} (h : directory.readText path = .ok text) :
    ∃ place entry, directory.locate path = .ok place ∧ directory.entryAt? place = some entry ∧
      entry ≠ .folder := by
  unfold readText readBytes at h
  cases hplace : directory.locate path with
  | error e => simp [hplace] at h
  | ok place =>
    cases hentry : directory.entryAt? place with
    | none => simp [hplace, hentry] at h
    | some entry =>
      refine ⟨place, entry, rfl, hentry, ?_⟩
      rintro rfl
      simp [hplace, hentry] at h

theorem exists_owns_of_readText {language : Language} {text : String}
    (hread : directory.readText path = .ok text)
    (hlanguage : Language.detect path = .ok language) :
    ∃ place, directory.locate path = .ok place ∧ directory.Owns place := by
  obtain ⟨place, entry, hplace, hentry, hfolder⟩ := exists_entry_of_readText hread
  refine ⟨place, hplace, ?_⟩
  unfold entryAt? at hentry
  split at hentry
  · exact absurd (Option.some.inj hentry).symm hfolder
  next habove =>
  split at hentry
  · exact absurd (provided?_eq_folder hplace hlanguage hentry) hfolder
  next hprovided =>
  refine ⟨by simpa using habove, by simpa using hprovided, ?_⟩
  split at hentry
  · next found hlookup => exact ⟨found, hlookup, Option.some.inj hentry ▸ hfolder⟩
  · split at hentry
    · exact absurd (Option.some.inj hentry).symm hfolder
    · cases hentry

theorem readBytes_store {language : Language} {text : String} (content : ByteArray)
    (hread : directory.readText path = .ok text)
    (hlanguage : Language.detect path = .ok language) :
    (directory.store path content).readBytes path = .ok content := by
  obtain ⟨place, hplace, howns⟩ := exists_owns_of_readText hread hlanguage
  rw [store_eq content hplace, readBytes_storeAt content howns hplace]

end Directory

end Graft
