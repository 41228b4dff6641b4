import Mathlib.Data.List.Basic
import Mathlib.Data.List.TakeWhile
import Mathlib.Tactic.SplitIfs
import TurnByTurn.Files.Tree

/-! # Where paths lead

A path is followed segment by segment. A tree decides whether it can be followed, but where it leads can be
told from its segments alone.

* **`Path.place`** — where a path leads, if it leads anywhere.
* **`Path.place_joinAll`** — the path of a file inside a folder leads to a place below that of the folder.
* **`Path.makeable_of_isUsable`** — the folders on the way of a usable path.
* **`Tree.locate?_eq_some`** — a tree lets a path lead nowhere else.
* **`Tree.WellFormed`**, **`Tree.isWellFormed`** — trees in which every name can be followed.
* **`Tree.exists_file_of_mem_filesIn`** — the files below a folder are found at their paths. -/

namespace TurnByTurn

/-- **The names that a file can have.** -/
def IsName (name : String) : Prop := name ≠ "" ∧ name ≠ "." ∧ name ≠ ".." ∧ '/' ∉ name.toList

instance : DecidablePred IsName := fun _ => inferInstanceAs (Decidable (_ ∧ _ ∧ _ ∧ _))

/-! ## Places of paths -/

namespace Path

variable {current base : List String} {p : Path} {name : String}

/-- Where a segment leads from a place. -/
def step (here : List String) (segment : String) : List String :=
  if segment = "" ∨ segment = "." then here
  else if segment = ".." then here.dropLast
  else here ++ [segment]

/-- **The place to which a path leads**, if it leads anywhere. -/
def place (current : List String) (p : Path) : List String := p.segments.foldl step (p.origin current)

/-- A segment that neither stays nor goes back leads into the folder. -/
theorem step_of_not (here : List String) (h : ¬(name = "" ∨ name = "." ∨ name = "..")) :
    step here name = here ++ [name] := by
  obtain ⟨hempty, hdot, hdots⟩ : ¬name = "" ∧ ¬name = "." ∧ ¬name = ".." := by simpa using h
  rw [step, if_neg (not_or.mpr ⟨hempty, hdot⟩), if_neg hdots]

/-- A name leads into the folder. -/
theorem step_name (here : List String) (h : IsName name) : step here name = here ++ [name] :=
  step_of_not here (by simp [h.1, h.2.1, h.2.2.1])

/-- A path inside another one is not empty. -/
theorem text_join_ne_empty (p : Path) (h : IsName name) : (p.join name).text ≠ "" := by
  have hname : name.toList ≠ [] := mt String.toList_eq_nil_iff.mp h.1
  intro hempty
  have hnil := congrArg String.toList hempty
  rw [join] at hnil
  split at hnil <;> simp_all

/-- **The segments of a path inside another one.** An empty segment at the end of the other one is the slash
that was there already. -/
theorem exists_segments_join (p : Path) (hname : IsName name) :
    ∃ base, base ≠ [] ∧ (p.join name).segments = base ++ [name] ∧
      (p.segments = base ∨ p.segments = base ++ [""]) := by
  have hsplit : name.toList.splitOn '/' = [name.toList] := List.splitOn_eq_singleton hname.2.2.2
  by_cases hslash : p.text.toList.getLast? = some '/'
  · obtain ⟨before, hbefore⟩ := List.getLast?_eq_some_iff.mp hslash
    refine ⟨(before.splitOn '/').map String.ofList, by simp [List.splitOn_ne_nil], ?_, Or.inr ?_⟩
    · rw [segments, join, if_pos hslash, String.toList_append, hbefore, List.append_assoc,
        List.singleton_append, List.splitOn_append_cons_self, hsplit]
      simp
    · rw [segments, hbefore, List.splitOn_append_cons_self]
      simp
  · refine ⟨p.segments, by simp [segments, List.splitOn_ne_nil], ?_, Or.inl rfl⟩
    have htext : (p.text ++ "/" ++ name).toList = p.text.toList ++ '/' :: name.toList := by simp
    rw [segments, join, if_neg hslash, htext, List.splitOn_append_cons_self, hsplit, segments]
    simp

/-- A path inside another one has more than one segment. -/
theorem length_segments_join_ne_one (p : Path) (hname : IsName name) :
    (p.join name).segments.length ≠ 1 := by
  obtain ⟨base, hbase, hjoin, -⟩ := exists_segments_join p hname
  simp [hjoin, hbase]

/-- A path inside another one begins where this one does. -/
theorem origin_join (hp : p.text ≠ "") : (p.join name).origin current = p.origin current := by
  obtain ⟨c, rest, htext⟩ := List.exists_cons_of_ne_nil (mt String.toList_eq_nil_iff.mp hp)
  have habsolute : (p.join name).isAbsolute = p.isAbsolute := by
    rw [isAbsolute, isAbsolute, join]
    split <;> simp [htext]
  rw [origin, origin, habsolute]

/-- **A path inside another one leads into the folder there.** -/
theorem place_join (hp : p.text ≠ "") (hname : IsName name) :
    (p.join name).place current = p.place current ++ [name] := by
  obtain ⟨base, -, hjoin, hbase⟩ := exists_segments_join p hname
  rw [place, place, origin_join hp, hjoin, List.foldl_concat, step_name _ hname]
  obtain hbase | hbase := hbase
  · rw [hbase]
  · rw [hbase, List.foldl_concat]
    rfl

/-- **The path of a file inside a folder leads to a place below the folder's.** -/
theorem place_joinAll {names : List String} (hp : p.text ≠ "") (hnames : ∀ name ∈ names, IsName name) :
    (p.joinAll names).place current = p.place current ++ names := by
  induction names generalizing p with
  | nil => simp
  | cons name names ih =>
      obtain ⟨hname, hnames⟩ := List.forall_mem_cons.mp hnames
      rw [joinAll_cons, ih (text_join_ne_empty p hname) hnames, place_join hp hname, List.append_assoc,
        List.singleton_append]

/-! ## Folders on the way -/

/-- The path of a folder on the way is no longer than the whole. -/
theorem utf8ByteSize_intercalate_le (separator : String) {before segments : List String}
    (h : before <+: segments) :
    (separator.intercalate before).utf8ByteSize ≤ (separator.intercalate segments).utf8ByteSize := by
  obtain ⟨rest, rfl⟩ := h
  induction before with
  | nil => exact Nat.zero_le _
  | cons first before ih =>
      cases before with
      | nil =>
          cases rest with
          | nil => exact Nat.le_refl _
          | cons next rest =>
              rw [List.singleton_append, String.intercalate_cons_cons, String.intercalate_singleton,
                String.utf8ByteSize_append, String.utf8ByteSize_append]
              omega
      | cons next before =>
          simp only [List.cons_append, String.intercalate_cons_cons, String.utf8ByteSize_append] at ih ⊢
          omega

/-- Nothing is trimmed where the last segment leads somewhere. -/
theorem trimmed_concat (base : List String) (hname : ¬stays name) :
    trimmed (base ++ [name]) = base ++ [name] := by
  rw [trimmed, List.reverse_append, List.reverse_singleton, List.singleton_append,
    List.dropWhile_cons_of_neg hname, List.reverse_cons, List.reverse_reverse]

/-- Trimming drops segments at the end. -/
theorem isPrefix_trimmed (segments : List String) : trimmed segments <+: segments := by
  have hsuffix := List.dropWhile_suffix stays (l := segments.reverse)
  rwa [← List.reverse_prefix, List.reverse_reverse] at hsuffix

/-- The text of a path is its segments with slashes between them. -/
theorem intercalate_segments (p : Path) : "/".intercalate p.segments = p.text := by
  apply String.toList_injective
  rw [String.toList_intercalate, segments, List.map_map]
  simp

/-- **All folders on the way of a usable path can be made**, when its last segment leads somewhere. -/
theorem makeable_of_isUsable (husable : p.isUsable = true) (hsegments : p.segments = base ++ [name])
    (hname : ¬stays name) : p.makeable = base := by
  rw [isUsable, Bool.and_eq_true, decide_eq_true_iff, List.all_eq_true, hsegments] at husable
  obtain ⟨hlength, hnames⟩ := husable
  have hfolder : p.folder = base := by rw [folder, hsegments, trimmed_concat base hname, List.dropLast_concat]
  have hprefix : trimmed base <+: p.segments := by
    rw [hsegments]
    exact (isPrefix_trimmed base).trans (List.prefix_append base [name])
  have hshort : ("/".intercalate (trimmed base)).utf8ByteSize ≤ longest := by
    have hle := utf8ByteSize_intercalate_le "/" hprefix
    rw [intercalate_segments] at hle
    exact Nat.le_trans hle hlength
  rw [makeable, hfolder, if_pos hshort, List.takeWhile_eq_self_iff]
  exact fun segment hsegment => hnames segment (List.mem_append_left [name] hsegment)

end Path

/-! ## Paths in a tree -/

namespace Tree

variable {t t' : Tree} {current here there place names : List String} {p : Path} {name segment : String}

/-- Whether a folder is at a place. -/
def IsFolder (t : Tree) (place : List String) : Prop := ∃ entries, t.get? place = some (folder entries)

/-- What is at a place below another one. -/
theorem get?_append (t : Tree) (here rest : List String) :
    t.get? (here ++ rest) = (t.get? here).bind (·.get? rest) := by
  induction here generalizing t with
  | nil => rfl
  | cons name here ih =>
      rw [List.cons_append, get?, get?]
      cases t.entries.lookup name with
      | none => rfl
      | some child => exact ih child

/-- Only in a folder there is something below. -/
theorem isFolder_of_get?_append {found : Tree} (h : t.get? (here ++ name :: names) = some found) :
    t.IsFolder here := by
  rw [get?_append, Option.bind_eq_some_iff] at h
  obtain ⟨child, hchild, hfound⟩ := h
  cases child with
  | folder entries => exact ⟨entries, hchild⟩
  | file text => cases hfound
  | device d => cases hfound

/-- **A segment can be entered from a folder**, and leads where it says. -/
theorem enter_eq_some_iff :
    t.enter here segment = some there ↔ t.IsFolder here ∧ there = Path.step here segment := by
  rw [enter, IsFolder, Path.step]
  constructor
  · intro h
    split at h
    · rename_i entries hfolder
      refine ⟨⟨entries, hfolder⟩, ?_⟩
      split_ifs at h ⊢ <;> exact (Option.some.inj h).symm
    · cases h
  · rintro ⟨⟨entries, hfolder⟩, rfl⟩
    rw [hfolder]
    dsimp only
    split_ifs <;> rfl

/-- Segments lead where they say. -/
theorem foldlM_enter_eq_some {segments : List String}
    (h : segments.foldlM t.enter here = some there) : there = segments.foldl Path.step here := by
  induction segments generalizing here with
  | nil => exact (Option.some.inj h).symm
  | cons segment segments ih =>
      rw [List.foldlM_cons, Option.bind_eq_bind, Option.bind_eq_some_iff] at h
      obtain ⟨next, henter, h⟩ := h
      obtain ⟨-, rfl⟩ := enter_eq_some_iff.mp henter
      exact ih h

/-- Segments can still be followed in a tree that has the same folders and more. -/
theorem foldlM_enter_mono {segments : List String} (hfolders : ∀ place, t.IsFolder place → t'.IsFolder place)
    (h : segments.foldlM t.enter here = some there) : segments.foldlM t'.enter here = some there := by
  induction segments generalizing here with
  | nil => exact h
  | cons segment segments ih =>
      rw [List.foldlM_cons, Option.bind_eq_bind, Option.bind_eq_some_iff] at h ⊢
      obtain ⟨next, henter, h⟩ := h
      obtain ⟨hfolder, hnext⟩ := enter_eq_some_iff.mp henter
      exact ⟨next, enter_eq_some_iff.mpr ⟨hfolders _ hfolder, hnext⟩, ih h⟩

/-- **A path leads to its place or nowhere.** -/
theorem locate?_eq_some (h : t.locate? current p = some place) : place = p.place current := by
  rw [locate?] at h
  split at h
  · exact foldlM_enter_eq_some h
  · cases h

/-- What is found at a path is at its place. -/
theorem get?_place_of_find? {found : Tree} (h : t.find? current p = some found) :
    t.get? (p.place current) = some found := by
  rw [find?, Option.bind_eq_some_iff] at h
  obtain ⟨place, hplace, hfound⟩ := h
  rwa [locate?_eq_some hplace] at hfound

/-- A path leads to the same place in a tree that has the same folders and more. -/
theorem locate?_mono (hfolders : ∀ place, t.IsFolder place → t'.IsFolder place)
    (h : t.locate? current p = some place) : t'.locate? current p = some place := by
  rw [locate?] at h ⊢
  split at h
  · rename_i husable
    rw [if_pos husable]
    exact foldlM_enter_mono hfolders h
  · cases h

/-- A path inside a folder leads into it. -/
theorem foldlM_enter_join (hp : p.text ≠ "") (hname : IsName name)
    (h : p.segments.foldlM t.enter (p.origin current) = some here) (hhere : t.IsFolder here) :
    (p.join name).segments.foldlM t.enter ((p.join name).origin current) = some (here ++ [name]) := by
  obtain ⟨base, -, hjoin, hbase⟩ := Path.exists_segments_join p hname
  have hwalk : base.foldlM t.enter (p.origin current) = some here := by
    obtain hbase | hbase := hbase
    · rwa [← hbase]
    · rw [hbase, List.foldlM_append, Option.bind_eq_bind, Option.bind_eq_some_iff] at h
      obtain ⟨place, hplace, hlast⟩ := h
      rw [List.foldlM_cons, Option.bind_eq_bind, Option.bind_eq_some_iff] at hlast
      obtain ⟨next, henter, hnext⟩ := hlast
      obtain ⟨-, hstay⟩ := enter_eq_some_iff.mp henter
      obtain rfl : next = place := hstay
      rwa [Option.some.inj hnext] at hplace
  have henter : t.enter here name = some (here ++ [name]) :=
    enter_eq_some_iff.mpr ⟨hhere, (Path.step_name here hname).symm⟩
  rw [hjoin, Path.origin_join hp, List.foldlM_append, hwalk]
  simp [henter]

/-- The path of something below a folder leads there. -/
theorem foldlM_enter_joinAll (hp : p.text ≠ "") (hnames : ∀ name ∈ names, IsName name)
    (h : p.segments.foldlM t.enter (p.origin current) = some here) {found : Tree}
    (hfound : t.get? (here ++ names) = some found) :
    (p.joinAll names).segments.foldlM t.enter ((p.joinAll names).origin current)
      = some (here ++ names) := by
  induction names generalizing p here with
  | nil => simpa using h
  | cons name names ih =>
      obtain ⟨hname, hnames⟩ := List.forall_mem_cons.mp hnames
      rw [List.append_cons] at hfound ⊢
      refine ih (Path.text_join_ne_empty p hname) hnames ?_ hfound
      refine foldlM_enter_join hp hname h ?_
      rw [← List.append_cons] at hfound
      exact isFolder_of_get?_append hfound

/-! ## Files below a folder -/

/-- **A tree in which every name can be followed**: no folder has a name twice, or one that no file can
have. -/
inductive WellFormed : Tree → Prop
  | ofFile (text : String) : WellFormed (file text)
  | ofDevice (d : Device) : WellFormed (device d)
  | ofFolder {entries : List (String × Tree)} (isName : ∀ entry ∈ entries, IsName entry.1)
      (nodup : (entries.map (·.1)).Nodup) (children : ∀ entry ∈ entries, WellFormed entry.2) :
      WellFormed (folder entries)

mutual

/-- Whether every name in a tree can be followed. -/
def isWellFormed : Tree → Bool
  | file _ => true
  | folder entries =>
      decide ((entries.map (·.1)).Nodup ∧ ∀ name ∈ entries.map (·.1), IsName name)
        && entriesWellFormed entries
  | device _ => true

/-- Whether every name in the trees of some entries can be followed. -/
def entriesWellFormed : List (String × Tree) → Bool
  | [] => true
  | (_, t) :: rest => t.isWellFormed && entriesWellFormed rest

end

mutual

/-- **Well-formed trees can be told by looking at their names.** -/
theorem WellFormed.of_isWellFormed : ∀ {t : Tree}, t.isWellFormed = true → t.WellFormed
  | file text, _ => .ofFile text
  | device d, _ => .ofDevice d
  | folder entries, h => by
      rw [isWellFormed, Bool.and_eq_true, decide_eq_true_iff] at h
      obtain ⟨⟨hnodup, hname⟩, hentries⟩ := h
      exact .ofFolder (fun entry hentry => hname _ (List.mem_map_of_mem hentry)) hnodup
        (wellFormed_of_entriesWellFormed hentries)

/-- The trees of some entries are well-formed if all their names can be followed. -/
theorem wellFormed_of_entriesWellFormed : ∀ {entries : List (String × Tree)},
    entriesWellFormed entries = true → ∀ entry ∈ entries, entry.2.WellFormed
  | [], _ => by simp
  | (_, t) :: rest, h => by
      rw [entriesWellFormed, Bool.and_eq_true] at h
      exact List.forall_mem_cons.mpr ⟨.of_isWellFormed h.1, wellFormed_of_entriesWellFormed h.2⟩

end

/-- A name that no other entry has finds its entry. -/
theorem lookup_eq_some_of_mem {entries : List (String × Tree)} {entry : String × Tree}
    (hnodup : (entries.map (·.1)).Nodup) (h : entry ∈ entries) :
    entries.lookup entry.1 = some entry.2 := by
  obtain ⟨before, after, rfl⟩ := List.append_of_mem h
  refine List.lookup_eq_some_iff.mpr ⟨before, after, rfl, fun other hother => ?_⟩
  rw [List.map_append, List.nodup_append] at hnodup
  have hne := hnodup.2.2 other.1 (List.mem_map_of_mem hother) entry.1 (by simp)
  simpa using hne.symm

/-- What a name finds is an entry. -/
theorem mem_of_lookup_eq_some {entries : List (String × Tree)} {child : Tree}
    (h : entries.lookup name = some child) : (name, child) ∈ entries := by
  obtain ⟨before, after, rfl, -⟩ := List.lookup_eq_some_iff.mp h
  exact List.mem_append_right before List.mem_cons_self

/-- What is found in a well-formed tree is one. -/
theorem WellFormed.of_get? (ht : t.WellFormed) {found : Tree} (h : t.get? place = some found) :
    found.WellFormed := by
  induction place generalizing t with
  | nil => exact Option.some.inj h ▸ ht
  | cons name place ih =>
      rw [get?] at h
      split at h
      · rename_i child hchild
        cases ht with
        | ofFile text => cases hchild
        | ofDevice d => cases hchild
        | ofFolder isName nodup children =>
            exact ih (children _ (mem_of_lookup_eq_some hchild)) h
      · cases h

/-- The files of some entries are those of one of them. -/
theorem mem_filesIn_iff {entries : List (String × Tree)} :
    names ∈ filesIn entries ↔ ∃ entry ∈ entries, ∃ rest ∈ entry.2.files, names = entry.1 :: rest := by
  induction entries with
  | nil => simp [filesIn]
  | cons entry entries ih =>
      rw [filesIn, List.mem_append, ih]
      simp [eq_comm]

/-- **A file of a well-formed tree is at its place**, and all on the way there are names. -/
theorem WellFormed.exists_of_mem_files (ht : t.WellFormed) (h : names ∈ t.files) :
    (∀ name ∈ names, IsName name) ∧ ∃ text, t.get? names = some (file text) := by
  induction ht generalizing names with
  | ofFile text =>
      obtain rfl : names = [] := by simpa [files] using h
      exact ⟨by simp, text, rfl⟩
  | ofDevice d => simp [files] at h
  | ofFolder isName nodup _ ih =>
      rw [files] at h
      obtain ⟨entry, hentry, rest, hrest, rfl⟩ := mem_filesIn_iff.mp h
      obtain ⟨hnames, text, htext⟩ := ih entry hentry hrest
      refine ⟨List.forall_mem_cons.mpr ⟨isName entry hentry, hnames⟩, text, ?_⟩
      rw [get?, entries, lookup_eq_some_of_mem nodup hentry]
      exact htext

/-- **The files below a folder are found at their paths**, unless a path is too long. -/
theorem exists_file_of_mem_filesIn {entries : List (String × Tree)} (ht : t.WellFormed)
    (hp : p.text ≠ "") (hfind : t.find? current p = some (folder entries))
    (hnames : names ∈ filesIn entries) (husable : (p.joinAll names).isUsable = true) :
    (∀ name ∈ names, IsName name) ∧ ∃ text, t.find? current (p.joinAll names) = some (file text) := by
  have hfolder := get?_place_of_find? hfind
  have hfile : names ∈ (folder entries).files := by rwa [files]
  obtain ⟨hname, text, htext⟩ := (ht.of_get? hfolder).exists_of_mem_files hfile
  refine ⟨hname, text, ?_⟩
  have hplace : t.get? (p.place current ++ names) = some (file text) := by
    rw [get?_append, hfolder]
    exact htext
  rw [find?, Option.bind_eq_some_iff] at hfind
  obtain ⟨here, hhere, -⟩ := hfind
  obtain rfl := locate?_eq_some hhere
  have hwalk : p.segments.foldlM t.enter (p.origin current) = some (p.place current) := by
    rw [locate?] at hhere
    split at hhere
    · exact hhere
    · cases hhere
  rw [find?, locate?, if_pos husable, foldlM_enter_joinAll hp hname hwalk hplace]
  exact hplace

end Tree

end TurnByTurn
