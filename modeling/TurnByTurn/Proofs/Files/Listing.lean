import Mathlib.Data.List.Nodup
import Mathlib.Order.Compare
import TurnByTurn.Proofs.Files.Paths

/-! # Listing the files below a folder

A system lists the entries of a folder in any order. A walk through a folder puts the files that it meets in
front, what is below the folders that it meets behind, and sorts at the end of every folder. What comes out does
not depend on the order of the entries.

* **`Precedes`** — the order of files, folder by folder and name by name.
* **`Tree.gather`** — the walk.
* **`Tree.gather_folder`** — the walk finds the files of `Tree.filesIn` that a path reaches, and sorts them.
* **`Tree.Lists`**, **`Tree.lists_gather`** — what a walk comes to.
* **`Tree.Relisted`** — trees whose folders list the same entries in another order.
* **`Tree.Relisted.gather_eq`** — a walk comes to the same in all of them. -/

namespace TurnByTurn

open Std (TransCmp LawfulEqCmp OrientedCmp ReflCmp)

variable {files files' : List (List String)}

/-! ## The order of files -/

/-- No two characters have the same code point. -/
instance lawfulEqCmp_toNat : LawfulEqCmp (compareOn Char.toNat) where
  compare_self := by
    intro c
    exact ReflCmp.compare_self
  eq_of_compare := by
    intro c d h
    exact Char.toNat_inj.mp (LawfulEqCmp.eq_of_compare h)

/-- Names are compared character by character. -/
theorem compareNames_eq (a b : String) :
    compareNames a b = List.compareLex (compareOn Char.toNat) a.toList b.toList := rfl

/-- Names are in a linear order. -/
instance : TransCmp compareNames where
  eq_swap := by
    intro a b
    rw [compareNames_eq, compareNames_eq]
    exact OrientedCmp.eq_swap
  isLE_trans := by
    intro a b c hab hbc
    rw [compareNames_eq] at *
    exact TransCmp.isLE_trans hab hbc

/-- No two names are at the same place in it. -/
instance : LawfulEqCmp compareNames where
  compare_self := by
    intro a
    rw [compareNames_eq]
    exact ReflCmp.compare_self
  eq_of_compare := by
    intro a b h
    rw [compareNames_eq] at h
    exact String.toList_injective (LawfulEqCmp.eq_of_compare h)

/-- **The order of files**, folder by folder and name by name. -/
def Precedes (a b : List String) : Prop := List.compareLex compareNames a b = .lt

/-- Sorting brings files into order. -/
theorem pairwise_sortedNames (files : List (List String)) :
    (sortedNames files).Pairwise fun a b => (List.compareLex compareNames a b).isLE := by
  refine List.pairwise_mergeSort ?_ ?_ files
  · intro a b c hab hbc
    exact TransCmp.isLE_trans hab hbc
  · intro a b
    rw [Bool.or_eq_true]
    cases h : List.compareLex compareNames a b with
    | lt => exact Or.inl rfl
    | eq => exact Or.inl rfl
    | gt =>
        have hlt : List.compareLex compareNames b a = .lt := OrientedCmp.lt_of_gt h
        exact Or.inr (congrArg Ordering.isLE hlt)

/-- **Sorting files that are all different** brings each before the next. -/
theorem pairwise_precedes_sortedNames (h : files.Nodup) : (sortedNames files).Pairwise Precedes := by
  have hnodup : (sortedNames files).Nodup := (perm_sortedNames files).nodup_iff.mpr h
  refine ((pairwise_sortedNames files).and hnodup).imp ?_
  rintro a b ⟨hle, hne⟩
  obtain hlt | heq := Ordering.isLE_iff_eq_lt_or_eq_eq.mp hle
  · exact hlt
  · exact absurd (LawfulEqCmp.eq_of_compare heq) hne

/-- **Sorting forgets the order** in which files come. -/
theorem sortedNames_congr (h : files.Perm files') : sortedNames files = sortedNames files' := by
  refine List.Perm.eq_of_pairwise ?_ (pairwise_sortedNames files) (pairwise_sortedNames files') ?_
  · intro a b _ _ hab hba
    exact LawfulEqCmp.eq_of_compare (OrientedCmp.isLE_antisymm hab hba)
  · exact (perm_sortedNames files).trans (h.trans (perm_sortedNames files').symm)

/-! ## Paths that are too long -/

/-- **What is below a path that is too long is too long as well.** -/
theorem Path.isUsable_of_join {p : Path} {name : String} (hname : IsName name)
    (h : (p.join name).isUsable = true) : p.isUsable = true := by
  rw [isUsable, Bool.and_eq_true, decide_eq_true_iff, List.all_eq_true] at h ⊢
  obtain ⟨hlength, hnames⟩ := h
  refine ⟨?_, ?_⟩
  · refine Nat.le_trans ?_ hlength
    rw [join]
    split <;> simp only [String.utf8ByteSize_append] <;> omega
  · obtain ⟨base, -, hjoin, hbase⟩ := exists_segments_join p hname
    have hshort (segment : String) (hsegment : segment ∈ base) : segment.utf8ByteSize ≤ longestName := by
      have := hnames segment (by rw [hjoin]; exact List.mem_append_left _ hsegment)
      simpa using this
    intro segment hsegment
    rw [decide_eq_true_iff]
    obtain hbase | hbase := hbase
    · exact hshort segment (hbase ▸ hsegment)
    · rw [hbase, List.mem_append, List.mem_singleton] at hsegment
      obtain hsegment | rfl := hsegment
      · exact hshort segment hsegment
      · exact Nat.zero_le _

/-- What is some folders below it is. -/
theorem Path.isUsable_of_joinAll {p : Path} {names : List String} (hnames : ∀ name ∈ names, IsName name)
    (h : (p.joinAll names).isUsable = true) : p.isUsable = true := by
  induction names generalizing p with
  | nil => exact h
  | cons name names ih =>
      obtain ⟨hname, hnames⟩ := List.forall_mem_cons.mp hnames
      exact isUsable_of_join hname (ih hnames h)

namespace Tree

variable {t t' : Tree} {current names : List String} {p : Path} {entries listed : List (String × Tree)}

/-! ## The walk -/

/-- What was found after an entry was met, given what is below it. A file is put in front, and what is below a folder
behind. What a path does not reach is neither. -/
def meet (p : Path) (name : String) (t : Tree) (below found : List (List String)) : List (List String) :=
  if (p.join name).isUsable then
    match t with
    | file _ => [name] :: found
    | _ => found ++ below.map (name :: ·)
  else found

mutual

/-- **The files below a folder as a walk finds them**, each given by the names on the way to it. Something else
than a folder has none. -/
def gather (p : Path) : Tree → List (List String)
  | folder entries => sortedNames (gatherFrom p entries [])
  | file _ => []
  | device _ => []

/-- The files below some entries of a folder, after some were found. -/
def gatherFrom (p : Path) : List (String × Tree) → List (List String) → List (List String)
  | [], found => found
  | (name, t) :: rest, found => gatherFrom p rest (meet p name t (t.gather (p.join name)) found)

end

/-- **Meeting an entry adds its files**, as far as a path reaches them. -/
theorem perm_meet (name : String) (ht : t.WellFormed)
    (hgather : ∀ p, (t.gather p).Perm ((filesIn t.entries).filter (p.joinAll · |>.isUsable)))
    (found : List (List String)) :
    (meet p name t (t.gather (p.join name)) found).Perm
      (found ++ (t.files.map (name :: ·)).filter (p.joinAll · |>.isUsable)) := by
  unfold meet
  rw [List.filter_map]
  by_cases husable : (p.join name).isUsable = true
  · rw [if_pos husable]
    cases t with
    | file text =>
        -- a file is the only one of its own, with no names on the way
        have hfile : [[]].filter ((p.joinAll · |>.isUsable) ∘ (name :: ·)) = [[]] :=
          List.filter_cons_of_pos husable
        rw [files, hfile]
        exact (List.perm_append_singleton _ _).symm
    | device d =>
        rw [files, gather]
        exact .refl _
    | folder entries => exact ((hgather (p.join name)).map _).append_left found
  · -- a path that goes on from one that is too long is too long
    have hnone : t.files.filter ((p.joinAll · |>.isUsable) ∘ (name :: ·)) = [] := by
      rw [List.filter_eq_nil_iff]
      intro names hnames hbelow
      exact husable (Path.isUsable_of_joinAll (ht.exists_of_mem_files hnames).1 hbelow)
    rw [if_neg husable, hnone, List.map_nil, List.append_nil]

/-- The files below some entries, after some were found. -/
theorem perm_gatherFrom (ht : ∀ entry ∈ entries, entry.2.WellFormed)
    (hgather : ∀ entry ∈ entries, ∀ p,
      (entry.2.gather p).Perm ((filesIn entry.2.entries).filter (p.joinAll · |>.isUsable)))
    (found : List (List String)) :
    (gatherFrom p entries found).Perm (found ++ (filesIn entries).filter (p.joinAll · |>.isUsable)) := by
  induction entries generalizing found with
  | nil => simp [gatherFrom, filesIn]
  | cons entry rest ih =>
      rw [List.forall_mem_cons] at ht hgather
      have hentry := perm_meet (p := p) entry.1 ht.1 hgather.1 found
      rw [gatherFrom, filesIn, List.filter_append, ← List.append_assoc]
      exact (ih ht.2 hgather.2 _).trans (hentry.append_right _)

/-- A walk finds the files below a folder that a path reaches. -/
theorem WellFormed.perm_gather (ht : t.WellFormed) (p : Path) :
    (t.gather p).Perm ((filesIn t.entries).filter (p.joinAll · |>.isUsable)) := by
  induction ht generalizing p with
  | ofFile text => exact .refl _
  | ofDevice d => exact .refl _
  | ofFolder isName nodup children ih =>
      rw [gather]
      exact (perm_sortedNames _).trans (perm_gatherFrom children ih [])

/-- **A walk finds the files below a folder that a path reaches, and sorts them.** -/
theorem gather_folder (ht : (folder entries).WellFormed) :
    (folder entries).gather p
      = sortedNames ((filesIn entries).filter (p.joinAll · |>.isUsable)) := by
  cases ht with
  | ofFolder isName nodup children =>
      rw [gather]
      have hgather (entry : String × Tree) (hentry : entry ∈ entries) := (children entry hentry).perm_gather
      exact sortedNames_congr (perm_gatherFrom children hgather [])

/-! ## What a walk comes to -/

/-- **All files of a well-formed tree are among its files.** -/
theorem WellFormed.mem_files_iff (ht : t.WellFormed) :
    names ∈ t.files ↔ ∃ text, t.get? names = some (file text) := by
  refine ⟨fun h => (ht.exists_of_mem_files h).2, ?_⟩
  rintro ⟨text, htext⟩
  induction ht generalizing names with
  | ofFile own =>
      cases names with
      | nil => simp [files]
      | cons name rest => cases htext
  | ofDevice d => cases names <;> cases htext
  | ofFolder isName nodup _ ih =>
      cases names with
      | nil => cases htext
      | cons name rest =>
          rw [get?] at htext
          split at htext
          · rename_i child hchild
            have hentry := mem_of_lookup_eq_some hchild
            rw [files]
            exact mem_filesIn_iff.mpr ⟨_, hentry, rest, ih _ hentry htext, rfl⟩
          · cases htext

/-- The files of entries of different names are different. -/
theorem nodup_filesIn (hnodup : (entries.map (·.1)).Nodup)
    (hfiles : ∀ entry ∈ entries, entry.2.files.Nodup) : (filesIn entries).Nodup := by
  induction entries with
  | nil => exact List.nodup_nil
  | cons entry rest ih =>
      rw [List.map_cons, List.nodup_cons] at hnodup
      rw [List.forall_mem_cons] at hfiles
      rw [filesIn, List.nodup_append]
      refine ⟨hfiles.1.map List.cons_injective, ih hnodup.2 hfiles.2, ?_⟩
      intro names hnames other hother heq
      obtain ⟨below, -, rfl⟩ := List.mem_map.mp hnames
      obtain ⟨entry', hentry', below', -, rfl⟩ := mem_filesIn_iff.mp hother
      obtain ⟨hname, -⟩ := List.cons.inj heq
      exact hnodup.1 (hname ▸ List.mem_map_of_mem hentry')

/-- No file of a well-formed tree comes twice. -/
theorem WellFormed.nodup_files (ht : t.WellFormed) : t.files.Nodup := by
  induction ht with
  | ofFile text => exact List.pairwise_singleton _ _
  | ofDevice d => exact List.nodup_nil
  | ofFolder isName nodup _ ih =>
      rw [files]
      exact nodup_filesIn nodup ih

/-- **The files below a folder in order**: these are the files that are there, if their paths reach them; at
each path there is a file; and each comes before the next one, so none comes twice. -/
structure Lists (t : Tree) (current : List String) (p : Path) (files : List (List String)) : Prop where
  mem_iff : ∀ names, names ∈ files ↔
    (∃ text, t.get? (p.place current ++ names) = some (file text)) ∧ (p.joinAll names).isUsable = true
  isFileAt : ∀ names ∈ files, t.isFileAt current (p.joinAll names) = true
  pairwise : files.Pairwise Precedes

/-- **A walk through a folder lists the files below it.** -/
theorem lists_gather (ht : t.WellFormed) (hp : p.text ≠ "")
    (hfolder : t.find? current p = some (folder entries)) :
    t.Lists current p ((folder entries).gather p) := by
  have hget := get?_place_of_find? hfolder
  have hentries : (folder entries).WellFormed := ht.of_get? hget
  have hmem (names : List String) : names ∈ (folder entries).gather p ↔
      names ∈ (folder entries).files ∧ (p.joinAll names).isUsable = true := by
    rw [gather_folder hentries, (perm_sortedNames _).mem_iff, List.mem_filter, files]
  refine ⟨fun names => ?_, fun names hnames => ?_, ?_⟩
  · rw [hmem, hentries.mem_files_iff, get?_append, hget, Option.bind_some]
  · obtain ⟨hfile, husable⟩ := (hmem names).mp hnames
    rw [files] at hfile
    obtain ⟨-, text, htext⟩ := exists_file_of_mem_filesIn ht hp hfolder hfile husable
    rw [isFileAt, htext]
  · have hnodup : (filesIn entries).Nodup := by
      have := hentries.nodup_files
      rwa [files] at this
    rw [gather_folder hentries]
    exact pairwise_precedes_sortedNames (hnodup.filter _)

/-! ## Entries in another order -/

/-- **Trees whose folders list the same entries in another order**, in the tree itself and in the trees inside it.
Names tell the entries of a folder apart, so it is enough that they are the same names, and that entries of one
name are such trees. -/
inductive Relisted : Tree → Tree → Prop
  | ofFile (text : String) : Relisted (file text) (file text)
  | ofDevice (d : Device) : Relisted (device d) (device d)
  | ofFolder {entries listed : List (String × Tree)} (names : (entries.map (·.1)).Perm (listed.map (·.1)))
      (inside : ∀ name t t', (name, t) ∈ entries → (name, t') ∈ listed → Relisted t t') :
      Relisted (folder entries) (folder listed)

namespace Relisted

/-- The first order is another one than the second. -/
theorem symm (h : t.Relisted t') : t'.Relisted t := by
  induction h with
  | ofFile text => exact .ofFile text
  | ofDevice d => exact .ofDevice d
  | ofFolder names _ ih =>
      refine .ofFolder names.symm ?_
      intro name t' t ht' ht
      exact ih name t t' ht ht'

/-- Every entry is listed in the other order, too. -/
theorem exists_mem (h : (folder entries).Relisted (folder listed)) {name : String}
    (hentry : (name, t) ∈ entries) : ∃ t', (name, t') ∈ listed ∧ t.Relisted t' := by
  cases h with
  | ofFolder names inside =>
      obtain ⟨⟨_, t'⟩, ht', rfl⟩ := List.mem_map.mp (names.mem_iff.mp (List.mem_map_of_mem hentry))
      exact ⟨t', ht', inside _ t t' hentry ht'⟩

/-- A tree listed in another order is well-formed as well. -/
theorem wellFormed (h : t.Relisted t') (ht : t.WellFormed) : t'.WellFormed := by
  induction ht generalizing t' with
  | ofFile text =>
      cases h
      exact .ofFile text
  | ofDevice d =>
      cases h
      exact .ofDevice d
  | ofFolder isName nodup _ ih =>
      cases h with
      | ofFolder names inside =>
          have hback := (ofFolder names inside).symm
          refine .ofFolder ?_ (names.nodup_iff.mp nodup) ?_
          · rintro ⟨name, t'⟩ ht'
            obtain ⟨t, ht, -⟩ := hback.exists_mem ht'
            exact isName (name, t) ht
          · rintro ⟨name, t'⟩ ht'
            obtain ⟨t, ht, hrelisted⟩ := hback.exists_mem ht'
            exact ih _ ht hrelisted.symm

/-- **At each place there is the same**, listed in another order. -/
theorem exists_of_get? (h : t.Relisted t') (ht : t.WellFormed) {found : Tree}
    (hfound : t.get? names = some found) : ∃ found', t'.get? names = some found' ∧ found.Relisted found' := by
  induction names generalizing t t' with
  | nil =>
      obtain rfl : t = found := Option.some.inj hfound
      exact ⟨t', rfl, h⟩
  | cons name rest ih =>
      rw [get?] at hfound
      split at hfound
      · rename_i child hchild
        have hentry := mem_of_lookup_eq_some hchild
        cases ht with
        | ofFile text => cases hentry
        | ofDevice d => cases hentry
        | ofFolder isName nodup children =>
            cases h.wellFormed (.ofFolder isName nodup children) with
            | ofFile text => cases h
            | ofDevice d => cases h
            | ofFolder _ nodup' _ =>
                obtain ⟨child', hentry', hrelisted⟩ := h.exists_mem hentry
                have hlookup := lookup_eq_some_of_mem nodup' hentry'
                rw [get?, Tree.entries, hlookup]
                exact ih hrelisted (children _ hentry) hfound
      · cases hfound

/-- A path leads to the same, listed in another order. -/
theorem exists_of_find? (h : t.Relisted t') (ht : t.WellFormed) {found : Tree}
    (hfound : t.find? current p = some found) :
    ∃ found', t'.find? current p = some found' ∧ found.Relisted found' := by
  have hfolders (place : List String) (hplace : t.IsFolder place) : t'.IsFolder place := by
    obtain ⟨entries, hentries⟩ := hplace
    obtain ⟨found', hfound', hrelisted⟩ := h.exists_of_get? ht hentries
    cases hrelisted with
    | ofFolder _ _ => exact ⟨_, hfound'⟩
  rw [find?, Option.bind_eq_some_iff] at hfound
  obtain ⟨place, hplace, hfound⟩ := hfound
  obtain ⟨found', hfound', hrelisted⟩ := h.exists_of_get? ht hfound
  refine ⟨found', ?_, hrelisted⟩
  rw [find?, locate?_mono hfolders hplace, Option.bind_some]
  exact hfound'

/-- The files of a tree are those of the tree listed in another order. -/
theorem mem_files (h : t.Relisted t') (ht : t.WellFormed) (hnames : names ∈ t.files) : names ∈ t'.files := by
  obtain ⟨text, htext⟩ := ht.mem_files_iff.mp hnames
  obtain ⟨found, hfound, hrelisted⟩ := h.exists_of_get? ht htext
  cases hrelisted
  exact (h.wellFormed ht).mem_files_iff.mpr ⟨text, hfound⟩

/-- **A walk comes to the same in any order of the entries.** -/
theorem gather_eq (h : (folder entries).Relisted (folder listed)) (ht : (folder entries).WellFormed) :
    (folder listed).gather p = (folder entries).gather p := by
  have ht' := h.wellFormed ht
  -- both have the same files, none of them twice
  have hperm : (filesIn listed).Perm (filesIn entries) := by
    rw [← files, ← files, List.perm_ext_iff_of_nodup ht'.nodup_files ht.nodup_files]
    intro names
    exact ⟨h.symm.mem_files ht', h.mem_files ht⟩
  rw [gather_folder ht', gather_folder ht]
  exact sortedNames_congr (hperm.filter _)

end Relisted

end Tree

end TurnByTurn
