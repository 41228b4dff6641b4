import TurnByTurn.Proofs.Files.Paths

/-! # What writing changes

Writing makes the folders on the way and puts a text at its place. Seen from outside, so that of a folder it
counts only that it is one, nothing else changes.

* **`Tree.look?`** — what is seen at a place from outside.
* **`Tree.look?_put`** — what is put at a place is seen there only.
* **`Tree.Keeps`** — what stays as it was when something is written at some places.
* **`Tree.keeps_prepare`**, **`Tree.write_prepare`** — making the folders for a write beforehand.
* **`Tree.Written`** — a text was written at a path.
* **`Tree.written_of_write`** — writing does that and no more. -/

namespace TurnByTurn.Tree

variable {t t' t'' new leaf : Tree} {current here there place rest : List String} {name text : String}
  {p : Path} {written written' : List String → Prop}

/-! ## Seen from outside -/

/-- A tree without what is in it. -/
def shell : Tree → Tree
  | folder _ => empty
  | t => t

/-- **What is seen at a place from outside.** -/
def look? (t : Tree) (place : List String) : Option Tree := (t.get? place).map shell

/-- Whether a tree is no folder. -/
def IsLeaf (t : Tree) : Prop := ∀ entries, t ≠ folder entries

/-- A file is no folder. -/
theorem isLeaf_file (text : String) : (file text).IsLeaf := fun _ => Tree.noConfusion

/-- A device is no folder. -/
theorem isLeaf_device (d : Device) : (device d).IsLeaf := fun _ => Tree.noConfusion

/-- Folders alone are seen as the empty one. -/
theorem shell_eq_empty_iff : t.shell = empty ↔ ∃ entries, t = folder entries := by
  cases t with
  | folder entries => exact iff_of_true rfl ⟨entries, rfl⟩
  | file text => exact iff_of_false nofun nofun
  | device d => exact iff_of_false nofun nofun

/-- Everything else is seen as it is. -/
theorem shell_eq_iff (h : leaf.IsLeaf) : t.shell = leaf ↔ t = leaf := by
  cases t with
  | folder entries => exact iff_of_false (fun heq => h [] heq.symm) fun heq => h entries heq.symm
  | file text => exact Iff.rfl
  | device d => exact Iff.rfl

/-- **A folder is seen as an empty one.** -/
theorem isFolder_iff : t.IsFolder place ↔ t.look? place = some empty := by
  rw [IsFolder, look?, Option.map_eq_some_iff]
  simp only [shell_eq_empty_iff]
  constructor
  · rintro ⟨entries, h⟩
    exact ⟨_, h, entries, rfl⟩
  · rintro ⟨found, h, entries, rfl⟩
    exact ⟨entries, h⟩

/-- **What is no folder is seen as it is.** -/
theorem look?_eq_some_iff (h : leaf.IsLeaf) : t.look? place = some leaf ↔ t.get? place = some leaf := by
  rw [look?, Option.map_eq_some_iff]
  simp only [shell_eq_iff h, exists_eq_right]

/-- What is at a place is no folder or one. -/
theorem isLeaf_of_get? (h : t.get? place = some leaf) (hfolder : ¬t.IsFolder place) : leaf.IsLeaf := by
  rintro entries rfl
  exact hfolder ⟨entries, h⟩

/-- Nothing is in what has no entries. -/
theorem get?_eq_none_of_entries (h : t.entries = []) : t.get? (name :: rest) = none := by
  rw [get?, h]
  rfl

/-- What is no folder has no entries. -/
theorem IsLeaf.entries_eq_nil (h : t.IsLeaf) : t.entries = [] := by
  cases t with
  | folder entries => exact absurd rfl (h entries)
  | file text => rfl
  | device d => rfl

/-! ## Putting -/

/-- A folder below is one in an entry. -/
theorem isFolder_cons_iff :
    t.IsFolder (name :: here) ↔ ∃ child, t.entries.lookup name = some child ∧ child.IsFolder here := by
  rw [IsFolder, get?]
  cases t.entries.lookup name with
  | none => simp
  | some child => simp [IsFolder]

/-- All places above a folder are folders. -/
theorem IsFolder.of_append (h : t.IsFolder (here ++ rest)) : t.IsFolder here := by
  cases rest with
  | nil => rwa [List.append_nil] at h
  | cons name rest =>
      obtain ⟨entries, h⟩ := h
      exact isFolder_of_get?_append h

/-- Other entries are found as before. -/
theorem lookup_setEntry_of_ne {other : String} (h : other ≠ name) (entries : List (String × Tree)) :
    (setEntry name new entries).lookup other = entries.lookup other := by
  induction entries with
  | nil => rw [setEntry, List.lookup_cons, beq_eq_false_iff_ne.mpr h]
  | cons entry entries ih =>
      obtain ⟨key, old⟩ := entry
      unfold setEntry
      split
      · rename_i hkey
        rw [List.lookup_cons, List.lookup_cons, hkey, beq_eq_false_iff_ne.mpr h]
      · rw [List.lookup_cons, List.lookup_cons, ih]

/-- What is below an entry after something was put into it or beside it. -/
theorem get?_put_cons (other : String) :
    (new.put t (name :: rest)).get? (other :: place)
      = if other = name then (new.put ((t.entries.lookup name).getD empty) rest).get? place
        else t.get? (other :: place) := by
  split_ifs with h
  · rw [h, put, get?, entries, lookup_setEntry]
  · rw [put, get?, entries, lookup_setEntry_of_ne h, get?]

/-- **What is put at a place is seen there only**, when it has no entries and displaces no folder. -/
theorem look?_put (hnew : new.entries = []) (hhere : t.IsFolder here)
    (hold : ¬t.IsFolder (here ++ [name])) (hplace : place ≠ here ++ [name]) :
    (new.put t (here ++ [name])).look? place = t.look? place := by
  induction here generalizing t place with
  | nil =>
      obtain ⟨entries, hroot⟩ := hhere
      obtain rfl : t = folder entries := Option.some.inj hroot
      cases place with
      | nil => rfl
      | cons other rest =>
          rw [List.nil_append, look?, look?, get?_put_cons]
          split_ifs with hother
          · subst hother
            cases rest with
            | nil => exact absurd rfl hplace
            | cons next rest =>
                have hnone : (folder entries).get? ([other] ++ next :: rest) = none := by
                  rw [get?_append, Option.bind_eq_none_iff]
                  exact fun old h => get?_eq_none_of_entries (isLeaf_of_get? h hold).entries_eq_nil
                rw [put, get?_eq_none_of_entries hnew]
                exact congrArg (Option.map shell) hnone.symm
          · rfl
  | cons first here ih =>
      obtain ⟨child, hchild, hfolder⟩ := isFolder_cons_iff.mp hhere
      cases place with
      | nil =>
          obtain ⟨entries, hroot⟩ : t.IsFolder [] := hhere.of_append
          obtain rfl : t = folder entries := Option.some.inj hroot
          rfl
      | cons other rest =>
          rw [List.cons_append, look?, look?, get?_put_cons]
          split_ifs with hother
          · subst hother
            rw [hchild, Option.getD_some, get?, hchild]
            refine ih hfolder (fun h => hold ?_) fun h => hplace (congrArg (other :: ·) h)
            exact isFolder_cons_iff.mpr ⟨child, hchild, h⟩
          · rfl

/-! ## What stays -/

/-- **What stays as it was** when something is written at some places: folders are folders still, and
elsewhere nothing is new but folders. -/
structure Keeps (written : List String → Prop) (t t' : Tree) : Prop where
  isFolder : ∀ place, t.IsFolder place → t'.IsFolder place
  elsewhere : ∀ place, ¬written place →
    t'.look? place = t.look? place ∨ t.look? place = none ∧ t'.IsFolder place

namespace Keeps

/-- **Putting keeps everything else**, when it is no folder that is displaced, and nothing comes with what is
put. -/
theorem put (hnew : new.entries = []) (hhere : t.IsFolder here) (hold : ¬t.IsFolder (here ++ [name])) :
    Keeps (· = here ++ [name]) t (new.put t (here ++ [name])) := by
  have helse (place : List String) (hplace : place ≠ here ++ [name]) :
      (new.put t (here ++ [name])).look? place = t.look? place :=
    look?_put hnew hhere hold hplace
  refine ⟨fun place hfolder => ?_, fun place hplace => Or.inl (helse place hplace)⟩
  have hplace : place ≠ here ++ [name] := fun heq => hold (heq ▸ hfolder)
  rw [isFolder_iff, helse place hplace, ← isFolder_iff]
  exact hfolder

/-- A tree keeps what it has. -/
theorem refl (written : List String → Prop) (t : Tree) : Keeps written t t :=
  ⟨fun _ h => h, fun _ _ => Or.inl rfl⟩

/-- What is kept twice is kept. -/
theorem trans (h : Keeps written t t') (h' : Keeps written t' t'') : Keeps written t t'' where
  isFolder place hfolder := h'.isFolder place (h.isFolder place hfolder)
  elsewhere place hplace := by
    obtain hsame' | ⟨hnone', hfolder'⟩ := h'.elsewhere place hplace
    · obtain hsame | ⟨hnone, hfolder⟩ := h.elsewhere place hplace
      · exact Or.inl (hsame'.trans hsame)
      · exact Or.inr ⟨hnone, h'.isFolder place hfolder⟩
    · obtain hsame | ⟨-, hfolder⟩ := h.elsewhere place hplace
      · exact Or.inr ⟨hsame ▸ hnone', hfolder'⟩
      · rw [isFolder_iff, hnone'] at hfolder
        cases hfolder

/-- More may be written than is. -/
theorem mono (h : Keeps written t t') (hwritten : ∀ place, written place → written' place) :
    Keeps written' t t' where
  isFolder := h.isFolder
  elsewhere place hplace := h.elsewhere place (mt (hwritten place) hplace)

/-- **Files and devices elsewhere stay what they are**, and there are no new ones. -/
theorem get?_eq_some_iff (h : Keeps written t t') (hplace : ¬written place) (hleaf : leaf.IsLeaf) :
    t'.get? place = some leaf ↔ t.get? place = some leaf := by
  rw [← look?_eq_some_iff hleaf, ← look?_eq_some_iff hleaf]
  obtain hsame | ⟨hnone, hfolder⟩ := h.elsewhere place hplace
  · rw [hsame]
  · have hempty : some empty ≠ some leaf := fun heq => hleaf [] (Option.some.inj heq).symm
    rw [hnone, isFolder_iff.mp hfolder]
    exact iff_of_false hempty nofun

/-- **A file elsewhere is found at its path as before.** -/
theorem find?_eq_file (h : Keeps written t t') (hplace : ¬written (p.place current))
    (hfile : t.find? current p = some (file text)) : t'.find? current p = some (file text) := by
  have hget := get?_place_of_find? hfile
  rw [find?, Option.bind_eq_some_iff] at hfile ⊢
  obtain ⟨place, hlocate, -⟩ := hfile
  obtain rfl := locate?_eq_some hlocate
  exact ⟨_, locate?_mono h.isFolder hlocate, (h.get?_eq_some_iff hplace (isLeaf_file text)).mpr hget⟩

end Keeps

/-! ## Writing -/

/-- **Making the folder of a segment** changes nothing else. -/
theorem of_makeFolder {segment : String} (h : makeFolder (t, here) segment = some (t', there)) :
    t.IsFolder here ∧ there = Path.step here segment ∧ t'.IsFolder there ∧
      Keeps (fun _ => False) t t' := by
  rw [makeFolder] at h
  split at h
  · cases h
  · rename_i next henter
    obtain ⟨hhere, hnext⟩ := enter_eq_some_iff.mp henter
    split at h
    · rename_i entries hentries
      cases h
      exact ⟨hhere, hnext, ⟨entries, hentries⟩, .refl _ t⟩
    · cases h
    · rename_i hnone
      cases h
      have hmissing : ¬t.IsFolder there := by
        rintro ⟨entries, hentries⟩
        rw [hnone] at hentries
        cases hentries
      -- the place is missing, so the segment neither stays nor goes back
      have hthere : there = here ++ [segment] := by
        rw [Path.step] at hnext
        split_ifs at hnext with hstay hback
        · exact absurd (hnext ▸ hhere) hmissing
        · obtain ⟨last, hlast⟩ := List.dropLast_prefix here
          rw [← hlast] at hhere
          exact absurd (hnext ▸ hhere.of_append) hmissing
        · exact hnext
      have hput : (empty.put t there).IsFolder there := ⟨[], get?_put empty t there⟩
      rw [hthere] at hput hmissing hnone ⊢
      have hkeeps : Keeps _ t (empty.put t _) := Keeps.put rfl hhere hmissing
      refine ⟨hhere, hthere ▸ hnext, hput, hkeeps.isFolder, fun place _ => ?_⟩
      by_cases hplace : place = here ++ [segment]
      · subst hplace
        exact Or.inr ⟨by rw [look?, hnone]; rfl, hput⟩
      · exact hkeeps.elsewhere place hplace

/-- **Making the folders of a path** changes nothing else, and the path can be followed then. -/
theorem of_foldlM_makeFolder {segments : List String}
    (h : segments.foldlM makeFolder (t, here) = some (t', there)) :
    segments.foldlM t'.enter here = some there ∧ Keeps (fun _ => False) t t' ∧
      (segments ≠ [] → t'.IsFolder there) := by
  induction segments generalizing t here with
  | nil =>
      cases h
      exact ⟨rfl, .refl _ _, absurd rfl⟩
  | cons segment segments ih =>
      rw [List.foldlM_cons, Option.bind_eq_bind, Option.bind_eq_some_iff] at h
      obtain ⟨⟨t₁, next⟩, hmake, h⟩ := h
      obtain ⟨hhere, hnext, hfolder, hkeeps⟩ := of_makeFolder hmake
      obtain ⟨hwalk, hkeeps', hthere⟩ := ih h
      have hall := hkeeps.trans hkeeps'
      have henter : t'.enter here segment = some next :=
        enter_eq_some_iff.mpr ⟨hall.isFolder here hhere, hnext⟩
      refine ⟨?_, hall, fun _ => ?_⟩
      · rw [List.foldlM_cons, henter]
        exact hwalk
      · cases segments with
        | nil =>
            cases h
            exact hfolder
        | cons _ _ => exact hthere (List.cons_ne_nil _ _)

/-- **Making folders** changes nothing else. -/
theorem keeps_makeFolders (t : Tree) (here segments : List String) :
    Keeps (fun _ => False) t (t.makeFolders here segments) := by
  induction segments generalizing t here with
  | nil => exact .refl _ t
  | cons segment segments ih =>
      rw [makeFolders]
      cases hmake : makeFolder (t, here) segment with
      | none => exact .refl _ t
      | some at' => exact (of_makeFolder hmake).2.2.2.trans (ih at'.1 at'.2)

/-- **Preparing a write** makes folders and changes nothing else. -/
theorem keeps_prepare (t : Tree) (current : List String) (p : Path) :
    Keeps (fun _ => False) t (t.prepare current p) := keeps_makeFolders t _ _

/-- A folder that is there is not made. -/
theorem makeFolder_of_isFolder {segment : String} (hhere : t.IsFolder here)
    (hthere : t.IsFolder (Path.step here segment)) :
    makeFolder (t, here) segment = some (t, Path.step here segment) := by
  obtain ⟨entries, hentries⟩ := hthere
  rw [makeFolder, enter_eq_some_iff.mpr ⟨hhere, rfl⟩]
  simp only [hentries]

/-- **Folders that were made already are found**, and the others are missing still. -/
theorem foldlM_makeFolder_makeFolders (t : Tree) (here segments : List String) :
    segments.foldlM makeFolder (t.makeFolders here segments, here) = segments.foldlM makeFolder (t, here) := by
  induction segments generalizing t here with
  | nil => rfl
  | cons segment segments ih =>
      rw [makeFolders, List.foldlM_cons, List.foldlM_cons]
      cases hmake : makeFolder (t, here) segment with
      | none =>
          dsimp only
          rw [hmake]
      | some at' =>
          obtain ⟨t₁, there⟩ := at'
          obtain ⟨hhere, rfl, hthere, hkeeps⟩ := of_makeFolder hmake
          have hlater := keeps_makeFolders t₁ (Path.step here segment) segments
          have hfound := makeFolder_of_isFolder (hlater.isFolder _ (hkeeps.isFolder _ hhere))
            (hlater.isFolder _ hthere)
          dsimp only
          rw [hfound]
          exact ih t₁ _

/-- **A write after its folders were made** does what it would have done before. -/
theorem write_prepare (t : Tree) (current : List String) (p : Path) (text : String) :
    (t.prepare current p).write current p text = t.write current p text := by
  rw [write, write]
  split
  · rename_i name husable hlast
    obtain ⟨base, hbase⟩ := List.getLast?_eq_some_iff.mp hlast
    rw [hbase, List.dropLast_concat]
    by_cases hname : name = "" ∨ name = "." ∨ name = ".."
    · -- nothing can be written there in any tree
      simp only [if_pos hname]
      split <;> split <;> rfl
    · have hmakeable : p.makeable = base := by
        refine Path.makeable_of_isUsable husable hbase fun hstays => hname ?_
        obtain hempty | hdot := of_decide_eq_true hstays
        · exact Or.inl hempty
        · exact Or.inr (Or.inl hdot)
      rw [prepare, hmakeable, foldlM_makeFolder_makeFolders]
  · rfl

/-- **A text was written at a path**: no folder was there, a device takes the text, and otherwise a file has
it then. Nothing else has changed. -/
structure Written (current : List String) (p : Path) (text : String) (t t' : Tree) : Prop where
  not_isFolder : ¬t.IsFolder (p.place current)
  keeps : Keeps (· = p.place current) t t'
  outcome : (∃ d d', t.get? (p.place current) = some (device d) ∧
      t'.get? (p.place current) = some (device d')) ∨
    (∀ d, t.get? (p.place current) ≠ some (device d)) ∧ t'.find? current p = some (file text)

/-- A device may take a text and stay as it is, while nothing is made but folders. -/
theorem Written.of_device {d : Device} (h : t.get? (p.place current) = some (device d)) (text : String)
    (hkeeps : Keeps (fun _ => False) t t') : Written current p text t t' where
  not_isFolder := by
    rintro ⟨entries, hentries⟩
    cases h.symm.trans hentries
  keeps := hkeeps.mono fun _ => False.elim
  outcome := Or.inl ⟨d, d, h, (hkeeps.get?_eq_some_iff id (isLeaf_device d)).mpr h⟩

/-- **Devices stay, and none is made.** -/
theorem Written.device_iff (h : Written current p text t t') (place : List String) :
    (∃ d, t'.get? place = some (device d)) ↔ ∃ d, t.get? place = some (device d) := by
  by_cases hplace : place = p.place current
  · subst hplace
    obtain ⟨d, d', hd, hd'⟩ | ⟨hnone, hfile⟩ := h.outcome
    · exact iff_of_true ⟨d', hd'⟩ ⟨d, hd⟩
    · refine iff_of_false ?_ (not_exists.mpr hnone)
      rintro ⟨d, hd⟩
      cases (get?_place_of_find? hfile).symm.trans hd
  · exact exists_congr fun d => h.keeps.get?_eq_some_iff hplace (isLeaf_device d)

/-- What writing a text in an existing folder changes. -/
theorem of_writeAt (hhere : t.IsFolder here) (h : t.writeAt (here ++ [name]) text = .ok t') :
    ¬t.IsFolder (here ++ [name]) ∧ Keeps (· = here ++ [name]) t t' ∧
      ((∃ d d', t.get? (here ++ [name]) = some (device d) ∧
          t'.get? (here ++ [name]) = some (device d')) ∨
        (∀ d, t.get? (here ++ [name]) ≠ some (device d)) ∧
          t'.get? (here ++ [name]) = some (file text)) := by
  rw [writeAt] at h
  split at h
  · cases h
  · rename_i d hd
    have hfolder : ¬t.IsFolder (here ++ [name]) := by
      rintro ⟨entries, hentries⟩
      cases hd.symm.trans hentries
    cases hwrite : d.write text with
    | error fault =>
        rw [hwrite] at h
        cases h
    | ok d' =>
        rw [hwrite] at h
        cases h
        exact ⟨hfolder, Keeps.put rfl hhere hfolder, Or.inl ⟨d, d', hd, get?_put _ _ _⟩⟩
  · rename_i hfolder hdevice
    cases h
    have hfolder : ¬t.IsFolder (here ++ [name]) := fun ⟨entries, hentries⟩ => hfolder entries hentries
    exact ⟨hfolder, Keeps.put rfl hhere hfolder, Or.inr ⟨hdevice, get?_put _ _ _⟩⟩

/-- **Writing makes the folders on the way and then writes in the last one**, unless it is stopped before. A
path of a single segment needs the folder in which it begins. -/
theorem exists_writeAt {result : Except WriteFault Tree}
    (hbegin : p.segments.length = 1 → t.IsFolder (p.origin current))
    (h : t.write current p text = result) (hresult : result ≠ .error .unreachable) :
    ∃ t₁ here name, p.place current = here ++ [name] ∧ t₁.IsFolder here ∧
      Keeps (fun _ => False) t t₁ ∧ result = t₁.writeAt (here ++ [name]) text ∧
        ∀ t₂ : Tree, (∀ place, t₁.IsFolder place → t₂.IsFolder place) →
          t₂.locate? current p = some (here ++ [name]) := by
  rw [write] at h
  split at h
  · rename_i name husable hlast
    obtain ⟨base, hbase⟩ := List.getLast?_eq_some_iff.mp hlast
    rw [hbase, List.dropLast_concat] at h
    split at h
    · rename_i t₁ here hmake
      obtain ⟨hwalk, hkeeps, hfolder⟩ := of_foldlM_makeFolder hmake
      split at h
      · exact absurd h.symm hresult
      · rename_i hname
        have hhere : t₁.IsFolder here := by
          cases base with
          | nil =>
              cases hmake
              exact hbegin (by rw [hbase]; rfl)
          | cons _ _ => exact hfolder (List.cons_ne_nil _ _)
        refine ⟨t₁, here, name, ?_, hhere, hkeeps, h.symm, fun t₂ hfolders => ?_⟩
        · rw [Path.place, hbase, List.foldl_append, ← foldlM_enter_eq_some hwalk]
          exact Path.step_of_not here hname
        · have henter : t₂.enter here name = some (here ++ [name]) :=
            enter_eq_some_iff.mpr ⟨hfolders _ hhere, (Path.step_of_not here hname).symm⟩
          rw [locate?, if_pos husable, hbase, List.foldlM_append, foldlM_enter_mono hfolders hwalk]
          simp [henter]
    · exact absurd h.symm hresult
  · exact absurd h.symm hresult

/-- **Writing a text does that and no more.** -/
theorem written_of_write (hbegin : p.segments.length = 1 → t.IsFolder (p.origin current))
    (h : t.write current p text = .ok t') : Written current p text t t' := by
  obtain ⟨t₁, here, name, hplace, hhere, hkeeps, hwrite, hlocate⟩ := exists_writeAt hbegin h nofun
  obtain ⟨hfolder, hkeeps', houtcome⟩ := of_writeAt hhere hwrite.symm
  have hkeeps₁ : Keeps (· = here ++ [name]) t t₁ := hkeeps.mono fun _ => False.elim
  have hdevice (d : Device) :
      t₁.get? (here ++ [name]) = some (device d) ↔ t.get? (here ++ [name]) = some (device d) :=
    hkeeps.get?_eq_some_iff id (isLeaf_device d)
  constructor
  · rw [hplace]
    exact mt (hkeeps.isFolder _) hfolder
  · rw [hplace]
    exact hkeeps₁.trans hkeeps'
  · simp only [hdevice, ne_eq] at houtcome
    rw [find?, hlocate t' hkeeps'.isFolder, hplace]
    exact houtcome

/-- **Where there is no room for a text, a device is.** -/
theorem exists_device_of_write (hbegin : p.segments.length = 1 → t.IsFolder (p.origin current))
    (h : t.write current p text = .error .full) : ∃ d, t.get? (p.place current) = some (device d) := by
  obtain ⟨t₁, here, name, hplace, hhere, hkeeps, hwrite, -⟩ := exists_writeAt hbegin h nofun
  rw [writeAt] at hwrite
  split at hwrite
  · cases hwrite
  · rename_i d hd
    exact ⟨d, hplace ▸ (hkeeps.get?_eq_some_iff id (isLeaf_device d)).mp hd⟩
  · cases hwrite

end TurnByTurn.Tree
