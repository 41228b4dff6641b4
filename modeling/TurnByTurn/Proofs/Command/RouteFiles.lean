import TurnByTurn.Proofs.Command.Effects
import TurnByTurn.Proofs.Files.Listing

/-! # The route files below a folder

The route files below a folder are those of its files whose names end in `.json` after something else, in the
order of their names. In which order a system lists the entries of folders makes no difference.

* **`IsRouteName`** — the names of route files.
* **`extension?_eq_json_iff`** — these are the names with the extension `json`.
* **`Trace.ListsRoutes`** — what the files and the route files below a folder are.
* **`Trace.listsRoutes_gather`** — for any tree, and for any order of the entries in it. -/

namespace TurnByTurn

/-! ## Names of route files -/

/-- **The names of route files** have something before `.json`. -/
def IsRouteName (name : String) : Prop := ∃ stem, stem ≠ "" ∧ name = stem ++ ".json"

/-- **They are the names with the extension `json`.** -/
theorem extension?_eq_json_iff {name : String} : extension? name = some "json" ↔ IsRouteName name := by
  rw [extension?]
  constructor
  · intro h
    split at h
    · rename_i before rest hdrop
      have hend : (name.toList.reverse.takeWhile (· ≠ '.')).reverse = "json".toList :=
        String.ofList_injective (Option.some.inj h)
      have hname := List.takeWhile_append_dropWhile (p := (· ≠ '.')) (l := name.toList.reverse)
      refine ⟨.ofList (before :: rest).reverse, by simp, ?_⟩
      apply String.toList_injective
      rw [← List.reverse_reverse name.toList, ← hname, hdrop, List.reverse_append, hend]
      simp
    · cases h
  · rintro ⟨stem, hstem, rfl⟩
    obtain ⟨before, rest, hbefore⟩ := List.exists_cons_of_ne_nil
      (mt List.reverse_eq_nil_iff.mp (mt String.toList_eq_nil_iff.mp hstem))
    simp [hbefore, List.dropWhile, List.takeWhile]

instance : DecidablePred IsRouteName := fun _ => decidable_of_iff _ extension?_eq_json_iff

/-- Only the last point counts, and it has to have something before it. -/
example : IsRouteName "a.b.json" ∧ ¬IsRouteName ".json" ∧ ¬IsRouteName "a.JSON" := by decide

/-! ## Files and route files -/

namespace Command.Trace

open TurnByTurn.Tree (Relisted folder file)

variable {current : List String} {environment : String → Option String} {t t' : Tree} {p : Path}
  {entries listed : List (String × Tree)}

/-- All route files below a folder have the name of one. -/
theorem isRouteName_of_routeFiles {routes : List (List String)}
    (h : on (routeFiles (Tree.host current environment) p) t = (.ok routes, t')) :
    ∀ names ∈ routes, IsRouteName (names.getLastD "") := by
  obtain ⟨entries, hentries⟩ := exists_folder_of_routeFiles h
  rw [on_routeFiles hentries] at h
  cases h
  intro names hnames
  have hextension := (List.mem_filter.mp hnames).2
  exact extension?_eq_json_iff.mp (of_decide_eq_true hextension)

/-- The route files below a folder are files that a walk through it finds. -/
theorem on_routeFiles_eq_gather (ht : t.WellFormed) (hfolder : t.find? current p = some (folder entries)) :
    on (routeFiles (Tree.host current environment) p) t
      = (.ok (((folder entries).gather p).filter fun names => IsRouteName (names.getLastD "")), t) := by
  have hentries : (folder entries).WellFormed := ht.of_get? (Tree.get?_place_of_find? hfolder)
  have hroutes : (fun names : List String => decide (extension? (names.getLastD "") = some "json"))
      = fun names => decide (IsRouteName (names.getLastD "")) := by
    funext names
    rw [decide_eq_decide]
    exact extension?_eq_json_iff
  rw [on_routeFiles hfolder, Tree.gather_folder hentries, hroutes]

/-- **What the files and the route files below a folder are**: a list of all files, in order, of which the route
files are those with the name of one. -/
structure ListsRoutes (current : List String) (environment : String → Option String) (t : Tree) (p : Path)
    (files : List (List String)) : Prop where
  lists : t.Lists current p files
  routes : on (routeFiles (Tree.host current environment) p) t
    = (.ok (files.filter fun names => IsRouteName (names.getLastD "")), t)

/-- **A walk through a folder lists the files below it, and the route files among them**, and does so in any order
in which the entries are listed. -/
theorem listsRoutes_gather (ht : t.WellFormed) (hp : p.text ≠ "")
    (hfolder : t.find? current p = some (folder entries)) :
    ListsRoutes current environment t p ((folder entries).gather p) ∧
      ∀ t', t.Relisted t' → ∃ listed, t'.find? current p = some (folder listed) ∧
        (folder listed).gather p = (folder entries).gather p ∧
          ListsRoutes current environment t' p ((folder entries).gather p) := by
  refine ⟨⟨Tree.lists_gather ht hp hfolder, on_routeFiles_eq_gather ht hfolder⟩, fun t' hrelisted => ?_⟩
  obtain ⟨found, hfound, hinside⟩ := hrelisted.exists_of_find? ht hfolder
  have ht' := hrelisted.wellFormed ht
  cases hinside with
  | @ofFolder _ listed names inside =>
      have hsame : (folder listed).gather p = (folder entries).gather p :=
        (Relisted.ofFolder names inside).gather_eq (ht.of_get? (Tree.get?_place_of_find? hfolder))
      refine ⟨listed, hfound, hsame, ?_⟩
      rw [← hsame]
      exact ⟨Tree.lists_gather ht' hp hfound, on_routeFiles_eq_gather ht' hfound⟩

/-- Entries of a folder: a route file and a folder with another one, which is listed later but comes first, and a
file without an extension. -/
def mixedEntries : List (String × Tree) :=
  [("b.json", file ""), ("a", folder [("c.json", file "")]), (".json", file "")]

/-- The tree with this folder. -/
def mixed : Tree := folder [("in", folder mixedEntries)]

theorem wellFormed_mixed : mixed.WellFormed := .of_isWellFormed (by decide)

theorem listsRoutes_gather_mixed :
    mixed.WellFormed ∧ (⟨"in"⟩ : Path).text ≠ "" ∧ mixed.find? [] ⟨"in"⟩ = some (folder mixedEntries) ∧
      ListsRoutes [] (fun _ => none) mixed ⟨"in"⟩ ((folder mixedEntries).gather ⟨"in"⟩) ∧
      ∀ t', mixed.Relisted t' → ∃ listed, t'.find? [] ⟨"in"⟩ = some (folder listed) ∧
        (folder listed).gather ⟨"in"⟩ = (folder mixedEntries).gather ⟨"in"⟩ ∧
          ListsRoutes [] (fun _ => none) t' ⟨"in"⟩ ((folder mixedEntries).gather ⟨"in"⟩) :=
  have hp : (⟨"in"⟩ : Path).text ≠ "" := by decide
  ⟨wellFormed_mixed, hp, rfl, listsRoutes_gather wellFormed_mixed hp rfl⟩

end Command.Trace

end TurnByTurn
