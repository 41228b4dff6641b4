import TurnByTurn.Proofs.Command.Arguments
import TurnByTurn.Proofs.Command.Effects

/-! # The traces of a folder of routes

With an output folder each trace is saved under the name of its route file. Only the name counts, not the
folders in which the route file lies, so of several route files of one name the last one has its trace kept.

* **`Trace.textIn`**, **`Trace.output`** — the trace of a route file, and where it is saved.
* **`Trace.HasSaved`** — what a run over some route files leaves behind.
* **`Trace.exists_hasSaved_of_saveAll`** — every run saves route files up to one at which it goes no further.
* **`Trace.KeepsOwn`** — whether every route file has its own trace in the end.
* **`Trace.keepsOwn_iff_of_run`** — when it has, and what is there otherwise.
* **`Trace.not_keepsOwn_namesakes`** — two route files of one name in different folders. -/

namespace TurnByTurn.Command.Trace

open Json (Value)

variable {current : List String} {environment : String → Option String} {asked : Trace} {out : Path}
  {t t' after : Tree} {names : List String} {routes : List (List String)}

/-! ## Route files -/

/-- **Where the trace of a file is saved**: under the file's own name in the output folder. -/
def output (out : Path) (names : List String) : Path := out.join (names.getLastD "")

/-- **The text of the trace of a file** below the input folder. -/
def textIn (current : List String) (environment : String → Option String) (asked : Trace) (t : Tree)
    (names : List String) : Except Fault String :=
  (on (ofFile (Tree.host current environment) asked (asked.input.joinAll names)) t).1.map Value.pretty

/-- Whether a file is below the input folder. -/
structure IsBelow (current : List String) (asked : Trace) (t : Tree) (names : List String) : Prop where
  ne_nil : names ≠ []
  isName : ∀ name ∈ names, IsName name
  exists_file : ∃ text, t.find? current (asked.input.joinAll names) = some (.file text)

/-- **Route files are below the input folder.** -/
theorem isBelow_of_routeFiles (ht : t.WellFormed) (hinput : asked.input.text ≠ "")
    (hroutes : on (routeFiles (Tree.host current environment) asked.input) t = (.ok routes, t)) :
    t.IsFolder (asked.input.place current) ∧ ∀ names ∈ routes, IsBelow current asked t names := by
  obtain ⟨entries, hentries⟩ := exists_folder_of_routeFiles hroutes
  refine ⟨⟨entries, Tree.get?_place_of_find? hentries⟩, fun names hnames => ?_⟩
  rw [on_routeFiles hentries] at hroutes
  cases hroutes
  obtain ⟨hbelow, husable⟩ := List.mem_filter.mp
    ((perm_sortedNames _).mem_iff.mp (List.mem_filter.mp hnames).1)
  obtain ⟨hname, hfile⟩ := Tree.exists_file_of_mem_filesIn ht hinput hentries hbelow husable
  refine ⟨?_, hname, hfile⟩
  obtain ⟨entry, -, rest, -, rfl⟩ := Tree.mem_filesIn_iff.mp hbelow
  exact List.cons_ne_nil _ _

/-- The name of a file below the input folder is one. -/
theorem IsBelow.isName_getLastD (h : IsBelow current asked t names) : IsName (names.getLastD "") := by
  have hlast : names.getLastD "" = names.getLast h.ne_nil := by
    rw [List.getLastD_eq_getLast?, List.getLast?_eq_some_getLast h.ne_nil, Option.getD_some]
  rw [hlast]
  exact h.isName _ (List.getLast_mem _)

/-- A trace is saved in the output folder. -/
theorem IsBelow.place_output (h : IsBelow current asked t names) (hout : out.text ≠ "") :
    (output out names).place current = out.place current ++ [names.getLastD ""] :=
  Path.place_join hout h.isName_getLastD

/-- **What is written outside the input folder** leaves the files below it as they are. -/
theorem IsBelow.find?_of_keeps (h : IsBelow current asked t names) (hinput : asked.input.text ≠ "")
    (hkeeps : Tree.Keeps (fun place => ¬asked.input.place current <+: place) t t') :
    t'.find? current (asked.input.joinAll names) = t.find? current (asked.input.joinAll names) := by
  obtain ⟨text, htext⟩ := h.exists_file
  rw [htext]
  refine hkeeps.find?_eq_file ?_ htext
  rw [Path.place_joinAll hinput h.isName, not_not]
  exact List.prefix_append _ _

/-- They are below it still. -/
theorem IsBelow.of_keeps (h : IsBelow current asked t names) (hinput : asked.input.text ≠ "")
    (hkeeps : Tree.Keeps (fun place => ¬asked.input.place current <+: place) t t') :
    IsBelow current asked t' names :=
  ⟨h.ne_nil, h.isName, (h.find?_of_keeps hinput hkeeps).symm ▸ h.exists_file⟩

/-- They have the same traces. -/
theorem IsBelow.textIn_of_keeps (h : IsBelow current asked t names) (hinput : asked.input.text ≠ "")
    (hkeeps : Tree.Keeps (fun place => ¬asked.input.place current <+: place) t t') :
    textIn current environment asked t' names = textIn current environment asked t names := by
  have hread : t'.read? current (asked.input.joinAll names)
      = t.read? current (asked.input.joinAll names) := by
    rw [Tree.read?, Tree.read?, h.find?_of_keeps hinput hkeeps]
  rw [textIn, textIn, (reads_ofFile environment asked).on_fst_congr hread]

/-! ## One route file after the other -/

/-- **Why a run goes no further than a route file**: it has no trace, or this cannot be written. -/
inductive Stuck (current : List String) (environment : String → Option String) (asked : Trace) (out : Path)
    (t after : Tree) (names : List String) : Prop
  | untraced (h : (textIn current environment asked t names).isOk = false)
  | unwritten {text : String} {cause : WriteFault} (htext : textIn current environment asked t names = .ok text)
      (hwrite : after.write current (output out names) text = .error cause)

/-- **What a run does with the first route file**: it goes no further and has made nothing but folders, or it
writes its trace and goes on. -/
theorem stuck_or_written_of_saveAll_cons {result : Except Fault Unit} (hbelow : IsBelow current asked t names)
    (h : on (saveAll (Tree.host current environment) asked out (names :: routes)) t = (result, after)) :
    ((∃ fault, result = .error fault) ∧ Tree.Keeps (fun _ => False) t after ∧
        Stuck current environment asked out t after names) ∨
      ∃ text t₁, textIn current environment asked t names = .ok text ∧
        Tree.Written current (output out names) text t t₁ ∧
        on (saveAll (Tree.host current environment) asked out routes) t₁ = (result, after) := by
  rw [saveAll, on_bind, (reads_ofFile environment asked).on_eq] at h
  cases htrace : (on (ofFile (Tree.host current environment) asked (asked.input.joinAll names)) t).1 with
  | error fault =>
      rw [htrace] at h
      -- the trace is computed before anything is written
      obtain ⟨rfl, rfl⟩ := Prod.mk.inj h
      exact Or.inl ⟨⟨fault, rfl⟩, .refl _ t, .untraced (by rw [textIn, htrace]; rfl)⟩
  | ok trace =>
      have htext : textIn current environment asked t names = .ok trace.pretty := by
        rw [textIn, htrace]
        rfl
      rw [htrace] at h
      dsimp only at h
      rw [on_bind] at h
      cases hsave : on (saveTrace (Tree.host current environment) (output out names) trace) t with
      | mk saved t₁ =>
          rw [← output, hsave] at h
          cases saved with
          | error fault =>
              obtain ⟨rfl, rfl⟩ := Prod.mk.inj h
              obtain ⟨hkeeps, cause, hwrite⟩ := unwritten_of_saveTrace hsave
              exact Or.inl ⟨⟨fault, rfl⟩, hkeeps, .unwritten htext hwrite⟩
          | ok _ =>
              have hbegin : (output out names).segments.length ≠ 1 :=
                Path.length_segments_join_ne_one out hbelow.isName_getLastD
              exact Or.inr ⟨trace.pretty, t₁, htext, written_of_saveTrace (absurd · hbegin) hsave, h⟩

/-- **What a run over some route files leaves behind.** -/
structure HasSaved (current : List String) (environment : String → Option String) (asked : Trace)
    (out : Path) (t : Tree) (routes : List (List String)) (after : Tree) : Prop where
  /-- Nothing is written but the outputs. -/
  keeps : Tree.Keeps (fun place => ∃ names ∈ routes, place = (output out names).place current) t after
  /-- Devices stay, and none is made. -/
  device_iff : ∀ place, (∃ d, after.get? place = some (.device d)) ↔
    ∃ d, t.get? place = some (.device d)
  /-- Every route file has a trace. -/
  exists_text : ∀ names ∈ routes, ∃ text, textIn current environment asked t names = .ok text
  /-- The last route file of a name has its trace at its output, unless a device is there. -/
  find?_last : ∀ before names later text, routes = before ++ names :: later →
    (∀ other ∈ later, other.getLastD "" ≠ names.getLastD "") →
      textIn current environment asked t names = .ok text →
        (∀ d, t.get? ((output out names).place current) ≠ some (.device d)) →
          after.find? current (output out names) = some (.file text)

/-- An output in the place of the input folder itself cannot be written, so what is written is outside. -/
theorem not_isPrefix_output {text : String} (hbelow : IsBelow current asked t names)
    (hout : out.text ≠ "") (houtside : ¬asked.input.place current <+: out.place current)
    (hfolder : t.IsFolder (asked.input.place current))
    (hwritten : Tree.Written current (output out names) text t t') :
    ¬asked.input.place current <+: (output out names).place current := by
  rw [hbelow.place_output hout, List.prefix_concat_iff, ← hbelow.place_output hout]
  rintro (heq | hprefix)
  · exact hwritten.not_isFolder (heq ▸ hfolder)
  · exact houtside hprefix

/-- **One more route file is saved before the others.** A later one of its name replaces its trace. -/
theorem HasSaved.cons {text : String} (hout : out.text ≠ "")
    (hbelow : ∀ other ∈ names :: routes, IsBelow current asked t other)
    (htext : textIn current environment asked t names = .ok text)
    (hwritten : Tree.Written current (output out names) text t t')
    (hsame : ∀ other ∈ routes,
      textIn current environment asked t' other = textIn current environment asked t other)
    (hsaved : HasSaved current environment asked out t' routes after) :
    HasSaved current environment asked out t (names :: routes) after where
  keeps := by
    refine (hwritten.keeps.mono ?_).trans (hsaved.keeps.mono ?_)
    · rintro place rfl
      exact ⟨names, List.mem_cons_self, rfl⟩
    · rintro place ⟨other, hother, rfl⟩
      exact ⟨other, List.mem_cons_of_mem names hother, rfl⟩
  device_iff place := (hsaved.device_iff place).trans (hwritten.device_iff place)
  exists_text := by
    refine List.forall_mem_cons.mpr ⟨⟨text, htext⟩, fun other hother => ?_⟩
    rw [← hsame other hother]
    exact hsaved.exists_text other hother
  find?_last before last later text' hsplit hlater htext' hdevice := by
    cases before with
    | nil =>
        -- nothing later has the name, so the file stays as it was written
        obtain ⟨rfl, rfl⟩ := List.cons.inj hsplit
        obtain rfl : text = text' := Except.ok.inj (htext.symm.trans htext')
        obtain ⟨d, -, hd, -⟩ | ⟨-, hfile⟩ := hwritten.outcome
        · exact absurd hd (hdevice d)
        · refine hsaved.keeps.find?_eq_file ?_ hfile
          rintro ⟨other, hother, heq⟩
          rw [(hbelow names List.mem_cons_self).place_output hout,
            (hbelow other (List.mem_cons_of_mem names hother)).place_output hout] at heq
          exact hlater other hother (List.append_singleton_inj.mp heq).2.symm
    | cons first before =>
        obtain ⟨-, hrest⟩ := List.cons.inj hsplit
        have hlast : last ∈ routes := by simp [hrest]
        refine hsaved.find?_last before last later text' hrest hlater ?_ ?_
        · rw [hsame last hlast, htext']
        · intro d hd
          obtain ⟨d', hd'⟩ := (hwritten.device_iff _).mp ⟨d, hd⟩
          exact hdevice d' hd'

/-- Nothing but folders is left behind where no route files were saved. -/
theorem HasSaved.nil (hkeeps : Tree.Keeps (fun _ => False) t after) :
    HasSaved current environment asked out t [] after where
  keeps := hkeeps.mono fun _ => False.elim
  device_iff place := exists_congr fun d => hkeeps.get?_eq_some_iff id (Tree.isLeaf_device d)
  exists_text := by simp
  find?_last := by simp

/-- **Every run has saved the route files up to one at which it goes no further.** -/
theorem exists_hasSaved_of_saveAll {result : Except Fault Unit} (hinput : asked.input.text ≠ "")
    (hout : out.text ≠ "") (houtside : ¬asked.input.place current <+: out.place current)
    (hfolder : t.IsFolder (asked.input.place current))
    (hbelow : ∀ names ∈ routes, IsBelow current asked t names)
    (h : on (saveAll (Tree.host current environment) asked out routes) t = (result, after)) :
    ∃ done rest, routes = done ++ rest ∧ HasSaved current environment asked out t done after ∧
      (rest = [] ∧ result = .ok () ∨
        (∃ fault, result = .error fault) ∧
          ∃ names later, rest = names :: later ∧ Stuck current environment asked out t after names) := by
  -- the input folder and the files below it are there before every step
  induction routes generalizing t with
  | nil =>
      obtain ⟨rfl, rfl⟩ := Prod.mk.inj h
      exact ⟨[], [], rfl, .nil (.refl _ t), Or.inl ⟨rfl, rfl⟩⟩
  | cons names routes ih =>
      obtain ⟨hnames, hroutes⟩ := List.forall_mem_cons.mp hbelow
      obtain ⟨hfault, hkeeps, hstuck⟩ | ⟨text, t₁, htext, hwritten, hrest⟩ :=
        stuck_or_written_of_saveAll_cons hnames h
      · exact ⟨[], names :: routes, rfl, .nil hkeeps, Or.inr ⟨hfault, names, routes, rfl, hstuck⟩⟩
      · have hkeeps : Tree.Keeps (fun place => ¬asked.input.place current <+: place) t t₁ := by
          refine hwritten.keeps.mono ?_
          rintro place rfl
          exact not_isPrefix_output hnames hout houtside hfolder hwritten
        have hsame (other : List String) (hother : other ∈ routes) :
            textIn current environment asked t₁ other = textIn current environment asked t other :=
          (hroutes other hother).textIn_of_keeps hinput hkeeps
        obtain ⟨done, rest, rfl, hsaved, hend⟩ := ih (hkeeps.isFolder _ hfolder)
          (fun other hother => (hroutes other hother).of_keeps hinput hkeeps) hrest
        refine ⟨names :: done, rest, rfl, ?_, ?_⟩
        · exact hsaved.cons hout (fun other hother => hbelow other (List.mem_append_left rest hother)) htext
            hwritten fun other hother => hsame other (List.mem_append_left rest hother)
        · -- what holds of the traces after the first step held before it
          obtain hok | ⟨hfault, next, later, rfl, hstuck⟩ := hend
          · exact Or.inl hok
          · have hnext := hsame next (List.mem_append_right done List.mem_cons_self)
            refine Or.inr ⟨hfault, next, later, rfl, ?_⟩
            cases hstuck with
            | untraced huntraced => exact .untraced (hnext ▸ huntraced)
            | unwritten htext hwrite => exact .unwritten (hnext ▸ htext) hwrite

/-- **Every run that succeeds has saved its route files.** -/
theorem hasSaved_of_saveAll (hinput : asked.input.text ≠ "") (hout : out.text ≠ "")
    (houtside : ¬asked.input.place current <+: out.place current)
    (hfolder : t.IsFolder (asked.input.place current))
    (hbelow : ∀ names ∈ routes, IsBelow current asked t names)
    (h : on (saveAll (Tree.host current environment) asked out routes) t = (.ok (), after)) :
    HasSaved current environment asked out t routes after := by
  obtain ⟨done, rest, rfl, hsaved, ⟨rfl, -⟩ | ⟨⟨fault, hfault⟩, -⟩⟩ :=
    exists_hasSaved_of_saveAll hinput hout houtside hfolder hbelow h
  · rwa [List.append_nil]
  · cases hfault

/-! ## Every route file its own trace -/

/-- **Whether every route file has its own trace** at its output in the end. -/
def KeepsOwn (current : List String) (environment : String → Option String) (asked : Trace) (out : Path)
    (t : Tree) (routes : List (List String)) (after : Tree) : Prop :=
  ∀ names ∈ routes, ∃ text, textIn current environment asked t names = .ok text ∧
    after.find? current (output out names) = some (.file text)

/-- A list with something of a kind has something that is the last of the kind. -/
theorem exists_last {α : Type} {l : List α} {a : α} (kind : α → Prop) (ha : a ∈ l) (hkind : kind a) :
    ∃ before b later, l = before ++ b :: later ∧ kind b ∧ ∀ other ∈ later, ¬kind other := by
  induction l generalizing a with
  | nil => cases ha
  | cons first l ih =>
      by_cases hlater : ∃ other ∈ l, kind other
      · obtain ⟨other, hother, hkind'⟩ := hlater
        obtain ⟨before, b, later, rfl, hb⟩ := ih hother hkind'
        exact ⟨first :: before, b, later, rfl, hb⟩
      · have hnone : ∀ other ∈ l, ¬kind other := fun other hother h => hlater ⟨other, hother, h⟩
        obtain rfl | hmem := List.mem_cons.mp ha
        · exact ⟨[], a, l, rfl, hkind, hnone⟩
        · exact absurd hkind (hnone a hmem)

/-- **Every route file has its own trace in the end exactly when** no device is in the way and route files of
one name have one trace. -/
theorem HasSaved.keepsOwn_iff (h : HasSaved current environment asked out t routes after) :
    KeepsOwn current environment asked out t routes after ↔
      (∀ names ∈ routes, ∀ d, t.get? ((output out names).place current) ≠ some (.device d)) ∧
        ∀ a ∈ routes, ∀ b ∈ routes, a.getLastD "" = b.getLastD "" →
          textIn current environment asked t a = textIn current environment asked t b := by
  constructor
  · intro howns
    refine ⟨fun names hnames d hd => ?_, fun a ha b hb hname => ?_⟩
    · obtain ⟨text, -, hfile⟩ := howns names hnames
      obtain ⟨d', hd'⟩ := (h.device_iff _).mpr ⟨d, hd⟩
      cases (Tree.get?_place_of_find? hfile).symm.trans hd'
    · obtain ⟨text, htext, hfile⟩ := howns a ha
      obtain ⟨text', htext', hfile'⟩ := howns b hb
      rw [output, hname, ← output, hfile'] at hfile
      cases hfile
      rw [htext, htext']
  · rintro ⟨hdevices, hsame⟩ names hnames
    obtain ⟨before, last, later, hsplit, hname, hlater⟩ :=
      exists_last (fun other => other.getLastD "" = names.getLastD "") hnames rfl
    have hlast : last ∈ routes := by simp [hsplit]
    obtain ⟨text, htext⟩ := h.exists_text last hlast
    refine ⟨text, (hsame names hnames last hlast hname.symm).trans htext, ?_⟩
    rw [output, ← hname]
    exact h.find?_last before last later text hsplit (hname ▸ hlater) htext (hdevices last hlast)

/-- **Every run of the trace command on a folder** that succeeds has saved its route files. -/
theorem hasSaved_of_run {args : List String} {text : String}
    (hargs : ofArguments args = .ok (.trace asked)) (hout : asked.out = some out) (ht : t.WellFormed)
    (hroutes : on (routeFiles (Tree.host current environment) asked.input) t = (.ok routes, t))
    (houtside : ¬asked.input.place current <+: out.place current)
    (hrun : (Command.run (Tree.host current environment) args).run t = (.ok text, after)) :
    HasSaved current environment asked out t routes after := by
  obtain ⟨hinput, houts⟩ := text_ne_empty_of_ofArguments hargs
  obtain ⟨hfolder, hbelow⟩ := isBelow_of_routeFiles ht hinput hroutes
  refine hasSaved_of_saveAll hinput (houts out hout) houtside hfolder hbelow ?_
  rw [run_trace hargs] at hrun
  cases hload : (on (Environment.load (Tree.host current environment)) t).1 with
  | error fault =>
      rw [hload] at hrun
      cases (Prod.mk.inj hrun).1
  | ok known =>
      rw [hload] at hrun
      dsimp only at hrun
      rw [on_run_of_routeFiles hroutes, hout] at hrun
      obtain ⟨⟨⟩, t₁, hsave, hreturn⟩ := on_bind_eq_ok_iff.mp hrun
      obtain rfl : t₁ = after := congrArg Prod.snd hreturn
      exact hsave

/-- **A run that succeeds keeps the last trace of every name**, and so the own trace of every route file
unless there are different ones of one name. -/
theorem keepsOwn_iff_of_run {args : List String} {text : String}
    (hargs : ofArguments args = .ok (.trace asked)) (hout : asked.out = some out) (ht : t.WellFormed)
    (hroutes : on (routeFiles (Tree.host current environment) asked.input) t = (.ok routes, t))
    (houtside : ¬asked.input.place current <+: out.place current)
    (hrun : (Command.run (Tree.host current environment) args).run t = (.ok text, after)) :
    HasSaved current environment asked out t routes after ∧
      (KeepsOwn current environment asked out t routes after ↔
        (∀ names ∈ routes, ∀ d, t.get? ((output out names).place current) ≠ some (.device d)) ∧
          ∀ a ∈ routes, ∀ b ∈ routes, a.getLastD "" = b.getLastD "" →
            textIn current environment asked t a = textIn current environment asked t b) :=
  have hsaved := hasSaved_of_run hargs hout ht hroutes houtside hrun
  ⟨hsaved, hsaved.keepsOwn_iff⟩

/-! ## Route files of one name -/

/-- A folder with a route file of a single point. -/
def pointFolder (longitude : String) : Tree :=
  .folder [("r.json", .file
    ("\x7b\"instructions\":[\x7b\"sign\":4,\"points\":[[" ++ longitude ++ ",0]]\x7d]\x7d"))]

/-- Two folders with different route files of one name. -/
def namesakeFolders : List (String × Tree) := [("a", pointFolder "1"), ("b", pointFolder "2")]

/-- The tree with these folders in the input folder. -/
def namesakes : Tree := .folder [("in", .folder namesakeFolders)]

/-- The request to save their traces in one folder. -/
def namesakesRequest : Trace := ⟨⟨"in"⟩, some ⟨"out"⟩, none⟩

/-- Their route files. -/
def namesakesRoutes : List (List String) := [["a", "r.json"], ["b", "r.json"]]

/-- The arguments that make the request. -/
def namesakesArguments : List String := ["trace", "-i", "in", "-o", "out"]

/-- A host without variables in the root of all files. -/
abbrev rootHost : Host (StateM Tree) := Tree.host [] fun _ => none

theorem ofArguments_namesakes : ofArguments namesakesArguments = .ok (.trace namesakesRequest) := by
  with_unfolding_all rfl

theorem wellFormed_namesakes : namesakes.WellFormed := .of_isWellFormed (by decide)

theorem on_routeFiles_namesakes :
    on (routeFiles rootHost namesakesRequest.input) namesakes = (.ok namesakesRoutes, namesakes) := by
  have hfind : namesakes.find? [] namesakesRequest.input = some (.folder namesakeFolders) := rfl
  have hbelow : (Tree.filesIn namesakeFolders).filter (namesakesRequest.input.joinAll · |>.isUsable)
      = namesakesRoutes := by decide +kernel
  rw [on_routeFiles hfind, hbelow, sortedNames, List.mergeSort_of_pairwise (by decide)]
  rfl

theorem not_isPrefix_namesakes : ¬namesakesRequest.input.place [] <+: (⟨"out"⟩ : Path).place [] := by
  decide

theorem exists_run_namesakes :
    ∃ after, (Command.run rootHost namesakesArguments).run namesakes = (.ok "", after) := by
  have hload : (on (Environment.load rootHost) namesakes).1 = .ok [] := rfl
  have hout : namesakesRequest.out = some ⟨"out"⟩ := rfl
  have hsave : (on (saveAll rootHost namesakesRequest ⟨"out"⟩ namesakesRoutes) namesakes).1.isOk = true := by
    decide +kernel
  obtain ⟨after, hafter⟩ : ∃ after,
      on (saveAll rootHost namesakesRequest ⟨"out"⟩ namesakesRoutes) namesakes = (.ok (), after) := by
    generalize on (saveAll rootHost namesakesRequest ⟨"out"⟩ namesakesRoutes) namesakes = result at hsave ⊢
    obtain ⟨fault | ⟨⟩, after⟩ := result
    · cases hsave
    · exact ⟨after, rfl⟩
  refine ⟨after, ?_⟩
  rw [run_trace ofArguments_namesakes, hload]
  dsimp only
  rw [on_run_of_routeFiles on_routeFiles_namesakes, hout]
  exact on_bind_eq_ok_iff.mpr ⟨(), after, hafter, rfl⟩

theorem keepsOwn_iff_namesakes :
    ofArguments namesakesArguments = .ok (.trace namesakesRequest) ∧
      namesakesRequest.out = some ⟨"out"⟩ ∧ namesakes.WellFormed ∧
      on (routeFiles rootHost namesakesRequest.input) namesakes = (.ok namesakesRoutes, namesakes) ∧
      ¬namesakesRequest.input.place [] <+: (⟨"out"⟩ : Path).place [] ∧
      ∃ after, (Command.run rootHost namesakesArguments).run namesakes = (.ok "", after) ∧
        HasSaved [] (fun _ => none) namesakesRequest ⟨"out"⟩ namesakes namesakesRoutes after ∧
        (KeepsOwn [] (fun _ => none) namesakesRequest ⟨"out"⟩ namesakes namesakesRoutes after ↔
          (∀ names ∈ namesakesRoutes, ∀ d,
              namesakes.get? ((output ⟨"out"⟩ names).place []) ≠ some (.device d)) ∧
            ∀ a ∈ namesakesRoutes, ∀ b ∈ namesakesRoutes, a.getLastD "" = b.getLastD "" →
              textIn [] (fun _ => none) namesakesRequest namesakes a
                = textIn [] (fun _ => none) namesakesRequest namesakes b) := by
  obtain ⟨after, hrun⟩ := exists_run_namesakes
  exact ⟨ofArguments_namesakes, rfl, wellFormed_namesakes, on_routeFiles_namesakes,
    not_isPrefix_namesakes, after, hrun,
    keepsOwn_iff_of_run ofArguments_namesakes rfl wellFormed_namesakes on_routeFiles_namesakes
      not_isPrefix_namesakes hrun⟩

/-- **Not every route file keeps its own trace**: of two route files of one name in different folders only the
second does, though the run succeeds. -/
theorem not_keepsOwn_namesakes :
    ofArguments namesakesArguments = .ok (.trace namesakesRequest) ∧
      namesakesRequest.out = some ⟨"out"⟩ ∧ namesakes.WellFormed ∧
      on (routeFiles rootHost namesakesRequest.input) namesakes = (.ok namesakesRoutes, namesakes) ∧
      ¬namesakesRequest.input.place [] <+: (⟨"out"⟩ : Path).place [] ∧
      ∃ after, (Command.run rootHost namesakesArguments).run namesakes = (.ok "", after) ∧
        ¬KeepsOwn [] (fun _ => none) namesakesRequest ⟨"out"⟩ namesakes namesakesRoutes after := by
  obtain ⟨after, hrun⟩ := exists_run_namesakes
  have hsaved := hasSaved_of_run ofArguments_namesakes rfl wellFormed_namesakes on_routeFiles_namesakes
    not_isPrefix_namesakes hrun
  refine ⟨ofArguments_namesakes, rfl, wellFormed_namesakes, on_routeFiles_namesakes,
    not_isPrefix_namesakes, after, hrun, fun howns => ?_⟩
  have hdiffer : (textIn [] (fun _ => none) namesakesRequest namesakes ["a", "r.json"]).toOption
      ≠ (textIn [] (fun _ => none) namesakesRequest namesakes ["b", "r.json"]).toOption := by
    decide +kernel
  have hsame := (hsaved.keepsOwn_iff.mp howns).2 ["a", "r.json"] (by decide) ["b", "r.json"] (by decide) rfl
  exact hdiffer (congrArg Except.toOption hsame)

end TurnByTurn.Command.Trace
