import TurnByTurn.Proofs.Command.Outputs
import TurnByTurn.Proofs.Command.RouteFiles

/-! # Route files without a trace

When one of the route files in the scope of the trace command has no trace, the command fails. It prints nothing
then. Without an output folder, and for a single file, it leaves everything as it was; with one it has saved no
traces but those of the route files before the first that has none.

* **`Tree.shown`**, **`standardOutput`** — the standard output.
* **`Trace.InScope`** — the route files that the command is about.
* **`Trace.traced`** — those before the first without a trace.
* **`Trace.FailsCleanly`** — what a failure leaves behind.
* **`Trace.failsCleanly_of_run`** — every failure for want of a trace does. -/

namespace TurnByTurn

/-! ## Standard output -/

/-- The place of the standard output. -/
def Tree.outputPlace : List String := ["dev", "stdout"]

/-- **What was written to the standard output.** -/
def Tree.shown (t : Tree) : String :=
  match t.get? outputPlace with
  | some (.device (.output text)) => text
  | _ => ""

/-- The standard output shows the same where the same is in its place. -/
theorem Tree.shown_congr {t t' : Tree}
    (h : ∀ d, t'.get? outputPlace = some (.device d) ↔ t.get? outputPlace = some (.device d)) :
    t'.shown = t.shown := by
  unfold shown
  split
  · rename_i text htext
    rw [(h _).mp htext]
  · rename_i hnone
    split
    · rename_i text htext
      exact absurd ((h _).mpr htext) (hnone text)
    · rfl

namespace Command

/-- **The standard output in the end**: what was written to it, and then what the command prints. -/
def standardOutput (result : Except Fault String) (after : Tree) : String :=
  after.shown ++ result.toOption.getD ""

namespace Trace

variable {current : List String} {environment : String → Option String} {asked : Trace} {out : Path}
  {t t' after : Tree} {names : List String} {routes done : List (List String)}

/-! ## Scope -/

/-- **The route files that the command is about**: the input itself, or those below it. -/
inductive InScope (current : List String) (environment : String → Option String) (asked : Trace) (t : Tree) :
    List (List String) → Prop
  | file (h : t.isFileAt current asked.input = true) : InScope current environment asked t [[]]
  | folder {routes : List (List String)}
      (h : on (routeFiles (Tree.host current environment) asked.input) t = (.ok routes, t)) :
      InScope current environment asked t routes

/-- **The route files before the first without a trace.** -/
def traced (current : List String) (environment : String → Option String) (asked : Trace) (t : Tree)
    (routes : List (List String)) : List (List String) :=
  routes.takeWhile fun names => (textIn current environment asked t names).isOk

/-- **What a run leaves behind that goes no further than some route files**: their outputs, and no more. They are
all those before the first without a trace, if the variables could be loaded and each output could be written. -/
structure StopsAfter (current : List String) (environment : String → Option String) (asked : Trace)
    (out : Path) (t : Tree) (routes done : List (List String)) (after : Tree) : Prop where
  hasSaved : HasSaved current environment asked out t done after
  isPrefix : done <+: traced current environment asked t routes
  complete : (on (Environment.load (Tree.host current environment)) t).1.isOk = true →
    done = traced current environment asked t routes ∨
      ∃ next text cause, done ++ [next] <+: traced current environment asked t routes ∧
        textIn current environment asked t next = .ok text ∧
          after.write current (output out next) text = .error cause

/-- **What a failure leaves behind**: the command fails and prints nothing, it changes nothing if it is about a single
file or without an output folder, and else it has saved route files before the first without a trace. -/
structure FailsCleanly (current : List String) (environment : String → Option String) (asked : Trace)
    (t : Tree) (routes : List (List String)) (result : Except Fault String) (after : Tree) : Prop where
  exists_fault : ∃ fault, result = .error fault
  silent : standardOutput result after = t.shown
  unchanged : t.isFileAt current asked.input = true ∨ asked.out = none → after = t
  saved : ∀ out, asked.out = some out → t.isFileAt current asked.input = false →
    ∃ done, StopsAfter current environment asked out t routes done after

/-! ## Saving some of the route files -/

/-- Route files that were saved before the others are before the first without a trace. -/
theorem traced_append (hdone : ∀ names ∈ done, ∃ text, textIn current environment asked t names = .ok text)
    (rest : List (List String)) :
    traced current environment asked t (done ++ rest) = done ++ traced current environment asked t rest := by
  refine List.takeWhile_append_of_pos fun names hnames => ?_
  obtain ⟨text, htext⟩ := hdone names hnames
  rw [htext]
  rfl

/-- **A run that gets stuck** has saved what is before. -/
theorem HasSaved.stopsAfter (h : HasSaved current environment asked out t done after) {later : List (List String)}
    (hstuck : Stuck current environment asked out t after names) :
    StopsAfter current environment asked out t (done ++ names :: later) done after := by
  have htraced := traced_append h.exists_text (names :: later)
  refine ⟨h, ?_, fun _ => ?_⟩
  · rw [htraced]
    exact List.prefix_append _ _
  · cases hstuck with
    | untraced huntraced =>
        refine Or.inl ?_
        rw [htraced, traced, List.takeWhile_cons_of_neg (by simp [huntraced]), List.append_nil]
    | unwritten htext hwrite =>
        refine Or.inr ⟨names, _, _, ?_, htext, hwrite⟩
        rw [htraced, traced, List.takeWhile_cons_of_pos (by rw [htext]; rfl)]
        exact (List.prefix_append_right_inj done).mpr ⟨_, rfl⟩

/-- Saving route files writes nothing to the standard output. -/
theorem HasSaved.shown_eq (h : HasSaved current environment asked out t done after) (hout : out.text ≠ "")
    (hbelow : ∀ names ∈ done, IsBelow current asked t names)
    (hnames : ∀ names ∈ done, IsRouteName (names.getLastD "")) : after.shown = t.shown := by
  refine Tree.shown_congr fun d => h.keeps.get?_eq_some_iff ?_ (Tree.isLeaf_device d)
  rintro ⟨names, hmem, hplace⟩
  rw [(hbelow names hmem).place_output hout] at hplace
  have hlast : "stdout" = names.getLastD "" := by
    have := congrArg List.getLast? hplace
    simpa [Tree.outputPlace] using this
  exact absurd (hlast ▸ hnames names hmem) (by decide : ¬IsRouteName "stdout")

/-! ## Runs -/

/-- A file that has no trace is traced with a fault. -/
theorem on_ofFile_of_untraced (h : (textIn current environment asked t names).isOk = false) :
    ∃ fault, on (ofFile (Tree.host current environment) asked (asked.input.joinAll names)) t
      = (.error fault, t) := by
  rw [(reads_ofFile environment asked).on_eq]
  rw [textIn] at h
  cases htrace : (on (ofFile (Tree.host current environment) asked (asked.input.joinAll names)) t).1 with
  | error fault => exact ⟨fault, rfl⟩
  | ok trace =>
      rw [htrace] at h
      cases h

/-- **Collecting the traces of route files changes nothing**, and fails if one has none. -/
theorem on_rows (h : ∃ names ∈ routes, (textIn current environment asked t names).isOk = false) :
    ∃ fault, on (rows (Tree.host current environment) asked routes) t = (.error fault, t) := by
  induction routes with
  | nil => simp at h
  | cons names routes ih =>
      rw [rows, on_bind]
      by_cases hfirst : (textIn current environment asked t names).isOk = false
      · obtain ⟨fault, hfault⟩ := on_ofFile_of_untraced hfirst
        rw [hfault]
        exact ⟨fault, rfl⟩
      · obtain ⟨other, hother, huntraced⟩ := h
        obtain rfl | hlater := List.mem_cons.mp hother
        · exact absurd huntraced hfirst
        · obtain ⟨fault, hfault⟩ := ih ⟨other, hlater, huntraced⟩
          rw [(reads_ofFile environment asked).on_eq]
          cases (on (ofFile (Tree.host current environment) asked (asked.input.joinAll names)) t).1 with
          | error fault => exact ⟨fault, rfl⟩
          | ok trace =>
              dsimp only
              rw [on_bind, hfault]
              exact ⟨fault, rfl⟩

/-- A single file without a trace. -/
theorem on_run_of_file (hfile : t.isFileAt current asked.input = true)
    (h : (textIn current environment asked t []).isOk = false) :
    ∃ fault, on (asked.run (Tree.host current environment)) t = (.error fault, t) := by
  obtain ⟨fault, hfault⟩ := on_ofFile_of_untraced h
  rw [Path.joinAll_nil] at hfault
  rw [on_run_of_isFileAt hfile, on_bind, hfault]
  exact ⟨fault, rfl⟩

/-- Route files below a folder of which one has no trace, without an output folder. -/
theorem on_run_of_rows (hout : asked.out = none)
    (hroutes : on (routeFiles (Tree.host current environment) asked.input) t = (.ok routes, t))
    (h : ∃ names ∈ routes, (textIn current environment asked t names).isOk = false) :
    ∃ fault, on (asked.run (Tree.host current environment)) t = (.error fault, t) := by
  obtain ⟨fault, hfault⟩ := on_rows h
  rw [on_run_of_routeFiles hroutes, hout]
  dsimp only
  rw [on_bind, hfault]
  exact ⟨fault, rfl⟩

/-- **A failure that changes nothing**, for a single file or without an output folder. -/
theorem FailsCleanly.of_unchanged (fault : Fault)
    (hsaved : ∀ out, asked.out = some out → t.isFileAt current asked.input = false →
      ∃ done, StopsAfter current environment asked out t routes done t) :
    FailsCleanly current environment asked t routes (.error fault) t where
  exists_fault := ⟨fault, rfl⟩
  silent := String.append_empty
  unchanged _ := rfl
  saved := hsaved

/-- **A failure with an output folder** leaves the traces of route files before the first without one. -/
theorem failsCleanly_of_out {result : Except Fault String} (ht : t.WellFormed) (hinput : asked.input.text ≠ "")
    (hout : asked.out = some out) (htext : out.text ≠ "")
    (houtside : ¬asked.input.place current <+: out.place current)
    (hroutes : on (routeFiles (Tree.host current environment) asked.input) t = (.ok routes, t))
    (hfails : ∃ names ∈ routes, (textIn current environment asked t names).isOk = false)
    (hrun : on (asked.run (Tree.host current environment)) t = (result, after)) :
    FailsCleanly current environment asked t routes result after := by
  obtain ⟨hfolder, hbelow⟩ := isBelow_of_routeFiles ht hinput hroutes
  have hnames := isRouteName_of_routeFiles hroutes
  have hfile := isFileAt_of_routeFiles hroutes
  rw [on_run_of_routeFiles hroutes, hout] at hrun
  dsimp only at hrun
  rw [on_bind] at hrun
  cases hsave : on (saveAll (Tree.host current environment) asked out routes) t with
  | mk saved t₁ =>
      rw [hsave] at hrun
      obtain ⟨done, rest, rfl, hsaved, ⟨rfl, -⟩ | ⟨⟨fault, rfl⟩, names, later, rfl, hstuck⟩⟩ :=
        exists_hasSaved_of_saveAll hinput htext houtside hfolder hbelow hsave
      · -- all were saved, so all have a trace
        obtain ⟨names, hmem, huntraced⟩ := hfails
        rw [List.append_nil] at hmem
        obtain ⟨text, hok⟩ := hsaved.exists_text names hmem
        rw [hok] at huntraced
        cases huntraced
      · obtain ⟨rfl, rfl⟩ := Prod.mk.inj hrun
        have hdone (other : List String) (hother : other ∈ done) : other ∈ done ++ names :: later :=
          List.mem_append_left _ hother
        refine ⟨⟨fault, rfl⟩, ?_, ?_, ?_⟩
        · have hshown := hsaved.shown_eq htext (fun other hother => hbelow other (hdone other hother))
            fun other hother => hnames other (hdone other hother)
          exact String.append_empty.trans hshown
        · rintro (h | h)
          · rw [hfile] at h
            cases h
          · rw [hout] at h
            cases h
        · intro out' hout' _
          obtain rfl : out = out' := Option.some.inj (hout.symm.trans hout')
          exact ⟨done, hsaved.stopsAfter hstuck⟩

/-- **A failure for want of a trace** leaves only the traces of route files before the first without one. -/
theorem failsCleanly_of_run {args : List String} {result : Except Fault String}
    (hargs : ofArguments args = .ok (.trace asked)) (ht : t.WellFormed)
    (hscope : InScope current environment asked t routes)
    (hfails : ∃ names ∈ routes, (textIn current environment asked t names).isOk = false)
    (houtside : ∀ out, asked.out = some out →
      t.isFileAt current asked.input = true ∨ ¬asked.input.place current <+: out.place current)
    (hrun : (Command.run (Tree.host current environment) args).run t = (result, after)) :
    FailsCleanly current environment asked t routes result after := by
  rw [run_trace hargs] at hrun
  cases hload : (on (Environment.load (Tree.host current environment)) t).1 with
  | error fault =>
      -- no route file is looked at without the variables
      rw [hload] at hrun
      obtain ⟨rfl, rfl⟩ := Prod.mk.inj hrun
      refine .of_unchanged fault fun out _ _ => ⟨[], .nil (.refl _ _), List.nil_prefix, ?_⟩
      rw [hload]
      exact nofun
  | ok known =>
      rw [hload] at hrun
      dsimp only at hrun
      cases hscope with
      | file hfile =>
          obtain ⟨names, hnames, huntraced⟩ := hfails
          obtain rfl := List.mem_singleton.mp hnames
          obtain ⟨fault, hfault⟩ := on_run_of_file hfile huntraced
          rw [hfault] at hrun
          obtain ⟨rfl, rfl⟩ := Prod.mk.inj hrun
          refine .of_unchanged fault fun out _ hnone => ?_
          rw [hfile] at hnone
          cases hnone
      | folder hroutes =>
          obtain ⟨hinput, htext⟩ := text_ne_empty_of_ofArguments hargs
          cases hout : asked.out with
          | none =>
              obtain ⟨fault, hfault⟩ := on_run_of_rows hout hroutes hfails
              rw [hfault] at hrun
              obtain ⟨rfl, rfl⟩ := Prod.mk.inj hrun
              refine .of_unchanged fault fun out hsome _ => ?_
              rw [hout] at hsome
              cases hsome
          | some out =>
              have hplace : ¬asked.input.place current <+: out.place current := by
                obtain h | h := houtside out hout
                · rw [isFileAt_of_routeFiles hroutes] at h
                  cases h
                · exact h
              exact failsCleanly_of_out ht hinput hout (htext out hout) hplace hroutes hfails hrun

/-! ## An empty route file -/

/-- A folder with a route file of a single point and an empty one. -/
def emptyLastFolder : List (String × Tree) :=
  [("a.json", .file "\x7b\"instructions\":[\x7b\"sign\":4,\"points\":[[1,0]]\x7d]\x7d"),
    ("b.json", .file "")]

/-- The tree with this folder as the input folder. -/
def emptyLast : Tree := .folder [("in", .folder emptyLastFolder)]

/-- Its route files. -/
def emptyLastRoutes : List (List String) := [["a.json"], ["b.json"]]

theorem wellFormed_emptyLast : emptyLast.WellFormed := .of_isWellFormed (by decide)

theorem on_routeFiles_emptyLast :
    on (routeFiles rootHost namesakesRequest.input) emptyLast = (.ok emptyLastRoutes, emptyLast) := by
  have hfind : emptyLast.find? [] namesakesRequest.input = some (.folder emptyLastFolder) := rfl
  have hbelow : (Tree.filesIn emptyLastFolder).filter (namesakesRequest.input.joinAll · |>.isUsable)
      = emptyLastRoutes := by decide +kernel
  rw [on_routeFiles hfind, hbelow, sortedNames, List.mergeSort_of_pairwise (by decide)]
  rfl

theorem failsCleanly_of_run_emptyLast :
    ofArguments namesakesArguments = .ok (.trace namesakesRequest) ∧ emptyLast.WellFormed ∧
      InScope [] (fun _ => none) namesakesRequest emptyLast emptyLastRoutes ∧
      (∃ names ∈ emptyLastRoutes, (textIn [] (fun _ => none) namesakesRequest emptyLast names).isOk = false) ∧
      (∀ out, namesakesRequest.out = some out →
        emptyLast.isFileAt [] namesakesRequest.input = true ∨
          ¬namesakesRequest.input.place [] <+: out.place []) ∧
      ∃ result after, (Command.run rootHost namesakesArguments).run emptyLast = (result, after) ∧
        FailsCleanly [] (fun _ => none) namesakesRequest emptyLast emptyLastRoutes result after := by
  have hfails : ∃ names ∈ emptyLastRoutes,
      (textIn [] (fun _ => none) namesakesRequest emptyLast names).isOk = false :=
    ⟨["b.json"], by decide, by decide +kernel⟩
  have houtside : ∀ out, namesakesRequest.out = some out →
      emptyLast.isFileAt [] namesakesRequest.input = true ∨
        ¬namesakesRequest.input.place [] <+: out.place [] := by
    intro out hout
    obtain rfl : (⟨"out"⟩ : Path) = out := Option.some.inj hout
    exact Or.inr not_isPrefix_namesakes
  exact ⟨ofArguments_namesakes, wellFormed_emptyLast, .folder on_routeFiles_emptyLast, hfails, houtside, _, _, rfl,
    failsCleanly_of_run ofArguments_namesakes wellFormed_emptyLast (.folder on_routeFiles_emptyLast) hfails
      houtside rfl⟩

/-- The route file that is in order is the first. -/
example : traced [] (fun _ => none) namesakesRequest emptyLast emptyLastRoutes = [["a.json"]] := by
  decide +kernel

end Trace

end Command

end TurnByTurn
