import TurnByTurn.Command.Run
import TurnByTurn.Proofs.Files.Writes

/-! # What commands do to a tree

On a tree of files a command either comes to a result or fails, and leaves a tree behind. Routes and
variables are only read; what the trace command writes is written by `saveTrace` alone.

* **`Command.on`** — what a command does to a tree.
* **`Command.FailsOnly`** — a command that fails for one reason only.
* **`Command.Reads`** — a command that looks at one thing of the tree and changes nothing.
* **`Trace.reads_ofFile`** — the trace of a file is that of its text.
* **`Command.settings?`** — the text of the settings that are found.
* **`Command.reads_load_environment`** — the variables are those of this text.
* **`Trace.on_routeFiles`** — the route files below a folder.
* **`written_of_saveTrace`** — what saving a trace changes.
* **`run_trace`**, **`Trace.on_run_of_isFileAt`**, **`Trace.on_run_of_routeFiles`** — what a trace command does in the
end. -/

namespace TurnByTurn.Command

variable {α β : Type} {current : List String} {environment : String → Option String} {t t' : Tree}
  {p : Path}

/-! ## Steps -/

/-- **What a command does to a tree**: what comes out of it, and the tree that it leaves. -/
def on (x : ExceptT Fault (StateM Tree) α) (t : Tree) : Except Fault α × Tree := x.run t

/-- A result that is there changes nothing. -/
@[simp] theorem on_pure (a : α) (t : Tree) : on (pure a) t = (.ok a, t) := rfl

/-- A fault changes nothing. -/
@[simp] theorem on_throw (fault : Fault) (t : Tree) :
    on (throw fault : ExceptT Fault (StateM Tree) α) t = (.error fault, t) := rfl

/-- An operation of the host cannot fail by itself. -/
@[simp] theorem on_liftM (x : StateM Tree α) (t : Tree) :
    on (liftM x) t = (.ok (x.run t).1, (x.run t).2) := rfl

/-- The first of two steps decides on what the second one is done. -/
theorem on_bind (x : ExceptT Fault (StateM Tree) α) (f : α → ExceptT Fault (StateM Tree) β) (t : Tree) :
    on (x >>= f) t = match on x t with
      | (.ok a, t') => on (f a) t'
      | (.error fault, t') => (.error fault, t') := by
  change (x >>= f).run.run t = match x.run.run t with
      | (.ok a, t') => (f a).run.run t'
      | (.error fault, t') => (.error fault, t')
  rw [ExceptT.run_bind, StateT.run_bind]
  change (match x.run.run t with | (r, t') => _) = _
  obtain ⟨_ | _, t'⟩ := x.run.run t <;> rfl

/-- After a first step that succeeds the second one is done. -/
theorem on_bind_of_ok {x : ExceptT Fault (StateM Tree) α} {a : α} (h : on x t = (.ok a, t'))
    (f : α → ExceptT Fault (StateM Tree) β) : on (x >>= f) t = on (f a) t' := by
  rw [on_bind, h]

/-- **Two steps succeed when both do.** -/
theorem on_bind_eq_ok_iff {x : ExceptT Fault (StateM Tree) α} {f : α → ExceptT Fault (StateM Tree) β}
    {b : β} : on (x >>= f) t = (.ok b, t') ↔ ∃ a t₁, on x t = (.ok a, t₁) ∧ on (f a) t₁ = (.ok b, t') := by
  rw [on_bind]
  obtain ⟨result, t₁⟩ := on x t
  cases result with
  | error fault => simp
  | ok a => simp

/-! ## Failing -/

/-- **A command that fails for one reason only.** -/
def FailsOnly (cause : Fault) (x : ExceptT Fault (StateM Tree) α) : Prop :=
  ∀ t t' fault, on x t = (.error fault, t') → fault = cause

namespace FailsOnly

variable {cause : Fault}

/-- A result that is there does not fail. -/
theorem of_pure (a : α) : FailsOnly cause (pure a) := fun _ _ _ => nofun

/-- An operation of the host does not fail. -/
theorem of_liftM (x : StateM Tree α) : FailsOnly cause (liftM x) := fun _ _ _ => nofun

/-- A fault fails for its own reason. -/
theorem of_throw : FailsOnly cause (throw cause : ExceptT Fault (StateM Tree) α) := by
  intro t t' fault h
  rw [on_throw] at h
  exact (Except.error.inj (Prod.mk.inj h).1).symm

/-- Two steps fail when one of them does. -/
theorem bind {x : ExceptT Fault (StateM Tree) α} {f : α → ExceptT Fault (StateM Tree) β}
    (hx : FailsOnly cause x) (hf : ∀ a, FailsOnly cause (f a)) : FailsOnly cause (x >>= f) := by
  intro t t' fault h
  rw [on_bind] at h
  cases hresult : on x t with
  | mk result t₁ =>
      rw [hresult] at h
      cases result with
      | ok a => exact hf a t₁ t' fault h
      | error first =>
          obtain ⟨hfirst, -⟩ := Prod.mk.inj h
          exact hx t t₁ fault (hresult.trans (by rw [Except.error.inj hfirst]))

end FailsOnly

/-! ## Reading -/

/-- **A command that looks at one thing of the tree** and at nothing else, and changes nothing. -/
def Reads {σ : Type} (look : Tree → σ) (x : ExceptT Fault (StateM Tree) α) : Prop :=
  ∃ result : σ → Except Fault α, ∀ t, on x t = (result (look t), t)

namespace Reads

variable {σ : Type} {look : Tree → σ}

/-- A result that is there looks at nothing. -/
theorem of_pure (a : α) : Reads look (pure a) := ⟨fun _ => .ok a, on_pure a⟩

/-- A fault looks at nothing. -/
theorem of_throw (fault : Fault) : Reads look (throw fault : ExceptT Fault (StateM Tree) α) :=
  ⟨fun _ => .error fault, on_throw fault⟩

/-- Reading the text at a path looks at it. -/
theorem of_read (environment : String → Option String) :
    Reads (·.read? current p) (liftM ((Tree.host current environment).read p)) := ⟨Except.ok, on_liftM _⟩

/-- Two steps that look at one thing do so together. -/
theorem bind {x : ExceptT Fault (StateM Tree) α} {f : α → ExceptT Fault (StateM Tree) β}
    (hx : Reads look x) (hf : ∀ a, Reads look (f a)) : Reads look (x >>= f) := by
  obtain ⟨first, hfirst⟩ := hx
  choose second hsecond using hf
  refine ⟨fun seen => (first seen).bind fun a => second a seen, fun t => ?_⟩
  rw [on_bind, hfirst]
  cases hresult : first (look t) with
  | error fault => simp [hresult, Except.bind]
  | ok a => simp [hresult, Except.bind, hsecond]

variable {x : ExceptT Fault (StateM Tree) α}

/-- Reading leaves the tree as it is. -/
theorem on_eq (h : Reads look x) (t : Tree) : on x t = ((on x t).1, t) := by
  obtain ⟨result, hresult⟩ := h
  rw [hresult]

/-- Where the same is seen, the same comes out. -/
theorem on_fst_congr (h : Reads look x) (hlook : look t = look t') : (on x t).1 = (on x t').1 := by
  obtain ⟨result, hresult⟩ := h
  rw [hresult, hresult, hlook]

end Reads

/-- The route of a file is that of its text. -/
theorem reads_load (environment : String → Option String) :
    Reads (·.read? current p) (load (Tree.host current environment) p) := by
  refine (Reads.of_read environment).bind fun text => ?_
  cases text with
  | none => exact .of_throw _
  | some text =>
      dsimp only
      cases RouteFile.read text with
      | error fault => exact .of_throw _
      | ok file =>
          dsimp only
          cases file.route .greatCircle with
          | error error => exact .of_throw _
          | ok route => exact .of_pure route

/-- **The trace of a file is that of its text.** -/
theorem Trace.reads_ofFile (environment : String → Option String) (asked : Trace) :
    Reads (·.read? current p) (ofFile (Tree.host current environment) asked p) := by
  refine (reads_load environment).bind fun route => ?_
  cases timed asked.start route with
  | error fault => exact .of_throw _
  | ok samples => exact .of_pure _

/-! ## Variables -/

/-- Variables are looked up without a look at the tree. -/
theorem value?_eq (known : Environment) (name : String) :
    Environment.value? (Tree.host current environment) known name
      = pure ((environment name).or (known.lookup name)) := by
  have hlookup : (Tree.host current environment).lookup name = pure (environment name) := rfl
  rw [Environment.value?, hlookup, pure_bind]
  cases environment name <;> rfl

/-- What a reference means is found without a look at the tree. -/
theorem exists_referent?_eq (current : List String) (environment : String → Option String)
    (known : Environment) (reference : List Char) :
    ∃ value, Environment.referent? (Tree.host current environment) known reference = pure value := by
  simp only [Environment.referent?, value?_eq, pure_bind]
  cases (environment (.ofList (reference.takeWhile (· ≠ '=')))).or
      (known.lookup (.ofList (reference.takeWhile (· ≠ '=')))) with
  | none => exact ⟨none, rfl⟩
  | some value => exact ⟨_, rfl⟩

/-- The text of a value is put together without a look at the tree. -/
theorem exists_expand_eq (current : List String) (environment : String → Option String)
    (known : Environment) (parts : List Settings.Part) :
    ∃ value, Environment.expand (Tree.host current environment) known parts = pure value := by
  induction parts with
  | nil => exact ⟨[], rfl⟩
  | cons part parts ih =>
      obtain ⟨rest, hrest⟩ := ih
      cases part with
      | character c => exact ⟨c :: rest, by rw [Environment.expand, hrest, pure_bind]⟩
      | reference name =>
          obtain ⟨value, hvalue⟩ := exists_referent?_eq current environment known name
          exact ⟨value.getD [] ++ rest, by rw [Environment.expand, hvalue, hrest, pure_bind, pure_bind]⟩

/-- Variables are bound without a look at the tree. -/
theorem reads_bind {σ : Type} {look : Tree → σ} (known : Environment) (bindings : List Settings.Binding) :
    Reads look (Environment.bind (Tree.host current environment) known bindings) := by
  induction bindings generalizing known with
  | nil => exact .of_pure known
  | cons b bindings ih =>
      rw [Environment.bind, value?_eq]
      refine (Reads.of_pure _).bind fun value => ?_
      cases value with
      | some value => exact ih known
      | none =>
          obtain ⟨value, hvalue⟩ := exists_expand_eq current environment known b.value
          dsimp only
          rw [hvalue]
          refine (Reads.of_pure value).bind fun value => ?_
          split_ifs
          · refine (Reads.of_throw .unsettable).bind fun _ => ?_
            exact ih _
          · exact ih _

/-- **The text of the settings that are found**: of the nearest file, in the current folder or above it. -/
def settings? (current : List String) (t : Tree) : Option String :=
  (((Environment.settingsPaths current).takeWhile (·.isUsable)).find? (t.isFileAt current)).bind
    (t.read? current)

/-- A look at a path whether a file is there changes nothing. -/
theorem run_isFile (p : Path) (t : Tree) :
    ((Tree.host current environment).isFile p).run t = (t.isFileAt current p, t) := rfl

/-- The first file at some paths is looked for from the first path on. -/
theorem run_firstText? (paths : List Path) (t : Tree) :
    (Environment.firstText? (Tree.host current environment) paths).run t
      = (((paths.takeWhile (·.isUsable)).find? (t.isFileAt current)).bind (t.read? current), t) := by
  induction paths with
  | nil => rfl
  | cons p paths ih =>
      rw [Environment.firstText?]
      cases husable : p.isUsable with
      | false =>
          rw [List.takeWhile_cons_of_neg (by simp [husable])]
          rfl
      | true =>
          rw [List.takeWhile_cons_of_pos husable, Bool.not_true, if_neg Bool.false_ne_true,
            StateT.run_bind, run_isFile]
          change (if t.isFileAt current p then _ else _ : StateM Tree (Option String)).run t = _
          cases hfile : t.isFileAt current p with
          | false => rw [if_neg Bool.false_ne_true, ih, List.find?_cons_of_neg (by simp [hfile])]
          | true =>
              rw [if_pos rfl, List.find?_cons_of_pos hfile]
              rfl

/-- **The variables are those of the text of the settings.** -/
theorem reads_load_environment (environment : String → Option String) :
    Reads (settings? current) (Environment.load (Tree.host current environment)) := by
  have hcurrent : (liftM (Tree.host current environment).current : ExceptT Fault (StateM Tree) _)
      = pure (some current) := rfl
  have hfirst : Reads (settings? current)
      (liftM (Environment.firstText? (Tree.host current environment) (Environment.settingsPaths current))) := by
    refine ⟨Except.ok, fun t => ?_⟩
    rw [on_liftM, run_firstText?]
    rfl
  rw [Environment.load, hcurrent, pure_bind]
  refine hfirst.bind fun text => ?_
  cases text with
  | none => exact .of_pure []
  | some text => exact reads_bind [] (Settings.bindings text)

/-- Bindings are refused only if one of them cannot be set. -/
theorem failsOnly_bind {host : Host (StateM Tree)} (known : Environment) (bindings : List Settings.Binding) :
    FailsOnly .unsettable (Environment.bind host known bindings) := by
  induction bindings generalizing known with
  | nil => exact .of_pure known
  | cons b bindings ih =>
      rw [Environment.bind]
      refine (FailsOnly.of_liftM _).bind fun value => ?_
      cases value with
      | some value => exact ih known
      | none =>
          refine (FailsOnly.of_liftM _).bind fun value => ?_
          split_ifs
          · exact FailsOnly.of_throw.bind fun _ => ih _
          · exact ih _

/-- **Variables are refused only if one of them cannot be set.** -/
theorem failsOnly_load_environment {host : Host (StateM Tree)} :
    FailsOnly .unsettable (Environment.load host) := by
  rw [Environment.load]
  refine (FailsOnly.of_liftM _).bind fun found => ?_
  cases found with
  | none => exact .of_pure []
  | some current =>
      refine (FailsOnly.of_liftM _).bind fun text => ?_
      cases text with
      | none => exact .of_pure []
      | some text => exact failsOnly_bind [] (Settings.bindings text)

/-! ## Route files -/

namespace Trace

/-- **The route files below a folder**: those whose names end in `.json`, in the order of their names. -/
theorem on_routeFiles {folder : Path} {entries : List (String × Tree)}
    (h : t.find? current folder = some (.folder entries)) :
    on (routeFiles (Tree.host current environment) folder) t
      = (.ok ((sortedNames ((Tree.filesIn entries).filter (folder.joinAll · |>.isUsable))).filter
          fun names => extension? (names.getLastD "") = some "json"), t) := by
  have hfiles : ((Tree.host current environment).filesBelow folder).run t
      = (some ((Tree.filesIn entries).filter (folder.joinAll · |>.isUsable)), t) := by
    simp only [Tree.host, StateT.run_bind, StateT.run_get, pure_bind, h]
    rfl
  rw [routeFiles, on_bind, on_liftM, hfiles]
  rfl

/-- What is no folder has no route files. -/
theorem exists_folder_of_routeFiles {folder : Path} {routes : List (List String)}
    (h : on (routeFiles (Tree.host current environment) folder) t = (.ok routes, t')) :
    ∃ entries, t.find? current folder = some (.folder entries) := by
  by_contra hnone
  have hfiles : ((Tree.host current environment).filesBelow folder).run t = (none, t) := by
    simp only [Tree.host, StateT.run_bind, StateT.run_get, pure_bind]
    split
    · rename_i entries hentries
      exact absurd ⟨entries, hentries⟩ hnone
    · rfl
  rw [routeFiles, on_bind, on_liftM, hfiles] at h
  cases h

end Trace

/-! ## Saving -/

/-- A write that fails leaves the folders that were made for it. -/
theorem run_write (text : String) :
    ((Tree.host current environment).write p text).run t
      = match t.write current p text with
        | .ok t' => (none, t')
        | .error fault => (some fault, t.prepare current p) := by
  simp only [Tree.host, StateT.run_bind, StateT.run_get, pure_bind]
  cases t.write current p text <;> rfl

/-- A trace that can be written is saved. -/
theorem on_saveTrace {trace : Json.Value} (hwrite : t.write current p trace.pretty = .ok t') :
    on (saveTrace (Tree.host current environment) p trace) t = (.ok (), t') := by
  rw [saveTrace, on_bind, on_liftM, run_write, hwrite]
  rfl

/-- A trace that cannot be written is not saved, but may be so small that it needs no room. -/
theorem on_saveTrace_of_error (environment : String → Option String) {trace : Json.Value}
    {cause : WriteFault} (hwrite : t.write current p trace.pretty = .error cause) :
    cause = .full ∧ on (saveTrace (Tree.host current environment) p trace) t
        = (.ok (), t.prepare current p) ∨
      on (saveTrace (Tree.host current environment) p trace) t
        = (.error .inaccessible, t.prepare current p) := by
  rw [saveTrace, on_bind, on_liftM, run_write, hwrite]
  dsimp only
  cases cause with
  | unreachable => exact Or.inr rfl
  | full =>
      dsimp only
      split_ifs
      · exact Or.inr rfl
      · exact Or.inl ⟨rfl, rfl⟩

/-- **A trace that was saved was written**, unless a device had no room for it. -/
theorem written_of_saveTrace {trace : Json.Value}
    (hbegin : p.segments.length = 1 → t.IsFolder (p.origin current))
    (h : on (saveTrace (Tree.host current environment) p trace) t = (.ok (), t')) :
    Tree.Written current p trace.pretty t t' := by
  cases hwrite : t.write current p trace.pretty with
  | ok t₁ =>
      rw [on_saveTrace hwrite] at h
      obtain ⟨-, rfl⟩ := Prod.mk.inj h
      exact Tree.written_of_write hbegin hwrite
  | error cause =>
      obtain ⟨rfl, hsave⟩ | hsave := on_saveTrace_of_error environment hwrite
      · rw [hsave] at h
        obtain ⟨-, rfl⟩ := Prod.mk.inj h
        obtain ⟨d, hd⟩ := Tree.exists_device_of_write hbegin hwrite
        exact .of_device hd _ (Tree.keeps_prepare t current p)
      · rw [hsave] at h
        cases (Prod.mk.inj h).1

/-- **A trace that was not saved changed nothing**, though folders may have been made for it: it could not be
written, and still cannot. -/
theorem unwritten_of_saveTrace {trace : Json.Value} {fault : Fault}
    (h : on (saveTrace (Tree.host current environment) p trace) t = (.error fault, t')) :
    Tree.Keeps (fun _ => False) t t' ∧ ∃ cause, t'.write current p trace.pretty = .error cause := by
  cases hwrite : t.write current p trace.pretty with
  | ok t₁ =>
      rw [on_saveTrace hwrite] at h
      cases (Prod.mk.inj h).1
  | error cause =>
      obtain ⟨-, hsave⟩ | hsave := on_saveTrace_of_error environment hwrite
      · rw [hsave] at h
        cases (Prod.mk.inj h).1
      · rw [hsave] at h
        obtain ⟨-, rfl⟩ := Prod.mk.inj h
        exact ⟨Tree.keeps_prepare t current p, cause, (Tree.write_prepare t current p _).trans hwrite⟩

/-! ## Running -/

/-- **The trace command is run when the variables are loaded**, and not at all when they cannot be. -/
theorem run_trace {args : List String} {asked : Trace} (h : ofArguments args = .ok (.trace asked)) (t : Tree) :
    (run (Tree.host current environment) args).run t
      = match (on (Environment.load (Tree.host current environment)) t).1 with
        | .ok _ => on (asked.run (Tree.host current environment)) t
        | .error fault => (.error fault, t) := by
  have hsteps : (run (Tree.host current environment) args).run t
      = on (do
          let _ ← Environment.load (Tree.host current environment)
          asked.run (Tree.host current environment)) t := by
    rw [run, h]
    rfl
  rw [hsteps, on_bind, (reads_load_environment environment).on_eq]
  cases (on (Environment.load (Tree.host current environment)) t).1 <;> rfl

/-- A folder of route files is no file. -/
theorem Trace.isFileAt_of_routeFiles {folder : Path} {routes : List (List String)}
    (hroutes : on (routeFiles (Tree.host current environment) folder) t = (.ok routes, t')) :
    t.isFileAt current folder = false := by
  obtain ⟨entries, hentries⟩ := exists_folder_of_routeFiles hroutes
  rw [Tree.isFileAt, hentries]

/-- **A single file is traced**, and then the trace is saved or printed. -/
theorem Trace.on_run_of_isFileAt {asked : Trace} (hfile : t.isFileAt current asked.input = true) :
    on (asked.run (Tree.host current environment)) t
      = on (do
          let trace ← ofFile (Tree.host current environment) asked asked.input
          match asked.out with
          | some out =>
              saveTrace (Tree.host current environment) out trace
              return ""
          | none => return trace.pretty ++ "\n") t := by
  rw [run, on_bind, on_liftM, run_isFile, hfile]
  rfl

/-- **The traces of all route files below a folder** are saved one by one, or printed together. -/
theorem Trace.on_run_of_routeFiles {asked : Trace} {routes : List (List String)}
    (hroutes : on (routeFiles (Tree.host current environment) asked.input) t = (.ok routes, t)) :
    on (asked.run (Tree.host current environment)) t
      = on (match asked.out with
          | some out => do
              saveAll (Tree.host current environment) asked out routes
              return ""
          | none => return (Json.Value.array (← rows (Tree.host current environment) asked routes)).pretty ++ "\n")
          t := by
  rw [run, on_bind, on_liftM, run_isFile, isFileAt_of_routeFiles hroutes]
  dsimp only
  rw [if_neg Bool.false_ne_true]
  exact on_bind_of_ok hroutes _

end TurnByTurn.Command
